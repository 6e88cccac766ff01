-- SUMMARY: Each of the fifteen operations follows the protocol and tells the outcome of its own request.
import WinShell.Concurrent.Provider

/-!
# The operations follow the protocol

An operation passes through a few views: its IRP is ready, the provider owns the
request, the request is complete, the IRP is freed, the frame is gone. There is
one rule for each step between them. The body of an operation is then checked
along its branches, with the completion arriving at any point after the
submission.
-/

namespace WinShell

open Effect Trace

namespace Concurrent

variable {α : Type} {c : Contract} {Q : α → View → Prop} {frame irp : Nat} {mdl : Option Nat}
  {req : Request} {status : NtStatus} {information : ULongPtr} {call : WskCall}

/-! ## The views of an operation -/

/-- The IRP and the event are ready. -/
def ready (frame irp : Nat) (mdl : Option Nat) : View where
  frame := some frame
  event := true
  irp := some irp
  armed := true
  mdl := mdl

/-- The provider owns the request. -/
def outstanding (frame irp : Nat) (mdl : Option Nat) (req : Request) : View :=
  { ready frame irp mdl with stage := .owned req }

/-- The request is complete. -/
def completed (frame irp : Nat) (mdl : Option Nat) (req : Request) (status : NtStatus)
    (information : ULongPtr) : View :=
  { ready frame irp mdl with stage := .done req status information }

/-- The operation has returned, and perhaps left its MDL. -/
def returned (mdl : Option Nat) (req : Request) (status : NtStatus) (information : ULongPtr) :
    View where
  mdl := mdl
  stage := .done req status information

/-! ## Rules -/

/-- Nothing follows a completion routine set on a null IRP. -/
theorem follows_null {v : View} {completion : Completion} {f : Unit → Win α} (hfails : c.Fails)
    (hv : IsMax v) :
    (@Prog.exec winKernel α (.ioSetCompletionRoutine none completion) f).Follows (protocol c) Q
      v := by
  refine .exec hv (.inl ⟨hfails, rfl⟩) ?_
  rintro _ _ ⟨hsome, -⟩
  cases hsome

/-- Nothing follows the build of a null MDL. -/
theorem follows_nullMdl {v : View} {f : Unit → Win α} (hfails : c.Fails) (hv : IsMax v) :
    (@Prog.exec winKernel α (.mmBuildMdlForNonPagedPool none) f).Follows (protocol c) Q v := by
  refine .exec hv (.inl ⟨hfails, rfl⟩) ?_
  rintro _ _ ⟨hsome, -⟩
  cases hsome

/-- Entering the frame and setting up the IRP. An operation that gets none does
not come past the completion routine. -/
theorem follows_prepare {f : Nat → PIrp → Win α}
    (h : ∀ frame irp, (f frame (some irp)).Follows (protocol c) Q (ready frame irp none)) :
    (@Prog.exec winKernel α .pushFrame fun frame =>
      .exec .ioAllocateIrp fun irp =>
      .exec (.keInitializeEvent ⟨frame, .event⟩ .notificationEvent false) fun _ =>
      .exec (.ioSetCompletionRoutine irp ⟨⟨frame, .event⟩, true, true, true⟩) fun _ =>
      f frame irp).Follows (protocol c) Q View.blank := by
  refine .exec (View.isMax rfl) ⟨rfl, rfl⟩ ?_
  rintro frame _ rfl
  refine .exec (View.isMax rfl) ⟨rfl, rfl⟩ ?_
  rintro _ _ (⟨irp, rfl, rfl⟩ | ⟨hfails, rfl, rfl⟩)
  · refine .exec (View.isMax rfl) ⟨rfl, rfl, rfl, rfl⟩ ?_
    rintro _ _ rfl
    refine .exec (View.isMax rfl) (.inr ⟨rfl, rfl, rfl, frame, rfl, rfl, rfl⟩) ?_
    rintro _ _ ⟨-, rfl⟩
    exact h frame irp
  · refine .exec (View.isMax rfl) ⟨rfl, rfl, rfl, rfl⟩ ?_
    rintro _ _ rfl
    exact follows_null hfails (View.isMax rfl)

/-- The same, with an MDL. -/
theorem follows_prepareData {f : Nat → PIrp → PMdl → Win α} {data : PVoid} {dataSize : ULong}
    (h : ∀ frame irp m,
      (f frame (some irp) (some m)).Follows (protocol c) Q (ready frame irp (some m))) :
    (@Prog.exec winKernel α .pushFrame fun frame =>
      .exec .ioAllocateIrp fun irp =>
      .exec (.ioAllocateMdl data dataSize) fun mdl =>
      .exec (.mmBuildMdlForNonPagedPool mdl) fun _ =>
      .exec (.keInitializeEvent ⟨frame, .event⟩ .notificationEvent false) fun _ =>
      .exec (.ioSetCompletionRoutine irp ⟨⟨frame, .event⟩, true, true, true⟩) fun _ =>
      f frame irp mdl).Follows (protocol c) Q View.blank := by
  refine .exec (View.isMax rfl) ⟨rfl, rfl⟩ ?_
  rintro frame _ rfl
  refine .exec (View.isMax rfl) ⟨rfl, rfl⟩ ?_
  rintro _ _ (⟨irp, rfl, rfl⟩ | ⟨hfails, rfl, rfl⟩)
  · refine .exec (View.isMax rfl) ⟨rfl, rfl⟩ ?_
    rintro _ _ (⟨m, rfl, rfl⟩ | ⟨hfails, rfl, rfl⟩)
    · refine .exec (View.isMax rfl) (.inr ⟨rfl, rfl, rfl⟩) ?_
      rintro _ _ ⟨-, rfl⟩
      refine .exec (View.isMax rfl) ⟨rfl, rfl, rfl, rfl⟩ ?_
      rintro _ _ rfl
      refine .exec (View.isMax rfl) (.inr ⟨rfl, rfl, rfl, frame, rfl, rfl, rfl⟩) ?_
      rintro _ _ ⟨-, rfl⟩
      exact h frame irp m
    · exact follows_nullMdl hfails (View.isMax rfl)
  · refine .exec (View.isMax rfl) ⟨rfl, rfl⟩ ?_
    rintro _ _ (⟨m, rfl, rfl⟩ | ⟨-, rfl, rfl⟩)
    · refine .exec (View.isMax rfl) (.inr ⟨rfl, rfl, rfl⟩) ?_
      rintro _ _ ⟨-, rfl⟩
      refine .exec (View.isMax rfl) ⟨rfl, rfl, rfl, rfl⟩ ?_
      rintro _ _ rfl
      exact follows_null hfails (View.isMax rfl)
    · exact follows_nullMdl hfails (View.isMax rfl)

/-- Where an outstanding request may have come meanwhile. -/
theorem of_outstanding_le {v : View} (h : outstanding frame irp mdl req ≤ v) :
    v = outstanding frame irp mdl req ∨
      ∃ status information, v = completed frame irp mdl req status information := by
  obtain rfl | ⟨req', status, information, howned, rfl⟩ := h
  · exact .inl rfl
  · cases howned
    exact .inr ⟨status, information, rfl⟩

/-- A provider call. It returns `STATUS_PENDING`, with the request still
outstanding or complete meanwhile, or something else, with the request complete. -/
theorem follows_callProvider {f : NtStatus → Win α}
    (hrefs : ∀ ref ∈ call.refs, ref.frame = frame) (hmdl : ∀ m, call.mdl = some m → mdl = some m)
    (hpending : ∀ req, (f statusPending).Follows (protocol c) Q (outstanding frame irp mdl req))
    (hinline : ∀ req returned final information, c.Inline returned final →
      returned ≠ statusPending →
      (f returned).Follows (protocol c) Q (completed frame irp mdl req final information)) :
    (@Prog.exec winKernel α (.submit call (some irp)) fun _ =>
      .exec (.callReturn (some irp)) f).Follows (protocol c) Q (ready frame irp mdl) := by
  refine .exec (View.isMax rfl) ⟨rfl, rfl, rfl, rfl, ⟨frame, rfl, hrefs⟩, hmdl⟩ ?_
  rintro _ _ ⟨req, rfl⟩
  refine .exec_of_forall ?_
  intro v hv
  obtain rfl | ⟨final, information, rfl⟩ := of_outstanding_le hv
  · refine ⟨⟨rfl, rfl, fun h => nomatch h⟩, ?_⟩
    rintro status _ ⟨rfl, rfl | ⟨_, _, _, hdone, -⟩⟩
    · exact hpending req
    · cases hdone
  · refine ⟨⟨rfl, rfl, fun h => nomatch h⟩, ?_⟩
    rintro status _ ⟨rfl, hstatus⟩
    rcases eq_or_ne status statusPending with rfl | hne
    · exact (hpending req).of_le hv
    · obtain rfl | ⟨_, _, _, ⟨⟩, hr⟩ := hstatus
      · exact absurd rfl hne
      · exact hinline req status final information hr hne

/-- The wait ends with the request complete, whenever that happens. -/
theorem follows_wait {f : Unit → Win α}
    (h : ∀ status information,
      (f ()).Follows (protocol c) Q (completed frame irp mdl req status information)) :
    (@Prog.exec winKernel α (.keWaitForSingleObject ⟨frame, .event⟩) f).Follows (protocol c) Q
      (outstanding frame irp mdl req) := by
  refine .exec_of_forall ?_
  intro v hv
  obtain rfl | ⟨status, information, rfl⟩ := of_outstanding_le hv
  · refine ⟨⟨rfl, rfl⟩, ?_⟩
    rintro _ _ ⟨rfl, hdone⟩
    cases hdone
  · refine ⟨⟨rfl, rfl⟩, ?_⟩
    rintro _ _ ⟨rfl, -⟩
    exact h status information

theorem follows_ioStatusStatus {f : NtStatus → Win α}
    (h : (f status).Follows (protocol c) Q (completed frame irp mdl req status information)) :
    (@Prog.exec winKernel α (.ioStatusStatus (some irp)) f).Follows (protocol c) Q
      (completed frame irp mdl req status information) := by
  refine .exec (View.isMax rfl) ⟨rfl, rfl, rfl⟩ ?_
  rintro r _ ⟨rfl, hr⟩
  rwa [hr req status information rfl]

theorem follows_ioStatusInformation {f : ULongPtr → Win α}
    (h : (f information).Follows (protocol c) Q
      (completed frame irp mdl req status information)) :
    (@Prog.exec winKernel α (.ioStatusInformation (some irp)) f).Follows (protocol c) Q
      (completed frame irp mdl req status information) := by
  refine .exec (View.isMax rfl) ⟨rfl, rfl, rfl⟩ ?_
  rintro r _ ⟨rfl, hr⟩
  rwa [hr req status information rfl]

theorem follows_readResult {f : SockAddr → Win α}
    (h : ∀ adress, (f adress).Follows (protocol c) Q
      (completed frame irp mdl req status information)) :
    (@Prog.exec winKernel α (.readResult ⟨frame, .result⟩) f).Follows (protocol c) Q
      (completed frame irp mdl req status information) := by
  refine .exec (View.isMax rfl) ⟨rfl, rfl⟩ ?_
  rintro adress _ rfl
  exact h adress

theorem follows_ioFreeMdl {m : Nat} {f : Unit → Win α}
    (h : (f ()).Follows (protocol c) Q (completed frame irp none req status information)) :
    (@Prog.exec winKernel α (.ioFreeMdl (some m)) f).Follows (protocol c) Q
      (completed frame irp (some m) req status information) := by
  refine .exec (View.isMax rfl) ⟨rfl, rfl, rfl⟩ ?_
  rintro _ _ rfl
  exact h

/-- The end of every operation: the IRP and the frame go. -/
theorem follows_end {a : α} (h : Q a (returned mdl req status information)) :
    (@Prog.exec winKernel α (.ioFreeIrp (some irp)) fun _ =>
      .exec (.popFrame frame) fun _ => .ret a).Follows (protocol c) Q
      (completed frame irp mdl req status information) := by
  refine .exec (View.isMax rfl) ⟨rfl, rfl, rfl⟩ ?_
  rintro _ _ rfl
  refine .exec (View.isMax rfl) ⟨rfl, rfl, rfl⟩ ?_
  rintro _ _ rfl
  exact .ret (View.isMax rfl) h

/-! ## Bodies -/

/-- The status is the final one, or the one that the call returned inline. -/
def Reported (c : Contract) (status final : NtStatus) : Prop :=
  status = final ∨ status ≠ statusPending ∧ c.Inline status final

/-- The operation has returned, its request ended, and the outcome satisfies `P`. -/
def Ends (P : NtStatus → ULongPtr → Prop) (v : View) : Prop :=
  ∃ mdl req final information, v = returned mdl req final information ∧ P final information

theorem Ends.intro {P : NtStatus → ULongPtr → Prop} (h : P status information) :
    Ends P (returned mdl req status information) :=
  ⟨_, _, _, _, rfl, h⟩

theorem follows_requestStatus {call : Nat → WskCall}
    (hrefs : ∀ frame, ∀ ref ∈ (call frame).refs, ref.frame = frame)
    (hmdl : ∀ frame, (call frame).mdl = none) :
    (Utils.requestStatus call).Follows (protocol c)
      (fun status => Ends fun final _ => Reported c status final) View.blank := by
  simp [Utils.requestStatus, inFrame, callProvider]
  refine follows_prepare fun frame irp => ?_
  refine follows_callProvider (hrefs frame) (by simp [hmdl]) ?_ ?_
  · intro req
    simp only [if_true]
    refine follows_wait fun final information => ?_
    refine follows_ioStatusStatus ?_
    exact follows_end (.intro (.inl rfl))
  · intro req returned final information hinline hne
    simp only [hne, if_false]
    exact follows_end (.intro (.inr ⟨hne, hinline⟩))

theorem follows_closeSocket {sock : PWskSocket} :
    (Utils.closeSocket sock).Follows (protocol c) (fun _ => Ends fun _ _ => True) View.blank := by
  simp [Utils.closeSocket, inFrame, callProvider]
  refine follows_prepare fun frame irp => ?_
  refine follows_callProvider (fun _ href => nomatch href) (fun _ hm => nomatch hm) ?_ ?_
  · intro req
    simp only [if_true]
    refine follows_wait fun final information => ?_
    refine follows_ioStatusStatus ?_
    exact follows_end (.intro trivial)
  · intro req returned final information hinline hne
    simp only [hne, if_false]
    exact follows_end (.intro trivial)

/-- A creator reports the status, and after a success the handle it stored. -/
def ReportedHandle (c : Contract) (result : NtStatus × PWskSocket) (final : NtStatus)
    (information : ULongPtr) : Prop :=
  Reported c result.1 final ∧ (ntSuccess result.1 = true → result.2 = information)

theorem follows_createSocket {call : WskCall} {sock : PWskSocket} (hrefs : call.refs = [])
    (hmdl : call.mdl = none) :
    (Utils.createSocket call sock).Follows (protocol c)
      (fun result => Ends (ReportedHandle c result)) View.blank := by
  simp [Utils.createSocket, inFrame, callProvider]
  refine follows_prepare fun frame irp => ?_
  refine follows_callProvider (by simp [hrefs]) (by simp [hmdl]) ?_ ?_
  · intro req
    simp only [if_true]
    refine follows_wait fun final information => ?_
    refine follows_ioStatusStatus ?_
    split
    · next hs =>
      exact follows_end (.intro ⟨.inl rfl, fun h => by rw [hs] at h; cases h⟩)
    · refine follows_ioStatusInformation ?_
      exact follows_end (.intro ⟨.inl rfl, fun _ => rfl⟩)
  · intro req returned final information hinline hne
    simp only [hne, if_false]
    refine follows_ioStatusInformation ?_
    exact follows_end (.intro ⟨.inr ⟨hne, hinline⟩, fun _ => rfl⟩)

theorem follows_createConnectionSocket {npi : WskProviderNpi} {sock : PWskSocket} :
    (Utils.createConnectionSocket npi sock).Follows (protocol c)
      (fun result => Ends (ReportedHandle c result)) View.blank := by
  simp [Utils.createConnectionSocket, inFrame, callProvider]
  refine follows_prepare fun frame irp => ?_
  refine follows_callProvider (fun _ href => nomatch href) (fun _ hm => nomatch hm) ?_ ?_
  · intro req
    simp only [ntSuccess_statusPending, if_true, Bool.true_eq_false, if_false]
    refine follows_wait fun final information => ?_
    refine follows_ioStatusStatus ?_
    split
    · next hs =>
      exact follows_end (.intro ⟨.inl rfl, fun h => by rw [hs] at h; cases h⟩)
    · refine follows_ioStatusInformation ?_
      exact follows_end (.intro ⟨.inl rfl, fun _ => rfl⟩)
  · intro req returned final information hinline hne
    simp only [hne, if_false]
    split
    · next hs =>
      exact follows_end
        (.intro ⟨.inr ⟨hne, hinline⟩, fun h => by rw [hs] at h; cases h⟩)
    · refine follows_ioStatusInformation ?_
      exact follows_end (.intro ⟨.inr ⟨hne, hinline⟩, fun _ => rfl⟩)

/-- A data call refers to its frame and to the MDL of its buffer. -/
structure RefersToBuffer (call : Nat → WskBuf → WskCall) : Prop where
  refs : ∀ frame buffer, ∀ ref ∈ (call frame buffer).refs, ref.frame = frame
  mdl : ∀ frame buffer, (call frame buffer).mdl = buffer.mdl

theorem follows_sendData {call : Nat → WskBuf → WskCall} {data : PVoid} {dataSize : ULong}
    (h : RefersToBuffer call) :
    (Utils.sendData call data dataSize).Follows (protocol c)
      (fun status => Ends fun final _ => Reported c status final) View.blank := by
  simp [Utils.sendData, inFrame, callProvider]
  refine follows_prepareData fun frame irp m => ?_
  refine follows_callProvider (h.refs frame _) (by simp [h.mdl]) ?_ ?_
  · intro req
    simp only [ntSuccess_statusPending, if_true, Bool.true_eq_false, if_false]
    refine follows_wait fun final information => ?_
    refine follows_ioStatusStatus ?_
    split
    · exact follows_end (.intro (.inl rfl))
    · refine follows_ioStatusInformation ?_
      exact follows_end (.intro (.inl rfl))
  · intro req returned final information hinline hne
    simp only [hne, if_false]
    split
    · refine follows_ioFreeMdl ?_
      exact follows_end (.intro (.inr ⟨hne, hinline⟩))
    · refine follows_ioStatusInformation ?_
      exact follows_end (.intro (.inr ⟨hne, hinline⟩))

theorem follows_getDataConnectionSocket {sock : PWskSocket} {data : PVoid} {dataSize : ULong} :
    (Utils.getDataConnectionSocket sock data dataSize).Follows (protocol c)
      (fun status => Ends fun final _ => Reported c status final) View.blank := by
  simp [Utils.getDataConnectionSocket, inFrame, callProvider]
  refine follows_prepareData fun frame irp m => ?_
  refine follows_callProvider (by simp [WskCall.refs]) (by simp [WskCall.mdl]) ?_ ?_
  · intro req
    simp only [if_true]
    refine follows_wait fun final information => ?_
    refine follows_ioStatusStatus ?_
    split
    · exact follows_end (.intro (.inl rfl))
    · refine follows_ioStatusInformation ?_
      exact follows_end (.intro (.inl rfl))
  · intro req returned final information hinline hne
    simp only [hne, if_false]
    split
    · refine follows_ioFreeMdl ?_
      exact follows_end (.intro (.inr ⟨hne, hinline⟩))
    · refine follows_ioStatusInformation ?_
      exact follows_end (.intro (.inr ⟨hne, hinline⟩))

theorem follows_getDataDatagramSocket {sock : PWskSocket} {data : PVoid} {dataSize : ULong} :
    (Utils.getDataDatagramSocket sock data dataSize).Follows (protocol c)
      (fun status => Ends fun final _ => Reported c status final) View.blank := by
  simp [Utils.getDataDatagramSocket, inFrame, callProvider]
  refine follows_prepareData fun frame irp m => ?_
  refine follows_callProvider (by simp [WskCall.refs]) (by simp [WskCall.mdl]) ?_ ?_
  · intro req
    simp only [if_true]
    refine follows_wait fun final information => ?_
    refine follows_ioStatusStatus ?_
    split
    · exact follows_end (.intro (.inl rfl))
    · refine follows_ioStatusInformation ?_
      exact follows_end (.intro (.inl rfl))
  · intro req returned final information hinline hne
    simp only [hne, if_false]
    refine follows_ioStatusInformation ?_
    exact follows_end (.intro (.inr ⟨hne, hinline⟩))

theorem follows_convertStringToAdress {npi : WskProviderNpi} {adress : Endpoint} :
    (Utils.convertStringToAdress npi adress).Follows (protocol c)
      (fun _ => Ends fun _ _ => True) View.blank := by
  simp [Utils.convertStringToAdress, inFrame, callProvider]
  refine follows_prepare fun frame irp => ?_
  refine follows_callProvider (by simp [WskCall.refs]) (by simp [WskCall.mdl]) ?_ ?_
  · intro req
    simp only [if_true]
    refine follows_wait fun final information => ?_
    refine follows_ioStatusStatus ?_
    split
    · exact follows_end (.intro trivial)
    · refine follows_readResult fun resolved => ?_
      exact follows_end (.intro trivial)
  · intro req returned final information hinline hne
    simp only [hne, if_false]
    refine follows_readResult fun resolved => ?_
    exact follows_end (.intro trivial)

/-! ## Operations -/

/-- What an operation returns, against the outcome of its request. -/
def Tells (c : Contract) (op : Operation) (outcome : Outcome) (final : NtStatus)
    (information : ULongPtr) : Prop :=
  outcome.ntStatus.isSome = op.returnsStatus ∧
    (∀ status, outcome.ntStatus = some status → Reported c status final) ∧
    ∀ status sock, outcome = .created status sock → ntSuccess status = true → sock = information

theorem tells_of_none {op : Operation} {outcome : Outcome} (hop : op.returnsStatus = false)
    (h : outcome.ntStatus = none) : Tells c op outcome status information := by
  refine ⟨by rw [h, hop]; rfl, ?_, ?_⟩
  · intro s hs
    rw [h] at hs
    cases hs
  · rintro s sock rfl
    cases h

/-- An operation that returns the status that its body returns. -/
theorem follows_status {op : Operation} {p : Win NtStatus} (hop : op.returnsStatus = true)
    (h : p.Follows (protocol c) (fun status => Ends fun final _ => Reported c status final)
      View.blank) :
    (Outcome.status <$> p).Follows (protocol c) (fun outcome => Ends (Tells c op outcome))
      View.blank := by
  rw [map_eq_pure_bind]
  refine .bind (h.mono ?_)
  rintro status _ ⟨mdl, req, final, information, rfl, hstatus⟩
  refine .ret (View.isMax rfl) (.intro ⟨hop.symm, ?_, ?_⟩)
  · rintro _ ⟨⟩
    exact hstatus
  · rintro _ _ ⟨⟩

/-- An operation that stores a handle. -/
theorem follows_created {op : Operation} {p : Win (NtStatus × PWskSocket)}
    (hop : op.returnsStatus = true)
    (h : p.Follows (protocol c) (fun result => Ends (ReportedHandle c result)) View.blank) :
    (p >>= fun result => Prog.ret (Outcome.created result.1 result.2)).Follows (protocol c)
      (fun outcome => Ends (Tells c op outcome)) View.blank := by
  refine .bind (h.mono ?_)
  rintro result _ ⟨mdl, req, final, information, rfl, hstatus, hhandle⟩
  refine .ret (View.isMax rfl) (.intro ⟨hop.symm, ?_, ?_⟩)
  · rintro _ ⟨⟩
    exact hstatus
  · rintro _ _ ⟨⟩
    exact hhandle

/-- The fifteen operations follow the protocol. -/
theorem follows_execute (c : Contract) (op : Operation) :
    op.execute.Follows (protocol c) (fun outcome => Ends (Tells c op outcome)) View.blank := by
  cases op with
  | convertStringToAdress npi adress =>
    refine .bind (follows_convertStringToAdress.mono ?_)
    rintro resolved _ ⟨mdl, req, final, information, rfl, -⟩
    exact .ret (View.isMax rfl) (.intro (tells_of_none rfl rfl))
  | closeSocket sock =>
    refine .bind (follows_closeSocket.mono ?_)
    rintro _ _ ⟨mdl, req, final, information, rfl, -⟩
    exact .ret (View.isMax rfl) (.intro (tells_of_none rfl rfl))
  | createConnectionSocket npi sock => exact follows_created rfl follows_createConnectionSocket
  | createDatagramSocket npi sock => exact follows_created rfl (follows_createSocket rfl rfl)
  | createListeningSocket npi sock => exact follows_created rfl (follows_createSocket rfl rfl)
  | bindConnectionSocket sock | bindDatagramSocket sock | bindListenerSocket sock
  | disconnectConnectionSocket sock | connectConnectionSocket sock adress
  | acceptConnection sock =>
    refine follows_status rfl (follows_requestStatus ?_ fun _ => rfl)
    simp [WskCall.refs]
  | sendDataConnectionSocket sock data dataSize =>
    exact follows_status rfl (follows_sendData ⟨by simp [WskCall.refs], fun _ _ => rfl⟩)
  | sendDataDatagramSocket sock data dataSize adress =>
    exact follows_status rfl (follows_sendData ⟨by simp [WskCall.refs], fun _ _ => rfl⟩)
  | getDataConnectionSocket sock data dataSize =>
    exact follows_status rfl follows_getDataConnectionSocket
  | getDataDatagramSocket sock data dataSize =>
    exact follows_status rfl follows_getDataDatagramSocket

end Concurrent

end WinShell
