-- SUMMARY: What the senders hand to the provider as payload, and what a transfer that fell short is reported as.
import WinShell.Lifecycle.Address
import WinShell.Lifecycle.Mdl

/-!
# Transfers

A connection socket passes the size of its data down to the buffer descriptor
and the MDL. A datagram socket is given no size and passes that of the pointer.

On the way back, the check on the transferred length never fires, so a transfer
is reported as the provider reported it.
-/

namespace WinShell

open Effect Sockets

/-! ## The payload -/

/-- The buffer of a call that sends data. -/
def WskCall.sent : WskCall → Option WskBuf
  | .wskSend _ buffer _ | .wskSendTo _ buffer _ _ => some buffer
  | _ => none

/-- The buffer describes the `n` bytes from `data` on, and no others. -/
structure Describes (k : Kernel) (buffer : WskBuf) (data : PVoid) (n : ULong) : Prop where
  offset : buffer.offset = 0#32
  length : buffer.length = n.setWidth 64
  covers : ∃ m mdl, buffer.mdl = some m ∧ k.mdls.get m = some mdl ∧
    mdl.startVa = data ∧ mdl.byteCount = n ∧ mdl.built = true

namespace Sequential

variable {α : Type} {env : Surroundings} {k k' : Kernel} {this : Socket} {method : Method}
  {data : PVoid} {m n : ULong} {adress : Endpoint}

/-- The buffers that a run hands to `WskSend` and `WskSendTo`, each with the kernel
that the provider finds. -/
def presented (env : Surroundings) (p : Win α) (k : Kernel) : List (WskBuf × Kernel) :=
  (submissions env p k).filterMap fun submission =>
    submission.1.sent.map fun buffer => (buffer, submission.2)

/-- Every buffer that a run hands over describes the payload. -/
def Presents (env : Surroundings) (p : Win α) (k : Kernel) (data : PVoid) (n : ULong) : Prop :=
  ∀ x ∈ presented env p k, Describes x.2 x.1 data n

/-- What a sender hands over when it asks for `m` bytes from `data` on. -/
def presentation (k : Kernel) (data : PVoid) (m : ULong) : WskBuf × Kernel :=
  (bufferOf k m, prepared (withMdl k data m))

theorem describes_presentation_iff :
    Describes (presentation k data m).2 (presentation k data m).1 data n ↔ m = n := by
  have hget : (prepared (withMdl k data m)).mdls.get k.mdls.next =
      some { startVa := data, byteCount := m, built := true } :=
    Heap.get_push_next
  constructor
  · intro h
    obtain ⟨p, mdl, hp, hmdl, -, hcount, -⟩ := h.covers
    cases hp
    cases hget.symm.trans hmdl
    exact hcount
  · rintro rfl
    exact ⟨rfl, rfl, _, _, rfl, hget, rfl, rfl, rfl⟩

theorem presented_sendData {call : Nat → WskBuf → WskCall}
    (hcall : ∀ frame buffer, (call frame buffer).sent = some buffer) :
    presented env (Utils.sendData call data m) k =
      if env.Serves k.allocs 2 then [presentation k data m] else [] := by
  rw [presented, submissions_sendData]
  split
  · simp [hcall, presentation]
  · rfl

theorem presented_sendData_method :
    presented env (Method.invoke this (.sendData data n)) k =
      if env.Serves k.allocs 2 then [presentation k data n] else [] := by
  have hinvoke : presented env (Method.invoke this (.sendData data n)) k =
      presented env (Utils.sendDataConnectionSocket this.sock data n) k :=
    congrArg (List.filterMap _) (submissions_map _ _)
  rw [hinvoke]
  exact presented_sendData fun _ _ => rfl

/-- The datagram sender hands over as many bytes as a pointer has. -/
theorem presented_sendDatagram_method (hq : k.requests = []) :
    ∃ k', presented env (Method.invoke this (.sendDatagram data adress)) k =
      if env.Serves k.allocs 3 then [presentation k' data DatagramSocket.sizeofData] else [] := by
  let send (a : SockAddr) : Win NtStatus :=
    Utils.sendDataDatagramSocket this.sock data DatagramSocket.sizeofData a
  have hrest : ∀ a k', (submissions env
      (throwOnFailure "utils::SendDataDatagramSocket" <$> send a) k').filterMap
      (fun submission => submission.1.sent.map fun buffer => (buffer, submission.2)) =
      if env.Serves k'.allocs 2 then [presentation k' data DatagramSocket.sizeofData] else [] := by
    intro a k'
    rw [submissions_map]
    exact presented_sendData fun _ _ => rfl
  exact filterMap_submissions_resolve hq rfl hrest

theorem presents_sendData : Presents env (Method.invoke this (.sendData data n)) k data n := by
  intro x hx
  rw [presented_sendData_method] at hx
  split at hx
  · obtain rfl := List.mem_singleton.mp hx
    exact describes_presentation_iff.mpr rfl
  · cases hx

/-- Both transports hand over the payload of `n` bytes exactly when it is as long as
a pointer, or when the pool refuses the datagram socket an allocation, so that it
hands over nothing. -/
theorem payload_presented_iff (stream datagram : Socket) (data : PVoid) (n : ULong)
    (adress : Endpoint) (hq : k.requests = []) :
    (Presents env (Method.invoke stream (.sendData data n)) k data n ∧
      Presents env (Method.invoke datagram (.sendDatagram data adress)) k data n) ↔
    n = DatagramSocket.sizeofData ∨ ¬env.Serves k.allocs 3 := by
  obtain ⟨k', hpresented⟩ :=
    @presented_sendDatagram_method env k datagram data adress hq
  rw [and_iff_right presents_sendData, Presents, hpresented]
  by_cases hs : env.Serves k.allocs 3
  · rw [if_pos hs, List.forall_mem_singleton, describes_presentation_iff]
    simp [hs, eq_comm]
  · simp [hs]

/-- A provider that grants everything, resolves every name to one host, and reports
that nothing was transferred. -/
def idlePeer : Surroundings where
  respond n := ⟨⟨statusSuccess, if n < 4 then BitVec.ofNat 64 n else 0#64, [host4]⟩, false⟩
  allocate _ := true
  garbage _ := SockAddr.zero

/-- A connection socket and a datagram socket under that provider. -/
def streaming : Option Objects × Kernel := start idlePeer [.construct .connectionSocket 0 storage]
def messaging : Option Objects × Kernel := start idlePeer [.construct .datagramSocket 0 storage]

theorem payload_presented_iff_messaging :
    (Presents idlePeer (Method.invoke unconnected (.sendData 4096#64 5#32)) messaging.2 4096#64 5#32 ∧
      Presents idlePeer (Method.invoke unconnected (.sendDatagram 4096#64 nowhere)) messaging.2
        4096#64 5#32) ↔
    5#32 = DatagramSocket.sizeofData ∨ ¬idlePeer.Serves messaging.2.allocs 3 :=
  payload_presented_iff unconnected unconnected 4096#64 5#32 nowhere rfl

/-- Of a payload of five bytes, eight go to `WskSendTo`. -/
theorem messaging_not_presents :
    (messaging.1.map fun objects => objects.lookup 0) =
      some (some ⟨.datagramSocket, unconnected⟩) ∧
    ((presented idlePeer (Method.invoke unconnected (.sendDatagram 4096#64 nowhere)) messaging.2).map
      fun x => x.1.length) = [8#64] ∧
    ¬Presents idlePeer (Method.invoke unconnected (.sendDatagram 4096#64 nowhere)) messaging.2
      4096#64 5#32 := by
  refine ⟨rfl, by decide +kernel, ?_⟩
  intro h
  have hlength : ∀ x ∈ presented idlePeer
      (Method.invoke unconnected (.sendDatagram 4096#64 nowhere)) messaging.2, x.1.length = 5#64 :=
    fun x hx => (h x hx).length
  exact absurd hlength (by decide +kernel)

end Sequential

/-! ## The transferred length -/

/-- The lengths with which a data operation may report a success. -/
def DataCall.ValidLength : DataCall → ULongPtr → Prop
  | sendDataConnectionSocket _ _ dataSize, length
  | sendDataDatagramSocket _ _ dataSize _, length => length = dataSize.setWidth 64
  | getDataConnectionSocket _ _ dataSize, length =>
    1#64 ≤ length ∧ length ≤ dataSize.setWidth 64
  | getDataDatagramSocket _ _ _, _ => True

namespace Sequential

/-- The lengths with which a method may report a success. -/
def ValidLength : Method → ULongPtr → Prop
  | .sendData _ dataSize, length => length = dataSize.setWidth 64
  | .sendDatagram _ _, length => length = DatagramSocket.sizeofData.setWidth 64
  | .receivData _ dataSize, length => 1#64 ≤ length ∧ length ≤ dataSize.setWidth 64
  | _, _ => True

/-- The answer to the request of a method that is invoked in `k`. -/
def answerTo (env : Surroundings) (method : Method) (k : Kernel) : Response :=
  env.respond (k.calls + resolutions method)

/-- An operation that succeeds transferred a valid length. -/
def OperationValid (env : Surroundings) (d : DataCall) (k : Kernel) : Prop :=
  ∀ status, (run env d.invoke k).1 = some status → ntSuccess status = true →
    d.ValidLength (env.respond k.calls).information

/-- A method that returns transferred a valid length. -/
def MethodValid (env : Surroundings) (this : Socket) (method : Method) (k : Kernel) : Prop :=
  ∀ status, (run env (method.invoke this) k).1 = some (.ok status) →
    ValidLength method (answerTo env method k).information

theorem answers_dataCall (d : DataCall) (hq : k.requests = []) :
    ∃ call, Answers env d.invoke k 2 call (·.status) := by
  cases d with
  | sendDataConnectionSocket sock data dataSize =>
    have h : Answers env (Utils.sendDataConnectionSocket sock data dataSize) k 2 _ (·.status) :=
      answers_sendData hq trivial
    exact ⟨_, h⟩
  | getDataConnectionSocket sock data dataSize => exact ⟨_, answers_getDataConnectionSocket hq⟩
  | sendDataDatagramSocket sock data dataSize adress =>
    have h : Answers env (Utils.sendDataDatagramSocket sock data dataSize adress) k 2 _
        (·.status) :=
      answers_sendData hq trivial
    exact ⟨_, h⟩
  | getDataDatagramSocket sock data dataSize => exact ⟨_, answers_getDataDatagramSocket hq⟩

theorem outcome_dataCall (d : DataCall) (hq : k.requests = []) :
    (run env d.invoke k).1 =
      if env.Serves k.allocs 2 then some (env.respond k.calls).status else none := by
  obtain ⟨call, hanswers⟩ := answers_dataCall d hq
  exact hanswers.outcome

/-- What is reported as a success is a valid transfer exactly when the provider
reports no other transfer as one. Nothing that the code checks adds to that. -/
theorem success_valid_iff (d : DataCall) (this : Socket) (method : Method)
    (hq : k.requests = []) :
    (OperationValid env d k ↔
      (env.Serves k.allocs 2 → ntSuccess (env.respond k.calls).status = true →
        d.ValidLength (env.respond k.calls).information)) ∧
    (MethodValid env this method k ↔
      (env.Serves k.allocs (allocations method) →
        ntSuccess (answerTo env method k).status = true →
        ValidLength method (answerTo env method k).information)) := by
  constructor
  · rw [OperationValid, outcome_dataCall d hq]
    by_cases hs : env.Serves k.allocs 2
    · simp [hs]
    · simp [hs]
  · obtain ⟨text, houtcome⟩ := @outcome_invoke env k this method hq
    rw [MethodValid, houtcome]
    by_cases hs : env.Serves k.allocs (allocations method)
    · simp [hs, throwOnFailure_eq_ok, answerTo]
    · simp [hs]

theorem success_valid_iff_streaming :
    (OperationValid idlePeer (.sendDataConnectionSocket 2#64 4096#64 5#32) streaming.2 ↔
      (idlePeer.Serves streaming.2.allocs 2 →
        ntSuccess (idlePeer.respond streaming.2.calls).status = true →
        (idlePeer.respond streaming.2.calls).information = (5#32).setWidth 64)) ∧
    (MethodValid idlePeer unconnected (.receivData 4096#64 50#32) streaming.2 ↔
      (idlePeer.Serves streaming.2.allocs 2 →
        ntSuccess (answerTo idlePeer (.receivData 4096#64 50#32) streaming.2).status = true →
        ValidLength (.receivData 4096#64 50#32)
          (answerTo idlePeer (.receivData 4096#64 50#32) streaming.2).information)) :=
  success_valid_iff _ unconnected _ rfl

/-- Nothing was sent or received, and both methods return normally. -/
theorem streaming_not_valid :
    (streaming.1.map fun objects => objects.lookup 0) =
      some (some ⟨.connectionSocket, unconnected⟩) ∧
    ¬OperationValid idlePeer (.sendDataConnectionSocket 2#64 4096#64 5#32) streaming.2 ∧
    ¬MethodValid idlePeer unconnected (.sendData 4096#64 5#32) streaming.2 ∧
    ¬MethodValid idlePeer unconnected (.receivData 4096#64 50#32) streaming.2 := by
  refine ⟨rfl, fun h => ?_, fun h => ?_, fun h => ?_⟩
  · have hlength : 0#64 = (5#32).setWidth 64 := h statusSuccess rfl (by decide)
    exact absurd hlength (by decide)
  · have hlength : 0#64 = (5#32).setWidth 64 := h statusSuccess rfl
    exact absurd hlength (by decide)
  · have hlength : 1#64 ≤ 0#64 ∧ 0#64 ≤ (50#32).setWidth 64 := h statusSuccess rfl
    exact absurd hlength (by decide)

end Sequential

end WinShell
