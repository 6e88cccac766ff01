-- SUMMARY: The completion of a request keeps views and kernel together, and with it every step of a pool does.
import WinShell.Concurrent.Steps

/-!
# The provider's step

A completion writes to the IRP, to the event and the result of the frame that the
request refers to, and nowhere else. All of these belong to the invocation that
made the request, which cannot have given them back.
-/

namespace WinShell

open Effect Trace

namespace Concurrent

variable {c : Contract} {k k' : Kernel} {views : Nat → View} {i : Nat} {v : View}
  {req : Request} {fin : Final} {f : Nat} {fr : Frame} {ev : KEvent} {cell : Irp}

/-- Storing a result touches nothing but the result of the frame it refers to. -/
theorem storeResult_eq (hframe : k.frames.get f = some fr)
    (hrefs : ∀ ref ∈ req.call.refs, ref.frame = f) :
    ∃ frames result, k.storeResult req fin = { k with frames } ∧
      frames.get f = some { fr with result } ∧ ∀ fr', frames.set f fr' = k.frames.set f fr' := by
  cases hcall : req.call with
  | wskGetAddressInfo client nodeName serviceName nameSpace nameAt result =>
    have hresult : result.frame = f := hrefs result (by simp [hcall, WskCall.refs])
    cases hs : ntSuccess fin.status with
    | true =>
      refine ⟨_, some ⟨req.number, fin.addresses⟩, ?_, Heap.get_set_self (v := { fr with
        result := some ⟨req.number, fin.addresses⟩ }) (by rw [hframe]; rfl), fun _ => Heap.set_set⟩
      simp only [Kernel.storeResult, hcall, hs, hresult, hframe, if_true]
    | false =>
      refine ⟨k.frames, fr.result, ?_, hframe, fun _ => rfl⟩
      simp only [Kernel.storeResult, hcall, hs, Bool.false_eq_true, if_false]
  | _ =>
    refine ⟨k.frames, fr.result, ?_, hframe, fun _ => rfl⟩
    simp only [Kernel.storeResult, hcall]

/-- A completion, of a request that refers to the frame `f`. -/
theorem complete_eq (hirp : k.irps.get req.irp = some cell) (hframe : k.frames.get f = some fr)
    (hevent : fr.event = some ev) (hcompletion : req.completion = some (completionFor f))
    (hrefs : ∀ ref ∈ req.call.refs, ref.frame = f) :
    ∃ result, k.complete req fin =
      { k with
        requests := k.requests.erase req
        irps := k.irps.set req.irp { cell with ioStatus := ⟨fin.status, fin.information⟩ }
        frames := k.frames.set f { fr with event := some { ev with signaled := true }, result }
        trace := k.trace ++ [.complete req fin.status fin.information] } := by
  let k₁ : Kernel :=
    { k with
      requests := k.requests.erase req
      irps := k.irps.set req.irp { cell with ioStatus := ⟨fin.status, fin.information⟩ } }
  have hstatus : Kernel.setIoStatus { k with requests := k.requests.erase req } req.irp fin = k₁ := by
    simp only [Kernel.setIoStatus, hirp, k₁]
  obtain ⟨frames, result, hstore, hget, hset⟩ := @storeResult_eq k₁ req fin f fr hframe hrefs
  refine ⟨result, ?_⟩
  have hruns : Completion.runsFor ⟨⟨f, .event⟩, true, true, true⟩ fin.status = true := by
    simp [Completion.runsFor]
  simp only [Kernel.complete, hstatus, hstore, Kernel.runCompletion, Kernel.log, hcompletion, hruns,
    Kernel.ioCompletionRoutine, Kernel.keSetEvent, completionFor, hget, hset, hevent, if_true,
    Option.map_some, k₁]

/-- The provider completes a request it owns. -/
theorem Rep.complete (h : Rep c k views) (hreq : req ∈ k.requests) (hfinal : c.Final fin.status) :
    Rep c (k.complete req fin)
      (Function.update views req.issuer
        { views req.issuer with stage := .done req fin.status fin.information }) := by
  have hi := h.holds req.issuer
  have howned := h.requests req hreq
  obtain ⟨-, -, hrefers⟩ := hi.owned req howned
  obtain ⟨f, hf, hevent, hcompletion, hrefs⟩ := hrefers.frame
  obtain ⟨fr, hframe, hissuer, hfr⟩ := hi.frame f hf
  obtain ⟨cell, hirp, harmed, -⟩ := hi.irp req.irp hrefers.irp
  obtain ⟨result, heq⟩ := @complete_eq k req fin f fr _ cell hirp hframe (hfr hevent) hcompletion hrefs
  have hother : ∀ old ∈ k.requests, old ≠ req → old.issuer ≠ req.issuer := by
    intro old hold hne hissuer'
    have howned' := h.requests old hold
    rw [hissuer', howned] at howned'
    cases howned'
    exact hne rfl
  rw [heq]
  constructor
  · intro j
    rcases eq_or_ne j req.issuer with rfl | hne
    · rw [Function.update_self]
      constructor
      · intro g hg
        obtain rfl : f = g := Option.some.inj (hf.symm.trans hg)
        exact ⟨_, Heap.get_set_self (by rw [hframe]; rfl), hissuer, fun _ => rfl⟩
      · intro p hp
        obtain rfl : req.irp = p := Option.some.inj (hrefers.irp.symm.trans hp)
        refine ⟨_, Heap.get_set_self (by rw [hirp]; rfl), harmed, ?_⟩
        rintro _ _ _ ⟨⟩
        rfl
      · exact hi.mdl
      · exact fun _ howned' => nomatch howned'
      · rintro _ _ _ ⟨⟩
        exact hfinal
      · rw [issues_append, hi.issues, howned]
        simp
      · rw [completions_append, hi.completions, howned]
        simp
    · rw [Function.update_of_ne hne]
      refine (h.holds j).other ?_ ?_ (fun _ _ hm => hm) ?_ ?_ ?_
      · intro g fr' hget hissuer'
        have hgf : g ≠ f := by
          rintro rfl
          rw [hframe] at hget
          cases hget
          exact hne (hissuer'.symm.trans hissuer)
        rwa [Heap.get_set_of_ne hgf]
      · intro p hp
        have hpr : p ≠ req.irp := by
          rintro rfl
          exact hne (h.irps j req.issuer _ hp hrefers.irp)
        rw [Heap.get_set_of_ne hpr]
      · intro old hold hissuer'
        refine (List.mem_erase_of_ne ?_).mpr hold
        rintro rfl
        exact hne hissuer'.symm
      · rw [issues_append]
        simp
      · rw [completions_append]
        simp [hne.symm]
  · intro old hold
    have hne : old ≠ req := fun heq => h.nodup.not_mem_erase (heq ▸ hold)
    have hold' : old ∈ k.requests := List.mem_of_mem_erase hold
    rw [Function.update_of_ne (hother old hold' hne)]
    exact h.requests old hold'
  · exact h.nodup.erase req
  · refine known_once h.irps ?_
    exact fun j q hne hj hi' => hne (h.irps j req.issuer q hj hi')
  · refine known_once h.mdls ?_
    exact fun j q hne hj hi' => hne (h.mdls j req.issuer q hj hi')
  · intro q hq
    rw [Heap.isSome_get_set] at hq
    obtain ⟨j, hj⟩ := h.live q hq
    rcases eq_or_ne j req.issuer with rfl | hne
    · exact ⟨req.issuer, by rwa [Function.update_self]⟩
    · exact ⟨j, by rwa [Function.update_of_ne hne]⟩

/-! ## All steps -/

/-- A primitive that leaves kernel and view as they are. -/
theorem Rep.unchanged (h : Rep c k views) : Rep c k (Function.update views i (views i)) := by
  rwa [Function.update_eq_self]

/-- An allocation that fails. -/
theorem Rep.outOfMemory {allocs : Nat} (h : Rep c k views) : Rep c { k with allocs } views where
  holds j :=
    (h.holds j).other (fun _ _ hget _ => hget) (fun _ _ => rfl) (fun _ _ hm => hm)
      (fun _ hreq _ => hreq) rfl rfl
  requests := h.requests
  nodup := h.nodup
  irps := h.irps
  mdls := h.mdls
  live := h.live

theorem Holds.live_irp {irp : PIrp} (h : Holds c k i v) (hirp : v.irp = irp)
    (hsome : irp.isSome = true) : ∃ p cell, irp = some p ∧ k.irps.get p = some cell := by
  obtain ⟨p, rfl⟩ := Option.isSome_iff_exists.mp hsome
  obtain ⟨cell, hget, -⟩ := h.irp p hirp
  exact ⟨p, cell, rfl, hget⟩

theorem Holds.live_mdl {mdl : PMdl} (h : Holds c k i v) (hmdl : v.mdl = mdl)
    (hsome : mdl.isSome = true) : ∃ m cell, mdl = some m ∧ k.mdls.get m = some cell := by
  obtain ⟨m, rfl⟩ := Option.isSome_iff_exists.mp hsome
  obtain ⟨cell, hget⟩ := Option.isSome_iff_exists.mp (h.mdl m hmdl)
  exact ⟨m, cell, rfl, hget⟩

/-- The outcome of a request that is complete is in its IRP. -/
theorem Holds.ioStatus {p : Nat} (h : Holds c k i v) (hirp : v.irp = some p)
    (hget : k.irps.get p = some cell) {status : NtStatus} {information : ULongPtr}
    (hstage : v.stage = .done req status information) : cell.ioStatus = ⟨status, information⟩ := by
  obtain ⟨cell', hget', -, hdone⟩ := h.irp p hirp
  obtain rfl : cell = cell' := Option.some.inj (hget.symm.trans hget')
  exact hdone req status information hstage

/-- A primitive that the protocol permits. -/
theorem Rep.run {o : Op} {r : o.Ret} (h : Rep c k views) (permits : Permits c (views i) o)
    (allowed : Allowed c k o r) (happly : k.apply i o r = some k') :
    ∃ v, Yields c (views i) o r v ∧ Rep c k' (Function.update views i v) := by
  have hi := h.holds i
  cases o with
  | pushFrame =>
    obtain ⟨hframe, hsettled⟩ := permits
    obtain rfl : r = k.frames.next := allowed
    cases happly
    exact ⟨_, rfl, h.pushFrame hframe hsettled⟩
  | popFrame f =>
    obtain ⟨hframe, hirp, hsettled⟩ := permits
    obtain ⟨fr, hget, -⟩ := hi.frame f hframe
    rw [Kernel.apply_popFrame hget] at happly
    cases happly
    exact ⟨_, rfl, h.popFrame hframe hirp hsettled⟩
  | ioAllocateIrp =>
    obtain ⟨hirp, hstage⟩ := permits
    obtain rfl | ⟨hfails, rfl⟩ := allowed
    · cases happly
      exact ⟨_, .inl ⟨_, rfl, rfl⟩, h.ioAllocateIrp hirp hstage⟩
    · cases happly
      exact ⟨_, .inr ⟨hfails, rfl, rfl⟩, h.outOfMemory.unchanged⟩
  | ioFreeIrp irp =>
    obtain ⟨hirp, hsome, hsettled⟩ := permits
    obtain ⟨p, cell, rfl, hget⟩ := hi.live_irp hirp hsome
    rw [Kernel.apply_ioFreeIrp hget] at happly
    cases happly
    exact ⟨_, rfl, h.ioFreeIrp hirp hsettled⟩
  | keInitializeEvent event type state =>
    obtain ⟨hframe, rfl, rfl, hstage⟩ := permits
    obtain ⟨fr, hget, -⟩ := hi.frame event.frame hframe
    rw [Kernel.apply_keInitializeEvent hget] at happly
    cases happly
    refine ⟨_, rfl, h.setFrame hframe (by rw [hstage]; rfl) hget _ (fun _ => ?_) (fun _ => rfl)⟩
    rw [hstage]
    rfl
  | ioSetCompletionRoutine irp completion =>
    obtain ⟨-, rfl⟩ | ⟨hirp, hsome, hstage, f, hframe, hevent, rfl⟩ := permits
    · cases happly
    obtain ⟨p, cell, rfl, hget⟩ := hi.live_irp hirp hsome
    rw [Kernel.apply_ioSetCompletionRoutine hget] at happly
    cases happly
    exact ⟨_, ⟨rfl, rfl⟩, h.ioSetCompletionRoutine hirp hstage hframe hevent⟩
  | ioAllocateMdl virtualAddress length =>
    obtain ⟨-, hsettled⟩ := permits
    obtain rfl | ⟨hfails, rfl⟩ := allowed
    · cases happly
      exact ⟨_, .inl ⟨_, rfl, rfl⟩, h.ioAllocateMdl hsettled⟩
    · cases happly
      exact ⟨_, .inr ⟨hfails, rfl, rfl⟩, h.outOfMemory.unchanged⟩
  | mmBuildMdlForNonPagedPool mdl =>
    obtain ⟨-, rfl⟩ | ⟨hmdl, hsome, hsettled⟩ := permits
    · cases happly
    obtain ⟨m, cell, rfl, hget⟩ := hi.live_mdl hmdl hsome
    rw [Kernel.apply_mmBuildMdlForNonPagedPool hget] at happly
    cases happly
    exact ⟨_, ⟨rfl, rfl⟩, (h.mmBuildMdlForNonPagedPool hsettled).unchanged⟩
  | ioFreeMdl mdl =>
    obtain ⟨hmdl, hsome, hsettled⟩ := permits
    obtain ⟨m, cell, rfl, hget⟩ := hi.live_mdl hmdl hsome
    rw [Kernel.apply_ioFreeMdl hget] at happly
    cases happly
    exact ⟨_, rfl, h.ioFreeMdl hmdl hsettled⟩
  | submit call irp =>
    obtain ⟨hirp, hsome, harmed, hstage, ⟨f, hframe, hrefs⟩, hmdl⟩ := permits
    obtain ⟨p, cell, rfl, hget⟩ := hi.live_irp hirp hsome
    rw [Kernel.apply_submit hget] at happly
    cases happly
    exact ⟨_, ⟨_, rfl⟩, h.submit hirp harmed hstage hframe hrefs hmdl hget⟩
  | callReturn irp =>
    obtain ⟨hirp, -, hissued⟩ := permits
    cases happly
    refine ⟨_, ⟨rfl, ?_⟩, h.unchanged⟩
    obtain hpending | ⟨hnone, p, cell, rfl, hget, hinline⟩ := allowed
    · exact .inl hpending
    · -- The provider owns no request with this IRP, so the one that was made is complete.
      cases hstage : (views i).stage with
      | fresh =>
        rw [hstage] at hissued
        cases hissued rfl
      | owned req =>
        obtain ⟨hmem, -, hrefers⟩ := hi.owned req hstage
        exact absurd (hrefers.irp.symm.trans hirp) (hnone req hmem)
      | done req final information =>
        rw [hi.ioStatus hirp hget hstage] at hinline
        exact .inr ⟨req, final, information, rfl, hinline⟩
  | keWaitForSingleObject event =>
    obtain ⟨hframe, hevent⟩ := permits
    obtain ⟨fr, hget, -, hfr⟩ := hi.frame event.frame hframe
    obtain ⟨fr', ev, hget', hev, hsignaled⟩ := allowed
    obtain rfl : fr = fr' := Option.some.inj (hget.symm.trans hget')
    obtain rfl : ev = ⟨.notificationEvent, (views i).stage.isDone⟩ :=
      Option.some.inj (hev.symm.trans (hfr hevent))
    rw [Kernel.apply_keWaitForSingleObject hget hev] at happly
    cases happly
    have hdone : (views i).stage.isDone = true := hsignaled
    have hsettled : (views i).stage.settled = true := by
      cases hstage : (views i).stage with
      | owned req =>
        rw [hstage] at hdone
        cases hdone
      | fresh | done _ _ _ => rfl
    exact ⟨_, ⟨rfl, hdone⟩, h.setFrame hframe hsettled hget _ (fun _ => rfl) id⟩
  | ioStatusStatus irp =>
    obtain ⟨hirp, -, -⟩ := permits
    obtain ⟨p, cell, rfl, hget, rfl⟩ := allowed
    rw [Kernel.apply_ioStatusStatus hget] at happly
    cases happly
    refine ⟨_, ⟨rfl, ?_⟩, h.unchanged⟩
    intro req final information hstage
    rw [hi.ioStatus hirp hget hstage]
  | ioStatusInformation irp =>
    obtain ⟨hirp, -, -⟩ := permits
    obtain ⟨p, cell, rfl, hget, rfl⟩ := allowed
    rw [Kernel.apply_ioStatusInformation hget] at happly
    cases happly
    refine ⟨_, ⟨rfl, ?_⟩, h.unchanged⟩
    intro req final information hstage
    rw [hi.ioStatus hirp hget hstage]
  | readResult result =>
    obtain ⟨hframe, -⟩ := permits
    obtain ⟨fr, hget, -⟩ := hi.frame result.frame hframe
    rw [Kernel.apply_readResult hget] at happly
    cases happly
    exact ⟨_, rfl, (h.log (fun _ => rfl) (fun _ => rfl)).unchanged⟩
  | wskRegister _ | wskCaptureProviderNpi _ | wskReleaseProviderNpi _ | wskDeregister _
  | wskFreeAddressInfo _ _ => cases permits

/-- When allocations succeed, no primitive that the protocol permits is given a null
or dangling pointer. -/
theorem Rep.applies {o : Op} (h : Rep c k views) (hfails : ¬c.Fails) (permits : Permits c (views i) o) (r : o.Ret) :
    (k.apply i o r).isSome = true := by
  have hi := h.holds i
  cases o with
  | pushFrame => rfl
  | ioAllocateIrp | ioAllocateMdl _ _ => cases r <;> rfl
  | callReturn irp => rfl
  | popFrame f =>
    obtain ⟨fr, hget, -⟩ := hi.frame f permits.1
    rw [Kernel.apply_popFrame hget]
    rfl
  | keInitializeEvent event _ _ =>
    obtain ⟨fr, hget, -⟩ := hi.frame event.frame permits.1
    rw [Kernel.apply_keInitializeEvent hget]
    rfl
  | readResult result =>
    obtain ⟨fr, hget, -⟩ := hi.frame result.frame permits.1
    rw [Kernel.apply_readResult hget]
    rfl
  | keWaitForSingleObject event =>
    obtain ⟨fr, hget, -, hfr⟩ := hi.frame event.frame permits.1
    rw [Kernel.apply_keWaitForSingleObject hget (hfr permits.2)]
    rfl
  | ioSetCompletionRoutine irp _ =>
    obtain ⟨hf, -⟩ | ⟨hirp, hsome, -⟩ := permits
    · exact absurd hf hfails
    · obtain ⟨p, cell, rfl, hget⟩ := hi.live_irp hirp hsome
      rw [Kernel.apply_ioSetCompletionRoutine hget]
      rfl
  | ioFreeIrp irp =>
    obtain ⟨p, cell, rfl, hget⟩ := hi.live_irp permits.1 permits.2.1
    rw [Kernel.apply_ioFreeIrp hget]
    rfl
  | submit call irp =>
    obtain ⟨p, cell, rfl, hget⟩ := hi.live_irp permits.1 permits.2.1
    rw [Kernel.apply_submit hget]
    rfl
  | ioStatusStatus irp =>
    obtain ⟨p, cell, rfl, hget⟩ := hi.live_irp permits.1 permits.2.1
    rw [Kernel.apply_ioStatusStatus hget]
    rfl
  | ioStatusInformation irp =>
    obtain ⟨p, cell, rfl, hget⟩ := hi.live_irp permits.1 permits.2.1
    rw [Kernel.apply_ioStatusInformation hget]
    rfl
  | mmBuildMdlForNonPagedPool mdl =>
    obtain ⟨hf, -⟩ | ⟨hmdl, hsome, -⟩ := permits
    · exact absurd hf hfails
    · obtain ⟨m, cell, rfl, hget⟩ := hi.live_mdl hmdl hsome
      rw [Kernel.apply_mmBuildMdlForNonPagedPool hget]
      rfl
  | ioFreeMdl mdl =>
    obtain ⟨m, cell, rfl, hget⟩ := hi.live_mdl permits.1 permits.2.1
    rw [Kernel.apply_ioFreeMdl hget]
    rfl
  | wskRegister _ | wskCaptureProviderNpi _ | wskReleaseProviderNpi _ | wskDeregister _
  | wskFreeAddressInfo _ _ => cases permits

/-- Views that follow the protocol represent the kernel in every step of a pool. -/
theorem represents (c : Contract) : Pool.Represents (system c) (protocol c) (Rep c) where
  run := by
    rintro k views i o r k' h permits ⟨allowed, happly⟩
    exact h.run permits allowed happly
  move := by
    rintro k views k' h ⟨req, hreq, fin, hfinal, rfl⟩
    refine ⟨_, ?_, h.complete hreq hfinal⟩
    intro j
    rcases eq_or_ne j req.issuer with rfl | hne
    · rw [Function.update_self]
      exact .inr ⟨req, fin.status, fin.information, h.requests req hreq, rfl⟩
    · rw [Function.update_of_ne hne]

end Concurrent

end WinShell
