-- SUMMARY: What one thread submits to the provider, and the kernel that the provider finds at that moment.
import WinShell.Effect.Visits
import WinShell.Sequential.Requests

/-!
# Submissions

The trace records what a request carries by value. What it refers to is to be
looked up in the kernel at the moment of the call, before the provider or the
operation itself gives any of it back. `submissions` pairs each call of a run
with that kernel.
-/

namespace WinShell

open Effect

/-- The call that a primitive submits. -/
@[simp] def Op.submitted : Op → Option WskCall
  | .submit call _ => some call
  | _ => none

namespace Sequential

variable {α β : Type} {env : Surroundings} {k : Kernel} {call : WskCall}

/-- The primitives that a run comes to. -/
def visits (env : Surroundings) (p : Win α) (k : Kernel) : List (Op × Kernel) :=
  p.visits (machine env) k

theorem visits_exec (o : Op) (f : o.Ret → Win α) :
    visits env (@Prog.exec winKernel α o f) k =
      (o, k) ::
        match machine env k o with
        | (some r, k') => visits env (f r) k'
        | (none, _) => [] := by
  rw [visits, Prog.visits_exec]
  rcases machine env k o with ⟨_ | r, k'⟩ <;> rfl

theorem visits_bind (p : Win α) (f : α → Win β) :
    visits env (p >>= f) k =
      visits env p k ++
        match run env p k with
        | (some a, k') => visits env (f a) k'
        | (none, _) => [] := by
  rw [visits, Prog.visits_bind, visits, run]
  rcases p.run (machine env) k with ⟨_ | a, k'⟩ <;> rfl

/-- The calls that a run submits, each with the kernel that the provider finds. -/
def submissions (env : Surroundings) (p : Win α) (k : Kernel) : List (WskCall × Kernel) :=
  (visits env p k).filterMap fun visit => visit.1.submitted.map fun call => (call, visit.2)

/-! ## Rules -/

@[simp] theorem submissions_ret (a : α) : submissions env (.ret a) k = [] := rfl

theorem submissions_exec (o : Op) (f : o.Ret → Win α) :
    submissions env (@Prog.exec winKernel α o f) k =
      (o.submitted.map fun call => (call, k)).toList ++
        match machine env k o with
        | (some r, k') => submissions env (f r) k'
        | (none, _) => [] := by
  rw [submissions, visits_exec, List.filterMap_cons]
  rcases machine env k o with ⟨_ | r, k'⟩ <;> cases o.submitted <;> rfl

theorem submissions_bind (p : Win α) (f : α → Win β) :
    submissions env (p >>= f) k =
      submissions env p k ++
        match run env p k with
        | (some a, k') => submissions env (f a) k'
        | (none, _) => [] := by
  rw [submissions, visits_bind, List.filterMap_append, submissions]
  rcases run env p k with ⟨_ | a, k'⟩ <;> rfl

@[simp] theorem submissions_map (p : Win α) (f : α → β) :
    submissions env (f <$> p) k = submissions env p k := by
  rw [map_eq_pure_bind, submissions_bind]
  rcases run env p k with ⟨_ | a, k'⟩ <;> simp

/-- A program without a submission in it submits nothing. -/
theorem submissions_eq_nil {p : Win α} (h : p.All fun o : Op => o.submitted = none) :
    submissions env p k = [] := by
  rw [submissions, List.filterMap_eq_nil_iff]
  rintro ⟨o, k'⟩ hvisit
  rw [h.visited hvisit, Option.map_none]

@[simp] theorem submissions_pushFrame {f : Nat → Win α} :
    submissions env (@Prog.exec winKernel α .pushFrame f) k =
      submissions env (f k.frames.next) (entered k) := by
  simp [submissions_exec, machine, settle, answer, Kernel.apply, Kernel.log, entered]

/-- Setting up an IRP submits nothing, and without an IRP nothing comes after it. -/
theorem submissions_prepare {f : PIrp → Unit → Win α} :
    submissions env (@Prog.exec winKernel α .ioAllocateIrp fun irp =>
      .exec (.keInitializeEvent ⟨k.frames.next, .event⟩ .notificationEvent false) fun _ =>
      .exec (.ioSetCompletionRoutine irp (completionFor k.frames.next)) (f irp)) (entered k) =
    if env.Serves k.allocs 1 then submissions env (f (some k.irps.next) ()) (prepared k)
    else [] := by
  simp only [Surroundings.serves_one]
  cases ha : env.allocate k.allocs <;>
    simp [submissions_exec, machine, settle, answer, Kernel.apply, entered, prepared, ha]

theorem submissions_prepareData {data : PVoid} {dataSize : ULong}
    {f : PIrp → PMdl → Unit → Win α} :
    submissions env (@Prog.exec winKernel α .ioAllocateIrp fun irp =>
      .exec (.ioAllocateMdl data dataSize) fun mdl =>
      .exec (.mmBuildMdlForNonPagedPool mdl) fun _ =>
      .exec (.keInitializeEvent ⟨k.frames.next, .event⟩ .notificationEvent false) fun _ =>
      .exec (.ioSetCompletionRoutine irp (completionFor k.frames.next)) (f irp mdl)) (entered k) =
    if env.Serves k.allocs 2 then
      submissions env (f (some k.irps.next) (some k.mdls.next) ()) (prepared (withMdl k data dataSize))
    else [] := by
  simp only [Surroundings.serves_two]
  cases ha : env.allocate k.allocs <;> cases hm : env.allocate (k.allocs + 1) <;>
    simp [submissions_exec, machine, settle, answer, Kernel.apply, entered, prepared, withMdl,
      completionFor, ha, hm]

/-- The call is submitted, and what comes after it submits nothing more. -/
theorem submissions_callProvider {irp : Nat} {f : Unit → Win α} (hi : irp = k.irps.next)
    (hrest : (f ()).All fun o : Op => o.submitted = none) :
    submissions env (@Prog.exec winKernel α (.submit call (some irp)) f) (prepared k) =
      [(call, prepared k)] := by
  subst hi
  simp [submissions_exec, machine, settle, answer, Kernel.apply, prepared,
    submissions_eq_nil hrest]

/-! ## Operations -/

theorem submissions_requestStatus {call : Nat → WskCall} :
    submissions env (Utils.requestStatus call) k =
      if env.Serves k.allocs 1 then [(call k.frames.next, prepared k)] else [] := by
  simp only [Utils.requestStatus, inFrame, pushFrame, primitive, Prog.perform, ioAllocateIrp,
    keInitializeEvent, ioSetCompletionRoutine, callProvider, Prog.exec_bind, Prog.ret_bind,
    keWaitForSingleObject, ioStatusStatus, Bool.not_eq_eq_eq_not, Bool.not_true, ioFreeIrp, Prog.pure_eq,
    ite_self, popFrame, Prog.ite_bind, submissions_pushFrame]
  rw [← completionFor, submissions_prepare]
  split
  · rw [submissions_callProvider rfl (by simp)]
  · rfl

theorem submissions_sendData {call : Nat → WskBuf → WskCall} {data : PVoid} {dataSize : ULong} :
    submissions env (Utils.sendData call data dataSize) k =
      if env.Serves k.allocs 2 then
        [(call k.frames.next (bufferOf k dataSize), prepared (withMdl k data dataSize))]
      else [] := by
  have hirp : k.irps.next = (withMdl k data dataSize).irps.next := rfl
  simp only [Utils.sendData, inFrame, pushFrame, primitive, Prog.perform, ioAllocateIrp, ioAllocateMdl,
    mmBuildMdlForNonPagedPool, keInitializeEvent, ioSetCompletionRoutine, callProvider, Prog.exec_bind,
    Prog.ret_bind, Bool.not_eq_eq_eq_not, Bool.not_true, ioFreeMdl, ioFreeIrp, Prog.pure_eq,
    keWaitForSingleObject, ioStatusStatus, ioStatusInformation, ushortNegative_eq_false, Bool.false_eq_true,
    ↓reduceIte, popFrame, Prog.ite_bind, submissions_pushFrame]
  rw [← completionFor, submissions_prepareData, ← bufferOf]
  split
  · rw [submissions_callProvider hirp (by simp)]
  · rfl

theorem submissions_convertStringToAdress {npi : WskProviderNpi} {adress : Endpoint} :
    submissions env (Utils.convertStringToAdress npi adress) k =
      if env.Serves k.allocs 1 then [(resolveCall k npi adress, prepared k)] else [] := by
  simp only [Utils.convertStringToAdress, inFrame, pushFrame, primitive, Prog.perform, ioAllocateIrp,
    keInitializeEvent, ioSetCompletionRoutine, callProvider, Prog.exec_bind, Prog.ret_bind,
    keWaitForSingleObject, ioStatusStatus, Bool.not_eq_eq_eq_not, Bool.not_true, ioFreeIrp, Prog.pure_eq,
    readResult, popFrame, Prog.ite_bind, submissions_pushFrame]
  rw [← completionFor, submissions_prepare, ← resolveCall]
  split
  · rw [submissions_callProvider rfl (by simp)]
  · rfl

/-! ## After a resolution -/

/-- A program that starts with a resolution submits that, and goes on. -/
theorem submissions_resolve {npi : WskProviderNpi} {adress : Endpoint} {f : SockAddr → Win α}
    (hq : k.requests = []) (hs : env.Serves k.allocs 1) :
    ∃ k', k'.requests = [] ∧ k'.calls = k.calls + 1 ∧ k'.allocs = k.allocs + 1 ∧
      submissions env (Utils.convertStringToAdress npi adress >>= f) k =
        (resolveCall k npi adress, prepared k) :: submissions env (f (handedAddress env k)) k' := by
  obtain ⟨k', hrun, hidle, hcalls, hallocs⟩ := resolves_of_serves npi adress hq hs
  refine ⟨k', hidle, hcalls, hallocs, ?_⟩
  rw [submissions_bind, submissions_convertStringToAdress, hrun, if_pos hs]
  rfl

theorem submissions_resolve_refused {npi : WskProviderNpi} {adress : Endpoint}
    {f : SockAddr → Win α} (hs : ¬env.Serves k.allocs 1) :
    submissions env (Utils.convertStringToAdress npi adress >>= f) k = [] := by
  obtain ⟨k', hrun, -⟩ : Stops env (Utils.convertStringToAdress npi adress) k :=
    prepares_convertStringToAdress.stops (Surroundings.not_serves_one.mp hs)
  rw [submissions_bind, submissions_convertStringToAdress, hrun, if_neg hs]
  rfl

/-- What is seen of such a program, when nothing is seen of the resolution and the
program goes on with `count` allocations. -/
theorem filterMap_submissions_resolve {γ : Type} {g : WskCall × Kernel → Option γ}
    {seen : SockAddr → Kernel → List γ} {count : Nat} {npi : WskProviderNpi} {adress : Endpoint}
    {f : SockAddr → Win α} (hq : k.requests = [])
    (hg : g (resolveCall k npi adress, prepared k) = none)
    (hf : ∀ a k', (submissions env (f a) k').filterMap g =
      if env.Serves k'.allocs count then seen a k' else []) :
    ∃ k', (submissions env (Utils.convertStringToAdress npi adress >>= f) k).filterMap g =
      if env.Serves k.allocs (1 + count) then seen (handedAddress env k) k' else [] := by
  by_cases hs : env.Serves k.allocs 1
  · obtain ⟨k', -, -, hallocs, hsubmissions⟩ := @submissions_resolve _ env k npi adress f hq hs
    refine ⟨k', ?_⟩
    rw [hsubmissions, List.filterMap_cons_none hg, hf, hallocs]
    simp only [hs.add_iff]
  · refine ⟨k, ?_⟩
    rw [submissions_resolve_refused hs, if_neg fun h => hs h.left]
    rfl

end Sequential

end WinShell
