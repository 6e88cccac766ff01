-- SUMMARY: The machine of one thread is one schedule of the concurrent threads.
import WinShell.Concurrent.Operations
import WinShell.Effect.Schedule

/-!
# One thread among many

The machine that runs one thread completes a request when its call returns at
once, and otherwise when the thread waits for it. That is one of the orders that
the provider may choose, so what one thread does alone is one of the things it
does among others.
-/

namespace WinShell

open Effect

namespace Concurrent

variable {c : Contract} {env : Surroundings} {k k' : Kernel}

/-- What the machine does before it answers is nothing, or one completion. -/
theorem moves_settle (hfinal : ∀ n, c.Final (env.respond n).status) (o : Op) :
    Relation.ReflTransGen (system c).Moves k (Sequential.settle env k o) := by
  have complete : ∀ req ∈ k.requests, Relation.ReflTransGen (system c).Moves k
      (k.complete req (env.respond req.number).toFinal) :=
    fun req hreq => .single ⟨req, hreq, _, hfinal req.number, rfl⟩
  cases o with
  | callReturn irp =>
    rw [Sequential.settle]
    split
    · next req hfind =>
      split
      · exact .refl
      · exact complete req (List.mem_of_find?_eq_some hfind)
    · exact .refl
  | keWaitForSingleObject event =>
    rw [Sequential.settle]
    split
    · next req hfind => exact complete req (List.mem_of_find?_eq_some hfind)
    · exact .refl
  | _ => exact .refl

/-- The answer of the machine is one that the thread may get. -/
theorem allowed_answer (hmem : env.Allocates) (hinline : ∀ status, c.Inline status status) {o : Op}
    {r : o.Ret} (h : Sequential.answer env k o = some r) : Allowed c k o r := by
  cases o with
  | pushFrame =>
    cases h
    rfl
  | ioAllocateIrp | ioAllocateMdl _ _ =>
    simp only [Sequential.answer, hmem k.allocs, if_true, Option.some.injEq] at h
    exact .inl h.symm
  | callReturn irp =>
    simp only [Sequential.answer] at h
    split at h
    · exact .inl (Option.some.inj h).symm
    · next hfind =>
      refine .inr ⟨by simpa using hfind, ?_⟩
      obtain ⟨p, rfl, h⟩ := Option.bind_eq_some_iff.mp h
      obtain ⟨cell, hget, h⟩ := Option.bind_eq_some_iff.mp h
      obtain rfl := Option.some.inj h
      exact ⟨p, cell, rfl, hget, hinline _⟩
  | keWaitForSingleObject event =>
    obtain ⟨fr, hget, h⟩ := Option.bind_eq_some_iff.mp h
    obtain ⟨ev, hev, h⟩ := Option.bind_eq_some_iff.mp h
    split at h
    · next hsignaled => exact ⟨fr, ev, hget, hev, hsignaled⟩
    · cases h
  | ioStatusStatus irp | ioStatusInformation irp =>
    obtain ⟨p, rfl, h⟩ := Option.bind_eq_some_iff.mp h
    obtain ⟨cell, hget, h⟩ := Option.bind_eq_some_iff.mp h
    exact ⟨p, cell, rfl, hget, (Option.some.inj h).symm⟩
  | readResult result =>
    obtain ⟨fr, hget, h⟩ := Option.bind_eq_some_iff.mp h
    intro fr' a hget' ha
    obtain rfl : fr = fr' := Option.some.inj (hget.symm.trans hget')
    rw [ha] at h
    exact (Option.some.inj h).symm
  | wskRegister _ | wskCaptureProviderNpi _ =>
    cases h
    rfl
  | _ => trivial

theorem schedules_machine (hfinal : ∀ n, c.Final (env.respond n).status)
    (hinline : ∀ status, c.Inline status status) (hmem : env.Allocates) :
    Pool.Schedules (system c) (Sequential.machine env) Sequential.thread := by
  intro k o r k' h
  refine ⟨Sequential.settle env k o, moves_settle hfinal o, ?_⟩
  simp only [Sequential.machine] at h
  rcases hanswer : Sequential.answer env (Sequential.settle env k o) o with _ | r'
  · rw [hanswer] at h
    cases h
  · rw [hanswer] at h
    rcases happly : (Sequential.settle env k o).apply Sequential.thread o r' with _ | k''
    · simp only [happly] at h
      cases h
    · simp only [happly] at h
      cases h
      exact ⟨allowed_answer hmem hinline hanswer, happly⟩

/-- What an operation does alone is one of the things it does among others. -/
theorem reachable_of_run (hfinal : ∀ n, c.Final (env.respond n).status)
    (hinline : ∀ status, c.Inline status status) (hmem : env.Allocates) {op : Operation}
    {outcome : Outcome} (hrun : Sequential.run env op.execute {} = (some outcome, k')) :
    Reachable c
      { (Pool.init k' : State).setThread 0 (some ⟨0, op, .ret outcome⟩) with next := 1 } :=
  Pool.reachable_of_run (schedules_machine hfinal hinline hmem) op hrun

end Concurrent

end WinShell
