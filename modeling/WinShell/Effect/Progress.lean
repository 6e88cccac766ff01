-- SUMMARY: Threads that share a spin lock can always go on until each of them has ended.
import WinShell.Effect.Lock
import Mathlib.Logic.Relation

/-!
# Progress

Threads under a lock come to no deadlock. When the programs behind the operations implement an
interface, and a pause comes to an end, there is a way on from every state in which all threads
end (`Reachable.finishes`): whoever is inside goes on until the lock is released, and then one
thread after the other runs to its end.
-/

namespace Effect

/-- Pauses come to an end: each step of a pause brings `left` down. -/
structure Backoff.Ends {W : Type} (b : Backoff W) (P : W → Prop) (left : W → Nat) : Prop where
  start : P b.start
  failed : ∀ w, P w → P (b.failed w)
  pause : ∀ w w', P w → b.pause w = some w' → P w' ∧ left w' < left w

namespace LockPool

open Relation

variable {S T : Signature} {σ α W J β : Type}

/-- A way from `f` to `f'` on which no thread but `t` moves, and none starts. At its end `t` is `th`
and the lock is free. -/
structure Alone (sys : LockSystem S T σ W J β) (f : LockPool S T σ W J β) (t : Nat)
    (th : Option (LockThread S T W J β)) (f' : LockPool S T σ W J β) : Prop where
  steps : ReflTransGen (Step sys) f f'
  threads : f'.threads = Function.update f.threads t th
  next : f'.next = f.next
  free : f'.word = 0#32

variable {sys : LockSystem S T σ W J β} {I : Interface S α} {R : σ → α → Prop} {P : W → Prop}
  {left : W → Nat} {x : σ} {x₀ : α} {f f₁ f' : LockPool S T σ W J β} {t i : Nat} {j : J} {o : S.Op}
  {k : S.Ret o → Prog S β} {w : W} {th : LockThread S T W J β}
  {x₁ x₂ : Option (LockThread S T W J β)}

theorem Reachable.steps (reached : Reachable sys x f) (h : ReflTransGen (Step sys) f f') :
    Reachable sys x f' := by
  induction h with
  | refl => exact reached
  | tail _ step ih => exact ih.step step

theorem Alone.trans (h₁ : ReflTransGen (Step sys) f f₁) (hthreads : f₁.threads = Function.update f.threads t x₁)
    (hnext : f₁.next = f.next) (h : Alone sys f₁ t x₂ f') : Alone sys f t x₂ f' where
  steps := h₁.trans h.steps
  threads := by rw [h.threads, hthreads, Function.update_idem]
  next := h.next.trans hnext
  free := h.free

theorem Alone.self (h : Alone sys f t x₁ f') : f'.threads t = x₁ := by
  rw [h.threads, Function.update_self]

/-! ## One thread -/

theorem Step.look_free (ht : f.threads t = some ⟨i, j, .waiting o k w⟩)
    (hw : sys.backoff.pause w = none) (hfree : f.word = 0#32) :
    Step sys f (f.setThread t (some ⟨i, j, .setting o k w⟩)) := by
  have hlook : Step sys f _ := .look t i j o k w ht hw
  rwa [if_pos hfree] at hlook

theorem Step.look_taken (ht : f.threads t = some ⟨i, j, .waiting o k w⟩)
    (hw : sys.backoff.pause w = none) (htaken : f.word ≠ 0#32) :
    Step sys f (f.setThread t (some ⟨i, j, .waiting o k (sys.backoff.failed w)⟩)) := by
  have hlook : Step sys f _ := .look t i j o k w ht hw
  rwa [if_neg htaken] at hlook

theorem Step.set_free (ht : f.threads t = some ⟨i, j, .setting o k w⟩) (hfree : f.word = 0#32) :
    Step sys f { f.setThread t (some ⟨i, j, .inside o k (sys.impl o)⟩) with word := 1#32 } := by
  have hset : Step sys f _ := .set t i j o k w ht
  rwa [hfree] at hset

/-- A thread inside goes on until it has released the lock. -/
theorem leaves {r : S.Ret o} {y : σ} {p : Prog T (S.Ret o)} (ht : f.threads t = some ⟨i, j, .inside o k p⟩)
    (hrun : p.Runs sys.machine f.shared r y) :
    ∃ f', Alone sys f t (some ⟨i, j, .client (k r)⟩) f' := by
  induction p generalizing f with
  | ret b =>
    obtain rfl : b = r := Option.some.inj (Prod.mk.inj (show (some b, f.shared) = (some r, y) from hrun)).1
    exact ⟨_, .single (.unlock t i j o k b ht), rfl, rfl, rfl⟩
  | exec a c ih =>
    rw [Prog.Runs, Prog.run_exec] at hrun
    rcases hM : sys.machine f.shared a with ⟨_ | r', y'⟩
    · rw [hM] at hrun
      cases hrun
    · rw [hM] at hrun
      obtain ⟨f', h⟩ := ih r' (f := { f.setThread t (some ⟨i, j, .inside o k (c r')⟩) with shared := y' })
        (Function.update_self ..) hrun
      exact ⟨f', h.trans (.single (.run t i j o k a c r' y' ht hM)) rfl rfl⟩

/-- A pause ends with a look at the lock. -/
theorem looks (hends : sys.backoff.Ends P left) (hw : P w)
    (ht : f.threads t = some ⟨i, j, .waiting o k w⟩) :
    ∃ w', sys.backoff.pause w' = none ∧
      ReflTransGen (Step sys) f (f.setThread t (some ⟨i, j, .waiting o k w'⟩)) := by
  obtain ⟨n, hn⟩ : ∃ n, n = left w := ⟨_, rfl⟩
  induction n using Nat.strongRecOn generalizing f w with
  | ind n ih =>
    rcases hpause : sys.backoff.pause w with _ | w₁
    · have hself : f.setThread t (some ⟨i, j, .waiting o k w⟩) = f := by
        rw [setThread, ← ht, Function.update_eq_self]
      exact ⟨w, hpause, by rw [hself]⟩
    · obtain ⟨hw₁, hlt⟩ := hends.pause w w₁ hw hpause
      obtain ⟨w', hnone, hsteps⟩ := ih (left w₁) (by omega) hw₁
        (f := f.setThread t (some ⟨i, j, .waiting o k w₁⟩)) (Function.update_self ..) rfl
      refine ⟨w', hnone, .head (.pause t i j o k w w₁ ht hpause) ?_⟩
      rw [setThread, setThread, Function.update_idem] at hsteps
      exact hsteps

theorem Refines.holder_of_free {c : Pool S α J β} {holder : Option Nat}
    (h : Refines sys I R f c holder) (hfree : f.word = 0#32) : holder = none := by
  by_contra hne
  rw [h.word, if_neg hne] at hfree
  cases hfree

section Progress

variable (himpl : Implements sys.machine I sys.impl R) (hsafe : Safe sys.body I x₀) (hR : R x x₀)

include himpl hsafe hR

/-- With the lock free nobody is inside, and each operation that a thread is in front of is answered. -/
theorem Reachable.served (reached : Reachable sys x f) (hfree : f.word = 0#32)
    (ht : f.threads t = some th) (hth : th.phase.prog = .exec o k) :
    ∃ r y, (sys.impl o).Runs sys.machine f.shared r y := by
  obtain ⟨c, holder, hc, h⟩ := reached.refined himpl hsafe hR
  have hnone := h.holder_of_free hfree
  have hct : c.threads t = some ⟨th.invocation, th.job, .exec o k⟩ := by
    rw [h.threads t, ht, Option.map_some, seen, hth]
  obtain ⟨r, y, -, hrun, -⟩ :=
    himpl f.shared c.shared o (h.free hnone) (hsafe c hc t th.invocation th.job o k hct)
  exact ⟨r, y, hrun⟩

theorem Reachable.not_inside (reached : Reachable sys x f) (hfree : f.word = 0#32)
    (ht : f.threads t = some th) : th.phase.isInside = false := by
  obtain ⟨c, holder, hc, h⟩ := reached.refined himpl hsafe hR
  rw [Bool.eq_false_iff]
  intro hin
  have hholder := (h.inside t th ht).1 hin
  rw [h.holder_of_free hfree] at hholder
  cases hholder

/-- A thread that has seen the free lock takes it and is served. -/
theorem Reachable.sets (reached : Reachable sys x f) (hfree : f.word = 0#32)
    (ht : f.threads t = some ⟨i, j, .setting o k w⟩) :
    ∃ r f', Alone sys f t (some ⟨i, j, .client (k r)⟩) f' := by
  obtain ⟨r, y, hrun⟩ := reached.served himpl hsafe hR hfree ht rfl
  have hinside : ({ f.setThread t (some ⟨i, j, .inside o k (sys.impl o)⟩) with word := 1#32 } :
      LockPool S T σ W J β).threads t = some ⟨i, j, .inside o k (sys.impl o)⟩ := Function.update_self ..
  obtain ⟨f', h⟩ := leaves hinside hrun
  exact ⟨r, f', h.trans (.single (.set_free ht hfree)) rfl rfl⟩

/-- A thread that waits for the free lock is served. -/
theorem Reachable.waited (hends : sys.backoff.Ends P left) (reached : Reachable sys x f)
    (hfree : f.word = 0#32) (ht : f.threads t = some ⟨i, j, .waiting o k w⟩) :
    ∃ r f', Alone sys f t (some ⟨i, j, .client (k r)⟩) f' := by
  have hw : P w := reached.waits hends.start hends.failed
    (fun w w' h hw => (hends.pause w w' h hw).1) t _ ht
  obtain ⟨w', hnone, hsteps⟩ := looks hends hw ht
  have hlook : Step sys (f.setThread t (some ⟨i, j, .waiting o k w'⟩)) _ :=
    .look_free (Function.update_self ..) hnone hfree
  obtain ⟨r, f', h⟩ := ((reached.steps hsteps).step hlook).sets himpl hsafe hR hfree (Function.update_self ..)
  refine ⟨r, f', (h.trans (.single hlook) rfl rfl).trans hsteps rfl rfl⟩

/-- A client with the lock free runs to its end. -/
theorem Reachable.client_ends (hends : sys.backoff.Ends P left) {p : Prog S β}
    (reached : Reachable sys x f) (hfree : f.word = 0#32) (ht : f.threads t = some ⟨i, j, .client p⟩) :
    ∃ f', Alone sys f t none f' := by
  induction p generalizing f with
  | ret b => exact ⟨_, .single (.finish t i j b ht), rfl, rfl, hfree⟩
  | exec o k ih =>
    have hcall : Step sys f _ := .call t i j o k ht
    obtain ⟨r, f₁, h₁⟩ := (reached.step hcall).waited himpl hsafe hR hends hfree (Function.update_self ..)
    have h₁ := h₁.trans (.single hcall) rfl rfl
    obtain ⟨f', h'⟩ := ih r (reached.steps h₁.steps) h₁.free h₁.self
    exact ⟨f', h'.trans h₁.steps h₁.threads h₁.next⟩

/-- With the lock free any thread can run to its end. -/
theorem Reachable.ends (hends : sys.backoff.Ends P left) (reached : Reachable sys x f)
    (hfree : f.word = 0#32) (ht : f.threads t = some th) : ∃ f', Alone sys f t none f' := by
  have hout := reached.not_inside himpl hsafe hR hfree ht
  have after {p : Prog S β} {f₁ : LockPool S T σ W J β}
      (h₁ : Alone sys f t (some ⟨th.invocation, th.job, .client p⟩) f₁) : ∃ f', Alone sys f t none f' := by
    obtain ⟨f', h'⟩ := (reached.steps h₁.steps).client_ends himpl hsafe hR hends h₁.free h₁.self
    exact ⟨f', h'.trans h₁.steps h₁.threads h₁.next⟩
  obtain ⟨i, j, ph⟩ := th
  cases ph with
  | client p => exact reached.client_ends himpl hsafe hR hends hfree ht
  | waiting o k w =>
    obtain ⟨r, f₁, h₁⟩ := reached.waited himpl hsafe hR hends hfree ht
    exact after h₁
  | setting o k w =>
    obtain ⟨r, f₁, h₁⟩ := reached.sets himpl hsafe hR hfree ht
    exact after h₁
  | inside o k p => cases hout

/-- The lock can be released. -/
theorem Reachable.released (reached : Reachable sys x f) :
    ∃ f', ReflTransGen (Step sys) f f' ∧ f'.next = f.next ∧ f'.word = 0#32 := by
  obtain ⟨c, holder, hc, h⟩ := reached.refined himpl hsafe hR
  cases holder with
  | none => exact ⟨f, .refl, rfl, h.word⟩
  | some t =>
    obtain ⟨i, j, o, k, p, r, y, -, ht, hrun, -⟩ := h.held t rfl
    obtain ⟨f', h'⟩ := leaves ht hrun
    exact ⟨f', h'.steps, h'.next, h'.free⟩

end Progress

/-! ## All threads -/

theorem Step.threads_eq (h : Step sys f f') : ∃ t th, f'.threads = Function.update f.threads t th := by
  cases h <;> exact ⟨_, _, rfl⟩

/-- Only finitely many threads run. -/
theorem Reachable.finite (reached : Reachable sys x f) :
    ∃ ts : List Nat, ∀ t, f.threads t ≠ none → t ∈ ts := by
  induction reached with
  | init => exact ⟨[], fun _ ht => absurd rfl ht⟩
  | step _ step ih =>
    obtain ⟨ts, hts⟩ := ih
    obtain ⟨t, th, hthreads⟩ := step.threads_eq
    refine ⟨t :: ts, fun t' ht' => ?_⟩
    rcases eq_or_ne t' t with rfl | hne
    · exact List.mem_cons_self
    · rw [hthreads, Function.update_of_ne hne] at ht'
      exact List.mem_cons_of_mem t (hts t' ht')

/-- There is a way on from every state that is reached on which no thread starts and all that run
come to their ends. -/
theorem Reachable.finishes (himpl : Implements sys.machine I sys.impl R) (hsafe : Safe sys.body I x₀)
    (hR : R x x₀) (hends : sys.backoff.Ends P left) (reached : Reachable sys x f) :
    ∃ f', ReflTransGen (Step sys) f f' ∧ f'.next = f.next ∧ ∀ t, f'.threads t = none := by
  obtain ⟨f₁, hsteps₁, hnext₁, hfree⟩ := reached.released himpl hsafe hR
  have reached₁ := reached.steps hsteps₁
  obtain ⟨ts, hts⟩ := reached₁.finite
  suffices hall : ∃ f', ReflTransGen (Step sys) f₁ f' ∧ f'.next = f₁.next ∧ ∀ t, f'.threads t = none by
    obtain ⟨f', hsteps, hnext, hnone⟩ := hall
    exact ⟨f', hsteps₁.trans hsteps, hnext.trans hnext₁, hnone⟩
  clear hsteps₁ hnext₁
  induction ts generalizing f₁ with
  | nil => exact ⟨f₁, .refl, rfl, fun t => by_contra fun ht => nomatch hts t ht⟩
  | cons t ts ih =>
    have hrest {f₂ : LockPool S T σ W J β} (hself : f₂.threads t = none)
        (hother : ∀ t', t' ≠ t → f₂.threads t' = f₁.threads t') : ∀ t', f₂.threads t' ≠ none → t' ∈ ts := by
      intro t' ht'
      have hne : t' ≠ t := by
        rintro rfl
        exact ht' hself
      rw [hother t' hne] at ht'
      exact List.mem_of_ne_of_mem hne (hts t' ht')
    rcases hth : f₁.threads t with _ | th
    · exact ih f₁ hfree reached₁ (hrest hth fun _ _ => rfl)
    · obtain ⟨f₂, h₂⟩ := reached₁.ends himpl hsafe hR hends hfree hth
      obtain ⟨f', hsteps, hnext, hnone⟩ := ih f₂ h₂.free (reached₁.steps h₂.steps)
        (hrest h₂.self fun t' hne => by rw [h₂.threads, Function.update_of_ne hne])
      exact ⟨f', h₂.steps.trans hsteps, hnext.trans h₂.next, hnone⟩

end LockPool

end Effect
