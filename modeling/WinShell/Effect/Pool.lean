-- SUMMARY: Pools of threads that run programs on a shared state, and the invariants that local protocols give.
import WinShell.Effect.Protocol
import Mathlib.Logic.Function.Basic
import Mathlib.Order.Basic

/-!
# Thread pools

Any number of threads run programs, one operation at a time, in any order, on a
state that an environment changes as well. An idle thread may start any job at
any time; every start is an invocation with a number of its own.

`Represents` connects a shared state with one view for each invocation: whatever
a view permits can be carried out and yields a new view, and a move of the
environment moves views upwards only. Programs that follow the protocol then keep
the views and the state together in every reachable state (`Reachable.viewed`).
-/

namespace Effect

/-- What threads do and what surrounds them: the program of each job, the answers
to the operations of an invocation, and the moves of the environment. -/
structure System (S : Signature) (σ J β : Type) where
  body : J → Prog S β
  Answers : Nat → σ → (o : S.Op) → S.Ret o → σ → Prop
  Moves : σ → σ → Prop

/-- A running thread: its invocation, its job, and what is left to do. -/
structure Thread (S : Signature) (J β : Type) where
  invocation : Nat
  job : J
  prog : Prog S β

structure Pool (S : Signature) (σ J β : Type) where
  shared : σ
  /-- The threads; `none` is an idle one. -/
  threads : Nat → Option (Thread S J β)
  /-- The number of the next invocation. -/
  next : Nat

namespace Pool

variable {S : Signature} {σ J β : Type}

/-- The pool in which every thread is idle. -/
def init (x : σ) : Pool S σ J β := ⟨x, fun _ => none, 0⟩

/-- The pool with the state of one thread replaced. -/
def setThread (s : Pool S σ J β) (t : Nat) (th : Option (Thread S J β)) : Pool S σ J β :=
  { s with threads := Function.update s.threads t th }

@[simp] theorem threads_setThread_self (s : Pool S σ J β) (t : Nat)
    (th : Option (Thread S J β)) : (s.setThread t th).threads t = th := by
  simp only [setThread, Function.update_self]

theorem threads_setThread_of_ne {s : Pool S σ J β} {t t' : Nat} {th : Option (Thread S J β)}
    (h : t' ≠ t) : (s.setThread t th).threads t' = s.threads t' := by
  simp only [setThread, Function.update_of_ne h]

theorem of_setThread {s : Pool S σ J β} {t t' : Nat} {th th' : Thread S J β}
    (h : (s.setThread t (some th)).threads t' = some th') :
    t' = t ∧ th' = th ∨ t' ≠ t ∧ s.threads t' = some th' := by
  rcases eq_or_ne t' t with rfl | hne
  · rw [threads_setThread_self, Option.some.injEq] at h
    exact .inl ⟨rfl, h.symm⟩
  · rw [threads_setThread_of_ne hne] at h
    exact .inr ⟨hne, h⟩

theorem of_setThread_none {s : Pool S σ J β} {t t' : Nat} {th' : Thread S J β}
    (h : (s.setThread t none).threads t' = some th') : t' ≠ t ∧ s.threads t' = some th' := by
  rcases eq_or_ne t' t with rfl | hne
  · rw [threads_setThread_self] at h
    cases h
  · rw [threads_setThread_of_ne hne] at h
    exact ⟨hne, h⟩

variable (sys : System S σ J β)

/-- The steps of a pool. -/
inductive Step (s : Pool S σ J β) : Pool S σ J β → Prop
  | start (t : Nat) (j : J) (h : s.threads t = none) :
      Step s { s.setThread t (some ⟨s.next, j, sys.body j⟩) with next := s.next + 1 }
  | run (t i : Nat) (j : J) (o : S.Op) (k : S.Ret o → Prog S β) (r : S.Ret o) (x : σ)
      (h : s.threads t = some ⟨i, j, .exec o k⟩) (answers : sys.Answers i s.shared o r x) :
      Step s { s.setThread t (some ⟨i, j, k r⟩) with shared := x }
  | finish (t i : Nat) (j : J) (b : β) (h : s.threads t = some ⟨i, j, .ret b⟩) :
      Step s (s.setThread t none)
  | move (x : σ) (moves : sys.Moves s.shared x) : Step s { s with shared := x }

/-- The states that a pool reaches from `x`, with every thread idle. -/
inductive Reachable (x : σ) : Pool S σ J β → Prop
  | init : Reachable x (init x)
  | step {s s' : Pool S σ J β} (reached : Reachable x s) (step : Step sys s s') : Reachable x s'

/-! ## Views -/

variable {V : Type} [PartialOrder V]

/-- A shared state and one view for each invocation belong together. -/
structure Represents (P : Protocol S V) (Rep : σ → (Nat → V) → Prop) : Prop where
  /-- A permitted operation yields a view. -/
  run : ∀ x views i o r x', Rep x views → P.Permits (views i) o → sys.Answers i x o r x' →
    ∃ v, P.Yields (views i) o r v ∧ Rep x' (Function.update views i v)
  /-- The environment moves views upwards. -/
  move : ∀ x views x', Rep x views → sys.Moves x x' → ∃ views', views ≤ views' ∧ Rep x' views'

/-- The views of a pool: every running thread follows the protocol from the view
of its invocation, and an invocation that ended did so with a value that `Q`
allows. -/
structure Viewed (P : Protocol S V) (Q : J → β → V → Prop) (Rep : σ → (Nat → V) → Prop)
    (blank : V) (s : Pool S σ J β) (views : Nat → V) : Prop where
  rep : Rep s.shared views
  follows : ∀ t th, s.threads t = some th → th.prog.Follows P (Q th.job) (views th.invocation)
  started : ∀ t th, s.threads t = some th → th.invocation < s.next
  blank : ∀ i, s.next ≤ i → views i = blank
  distinct : ∀ t t' th th', s.threads t = some th → s.threads t' = some th' →
    th.invocation = th'.invocation → t = t'
  ended : ∀ i, i < s.next → (∃ t th, s.threads t = some th ∧ th.invocation = i) ∨
    ∃ j b, (Prog.ret b : Prog S β).Follows P (Q j) (views i)

namespace Viewed

variable {sys : System S σ J β} {P : Protocol S V} {Q : J → β → V → Prop}
  {Rep : σ → (Nat → V) → Prop} {blank : V} {s s' : Pool S σ J β} {views views' : Nat → V}
  {t t' i : Nat} {j : J} {th th' : Thread S J β} {x : σ}

theorem start (h : Viewed P Q Rep blank s views) (ht : s.threads t = none)
    (hbody : (sys.body j).Follows P (Q j) blank) :
    Viewed P Q Rep blank
      { s.setThread t (some ⟨s.next, j, sys.body j⟩) with next := s.next + 1 } views where
  rep := h.rep
  follows := by
    intro t' th hth
    obtain ⟨-, rfl⟩ | ⟨-, hth⟩ := of_setThread hth
    · show (sys.body j).Follows P (Q j) (views s.next)
      rwa [h.blank s.next (Nat.le_refl _)]
    · exact h.follows t' th hth
  started := by
    intro t' th hth
    obtain ⟨-, rfl⟩ | ⟨-, hth⟩ := of_setThread hth
    · exact Nat.lt_succ_self _
    · exact Nat.lt_succ_of_lt (h.started t' th hth)
  blank := fun i hi => h.blank i (Nat.le_of_succ_le hi)
  distinct := by
    intro t₁ t₂ th₁ th₂ h₁ h₂ heq
    obtain ⟨rfl, rfl⟩ | ⟨-, old₁⟩ := of_setThread h₁
    · obtain ⟨rfl, rfl⟩ | ⟨-, old₂⟩ := of_setThread h₂
      · rfl
      · exact absurd heq (Nat.ne_of_gt (h.started t₂ th₂ old₂))
    · obtain ⟨rfl, rfl⟩ | ⟨-, old₂⟩ := of_setThread h₂
      · exact absurd heq (Nat.ne_of_lt (h.started t₁ th₁ old₁))
      · exact h.distinct t₁ t₂ th₁ th₂ old₁ old₂ heq
  ended := by
    intro i hi
    rcases Nat.lt_succ_iff_lt_or_eq.mp hi with hi | rfl
    · obtain ⟨t', th, hth, rfl⟩ | hended := h.ended i hi
      · have hne : t' ≠ t := by
          rintro rfl
          rw [ht] at hth
          cases hth
        exact .inl ⟨t', th, (threads_setThread_of_ne hne).trans hth, rfl⟩
      · exact .inr hended
    · exact .inl ⟨t, _, threads_setThread_self s t _, rfl⟩

theorem run {o : S.Op} {k : S.Ret o → Prog S β} {r : S.Ret o}
    (represents : Represents sys P Rep) (h : Viewed P Q Rep blank s views)
    (ht : s.threads t = some ⟨i, j, .exec o k⟩) (answers : sys.Answers i s.shared o r x) :
    ∃ views', Viewed P Q Rep blank
      { s.setThread t (some ⟨i, j, k r⟩) with shared := x } views' := by
  have hfollows : (Prog.exec o k).Follows P (Q j) (views i) := h.follows t _ ht
  obtain ⟨v, hyields, hrep⟩ :=
    represents.run s.shared views i o r x h.rep hfollows.permits answers
  have hi : i < s.next := h.started t _ ht
  -- No other thread runs the invocation `i`, so no other view changes.
  have hother : ∀ t' th, t' ≠ t → s.threads t' = some th → th.invocation ≠ i :=
    fun t' th hne hth heq => hne (h.distinct t' t th _ hth ht heq)
  refine ⟨Function.update views i v, ?_⟩
  constructor
  · exact hrep
  · intro t' th hth
    obtain ⟨-, rfl⟩ | ⟨hne, hth⟩ := of_setThread hth
    · simpa only [Function.update_self] using hfollows.yields hyields
    · simpa only [Function.update_of_ne (hother t' th hne hth)] using h.follows t' th hth
  · intro t' th hth
    obtain ⟨-, rfl⟩ | ⟨-, hth⟩ := of_setThread hth
    · exact hi
    · exact h.started t' th hth
  · intro i' hi'
    rw [Function.update_of_ne (Nat.ne_of_gt (Nat.lt_of_lt_of_le hi hi'))]
    exact h.blank i' hi'
  · intro t₁ t₂ th₁ th₂ h₁ h₂ heq
    obtain ⟨rfl, rfl⟩ | ⟨hne₁, old₁⟩ := of_setThread h₁
    · obtain ⟨rfl, rfl⟩ | ⟨hne₂, old₂⟩ := of_setThread h₂
      · rfl
      · exact absurd heq.symm (hother t₂ th₂ hne₂ old₂)
    · obtain ⟨rfl, rfl⟩ | ⟨-, old₂⟩ := of_setThread h₂
      · exact absurd heq (hother t₁ th₁ hne₁ old₁)
      · exact h.distinct t₁ t₂ th₁ th₂ old₁ old₂ heq
  · intro i' hi'
    rcases eq_or_ne i' i with rfl | hne
    · exact .inl ⟨t, _, threads_setThread_self s t _, rfl⟩
    · rw [Function.update_of_ne hne]
      obtain ⟨t', th, hth, rfl⟩ | hended := h.ended i' hi'
      · have hne' : t' ≠ t := by
          rintro rfl
          rw [ht] at hth
          cases hth
          exact hne rfl
        exact .inl ⟨t', th, (threads_setThread_of_ne hne').trans hth, rfl⟩
      · exact .inr hended

theorem finish {b : β} (h : Viewed P Q Rep blank s views)
    (ht : s.threads t = some ⟨i, j, .ret b⟩) : Viewed P Q Rep blank (s.setThread t none) views where
  rep := h.rep
  follows := fun t' th hth => h.follows t' th (of_setThread_none hth).2
  started := fun t' th hth => h.started t' th (of_setThread_none hth).2
  blank := h.blank
  distinct := fun t₁ t₂ th₁ th₂ h₁ h₂ =>
    h.distinct t₁ t₂ th₁ th₂ (of_setThread_none h₁).2 (of_setThread_none h₂).2
  ended := by
    intro i' hi'
    obtain ⟨t', th, hth, rfl⟩ | hended := h.ended i' hi'
    · rcases eq_or_ne t' t with rfl | hne
      · rw [ht] at hth
        cases hth
        exact .inr ⟨j, b, h.follows t' _ ht⟩
      · exact .inl ⟨t', th, (threads_setThread_of_ne hne).trans hth, rfl⟩
    · exact .inr hended

theorem move (represents : Represents sys P Rep) (hblank : IsMax blank)
    (h : Viewed P Q Rep blank s views) (moves : sys.Moves s.shared x) :
    ∃ views', Viewed P Q Rep blank { s with shared := x } views' := by
  obtain ⟨views', hle, hrep⟩ := represents.move s.shared views x h.rep moves
  refine ⟨views', hrep, ?_, h.started, ?_, h.distinct, ?_⟩
  · exact fun t th hth => (h.follows t th hth).of_le (hle th.invocation)
  · intro i hi
    have hi' : blank ≤ views' i := h.blank i hi ▸ hle i
    exact (hblank.eq_of_le hi').symm
  · intro i hi
    obtain hrunning | ⟨j, b, hended⟩ := h.ended i hi
    · exact .inl hrunning
    · exact .inr ⟨j, b, hended.of_le (hle i)⟩

theorem step (represents : Represents sys P Rep) (hblank : IsMax blank)
    (hbody : ∀ j, (sys.body j).Follows P (Q j) blank) (h : Viewed P Q Rep blank s views)
    (step : Step sys s s') : ∃ views', Viewed P Q Rep blank s' views' := by
  cases step with
  | start t j ht => exact ⟨views, h.start ht (hbody j)⟩
  | run t i j o k r x ht answers => exact h.run represents ht answers
  | finish t i j b ht => exact ⟨views, h.finish ht⟩
  | move x moves => exact h.move represents hblank moves

end Viewed

/-- When every job follows the protocol, every reachable state has its views. -/
theorem Reachable.viewed {sys : System S σ J β} {P : Protocol S V} {Q : J → β → V → Prop}
    {Rep : σ → (Nat → V) → Prop} {blank : V} {x : σ} {s : Pool S σ J β}
    (represents : Represents sys P Rep) (hblank : IsMax blank) (hinit : Rep x fun _ => blank)
    (hbody : ∀ j, (sys.body j).Follows P (Q j) blank) (reached : Reachable sys x s) :
    ∃ views, Viewed P Q Rep blank s views := by
  induction reached with
  | init =>
    refine ⟨fun _ => blank, hinit, ?_, ?_, fun _ _ => rfl, ?_, ?_⟩
    · exact fun t th hth => nomatch hth
    · exact fun t th hth => nomatch hth
    · exact fun t t' th th' hth => nomatch hth
    · exact fun i hi => absurd hi (Nat.not_lt_zero i)
  | step _ step ih =>
    obtain ⟨views, h⟩ := ih
    exact h.step represents hblank hbody step

end Pool

end Effect
