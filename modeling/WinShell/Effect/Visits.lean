-- SUMMARY: The operations that a run comes to, each with the state in which the machine is asked for it.
import WinShell.Effect.Run

/-!
# Visits

The final state of a run does not show what an operation was given on the way,
nor the state that it found. `Prog.visits` lists both. The last visit of a run
that stops is the operation at which it stopped; a run that returns got an
answer to each of its visits.

`Prog.All` speaks of the program instead of a run: every operation in its tree
has a property, whatever the answers are.
-/

namespace Effect

namespace Prog

variable {S : Signature} {σ α β : Type} {M : Machine S σ} {P : S.Op → Prop}

/-- The operations that a run comes to, oldest first. -/
def visits (M : Machine S σ) : Prog S α → σ → List (S.Op × σ)
  | .ret _, _ => []
  | .exec o k, s =>
    (o, s) ::
      match M s o with
      | (some r, s') => (k r).visits M s'
      | (none, _) => []

@[simp] theorem visits_ret (a : α) (s : σ) : (Prog.ret a : Prog S α).visits M s = [] := rfl

theorem visits_exec (o : S.Op) (k : S.Ret o → Prog S α) (s : σ) :
    (Prog.exec o k).visits M s =
      (o, s) ::
        match M s o with
        | (some r, s') => (k r).visits M s'
        | (none, _) => [] := by
  rw [visits]

theorem visits_bind (p : Prog S α) (f : α → Prog S β) (s : σ) :
    (p >>= f).visits M s =
      p.visits M s ++
        match p.run M s with
        | (some a, s') => (f a).visits M s'
        | (none, _) => [] := by
  induction p generalizing s with
  | ret a => rfl
  | exec o k ih =>
    rw [exec_bind, visits_exec, visits_exec, run_exec, List.cons_append]
    rcases M s o with ⟨_ | r, s'⟩
    · rfl
    · simp only [ih r s']

/-- The machine answers every operation of a run that returns. -/
theorem answered_of_run {p : Prog S α} {s s' : σ} {a : α} (hrun : p.run M s = (some a, s'))
    {o : S.Op} {s₀ : σ} (hvisit : (o, s₀) ∈ p.visits M s) : (M s₀ o).1.isSome := by
  induction p generalizing s with
  | ret b => cases hvisit
  | exec o' k ih =>
    rw [run_exec] at hrun
    rw [visits_exec] at hvisit
    rcases hM : M s o' with ⟨_ | r, s₁⟩
    · rw [hM] at hrun
      cases hrun
    · rw [hM] at hrun hvisit
      rcases List.mem_cons.mp hvisit with heq | hvisit
      · cases heq
        rw [hM]
        rfl
      · exact ih r hrun hvisit

/-! ## Operations of a program -/

/-- Every operation in the tree of the program has the property. -/
def All (P : S.Op → Prop) : Prog S α → Prop
  | .ret _ => True
  | .exec o k => P o ∧ ∀ r, (k r).All P

@[simp] theorem all_ret (a : α) : (Prog.ret a : Prog S α).All P := trivial

@[simp] theorem all_exec (o : S.Op) (k : S.Ret o → Prog S α) :
    (Prog.exec o k).All P ↔ P o ∧ ∀ r, (k r).All P :=
  Iff.rfl

@[simp] theorem all_ite {c : Prop} [Decidable c] (p q : Prog S α) :
    (if c then p else q).All P ↔ (c → p.All P) ∧ (¬c → q.All P) := by
  split <;> simp [*]

/-- A run comes to operations of its program only. -/
theorem All.visited {p : Prog S α} (h : p.All P) {s s₀ : σ} {o : S.Op}
    (hvisit : (o, s₀) ∈ p.visits M s) : P o := by
  induction p generalizing s with
  | ret b => cases hvisit
  | exec o' k ih =>
    obtain ⟨hhead, htail⟩ := h
    rw [visits_exec] at hvisit
    rcases List.mem_cons.mp hvisit with heq | hvisit
    · cases heq
      exact hhead
    · rcases hM : M s o' with ⟨_ | r, s₁⟩
      · rw [hM] at hvisit
        cases hvisit
      · rw [hM] at hvisit
        exact ih r (htail r) hvisit

end Prog

end Effect
