-- SUMMARY: Running a program on a deterministic machine, and the weakest preconditions of such runs.
import WinShell.Effect.Prog

/-!
# Runs on a machine

A machine answers every operation in its current state, or stops there. The run
of a program returns its value, or `none` when the machine stopped, together
with the state it left behind. `Prog.wp` is the weakest precondition of a run;
it carries a second postcondition for the states in which the machine stops, so
that a property of every state reached survives a run that never returns.
-/

namespace Effect

/-- What a machine does on an operation: the answer, `none` when the operation
stops the machine, and the state afterwards. -/
abbrev Machine (S : Signature) (σ : Type) := σ → (o : S.Op) → Option (S.Ret o) × σ

namespace Prog

variable {S : Signature} {σ α β : Type} {M : Machine S σ}

/-- The run of a program. `none` means that the machine stopped on the way. -/
def run (M : Machine S σ) : Prog S α → σ → Option α × σ
  | .ret a, s => (some a, s)
  | .exec o k, s =>
    match M s o with
    | (some r, s') => (k r).run M s'
    | (none, s') => (none, s')

@[simp] theorem run_ret (a : α) (s : σ) : (Prog.ret a : Prog S α).run M s = (some a, s) := rfl

theorem run_exec (o : S.Op) (k : S.Ret o → Prog S α) (s : σ) :
    (Prog.exec o k).run M s =
      match M s o with
      | (some r, s') => (k r).run M s'
      | (none, s') => (none, s') := by
  rw [run]

theorem run_bind (p : Prog S α) (f : α → Prog S β) (s : σ) :
    (p >>= f).run M s =
      match p.run M s with
      | (some a, s') => (f a).run M s'
      | (none, s') => (none, s') := by
  induction p generalizing s with
  | ret a => rfl
  | exec o k ih =>
    rw [exec_bind, run_exec, run_exec]
    rcases M s o with ⟨_ | r, s'⟩
    · rfl
    · exact ih r s'

/-! ## Runs that return -/

/-- The run of `p` from `s` returns `a` and leaves `s'` behind. -/
def Runs (M : Machine S σ) (p : Prog S α) (s : σ) (a : α) (s' : σ) : Prop :=
  p.run M s = (some a, s')

theorem Runs.ret {a : α} {s : σ} : (Prog.ret a : Prog S α).Runs M s a s := rfl

theorem Runs.perform {o : S.Op} {r : S.Ret o} {s s' : σ} (h : M s o = (some r, s')) :
    (Prog.perform o).Runs M s r s' := by
  rw [Runs, Prog.perform, run_exec, h]
  rfl

theorem Runs.bind {p : Prog S α} {f : α → Prog S β} {a : α} {b : β} {s s₁ s' : σ}
    (hp : p.Runs M s a s₁) (hf : (f a).Runs M s₁ b s') : (p >>= f).Runs M s b s' := by
  rw [Runs] at hp hf ⊢
  rw [run_bind, hp]
  exact hf

/-- The run of `p` from `s` comes to the operation `o'` in the state `s'`, where the machine stops. -/
def StopsAt (M : Machine S σ) (o' : S.Op) (s' : σ) : Prog S α → σ → Prop
  | .ret _, _ => False
  | .exec o k, s =>
    match M s o with
    | (some r, s₁) => (k r).StopsAt M o' s' s₁
    | (none, _) => o = o' ∧ s = s'

theorem StopsAt.exec {o : S.Op} {k : S.Ret o → Prog S α} {s : σ} (h : (M s o).1 = none) :
    (Prog.exec o k).StopsAt M o s s := by
  rw [StopsAt]
  rcases hM : M s o with ⟨_ | r, s'⟩
  · exact ⟨rfl, rfl⟩
  · rw [hM] at h
    cases h

theorem StopsAt.bind {o' : S.Op} {s' : σ} {p : Prog S α} {f : α → Prog S β} {s : σ}
    (h : p.StopsAt M o' s' s) : (p >>= f).StopsAt M o' s' s := by
  induction p generalizing s with
  | ret a => exact h.elim
  | exec o k ih =>
    rw [StopsAt] at h
    rw [exec_bind, StopsAt]
    rcases hM : M s o with ⟨_ | r, s₁⟩
    · rw [hM] at h
      exact h
    · rw [hM] at h
      exact ih r h

theorem Runs.stopsAt {o' : S.Op} {s' : σ} {p : Prog S α} {f : α → Prog S β} {a : α} {s s₁ : σ}
    (hp : p.Runs M s a s₁) (h : (f a).StopsAt M o' s' s₁) : (p >>= f).StopsAt M o' s' s := by
  induction p generalizing s with
  | ret b =>
    obtain ⟨hb, rfl⟩ := Prod.mk.inj hp
    obtain rfl := Option.some.inj hb
    exact h
  | exec o k ih =>
    rw [Runs, run_exec] at hp
    rw [exec_bind, StopsAt]
    rcases hM : M s o with ⟨_ | r, s₂⟩
    · rw [hM] at hp
      cases hp
    · rw [hM] at hp
      exact ih r hp

/-! ## Weakest preconditions -/

/-- Every run of `p` from `s` ends in `Q` when it returns and in `C` when the
machine stops. -/
def wp (M : Machine S σ) (p : Prog S α) (Q : α → σ → Prop) (C : σ → Prop) (s : σ) : Prop :=
  match p.run M s with
  | (some a, s') => Q a s'
  | (none, s') => C s'

variable {Q Q' : α → σ → Prop} {C C' : σ → Prop} {s : σ}

theorem wp.ret {a : α} (h : Q a s) : (Prog.ret a : Prog S α).wp M Q C s := h

theorem wp.bind {p : Prog S α} {f : α → Prog S β} {Q : β → σ → Prop}
    (h : p.wp M (fun a s' => (f a).wp M Q C s') C s) : (p >>= f).wp M Q C s := by
  unfold wp at h ⊢
  rw [run_bind]
  rcases hp : p.run M s with ⟨_ | a, s'⟩
  · simpa [hp] using h
  · simpa [hp] using h

theorem wp.mono {p : Prog S α} (hQ : ∀ a s', Q a s' → Q' a s') (hC : ∀ s', C s' → C' s')
    (h : p.wp M Q C s) : p.wp M Q' C' s := by
  unfold wp at h ⊢
  rcases hp : p.run M s with ⟨_ | a, s'⟩
  · simp only [hp] at h
    exact hC s' h
  · simp only [hp] at h
    exact hQ a s' h

/-- The two postconditions of a run that returned. -/
theorem wp.of_run {p : Prog S α} {a : α} {s' : σ} (h : p.wp M Q C s)
    (hp : p.run M s = (some a, s')) : Q a s' := by
  simpa only [wp, hp] using h

theorem wp.of_stop {p : Prog S α} {s' : σ} (h : p.wp M Q C s)
    (hp : p.run M s = (none, s')) : C s' := by
  simpa only [wp, hp] using h

end Prog

end Effect
