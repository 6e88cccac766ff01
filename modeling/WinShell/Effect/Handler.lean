-- SUMMARY: Programs over an interface, their handling by programs of a machine, and the refinement between the two.
import WinShell.Effect.Run

/-!
# Handlers

An interface says what the operations of a signature need and what they may do to an
abstract state. A program over the interface is handled by replacing every operation
by a program of a machine. When these programs implement the interface, whatever a
program guarantees over the interface holds of its run on the machine
(`Implements.runs`).
-/

namespace Effect

/-- What an operation needs of an abstract state, and what it may answer and leave behind. -/
structure Interface (S : Signature) (α : Type) where
  Pre : α → S.Op → Prop
  Post : α → (o : S.Op) → S.Ret o → α → Prop

namespace Prog

variable {S T : Signature} {α σ β γ : Type}

/-- Over the interface, `p` has the preconditions of its operations and ends in `Q`. -/
def Meets (I : Interface S α) (Q : β → α → Prop) : Prog S β → α → Prop
  | .ret b, x => Q b x
  | .exec o k, x => I.Pre x o ∧ ∀ r x', I.Post x o r x' → (k r).Meets I Q x'

/-- Replacing every operation by its implementation. -/
def handle (impl : (o : S.Op) → Prog T (S.Ret o)) : Prog S β → Prog T β
  | .ret b => .ret b
  | .exec o k => impl o >>= fun r => (k r).handle impl

theorem Meets.mono {I : Interface S α} {Q Q' : β → α → Prop} {p : Prog S β} {x : α}
    (hQ : ∀ b x', Q b x' → Q' b x') (h : p.Meets I Q x) : p.Meets I Q' x := by
  induction p generalizing x with
  | ret b => exact hQ b x h
  | exec o k ih => exact ⟨h.1, fun r x' hx => ih r (h.2 r x' hx)⟩

end Prog

/-- The programs `impl` implement the interface: from related states, with the precondition,
they return and keep the relation. -/
def Implements {S T : Signature} {α σ : Type} (M : Machine T σ) (I : Interface S α)
    (impl : (o : S.Op) → Prog T (S.Ret o)) (R : σ → α → Prop) : Prop :=
  ∀ s x o, R s x → I.Pre x o →
    ∃ r s' x', (impl o).Runs M s r s' ∧ I.Post x o r x' ∧ R s' x'

/-- A handled program returns, and with what it guarantees over the interface. -/
theorem Implements.runs {S T : Signature} {α σ β : Type} {M : Machine T σ} {I : Interface S α}
    {impl : (o : S.Op) → Prog T (S.Ret o)} {R : σ → α → Prop} (h : Implements M I impl R)
    {Q : β → α → Prop} {p : Prog S β} {s : σ} {x : α} (hp : p.Meets I Q x) (hs : R s x) :
    ∃ b s' x', (p.handle impl).Runs M s b s' ∧ Q b x' ∧ R s' x' := by
  induction p generalizing s x with
  | ret b => exact ⟨b, s, x, Prog.Runs.ret, hp, hs⟩
  | exec o k ih =>
    obtain ⟨r, s₁, x₁, hrun, hpost, hs₁⟩ := h s x o hs hp.1
    obtain ⟨b, s', x', hrun', hQ, hs'⟩ := ih r (hp.2 r x₁ hpost) hs₁
    exact ⟨b, s', x', hrun.bind hrun', hQ, hs'⟩

end Effect
