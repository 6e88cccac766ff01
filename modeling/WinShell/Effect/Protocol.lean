-- SUMMARY: Protocols: what a program may do next, given what it knows of a state that others change too.
import WinShell.Effect.Prog
import Mathlib.Order.Max

/-!
# Protocols

A program that shares its state with others knows only a part of it, its view.
Others may move the view upwards at any time. A protocol says which operations a
view permits and which views an operation may yield, and a program follows the
protocol when each operation it comes to is permitted, whatever the others have
done meanwhile.

A view that nobody else can move is a maximal one. There, following a protocol is
an ordinary step-by-step obligation.
-/

namespace Effect

/-- What a view permits, and what an operation with its answer makes of it. -/
structure Protocol (S : Signature) (V : Type) where
  Permits : V → S.Op → Prop
  Yields : V → (o : S.Op) → S.Ret o → V → Prop

namespace Prog

variable {S : Signature} {V α β : Type} [PartialOrder V] {P : Protocol S V}
  {Q Q' : α → V → Prop} {v v' : V}

/-- From the view `v`, every operation of the program is permitted, and `Q` holds
of its value when it ends, whatever others do in between. -/
def Follows (P : Protocol S V) (Q : α → V → Prop) : Prog S α → V → Prop
  | .ret a, v => ∀ v', v ≤ v' → Q a v'
  | .exec o k, v => ∀ v', v ≤ v' → P.Permits v' o ∧
    ∀ r v'', P.Yields v' o r v'' → Follows P Q (k r) v''

/-- Others do not keep a program from following the protocol. -/
theorem Follows.of_le {p : Prog S α} (h : p.Follows P Q v) (hle : v ≤ v') :
    p.Follows P Q v' := by
  cases p with
  | ret a => exact fun w hw => h w (hle.trans hw)
  | exec o k => exact fun w hw => h w (hle.trans hw)

/-! ## Rules -/

theorem Follows.ret {a : α} (hv : IsMax v) (h : Q a v) : (Prog.ret a : Prog S α).Follows P Q v := by
  intro w hw
  rwa [← hv.eq_of_le hw]

theorem Follows.exec {o : S.Op} {k : S.Ret o → Prog S α} (hv : IsMax v) (hpermits : P.Permits v o)
    (h : ∀ r w, P.Yields v o r w → (k r).Follows P Q w) : (Prog.exec o k).Follows P Q v := by
  intro w hw
  obtain rfl := hv.eq_of_le hw
  exact ⟨hpermits, h⟩

/-- A program follows the protocol when it does after every move of the others. -/
theorem Follows.exec_of_forall {o : S.Op} {k : S.Ret o → Prog S α}
    (h : ∀ w, v ≤ w → P.Permits w o ∧ ∀ r w', P.Yields w o r w' → (k r).Follows P Q w') :
    (Prog.exec o k).Follows P Q v :=
  h

theorem Follows.mono {p : Prog S α} (hQ : ∀ a w, Q a w → Q' a w) (h : p.Follows P Q v) :
    p.Follows P Q' v := by
  induction p generalizing v with
  | ret a => exact fun w hw => hQ a w (h w hw)
  | exec o k ih =>
    intro w hw
    obtain ⟨hpermits, hyields⟩ := h w hw
    exact ⟨hpermits, fun r w' hr => ih r (hyields r w' hr)⟩

theorem Follows.bind {p : Prog S α} {f : α → Prog S β} {Q : β → V → Prop}
    (h : p.Follows P (fun a w => (f a).Follows P Q w) v) : (p >>= f).Follows P Q v := by
  induction p generalizing v with
  | ret a => exact h v le_rfl
  | exec o k ih =>
    intro w hw
    obtain ⟨hpermits, hyields⟩ := h w hw
    exact ⟨hpermits, fun r w' hr => ih r (hyields r w' hr)⟩

theorem Follows.permits {o : S.Op} {k : S.Ret o → Prog S α}
    (h : (Prog.exec o k).Follows P Q v) : P.Permits v o :=
  (h v le_rfl).1

theorem Follows.yields {o : S.Op} {k : S.Ret o → Prog S α} {r : S.Ret o}
    (h : (Prog.exec o k).Follows P Q v) (hr : P.Yields v o r v') : (k r).Follows P Q v' :=
  (h v le_rfl).2 r v' hr

theorem Follows.value {a : α} (h : (Prog.ret a : Prog S α).Follows P Q v) : Q a v :=
  h v le_rfl

end Prog

end Effect
