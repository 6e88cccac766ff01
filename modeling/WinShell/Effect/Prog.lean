-- SUMMARY: Programs as trees of effects: each node performs one operation and continues with its answer.
import Mathlib.Tactic.Common

/-!
# Effect programs

A program over a signature of operations is an interaction tree of finite
depth. A node performs one operation and branches on its answer; a leaf returns
a value. The tree says nothing about what an operation does. A machine
(`Effect.Run`), a protocol (`Effect.Protocol`) or a pool of threads
(`Effect.Pool`) gives it meaning.
-/

namespace Effect

/-- The operations of a language and the type of the answer to each. -/
structure Signature where
  Op : Type
  Ret : Op → Type

/-- A program that performs operations of `S` and returns an `α`. -/
inductive Prog (S : Signature) (α : Type) : Type where
  | ret (a : α)
  | exec (o : S.Op) (k : S.Ret o → Prog S α)

namespace Prog

variable {S : Signature} {α β γ : Type}

def bind : Prog S α → (α → Prog S β) → Prog S β
  | .ret a, f => f a
  | .exec o k, f => .exec o (fun r => (k r).bind f)

/-- The program that performs one operation and returns its answer. -/
@[simp] def perform (o : S.Op) : Prog S (S.Ret o) :=
  .exec o .ret

instance : Monad (Prog S) where
  pure := .ret
  bind := .bind

@[simp] theorem pure_eq (a : α) : (pure a : Prog S α) = .ret a := rfl

@[simp] theorem ret_bind (a : α) (f : α → Prog S β) : (Prog.ret a >>= f) = f a := rfl

@[simp] theorem exec_bind (o : S.Op) (k : S.Ret o → Prog S α) (f : α → Prog S β) :
    (Prog.exec o k >>= f) = .exec o (fun r => k r >>= f) := rfl

@[simp] theorem ite_bind {c : Prop} [Decidable c] (p q : Prog S α) (f : α → Prog S β) :
    ((if c then p else q) >>= f) = if c then p >>= f else q >>= f := by
  split <;> rfl

theorem bind_ret (p : Prog S α) : p >>= .ret = p := by
  induction p with
  | ret a => rfl
  | exec o k ih =>
    rw [exec_bind]
    congr 1
    funext r
    exact ih r

theorem bind_assoc (p : Prog S α) (f : α → Prog S β) (g : β → Prog S γ) :
    (p >>= f) >>= g = p >>= fun a => f a >>= g := by
  induction p with
  | ret a => rfl
  | exec o k ih =>
    simp only [exec_bind]
    congr 1
    funext r
    exact ih r

instance : LawfulMonad (Prog S) :=
  LawfulMonad.mk' (Prog S) bind_ret (fun _ _ => rfl) bind_assoc

end Prog

end Effect
