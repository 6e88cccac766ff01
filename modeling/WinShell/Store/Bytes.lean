-- SUMMARY: Bytes in memory, numbers in little-endian order, and readers that decode what lies at an address.
import Mathlib.Tactic.Common
import Mathlib.Data.Nat.Bitwise

/-!
# Bytes and readers

Memory is a function to bytes. A reader takes the address of an encoded value and gives
the value with the address behind it. `Decodes` says that a reader does so for an
encoding wherever it lies; the rules follow the structure of a reader, so that the
decoding of a record is put together from the decodings of its fields.
-/

namespace Store

abbrev Memory := Nat → BitVec 8

variable {mem mem' : Memory} {a b m n v : Nat} {x : BitVec 8} {xs ys : List (BitVec 8)}

/-! ## Bytes -/

/-- The bytes `xs` lie at `a`. -/
def Lies (mem : Memory) (a : Nat) : List (BitVec 8) → Prop
  | [] => True
  | x :: xs => mem a = x ∧ Lies mem (a + 1) xs

instance Lies.decidable (mem : Memory) (a : Nat) : (xs : List (BitVec 8)) → Decidable (Lies mem a xs)
  | [] => inferInstanceAs (Decidable True)
  | x :: xs =>
    have := Lies.decidable mem (a + 1) xs
    inferInstanceAs (Decidable (mem a = x ∧ Lies mem (a + 1) xs))

@[simp] theorem lies_nil : Lies mem a [] := trivial

@[simp] theorem lies_cons : Lies mem a (x :: xs) ↔ mem a = x ∧ Lies mem (a + 1) xs := Iff.rfl

theorem lies_append : Lies mem a (xs ++ ys) ↔ Lies mem a xs ∧ Lies mem (a + xs.length) ys := by
  induction xs generalizing a with
  | nil => simp
  | cons x xs ih =>
    rw [List.cons_append, lies_cons, lies_cons, ih, and_assoc, List.length_cons, Nat.add_assoc,
      Nat.add_comm 1]

theorem Lies.congr (h : Lies mem a xs) (hsame : ∀ i < xs.length, mem' (a + i) = mem (a + i)) :
    Lies mem' a xs := by
  induction xs generalizing a with
  | nil => trivial
  | cons x xs ih =>
    refine ⟨(hsame 0 (Nat.succ_pos _)).trans h.1, ih h.2 fun i hi => ?_⟩
    have := hsame (i + 1) (Nat.succ_lt_succ hi)
    rwa [← Nat.add_assoc, Nat.add_right_comm] at this

/-- A memory with `xs` at `a`. -/
def Memory.holding (a : Nat) (xs : List (BitVec 8)) : Memory := fun b => xs.getD (b - a) 0

theorem lies_holding : Lies (Memory.holding a xs) a xs := by
  have hfrom (n : Nat) (hn : n ≤ xs.length) : Lies (Memory.holding a xs) (a + n) (xs.drop n) := by
    obtain ⟨k, hk⟩ : ∃ k, k = xs.length - n := ⟨_, rfl⟩
    induction k generalizing n with
    | zero =>
      rw [List.drop_eq_nil_of_le (by omega)]
      trivial
    | succ k ih =>
      have hlt : n < xs.length := by omega
      rw [List.drop_eq_getElem_cons hlt]
      refine ⟨?_, ih (n + 1) hlt (by omega)⟩
      rw [Memory.holding, Nat.add_sub_cancel_left, List.getD_eq_getElem _ _ hlt]
  exact hfrom 0 (Nat.zero_le _)

/-- The number in `n` bytes, the lowest one first. -/
def load (mem : Memory) (a : Nat) : Nat → Nat
  | 0 => 0
  | n + 1 => (mem a).toNat + 256 * load mem (a + 1) n

theorem load_lt : load mem a n < 256 ^ n := by
  induction n generalizing a with
  | zero => exact Nat.one_pos
  | succ n ih =>
    have hbyte := (mem a).isLt
    have hrest := @ih (a + 1)
    rw [load, Nat.pow_succ]
    omega

theorem load_add : load mem a (m + n) = load mem a m + 256 ^ m * load mem (a + m) n := by
  induction m generalizing a with
  | zero => simp [load]
  | succ m ih =>
    rw [Nat.add_right_comm, load, load, ih, Nat.pow_succ, Nat.mul_add, ← Nat.add_assoc,
      Nat.add_right_comm a 1 m, Nat.mul_comm (256 ^ m) 256, Nat.mul_assoc]
    rfl

theorem load_congr (h : ∀ i < n, mem' (a + i) = mem (a + i)) : load mem' a n = load mem a n := by
  induction n generalizing a with
  | zero => rfl
  | succ n ih =>
    have hrest : load mem' (a + 1) n = load mem (a + 1) n := ih fun i hi => by
      have := h (i + 1) (Nat.succ_lt_succ hi)
      rwa [← Nat.add_assoc, Nat.add_right_comm] at this
    have hbyte : mem' a = mem a := h 0 (Nat.succ_pos n)
    rw [load, load, hrest, hbyte]

/-- The `n` low bytes of a number. -/
def bytesOf (v : Nat) : Nat → List (BitVec 8)
  | 0 => []
  | n + 1 => BitVec.ofNat 8 v :: bytesOf (v / 256) n

@[simp] theorem length_bytesOf : (bytesOf v n).length = n := by
  induction n generalizing v with
  | zero => rfl
  | succ n ih => rw [bytesOf, List.length_cons, ih]

theorem load_of_lies (h : Lies mem a (bytesOf v n)) : load mem a n = v % 256 ^ n := by
  induction n generalizing a v with
  | zero => simp [load, Nat.mod_one]
  | succ n ih =>
    obtain ⟨hbyte, hrest⟩ := h
    rw [load, hbyte, ih hrest, BitVec.toNat_ofNat]
    show v % 256 + 256 * (v / 256 % 256 ^ n) = v % 256 ^ (n + 1)
    rw [Nat.pow_succ, Nat.mul_comm (256 ^ n) 256, Nat.mod_mul]

/-- The memory after the `n` low bytes of `v` have been written to `a`. -/
def store (mem : Memory) (a v n : Nat) : Memory := fun b =>
  if a ≤ b ∧ b < a + n then (bytesOf v n).getD (b - a) 0 else mem b

/-- The memory after `n` bytes have been copied. -/
def copy (mem : Memory) (dst src n : Nat) : Memory := fun b =>
  if dst ≤ b ∧ b < dst + n then mem (src + (b - dst)) else mem b

/-! ## Readers -/

/-- Memory and an address give a value and the address behind it. -/
def Reader (α : Type) := Memory → Nat → α × Nat

namespace Reader

variable {α β : Type}

instance : Monad Reader where
  pure a _ p := (a, p)
  bind r f mem p := f (r mem p).1 mem (r mem p).2

theorem pure_apply (x : α) (p : Nat) : (pure x : Reader α) mem p = (x, p) := rfl

theorem bind_apply (r : Reader α) (f : α → Reader β) (p : Nat) :
    (r >>= f) mem p = f (r mem p).1 mem (r mem p).2 := rfl

/-- In the memory `mem` the reader decodes the bytes `xs` to `x`, wherever they lie. A number may be
loaded together with up to three bytes in front of it. -/
def Decodes (mem : Memory) (r : Reader α) (xs : List (BitVec 8)) (x : α) : Prop :=
  ∀ p, 3 ≤ p → Lies mem p xs → r mem p = (x, p + xs.length)

/-- Reading at another address. -/
def peek (a : Nat) (r : Reader α) : Reader α := fun mem p => ((r mem a).1, p)

/-- Reading a field that may be left out. -/
def optionally [Inhabited α] (c : Bool) (r : Reader α) : Reader α := if c then r else pure default

variable {r : Reader α} {f : α → Reader β} {x x' : α} {y : β}

theorem Decodes.pure : Decodes mem (Pure.pure x : Reader α) [] x := fun _ _ _ => rfl

theorem Decodes.bind (h : Decodes mem r xs x) (hf : Decodes mem (f x) ys y) :
    Decodes mem (r >>= f) (xs ++ ys) y := by
  intro p hp hlies
  obtain ⟨hx, hy⟩ := lies_append.1 hlies
  rw [bind_apply, h p hp hx, hf _ (Nat.le_add_right_of_le hp) hy, List.length_append, Nat.add_assoc]

theorem Decodes.peek (h : (r mem a).1 = x) : Decodes mem (r.peek a) [] x := fun _ _ _ => by
  rw [Reader.peek, h]
  rfl

theorem Decodes.optionally [Inhabited α] {v : Option α} {encode : α → List (BitVec 8)}
    (h : ∀ x ∈ v, Decodes mem r (encode x) x) :
    Decodes mem (Reader.optionally v.isSome r) (v.elim [] encode) (v.getD default) := by
  cases v with
  | none => exact Decodes.pure
  | some x => exact h x rfl

end Reader

end Store
