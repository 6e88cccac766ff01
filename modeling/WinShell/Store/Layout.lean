-- SUMMARY: Items of varying extent laid out one behind the other, and the address of each.
import Mathlib.Tactic.Common
import Mathlib.Data.List.Nodup

/-!
# Layouts

A sequence of items occupies memory from a first address on, each item directly
behind the one before it. `after` is the address behind a sequence, and `placed`
pairs each item with its address. What is known of every item at its address is a
statement about the members of `placed`; the lemmas say how these change when a part
of the sequence is replaced.
-/

namespace Store

variable {α : Type} {extent : α → Nat} {a b : Nat} {x y : α} {xs ys zs : List α}

/-- The address behind `xs`, laid out from `a` on. -/
def after (extent : α → Nat) (a : Nat) : List α → Nat
  | [] => a
  | x :: xs => after extent (a + extent x) xs

/-- The items of `xs` with their addresses. -/
def placed (extent : α → Nat) (a : Nat) : List α → List (Nat × α)
  | [] => []
  | x :: xs => (a, x) :: placed extent (a + extent x) xs

@[simp] theorem after_nil : after extent a [] = a := rfl

@[simp] theorem after_cons : after extent a (x :: xs) = after extent (a + extent x) xs := rfl

@[simp] theorem placed_nil : placed extent a [] = [] := rfl

@[simp] theorem placed_cons :
    placed extent a (x :: xs) = (a, x) :: placed extent (a + extent x) xs := rfl

@[simp] theorem after_append : after extent a (xs ++ ys) = after extent (after extent a xs) ys := by
  induction xs generalizing a with
  | nil => rfl
  | cons x xs ih => exact ih

@[simp] theorem placed_append :
    placed extent a (xs ++ ys) = placed extent a xs ++ placed extent (after extent a xs) ys := by
  induction xs generalizing a with
  | nil => rfl
  | cons x xs ih => simp [ih]

@[simp] theorem length_placed : (placed extent a xs).length = xs.length := by
  induction xs generalizing a with
  | nil => rfl
  | cons x xs ih => simp [ih]

theorem le_after : a ≤ after extent a xs := by
  induction xs generalizing a with
  | nil => exact Nat.le_refl a
  | cons x xs ih => exact Nat.le_trans (Nat.le_add_right a _) ih

theorem mem_of_placed {p : Nat × α} (h : p ∈ placed extent a xs) : p.2 ∈ xs := by
  induction xs generalizing a with
  | nil => cases h
  | cons x xs ih =>
    rcases List.mem_cons.1 h with rfl | h
    · exact List.mem_cons_self
    · exact List.mem_cons_of_mem x (ih h)

/-- Every item lies within the layout. -/
theorem bounds_of_placed {p : Nat × α} (h : p ∈ placed extent a xs) :
    a ≤ p.1 ∧ p.1 + extent p.2 ≤ after extent a xs := by
  induction xs generalizing a with
  | nil => cases h
  | cons x xs ih =>
    rcases List.mem_cons.1 h with rfl | h
    · exact ⟨Nat.le_refl a, le_after⟩
    · exact ⟨Nat.le_trans (Nat.le_add_right a _) (ih h).1, (ih h).2⟩

/-- An item of a layout splits it. -/
theorem split_of_placed {p : Nat × α} (h : p ∈ placed extent a xs) :
    ∃ ys zs, xs = ys ++ p.2 :: zs ∧ p.1 = after extent a ys := by
  induction xs generalizing a with
  | nil => cases h
  | cons x xs ih =>
    rcases List.mem_cons.1 h with rfl | h
    · exact ⟨[], xs, rfl, rfl⟩
    · obtain ⟨ys, zs, rfl, hp⟩ := ih h
      exact ⟨x :: ys, zs, rfl, hp⟩

theorem placed_mid : (after extent a xs, x) ∈ placed extent a (xs ++ x :: ys) := by
  simp

/-- Two items of a layout are the same, or one lies behind the other. -/
theorem apart_of_placed {p q : Nat × α} (hp : p ∈ placed extent a xs)
    (hq : q ∈ placed extent a xs) :
    p = q ∨ p.1 + extent p.2 ≤ q.1 ∨ q.1 + extent q.2 ≤ p.1 := by
  induction xs generalizing a with
  | nil => cases hp
  | cons x xs ih =>
    rcases List.mem_cons.1 hp with rfl | hp <;> rcases List.mem_cons.1 hq with rfl | hq
    · exact .inl rfl
    · exact .inr (.inl (bounds_of_placed hq).1)
    · exact .inr (.inr (bounds_of_placed hp).1)
    · exact ih hp hq

/-- An address determines its item, where no item is empty. -/
theorem eq_of_placed {p q : Nat × α} (hpos : ∀ x ∈ xs, 0 < extent x)
    (hp : p ∈ placed extent a xs) (hq : q ∈ placed extent a xs) (h : p.1 = q.1) : p = q := by
  have hx := hpos _ (mem_of_placed hp)
  have hy := hpos _ (mem_of_placed hq)
  rcases apart_of_placed hp hq with h' | h' | h'
  · exact h'
  · omega
  · omega

/-- Extents that are multiples of `n` keep the alignment of the first address. -/
theorem dvd_after {n : Nat} (ha : n ∣ a) (hx : ∀ x ∈ xs, n ∣ extent x) :
    n ∣ after extent a xs := by
  induction xs generalizing a with
  | nil => exact ha
  | cons x xs ih =>
    exact ih (Nat.dvd_add ha (hx x List.mem_cons_self)) fun y hy =>
      hx y (List.mem_cons_of_mem x hy)

theorem dvd_of_placed {n : Nat} {p : Nat × α} (ha : n ∣ a) (hx : ∀ x ∈ xs, n ∣ extent x)
    (hp : p ∈ placed extent a xs) : n ∣ p.1 := by
  obtain ⟨ys, zs, rfl, h⟩ := split_of_placed hp
  rw [h]
  exact dvd_after ha fun y hy => hx y (List.mem_append_left _ hy)

end Store
