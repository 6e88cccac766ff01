-- SUMMARY: Bisection by a three-way comparison, and that it finds what there is to be found.
import Mathlib.Tactic.Common

/-!
# Bisection

`bisect` looks for an index whose comparison is `eq`. The comparison is all that is known
of the items, and it has to be monotone: what is sought lies before every item behind one
that it lies before, and behind every item before one that it lies behind.
-/

namespace Store

variable {compare : Nat → Ordering} {left right i : Nat}

/-- An index from `left` up to `right` at which the comparison is `eq`, if there is one. -/
def bisect (compare : Nat → Ordering) (left right : Nat) : Option Nat :=
  if left < right then
    let idx := left + (right - left) / 2
    match compare idx with
    | .lt => bisect compare left idx
    | .gt => bisect compare (idx + 1) right
    | .eq => some idx
  else none
termination_by right - left

structure Monotone (compare : Nat → Ordering) (left right : Nat) : Prop where
  lt : ∀ i j, left ≤ i → i < j → j < right → compare i = .lt → compare j = .lt
  gt : ∀ i j, left ≤ i → i < j → j < right → compare j = .gt → compare i = .gt

theorem Monotone.narrow {left' right' : Nat} (h : Monotone compare left right) (hl : left ≤ left')
    (hr : right' ≤ right) : Monotone compare left' right' where
  lt i j hi hij hj := h.lt i j (Nat.le_trans hl hi) hij (Nat.lt_of_lt_of_le hj hr)
  gt i j hi hij hj := h.gt i j (Nat.le_trans hl hi) hij (Nat.lt_of_lt_of_le hj hr)

/-- What bisection finds is there. -/
theorem bisect_sound (h : bisect compare left right = some i) :
    left ≤ i ∧ i < right ∧ compare i = .eq := by
  fun_induction bisect compare left right with
  | case1 left right hlt idx _ ih =>
    obtain ⟨hle, hi, heq⟩ := ih h
    exact ⟨hle, by omega, heq⟩
  | case2 left right hlt idx _ ih =>
    obtain ⟨hle, hi, heq⟩ := ih h
    exact ⟨by omega, hi, heq⟩
  | case3 left right hlt idx heq =>
    rw [← Option.some.inj h]
    exact ⟨by omega, by omega, heq⟩
  | case4 => cases h

/-- What is there is found. -/
theorem bisect_complete (hmono : Monotone compare left right) (h : bisect compare left right = none) :
    ∀ i, left ≤ i → i < right → compare i ≠ .eq := by
  fun_induction bisect compare left right with
  | case1 left right hlt idx hcompare ih =>
    intro i hi hright heq
    rcases Nat.lt_trichotomy i idx with hlow | rfl | hhigh
    · exact ih (hmono.narrow (Nat.le_refl _) (by omega)) h i hi hlow heq
    · rw [hcompare] at heq
      cases heq
    · rw [hmono.lt idx i (by omega) hhigh hright hcompare] at heq
      cases heq
  | case2 left right hlt idx hcompare ih =>
    intro i hi hright heq
    rcases Nat.lt_trichotomy i idx with hlow | rfl | hhigh
    · rw [hmono.gt i idx hi hlow (by omega) hcompare] at heq
      cases heq
    · rw [hcompare] at heq
      cases heq
    · exact ih (hmono.narrow (by omega) (Nat.le_refl _)) h i hhigh hright heq
  | case3 => cases h
  | case4 left right hle =>
    intro i hi hright
    omega

end Store
