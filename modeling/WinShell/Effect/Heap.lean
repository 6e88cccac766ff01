-- SUMMARY: Heaps whose identifiers are never handed out twice.
import Mathlib.Data.List.AList

/-!
# Heaps of identified cells

A heap maps identifiers to cells and remembers the next identifier it will hand
out. An identifier names one allocation for ever: freeing a cell does not make
its identifier available again, so a cell that is live was never freed, and an
access after a free cannot be mistaken for an access to a later allocation.

The bound on the identifiers in use is a field, so a heap with a stale `next`
cannot be built.
-/

namespace Effect

structure Heap (ν : Type) where
  cells : AList (fun _ : Nat => ν)
  next : Nat
  /-- Every identifier in use was handed out before. -/
  bound : ∀ p ∈ cells, p < next

namespace Heap

variable {ν : Type} {h : Heap ν} {p q : Nat} {v w : ν}

def empty : Heap ν := ⟨∅, 0, fun p hp => absurd hp (AList.notMem_empty p)⟩

/-- The cell at `p`, `none` when `p` was freed or never handed out. -/
def get (h : Heap ν) (p : Nat) : Option ν := h.cells.lookup p

/-- Allocate a cell, at the identifier `h.next`. -/
def push (h : Heap ν) (v : ν) : Heap ν where
  cells := h.cells.insert h.next v
  next := h.next + 1
  bound := by
    intro p hp
    rcases (AList.mem_insert _).mp hp with rfl | hp
    · exact Nat.lt_succ_self _
    · exact Nat.lt_succ_of_lt (h.bound p hp)

/-- Overwrite a live cell; a write to any other identifier is lost. -/
def set (h : Heap ν) (p : Nat) (v : ν) : Heap ν where
  cells := if p ∈ h.cells then h.cells.insert p v else h.cells
  next := h.next
  bound := by
    intro q hq
    split at hq
    · rcases (AList.mem_insert _).mp hq with rfl | hq
      · exact h.bound _ ‹_›
      · exact h.bound q hq
    · exact h.bound q hq

def free (h : Heap ν) (p : Nat) : Heap ν where
  cells := h.cells.erase p
  next := h.next
  bound := fun q hq => h.bound q (AList.mem_erase.mp hq).2

/-- The heap after one identifier has been handed out and taken back. -/
def skip (h : Heap ν) : Heap ν where
  cells := h.cells
  next := h.next + 1
  bound := fun p hp => Nat.lt_succ_of_lt (h.bound p hp)

/-- The identifiers in use. -/
def live (h : Heap ν) : List Nat := h.cells.keys

@[ext] theorem ext {h₁ h₂ : Heap ν} (hc : h₁.cells = h₂.cells) (hn : h₁.next = h₂.next) :
    h₁ = h₂ := by
  cases h₁; cases h₂; simp_all

/-! ## Identifiers -/

@[simp] theorem next_push : (h.push v).next = h.next + 1 := rfl
@[simp] theorem next_set : (h.set p v).next = h.next := rfl
@[simp] theorem next_free : (h.free p).next = h.next := rfl
@[simp] theorem next_skip : h.skip.next = h.next + 1 := rfl

theorem lt_next (hp : h.get p = some v) : p < h.next :=
  h.bound p (AList.lookup_isSome.mp (by simp only [get] at hp; simp [hp]))

theorem next_not_mem : h.next ∉ h.cells :=
  fun hp => Nat.lt_irrefl _ (h.bound _ hp)

@[simp] theorem get_next : h.get h.next = none :=
  AList.lookup_eq_none.mpr next_not_mem

theorem ne_next (hp : h.get p = some v) : p ≠ h.next :=
  fun heq => Nat.lt_irrefl _ (heq ▸ lt_next hp)

/-! ## Reading back -/

@[simp] theorem get_empty : (empty : Heap ν).get p = none := AList.lookup_empty p

@[simp] theorem get_push_next : (h.push v).get h.next = some v :=
  AList.lookup_insert h.cells

theorem get_push_of_ne (hp : p ≠ h.next) : (h.push v).get p = h.get p :=
  AList.lookup_insert_ne hp

theorem get_push_of_get (hp : h.get p = some w) : (h.push v).get p = some w := by
  rw [get_push_of_ne (ne_next hp), hp]

theorem get_set_self (hp : (h.get p).isSome) : (h.set p v).get p = some v := by
  have hmem : p ∈ h.cells := AList.lookup_isSome.mp hp
  simp [get, set, hmem]

theorem get_set_of_ne (hq : q ≠ p) : (h.set p v).get q = h.get q := by
  unfold get set
  split
  · exact AList.lookup_insert_ne hq
  · rfl

@[simp] theorem get_free_self : (h.free p).get p = none := AList.lookup_erase p h.cells

theorem get_free_of_ne (hq : q ≠ p) : (h.free p).get q = h.get q :=
  AList.lookup_erase_ne hq

@[simp] theorem get_skip : h.skip.get p = h.get p := rfl

/-! ## Live cells -/

theorem isSome_get_push :
    ((h.push v).get p).isSome = true ↔ p = h.next ∨ (h.get p).isSome = true := by
  rcases eq_or_ne p h.next with rfl | hne
  · simp
  · simp [get_push_of_ne hne, hne]

@[simp] theorem isSome_get_set : ((h.set p v).get q).isSome = (h.get q).isSome := by
  rcases eq_or_ne q p with rfl | hne
  · cases hq : (h.get q).isSome with
    | true => rw [get_set_self hq, Option.isSome_some]
    | false =>
      have hmem : q ∉ h.cells := by
        intro hmem
        have hsome : (h.get q).isSome = true := AList.lookup_isSome.mpr hmem
        rw [hq] at hsome
        cases hsome
      simpa only [get, set, if_neg hmem] using hq
  · rw [get_set_of_ne hne]

theorem isSome_get_free :
    ((h.free p).get q).isSome = true ↔ q ≠ p ∧ (h.get q).isSome = true := by
  rcases eq_or_ne q p with rfl | hne
  · simp
  · simp [get_free_of_ne hne, hne]

/-! ## One allocation, seen from its allocator

The laws by which a cell that is allocated, updated and freed by one owner
leaves no trace but the identifier it used up. -/

@[simp] theorem set_push_next : (h.push v).set h.next w = h.push w := by
  have hmem : h.next ∈ h.cells.insert h.next v := (AList.mem_insert _).mpr (.inl rfl)
  apply Heap.ext
  · simp only [set, push, hmem, if_true]
    exact AList.insert_insert h.cells
  · rfl

/-- Only the last write to a cell remains. -/
@[simp] theorem set_set : (h.set p v).set p w = h.set p w := by
  apply Heap.ext
  · by_cases hp : p ∈ h.cells
    · have hmem : p ∈ h.cells.insert p v := (AList.mem_insert _).mpr (.inl rfl)
      simp only [set, hp, hmem, if_true]
      exact AList.insert_insert h.cells
    · simp only [set, hp, if_false]
  · rfl

@[simp] theorem free_push_next : (h.push v).free h.next = h.skip := by
  apply Heap.ext
  · apply AList.ext
    have hnot : h.next ∉ h.cells.entries.keys := next_not_mem
    show List.kerase h.next (List.kinsert h.next v h.cells.entries) = h.cells.entries
    simp [hnot]
  · rfl

@[simp] theorem live_push : (h.push v).live = h.next :: h.live := by
  have hnot : h.next ∉ h.cells.keys := next_not_mem
  simp [live, push, hnot]

@[simp] theorem live_skip : h.skip.live = h.live := rfl

end Heap

end Effect
