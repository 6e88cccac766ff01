-- SUMMARY: Doubly linked lists: nodes whose forward and backward links agree with a list.
import Mathlib.Tactic.Common
import Mathlib.Data.List.Nodup

/-!
# Doubly linked lists

The links of a node are given by two functions. `Linked` says that the nodes of a
list are linked both ways, from a node before the list to a null node behind it. The
null node has links too, and they may point anywhere. Removing a node or inserting
one at the head changes the links of its neighbours; the laws ask for the new links
on the nodes of the list alone.
-/

namespace Store

variable {α : Type} {next prev next' prev' : α → α} {null before x : α} {xs ys zs : List α}

/-- The nodes of `xs` are linked both ways, between `before` and `null`. -/
def Linked (next prev : α → α) (null : α) : α → List α → Prop
  | _, [] => True
  | before, x :: xs =>
    prev x = before ∧ next x = xs.headD null ∧ Linked next prev null x xs

@[simp] theorem linked_nil : Linked next prev null before [] := trivial

/-- Only the links of the nodes matter. -/
theorem Linked.congr (h : Linked next prev null before xs) (hnext : ∀ x ∈ xs, next' x = next x)
    (hprev : ∀ x ∈ xs, prev' x = prev x) : Linked next' prev' null before xs := by
  induction xs generalizing before with
  | nil => trivial
  | cons x xs ih =>
    refine ⟨(hprev x List.mem_cons_self).trans h.1, (hnext x List.mem_cons_self).trans h.2.1, ?_⟩
    exact ih h.2.2 (fun y hy => hnext y (List.mem_cons_of_mem x hy))
      fun y hy => hprev y (List.mem_cons_of_mem x hy)

/-- The links of a node inside of a list. -/
theorem Linked.mid (h : Linked next prev null before (ys ++ x :: zs)) :
    prev x = ys.getLastD before ∧ next x = zs.headD null ∧ Linked next prev null x zs := by
  induction ys generalizing before with
  | nil => exact h
  | cons y ys ih =>
    obtain ⟨hx, hn, hl⟩ := ih h.2.2
    refine ⟨?_, hn, hl⟩
    rw [hx, List.getLastD_cons]

theorem headD_eq_or_mem : xs.headD null = null ∨ xs.headD null ∈ xs := by
  cases xs with
  | nil => exact .inl rfl
  | cons x xs => exact .inr List.mem_cons_self

theorem getLastD_eq_or_mem : xs.getLastD before = before ∨ xs.getLastD before ∈ xs := by
  cases xs with
  | nil => exact .inl rfl
  | cons x xs =>
    refine .inr ?_
    rw [List.getLastD_cons, List.getLastD_eq_getLast?]
    cases hl : xs.getLast? with
    | none => exact List.mem_cons_self
    | some y => exact List.mem_cons_of_mem x (List.mem_of_getLast? hl)

theorem headD_eq_null (h : null ∉ xs) : xs.headD null = null ↔ xs = [] := by
  cases xs with
  | nil => simp
  | cons x xs =>
    have hx : x ≠ null := fun hx => h (hx ▸ List.mem_cons_self)
    simp [hx]

section Edit

variable [DecidableEq α]

/-- Removing `x`: its neighbours are linked with each other. -/
theorem Linked.remove (h : Linked next prev null before (ys ++ x :: zs))
    (hnodup : (before :: (ys ++ x :: zs)).Nodup) (hnull : null ∉ ys ++ x :: zs)
    (hnext : ∀ y ∈ ys ++ zs, next' y = if y = prev x then next x else next y)
    (hprev : ∀ y ∈ ys ++ zs, prev' y = if y = next x then prev x else prev y) :
    Linked next' prev' null before (ys ++ zs) := by
  induction ys generalizing before with
  | nil =>
    obtain ⟨hpx, hnx, hl⟩ := h
    obtain ⟨hbefore, hxs⟩ := List.nodup_cons.1 hnodup
    have hnb : before ∉ zs := fun hb => hbefore (List.mem_cons_of_mem x hb)
    cases zs with
    | nil => trivial
    | cons z zs =>
      rw [List.headD_cons] at hnx
      obtain ⟨hpz, hnz, hl⟩ := hl
      have hz : z ∉ zs := (List.nodup_cons.1 (List.nodup_cons.1 hxs).2).1
      refine ⟨by rw [hprev z (by simp), if_pos hnx.symm, hpx], ?_, hl.congr ?_ ?_⟩
      · rw [hnext z (by simp), if_neg, hnz]
        exact fun he => hnb (by rw [hpx] at he; exact he ▸ List.mem_cons_self)
      · intro y hy
        rw [hnext y (by simp [hy]), if_neg]
        exact fun he => hnb (by rw [hpx] at he; exact he ▸ List.mem_cons_of_mem z hy)
      · intro y hy
        rw [hprev y (by simp [hy]), if_neg]
        exact fun he => hz (by rw [hnx] at he; exact he ▸ hy)
  | cons y ys ih =>
    obtain ⟨hpy, hny, hl⟩ := h
    have hyd := (List.nodup_cons.1 hnodup).2
    have hy : y ∉ ys ++ x :: zs := (List.nodup_cons.1 hyd).1
    have hnx : next x = zs.headD null := hl.mid.2.1
    have hpx : prev x = ys.getLastD y := hl.mid.1
    refine ⟨?_, ?_, ih hl hyd (fun hn => hnull (List.mem_cons_of_mem y hn))
      (fun w hw => hnext w (List.mem_cons_of_mem y hw))
      fun w hw => hprev w (List.mem_cons_of_mem y hw)⟩
    · rw [hprev y List.mem_cons_self, if_neg, hpy]
      -- The node behind `x` comes after `y`, or is null.
      intro he
      rw [hnx] at he
      have hz : zs.headD null = null ∨ zs.headD null ∈ zs := headD_eq_or_mem
      rcases hz with hz | hz
      · exact hnull (by rw [← hz, ← he]; exact List.mem_cons_self)
      · exact hy (he ▸ List.mem_append_right _ (List.mem_cons_of_mem x hz))
    · rw [hnext y List.mem_cons_self]
      cases ys with
      | nil =>
        rw [if_pos (by rw [hpx]; rfl), hnx]
        cases zs <;> rfl
      | cons w ws =>
        rw [if_neg, hny]
        · rfl
        · intro he
          rw [hpx, List.getLastD_cons] at he
          have hw : ws.getLastD w = w ∨ ws.getLastD w ∈ ws := getLastD_eq_or_mem
          rcases hw with hw | hw
          · exact hy (by rw [he, hw]; exact List.mem_cons_self)
          · exact hy (he ▸ List.mem_append_left _ (List.mem_cons_of_mem w hw))

/-- Inserting `x` in front of a list that has no other node before it. -/
theorem Linked.insert (h : Linked next prev null before xs) (hnodup : xs.Nodup)
    (hx : next' x = xs.headD null) (hb : prev' x = before)
    (hnext : ∀ y ∈ xs, next' y = next y)
    (hprev : ∀ y ∈ xs, prev' y = if y = xs.headD null then x else prev y) :
    Linked next' prev' null before (x :: xs) := by
  refine ⟨hb, hx, ?_⟩
  cases xs with
  | nil => trivial
  | cons y ys =>
    have hy : y ∉ ys := (List.nodup_cons.1 hnodup).1
    rw [List.headD_cons] at hprev
    refine ⟨by rw [hprev y List.mem_cons_self, if_pos rfl], ?_, h.2.2.congr ?_ ?_⟩
    · rw [hnext y List.mem_cons_self, h.2.1]
    · intro z hz
      exact hnext z (List.mem_cons_of_mem y hz)
    · intro z hz
      rw [hprev z (List.mem_cons_of_mem y hz), if_neg]
      exact fun he => hy (he ▸ hz)

end Edit

end Store
