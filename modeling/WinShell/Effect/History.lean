-- SUMMARY: Histories of events: laws that every event obeys given what came before it.
import Mathlib.Data.List.Induction
import Mathlib.Data.List.Nodup

/-!
# Histories

A history is the list of the events of a run, oldest first. A law says when an
event may follow a history. `Always` says that every event of a history obeyed
the law when it happened, which is a statement about every prefix; `From` is the
same for events that extend a history, and composes along them.

`collect` gathers what events contribute to some list. When a law keeps an
event from contributing what is there already, the list never repeats.
-/

namespace Effect

variable {ε α : Type}

/-! ## Collecting -/

/-- What the events of a history contribute, oldest first. -/
def collect (f : ε → Option α) (t : List ε) : List α := t.filterMap f

section Collect

variable {f : ε → Option α} {t s : List ε} {e : ε} {a : α}

@[simp] theorem collect_nil : collect f [] = [] := rfl

@[simp] theorem collect_append : collect f (t ++ s) = collect f t ++ collect f s :=
  List.filterMap_append

@[simp] theorem collect_cons : collect f (e :: t) = (f e).toList ++ collect f t := by
  cases h : f e <;> simp [collect, h]

/-- What was contributed stays contributed. -/
theorem mem_collect_left (h : a ∈ collect f t) : a ∈ collect f (t ++ s) := by
  rw [collect_append]
  exact List.mem_append_left _ h

theorem mem_collect : a ∈ collect f t ↔ ∃ e ∈ t, f e = some a :=
  List.mem_filterMap

/-- An event that contributes something is the only one that does, when nothing
is contributed twice. -/
theorem eq_of_nodup_collect {e' : ε} (h : (collect f t).Nodup) (he : e ∈ t) (he' : e' ∈ t)
    (hf : f e = some a) (hf' : f e' = some a) : e = e' := by
  induction t with
  | nil => cases he
  | cons x t ih =>
    rw [collect_cons, List.nodup_append] at h
    obtain ⟨_, ht, hdisjoint⟩ := h
    rcases List.mem_cons.mp he with rfl | hmem
    · rcases List.mem_cons.mp he' with rfl | hmem'
      · rfl
      · exact absurd rfl (hdisjoint a (by simp [hf]) a (mem_collect.mpr ⟨e', hmem', hf'⟩))
    · rcases List.mem_cons.mp he' with rfl | hmem'
      · exact absurd rfl (hdisjoint a (by simp [hf']) a (mem_collect.mpr ⟨e, hmem, hf⟩))
      · exact ih ht hmem hmem'

end Collect

/-! ## Laws -/

/-- A law says which events may follow a history. -/
abbrev Law (ε : Type) := List ε → ε → Prop

/-- Every event of `s` obeys the law, when `s` happens after `t`. -/
def From (P : Law ε) (t s : List ε) : Prop :=
  ∀ pre e post, s = pre ++ e :: post → P (t ++ pre) e

/-- Every event of the history obeyed the law when it happened. -/
def Always (P : Law ε) (t : List ε) : Prop :=
  ∀ pre e post, t = pre ++ e :: post → P pre e

section Laws

variable {P : Law ε} {t s s' : List ε} {e : ε}

theorem always_iff_from : Always P t ↔ From P [] t := by
  simp only [Always, From, List.nil_append]

@[simp] theorem from_nil : From P t [] := by
  intro pre e post h
  simp at h

@[simp] theorem from_cons : From P t (e :: s) ↔ P t e ∧ From P (t ++ [e]) s := by
  constructor
  · intro h
    refine ⟨by simpa using h [] e s rfl, ?_⟩
    intro pre e' post hs
    have hP := h (e :: pre) e' post (by rw [hs]; rfl)
    simpa using hP
  · rintro ⟨hhead, htail⟩ pre e' post hs
    cases pre with
    | nil =>
      simp only [List.nil_append, List.cons.injEq] at hs
      obtain ⟨rfl, rfl⟩ := hs
      simpa using hhead
    | cons a pre =>
      simp only [List.cons_append, List.cons.injEq] at hs
      obtain ⟨rfl, rfl⟩ := hs
      simpa using htail pre e' post rfl

theorem from_append : From P t (s ++ s') ↔ From P t s ∧ From P (t ++ s) s' := by
  induction s generalizing t with
  | nil => simp
  | cons e s ih =>
    rw [List.cons_append, from_cons, from_cons, ih, and_assoc, List.append_assoc]
    rfl

theorem always_append : Always P (t ++ s) ↔ Always P t ∧ From P t s := by
  rw [always_iff_from, always_iff_from, from_append, List.nil_append]

theorem Always.nil : Always P [] := by
  rw [always_iff_from]
  exact from_nil

theorem Always.append (ht : Always P t) (hs : From P t s) : Always P (t ++ s) :=
  always_append.mpr ⟨ht, hs⟩

/-- A law holds of every prefix of a history that it holds of. -/
theorem Always.of_isPrefix (h : Always P t) (hs : s <+: t) : Always P s := by
  obtain ⟨s', rfl⟩ := hs
  exact (always_append.mp h).1

/-- A law that keeps out what was contributed before leaves no repetition. -/
theorem Always.nodup_collect {f : ε → Option α}
    (hnew : ∀ t e a, P t e → f e = some a → a ∉ collect f t) (h : Always P t) :
    (collect f t).Nodup := by
  induction t using List.reverseRecOn with
  | nil => exact List.nodup_nil
  | append_singleton t e ih =>
    obtain ⟨ht, he⟩ := always_append.mp h
    have hPe : P t e := (from_cons.mp he).1
    rw [collect_append, List.nodup_append]
    refine ⟨ih ht, ?_, ?_⟩
    · cases hf : f e <;> simp [hf]
    · intro a ha b hb heq
      subst heq
      have hfe : f e = some a := by simpa using hb
      exact hnew t e a hPe hfe ha

end Laws

/-! ## Throughout a history -/

/-- A property holds of the history at every moment. -/
def Throughout (P : List ε → Prop) (t : List ε) : Prop := ∀ s, s <+: t → P s

section Throughout

variable {P : List ε → Prop} {t s : List ε} {e : ε}

theorem Throughout.of_isPrefix (h : Throughout P t) (hs : s <+: t) : Throughout P s :=
  fun _ hs' => h _ (hs'.trans hs)

/-- A property holds throughout when it holds at the start and every event is
followed by a history with the property. -/
theorem throughout_iff_always : Throughout P t ↔ P [] ∧ Always (fun t e => P (t ++ [e])) t := by
  constructor
  · intro h
    refine ⟨h [] List.nil_prefix, ?_⟩
    intro pre e post ht
    exact h (pre ++ [e]) ⟨post, by rw [ht, List.append_assoc]; rfl⟩
  · rintro ⟨hnil, hstep⟩ s ⟨post, ht⟩
    cases s using List.reverseRecOn with
    | nil => exact hnil
    | append_singleton s e => exact hstep s e post (by rw [← ht, List.append_assoc]; rfl)

theorem Throughout.append (h : Throughout P t)
    (hs : From (fun t e => P (t ++ [e])) t s) : Throughout P (t ++ s) := by
  rw [throughout_iff_always] at h ⊢
  exact ⟨h.1, h.2.append hs⟩

end Throughout

end Effect
