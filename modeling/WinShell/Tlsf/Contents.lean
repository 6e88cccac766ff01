-- SUMMARY: The live blocks of a pool and their contents, as a map from the pointers that clients hold.
import WinShell.Tlsf.Creation

/-!
# Contents

A client sees a pool as a map from pointers to contents. The blocks determine this
map, and the operations on blocks change it at one pointer. The spans of live blocks
are aligned, lie in the arena, and do not overlap; what a client writes into one of
them stays there.
-/

namespace WinShell.Tlsf

open Store Effect

/-- The contents behind each live pointer. -/
abbrev Contents := Nat → Option (List Nat)

/-- The contents of the blocks `bs`, the first of which is at `a`. -/
def contentsFrom (a : Nat) : List Block → Contents
  | [], _ => none
  | .free n :: bs, p => contentsFrom (a + n + 8) bs p
  | .used ws :: bs, p => if p = a + 16 then some ws else contentsFrom (a + 8 * ws.length + 8) bs p

def contents (arena : Arena) (bs : List Block) : Contents := contentsFrom arena.start bs

/-- Live spans are apart from each other. -/
def Contents.Separated (A : Contents) : Prop :=
  ∀ p q ws vs, A p = some ws → A q = some vs → p ≠ q →
    p + 8 * ws.length ≤ q ∨ q + 8 * vs.length ≤ p

section Blocks

variable {arena : Arena} {a n m k p q : Nat} {b : Block} {bs xs ys zs : List Block}
  {ws vs : List Nat} {s : State}

theorem contentsFrom_append : contentsFrom a (xs ++ ys) p =
    (contentsFrom a xs p).or (contentsFrom (after Block.extent a xs) ys p) := by
  induction xs generalizing a with
  | nil => rfl
  | cons b xs ih =>
    cases b with
    | free n => exact ih
    | used ws =>
      rw [List.cons_append, contentsFrom, contentsFrom]
      split
      · rfl
      · exact ih

theorem bounds_of_contentsFrom (h : contentsFrom a bs p = some ws) :
    a + 16 ≤ p ∧ p + 8 * ws.length ≤ after Block.extent a bs + 8 := by
  induction bs generalizing a with
  | nil => cases h
  | cons b bs ih =>
    cases b with
    | free n =>
      have := ih h
      rw [after_cons]
      simp only [Block.extent, Block.size, blockHeaderOverhead]
      rw [← Nat.add_assoc]
      omega
    | used vs =>
      rw [contentsFrom] at h
      rw [after_cons]
      have hle : a + (Block.used vs).extent ≤ after Block.extent (a + (Block.used vs).extent) bs :=
        le_after
      have hext : (Block.used vs).extent = 8 * vs.length + 8 := rfl
      split at h
      · rename_i hp
        obtain rfl := Option.some.inj h
        omega
      · have := ih h
        rw [hext, ← Nat.add_assoc]
        omega

theorem contentsFrom_eq_some_iff : contentsFrom a bs p = some ws ↔
    ∃ xs ys, bs = xs ++ .used ws :: ys ∧ p = after Block.extent a xs + 16 := by
  constructor
  · intro h
    induction bs generalizing a with
    | nil => cases h
    | cons b bs ih =>
      cases b with
      | free n =>
        obtain ⟨xs, ys, rfl, rfl⟩ := ih h
        exact ⟨.free n :: xs, ys, rfl, rfl⟩
      | used vs =>
        rw [contentsFrom] at h
        split at h
        · rename_i hp
          obtain rfl := Option.some.inj h
          exact ⟨[], bs, rfl, hp⟩
        · obtain ⟨xs, ys, rfl, rfl⟩ := ih h
          exact ⟨.used vs :: xs, ys, rfl, rfl⟩
  · rintro ⟨xs, ys, rfl, rfl⟩
    have hnone : contentsFrom a xs (after Block.extent a xs + 16) = none := by
      by_contra hne
      obtain ⟨vs, hvs⟩ := Option.ne_none_iff_exists'.1 hne
      have := (bounds_of_contentsFrom hvs).2
      omega
    rw [contentsFrom_append, hnone, Option.none_or, contentsFrom, if_pos rfl]

theorem contents_eq_some_iff : contents arena bs p = some ws ↔
    ∃ xs ys, bs = xs ++ .used ws :: ys ∧ p = arena.place xs + 16 := contentsFrom_eq_some_iff

/-- Behind the last block nothing is live. -/
theorem contentsFrom_eq_none_of_le (h : after Block.extent a xs + 16 ≤ p) :
    contentsFrom a xs p = none := by
  by_contra hne
  obtain ⟨vs, hvs⟩ := Option.ne_none_iff_exists'.1 hne
  have := (bounds_of_contentsFrom hvs).2
  omega

/-- In front of the first block nothing is live. -/
theorem contentsFrom_eq_none_of_lt (h : p < a + 16) : contentsFrom a ys p = none := by
  by_contra hne
  obtain ⟨vs, hvs⟩ := Option.ne_none_iff_exists'.1 hne
  have := (bounds_of_contentsFrom hvs).1
  omega

theorem contents_place : contents arena xs (arena.place xs + 16) = none :=
  contentsFrom_eq_none_of_le (Nat.le_refl _)

theorem contents_free : contents arena (xs ++ .free n :: ys) p =
    (contents arena xs p).or (contentsFrom (arena.place xs + n + 8) ys p) := by
  rw [contents, contentsFrom_append]
  rfl

/-- The address of a free block is no live pointer. -/
theorem contents_place_free : contents arena (xs ++ .free n :: ys) (arena.place xs + 16) = none := by
  rw [contents_free, contents_place, Option.none_or]
  exact contentsFrom_eq_none_of_lt (by omega)

theorem le_trimmed (hle : k ≤ n) : k ≤ (trimmed n k ys).1 := by
  unfold trimmed
  split
  · exact Nat.le_refl k
  · exact hle

theorem contents_used : contents arena (xs ++ .used ws :: ys) =
    Function.update (fun p => (contents arena xs p).or
      (contentsFrom (arena.place xs + 8 * ws.length + 8) ys p)) (arena.place xs + 16) (some ws) := by
  funext p
  rw [contents, contentsFrom_append, Function.update_apply]
  split
  · rename_i hp
    have hnone : contentsFrom arena.start xs (arena.place xs + 16) = none := contents_place
    rw [hp, hnone, Option.none_or]
    exact if_pos rfl
  · rename_i hp
    congr 1
    exact if_neg hp

/-- Merging, dividing and trimming free blocks changes no contents. -/
theorem contents_trimmed (hn : 8 * ws.length = (trimmed n k ys).1) :
    contents arena (xs ++ .used ws :: (trimmed n k ys).2) =
      Function.update (contents arena (xs ++ .free n :: ys)) (arena.place xs + 16) (some ws) := by
  rw [contents_used]
  congr 1
  funext p
  rw [contents_free]
  congr 1
  unfold trimmed at hn ⊢
  split
  · rename_i hsplit
    rw [if_pos hsplit] at hn
    rw [contentsFrom]
    congr 1
    simp only at hn
    omega
  · rename_i hsplit
    rw [if_neg hsplit] at hn
    rw [hn]

theorem contents_divide {g : Nat} (hmin : 8 ≤ g) (hle : g ≤ n) :
    contents arena ((xs ++ [.free (g - 8)]) ++ .free (n - g) :: ys) =
      contents arena (xs ++ .free n :: ys) := by
  funext p
  rw [List.append_assoc, List.singleton_append, contents_free, contents_free, contentsFrom]
  congr 2
  omega

theorem contents_released : contents arena (released xs (8 * ws.length) ys) =
    Function.update (contents arena (xs ++ .used ws :: ys)) (arena.place xs + 16) none := by
  have hfree : ∀ p, contents arena (xs ++ .free (8 * ws.length) :: ys) p =
      contents arena (released xs (8 * ws.length) ys) p := by
    intro p
    unfold released
    have hnext : ∀ n a, contentsFrom (a + (mergedNext n ys).1 + 8) (mergedNext n ys).2 p =
        contentsFrom (a + n + 8) ys p := by
      intro n a
      rcases mergedNext_cases n ys with ⟨m, zs, rfl, he⟩ | ⟨-, he⟩
      · rw [he, contentsFrom]
        congr 1
        simp only
        omega
      · rw [he]
    rw [contents_free, contents_free, hnext]
    rcases mergedPrev_cases xs (8 * ws.length) with ⟨us, q, rfl, he⟩ | ⟨-, he⟩
    · rw [he, place_append, contents, contentsFrom_append, contents]
      congr 1
      · rw [contentsFrom, contentsFrom, Option.or_none]
      · congr 1
        simp only [Block.size]
        omega
    · rw [he]
  funext p
  rw [← hfree, contents_free, contents_used, Function.update_apply, Function.update_apply]
  split
  · rename_i hp
    rw [hp, contents_place, Option.none_or]
    exact contentsFrom_eq_none_of_lt (by have := ws.length; omega)
  · rfl

theorem contents_set {i v : Nat} : contents arena (xs ++ .used (ws.set i v) :: ys) =
    Function.update (contents arena (xs ++ .used ws :: ys)) (arena.place xs + 16)
      (some (ws.set i v)) := by
  rw [contents_used, contents_used, Function.update_idem, List.length_set]

theorem contents_separated : (contents arena bs).Separated := by
  intro p q ws vs hp hq hne
  obtain ⟨xs, ys, hxs, rfl⟩ := contents_eq_some_iff.1 hp
  obtain ⟨us, zs, hus, rfl⟩ := contents_eq_some_iff.1 hq
  have h1 : (arena.place xs, Block.used ws) ∈ placed Block.extent arena.start bs := by
    rw [hxs]
    exact placed_mid
  have h2 : (arena.place us, Block.used vs) ∈ placed Block.extent arena.start bs := by
    rw [hus]
    exact placed_mid
  have hw : (Block.used ws).extent = 8 * ws.length + 8 := rfl
  have hv : (Block.used vs).extent = 8 * vs.length + 8 := rfl
  rcases apart_of_placed h1 h2 with he | hlt | hlt
  · exact absurd (congrArg (fun p => p.1 + 16) he) hne
  · simp only [hw] at hlt
    omega
  · simp only [hv] at hlt
    omega

end Blocks

/-! ## What a state says about its contents -/

namespace Holds

variable {arena : Arena} {bs : List Block} {p q i v : Nat} {ws vs : List Nat} {s : State}

/-- A live span is aligned and lies in the arena, behind the control structure. -/
theorem span (h : Holds arena bs s) (hp : contents arena bs p = some ws) :
    8 ∣ p ∧ blockSizeMin ≤ 8 * ws.length ∧ arena.control + tlsfSize + 8 ≤ p ∧
      p + 8 * ws.length ≤ arena.control + arena.bytes := by
  obtain ⟨xs, ys, rfl, rfl⟩ := contents_eq_some_iff.1 hp
  have hlarge := h.large (.used ws) (by simp)
  obtain ⟨L, hrep⟩ := h.stored
  rw [pool_append] at hrep
  have hdvd := hrep.laid.dvd_block Arena.mid_mem_blocks
  have hb := hrep.laid.bounds Arena.mid_mem_blocks
  have hstart := @Arena.start_eq arena
  have hsize : tlsfSize = 6536 := by decide
  rw [addr_chunks] at hdvd hb
  simp only [Block.size_chunk, Block.size] at hdvd hb
  exact ⟨by omega, hlarge, by omega, by omega⟩

/-- The contents of a live span are in memory. -/
theorem mem_eq (h : Holds arena bs s) (hp : contents arena bs p = some ws)
    (hi : ws[i]? = some v) : arena.Maps (p + 8 * i) ∧ s.mem (p + 8 * i) = v := by
  obtain ⟨xs, ys, rfl, rfl⟩ := contents_eq_some_iff.1 hp
  have hlt : i < ws.length := (List.getElem?_eq_some_iff.1 hi).1
  obtain ⟨L, hrep⟩ := h.stored
  rw [pool_append] at hrep
  have hat := hrep.at_mid.data i v hi
  have hdvd := hrep.laid.dvd_block Arena.mid_mem_blocks
  have hmaps := hrep.laid.maps (x := arena.place xs + 16 + 8 * i) Arena.mid_mem_blocks
  rw [addr_chunks] at hat hdvd hmaps
  simp only [Block.size_chunk, Block.size] at hdvd hmaps
  exact ⟨hmaps (by omega) (by omega) (by omega), hat⟩

/-- A client may write into a live span. -/
theorem write (h : Holds arena bs s) (hp : contents arena bs p = some ws) (hi : i < ws.length)
    (v : Nat) :
    ∃ bs', Runs arena (store (p + 8 * i) v) s () (s.store (p + 8 * i) v) ∧
      Holds arena bs' (s.store (p + 8 * i) v) ∧
      contents arena bs' = Function.update (contents arena bs) p (some (ws.set i v)) := by
  obtain ⟨hmaps, -⟩ := h.mem_eq hp (List.getElem?_eq_getElem hi)
  obtain ⟨xs, ys, rfl, rfl⟩ := contents_eq_some_iff.1 hp
  refine ⟨xs ++ .used (ws.set i v) :: ys, runs_store hmaps, ⟨?_, ?_, ?_, ?_⟩, contents_set⟩
  · obtain ⟨L, hrep⟩ := h.stored
    rw [pool_append] at hrep
    have hat := hrep.at_mid
    refine ⟨L, ?_⟩
    rw [pool_append]
    rw [addr_chunks] at hat
    have haddr : arena.addr (chunks false xs) = arena.place xs := addr_chunks
    refine hrep.replace (by simp) rfl ⟨Nat.dvd_mul_right 8 _, Nat.le_refl _, by simp [Block.chunk],
      by simp [Block.chunk]⟩ ⟨?_, by simp [Block.chunk], ?_⟩ ?_ ?_
    · rw [haddr, Function.update_of_ne (by omega), hat.header]
      simp [Chunk.header, Block.chunk]
    · intro j w hj
      rw [haddr]
      simp only [Block.chunk, List.getElem?_set] at hj
      by_cases hij : i = j
      · rw [if_pos hij, if_pos hi] at hj
        rw [← hij, ← Option.some.inj hj]
        exact Function.update_self ..
      · rw [if_neg hij] at hj
        rw [Function.update_of_ne (by omega)]
        exact hat.data j w hj
    · intro x hx
      rw [haddr] at hx
      simp only [Block.size_chunk, Block.size] at hx
      exact Function.update_of_ne (by omega) _ _
    · intro hl
      cases hl
  · have hco := h.coalesced
    rw [coalesced_append] at hco ⊢
    exact hco
  · intro b hb
    rcases List.mem_append.1 hb with hb | hb
    · exact h.large b (List.mem_append_left _ hb)
    rcases List.mem_cons.1 hb with rfl | hb
    · have := h.large (.used ws) (by simp)
      simpa using this
    · exact h.large b (List.mem_append_right _ (List.mem_cons_of_mem _ hb))
  · have htotal := h.total
    rw [place_mid] at htotal ⊢
    simpa using htotal

/-- Allocation, as a client sees it. -/
theorem malloc (h : Holds arena bs s) (size : Nat) :
    Runs arena (tlsfMalloc arena.control size) s 0 s ∨
    ∃ r vs bs' s', Runs arena (tlsfMalloc arena.control size) s r s' ∧ Holds arena bs' s' ∧
      contents arena bs r = none ∧ contents arena bs' = Function.update (contents arena bs) r (some vs) ∧
      adjusted size 3 ≠ 0 ∧ adjusted size 3 ≤ 8 * vs.length := by
  rcases h.runs_tlsfMalloc size with ⟨r, -⟩ | ⟨xs, n, ys, vs, s', rfl, hzero, hle, r, hlen, h', -⟩
  · exact .inl r
  · refine .inr ⟨_, vs, _, s', r, h', contents_place_free, contents_trimmed hlen, hzero, ?_⟩
    rw [hlen]
    exact le_trimmed hle

theorem memalign (h : Holds arena bs s) (size : Nat) {j : Nat} (hj : j < 63) :
    Runs arena (tlsfMemalign arena.control (2 ^ j) size) s 0 s ∨
    ∃ r vs bs' s', Runs arena (tlsfMemalign arena.control (2 ^ j) size) s r s' ∧
      Holds arena bs' s' ∧ contents arena bs r = none ∧
      contents arena bs' = Function.update (contents arena bs) r (some vs) ∧ 2 ^ j ∣ r ∧
      adjusted size 3 ≠ 0 ∧ adjusted size 3 ≤ 8 * vs.length := by
  rcases h.runs_tlsfMemalign size hj with
    r | ⟨xs, n, ys, g, us, vs, s', rfl, hzero, hle, hg, r, hdvd, hlen, h'⟩
  · exact .inl r
  · have hdivide : contents arena (us ++ .free (n - g) :: ys) =
        contents arena (xs ++ .free n :: ys) := by
      rcases hg with ⟨rfl, rfl⟩ | ⟨hmin, rfl⟩
      · rfl
      · exact contents_divide (by omega) (by omega)
    refine .inr ⟨_, vs, _, s', r, h', ?_, ?_, hdvd, hzero, ?_⟩
    · rw [← hdivide]
      exact contents_place_free
    · rw [← hdivide]
      exact contents_trimmed hlen
    · rw [hlen]
      exact le_trimmed (by omega)

theorem free (h : Holds arena bs s) (hp : contents arena bs p = some ws) :
    ∃ bs' s', Runs arena (tlsfFree arena.control p) s () s' ∧ Holds arena bs' s' ∧
      contents arena bs' = Function.update (contents arena bs) p none := by
  obtain ⟨xs, ys, rfl, rfl⟩ := contents_eq_some_iff.1 hp
  obtain ⟨s', r, h'⟩ := h.runs_tlsfFree
  exact ⟨_, s', r, h', contents_released⟩

end Holds

end WinShell.Tlsf
