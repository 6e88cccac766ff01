-- SUMMARY: Which blocks a TLSF allocator takes, when it takes none, and that releasing everything restores the pool.
import WinShell.Tlsf.Contents

/-!
# Policy

The lists that an allocation looks at start at the first class in which every block is
large enough. It takes a block of the lowest class from there on, and fails exactly
when all free blocks are below that class, even if one of them is large enough. The
class starts at most one part in 32 above the size. When every block is released, the
neighbours have been merged and the pool is one free block again.
-/

namespace WinShell.Tlsf

open Store Effect

variable {arena : Arena} {bs : List Block} {n k size : Nat} {s : State} {p : Bool}

/-! ## Good fit -/

/-- The size from which on a free block is found for a request. -/
def leastFit (size : Nat) : Nat := classLow (mappingSearch (adjusted size 3))

theorem searchRound_le : searchRound k ≤ k / 32 := by
  unfold searchRound
  split
  · exact Nat.zero_le _
  · rename_i hk
    have h256 : ¬k < 256 := hk
    have hne : k ≠ 0 := by omega
    have hle := Nat.log2_self_le hne
    have h8 : 8 ≤ k.log2 := (Nat.le_log2 hne).2 (by omega)
    have hpow : 2 ^ k.log2 = 2 ^ (k.log2 - 5) * 32 := by
      rw [show 32 = 2 ^ 5 from rfl, ← Nat.pow_add, Nat.sub_add_cancel (by omega)]
    simp only [slIndexCountLog2]
    omega

theorem leastFit_bounds :
    adjusted size 3 ≤ leastFit size ∧ leastFit size ≤ adjusted size 3 + adjusted size 3 / 32 := by
  refine ⟨le_classLow_mappingSearch (dvd_adjusted (Nat.le_refl 3)), ?_⟩
  rw [leastFit, mappingSearch_eq]
  exact Nat.le_trans classLow_mappingInsert_le (Nat.add_le_add_left searchRound_le _)

theorem leastFit_le_iff :
    leastFit size ≤ n ↔ classKey (mappingSearch (adjusted size 3)) ≤ classKey (mappingInsert n) :=
  classLow_le_iff mappingSearch_snd_lt

/-- An allocation fails exactly for a size without a list and when all free blocks are too small. -/
theorem malloc_fails_iff (h : Holds arena bs s) :
    (Runs arena (tlsfMalloc arena.control size) s 0 s ↔
      adjusted size 3 = 0 ∨ ∀ n, .free n ∈ bs → n < leastFit size) ∧
    adjusted size 3 ≤ leastFit size ∧ leastFit size ≤ adjusted size 3 + adjusted size 3 / 32 := by
  refine ⟨?_, leastFit_bounds⟩
  rcases h.runs_tlsfMalloc size with ⟨r, hnone⟩ | ⟨xs, n, ys, ws, s', rfl, hzero, -, r, -, -, hkey, -⟩
  · refine iff_of_true r ?_
    by_cases hzero : adjusted size 3 = 0
    · exact .inl hzero
    · refine .inr fun n hn => Nat.not_le.1 fun hle => ?_
      exact absurd (leastFit_le_iff.1 hle) (Nat.not_le.2 (hnone hzero n hn))
  · refine iff_of_false (fun r' => ?_) ?_
    · have := congrArg (fun x => x.1) ((show _ = _ from r').symm.trans r)
      simp at this
    · rintro (hz | hsmall)
      · exact hzero hz
      · exact absurd (leastFit_le_iff.2 hkey) (Nat.not_le.2 (hsmall n (by simp)))

theorem malloc_fails_iff_page : ∃ s, Holds pageArena [.free pageArena.poolBytes] s ∧
    Runs pageArena (tlsfMalloc pageArena.control 5000) s 0 s ∧
    ¬Runs pageArena (tlsfMalloc pageArena.control 48) s 0 s := by
  obtain ⟨s, h⟩ := Holds.page
  refine ⟨s, h, (malloc_fails_iff h).1.2 (.inr fun n hn => ?_), fun r => ?_⟩
  · obtain rfl := Block.free.inj (List.mem_singleton.1 hn)
    decide
  · rcases (malloc_fails_iff h).1.1 r with hzero | hsmall
    · exact absurd hzero (by decide)
    · exact absurd (hsmall pageArena.poolBytes (List.mem_singleton_self _)) (by decide)

/-- A successful allocation takes a block of the lowest class from which on a block is found. -/
theorem malloc_good_fit {r : Nat} {s' : State} (h : Holds arena bs s)
    (hrun : Runs arena (tlsfMalloc arena.control size) s r s') (hr : r ≠ 0) :
    ∃ xs n ys ws, bs = xs ++ .free n :: ys ∧ r = arena.place xs + 16 ∧ leastFit size ≤ n ∧
      Holds arena (xs ++ .used ws :: (trimmed n (adjusted size 3) ys).2) s' ∧
      8 * ws.length = (trimmed n (adjusted size 3) ys).1 ∧
      ∀ m, .free m ∈ bs → leastFit size ≤ m → classLow (mappingInsert n) ≤ m := by
  rcases h.runs_tlsfMalloc size with ⟨r', -⟩ | ⟨xs, n, ys, ws, s₁, rfl, -, -, r', hlen, h', hkey, hlow⟩
  · have he := (show _ = _ from hrun).symm.trans r'
    exact absurd (Option.some.inj (Prod.mk.inj he).1) hr
  · have he := (show _ = _ from hrun).symm.trans r'
    obtain rfl := Option.some.inj (Prod.mk.inj he).1
    obtain rfl := (Prod.mk.inj he).2
    refine ⟨xs, n, ys, ws, rfl, rfl, leastFit_le_iff.2 hkey, h', hlen, fun m hm hle => ?_⟩
    exact (classLow_le_iff mappingInsert_snd_lt).2 (hlow m hm (leastFit_le_iff.1 hle))

theorem malloc_good_fit_page : ∃ s r s', Holds pageArena [.free pageArena.poolBytes] s ∧
    Runs pageArena (tlsfMalloc pageArena.control 48) s r s' ∧
    ∃ xs n ys ws, [Block.free pageArena.poolBytes] = xs ++ .free n :: ys ∧ r = pageArena.place xs + 16 ∧
      leastFit 48 ≤ n ∧
      Holds pageArena (xs ++ .used ws :: (trimmed n (adjusted 48 3) ys).2) s' ∧
      8 * ws.length = (trimmed n (adjusted 48 3) ys).1 ∧
      ∀ m, .free m ∈ [Block.free pageArena.poolBytes] → leastFit 48 ≤ m →
        classLow (mappingInsert n) ≤ m := by
  obtain ⟨s, r, s', ws, ys, h, hrun, hr, -, -⟩ := Holds.page_malloc
  exact ⟨s, r, s', h, hrun, malloc_good_fit h hrun (by rw [hr]; exact Nat.succ_ne_zero _)⟩

/-! ## Released pools -/

/-- Free neighbours have been merged, so blocks that are all free are one block. -/
theorem length_le_one_of_coalesced (h : Coalesced p bs) (hfree : ∀ b ∈ bs, b.isFree = true) :
    bs.length ≤ 1 := by
  match bs, h with
  | [], _ => exact Nat.zero_le 1
  | [_], _ => exact Nat.le_refl 1
  | b :: c :: bs, h =>
    exact absurd ⟨hfree b (by simp), hfree c (by simp)⟩ h.2.1

theorem isFree_of_contents_empty (h : contents arena bs = fun _ => none) :
    ∀ b ∈ bs, b.isFree = true := by
  intro b hb
  cases b with
  | free n => rfl
  | used ws =>
    obtain ⟨xs, ys, rfl⟩ := List.append_of_mem hb
    have hp : contents arena (xs ++ .used ws :: ys) (arena.place xs + 16) = some ws :=
      contents_eq_some_iff.2 ⟨xs, ys, rfl, rfl⟩
    rw [h] at hp
    cases hp

/-- A pool without live blocks is one free block of the size it started with. -/
theorem Holds.eq_of_contents_empty (h : Holds arena bs s) (hc : contents arena bs = fun _ => none)
    (hpos : 0 < arena.poolBytes) : bs = [.free arena.poolBytes] := by
  have hfree := isFree_of_contents_empty hc
  have hlen := length_le_one_of_coalesced h.coalesced hfree
  have htotal := h.total
  match bs, hfree, hlen with
  | [], _, _ =>
    have : arena.start = arena.start + arena.poolBytes + 8 := htotal
    omega
  | [.free n], _, _ =>
    have hplace : arena.place [.free n] = arena.start + n + 8 := rfl
    rw [hplace] at htotal
    rw [show n = arena.poolBytes by omega]
  | [.used ws], hfree, _ =>
    have := hfree (.used ws) (by simp)
    cases this

end WinShell.Tlsf
