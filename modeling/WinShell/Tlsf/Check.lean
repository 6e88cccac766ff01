-- SUMMARY: The self-check of the TLSF allocator passes in every state that holds a pool.
import WinShell.Tlsf.Contents
import Mathlib.Data.List.Perm.Subperm

/-!
# Self-check

`tlsf_check` follows every free list and `tlsf_check_pool` walks the blocks in memory.
Both report no error in a state that holds a pool, and both end: a list and the walk
visit each block at most once.
-/

namespace WinShell.Tlsf

open Store Effect

variable {arena : Arena} {xs ys bs : List Block} {n i j fuel : Nat} {s : State} {st : Int}
  {L : Nat → Nat → List Nat}

theorem runs_tlsfInsist {condition : Bool} (h : condition = true) :
    Runs arena (tlsfInsist condition st) s st s := by
  refine (runs_assert h).bind ?_
  rw [if_pos h]
  exact Prog.Runs.ret

/-! ## The walk over the blocks -/

/-- What the walk of `tlsf_check_pool` does at a block. -/
abbrev checkWalker (ptr size : Nat) (_ : Bool) (user : Integrity) : Code Integrity :=
  integrityWalker ptr size user

theorem Laid.runs_integrityWalker {cs : List Chunk} {a : Nat} {c : Chunk} (h : Laid arena cs s.mem)
    (hp : (a, c) ∈ arena.blocks cs) :
    Runs arena (integrityWalker (blockToPtr a) c.size ⟨c.prevFree, st⟩) s ⟨c.free, st⟩ s := by
  have hblock : blockFromPtr (blockToPtr a) = a := Nat.add_sub_cancel _ _
  rw [integrityWalker, hblock]
  refine (h.runs_blockIsPrevFree hp).bind ((h.runs_blockIsFree hp).bind ((h.runs_blockSize hp).bind ?_))
  refine (runs_tlsfInsist (decide_eq_true rfl)).bind ((runs_tlsfInsist (decide_eq_true rfl)).bind ?_)
  rw [Int.add_zero]
  exact Prog.Runs.ret

theorem Holds.runs_walkBlocks (h : Holds arena bs s) (hbs : bs = xs ++ ys) (hfuel : ys.length < fuel) :
    Runs arena (walkBlocks checkWalker (arena.place xs) ⟨lastFree false xs, st⟩ fuel) s
      (some ⟨lastFree false bs, st⟩) s := by
  obtain ⟨L, hrep⟩ := h.stored
  have hne : ∀ xs : List Block, arena.place xs ≠ 0 := by
    intro xs
    have := @Arena.start_eq arena
    have : arena.start ≤ arena.place xs := le_after
    omega
  induction ys generalizing xs fuel with
  | nil =>
    rw [List.append_nil] at hbs
    subst hbs
    obtain ⟨fuel, rfl⟩ := Nat.exists_eq_succ_of_ne_zero (Nat.ne_of_gt hfuel)
    have hlast : (arena.place bs, sentinel (lastFree false bs)) ∈ arena.blocks (pool bs) := by
      rw [← addr_chunks (p := false)]
      exact Arena.mid_mem_blocks
    rw [walkBlocks, if_pos (hne bs)]
    exact (hrep.laid.runs_blockIsLast hlast).bind Prog.Runs.ret
  | cons b ys ih =>
    subst hbs
    obtain ⟨fuel, rfl⟩ := Nat.exists_eq_succ_of_ne_zero (show fuel ≠ 0 by omega)
    have hmem : (arena.place xs, b.chunk (lastFree false xs)) ∈ arena.blocks (pool (xs ++ b :: ys)) := by
      rw [pool_append, ← addr_chunks (p := false)]
      exact Arena.mid_mem_blocks
    have hsize : 24 ≤ b.size := h.large b (by simp)
    have rlast := hrep.laid.runs_blockIsLast hmem
    have rnext := hrep.laid.runs_blockNext hmem (by rw [Block.size_chunk]; omega)
    have hzero : (b.size == 0) = false := by
      rw [beq_eq_false_iff_ne]
      omega
    rw [Block.size_chunk] at rlast rnext
    rw [hzero] at rlast
    have hwalk := @Laid.runs_integrityWalker arena s st _ _ _ hrep.laid hmem
    have hprev : (b.chunk (lastFree false xs)).prevFree = lastFree false xs := by cases b <;> rfl
    rw [hprev, Block.free_chunk] at hwalk
    have hrest := @ih (xs ++ [b]) fuel (by simp) (by simpa using hfuel)
    rw [place_append, lastFree_append] at hrest
    rw [walkBlocks, if_pos (hne xs)]
    exact rlast.bind ((hrep.laid.runs_blockSize hmem).bind ((hrep.laid.runs_blockIsFree hmem).bind
      (hwalk.bind (rnext.bind hrest))))

/-! ## The free lists -/

/-- The checks of one list, from one of its nodes on. -/
theorem Holds.runs_checkList (h : Holds arena bs s) {l : List Nat} {before : Nat}
    (hl : Linked (fun b => s.mem (b + 16)) (fun b => s.mem (b + 24)) arena.control before l)
    (hmem : ∀ b ∈ l, ∃ xs n ys, bs = xs ++ .free n :: ys ∧ b = arena.place xs ∧
      mappingInsert n = (i, j)) (hfuel : l.length < fuel) :
    Runs arena (checkList arena.control i j (l.headD arena.control) st fuel) s (some st) s := by
  induction l generalizing before fuel with
  | nil =>
    obtain ⟨fuel, rfl⟩ := Nat.exists_eq_succ_of_ne_zero (Nat.ne_of_gt hfuel)
    rw [checkList, List.headD_nil, if_pos rfl]
    exact Prog.Runs.ret
  | cons b l ih =>
    obtain ⟨fuel, rfl⟩ := Nat.exists_eq_succ_of_ne_zero (show fuel ≠ 0 by omega)
    have hrest := ih hl.2.2 (fun b hb => hmem b (List.mem_cons_of_mem _ hb))
      (Nat.lt_of_succ_lt_succ hfuel)
    obtain ⟨xs, n, ys, rfl, rfl, hclass⟩ := hmem b List.mem_cons_self
    obtain ⟨-, hfront, hback⟩ := coalesced_append.1 h.coalesced
    have hsize : 24 ≤ n := h.large (.free n) (by simp)
    have haddr : arena.addr (chunks false xs) = arena.place xs := addr_chunks
    obtain ⟨d, rest, hdfree, hd⟩ := ending_eq ys
    have hdused : d.free = false := by
      rw [hdfree]
      cases ys with
      | nil => rfl
      | cons b ys => simpa using hback.1
    obtain ⟨L, hrep⟩ := h.stored
    rw [pool_append, Block.isFree, hd] at hrep
    have hb : (arena.place xs, (Block.free n).chunk (lastFree false xs)) ∈ arena.blocks
        (chunks false xs ++ (Block.free n).chunk (lastFree false xs) :: { d with prevFree := true } ::
          rest) := by
      rw [← haddr]
      exact Arena.mid_mem_blocks
    have hnext : (arena.place xs + n + 8, { d with prevFree := true }) ∈ arena.blocks
        (chunks false xs ++ (Block.free n).chunk (lastFree false xs) :: { d with prevFree := true } ::
          rest) := by
      rw [← haddr]
      exact Arena.next_mem_blocks
    have rnext := hrep.laid.runs_blockNext hb (show 0 < n by omega)
    have rsize := hrep.laid.runs_blockSize hb
    have hmaps : arena.Maps (arena.place xs + 16) :=
      hrep.laid.maps hb (by have := hrep.laid.dvd_block hb; simp only at this ⊢; omega)
        (by simp only; omega) (show _ ≤ arena.place xs + 8 + n by omega)
    have hlink : s.mem (arena.place xs + 16) = l.headD arena.control := hl.2.1
    have rload := @runs_load arena s _ hmaps
    rw [hlink] at rload
    have hprev : (!lastFree false xs) = true := by simpa using hfront
    have hne : arena.place xs ≠ arena.control := by
      have := @Arena.start_eq arena
      have : arena.start ≤ arena.place xs := le_after
      omega
    rw [checkList, List.headD_cons, if_neg hne]
    refine (hrep.laid.runs_blockIsFree hb).bind ((runs_tlsfInsist rfl).bind ?_)
    refine (hrep.laid.runs_blockIsPrevFree hb).bind ((runs_tlsfInsist hprev).bind ?_)
    refine rnext.bind ((hrep.laid.runs_blockIsFree hnext).bind ?_)
    refine (runs_tlsfInsist (by simp only [hdused]; rfl)).bind ?_
    refine rnext.bind ((hrep.laid.runs_blockIsPrevFree hnext).bind ((runs_tlsfInsist rfl).bind ?_))
    refine rsize.bind ((runs_tlsfInsist (decide_eq_true hsize)).bind (rsize.bind ?_))
    refine (runs_tlsfInsist ?_).bind (rload.bind hrest)
    show decide ((mappingInsert n).1 = i ∧ (mappingInsert n).2 = j) = true
    rw [hclass]
    exact decide_eq_true ⟨rfl, rfl⟩

/-- A list has no more nodes than the pool has blocks. -/
theorem Rep.length_le (h : Rep arena (pool bs) L s) : (L i j).length ≤ bs.length := by
  have hsub : L i j ⊆ (placed Block.extent arena.start bs).map Prod.fst := by
    intro b hb
    obtain ⟨xs, n, ys, rfl, rfl, -⟩ := (Holds.mem_list h).1 hb
    exact List.mem_map_of_mem (f := Prod.fst) (@placed_mid _ Block.extent _ (Block.free n) xs ys)
  have hle := ((h.indexed.nodup i j).subperm hsub).length_le
  rwa [List.length_map, length_placed] at hle

theorem Holds.runs_checkClass (h : Holds arena bs s) (hi : i < flIndexCount) (hj : j < slIndexCount)
    (hfuel : bs.length < fuel) :
    Runs arena (checkClass arena.control i j fuel st) s (some st) s := by
  obtain ⟨L, hrep⟩ := h.stored
  have hi32 : i < 32 := Nat.lt_trans hi (by decide)
  have hbit : ∀ {map : BitVec 32} {k : Nat}, k < 32 →
      (map &&& (1#32 <<< k) = 0#32 ↔ map.getLsbD k = false) := by
    intro map k hk
    rw [eq_zero_iff_getLsbD]
    constructor
    · intro hz
      simpa [getLsbD_bit hk] using hz k hk
    · intro hz l hl
      rw [BitVec.getLsbD_and, getLsbD_bit hk]
      by_cases hkl : k = l
      · rw [← hkl, hz, Bool.false_and]
      · simp [hkl]
  have hmap : s.slBitmap i &&& (1#32 <<< j) = 0#32 ↔ L i j = [] := by
    rw [hbit hj, ← Bool.not_eq_true, hrep.indexed.slBit i hi j hj, not_not]
  refine runs_readFl.bind ((runs_readSl hi).bind ((runs_readHead hi hj).bind ?_))
  rw [hrep.indexed.head i hi j hj]
  -- The first level says that some list of it is not empty.
  have hlevel : Runs arena (checkMaps (s.flBitmap &&& (1#32 <<< i)) (s.slBitmap i &&& (1#32 <<< j)) st)
      s st s := by
    unfold checkMaps
    split
    · rename_i hz
      rw [hbit hi32, ← Bool.not_eq_true, hrep.indexed.flBit i hi, not_not] at hz
      refine runs_tlsfInsist (decide_eq_true ?_)
      rw [hz, BitVec.zero_and]
    · exact Prog.Runs.ret
  refine hlevel.bind ?_
  by_cases hempty : L i j = []
  · rw [if_pos (hmap.2 hempty), hempty]
    exact (runs_tlsfInsist (decide_eq_true rfl)).bind Prog.Runs.ret
  · rw [if_neg (hmap.not.2 hempty)]
    have hne : s.slBitmap i ≠ 0#32 := by
      intro hz
      refine hempty (hmap.1 ?_)
      rw [hz, BitVec.zero_and]
    have hhead : (L i j).headD arena.control ≠ arena.control :=
      (headD_eq_null hrep.control_not_mem).not.2 hempty
    refine (runs_tlsfInsist (decide_eq_true hne)).bind
      ((runs_tlsfInsist (decide_eq_true hhead)).bind ?_)
    exact h.runs_checkList (hrep.indexed.linked i j) (fun b hb => (mem_list hrep).1 hb)
      (Nat.lt_of_le_of_lt (hrep.length_le) hfuel)

theorem Holds.runs_checkLists (h : Holds arena bs s) (hi : i < flIndexCount) (hj : j ≤ slIndexCount)
    (hfuel : bs.length < fuel) :
    Runs arena (checkLists arena.control i fuel j st) s (some st) s := by
  induction j with
  | zero => exact Prog.Runs.ret
  | succ j ih =>
    have hlt : slIndexCount - (j + 1) < slIndexCount := Nat.sub_lt (by decide) (Nat.succ_pos j)
    exact (h.runs_checkClass hi hlt hfuel).bind (ih (Nat.le_of_succ_le hj))

theorem Holds.runs_checkLevels (h : Holds arena bs s) (hi : i ≤ flIndexCount)
    (hfuel : bs.length < fuel) :
    Runs arena (checkLevels arena.control fuel i st) s (some st) s := by
  induction i with
  | zero => exact Prog.Runs.ret
  | succ i ih =>
    have hlt : flIndexCount - (i + 1) < flIndexCount := Nat.sub_lt (by decide) (Nat.succ_pos i)
    exact (h.runs_checkLists hlt (Nat.le_refl _) hfuel).bind (ih (Nat.le_of_succ_le hi))

/-- Both checks end without an error, and change nothing. -/
theorem Holds.checks_pass (h : Holds arena bs s) (hfuel : bs.length < fuel) :
    Runs arena (tlsfCheck arena.control fuel) s (some 0) s ∧
      Runs arena (tlsfCheckPool (tlsfGetPool arena.control) fuel) s (some 0) s := by
  refine ⟨h.runs_checkLevels (Nat.le_refl _) hfuel, ?_⟩
  have hwalk := @Holds.runs_walkBlocks arena [] bs bs fuel s 0 h rfl hfuel
  exact hwalk.bind Prog.Runs.ret

end WinShell.Tlsf
