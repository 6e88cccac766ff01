-- SUMMARY: Allocation and release in a TLSF pool: what each call does to the blocks.
import WinShell.Tlsf.Pool

/-!
# Service

A state holds the blocks of a pool when the memory and the free lists agree with them
and no two free blocks are neighbours. Each call of the interface takes such a state
to such a state, and no assertion on the way fails. An allocation takes a block from
the lowest class at or above the one where the search starts.
-/

namespace WinShell.Tlsf

open Store Effect

/-- No free block follows a free one. -/
def Coalesced (prevFree : Bool) : List Block → Prop
  | [] => True
  | b :: bs => ¬(prevFree ∧ b.isFree) ∧ Coalesced b.isFree bs

/-- The size of the first block of a pool, as `tlsf_add_pool` computes it. -/
def Arena.poolBytes (arena : Arena) : Nat :=
  sizetSub (sizetSub arena.bytes tlsfSize) tlsfPoolOverhead / 8 * 8

/-- The state holds the blocks `bs`, which fill the pool. -/
structure Holds (arena : Arena) (bs : List Block) (s : State) : Prop where
  stored : Stored arena (pool bs) s
  coalesced : Coalesced false bs
  large : ∀ b ∈ bs, blockSizeMin ≤ b.size
  total : arena.place bs = arena.start + arena.poolBytes + 8

section Blocks

variable {arena : Arena} {xs ys bs : List Block} {b : Block} {n k : Nat} {p : Bool} {s : State}

theorem coalesced_append :
    Coalesced p (xs ++ ys) ↔ Coalesced p xs ∧ Coalesced (lastFree p xs) ys := by
  induction xs generalizing p with
  | nil => simp [Coalesced]
  | cons b xs ih => simp [Coalesced, ih, and_assoc]

theorem coalesced_of_headFree (h : Coalesced p ys) (hy : headFree ys = false) :
    Coalesced true ys := by
  cases ys with
  | nil => trivial
  | cons b ys =>
    have hb : b.isFree = false := hy
    exact ⟨fun hc => Bool.noConfusion (hb.symm.trans hc.2), h.2⟩

theorem place_mid : arena.place (xs ++ b :: ys) = after Block.extent (arena.place xs + b.size + 8) ys := by
  rw [Arena.place, after_append, after_cons]
  rfl

/-- A chunk of a pool is the chunk of a block, or the sentinel. -/
theorem split_ending {us vs : List Chunk} {c : Chunk} (h : ending p bs = us ++ c :: vs) :
    c = sentinel (lastFree p bs) ∧ vs = [] ∨
      ∃ xs b ys, bs = xs ++ b :: ys ∧ us = chunks p xs ∧ c = b.chunk (lastFree p xs) := by
  induction bs generalizing p us with
  | nil =>
    cases us with
    | nil =>
      obtain ⟨rfl, rfl⟩ := List.cons.inj h
      exact .inl ⟨rfl, rfl⟩
    | cons u us => exact absurd (congrArg List.length h) (by simp [ending])
  | cons b bs ih =>
    rw [ending_cons] at h
    cases us with
    | nil => exact .inr ⟨[], b, bs, rfl, rfl, (List.cons.inj h).1.symm⟩
    | cons u us =>
      obtain ⟨rfl, htail⟩ := List.cons.inj h
      rcases ih htail with hs | ⟨xs, b', ys, rfl, rfl, rfl⟩
      · exact .inl hs
      · exact .inr ⟨b :: xs, b', ys, rfl, rfl, rfl⟩

/-- The listed chunks are the free blocks. -/
theorem listed_iff {a : Nat} :
    (∃ c, (a, c) ∈ arena.blocks (pool bs) ∧ c.listed ∧ c.size = n) ↔
      ∃ xs ys, bs = xs ++ .free n :: ys ∧ a = arena.place xs := by
  constructor
  · rintro ⟨c, hc, hl, rfl⟩
    obtain ⟨us, vs, hus, rfl⟩ := split_of_placed hc
    rcases split_ending hus with ⟨rfl, -⟩ | ⟨xs, b, ys, rfl, rfl, rfl⟩
    · cases hl
    · cases b with
      | free m => exact ⟨xs, ys, rfl, addr_chunks⟩
      | used ws => cases hl
  · rintro ⟨xs, ys, rfl, rfl⟩
    refine ⟨(Block.free n).chunk (lastFree false xs), ?_, rfl, rfl⟩
    rw [pool_append, ← addr_chunks (p := false)]
    exact Arena.mid_mem_blocks

end Blocks

namespace Holds

variable {arena : Arena} {xs ys bs : List Block} {b : Block} {n k fl sl : Nat} {s s' : State}
  {L : Nat → Nat → List Nat}

theorem free_lt (h : Holds arena (xs ++ .free n :: ys) s) : n < blockSizeMax := by
  obtain ⟨L, h⟩ := h.stored
  obtain ⟨d, rest, -, hd⟩ := ending_eq ys
  rw [pool_append, Block.isFree, hd] at h
  exact h.laid.size_lt

/-- A block in a list is free, and no smaller than its class. -/
theorem mem_list (h : Rep arena (pool bs) L s) {b i j : Nat} :
    b ∈ L i j ↔ ∃ xs n ys, bs = xs ++ .free n :: ys ∧ b = arena.place xs ∧
      mappingInsert n = (i, j) := by
  rw [h.indexed.mem_iff]
  constructor
  · rintro ⟨c, hc, hl, hcl⟩
    obtain ⟨xs, ys, hbs, hb⟩ := listed_iff.1 ⟨c, hc, hl, rfl⟩
    exact ⟨xs, c.size, ys, hbs, hb, hcl⟩
  · rintro ⟨xs, n, ys, hbs, hb, hcl⟩
    obtain ⟨c, hc, hl, rfl⟩ := listed_iff.2 ⟨xs, ys, hbs, hb⟩
    exact ⟨c, hc, hl, hcl⟩

/-- The search finds a block of the lowest class from its start on, if there is one. -/
theorem runs_blockFind (h : Holds arena bs s) (hrep : Rep arena (pool bs) L s) (hpos : 0 < k) :
    (∃ c, Runs arena (blockFind k) s (0, c) s ∧
      ∀ n, .free n ∈ bs → classKey (mappingInsert n) < classKey (mappingSearch k)) ∨
    ∃ xs n ys, bs = xs ++ .free n :: ys ∧
      Runs arena (blockFind k) s (arena.place xs, mappingInsert n) s ∧
      classKey (mappingSearch k) ≤ classKey (mappingInsert n) ∧
      ∀ m, .free m ∈ bs → classKey (mappingSearch k) ≤ classKey (mappingInsert m) →
        classKey (mappingInsert n) ≤ classKey (mappingInsert m) := by
  have hkne : k ≠ 0 := by omega
  have hsl := @mappingSearch_snd_lt k
  have hlevel : ∀ n, .free n ∈ bs → (mappingInsert n).1 < flIndexCount := by
    intro n hn
    obtain ⟨xs, ys, rfl⟩ := List.append_of_mem hn
    exact mappingInsert_fst_lt h.free_lt
  have hmem : ∀ n, .free n ∈ bs → L (mappingInsert n).1 (mappingInsert n).2 ≠ [] := by
    intro n hn
    obtain ⟨xs, ys, rfl⟩ := List.append_of_mem hn
    exact List.ne_nil_of_mem ((mem_list hrep).2 ⟨xs, n, ys, rfl, rfl, rfl⟩)
  by_cases hfl : (mappingSearch k).1 < flIndexCount
  · have hrun : ∀ r, Runs arena (searchSuitableBlock (mappingSearch k).1 (mappingSearch k).2) s r s →
        Runs arena (blockFind k) s r s := by
      intro r hr
      rw [blockFind, if_pos hkne]
      show Runs arena (if (mappingSearch k).1 < flIndexCount then
        searchSuitableBlock (mappingSearch k).1 (mappingSearch k).2 else _) s r s
      rw [if_pos hfl]
      exact hr
    rcases hrep.searchSuitableBlock hfl hsl with ⟨r, hnone⟩ | ⟨b, i, j, r, hb, hi, hj, hle, hlow⟩
    · refine .inl ⟨_, hrun _ r, fun n hn => ?_⟩
      by_contra hge
      exact hmem n hn (hnone _ (hlevel n hn) _ mappingInsert_snd_lt (Nat.not_lt.1 hge))
    · obtain ⟨xs, n, ys, hbs, rfl, hcl⟩ := (mem_list hrep).1 hb
      refine .inr ⟨xs, n, ys, hbs, ?_, ?_, fun m hm hkey => ?_⟩
      · rw [hcl]
        exact hrun _ r
      · rw [hcl]
        exact hle
      · by_contra hlt
        rw [hcl] at hlt
        exact hmem m hm (hlow _ (hlevel m hm) _ mappingInsert_snd_lt hkey (Nat.not_le.1 hlt))
  · refine .inl ⟨mappingSearch k, ?_, fun n hn => ?_⟩
    · rw [blockFind, if_pos hkne]
      show Runs arena (if (mappingSearch k).1 < flIndexCount then _ else
        pure (0, mappingSearch k)) s _ s
      rw [if_neg hfl]
      exact Prog.Runs.ret
    · have h1 := hlevel n hn
      have h2 : (mappingInsert n).2 < 32 := mappingInsert_snd_lt
      show 32 * (mappingInsert n).1 + (mappingInsert n).2 <
        32 * (mappingSearch k).1 + (mappingSearch k).2
      omega

theorem runs_blockLocateFree (h : Holds arena bs s) (hk : 8 ∣ k) (hpos : 0 < k) :
    (Runs arena (blockLocateFree arena.control k) s 0 s ∧
      ∀ n, .free n ∈ bs → classKey (mappingInsert n) < classKey (mappingSearch k)) ∨
    ∃ xs n ys s', bs = xs ++ .free n :: ys ∧ k ≤ n ∧
      Runs arena (blockLocateFree arena.control k) s (arena.place xs) s' ∧
      Stored arena (opened xs n ys) s' ∧
      classKey (mappingSearch k) ≤ classKey (mappingInsert n) ∧
      ∀ m, .free m ∈ bs → classKey (mappingSearch k) ≤ classKey (mappingInsert m) →
        classKey (mappingInsert n) ≤ classKey (mappingInsert m) := by
  obtain ⟨L, hrep⟩ := h.stored
  rcases h.runs_blockFind hrep hpos with ⟨c, r, hnone⟩ | ⟨xs, n, ys, rfl, r, hkey, hlow⟩
  · refine .inl ⟨r.bind ?_, hnone⟩
    exact Prog.Runs.ret
  · have hle := le_of_mappingSearch hk hkey
    have hlt := h.free_lt
    have haddr : arena.addr (chunks false xs) = arena.place xs := addr_chunks
    obtain ⟨d, rest, -, hd⟩ := ending_eq ys
    rw [pool_append, Block.isFree, hd] at hrep
    have rsize := hrep.laid.runs_blockSize Arena.mid_mem_blocks
    have hne : arena.place xs ≠ 0 := by
      have hv := hrep.valid_mid.listed rfl
      rw [← haddr]
      exact (Rep.isNode_mid hv.1 hv.2).ne_zero hrep.laid
    obtain ⟨s', r', h'⟩ := hrep.removeFreeBlock rfl (mappingInsert_fst_lt hlt)
    rw [haddr] at rsize r'
    have hopened : Stored arena (opened xs n ys) s' := by
      rw [opened, hd]
      exact ⟨_, h'⟩
    refine .inr ⟨xs, n, ys, s', rfl, hle, r.bind ?_, hopened, hkey, hlow⟩
    show Runs arena (if arena.place xs ≠ 0 then _ else _) s _ s'
    rw [if_pos hne]
    exact rsize.bind ((runs_assert (decide_eq_true hle)).bind (r'.bind Prog.Runs.ret))

end Holds

/-! ## Sizes of requests -/

/-- What `adjustRequestSize` returns for an alignment of `2 ^ j`. Rounding up wraps. -/
def adjusted (size j : Nat) : Nat :=
  if size ≠ 0 then
    if (size + (2 ^ j - 1)) % 2 ^ 64 / 2 ^ j * 2 ^ j < blockSizeMax then
      max ((size + (2 ^ j - 1)) % 2 ^ 64 / 2 ^ j * 2 ^ j) blockSizeMin
    else 0
  else 0

section Adjusted

variable {arena : Arena} {s : State} {size j : Nat}

theorem runs_adjustRequestSize (hj : j < 64) :
    Runs arena (adjustRequestSize size (2 ^ j)) s (adjusted size j) s := by
  have halign : Runs arena (alignUp size (2 ^ j)) s
      ((size + (2 ^ j - 1)) % 2 ^ 64 / 2 ^ j * 2 ^ j) s := by
    refine (runs_assert (isPowerOfTwo_two_pow hj)).bind ?_
    rw [clearBits_up hj]
    exact Prog.Runs.ret
  unfold adjusted
  by_cases hsize : size = 0
  · rw [if_neg (by simp [hsize]), adjustRequestSize, if_neg (by simp [hsize])]
    exact Prog.Runs.ret
  · rw [if_pos hsize, adjustRequestSize, if_pos hsize]
    refine halign.bind ?_
    split
    · exact Prog.Runs.ret
    · exact Prog.Runs.ret

/-- A request is served by a size of at least 24 bytes, or not at all. -/
theorem adjusted_spec (h : adjusted size j ≠ 0) :
    blockSizeMin ≤ adjusted size j ∧ adjusted size j < blockSizeMax := by
  unfold adjusted at h ⊢
  split at h
  · rename_i hsize
    rw [if_pos hsize]
    split at h
    · rename_i hlt
      rw [if_pos hlt]
      exact ⟨Nat.le_max_right _ _, Nat.max_lt.2 ⟨hlt, by decide⟩⟩
    · exact absurd rfl h
  · exact absurd rfl h

theorem dvd_adjusted (hj : 3 ≤ j) : 8 ∣ adjusted size j := by
  unfold adjusted
  split
  · split
    · rcases Nat.le_total ((size + (2 ^ j - 1)) % 2 ^ 64 / 2 ^ j * 2 ^ j) blockSizeMin with h | h
      · rw [Nat.max_eq_right h]
        decide
      · rw [Nat.max_eq_left h]
        exact Nat.dvd_trans (Nat.pow_dvd_pow 2 hj) (Nat.dvd_mul_left _ _)
    · exact Nat.dvd_zero 8
  · exact Nat.dvd_zero 8

/-- Unless rounding up wraps, a request is served by at least its size. -/
theorem le_adjusted (h : adjusted size j ≠ 0) (hlt : size + (2 ^ j - 1) < 2 ^ 64) :
    size ≤ adjusted size j := by
  unfold adjusted at h ⊢
  have hpos := Nat.two_pow_pos j
  have hdiv := Nat.div_add_mod' (size + (2 ^ j - 1)) (2 ^ j)
  have hmod := Nat.mod_lt (size + (2 ^ j - 1)) hpos
  rw [Nat.mod_eq_of_lt hlt] at h ⊢
  split at h
  · rename_i hsize
    rw [if_pos hsize]
    split at h
    · rename_i hmax
      rw [if_pos hmax]
      refine Nat.le_trans ?_ (Nat.le_max_left _ _)
      omega
    · exact absurd rfl h
  · exact absurd rfl h

end Adjusted

/-! ## Allocation -/

section Allocation

variable {arena : Arena} {xs ys bs : List Block} {n k : Nat} {s : State} {ws : List Nat}

/-- Using the first `k` bytes of the open block. -/
theorem Stored.blockPrepareUsed (h : Stored arena (opened xs n ys) s) (hk : 8 ∣ k)
    (hmin : blockSizeMin ≤ k) (hmax : k < blockSizeMax) (hle : k ≤ n) :
    ∃ s' ws, Runs arena (blockPrepareUsed arena.control (arena.place xs) k) s
        (arena.place xs + 16) s' ∧ 8 * ws.length = (trimmed n k ys).1 ∧
      Stored arena (pool (xs ++ .used ws :: (trimmed n k ys).2)) s' := by
  have hmin : 24 ≤ k := hmin
  have hmax : k < 2 ^ 32 := hmax
  have hne : arena.place xs ≠ 0 := by
    have := @Arena.start_eq arena
    have : arena.start ≤ arena.place xs := le_after
    omega
  obtain ⟨s₁, r₁, h₁⟩ := h.blockTrimFree hk (by omega) (by omega)
  have hpos : 0 < (trimmed n k ys).1 := by
    unfold trimmed
    split <;> simp only <;> omega
  obtain ⟨s₂, ws, r₂, hlen, h₂⟩ := h₁.blockMarkAsUsed hpos
  refine ⟨s₂, ws, ?_, hlen, h₂⟩
  rw [Tlsf.blockPrepareUsed, if_pos hne]
  exact (runs_assert (decide_eq_true (by omega))).bind (r₁.bind (r₂.bind Prog.Runs.ret))

/-- The blocks around an open block are in order. -/
structure Around (arena : Arena) (xs : List Block) (n : Nat) (ys : List Block) : Prop where
  front : Coalesced false xs
  back : Coalesced true ys
  largeFront : ∀ b ∈ xs, blockSizeMin ≤ b.size
  largeBack : ∀ b ∈ ys, blockSizeMin ≤ b.size
  total : after Block.extent (arena.place xs + n + 8) ys = arena.start + arena.poolBytes + 8

theorem Holds.around (h : Holds arena (xs ++ .free n :: ys) s) :
    Around arena xs n ys ∧ lastFree false xs = false := by
  obtain ⟨hxs, hn, hys⟩ := coalesced_append.1 h.coalesced
  refine ⟨⟨hxs, hys, fun b hb => h.large b (List.mem_append_left _ hb),
    fun b hb => h.large b (List.mem_append_right _ (List.mem_cons_of_mem _ hb)), ?_⟩,
    by simpa using hn⟩
  have := h.total
  rw [place_mid] at this
  exact this

/-- Leaving a free block in front. -/
theorem Around.divide {g : Nat} (h : Around arena xs n ys) (hlast : lastFree false xs = false)
    (hmin : 32 ≤ g) (hle : g ≤ n) : Around arena (xs ++ [.free (g - 8)]) (n - g) ys := by
  refine ⟨coalesced_append.2 ⟨h.front, by simp [hlast], trivial⟩, h.back, ?_, h.largeBack, ?_⟩
  · intro b hb
    rcases List.mem_append.1 hb with hb | hb
    · exact h.largeFront b hb
    · rw [List.mem_singleton.1 hb]
      show 24 ≤ g - 8
      omega
  · rw [← h.total, place_append]
    simp only [Block.size]
    congr 1
    omega

/-- Using a part of the open block keeps the pool in order. -/
theorem Around.allocate (h : Around arena xs n ys) (hmin : blockSizeMin ≤ k) (hle : k ≤ n)
    (hlen : 8 * ws.length = (trimmed n k ys).1)
    (h' : Stored arena (pool (xs ++ .used ws :: (trimmed n k ys).2)) s) :
    Holds arena (xs ++ .used ws :: (trimmed n k ys).2) s := by
  have hmin : 24 ≤ k := hmin
  refine ⟨h', ?_, ?_, ?_⟩
  · rw [coalesced_append]
    refine ⟨h.front, by simp, ?_⟩
    unfold trimmed
    split
    · exact ⟨by simp, h.back⟩
    · have hback := h.back
      cases ys with
      | nil => trivial
      | cons b ys => exact ⟨by simp, hback.2⟩
  · intro b hb
    rcases List.mem_append.1 hb with hb | hb
    · exact h.largeFront b hb
    rcases List.mem_cons.1 hb with rfl | hb
    · show 24 ≤ 8 * ws.length
      rw [hlen]
      unfold trimmed
      split <;> simp only <;> omega
    · unfold trimmed at hb
      split at hb
      · rcases List.mem_cons.1 hb with rfl | hb
        · show 24 ≤ n - k - 8
          omega
        · exact h.largeBack b hb
      · exact h.largeBack b hb
  · rw [← h.total, place_mid]
    unfold trimmed at hlen ⊢
    split
    · rename_i hsplit
      rw [if_pos hsplit] at hlen
      simp only [after_cons, Block.extent, blockHeaderOverhead, Block.size] at hlen ⊢
      congr 1
      omega
    · rename_i hsplit
      rw [if_neg hsplit] at hlen
      simp only [Block.size] at hlen ⊢
      rw [hlen]

theorem Holds.runs_tlsfMalloc (h : Holds arena bs s) (size : Nat) :
    (Runs arena (tlsfMalloc arena.control size) s 0 s ∧
      (adjusted size 3 ≠ 0 → ∀ n, .free n ∈ bs →
        classKey (mappingInsert n) < classKey (mappingSearch (adjusted size 3)))) ∨
    ∃ xs n ys ws s', bs = xs ++ .free n :: ys ∧ adjusted size 3 ≠ 0 ∧ adjusted size 3 ≤ n ∧
      Runs arena (tlsfMalloc arena.control size) s (arena.place xs + 16) s' ∧
      8 * ws.length = (trimmed n (adjusted size 3) ys).1 ∧
      Holds arena (xs ++ .used ws :: (trimmed n (adjusted size 3) ys).2) s' ∧
      classKey (mappingSearch (adjusted size 3)) ≤ classKey (mappingInsert n) ∧
      ∀ m, .free m ∈ bs →
        classKey (mappingSearch (adjusted size 3)) ≤ classKey (mappingInsert m) →
          classKey (mappingInsert n) ≤ classKey (mappingInsert m) := by
  have radjust := @runs_adjustRequestSize arena s size 3 (by decide)
  by_cases hzero : adjusted size 3 = 0
  · refine .inl ⟨radjust.bind ?_, fun hne => absurd hzero hne⟩
    rw [hzero]
    exact Prog.Runs.ret
  · have hspec := adjusted_spec hzero
    have hdvd := @dvd_adjusted size 3 (by decide)
    rcases h.runs_blockLocateFree hdvd (Nat.pos_of_ne_zero hzero) with
      ⟨r, hnone⟩ | ⟨xs, n, ys, s₁, rfl, hle, r, h₁, hkey, hlow⟩
    · exact .inl ⟨radjust.bind (r.bind Prog.Runs.ret), fun _ => hnone⟩
    · obtain ⟨s₂, ws, r₂, hlen, h₂⟩ := h₁.blockPrepareUsed hdvd hspec.1 hspec.2 hle
      exact .inr ⟨xs, n, ys, ws, s₂, rfl, hzero, hle, radjust.bind (r.bind r₂), hlen,
        h.around.1.allocate hspec.1 hle hlen h₂, hkey, hlow⟩

end Allocation

/-! ## Aligned allocation -/

section Aligned

variable {arena : Arena} {xs ys bs : List Block} {n k j : Nat} {s : State}

/-- Rounding up to a multiple of `2 ^ j`. -/
def roundUp (x j : Nat) : Nat := (x + (2 ^ j - 1)) / 2 ^ j * 2 ^ j

theorem roundUp_spec (x j : Nat) :
    x ≤ roundUp x j ∧ roundUp x j < x + 2 ^ j ∧ 2 ^ j ∣ roundUp x j := by
  have hpos := Nat.two_pow_pos j
  have hdiv := Nat.div_add_mod' (x + (2 ^ j - 1)) (2 ^ j)
  have hmod := Nat.mod_lt (x + (2 ^ j - 1)) hpos
  refine ⟨?_, ?_, Nat.dvd_mul_left _ _⟩ <;> unfold roundUp <;> omega

theorem roundUp_of_dvd {x : Nat} (h : 2 ^ j ∣ x) : roundUp x j = x := by
  obtain ⟨hle, hup, u, hu⟩ := roundUp_spec x j
  obtain ⟨v, rfl⟩ := h
  have hpos := Nat.two_pow_pos j
  rw [hu] at hle hup ⊢
  have h1 : v ≤ u := Nat.le_of_mul_le_mul_left hle hpos
  have h2 : u < v + 1 := by
    refine Nat.lt_of_mul_lt_mul_left (a := 2 ^ j) ?_
    rw [Nat.mul_add, Nat.mul_one]
    exact hup
  rw [show u = v by omega]

theorem runs_alignPtr_roundUp {x : Nat} (hj : j < 64) (hlt : roundUp x j < 2 ^ 64) :
    Runs arena (alignPtr x (2 ^ j)) s (roundUp x j) s := by
  have hpos := Nat.two_pow_pos j
  obtain ⟨hle, -, hdvd⟩ := roundUp_spec x j
  -- The last aligned address leaves room for the mask.
  have hlast : roundUp x j + 2 ^ j ≤ 2 ^ 64 := by
    obtain ⟨u, hu⟩ := hdvd
    have h64 : 2 ^ 64 = 2 ^ j * 2 ^ (64 - j) := by
      rw [← Nat.pow_add, Nat.add_sub_cancel' (Nat.le_of_lt hj)]
    rw [hu, h64] at hlt
    have hu' : u + 1 ≤ 2 ^ (64 - j) := Nat.lt_of_mul_lt_mul_left hlt
    calc roundUp x j + 2 ^ j = 2 ^ j * (u + 1) := by rw [hu, Nat.mul_add, Nat.mul_one]
      _ ≤ 2 ^ j * 2 ^ (64 - j) := Nat.mul_le_mul_left _ hu'
      _ = 2 ^ 64 := h64.symm
  have h := @runs_alignPtr arena s j x hj
  rw [Nat.mod_eq_of_lt (by omega)] at h
  exact h

/-- The gap in front of an aligned block is empty, or holds a block of its own. -/
theorem runs_alignedGap {x : Nat} (hj : j < 63) (hx : 8 ∣ x) (hlt : x < 2 ^ 64)
    (hroom : x + 2 ^ j + 32 ≤ 2 ^ 64 ∨ j ≤ 3) :
    ∃ g, Runs arena (alignedGap x (2 ^ j)) s g s ∧ 2 ^ j ∣ x + g ∧ 8 ∣ g ∧
      (g = 0 ∨ 32 ≤ g ∧ 3 < j) ∧ g < 2 ^ j + 32 := by
  have hpos := Nat.two_pow_pos j
  have hsmall : j ≤ 3 → roundUp x j = x := fun hj3 =>
    roundUp_of_dvd (Nat.dvd_trans (Nat.pow_dvd_pow 2 hj3) hx)
  have h8 : ∀ y, 2 ^ j ∣ y → 3 < j → 8 ∣ y := fun y hy hj3 =>
    Nat.dvd_trans (Nat.pow_dvd_pow 2 (Nat.le_of_lt hj3)) hy
  obtain ⟨hle, hup, hdvd⟩ := roundUp_spec x j
  have hsub : ∀ y, x ≤ y → y < 2 ^ 64 → sizetSub y x = y - x := fun y h h' => sizetSub_eq h' h
  by_cases hgap : roundUp x j - x ≠ 0 ∧ roundUp x j - x < 32
  · -- The gap is too small: the next aligned address leaves room for a block.
    have hj3 : 3 < j := by
      by_contra hge
      have := hsmall (by omega)
      omega
    have hroom : x + 2 ^ j + 32 ≤ 2 ^ 64 := by omega
    have h16 : 2 ^ 4 ≤ 2 ^ j := Nat.pow_le_pow_right (by decide) hj3
    have h8up := h8 _ hdvd hj3
    have ralign := @runs_alignPtr_roundUp arena j s x (by omega) (by omega)
    generalize hoff : max (32 - (roundUp x j - x)) (2 ^ j) = off
    have hoffle : off ≤ 2 ^ j + 8 ∧ 2 ^ j ≤ off ∧ 32 - (roundUp x j - x) ≤ off := by
      rw [← hoff]
      omega
    have hadd : sizetAdd (roundUp x j) off = roundUp x j + off := sizetAdd_eq (by omega)
    obtain ⟨hle', hup', hdvd'⟩ := roundUp_spec (roundUp x j + off) j
    have h8up' := h8 _ hdvd' hj3
    have hbound : roundUp (roundUp x j + off) j < x + 2 ^ j + 32 := by
      by_cases hj4 : j = 4
      · subst hj4
        omega
      · have h32 : 2 ^ 5 ≤ 2 ^ j := Nat.pow_le_pow_right (by decide) (by omega)
        have hoffeq : off = 2 ^ j := by omega
        rw [roundUp_of_dvd (Nat.dvd_add hdvd (hoffeq ▸ Nat.dvd_refl _))]
        omega
    have ralign' := @runs_alignPtr_roundUp arena j s (roundUp x j + off) (by omega) (by omega)
    refine ⟨roundUp (roundUp x j + off) j - x, ralign.bind ?_, ?_, by omega,
      .inr ⟨by omega, hj3⟩, by omega⟩
    · rw [hsub _ hle (by omega)]
      show Runs arena (if roundUp x j - x ≠ 0 ∧ roundUp x j - x < 32 then do
        let aligned ← alignPtr (sizetAdd (roundUp x j) (max (32 - (roundUp x j - x)) (2 ^ j))) (2 ^ j)
        return sizetSub aligned x
        else _) s _ s
      rw [if_pos hgap, hoff, hadd]
      refine ralign'.bind ?_
      rw [hsub _ (by omega) (by omega)]
      exact Prog.Runs.ret
    · rw [Nat.add_sub_cancel' (by omega)]
      exact hdvd'
  · have hlt' : roundUp x j < 2 ^ 64 := by
      rcases hroom with hroom | hj3
      · omega
      · rw [hsmall hj3]
        exact hlt
    have ralign := @runs_alignPtr_roundUp arena j s x (by omega) hlt'
    refine ⟨roundUp x j - x, ralign.bind ?_, ?_, ?_, ?_, by omega⟩
    · rw [hsub _ hle hlt']
      show Runs arena (if roundUp x j - x ≠ 0 ∧ roundUp x j - x < 32 then _ else
        pure (roundUp x j - x)) s _ s
      rw [if_neg hgap]
      exact Prog.Runs.ret
    · rw [Nat.add_sub_cancel' hle]
      exact hdvd
    · by_cases hj3 : 3 < j
      · have := h8 _ hdvd hj3
        omega
      · rw [hsmall (by omega), Nat.sub_self]
        exact Nat.dvd_zero 8
    · by_cases hj3 : 3 < j
      · omega
      · rw [hsmall (by omega)]
        exact .inl (Nat.sub_self x)

/-- The open block from an aligned address on. -/
theorem Stored.blockAlign (h : Stored arena (opened xs n ys) s) (hj : j < 63)
    (hn : 2 ^ j + 56 ≤ n ∨ j ≤ 3) :
    ∃ g us s', Runs arena (blockAlign arena.control (arena.place xs) (2 ^ j)) s (arena.place us) s' ∧
      arena.place us = arena.place xs + g ∧ 2 ^ j ∣ arena.place us + 16 ∧
      Stored arena (opened us (n - g) ys) s' ∧
      (g = 0 ∧ us = xs ∨ 32 ≤ g ∧ g ≤ 2 ^ j + 24 ∧ 3 < j ∧ us = xs ++ [.free (g - 8)]) := by
  have haddr : arena.addr (chunks false xs) = arena.place xs := addr_chunks
  have hpow : 2 ^ j ≤ 2 ^ 62 := Nat.pow_le_pow_right (by decide) (by omega)
  have h8 : 3 < j → 8 ∣ 2 ^ j := fun hj3 => Nat.pow_dvd_pow 2 (Nat.le_of_lt hj3)
  have hne : arena.place xs ≠ 0 := by
    have := @Arena.start_eq arena
    have : arena.start ≤ arena.place xs := le_after
    omega
  have hbounds : 8 ∣ arena.place xs + 16 ∧ arena.place xs + 16 + n < 2 ^ 64 := by
    obtain ⟨L, hrep⟩ := h
    have hdvd := hrep.laid.dvd_block Arena.mid_mem_blocks
    have hb := (hrep.laid.bounds Arena.mid_mem_blocks).2
    have hlt := arena.lt
    rw [haddr] at hdvd hb
    simp only [openBlock] at hdvd hb
    omega
  obtain ⟨g, r, hdvd, hg8, hg, hgle⟩ := @runs_alignedGap arena j s (arena.place xs + 16) hj hbounds.1
    (by omega) (by omega)
  by_cases hzero : g = 0
  · refine ⟨0, xs, s, ?_, rfl, ?_, h, .inl ⟨rfl, rfl⟩⟩
    · rw [Tlsf.blockAlign, if_pos hne]
      refine r.bind ?_
      rw [if_neg (by simp [hzero])]
      exact Prog.Runs.ret
    · rw [hzero] at hdvd
      exact hdvd
  · have hg' : 32 ≤ g ∧ 3 < j := by omega
    have := h8 hg'.2
    obtain ⟨s', r', h'⟩ := h.blockTrimFreeLeading hg8 hg'.1 (by omega) (by omega)
    have hplace : arena.place (xs ++ [.free (g - 8)]) = arena.place xs + g := by
      rw [place_append, Block.size]
      omega
    refine ⟨g, xs ++ [.free (g - 8)], s', ?_, hplace, ?_, h', .inr ⟨hg'.1, by omega, hg'.2, rfl⟩⟩
    · rw [Tlsf.blockAlign, if_pos hne]
      refine r.bind ?_
      rw [if_pos hzero]
      exact (runs_assert (decide_eq_true hg'.1)).bind r'
    · rw [hplace, Nat.add_right_comm]
      exact hdvd

/-- An aligned allocation, for a power of two of at most `2 ^ 62`. -/
theorem Holds.runs_tlsfMemalign (h : Holds arena bs s) (size : Nat) (hj : j < 63) :
    Runs arena (tlsfMemalign arena.control (2 ^ j) size) s 0 s ∨
    ∃ xs n ys g us ws s', bs = xs ++ .free n :: ys ∧ adjusted size 3 ≠ 0 ∧
      g + adjusted size 3 ≤ n ∧ (g = 0 ∧ us = xs ∨ 32 ≤ g ∧ us = xs ++ [.free (g - 8)]) ∧
      Runs arena (tlsfMemalign arena.control (2 ^ j) size) s (arena.place us + 16) s' ∧
      2 ^ j ∣ arena.place us + 16 ∧
      8 * ws.length = (trimmed (n - g) (adjusted size 3) ys).1 ∧
      Holds arena (us ++ .used ws :: (trimmed (n - g) (adjusted size 3) ys).2) s' := by
  have radjust := @runs_adjustRequestSize arena s size 3 (by decide)
  have hpow : 2 ^ j ≤ 2 ^ 62 := Nat.pow_le_pow_right (by decide) (by omega)
  have hmax : adjusted size 3 < 2 ^ 32 := by
    by_cases hzero : adjusted size 3 = 0
    · omega
    · exact (adjusted_spec hzero).2
  have hadd : sizetAdd (adjusted size 3) (2 ^ j) = adjusted size 3 + 2 ^ j := sizetAdd_eq (by omega)
  have hadd' : sizetAdd (adjusted size 3 + 2 ^ j) sizeofBlockHeader =
      adjusted size 3 + 2 ^ j + 32 := sizetAdd_eq (show adjusted size 3 + 2 ^ j + 32 < 2 ^ 64 by omega)
  have rgap := @runs_adjustRequestSize arena s (adjusted size 3 + 2 ^ j + 32) j (by omega)
  have hguard : ∀ t, Runs arena (assert (sizeofBlockHeader = blockSizeMin + blockHeaderOverhead))
      t () t := fun t => runs_assert (decide_eq_true rfl)
  have h8 : 8 < 2 ^ j ↔ 3 < j := Nat.pow_lt_pow_iff_right (show 1 < 2 by decide) (n := 3)
  have hdvd := @dvd_adjusted size 3 (by decide)
  -- The size that is searched for leaves room for the gap.
  generalize halloc : (if adjusted size 3 ≠ 0 ∧ 2 ^ j > alignSize then
    adjusted (adjusted size 3 + 2 ^ j + 32) j else adjusted size 3) = want at *
  have hwant : adjusted size 3 = 0 ∧ want = 0 ∨ adjusted size 3 ≠ 0 ∧ 8 ∣ want ∧
      (want = 0 ∨ adjusted size 3 ≤ want ∧ (j ≤ 3 ∨ adjusted size 3 + 2 ^ j + 32 ≤ want)) := by
    by_cases hzero : adjusted size 3 = 0
    · rw [if_neg (by simp [hzero]), hzero] at halloc
      exact .inl ⟨hzero, halloc.symm⟩
    · refine .inr ⟨hzero, ?_⟩
      by_cases hj3 : 3 < j
      · rw [if_pos ⟨hzero, h8.2 hj3⟩] at halloc
        refine ⟨halloc ▸ dvd_adjusted (Nat.le_of_lt hj3), ?_⟩
        by_cases hw : want = 0
        · exact .inl hw
        · have hle := @le_adjusted (adjusted size 3 + 2 ^ j + 32) j (by rw [halloc]; exact hw)
            (by omega)
          rw [halloc] at hle
          exact .inr ⟨by omega, .inr hle⟩
      · rw [if_neg (fun hc => hj3 (h8.1 hc.2))] at halloc
        rw [← halloc]
        exact ⟨hdvd, .inr ⟨Nat.le_refl _, .inl (by omega)⟩⟩
  have hrun : ∀ {b s₁ b' s₂ r s'}, Runs arena (blockLocateFree arena.control want) s b s₁ →
      Runs arena (Tlsf.blockAlign arena.control b (2 ^ j)) s₁ b' s₂ →
      Runs arena (Tlsf.blockPrepareUsed arena.control b' (adjusted size 3)) s₂ r s' →
      Runs arena (tlsfMemalign arena.control (2 ^ j) size) s r s' := by
    intro b s₁ b' s₂ r s' r₁ r₂ r₃
    refine radjust.bind ?_
    rw [hadd, hadd']
    refine rgap.bind ?_
    rw [← halloc] at r₁
    exact r₁.bind ((hguard _).bind (r₂.bind r₃))
  have hnone : Runs arena (blockLocateFree arena.control want) s 0 s →
      Runs arena (tlsfMemalign arena.control (2 ^ j) size) s 0 s := fun r =>
    hrun r Prog.Runs.ret Prog.Runs.ret
  by_cases hw : want = 0
  · refine .inl (hnone ?_)
    rw [hw]
    exact Prog.Runs.ret
  · obtain ⟨hzero, hdvd', hle⟩ : adjusted size 3 ≠ 0 ∧ 8 ∣ want ∧ adjusted size 3 ≤ want ∧
        (j ≤ 3 ∨ adjusted size 3 + 2 ^ j + 32 ≤ want) := by
      rcases hwant with h | ⟨h1, h2, h3 | h4⟩
      · exact absurd h.2 hw
      · exact absurd h3 hw
      · exact ⟨h1, h2, h4⟩
    have hspec := adjusted_spec hzero
    have hmin : 24 ≤ adjusted size 3 := hspec.1
    rcases h.runs_blockLocateFree hdvd' (Nat.pos_of_ne_zero hw) with
      ⟨r, -⟩ | ⟨xs, n, ys, s₁, rfl, hn, r, h₁, -⟩
    · exact .inl (hnone r)
    · obtain ⟨g, us, s₂, r₂, -, hal, h₂, hg⟩ := h₁.blockAlign hj (by omega)
      have hgle : g + adjusted size 3 ≤ n := by omega
      obtain ⟨s₃, ws, r₃, hlen, h₃⟩ := h₂.blockPrepareUsed hdvd hspec.1 hspec.2 (by omega)
      obtain ⟨haround, hlast⟩ := h.around
      have haround' : Around arena us (n - g) ys := by
        rcases hg with ⟨rfl, rfl⟩ | ⟨hmin, -, -, rfl⟩
        · exact haround
        · exact haround.divide hlast hmin (by omega)
      exact .inr ⟨xs, n, ys, g, us, ws, s₃, rfl, hzero, hgle,
        hg.imp_right (fun hg => ⟨hg.1, hg.2.2.2⟩), hrun r r₂ r₃, hal, hlen,
        haround'.allocate hspec.1 (by omega) hlen h₃⟩

end Aligned

/-! ## Release -/

/-- The open block after merging with a free block in front of it. -/
def mergedPrev (xs : List Block) (n : Nat) : List Block × Nat :=
  match xs.getLast? with
  | some (.free p) => (xs.dropLast, p + n + 8)
  | _ => (xs, n)

/-- The blocks after the release of one of size `n` between `xs` and `ys`. -/
def released (xs : List Block) (n : Nat) (ys : List Block) : List Block :=
  (mergedPrev xs n).1 ++
    .free (mergedNext (mergedPrev xs n).2 ys).1 :: (mergedNext (mergedPrev xs n).2 ys).2

section Release

variable {arena : Arena} {xs ys bs : List Block} {n k : Nat} {s : State} {ws : List Nat}

theorem mergedPrev_cases (xs : List Block) (n : Nat) :
    (∃ us p, xs = us ++ [.free p] ∧ mergedPrev xs n = (us, p + n + 8)) ∨
      lastFree false xs = false ∧ mergedPrev xs n = (xs, n) := by
  rcases List.eq_nil_or_concat xs with rfl | ⟨us, b, rfl⟩
  · exact .inr ⟨rfl, rfl⟩
  · cases b with
    | free p => exact .inl ⟨us, p, by simp, by simp [mergedPrev]⟩
    | used ws => exact .inr ⟨by simp [lastFree_append], by simp [mergedPrev]⟩

theorem Stored.blockMergePrev (h : Stored arena (opened xs n ys) s) :
    ∃ s', Runs arena (blockMergePrev arena.control (arena.place xs)) s
        (arena.place (mergedPrev xs n).1) s' ∧
      Stored arena (opened (mergedPrev xs n).1 (mergedPrev xs n).2 ys) s' := by
  rcases mergedPrev_cases xs n with ⟨us, p, rfl, he⟩ | ⟨hx, he⟩
  · rw [he]
    exact h.blockMergePrev_free
  · rw [he]
    exact ⟨s, h.blockMergePrev_used hx, h⟩

theorem mergedNext_cases (n : Nat) (ys : List Block) :
    (∃ m zs, ys = .free m :: zs ∧ mergedNext n ys = (n + m + 8, zs)) ∨
      headFree ys = false ∧ mergedNext n ys = (n, ys) := by
  match ys with
  | [] => exact .inr ⟨rfl, rfl⟩
  | .free m :: zs => exact .inl ⟨m, zs, rfl, rfl⟩
  | .used ws :: zs => exact .inr ⟨rfl, rfl⟩

theorem le_released : n ≤ (mergedNext (mergedPrev xs n).2 ys).1 := by
  rcases mergedPrev_cases xs n with ⟨us, p, -, he⟩ | ⟨-, he⟩ <;> rw [he] <;>
    rcases mergedNext_cases _ ys with ⟨m, zs, -, he'⟩ | ⟨-, he'⟩ <;> rw [he'] <;>
    simp only <;> omega

/-- Releasing a block keeps the pool in order. -/
theorem Holds.release {s' : State} (h : Holds arena (xs ++ .used ws :: ys) s)
    (h' : Stored arena (pool (released xs (8 * ws.length) ys)) s') :
    Holds arena (released xs (8 * ws.length) ys) s' := by
  have hco := h.coalesced
  have hlarge := h.large
  have htotal := h.total
  have hws : 24 ≤ 8 * ws.length := hlarge (.used ws) (by simp)
  have hmin : 24 ≤ (mergedNext (mergedPrev xs (8 * ws.length)).2 ys).1 :=
    Nat.le_trans hws le_released
  rw [place_mid, Block.size] at htotal
  rw [coalesced_append] at hco
  obtain ⟨hxs, -, hys⟩ := hco
  unfold released at h' ⊢
  -- What the block in front contributes.
  have hprev : Coalesced false (mergedPrev xs (8 * ws.length)).1 ∧
      lastFree false (mergedPrev xs (8 * ws.length)).1 = false ∧
      (∀ b ∈ (mergedPrev xs (8 * ws.length)).1, b ∈ xs) ∧
      arena.place (mergedPrev xs (8 * ws.length)).1 + (mergedPrev xs (8 * ws.length)).2 =
        arena.place xs + 8 * ws.length := by
    rcases mergedPrev_cases xs (8 * ws.length) with ⟨us, p, rfl, he⟩ | ⟨hx, he⟩
    · rw [he, place_append]
      obtain ⟨hus, hp, -⟩ := coalesced_append.1 hxs
      refine ⟨hus, by simpa using hp, fun b hb => List.mem_append_left _ hb, ?_⟩
      simp only [Block.size]
      omega
    · rw [he]
      exact ⟨hxs, hx, fun b hb => hb, rfl⟩
  obtain ⟨hco₁, hlast, hmem, hplace⟩ := hprev
  generalize mergedPrev xs (8 * ws.length) = us at *
  have hnext : Coalesced true (mergedNext us.2 ys).2 ∧ (∀ b ∈ (mergedNext us.2 ys).2, b ∈ ys) ∧
      ∀ a, after Block.extent (a + (mergedNext us.2 ys).1 + 8) (mergedNext us.2 ys).2 =
        after Block.extent (a + us.2 + 8) ys := by
    rcases mergedNext_cases us.2 ys with ⟨m, zs, rfl, he⟩ | ⟨hy, he⟩
    · rw [he]
      refine ⟨hys.2, fun b hb => List.mem_cons_of_mem _ hb, fun a => ?_⟩
      simp only [after_cons, Block.extent, Block.size, blockHeaderOverhead]
      congr 1
      omega
    · rw [he]
      exact ⟨coalesced_of_headFree hys hy, fun b hb => hb, fun a => rfl⟩
  obtain ⟨hco₂, hmem', hafter⟩ := hnext
  refine ⟨h', ?_, ?_, ?_⟩
  · rw [coalesced_append]
    exact ⟨hco₁, by simp [hlast], hco₂⟩
  · intro b hb
    rcases List.mem_append.1 hb with hb | hb
    · exact hlarge b (List.mem_append_left _ (hmem b hb))
    rcases List.mem_cons.1 hb with rfl | hb
    · exact hmin
    · exact hlarge b (List.mem_append_right _ (List.mem_cons_of_mem _ (hmem' b hb)))
  · rw [place_mid, Block.size, hafter, hplace, htotal]

theorem Holds.runs_tlsfFree (h : Holds arena (xs ++ .used ws :: ys) s) :
    ∃ s', Runs arena (tlsfFree arena.control (arena.place xs + 16)) s () s' ∧
      Holds arena (released xs (8 * ws.length) ys) s' := by
  have hlarge : 24 ≤ 8 * ws.length := h.large (.used ws) (by simp)
  have hws : ws ≠ [] := by
    rintro rfl
    simp at hlarge
  have hfree : Runs arena (blockIsFree (arena.place xs)) s false s := by
    obtain ⟨L, hrep⟩ := h.stored
    rw [pool_append] at hrep
    have := hrep.laid.runs_blockIsFree Arena.mid_mem_blocks
    rw [addr_chunks] at this
    exact this
  obtain ⟨s₁, r₁, h₁⟩ := h.stored.blockMarkAsFree hws
  obtain ⟨s₂, r₂, h₂⟩ := h₁.blockMergePrev
  have hpos : 0 < (mergedPrev xs (8 * ws.length)).2 := by
    rcases mergedPrev_cases xs (8 * ws.length) with ⟨us, p, -, he⟩ | ⟨-, he⟩ <;> rw [he] <;>
      simp only <;> omega
  obtain ⟨s₃, r₃, h₃⟩ := h₂.blockMergeNext_opened hpos
  have hmin : blockSizeMin ≤ (mergedNext (mergedPrev xs (8 * ws.length)).2 ys).1 :=
    Nat.le_trans hlarge le_released
  obtain ⟨s₄, r₄, h₄⟩ := h₃.close hmin
  refine ⟨s₄, ?_, h.release h₄⟩
  have hblock : blockFromPtr (arena.place xs + 16) = arena.place xs := Nat.add_sub_cancel _ _
  rw [tlsfFree, if_pos (by omega), hblock]
  exact hfree.bind ((runs_assert rfl).bind (r₁.bind (r₂.bind (r₃.bind r₄))))

end Release

end WinShell.Tlsf
