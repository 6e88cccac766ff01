-- SUMMARY: Pools between two calls: blocks that are free or used, their chunks, and the block operations seen on them.
import WinShell.Tlsf.Lists

/-!
# Pools

Between two calls a pool is a list of blocks, each free or used; everything else in a
chunk follows from the list. During a call one block may be open: free, but in no
list. The laws here move a block between these states and divide and join the open
block.
-/

namespace WinShell.Tlsf

open Store Effect

/-! ## Blocks -/

/-- A block of a pool. A used block has contents, one number for each word. -/
inductive Block where
  | free (size : Nat)
  | used (data : List Nat)

namespace Block

@[simp] def size : Block → Nat
  | free n => n
  | used ws => 8 * ws.length

@[simp] def isFree : Block → Bool
  | free _ => true
  | used _ => false

def extent (b : Block) : Nat := b.size + blockHeaderOverhead

/-- The chunk of a block behind a block that is free or not. -/
def chunk (prevFree : Bool) : Block → Chunk
  | free n => ⟨n, true, prevFree, true, true, []⟩
  | used ws => ⟨8 * ws.length, false, prevFree, false, false, ws⟩

@[simp] theorem size_chunk {b : Block} {p : Bool} : (b.chunk p).size = b.size := by
  cases b <;> rfl

@[simp] theorem free_chunk {b : Block} {p : Bool} : (b.chunk p).free = b.isFree := by
  cases b <;> rfl

end Block

/-- Whether the block in front of what follows `bs` is free. -/
@[simp] def lastFree (prevFree : Bool) : List Block → Bool
  | [] => prevFree
  | b :: bs => lastFree b.isFree bs

/-- Whether the block at the front of `bs` is free. The sentinel is not. -/
@[simp] def headFree : List Block → Bool
  | [] => false
  | b :: _ => b.isFree

@[simp] def chunks (prevFree : Bool) : List Block → List Chunk
  | [] => []
  | b :: bs => b.chunk prevFree :: chunks b.isFree bs

/-- The block of size zero at the end of a pool. -/
def sentinel (prevFree : Bool) : Chunk := ⟨0, false, prevFree, false, false, []⟩

/-- The chunks of the blocks `bs` and of the sentinel. -/
def ending (prevFree : Bool) (bs : List Block) : List Chunk :=
  chunks prevFree bs ++ [sentinel (lastFree prevFree bs)]

/-- The chunks of a pool. -/
abbrev pool (bs : List Block) : List Chunk := ending false bs

/-- A block that is free and in no list. -/
def openBlock (prevFree : Bool) (n : Nat) : Chunk := ⟨n, true, prevFree, true, false, []⟩

/-- The chunks of a pool with an open block of size `n` between `xs` and `ys`. -/
def opened (xs : List Block) (n : Nat) (ys : List Block) : List Chunk :=
  chunks false xs ++ openBlock (lastFree false xs) n :: ending true ys

/-- What the payload of a block holds, word by word. -/
def payload (mem : Nat → Nat) (a n : Nat) : List Nat :=
  (List.range (n / 8)).map fun i => mem (a + 16 + 8 * i)

/-- What the block behind the open block adds to it. -/
def mergedNext (n : Nat) : List Block → Nat × List Block
  | .free m :: ys => (n + m + 8, ys)
  | ys => (n, ys)

/-- What is left of an open block of size `n` trimmed to `k`, and what follows it. -/
def trimmed (n k : Nat) (ys : List Block) : Nat × List Block :=
  if k + 32 ≤ n then (k, .free (n - k - 8) :: ys) else (n, ys)

/-- The address of the block behind `xs`. -/
def Arena.place (arena : Arena) (xs : List Block) : Nat := after Block.extent arena.start xs

section Chunks

variable {arena : Arena} {p q : Bool} {b : Block} {bs xs ys : List Block} {n : Nat}

theorem lastFree_append : lastFree p (xs ++ ys) = lastFree (lastFree p xs) ys := by
  induction xs generalizing p with
  | nil => rfl
  | cons b xs ih => exact ih

theorem chunks_append : chunks p (xs ++ ys) = chunks p xs ++ chunks (lastFree p xs) ys := by
  induction xs generalizing p with
  | nil => rfl
  | cons b xs ih => simp [ih]

theorem ending_append : ending p (xs ++ ys) = chunks p xs ++ ending (lastFree p xs) ys := by
  rw [ending, chunks_append, lastFree_append, List.append_assoc]
  rfl

theorem ending_cons : ending p (b :: bs) = b.chunk p :: ending b.isFree bs := rfl

theorem pool_append : pool (xs ++ b :: ys) =
    chunks false xs ++ b.chunk (lastFree false xs) :: ending b.isFree ys := ending_append

/-- What follows a block depends on it in one flag. -/
theorem ending_eq (ys : List Block) : ∃ (d : Chunk) (rest : List Chunk), d.free = headFree ys ∧
    ∀ p, ending p ys = { d with prevFree := p } :: rest := by
  cases ys with
  | nil => exact ⟨sentinel false, [], rfl, fun _ => rfl⟩
  | cons b ys =>
    refine ⟨b.chunk false, ending b.isFree ys, Block.free_chunk, fun p => ?_⟩
    cases b <;> rfl

theorem addr_chunks : arena.addr (chunks p bs) = arena.place bs := by
  suffices ∀ a, after Chunk.extent a (chunks p bs) = after Block.extent a bs from this _
  intro a
  induction bs generalizing a p with
  | nil => rfl
  | cons b bs ih =>
    simp only [chunks, after_cons, ih]
    rw [Chunk.extent, Block.size_chunk, Block.extent]

theorem place_append : arena.place (xs ++ [b]) = arena.place xs + b.size + 8 := by
  rw [Arena.place, after_append]
  exact (Nat.add_assoc _ _ _).symm

end Chunks

/-! ## Stored pools -/

/-- The state holds the chunks `cs`, indexed by some free lists. -/
def Stored (arena : Arena) (cs : List Chunk) (s : State) : Prop := ∃ L, Rep arena cs L s

namespace Stored

variable {arena : Arena} {cs : List Chunk} {xs ys : List Block} {n m k : Nat} {s : State}
  {ws : List Nat}

theorem blockRemove {us vs : List Chunk} {c d : Chunk} (h : Stored arena (us ++ c :: d :: vs) s)
    (hl : c.listed) :
    ∃ s', Runs arena (blockRemove arena.control (arena.addr us)) s () s' ∧
      Stored arena (us ++ { c with listed := false } :: d :: vs) s' := by
  obtain ⟨L, h⟩ := h
  obtain ⟨s', r, h'⟩ := h.removeFreeBlock hl (mappingInsert_fst_lt h.laid.size_lt)
  exact ⟨s', (h.laid.runs_blockSize Arena.mid_mem_blocks).bind r, _, h'⟩

theorem blockInsert {us vs : List Chunk} {c d : Chunk} (h : Stored arena (us ++ c :: d :: vs) s)
    (hl : c.listed = false) (hsize : blockSizeMin ≤ c.size) (hdata : c.data = []) :
    ∃ s', Runs arena (blockInsert arena.control (arena.addr us)) s () s' ∧
      Stored arena (us ++ { c with listed := true } :: d :: vs) s' := by
  obtain ⟨L, h⟩ := h
  obtain ⟨s', r, h'⟩ := h.insertFreeBlock hl hsize hdata (mappingInsert_fst_lt h.laid.size_lt)
  exact ⟨s', (h.laid.runs_blockSize Arena.mid_mem_blocks).bind r, _, h'⟩

/-- Putting the open block into its list. -/
theorem close (h : Stored arena (opened xs n ys) s) (hn : blockSizeMin ≤ n) :
    ∃ s', Runs arena (Tlsf.blockInsert arena.control (arena.place xs)) s () s' ∧
      Stored arena (pool (xs ++ .free n :: ys)) s' := by
  obtain ⟨d, rest, -, hd⟩ := ending_eq ys
  rw [opened, hd] at h
  obtain ⟨s', r, h'⟩ := h.blockInsert rfl hn rfl
  rw [addr_chunks] at r
  refine ⟨s', r, ?_⟩
  rw [pool_append, Block.isFree, hd]
  exact h'

/-- Opening a used block. -/
theorem blockMarkAsFree (h : Stored arena (pool (xs ++ .used ws :: ys)) s) (hpos : ws ≠ []) :
    ∃ s', Runs arena (blockMarkAsFree (arena.place xs)) s () s' ∧
      Stored arena (opened xs (8 * ws.length) ys) s' := by
  obtain ⟨d, rest, -, hd⟩ := ending_eq ys
  rw [pool_append, Block.isFree, hd] at h
  obtain ⟨L, h⟩ := h
  have hv := h.valid_mid
  have hat := h.at_mid
  have hlen := List.length_pos_iff.2 hpos
  have h₁ : Rep arena (chunks false xs ++ { (Block.used ws).chunk (lastFree false xs) with data := [] }
      :: { d with prevFree := false } :: rest) L s :=
    h.restate rfl rfl ⟨hv.dvd, Nat.zero_le _, by simp [Block.chunk], by simp [Block.chunk]⟩
      ⟨hat.header, by simp [Block.chunk], by simp⟩
  obtain ⟨s', r, h'⟩ := h₁.blockMarkAsFree (by simpa [Block.chunk] using hlen)
  rw [addr_chunks] at r
  refine ⟨s', r, L, ?_⟩
  rw [opened, hd]
  exact h'

/-- Using the open block. Its contents are what the memory holds. -/
theorem blockMarkAsUsed (h : Stored arena (opened xs n ys) s) (hpos : 0 < n) :
    ∃ s' ws, Runs arena (blockMarkAsUsed (arena.place xs)) s () s' ∧ 8 * ws.length = n ∧
      Stored arena (pool (xs ++ .used ws :: ys)) s' := by
  obtain ⟨d, rest, -, hd⟩ := ending_eq ys
  rw [opened, hd] at h
  obtain ⟨L, h⟩ := h
  obtain ⟨s', r, h'⟩ := h.blockMarkAsUsed hpos
  rw [addr_chunks] at r
  have hv := h'.valid_mid
  have hat := h'.at_mid
  have hdvd : 8 ∣ n := hv.dvd
  have hlen : 8 * (payload s'.mem (arena.place xs) n).length = n := by
    simp only [payload, List.length_map, List.length_range]
    omega
  refine ⟨s', payload s'.mem (arena.place xs) n, r, hlen, L, ?_⟩
  rw [pool_append, Block.isFree, hd]
  refine h'.restate hlen rfl ⟨Nat.dvd_mul_right 8 _, Nat.le_refl _, by simp [Block.chunk],
    by simp [Block.chunk]⟩
    ⟨?_, by simp [Block.chunk], ?_⟩
  · rw [hat.header, Chunk.header, Chunk.header]
    simp only [Block.chunk, hlen, openBlock]
  · intro i v hi
    simp only [Block.chunk, payload, List.getElem?_map] at hi
    rw [addr_chunks]
    obtain ⟨i', hi', rfl⟩ := Option.map_eq_some_iff.1 hi
    obtain ⟨-, rfl⟩ := List.getElem?_eq_some_iff.1 hi'
    rw [List.getElem_range]

/-! ## Merging -/

theorem opened_append_free {p : Nat} : opened (xs ++ [.free p]) n ys =
    chunks false xs ++ (Block.free p).chunk (lastFree false xs) :: openBlock true n ::
      ending true ys := by
  rw [opened, chunks_append, lastFree_append]
  simp

theorem blockMergePrev_free {p : Nat} (h : Stored arena (opened (xs ++ [.free p]) n ys) s) :
    ∃ s', Runs arena (blockMergePrev arena.control (arena.place (xs ++ [.free p]))) s
        (arena.place xs) s' ∧ Stored arena (opened xs (p + n + 8) ys) s' := by
  obtain ⟨d, rest, -, hd⟩ := ending_eq ys
  rw [opened_append_free, hd] at h
  obtain ⟨L, h⟩ := h
  have hpos : 24 ≤ p := (h.valid_mid.listed rfl).1
  have haddr : arena.addr (chunks false xs) = arena.place xs := addr_chunks
  have rprev := h.laid.runs_blockPrev rfl rfl
  have rprevFree := h.laid.runs_blockIsPrevFree Arena.next_mem_blocks
  have rfree := h.laid.runs_blockIsFree Arena.mid_mem_blocks
  have hne : arena.place xs ≠ 0 := by
    rw [← haddr]
    exact (Rep.isNode_mid (show blockSizeMin ≤ p from hpos) rfl).ne_zero h.laid
  obtain ⟨s₁, r₁, L₁, h₁⟩ := blockRemove ⟨L, h⟩ rfl
  obtain ⟨s₂, r₂, h₂⟩ := h₁.blockAbsorb rfl rfl (show 0 < p by omega)
  rw [haddr] at *
  refine ⟨s₂, ?_, L₁, ?_⟩
  · rw [place_append]
    refine rprevFree.bind ?_
    refine rprev.bind ((runs_assert (decide_eq_true hne)).bind ?_)
    exact rfree.bind ((runs_assert rfl).bind (r₁.bind r₂))
  · rw [opened, hd]
    exact h₂

theorem blockMergePrev_used (h : Stored arena (opened xs n ys) s) (hx : lastFree false xs = false) :
    Runs arena (blockMergePrev arena.control (arena.place xs)) s (arena.place xs) s := by
  obtain ⟨L, h⟩ := h
  have r := h.laid.runs_blockIsPrevFree Arena.mid_mem_blocks
  rw [addr_chunks, openBlock, hx] at r
  exact r.bind Prog.Runs.ret

/-- Merging a block that is in no list with a free block behind it. -/
theorem blockMergeNext {us vs : List Chunk} {c d e : Chunk}
    (h : Stored arena (us ++ c :: d :: e :: vs) s) (hc : c.listed = false) (hpos : 0 < c.size)
    (hfree : d.free) (hd : d.listed) :
    ∃ s', Runs arena (blockMergeNext arena.control (arena.addr us)) s (arena.addr us) s' ∧
      Stored arena (us ++ { c with size := c.size + d.size + 8, footed := true } :: e :: vs) s' := by
  obtain ⟨L, h⟩ := h
  have rnext := h.laid.runs_blockNext Arena.mid_mem_blocks hpos
  have rfree := h.laid.runs_blockIsFree (a := arena.addr us + c.size + 8) Arena.next_mem_blocks
  have rlast := h.laid.runs_blockIsLast Arena.mid_mem_blocks
  have hlast : (!(c.size == 0)) = true := by
    rw [Bool.not_eq_true', beq_eq_false_iff_ne]
    omega
  have h₀ : Stored arena ((us ++ [c]) ++ d :: e :: vs) s := ⟨L, by simpa using h⟩
  obtain ⟨s₁, r₁, L₁, h₁⟩ := blockRemove h₀ hd
  rw [← Rep.next_addr] at r₁
  have h₁' : Rep arena (us ++ c :: { d with listed := false } :: e :: vs) L₁ s₁ := by simpa using h₁
  obtain ⟨s₂, r₂, h₂⟩ := h₁'.blockAbsorb hc rfl hpos
  refine ⟨s₂, ?_, L₁, h₂⟩
  refine rnext.bind ((runs_assert (decide_eq_true (by omega))).bind ?_)
  rw [hfree] at rfree
  exact rfree.bind (rlast.bind ((runs_assert hlast).bind (r₁.bind r₂)))

/-- A block whose neighbour behind is used stays as it is. -/
theorem blockMergeNext_used {us vs : List Chunk} {c d : Chunk}
    (h : Stored arena (us ++ c :: d :: vs) s) (hpos : 0 < c.size) (hfree : d.free = false) :
    Runs arena (Tlsf.blockMergeNext arena.control (arena.addr us)) s (arena.addr us) s := by
  obtain ⟨L, h⟩ := h
  have rnext := h.laid.runs_blockNext Arena.mid_mem_blocks hpos
  have rfree := h.laid.runs_blockIsFree (a := arena.addr us + c.size + 8) Arena.next_mem_blocks
  refine rnext.bind ((runs_assert (decide_eq_true (by omega))).bind ?_)
  rw [hfree] at rfree
  exact rfree.bind Prog.Runs.ret

theorem blockMergeNext_opened (h : Stored arena (opened xs n ys) s) (hpos : 0 < n) :
    ∃ s', Runs arena (Tlsf.blockMergeNext arena.control (arena.place xs)) s (arena.place xs) s' ∧
      Stored arena (opened xs (mergedNext n ys).1 (mergedNext n ys).2) s' := by
  match ys, h with
  | .free m :: ys, h =>
    obtain ⟨e, rest, -, he⟩ := ending_eq ys
    rw [opened, ending_cons, Block.isFree, he] at h
    obtain ⟨s', r, h'⟩ := h.blockMergeNext rfl hpos rfl rfl
    rw [addr_chunks] at r
    refine ⟨s', r, ?_⟩
    rw [mergedNext, opened, he]
    exact h'
  | [], h =>
    have r := h.blockMergeNext_used hpos rfl
    rw [addr_chunks] at r
    exact ⟨s, r, h⟩
  | .used ws :: ys, h =>
    have r := h.blockMergeNext_used hpos rfl
    rw [addr_chunks] at r
    exact ⟨s, r, h⟩

/-! ## Trimming -/

theorem runs_blockCanSplit {us vs : List Chunk} {c : Chunk} (h : Stored arena (us ++ c :: vs) s)
    (hk : k < 2 ^ 63) :
    Runs arena (blockCanSplit (arena.addr us) k) s (decide (k + 32 ≤ c.size)) s := by
  obtain ⟨L, h⟩ := h
  have hadd : sizetAdd 32 k = 32 + k := sizetAdd_eq (by omega)
  refine (h.laid.runs_blockSize Arena.mid_mem_blocks).bind ?_
  rw [show sizetAdd sizeofBlockHeader k = 32 + k from hadd, Nat.add_comm 32 k]
  exact Prog.Runs.ret

theorem blockTrimFree (h : Stored arena (opened xs n ys) s) (hk : 8 ∣ k) (hpos : 0 < k)
    (hlt : k < 2 ^ 63) :
    ∃ s', Runs arena (blockTrimFree arena.control (arena.place xs) k) s () s' ∧
      Stored arena (opened xs (trimmed n k ys).1 (trimmed n k ys).2) s' := by
  have haddr : arena.addr (chunks false xs) = arena.place xs := addr_chunks
  have rsplit := h.runs_blockCanSplit hlt
  obtain ⟨d, rest, -, hd⟩ := ending_eq ys
  obtain ⟨L, hrep⟩ := h
  have rfree := hrep.laid.runs_blockIsFree Arena.mid_mem_blocks
  have hsize : decide (k + 32 ≤ (openBlock (lastFree false xs) n).size) = decide (k + 32 ≤ n) := rfl
  rw [haddr] at rfree rsplit
  rw [hsize] at rsplit
  by_cases hle : k + 32 ≤ n
  · rw [opened, hd] at hrep
    obtain ⟨p, s₁, r₁, h₁⟩ := hrep.blockSplit rfl hk hle
    obtain ⟨s₂, r₂, h₂⟩ := h₁.blockLinkNext (by simpa [openBlock] using hpos)
    have h₂' : Rep arena ((chunks false xs ++ [openBlock (lastFree false xs) k]) ++
        ⟨n - k - 8, true, p, true, false, []⟩ :: { d with prevFree := true } :: rest) L s₂ := by
      simpa [openBlock] using h₂
    obtain ⟨s₃, r₃, h₃⟩ := h₂'.blockSetPrevFree
    obtain ⟨s₄, r₄, h₄⟩ := blockInsert ⟨L, h₃⟩ rfl (show 24 ≤ n - k - 8 by omega) rfl
    rw [Arena.addr_append_singleton, haddr] at r₃ r₄
    rw [haddr] at r₁ r₂
    refine ⟨s₄, ?_, ?_⟩
    · refine rfree.bind ((runs_assert rfl).bind (rsplit.bind ?_))
      rw [decide_eq_true hle]
      exact r₁.bind (r₂.bind (r₃.bind r₄))
    · rw [trimmed, if_pos hle, opened, ending_cons, Block.isFree, hd]
      simpa [openBlock, Block.chunk] using h₄
  · refine ⟨s, ?_, ?_⟩
    · refine rfree.bind ((runs_assert rfl).bind (rsplit.bind ?_))
      rw [decide_eq_false hle]
      exact Prog.Runs.ret
    · rw [trimmed, if_neg hle]
      exact ⟨L, hrep⟩

/-- Dividing the open block in front, with the first part given back. -/
theorem blockTrimFreeLeading {g : Nat} (h : Stored arena (opened xs n ys) s) (hg : 8 ∣ g)
    (hmin : 32 ≤ g) (hle : g + 32 ≤ n) (hlt : g < 2 ^ 63) :
    ∃ s', Runs arena (blockTrimFreeLeading arena.control (arena.place xs) g) s
        (arena.place (xs ++ [.free (g - 8)])) s' ∧
      Stored arena (opened (xs ++ [.free (g - 8)]) (n - g) ys) s' := by
  have haddr : arena.addr (chunks false xs) = arena.place xs := addr_chunks
  have rsplit := h.runs_blockCanSplit hlt
  rw [haddr, show decide (g + 32 ≤ (openBlock (lastFree false xs) n).size) = true from
    decide_eq_true hle] at rsplit
  obtain ⟨d, rest, -, hd⟩ := ending_eq ys
  obtain ⟨L, hrep⟩ := h
  rw [opened, hd] at hrep
  obtain ⟨p, s₁, r₁, h₁⟩ := hrep.blockSplit rfl (show 8 ∣ g - 8 by omega)
    (show g - 8 + 32 ≤ n by omega)
  have h₁' : Rep arena ((chunks false xs ++ [{ openBlock (lastFree false xs) (g - 8) with
      footed := false }]) ++ ⟨n - (g - 8) - 8, true, p, true, false, []⟩ ::
        { d with prevFree := true } :: rest) L s₁ := by
    simpa [openBlock] using h₁
  obtain ⟨s₂, r₂, h₂⟩ := h₁'.blockSetPrevFree
  have h₂' : Rep arena (chunks false xs ++ { openBlock (lastFree false xs) (g - 8) with
      footed := false } :: ⟨n - (g - 8) - 8, true, true, true, false, []⟩ ::
        { d with prevFree := true } :: rest) L s₂ := by
    simpa [openBlock] using h₂
  obtain ⟨s₃, r₃, h₃⟩ := h₂'.blockLinkNext (show 8 * 0 < g - 8 by omega)
  obtain ⟨s₄, r₄, h₄⟩ := blockInsert ⟨L, h₃⟩ rfl (show 24 ≤ g - 8 by omega) rfl
  rw [Arena.addr_append_singleton, haddr] at r₂
  rw [haddr] at r₁ r₃ r₄
  have hsub : sizetSub g blockHeaderOverhead = g - 8 := sizetSub_eq (by omega) (by simp; omega)
  refine ⟨s₄, ?_, ?_⟩
  · rw [place_append]
    refine rsplit.bind ?_
    rw [hsub]
    exact r₁.bind (r₂.bind (r₃.bind (r₄.bind Prog.Runs.ret)))
  · rw [opened_append_free, hd]
    have hsize : n - (g - 8) - 8 = n - g := by omega
    rw [hsize] at h₄
    exact h₄

end Stored

end WinShell.Tlsf
