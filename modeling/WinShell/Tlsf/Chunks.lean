-- SUMMARY: The blocks of a pool as a layout of chunks, the free lists that index them, and the laws for rewriting a part of the layout.
import WinShell.Tlsf.Words
import WinShell.Store.Layout
import WinShell.Store.Linked

/-!
# Chunks

A pool is a layout of chunks. A chunk says of one block what the memory holds about
it: its header word, and as far as they are in place its link from the block behind,
its membership in a free list, and the contents of its first words. The operations of
the allocator change one or two chunks at a time; between two of their steps the
flags of neighbours may disagree, and a free block may be in no list. `Rep` connects
the chunks and the free lists with a state. Its laws say that rewriting some chunks
leaves the others as they are.
-/

namespace WinShell.Tlsf

open Store

/-- One block of the pool. -/
structure Chunk where
  size : Nat
  free : Bool
  prevFree : Bool
  /-- The block behind points back to this one. -/
  footed : Bool
  /-- The block is in the free list of its class. -/
  listed : Bool
  /-- What the payload starts with. -/
  data : List Nat

namespace Chunk

/-- A block reaches up to the header of the next one. -/
def extent (c : Chunk) : Nat := c.size + blockHeaderOverhead

def header (c : Chunk) : Nat := c.size ||| flags c.free c.prevFree

structure Valid (c : Chunk) : Prop where
  dvd : 8 ∣ c.size
  data_le : 8 * c.data.length ≤ c.size
  footed : c.footed → 8 * c.data.length < c.size
  listed : c.listed → blockSizeMin ≤ c.size ∧ c.data = []

/-- The memory holds `c` at the address `a`. -/
structure At (mem : Nat → Nat) (a : Nat) (c : Chunk) : Prop where
  header : mem (a + 8) = c.header
  foot : c.footed → mem (a + 8 + c.size) = a
  data : ∀ i v, c.data[i]? = some v → mem (a + 16 + 8 * i) = v

theorem extent_pos (c : Chunk) : 0 < c.extent := Nat.succ_pos _

theorem Valid.dvd_extent {c : Chunk} (h : c.Valid) : 8 ∣ c.extent :=
  Nat.dvd_add h.dvd (Nat.dvd_refl 8)

variable {mem mem' : Nat → Nat} {a : Nat} {c : Chunk}

/-- A chunk owns the words from its header up to the next one. -/
theorem At.congr (h : At mem a c) (hc : c.Valid)
    (hmem : ∀ x, a + 8 ≤ x → x < a + 8 + c.extent → mem' x = mem x) : At mem' a c where
  header := by
    rw [hmem _ (Nat.le_refl _) (Nat.lt_add_of_pos_right c.extent_pos), h.header]
  foot hf := by
    have := hc.footed hf
    rw [hmem _ (by omega) (by simp only [extent, blockHeaderOverhead]; omega), h.foot hf]
  data i v hv := by
    have hlt : i < c.data.length := (List.getElem?_eq_some_iff.1 hv).1
    have := hc.data_le
    rw [hmem _ (by omega) (by simp only [extent, blockHeaderOverhead]; omega), h.data i v hv]

end Chunk

namespace Arena

/-- The address of the first block. Its first word lies in front of the pool. -/
def start (arena : Arena) : Nat := arena.control + tlsfSize - blockHeaderOverhead

/-- The address of the block behind `cs`. -/
def addr (arena : Arena) (cs : List Chunk) : Nat := after Chunk.extent arena.start cs

/-- The chunks with their addresses. -/
def blocks (arena : Arena) (cs : List Chunk) : List (Nat × Chunk) :=
  placed Chunk.extent arena.start cs

variable {arena : Arena} {c d : Chunk} {cs xs ws ys : List Chunk} {p : Nat × Chunk}

theorem start_eq : arena.start = arena.control + 6528 := by
  have hsize : tlsfSize = 6536 := by decide
  rw [start, hsize]
  exact Nat.add_sub_assoc (by decide) arena.control

theorem dvd_start : 8 ∣ arena.start := Nat.dvd_add arena.aligned (by decide)

@[simp] theorem addr_nil : arena.addr [] = arena.start := rfl

@[simp] theorem addr_append_singleton : arena.addr (cs ++ [c]) = arena.addr cs + c.extent :=
  after_append

theorem start_le_addr : arena.start ≤ arena.addr cs := le_after

theorem mem_blocks : p ∈ arena.blocks (xs ++ (ws ++ ys)) ↔
    p ∈ arena.blocks xs ∨ p ∈ placed Chunk.extent (arena.addr xs) ws ∨
      p ∈ placed Chunk.extent (after Chunk.extent (arena.addr xs) ws) ys := by
  simp [blocks, addr]

theorem mid_mem_blocks : (arena.addr xs, c) ∈ arena.blocks (xs ++ c :: ys) := placed_mid

/-- The block behind a block. -/
theorem next_mem_blocks :
    (arena.addr xs + c.size + 8, d) ∈ arena.blocks (xs ++ c :: d :: ys) := by
  have h : (arena.addr (xs ++ [c]), d) ∈ arena.blocks ((xs ++ [c]) ++ d :: ys) := mid_mem_blocks
  rw [List.append_assoc, addr_append_singleton] at h
  exact h

end Arena

/-! ## Layout in memory -/

/-- The memory holds the chunks, one behind the other from the start of the pool. -/
structure Laid (arena : Arena) (cs : List Chunk) (mem : Nat → Nat) : Prop where
  holds : ∀ p ∈ arena.blocks cs, p.2.At mem p.1
  valid : ∀ c ∈ cs, c.Valid
  fits : arena.addr cs + 8 ≤ arena.control + arena.bytes
  small : arena.addr cs < arena.start + 16 + blockSizeMax

namespace Laid

variable {arena : Arena} {cs xs ys : List Chunk} {c d : Chunk} {mem mem' : Nat → Nat}
  {p : Nat × Chunk} {x : Nat}

theorem dvd_block (h : Laid arena cs mem) (hp : p ∈ arena.blocks cs) : 8 ∣ p.1 :=
  dvd_of_placed Arena.dvd_start (fun c hc => (h.valid c hc).dvd_extent) hp

theorem bounds (h : Laid arena cs mem) (hp : p ∈ arena.blocks cs) :
    arena.start ≤ p.1 ∧ p.1 + 16 + p.2.size ≤ arena.control + arena.bytes := by
  have hb : arena.start ≤ p.1 ∧ p.1 + (p.2.size + 8) ≤ arena.addr cs := bounds_of_placed hp
  have := h.fits
  omega

/-- The words of a chunk are in the arena. -/
theorem maps (h : Laid arena cs mem) (hp : p ∈ arena.blocks cs) (hx : 8 ∣ x)
    (h1 : p.1 + 8 ≤ x) (h2 : x ≤ p.1 + 8 + p.2.size) : arena.Maps x := by
  have := h.bounds hp
  have := @Arena.start_eq arena
  have : tlsfSize = 6536 := by decide
  rw [Arena.Maps, decide_eq_true_eq]
  refine ⟨Nat.mod_eq_zero_of_dvd hx, .inr ⟨?_, ?_⟩⟩ <;> omega

theorem apart {q : Nat × Chunk} (hp : p ∈ arena.blocks cs)
    (hq : q ∈ arena.blocks cs) :
    p = q ∨ p.1 + 8 + p.2.size ≤ q.1 ∨ q.1 + 8 + q.2.size ≤ p.1 := by
  have h : p = q ∨ p.1 + (p.2.size + 8) ≤ q.1 ∨ q.1 + (q.2.size + 8) ≤ p.1 := apart_of_placed hp hq
  rcases h with he | hlt | hlt
  · exact .inl he
  · exact .inr (.inl (by omega))
  · exact .inr (.inr (by omega))

theorem eq_of_fst_eq {q : Nat × Chunk} (hp : p ∈ arena.blocks cs)
    (hq : q ∈ arena.blocks cs) (h : p.1 = q.1) : p = q :=
  eq_of_placed (fun c _ => c.extent_pos) hp hq h

/-- A block in front of another one is smaller than the pool. -/
theorem size_lt (h : Laid arena (xs ++ c :: d :: ys) mem) : c.size < blockSizeMax := by
  have hs := h.small
  have hle : arena.addr xs + c.extent + d.extent ≤ arena.addr (xs ++ c :: d :: ys) := by
    simp only [Arena.addr, after_append, after_cons]
    exact le_after
  have := @Arena.start_le_addr arena xs
  have : c.extent = c.size + 8 := rfl
  have : d.extent = d.size + 8 := rfl
  omega

/-- Rewriting the chunks `ws` to `zs` of the same extent. -/
theorem rewrite (ws zs : List Chunk) (h : Laid arena (xs ++ (ws ++ ys)) mem)
    (hext : after Chunk.extent (arena.addr xs) zs = after Chunk.extent (arena.addr xs) ws)
    (hmem : ∀ x, x < arena.addr xs + 8 ∨ after Chunk.extent (arena.addr xs) ws + 8 ≤ x →
      mem' x = mem x)
    (hat : ∀ p ∈ placed Chunk.extent (arena.addr xs) zs, p.2.At mem' p.1)
    (hv : ∀ c ∈ zs, c.Valid) : Laid arena (xs ++ (zs ++ ys)) mem' := by
  have haddr : arena.addr (xs ++ (zs ++ ys)) = arena.addr (xs ++ (ws ++ ys)) := by
    simp only [Arena.addr, after_append]
    rw [show after Chunk.extent arena.start xs = arena.addr xs from rfl, hext]
  refine ⟨fun p hp => ?_, fun c hc => ?_, by rw [haddr]; exact h.fits, by rw [haddr]; exact h.small⟩
  · rcases Arena.mem_blocks.1 hp with hp | hp | hp
    · have hb : p.1 + p.2.extent ≤ arena.addr xs := (bounds_of_placed hp).2
      refine (h.holds p (Arena.mem_blocks.2 (.inl hp))).congr
        (h.valid _ (List.mem_append_left _ (mem_of_placed hp))) fun x _ hx => hmem x (.inl ?_)
      omega
    · exact hat p hp
    · rw [hext] at hp
      have hb := (bounds_of_placed hp).1
      refine (h.holds p (Arena.mem_blocks.2 (.inr (.inr hp)))).congr
        (h.valid _ (List.mem_append_right _ (List.mem_append_right _ (mem_of_placed hp))))
        fun x hx _ => hmem x (.inr ?_)
      omega
  · rcases List.mem_append.1 hc with hc | hc
    · exact h.valid c (List.mem_append_left _ hc)
    rcases List.mem_append.1 hc with hc | hc
    · exact hv c hc
    · exact h.valid c (List.mem_append_right _ (List.mem_append_right _ hc))

end Laid

/-! ## Nodes of the free lists -/

/-- The blocks whose links may be written: the null block, and blocks with room for
links and no contents. -/
def IsNode (arena : Arena) (cs : List Chunk) (b : Nat) : Prop :=
  b = arena.control ∨ ∃ c, (b, c) ∈ arena.blocks cs ∧ blockSizeMin ≤ c.size ∧ c.data = []

section IsNode

variable {arena : Arena} {cs : List Chunk} {mem : Nat → Nat} {b b' x v : Nat}

theorem IsNode.apart (h : Laid arena cs mem) (hb : IsNode arena cs b) (hb' : IsNode arena cs b') :
    b = b' ∨ b + 32 ≤ b' ∨ b' + 32 ≤ b := by
  have hs := @Arena.start_eq arena
  rcases hb with rfl | ⟨c, hc, hsize, -⟩ <;> rcases hb' with rfl | ⟨c', hc', hsize', -⟩
  · exact .inl rfl
  · have := h.bounds hc'
    omega
  · have := h.bounds hc
    omega
  · have : 24 ≤ c.size := hsize
    have : 24 ≤ c'.size := hsize'
    rcases Laid.apart hc hc' with he | hlt | hlt
    · exact .inl (Prod.mk.inj he).1
    · simp only at hlt
      omega
    · simp only at hlt
      omega

/-- The links of a node are in the arena. -/
theorem IsNode.maps (h : Laid arena cs mem) (hb : IsNode arena cs b)
    (hx : x = b + 16 ∨ x = b + 24) : arena.Maps x := by
  rcases hb with rfl | ⟨c, hc, hsize, -⟩
  · have := arena.aligned
    rw [Arena.Maps, decide_eq_true_eq]
    refine ⟨by omega, .inl ⟨by omega, ?_⟩⟩
    show x < arena.control + 32
    omega
  · have : 24 ≤ c.size := hsize
    have := h.dvd_block hc
    refine h.maps hc ?_ ?_ ?_ <;> simp only at * <;> omega

/-- Writing a link changes nothing that the layout says. -/
theorem Laid.store_link (h : Laid arena cs mem) (hb : IsNode arena cs b)
    (hx : x = b + 16 ∨ x = b + 24) : Laid arena cs (Function.update mem x v) := by
  have hs := @Arena.start_eq arena
  refine ⟨fun p hp => ?_, h.valid, h.fits, h.small⟩
  have hat := h.holds p hp
  have hv := h.valid _ (mem_of_placed hp)
  have hlow := h.bounds hp
  rcases hb with rfl | ⟨c, hc, hsize, hdata⟩
  · refine hat.congr hv fun y hy _ => Function.update_of_ne (by omega) _ _
  have : 24 ≤ c.size := hsize
  rcases Laid.apart hp hc with rfl | hlt | hlt
  · -- The links lie between the header and the link from the block behind.
    refine ⟨?_, fun hf => ?_, fun i w hw => ?_⟩
    · rw [Function.update_of_ne (by simp only; omega), hat.header]
    · rw [Function.update_of_ne (by simp only; omega), hat.foot hf]
    · simp [hdata] at hw
  · refine hat.congr hv fun y _ hy => Function.update_of_ne ?_ _ _
    have : p.2.extent = p.2.size + 8 := rfl
    simp only at hlt
    omega
  · refine hat.congr hv fun y hy _ => Function.update_of_ne ?_ _ _
    simp only at hlt
    omega

end IsNode

/-! ## Free lists -/

/-- The free lists `L` index the listed chunks by their classes. -/
structure Indexed (arena : Arena) (cs : List Chunk) (L : Nat → Nat → List Nat) (s : State) :
    Prop where
  linked : ∀ i j, Linked (fun b => s.mem (b + 16)) (fun b => s.mem (b + 24)) arena.control
    arena.control (L i j)
  head : ∀ i < flIndexCount, ∀ j < slIndexCount, s.blocks i j = (L i j).headD arena.control
  mem_iff : ∀ i j b, b ∈ L i j ↔
    ∃ c, (b, c) ∈ arena.blocks cs ∧ c.listed ∧ mappingInsert c.size = (i, j)
  nodup : ∀ i j, (L i j).Nodup
  slBit : ∀ i < flIndexCount, ∀ j < slIndexCount,
    (s.slBitmap i).getLsbD j = true ↔ L i j ≠ []
  flBit : ∀ i < flIndexCount, s.flBitmap.getLsbD i = true ↔ s.slBitmap i ≠ 0#32
  flHigh : ∀ i, flIndexCount ≤ i → s.flBitmap.getLsbD i = false

/-- The state holds the chunks `cs` and the free lists `L`. -/
structure Rep (arena : Arena) (cs : List Chunk) (L : Nat → Nat → List Nat) (s : State) : Prop where
  laid : Laid arena cs s.mem
  indexed : Indexed arena cs L s

namespace Rep

variable {arena : Arena} {cs xs ys : List Chunk} {c d : Chunk} {L : Nat → Nat → List Nat}
  {s : State} {m : Nat → Nat} {b i j : Nat}

theorem isNode_of_mem (h : Rep arena cs L s) (hb : b ∈ L i j) : IsNode arena cs b := by
  obtain ⟨c, hc, hl, -⟩ := (h.indexed.mem_iff i j b).1 hb
  exact .inr ⟨c, hc, (h.laid.valid c (mem_of_placed hc)).listed hl⟩

theorem ne_control_of_mem (h : Rep arena cs L s) (hb : b ∈ L i j) : b ≠ arena.control := by
  obtain ⟨c, hc, -⟩ := (h.indexed.mem_iff i j b).1 hb
  have hlow := (h.laid.bounds hc).1
  have := @Arena.start_eq arena
  simp only at hlow
  omega

theorem control_not_mem (h : Rep arena cs L s) : arena.control ∉ L i j :=
  fun hb => h.ne_control_of_mem hb rfl

/-- A block is in one list only. -/
theorem class_unique (h : Rep arena cs L s) {i' j' : Nat} (hb : b ∈ L i j) (hb' : b ∈ L i' j') :
    i = i' ∧ j = j' := by
  obtain ⟨c, hc, -, hcl⟩ := (h.indexed.mem_iff i j b).1 hb
  obtain ⟨c', hc', -, hcl'⟩ := (h.indexed.mem_iff i' j' b).1 hb'
  have : c = c' := (Prod.mk.inj (Laid.eq_of_fst_eq hc hc' rfl)).2
  rw [← this, hcl] at hcl'
  exact Prod.mk.inj hcl'

/-- Rewriting the chunks `ws` to `zs`: the same blocks stay listed, with the same sizes
and links. -/
theorem rewrite (ws zs : List Chunk) (h : Rep arena (xs ++ (ws ++ ys)) L s)
    (hext : after Chunk.extent (arena.addr xs) zs = after Chunk.extent (arena.addr xs) ws)
    (hmem : ∀ x, x < arena.addr xs + 8 ∨ after Chunk.extent (arena.addr xs) ws + 8 ≤ x →
      m x = s.mem x)
    (hat : ∀ p ∈ placed Chunk.extent (arena.addr xs) zs, p.2.At m p.1)
    (hv : ∀ c ∈ zs, c.Valid)
    (hlisted : ∀ b n, (∃ c, (b, c) ∈ placed Chunk.extent (arena.addr xs) zs ∧
        c.listed ∧ c.size = n) ↔
      ∃ c, (b, c) ∈ placed Chunk.extent (arena.addr xs) ws ∧ c.listed ∧ c.size = n)
    (hlinks : ∀ p ∈ placed Chunk.extent (arena.addr xs) ws, p.2.listed →
      m (p.1 + 16) = s.mem (p.1 + 16) ∧ m (p.1 + 24) = s.mem (p.1 + 24)) :
    Rep arena (xs ++ (zs ++ ys)) L { s with mem := m } := by
  have hlink : ∀ i j, ∀ b ∈ L i j, m (b + 16) = s.mem (b + 16) ∧ m (b + 24) = s.mem (b + 24) := by
    intro i j b hb
    obtain ⟨c, hc, hl, -⟩ := (h.indexed.mem_iff i j b).1 hb
    have hsize : 24 ≤ c.size := ((h.laid.valid c (mem_of_placed hc)).listed hl).1
    rcases Arena.mem_blocks.1 hc with hc | hc | hc
    · have hb : b + (c.size + 8) ≤ arena.addr xs := (bounds_of_placed hc).2
      exact ⟨hmem _ (.inl (by omega)), hmem _ (.inl (by omega))⟩
    · exact hlinks _ hc hl
    · have hb := (bounds_of_placed hc).1
      simp only at hb
      exact ⟨hmem _ (.inr (by omega)), hmem _ (.inr (by omega))⟩
  refine ⟨h.laid.rewrite ws zs hext hmem hat hv, ?_, h.indexed.head, fun i j b => ?_, h.indexed.nodup,
    h.indexed.slBit, h.indexed.flBit, h.indexed.flHigh⟩
  · intro i j
    exact (h.indexed.linked i j).congr (fun b hb => (hlink i j b hb).1)
      fun b hb => (hlink i j b hb).2
  · rw [h.indexed.mem_iff]
    constructor
    · rintro ⟨c, hc, hl, hcl⟩
      rcases Arena.mem_blocks.1 hc with hc | hc | hc
      · exact ⟨c, Arena.mem_blocks.2 (.inl hc), hl, hcl⟩
      · obtain ⟨c', hc', hl', hs'⟩ := (hlisted b c.size).2 ⟨c, hc, hl, rfl⟩
        exact ⟨c', Arena.mem_blocks.2 (.inr (.inl hc')), hl', by rw [hs', hcl]⟩
      · exact ⟨c, Arena.mem_blocks.2 (.inr (.inr (hext ▸ hc))), hl, hcl⟩
    · rintro ⟨c, hc, hl, hcl⟩
      rcases Arena.mem_blocks.1 hc with hc | hc | hc
      · exact ⟨c, Arena.mem_blocks.2 (.inl hc), hl, hcl⟩
      · obtain ⟨c', hc', hl', hs'⟩ := (hlisted b c.size).1 ⟨c, hc, hl, rfl⟩
        exact ⟨c', Arena.mem_blocks.2 (.inr (.inl hc')), hl', by rw [hs', hcl]⟩
      · exact ⟨c, Arena.mem_blocks.2 (.inr (.inr (hext ▸ hc))), hl, hcl⟩

end Rep

end WinShell.Tlsf
