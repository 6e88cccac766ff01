-- SUMMARY: One law for each block operation of the allocator: what it does to the chunks of the pool.
import WinShell.Tlsf.Chunks

/-!
# Laws of the block operations

Each law runs one operation from a state that holds some chunks, and says which
chunks the state holds afterwards. The operations on headers come first, then those
that divide and join blocks. Nothing here touches a free list.
-/

namespace WinShell.Tlsf

open Store Effect

variable {arena : Arena} {cs xs ws ys zs : List Chunk} {c c' d : Chunk}
  {L : Nat → Nat → List Nat} {s : State} {a k : Nat}

/-! ## Alignment -/

theorem runs_alignPtr {x : Nat} (hk : k < 64) :
    Runs arena (alignPtr x (2 ^ k)) s ((x + (2 ^ k - 1)) % 2 ^ 64 / 2 ^ k * 2 ^ k) s := by
  refine (runs_assert (isPowerOfTwo_two_pow hk)).bind ?_
  rw [clearBits_up hk]
  exact Prog.Runs.ret

theorem runs_alignPtr_self {x : Nat} (hx : 8 ∣ x) (hlt : x + 7 < 2 ^ 64) :
    Runs arena (alignPtr x alignSize) s x s := by
  have h := @runs_alignPtr arena s 3 x (by decide)
  have hsum : (x + (2 ^ 3 - 1)) % 2 ^ 64 = x + 7 := Nat.mod_eq_of_lt hlt
  have hdiv : (x + 7) / 2 ^ 3 * 2 ^ 3 = x := by omega
  rw [hsum, hdiv] at h
  exact h

/-! ## Reading -/

namespace Laid

theorem runs_header (h : Laid arena cs s.mem) (hp : (a, c) ∈ arena.blocks cs) :
    Runs arena (load (a + 8)) s c.header s := by
  have hmaps : arena.Maps (a + 8) :=
    h.maps hp (Nat.dvd_add (h.dvd_block hp) (Nat.dvd_refl 8)) (Nat.le_refl _) (Nat.le_add_right _ _)
  have hload := runs_load (s := s) hmaps
  rw [(h.holds _ hp).header] at hload
  exact hload

theorem dvd_size (h : Laid arena cs s.mem) (hp : (a, c) ∈ arena.blocks cs) : 8 ∣ c.size :=
  (h.valid c (mem_of_placed hp)).dvd

theorem runs_blockSize (h : Laid arena cs s.mem) (hp : (a, c) ∈ arena.blocks cs) :
    Runs arena (blockSize a) s c.size s := by
  refine (h.runs_header hp).bind ?_
  rw [Chunk.header, header_size (h.dvd_size hp)]
  exact Prog.Runs.ret

theorem runs_blockIsLast (h : Laid arena cs s.mem) (hp : (a, c) ∈ arena.blocks cs) :
    Runs arena (blockIsLast a) s (c.size == 0) s :=
  (h.runs_blockSize hp).bind Prog.Runs.ret

theorem runs_blockIsFree (h : Laid arena cs s.mem) (hp : (a, c) ∈ arena.blocks cs) :
    Runs arena (blockIsFree a) s c.free s := by
  refine (h.runs_header hp).bind ?_
  rw [Chunk.header, header_and_free (h.dvd_size hp)]
  exact Prog.Runs.ret

theorem runs_blockIsPrevFree (h : Laid arena cs s.mem) (hp : (a, c) ∈ arena.blocks cs) :
    Runs arena (blockIsPrevFree a) s c.prevFree s := by
  refine (h.runs_header hp).bind ?_
  rw [Chunk.header, header_and_prevFree (h.dvd_size hp)]
  exact Prog.Runs.ret

/-- The address that `blockNext` and `blockSplit` compute. For an empty block the
subtraction wraps, and the addition wraps back. -/
theorem offsetToBlock_eq (h : Laid arena cs s.mem) (hp : (a, c) ∈ arena.blocks cs) (hk : 8 ∣ k)
    (hle : k ≤ c.size) :
    offsetToBlock (blockToPtr a) (sizetSub k blockHeaderOverhead) = a + k + 8 := by
  have hb := (h.bounds hp).2
  have hlt := arena.lt
  simp only at hb
  have hsub : sizetSub k blockHeaderOverhead = (k + 2 ^ 64 - 8) % 2 ^ 64 := rfl
  have hadd : sizetAdd (a + 16) ((k + 2 ^ 64 - 8) % 2 ^ 64) =
      (a + 16 + (k + 2 ^ 64 - 8) % 2 ^ 64) % 2 ^ 64 := rfl
  rw [offsetToBlock, blockToPtr, hsub]
  refine hadd.trans ?_
  omega

theorem runs_blockNext (h : Laid arena cs s.mem) (hp : (a, c) ∈ arena.blocks cs)
    (hpos : 0 < c.size) : Runs arena (blockNext a) s (a + c.size + 8) s := by
  have hdvd := h.dvd_size hp
  refine (h.runs_blockSize hp).bind ((h.runs_blockIsLast hp).bind ?_)
  have hlast : (!(c.size == 0)) = true := by
    rw [Bool.not_eq_true', beq_eq_false_iff_ne]
    omega
  refine (runs_assert hlast).bind ?_
  rw [h.offsetToBlock_eq hp hdvd (Nat.le_refl _)]
  exact Prog.Runs.ret

theorem runs_blockPrev (h : Laid arena (xs ++ c :: d :: ys) s.mem) (hfoot : c.footed)
    (hprev : d.prevFree) :
    Runs arena (blockPrev (arena.addr xs + c.size + 8)) s (arena.addr xs) s := by
  have hc : (arena.addr xs, c) ∈ arena.blocks (xs ++ c :: d :: ys) := Arena.mid_mem_blocks
  have hd : (arena.addr xs + c.size + 8, d) ∈ arena.blocks (xs ++ c :: d :: ys) :=
    Arena.next_mem_blocks
  refine (h.runs_blockIsPrevFree hd).bind ((runs_assert hprev).bind ?_)
  have hmaps : arena.Maps (arena.addr xs + c.size + 8) :=
    h.maps hc (h.dvd_block hd) (by simp only; omega) (by simp only; omega)
  have hload := runs_load (s := s) hmaps
  have hf := (h.holds _ hc).foot hfoot
  simp only at hf
  rw [show arena.addr xs + c.size + 8 = arena.addr xs + 8 + c.size by omega] at hload ⊢
  rw [hf] at hload
  exact hload

end Laid

namespace Rep

/-! ## Writing headers -/

/-- Replacing a chunk by one of the same size and the same membership. -/
theorem replace {m : Nat → Nat} (h : Rep arena (xs ++ c :: ys) L s) (hsize : c'.size = c.size)
    (hlisted : c'.listed = c.listed) (hv : c'.Valid) (hat : c'.At m (arena.addr xs))
    (hmem : ∀ x, x < arena.addr xs + 8 ∨ arena.addr xs + c.size + 16 ≤ x → m x = s.mem x)
    (hlinks : c.listed → m (arena.addr xs + 16) = s.mem (arena.addr xs + 16) ∧
      m (arena.addr xs + 24) = s.mem (arena.addr xs + 24)) :
    Rep arena (xs ++ c' :: ys) L { s with mem := m } := by
  have hext : c'.extent = c.extent := by rw [Chunk.extent, hsize, Chunk.extent]
  refine Rep.rewrite [c] [c'] h ?_ ?_ ?_ ?_ ?_ ?_
  · simp [hext]
  · intro x hx
    refine hmem x (hx.imp_right fun hx => ?_)
    have hx : arena.addr xs + (c.size + 8) + 8 ≤ x := hx
    omega
  · simpa using hat
  · simpa using hv
  · intro b n
    simp [hlisted, hsize]
  · simpa using hlinks

/-- The same memory, described by another chunk. -/
theorem restate (h : Rep arena (xs ++ c :: ys) L s) (hsize : c'.size = c.size)
    (hlisted : c'.listed = c.listed) (hv : c'.Valid) (hat : c'.At s.mem (arena.addr xs)) :
    Rep arena (xs ++ c' :: ys) L s :=
  h.replace hsize hlisted hv hat (fun _ _ => rfl) fun _ => ⟨rfl, rfl⟩

theorem valid_mid (h : Rep arena (xs ++ c :: ys) L s) : c.Valid :=
  h.laid.valid c (by simp)

theorem at_mid (h : Rep arena (xs ++ c :: ys) L s) : c.At s.mem (arena.addr xs) :=
  h.laid.holds _ Arena.mid_mem_blocks

/-- Writing the header of a block changes its flags. -/
theorem setFlags (h : Rep arena (xs ++ c :: ys) L s) (f p : Bool) :
    Rep arena (xs ++ { c with free := f, prevFree := p } :: ys) L
      (s.store (arena.addr xs + 8) (c.size ||| flags f p)) := by
  have hv := h.valid_mid
  have hat := h.at_mid
  refine h.replace rfl rfl ⟨hv.dvd, hv.data_le, hv.footed, hv.listed⟩ ⟨?_, ?_, ?_⟩ ?_ ?_
  · exact Function.update_self ..
  · intro hf
    have := hv.footed hf
    rw [Function.update_of_ne (by simp only; omega)]
    exact hat.foot hf
  · intro i v hi
    rw [Function.update_of_ne (by omega)]
    exact hat.data i v hi
  · intro x hx
    exact Function.update_of_ne (by omega) _ _
  · intro _
    exact ⟨Function.update_of_ne (by omega) _ _, Function.update_of_ne (by omega) _ _⟩

/-- The header of a block can be read and written. -/
theorem runs_rewriteHeader (h : Rep arena (xs ++ c :: ys) L s) {g : Nat → Nat} {f p : Bool}
    (hg : g c.header = c.size ||| flags f p) :
    ∃ s', Runs arena (do let size ← load (arena.addr xs + 8); store (arena.addr xs + 8) (g size))
        s () s' ∧ Rep arena (xs ++ { c with free := f, prevFree := p } :: ys) L s' := by
  have hp : (arena.addr xs, c) ∈ arena.blocks (xs ++ c :: ys) := Arena.mid_mem_blocks
  have hmaps : arena.Maps (arena.addr xs + 8) :=
    h.laid.maps hp (Nat.dvd_add (h.laid.dvd_block hp) (Nat.dvd_refl 8)) (Nat.le_refl _)
      (Nat.le_add_right _ _)
  refine ⟨_, (h.laid.runs_header hp).bind (runs_store hmaps), ?_⟩
  rw [hg]
  exact h.setFlags f p

theorem blockSetFree (h : Rep arena (xs ++ c :: ys) L s) :
    ∃ s', Runs arena (blockSetFree (arena.addr xs)) s () s' ∧
      Rep arena (xs ++ { c with free := true } :: ys) L s' :=
  h.runs_rewriteHeader (g := fun w => w ||| blockHeaderFreeBit) header_or_free

theorem blockSetUsed (h : Rep arena (xs ++ c :: ys) L s) :
    ∃ s', Runs arena (blockSetUsed (arena.addr xs)) s () s' ∧
      Rep arena (xs ++ { c with free := false } :: ys) L s' :=
  h.runs_rewriteHeader (g := fun w => clearBits w blockHeaderFreeBit)
    (header_clear_free h.valid_mid.dvd)

theorem blockSetPrevFree (h : Rep arena (xs ++ c :: ys) L s) :
    ∃ s', Runs arena (blockSetPrevFree (arena.addr xs)) s () s' ∧
      Rep arena (xs ++ { c with prevFree := true } :: ys) L s' :=
  h.runs_rewriteHeader (g := fun w => w ||| blockHeaderPrevFreeBit) header_or_prevFree

theorem blockSetPrevUsed (h : Rep arena (xs ++ c :: ys) L s) :
    ∃ s', Runs arena (blockSetPrevUsed (arena.addr xs)) s () s' ∧
      Rep arena (xs ++ { c with prevFree := false } :: ys) L s' :=
  h.runs_rewriteHeader (g := fun w => clearBits w blockHeaderPrevFreeBit)
    (header_clear_prevFree h.valid_mid.dvd)

/-- Linking a block from behind. -/
theorem blockLinkNext (h : Rep arena (xs ++ c :: ys) L s) (hdata : 8 * c.data.length < c.size) :
    ∃ s', Runs arena (blockLinkNext (arena.addr xs)) s (arena.addr xs + c.size + 8) s' ∧
      Rep arena (xs ++ { c with footed := true } :: ys) L s' := by
  have hp : (arena.addr xs, c) ∈ arena.blocks (xs ++ c :: ys) := Arena.mid_mem_blocks
  have hv := h.valid_mid
  have hat := h.at_mid
  have hdvd := hv.dvd
  have ha := h.laid.dvd_block hp
  simp only at ha
  have hmaps : arena.Maps (arena.addr xs + c.size + 8) :=
    h.laid.maps hp (by omega) (by simp only; omega) (by simp only; omega)
  refine ⟨_, (h.laid.runs_blockNext hp (by omega)).bind ((runs_store hmaps).bind Prog.Runs.ret), ?_⟩
  refine h.replace rfl rfl ⟨hv.dvd, hv.data_le, fun _ => hdata, hv.listed⟩ ⟨?_, ?_, ?_⟩ ?_ ?_
  · rw [Function.update_of_ne (by omega)]
    exact hat.header
  · intro _
    rw [show arena.addr xs + 8 + c.size = arena.addr xs + c.size + 8 by omega]
    exact Function.update_self ..
  · intro i v hi
    have hlt : i < c.data.length := (List.getElem?_eq_some_iff.1 hi).1
    rw [Function.update_of_ne (by omega)]
    exact hat.data i v hi
  · intro x hx
    exact Function.update_of_ne (by omega) _ _
  · intro hl
    have : 24 ≤ c.size := (hv.listed hl).1
    exact ⟨Function.update_of_ne (by omega) _ _, Function.update_of_ne (by omega) _ _⟩

/-! ## The states of a block -/

/-- The chunk behind a chunk, by the address that the operations use. -/
theorem next_addr : arena.addr xs + c.size + 8 = arena.addr (xs ++ [c]) := by
  rw [Arena.addr_append_singleton, Chunk.extent]
  exact Nat.add_assoc _ _ _

theorem blockMarkAsFree (h : Rep arena (xs ++ c :: d :: ys) L s)
    (hdata : 8 * c.data.length < c.size) :
    ∃ s', Runs arena (blockMarkAsFree (arena.addr xs)) s () s' ∧
      Rep arena (xs ++ { c with free := true, footed := true } :: { d with prevFree := true } :: ys)
        L s' := by
  obtain ⟨s₁, r₁, h₁⟩ := h.blockLinkNext hdata
  have h₁' : Rep arena ((xs ++ [{ c with footed := true }]) ++ d :: ys) L s₁ := by simpa using h₁
  obtain ⟨s₂, r₂, h₂⟩ := h₁'.blockSetPrevFree
  rw [← next_addr] at r₂
  have h₂' : Rep arena (xs ++ { c with footed := true } :: { d with prevFree := true } :: ys) L s₂ :=
    by simpa using h₂
  obtain ⟨s₃, r₃, h₃⟩ := h₂'.blockSetFree
  exact ⟨s₃, r₁.bind (r₂.bind r₃), h₃⟩

theorem blockMarkAsUsed (h : Rep arena (xs ++ c :: d :: ys) L s) (hpos : 0 < c.size) :
    ∃ s', Runs arena (blockMarkAsUsed (arena.addr xs)) s () s' ∧
      Rep arena (xs ++ { c with free := false } :: { d with prevFree := false } :: ys) L s' := by
  have r₁ := h.laid.runs_blockNext Arena.mid_mem_blocks hpos
  have h' : Rep arena ((xs ++ [c]) ++ d :: ys) L s := by simpa using h
  obtain ⟨s₂, r₂, h₂⟩ := h'.blockSetPrevUsed
  rw [← next_addr] at r₂
  have h₂' : Rep arena (xs ++ c :: { d with prevFree := false } :: ys) L s₂ := by simpa using h₂
  obtain ⟨s₃, r₃, h₃⟩ := h₂'.blockSetUsed
  exact ⟨s₃, r₁.bind (r₂.bind r₃), h₃⟩

/-! ## Dividing and joining -/

/-- Rewriting chunks that are in no list, to chunks that are in none. -/
theorem rewrite_unlisted {m : Nat → Nat} (ws zs : List Chunk)
    (h : Rep arena (xs ++ (ws ++ ys)) L s)
    (hext : after Chunk.extent (arena.addr xs) zs = after Chunk.extent (arena.addr xs) ws)
    (hmem : ∀ x, x < arena.addr xs + 8 ∨ after Chunk.extent (arena.addr xs) ws + 8 ≤ x →
      m x = s.mem x)
    (hat : ∀ p ∈ placed Chunk.extent (arena.addr xs) zs, p.2.At m p.1)
    (hv : ∀ c ∈ zs, c.Valid) (hws : ∀ c ∈ ws, c.listed = false)
    (hzs : ∀ c ∈ zs, c.listed = false) : Rep arena (xs ++ (zs ++ ys)) L { s with mem := m } := by
  refine h.rewrite ws zs hext hmem hat hv (fun b n => ?_) fun p hp hl => ?_
  · constructor
    · rintro ⟨c, hc, hl, -⟩
      simp [hzs c (mem_of_placed hc)] at hl
    · rintro ⟨c, hc, hl, -⟩
      simp [hws c (mem_of_placed hc)] at hl
  · simp [hws p.2 (mem_of_placed hp)] at hl

/-- Joining two blocks that are in no list. -/
theorem join {m : Nat → Nat} (h : Rep arena (xs ++ c :: d :: ys) L s) (hc : c.listed = false)
    (hd : d.listed = false) (hc' : c'.listed = false) (hsize : c'.size = c.size + d.size + 8)
    (hv : c'.Valid) (hat : c'.At m (arena.addr xs))
    (hmem : ∀ x, x < arena.addr xs + 8 ∨ arena.addr xs + c'.size + 16 ≤ x → m x = s.mem x) :
    Rep arena (xs ++ c' :: ys) L { s with mem := m } := by
  have hext : c'.extent = c.extent + d.extent := by
    simp only [Chunk.extent, hsize, blockHeaderOverhead]
    omega
  refine rewrite_unlisted [c, d] [c'] h ?_ ?_ ?_ ?_ ?_ ?_
  · simp [hext, Nat.add_assoc]
  · intro x hx
    refine hmem x (hx.imp_right fun hx => ?_)
    have hx : arena.addr xs + (c.size + 8) + (d.size + 8) + 8 ≤ x := hx
    omega
  · simpa using hat
  · simpa using hv
  · simp [hc, hd]
  · simp [hc']

/-- Dividing a block that is in no list. -/
theorem divide {m : Nat → Nat} {e : Chunk} (h : Rep arena (xs ++ c :: ys) L s)
    (hc : c.listed = false) (hc' : c'.listed = false) (he : e.listed = false)
    (hsize : c.size = c'.size + e.size + 8) (hv : c'.Valid) (hve : e.Valid)
    (hat : c'.At m (arena.addr xs)) (hate : e.At m (arena.addr xs + c'.size + 8))
    (hmem : ∀ x, x < arena.addr xs + 8 ∨ arena.addr xs + c.size + 16 ≤ x → m x = s.mem x) :
    Rep arena (xs ++ c' :: e :: ys) L { s with mem := m } := by
  have hext : c.extent = c'.extent + e.extent := by
    simp only [Chunk.extent, hsize, blockHeaderOverhead]
    omega
  refine rewrite_unlisted [c] [c', e] h ?_ ?_ ?_ ?_ ?_ ?_
  · simp [hext, Nat.add_assoc]
  · intro x hx
    refine hmem x (hx.imp_right fun hx => ?_)
    have hx : arena.addr xs + (c.size + 8) + 8 ≤ x := hx
    omega
  · rintro p hp
    rcases List.mem_cons.1 hp with rfl | hp
    · exact hat
    rcases List.mem_singleton.1 hp with rfl
    exact hate
  · simp [hv, hve]
  · simp [hc]
  · simp [hc', he]

theorem blockAbsorb (h : Rep arena (xs ++ c :: d :: ys) L s) (hc : c.listed = false)
    (hd : d.listed = false) (hpos : 0 < c.size) :
    ∃ s', Runs arena (blockAbsorb (arena.addr xs) (arena.addr xs + c.size + 8)) s
        (arena.addr xs) s' ∧
      Rep arena (xs ++ { c with size := c.size + d.size + 8, footed := true } :: ys) L s' := by
  have hp : (arena.addr xs, c) ∈ arena.blocks (xs ++ c :: d :: ys) := Arena.mid_mem_blocks
  have hq : (arena.addr xs + c.size + 8, d) ∈ arena.blocks (xs ++ c :: d :: ys) :=
    Arena.next_mem_blocks
  have hv := h.valid_mid
  have hat := h.at_mid
  have hdvd := hv.dvd
  have hdvd' := h.laid.dvd_size hq
  have hb := (h.laid.bounds hq).2
  have hlt := arena.lt
  simp only at hb
  have hlast : (!(c.size == 0)) = true := by
    rw [Bool.not_eq_true', beq_eq_false_iff_ne]
    omega
  have hmaps : arena.Maps (arena.addr xs + 8) :=
    h.laid.maps hp (Nat.dvd_add (h.laid.dvd_block hp) (Nat.dvd_refl 8)) (Nat.le_refl _)
      (Nat.le_add_right _ _)
  have hsum : sizetAdd c.header (d.size + blockHeaderOverhead) =
      (c.size + d.size + 8) ||| flags c.free c.prevFree := by
    have hfl := @flags_lt c.free c.prevFree
    have hadd : sizetAdd (c.size + flags c.free c.prevFree) (d.size + 8) =
        c.size + flags c.free c.prevFree + (d.size + 8) := sizetAdd_eq (by omega)
    rw [Chunk.header, header_eq_add hdvd, header_eq_add (by omega)]
    refine hadd.trans ?_
    omega
  have h₁ : Rep arena (xs ++ { c with size := c.size + d.size + 8, footed := false } :: ys) L
      (s.store (arena.addr xs + 8) ((c.size + d.size + 8) ||| flags c.free c.prevFree)) := by
    have hlen := hv.data_le
    refine h.join hc hd hc rfl ⟨by simp only; omega, by simp only; omega, by simp, by simp [hc]⟩
      ⟨Function.update_self .., by simp, ?_⟩ ?_
    · intro i v hi
      rw [Function.update_of_ne (by omega)]
      exact hat.data i v hi
    · intro x hx
      exact Function.update_of_ne (by omega) _ _
  have hlen := hv.data_le
  obtain ⟨s₂, r₂, h₂⟩ := h₁.blockLinkNext (by simp only; omega)
  refine ⟨s₂, ?_, h₂⟩
  refine (h.laid.runs_blockIsLast hp).bind ((runs_assert hlast).bind ?_)
  refine (h.laid.runs_header hp).bind ((h.laid.runs_blockSize hq).bind ?_)
  refine (runs_store hmaps).bind ?_
  rw [hsum]
  exact r₂.bind Prog.Runs.ret

/-- The block behind the first `k` bytes of a block. Its flag for the block before it
is what the memory happened to hold. -/
theorem blockSplit (h : Rep arena (xs ++ c :: d :: ys) L s) (hc : c.listed = false)
    (hk : 8 ∣ k) (hle : k + sizeofBlockHeader ≤ c.size) :
    ∃ p s', Runs arena (blockSplit (arena.addr xs) k) s (arena.addr xs + k + 8) s' ∧
      Rep arena (xs ++ { c with size := k, footed := false, data := c.data.take (k / 8) } ::
        ⟨c.size - k - 8, true, p, true, false, []⟩ :: { d with prevFree := true } :: ys) L s' := by
  have hp : (arena.addr xs, c) ∈ arena.blocks (xs ++ c :: d :: ys) := Arena.mid_mem_blocks
  have hv := h.valid_mid
  have hat := h.at_mid
  have hdvd := hv.dvd
  have ha := h.laid.dvd_block hp
  have hb := (h.laid.bounds hp).2
  have hlt := arena.lt
  have hle : k + 32 ≤ c.size := hle
  simp only at ha hb
  have hremain : sizetSub c.size (k + 8) = c.size - (k + 8) := sizetSub_eq (by omega) (by omega)
  have haddr := h.laid.offsetToBlock_eq hp hk (show k ≤ c.size by omega)
  have hmaps : arena.Maps (arena.addr xs + k + 8 + 8) :=
    h.laid.maps hp (by omega) (by simp only; omega) (by simp only; omega)
  have hmaps' : arena.Maps (arena.addr xs + 8) :=
    h.laid.maps hp (by omega) (Nat.le_refl _) (Nat.le_add_right _ _)
  -- The header of the second block, with the flags found in memory.
  generalize hw : s.mem (arena.addr xs + k + 8 + 8) = w
  have hrem : 8 ∣ c.size - (k + 8) := by omega
  generalize hs₁ : s.store (arena.addr xs + k + 8 + 8)
    ((c.size - (k + 8)) ||| flags (w.testBit 0) (w.testBit 1)) = s₁
  generalize hs₂ : s₁.store (arena.addr xs + 8) (k ||| flags c.free c.prevFree) = s₂
  have hm₂ : ∀ x, s₂.mem x = if x = arena.addr xs + 8 then k ||| flags c.free c.prevFree
      else if x = arena.addr xs + k + 8 + 8 then
        (c.size - (k + 8)) ||| flags (w.testBit 0) (w.testBit 1)
      else s.mem x := by
    intro x
    rw [← hs₂, State.mem_store, ← hs₁, State.mem_store]
  have h₂ : Rep arena (xs ++ { c with size := k, footed := false, data := c.data.take (k / 8) } ::
      ⟨c.size - k - 8, w.testBit 0, w.testBit 1, false, false, []⟩ :: d :: ys) L
      { s with mem := s₂.mem } := by
    refine h.divide hc hc rfl (by simp only; omega)
      ⟨hk, by simp only [List.length_take]; omega, by simp, by simp [hc]⟩
      ⟨by simp only; omega, by simp, by simp, by simp⟩ ⟨?_, by simp, ?_⟩ ⟨?_, by simp, by simp⟩ ?_
    · rw [hm₂, if_pos rfl]
      rfl
    · intro i v hi
      rw [List.getElem?_take] at hi
      split at hi
      · rw [hm₂, if_neg (by omega), if_neg (by omega)]
        exact hat.data i v hi
      · cases hi
    · rw [hm₂, if_neg (by simp only; omega), if_pos rfl]
      rw [Chunk.header]
      simp only [Nat.sub_sub]
    · intro x hx
      rw [hm₂, if_neg (by omega), if_neg (by omega)]
  have hstate : { s with mem := s₂.mem } = s₂ := by
    rw [← hs₂, ← hs₁]
    rfl
  rw [hstate] at h₂
  have h₃ : Rep arena ((xs ++ [{ c with size := k, footed := false, data := c.data.take (k / 8) }]) ++
      ⟨c.size - k - 8, w.testBit 0, w.testBit 1, false, false, []⟩ :: d :: ys) L s₂ := by
    simpa using h₂
  obtain ⟨s₄, r₄, h₄⟩ := h₃.blockMarkAsFree (by simp only [List.length_nil]; omega)
  rw [← next_addr] at r₄
  refine ⟨w.testBit 1, s₄, ?_, by simpa using h₄⟩
  rw [Tlsf.blockSplit, haddr]
  refine (h.laid.runs_blockSize hp).bind ?_
  rw [show k + blockHeaderOverhead = k + 8 from rfl, hremain]
  have halign : Runs arena (alignPtr (blockToPtr (arena.addr xs + k + 8)) alignSize) s
      (blockToPtr (arena.addr xs + k + 8)) s := by
    refine runs_alignPtr_self ?_ ?_ <;> simp only [blockToPtr, blockStartOffset] <;> omega
  refine halign.bind ((runs_assert (decide_eq_true rfl)).bind ?_)
  refine (h.laid.runs_blockSize hp).bind ((runs_assert (decide_eq_true ?_)).bind ?_)
  · simp only [blockHeaderOverhead]
    omega
  have r₁ : Runs arena (blockSetSize (arena.addr xs + k + 8) (c.size - (k + 8))) s () s₁ := by
    refine (runs_load hmaps).bind ?_
    rw [hw, and_flags, ← hs₁]
    exact runs_store hmaps
  have r₁' : Runs arena (blockSize (arena.addr xs + k + 8)) s₁ (c.size - (k + 8)) s₁ := by
    refine (runs_load hmaps).bind ?_
    rw [← hs₁, State.mem_store, if_pos rfl, header_size hrem]
    exact Prog.Runs.ret
  have r₂ : Runs arena (blockSetSize (arena.addr xs) k) s₁ () s₂ := by
    refine (runs_load hmaps').bind ?_
    rw [← hs₂]
    rw [show s₁.mem (arena.addr xs + 8) = c.header by
      rw [← hs₁, State.mem_store, if_neg (by omega), hat.header], Chunk.header,
      header_and_flags hdvd]
    exact runs_store hmaps'
  refine r₁.bind (r₁'.bind ((runs_assert (decide_eq_true ?_)).bind (r₂.bind (r₄.bind ?_))))
  · simp only [blockSizeMin, sizeofBlockHeader]
    omega
  · exact Prog.Runs.ret

end Rep

end WinShell.Tlsf
