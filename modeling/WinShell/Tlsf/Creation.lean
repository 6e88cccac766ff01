-- SUMMARY: The creation of a TLSF pool: from any memory to one free block, and the one size that leaves the arrays.
import WinShell.Tlsf.Service

/-!
# Creation

`tlsf_create_with_pool` empties the lists of the control structure and makes one free
block of the memory behind it. It accepts every size up to `block_size_max`, the limit
included, although a block of that size has no list.
-/

namespace WinShell.Tlsf

open Store Effect

variable {arena : Arena} {cs : List Chunk} {c : Chunk} {L : Nat → Nat → List Nat} {s s' : State}
  {m : Nat → Nat}

/-! ## The control structure -/

theorem runs_clearLists {fl n : Nat} (hfl : fl < flIndexCount) (hn : n ≤ slIndexCount) (s : State) :
    ∃ s', Runs arena (clearLists arena.control fl n) s () s' ∧ s'.mem = s.mem ∧
      s'.flBitmap = s.flBitmap ∧ s'.slBitmap = s.slBitmap ∧
      ∀ i j, s'.blocks i j = if i = fl ∧ slIndexCount - n ≤ j ∧ j < slIndexCount then arena.control
        else s.blocks i j := by
  induction n generalizing s with
  | zero =>
    refine ⟨s, Prog.Runs.ret, rfl, rfl, rfl, fun i j => ?_⟩
    rw [if_neg (by omega)]
  | succ n ih =>
    have hn : n + 1 ≤ 32 := hn
    have hlt : slIndexCount - (n + 1) < slIndexCount := show 32 - (n + 1) < 32 by omega
    obtain ⟨s₂, r, hmem, hfl', hsl, hblocks⟩ := ih (show n ≤ 32 by omega)
      (s.setHead fl (slIndexCount - (n + 1)) arena.control)
    refine ⟨s₂, (runs_writeHead hfl hlt).bind r, hmem, hfl', hsl, fun i j => ?_⟩
    have h32 : slIndexCount = 32 := rfl
    rw [hblocks, State.blocks_setHead, h32]
    split
    · rw [if_pos (by omega)]
    · split
      · rw [if_pos (by omega)]
      · rw [if_neg (by omega)]

theorem runs_clearLevels {n : Nat} (hn : n ≤ flIndexCount) (s : State) :
    ∃ s', Runs arena (clearLevels arena.control n) s () s' ∧ s'.mem = s.mem ∧
      s'.flBitmap = s.flBitmap ∧
      (∀ i, flIndexCount - n ≤ i → i < flIndexCount → s'.slBitmap i = 0#32) ∧
      ∀ i j, flIndexCount - n ≤ i → i < flIndexCount → j < slIndexCount →
        s'.blocks i j = arena.control := by
  suffices ∃ s', Runs arena (clearLevels arena.control n) s () s' ∧ s'.mem = s.mem ∧
      s'.flBitmap = s.flBitmap ∧
      (∀ i, s'.slBitmap i =
        if flIndexCount - n ≤ i ∧ i < flIndexCount then 0#32 else s.slBitmap i) ∧
      ∀ i j, j < slIndexCount → s'.blocks i j =
        if flIndexCount - n ≤ i ∧ i < flIndexCount then arena.control else s.blocks i j by
    obtain ⟨s', r, hmem, hfl, hsl, hblocks⟩ := this
    refine ⟨s', r, hmem, hfl, fun i h1 h2 => ?_, fun i j h1 h2 hj => ?_⟩
    · rw [hsl, if_pos ⟨h1, h2⟩]
    · rw [hblocks i j hj, if_pos ⟨h1, h2⟩]
  induction n generalizing s with
  | zero =>
    refine ⟨s, Prog.Runs.ret, rfl, rfl, fun i => ?_, fun i j _ => ?_⟩
    · rw [if_neg (by omega)]
    · rw [if_neg (by omega)]
  | succ n ih =>
    have h25 : flIndexCount = 25 := rfl
    rw [h25] at hn ih ⊢
    have hlt : 25 - (n + 1) < flIndexCount := show 25 - (n + 1) < 25 by omega
    obtain ⟨s₁, r₁, hmem₁, hfl₁, hsl₁, hblocks₁⟩ := @runs_clearLists arena _ _ hlt
      (Nat.le_refl slIndexCount) (s.setSl (25 - (n + 1)) 0#32)
    obtain ⟨s₂, r₂, hmem₂, hfl₂, hsl₂, hblocks₂⟩ := ih (by omega) s₁
    refine ⟨s₂, (runs_writeSl hlt).bind (r₁.bind r₂), hmem₂.trans hmem₁, hfl₂.trans hfl₁,
      fun i => ?_, fun i j hj => ?_⟩
    · rw [hsl₂, hsl₁, State.slBitmap_setSl]
      split
      · rw [if_pos (by omega)]
      · split
        · rw [if_pos (by omega)]
        · rw [if_neg (by omega)]
    · rw [hblocks₂ i j hj, hblocks₁]
      split
      · rw [if_pos (by omega)]
      · split
        · rw [if_pos (by omega)]
        · rw [if_neg (by omega)]
          rfl

theorem runs_controlConstruct (s : State) :
    ∃ s', Runs arena (controlConstruct arena.control) s () s' ∧
      Rep arena [] (fun _ _ => []) s' := by
  have hmaps : ∀ x, x = arena.control + 16 ∨ x = arena.control + 24 → arena.Maps x := by
    intro x hx
    have := arena.aligned
    rw [Arena.Maps, decide_eq_true_eq]
    refine ⟨by omega, .inl ⟨by omega, ?_⟩⟩
    show x < arena.control + 32
    omega
  obtain ⟨s₁, r, hmem, hfl, hsl, hblocks⟩ := @runs_clearLevels arena _ (Nat.le_refl flIndexCount)
    { ((s.store (arena.control + 16) arena.control).store (arena.control + 24) arena.control) with
      flBitmap := 0#32 }
  have hroom : 6536 ≤ arena.bytes := arena.room
  have hstart := @Arena.start_eq arena
  have hflZero : ∀ i, s₁.flBitmap.getLsbD i = false := by
    intro i
    rw [hfl]
    exact BitVec.getLsbD_zero
  refine ⟨s₁, (runs_store (hmaps _ (.inl rfl))).bind ((runs_store (hmaps _ (.inr rfl))).bind
    (runs_writeFl.bind r)), ⟨?_, ?_, ?_, ?_⟩, ?_, ?_, ?_, ?_, ?_, ?_, ?_⟩
  · intro p hp
    cases hp
  · intro c hc
    cases hc
  · rw [Arena.addr_nil]
    omega
  · rw [Arena.addr_nil]
    show arena.start < arena.start + 16 + 2 ^ 32
    omega
  · exact fun _ _ => trivial
  · intro i hi j hj
    exact hblocks i j (by omega) hi hj
  · intro i j b
    constructor
    · intro hb
      cases hb
    · rintro ⟨c, hc, -⟩
      cases hc
  · exact fun _ _ => List.nodup_nil
  · intro i hi j hj
    rw [hsl i (by omega) hi]
    simp
  · intro i hi
    rw [hsl i (by omega) hi, hflZero]
    simp
  · exact fun i _ => hflZero i

/-! ## The pool -/

namespace Rep

/-- Making the memory behind the blocks a block. -/
theorem extend (h : Rep arena cs L s) (hv : c.Valid) (hl : c.listed = false)
    (hat : c.At m (arena.addr cs)) (hmem : ∀ x, x < arena.addr cs + 8 → m x = s.mem x)
    (hfit : arena.addr cs + c.extent + 8 ≤ arena.control + arena.bytes)
    (hsmall : arena.addr cs + c.extent < arena.start + 16 + blockSizeMax) :
    Rep arena (cs ++ [c]) L { s with mem := m } := by
  have hmemBlocks : ∀ p, p ∈ arena.blocks (cs ++ [c]) ↔
      p ∈ arena.blocks cs ∨ p = (arena.addr cs, c) := by
    intro p
    simp [Arena.blocks, Arena.addr]
  have hbelow : ∀ p ∈ arena.blocks cs, p.1 + p.2.extent ≤ arena.addr cs := fun p hp =>
    (bounds_of_placed hp).2
  have hlink : ∀ i j, ∀ b ∈ L i j, b + 32 ≤ arena.addr cs := by
    intro i j b hb
    obtain ⟨d, hd, hdl, -⟩ := (h.indexed.mem_iff i j b).1 hb
    have hsize : 24 ≤ d.size := ((h.laid.valid d (mem_of_placed hd)).listed hdl).1
    have hle : b + (d.size + 8) ≤ arena.addr cs := hbelow _ hd
    omega
  refine ⟨⟨?_, ?_, ?_, ?_⟩, ?_, h.indexed.head, ?_, h.indexed.nodup, h.indexed.slBit,
    h.indexed.flBit, h.indexed.flHigh⟩
  · intro p hp
    rcases (hmemBlocks p).1 hp with hp | rfl
    · refine (h.laid.holds p hp).congr (h.laid.valid _ (mem_of_placed hp)) fun x _ hx => hmem x ?_
      have := hbelow p hp
      omega
    · exact hat
  · intro d hd
    rcases List.mem_append.1 hd with hd | hd
    · exact h.laid.valid d hd
    · rw [List.mem_singleton.1 hd]
      exact hv
  · rw [Arena.addr_append_singleton]
    exact hfit
  · rw [Arena.addr_append_singleton]
    exact hsmall
  · intro i j
    refine (h.indexed.linked i j).congr (fun b hb => hmem _ ?_) fun b hb => hmem _ ?_ <;>
      have := hlink i j b hb <;> omega
  · intro i j b
    rw [h.indexed.mem_iff]
    constructor
    · rintro ⟨d, hd, hrest⟩
      exact ⟨d, (hmemBlocks _).2 (.inl hd), hrest⟩
    · rintro ⟨d, hd, hdl, hcl⟩
      rcases (hmemBlocks _).1 hd with hd | he
      · exact ⟨d, hd, hdl, hcl⟩
      · rw [(Prod.mk.inj he).2, hl] at hdl
        cases hdl

/-- Writing the size of a block behind the others. Its flags are what the memory held. -/
theorem blockSetSize {n : Nat} (h : Rep arena cs L s) (hn : 8 ∣ n)
    (hfit : arena.addr cs + n + 16 ≤ arena.control + arena.bytes)
    (hsmall : arena.addr cs + n < arena.start + 8 + blockSizeMax) (ha : 8 ∣ arena.addr cs) :
    ∃ f p s', Runs arena (blockSetSize (arena.addr cs) n) s () s' ∧
      Rep arena (cs ++ [⟨n, f, p, false, false, []⟩]) L s' := by
  have hmaps : arena.Maps (arena.addr cs + 8) := by
    have := @Arena.start_le_addr arena cs
    have := @Arena.start_eq arena
    have : tlsfSize = 6536 := by decide
    rw [Arena.Maps, decide_eq_true_eq]
    refine ⟨by omega, .inr ⟨by omega, by omega⟩⟩
  generalize hw : s.mem (arena.addr cs + 8) = w
  refine ⟨w.testBit 0, w.testBit 1, s.store (arena.addr cs + 8) (n ||| flags (w.testBit 0)
    (w.testBit 1)), ?_, ?_⟩
  · refine (runs_load hmaps).bind ?_
    rw [hw, and_flags]
    exact runs_store hmaps
  · refine h.extend ⟨hn, Nat.zero_le _, by simp, by simp⟩ rfl ⟨?_, by simp, by simp⟩ ?_ ?_ ?_
    · exact Function.update_self ..
    · intro x hx
      exact Function.update_of_ne (by omega) _ _
    · show arena.addr cs + (n + 8) + 8 ≤ _
      omega
    · show arena.addr cs + (n + 8) < _
      omega

end Rep

theorem Arena.poolBytes_le (h : arena.poolBytes ≤ blockSizeMax) :
    6552 + arena.poolBytes ≤ arena.bytes ∧ 8 ∣ arena.poolBytes := by
  have hroom : 6536 ≤ arena.bytes := arena.room
  have hlt := arena.lt
  have hsub : sizetSub arena.bytes tlsfSize = arena.bytes - 6536 := sizetSub_eq (by omega) hroom
  have hsub' : sizetSub (arena.bytes - 6536) tlsfPoolOverhead =
      (arena.bytes - 6536 + 2 ^ 64 - 16) % 2 ^ 64 := rfl
  have h : arena.poolBytes ≤ 2 ^ 32 := h
  rw [Arena.poolBytes, hsub, hsub'] at h ⊢
  omega

theorem runs_alignDown {x : Nat} : Runs arena (alignDown x alignSize) s (x / 8 * 8) s := by
  refine (runs_assert (isPowerOfTwo_two_pow (show 3 < 64 by decide))).bind ?_
  have hand : x - (x &&& sizetSub alignSize 1) = x / 8 * 8 := by
    have h7 : sizetSub alignSize 1 = 2 ^ 3 - 1 := by decide
    rw [h7, and_two_pow_sub_one]
    omega
  rw [hand]
  exact Prog.Runs.ret

/-- The header of the first block. -/
theorem runs_firstHeader {n : Nat} (h : Rep arena [] L s) (hn : 8 ∣ n) (hmax : n ≤ blockSizeMax)
    (hfit : 6552 + n ≤ arena.bytes) :
    ∃ s₁ s₂ s₃, Runs arena (blockSetSize arena.start n) s () s₁ ∧
      Runs arena (blockSetFree arena.start) s₁ () s₂ ∧
      Runs arena (blockSetPrevUsed arena.start) s₂ () s₃ ∧
      Rep arena [⟨n, true, false, false, false, []⟩] L s₃ := by
  have hstart := @Arena.start_eq arena
  have hmax : n ≤ 2 ^ 32 := hmax
  obtain ⟨f, p, s₁, r₁, h₁⟩ := h.blockSetSize hn (by rw [Arena.addr_nil]; omega)
    (by rw [Arena.addr_nil]; show _ < arena.start + 8 + 2 ^ 32; omega) Arena.dvd_start
  have h₁' : Rep arena ([] ++ ⟨n, f, p, false, false, []⟩ :: []) L s₁ := h₁
  obtain ⟨s₂, r₂, h₂⟩ := h₁'.blockSetFree
  obtain ⟨s₃, r₃, h₃⟩ := h₂.blockSetPrevUsed
  exact ⟨s₁, s₂, s₃, r₁, r₂, r₃, h₃⟩

theorem runs_createBlocks {n : Nat} (h : Rep arena [] (fun _ _ => []) s) (hn : 8 ∣ n)
    (hmin : blockSizeMin ≤ n) (hmax : n < blockSizeMax) (hfit : 6552 + n ≤ arena.bytes) :
    ∃ s', Runs arena (createBlocks arena.control arena.start n) s () s' ∧
      Stored arena (pool [.free n]) s' := by
  have hstart := @Arena.start_eq arena
  have hlt : n < 2 ^ 32 := hmax
  have hpos : 24 ≤ n := hmin
  obtain ⟨s₁, s₂, s₃, r₁, r₂, r₃, h₃⟩ := runs_firstHeader h hn (Nat.le_of_lt hmax) hfit
  have h₃' : Rep arena ([] ++ ⟨n, true, false, false, false, []⟩ :: []) (fun _ _ => []) s₃ := h₃
  obtain ⟨s₄, r₄, h₄⟩ := h₃'.insertFreeBlock rfl hmin rfl (mappingInsert_fst_lt hmax)
  obtain ⟨s₅, r₅, h₅⟩ := h₄.blockLinkNext (show 8 * 0 < n by omega)
  have haddr : arena.addr ([] ++ [⟨n, true, false, true, true, []⟩]) = arena.start + n + 8 := by
    rw [← Rep.next_addr]
    rfl
  obtain ⟨f, p, s₆, r₆, h₆⟩ := @Rep.blockSetSize arena _ _ _ 0 h₅ (Nat.dvd_zero 8)
    (by rw [haddr]; omega) (by rw [haddr]; show _ < arena.start + 8 + 2 ^ 32; omega)
    (by rw [haddr]; have := @Arena.dvd_start arena; omega)
  obtain ⟨s₇, r₇, h₇⟩ := h₆.blockSetUsed
  obtain ⟨s₈, r₈, h₈⟩ := h₇.blockSetPrevFree
  have r₄' : Runs arena (blockInsert arena.control arena.start) s₃ () s₄ :=
    (h₃'.laid.runs_blockSize Arena.mid_mem_blocks).bind r₄
  rw [haddr] at r₆ r₇ r₈
  exact ⟨s₈, r₁.bind (r₂.bind (r₃.bind (r₄'.bind (r₅.bind (r₆.bind (r₇.bind r₈)))))), _, h₈⟩

/-- Behind the last list lies the size of the first block. -/
theorem runs_readHead_behind (h : arena.Maps (arena.start + 8)) :
    Runs arena (readHead flIndexCount 0) s (s.mem (arena.start + 8)) s := by
  have haddr : arena.headAddress (headIndex flIndexCount 0) = arena.start + 8 := by
    rw [Arena.start_eq]
    rfl
  refine Prog.Runs.perform ?_
  rw [machine, readSlot_behind (by decide) (by rw [haddr]; exact h), haddr]
  rfl

/-- The class of the largest pool is behind the lists. The size of its block is taken for the head
of a list, and its neighbour there is written to. -/
theorem stops_createBlocks (h : Rep arena [] (fun _ _ => []) s)
    (hfit : 6552 + blockSizeMax ≤ arena.bytes) :
    ∃ s', Prog.StopsAt (machine arena) (.store (blockSizeMax + 25) arena.start) s'
      (createBlocks arena.control arena.start blockSizeMax) s := by
  obtain ⟨s₁, s₂, s₃, r₁, r₂, r₃, h₃⟩ := runs_firstHeader h (by decide) (Nat.le_refl _) hfit
  have h₃' : Rep arena ([] ++ ⟨blockSizeMax, true, false, false, false, []⟩ :: []) (fun _ _ => [])
      s₃ := h₃
  have hclass : mappingInsert blockSizeMax = (flIndexCount, 0) := by decide
  have hheader : s₃.mem (arena.start + 8) = blockSizeMax + 1 :=
    (h₃'.laid.holds _ Arena.mid_mem_blocks).header.trans
      (show blockSizeMax ||| flags true false = blockSizeMax + 1 by decide)
  have hmaps : ∀ k, k = 8 ∨ k = 16 ∨ k = 24 → arena.Maps (arena.start + k) := by
    intro k hk
    have := arena.aligned
    have hstart := @Arena.start_eq arena
    have hfit : 6552 + 2 ^ 32 ≤ arena.bytes := hfit
    have hsize : tlsfSize = 6536 := by decide
    rw [Arena.Maps, decide_eq_true_eq, hsize]
    refine ⟨by omega, .inr ⟨by omega, by omega⟩⟩
  have hread := @runs_readHead_behind arena s₃ (hmaps 8 (.inl rfl))
  rw [hheader] at hread
  have hstop : Prog.StopsAt (machine arena) (.store (blockSizeMax + 25) arena.start)
      ((s₃.store (arena.start + 16) (blockSizeMax + 1)).store (arena.start + 24) arena.control)
      (insertFreeBlock arena.control arena.start flIndexCount 0) s₃ := by
    refine hread.stopsAt ((runs_assert (by decide)).stopsAt ((runs_assert ?_).stopsAt
      ((runs_store (hmaps 16 (.inr (.inl rfl)))).stopsAt
      ((runs_store (hmaps 24 (.inr (.inr rfl)))).stopsAt (Prog.StopsAt.bind (Prog.StopsAt.exec ?_))))))
    · have := @Arena.start_eq arena
      simp only [decide_eq_true_eq]
      omega
    · have hmaps : ¬arena.Maps (blockSizeMax + 1 + 24) = true := by
        rw [Arena.Maps, decide_eq_true_eq]
        exact fun hmaps => absurd hmaps.1 (by decide)
      rw [machine, if_neg hmaps]
  have hinsert := (h₃'.laid.runs_blockSize Arena.mid_mem_blocks).stopsAt
    (f := fun size => insertFreeBlock arena.control arena.start (mappingInsert size).1
      (mappingInsert size).2) (by rw [hclass]; exact hstop)
  exact ⟨_, r₁.stopsAt (r₂.stopsAt (r₃.stopsAt (Prog.StopsAt.bind hinsert)))⟩

section AddPool

variable {mem bytes n : Nat}

theorem runs_tlsfAddPool (hn : sizetSub bytes tlsfPoolOverhead / 8 * 8 = n) (hmem : mem % alignSize = 0)
    (hmin : blockSizeMin ≤ n) (hmax : n ≤ blockSizeMax)
    (hrun : Runs arena (createBlocks arena.control (mem - 8) n) s () s') :
    Runs arena (tlsfAddPool arena.control mem bytes) s mem s' := by
  refine runs_alignDown.bind ?_
  rw [hn, if_neg (not_not.2 hmem), if_neg (not_or.2 ⟨Nat.not_lt.2 hmin, Nat.not_lt.2 hmax⟩)]
  exact hrun.bind Prog.Runs.ret

theorem stops_tlsfAddPool {o : Access} (hn : sizetSub bytes tlsfPoolOverhead / 8 * 8 = n)
    (hmem : mem % alignSize = 0) (hmin : blockSizeMin ≤ n) (hmax : n ≤ blockSizeMax)
    (hstop : Prog.StopsAt (machine arena) o s' (createBlocks arena.control (mem - 8) n) s) :
    Prog.StopsAt (machine arena) o s' (tlsfAddPool arena.control mem bytes) s := by
  refine runs_alignDown.stopsAt ?_
  rw [hn, if_neg (not_not.2 hmem), if_neg (not_or.2 ⟨Nat.not_lt.2 hmin, Nat.not_lt.2 hmax⟩)]
  exact hstop.bind

/-- A size outside of the limits is refused. -/
theorem runs_tlsfAddPool_refused (hn : sizetSub bytes tlsfPoolOverhead / 8 * 8 = n)
    (hmem : mem % alignSize = 0) (hlimits : n < blockSizeMin ∨ n > blockSizeMax) :
    Runs arena (tlsfAddPool arena.control mem bytes) s 0 s := by
  refine runs_alignDown.bind ?_
  rw [hn, if_neg (not_not.2 hmem), if_pos hlimits]
  exact Prog.Runs.ret

end AddPool

theorem pool_aligned (arena : Arena) : (arena.control + tlsfSize) % alignSize = 0 := by
  have := arena.aligned
  have : tlsfSize % 8 = 0 := by decide
  show (arena.control + tlsfSize) % 8 = 0
  omega

theorem runs_tlsfCreate (s : State) :
    ∃ s', Runs arena (tlsfCreate arena.control) s arena.control s' ∧
      Rep arena [] (fun _ _ => []) s' := by
  obtain ⟨s', r, h⟩ := @runs_controlConstruct arena s
  have hmod : ¬arena.control % alignSize ≠ 0 := not_not.2 (Nat.mod_eq_zero_of_dvd arena.aligned)
  refine ⟨s', ?_, h⟩
  rw [tlsfCreate, if_neg hmod]
  exact r.bind Prog.Runs.ret

/-- A pool within the limits starts as one free block. -/
theorem Holds.create (hmin : blockSizeMin ≤ arena.poolBytes) (hmax : arena.poolBytes < blockSizeMax)
    (s : State) :
    ∃ s', Runs arena (tlsfCreateWithPool arena.control arena.bytes) s arena.control s' ∧
      Holds arena [.free arena.poolBytes] s' := by
  obtain ⟨s₁, r₁, h₁⟩ := @runs_tlsfCreate arena s
  obtain ⟨hfit, hdvd⟩ := Arena.poolBytes_le (Nat.le_of_lt hmax)
  obtain ⟨s₂, r₂, h₂⟩ := runs_createBlocks h₁ hdvd hmin hmax hfit
  have htotal : ∀ n, arena.place [.free n] = arena.start + n + 8 := fun _ => rfl
  refine ⟨s₂, r₁.bind ((runs_tlsfAddPool (n := arena.poolBytes) ?_ (pool_aligned arena) hmin
    (Nat.le_of_lt hmax) r₂).bind Prog.Runs.ret), h₂, ⟨by simp, trivial⟩, ?_, htotal _⟩
  · rw [Arena.poolBytes]
  · intro b hb
    rw [List.mem_singleton.1 hb]
    exact hmin

/-- A page behind the control structure. -/
def pageArena : Arena := ⟨4096, 10632, by decide, by decide, by decide, by decide⟩

/-- Memory that holds nothing. -/
def zeroed : State := ⟨fun _ => 0, 0#32, fun _ => 0#32, fun _ _ => 0⟩

theorem Holds.page : ∃ s, Holds pageArena [.free pageArena.poolBytes] s := by
  obtain ⟨s, -, h⟩ := @Holds.create pageArena (by decide) (by decide) zeroed
  exact ⟨s, h⟩

/-- The page serves a small request. -/
theorem Holds.page_malloc : ∃ s r s' ws ys, Holds pageArena [.free pageArena.poolBytes] s ∧
    Runs pageArena (tlsfMalloc pageArena.control 48) s r s' ∧ r = pageArena.place [] + 16 ∧
    8 * ws.length = 48 ∧ Holds pageArena (.used ws :: ys) s' := by
  obtain ⟨s, h⟩ := Holds.page
  rcases h.runs_tlsfMalloc 48 with ⟨-, hnone⟩ | ⟨xs, n, ys, ws, s', hbs, -, -, hrun, hlen, h', -⟩
  · have hlt := hnone (by decide) pageArena.poolBytes (List.mem_singleton_self _)
    exact absurd hlt (by decide)
  · obtain ⟨rfl, -⟩ | ⟨-, hcons⟩ := List.append_eq_singleton_iff.1 hbs.symm
    · obtain ⟨⟨⟩, rfl⟩ := List.cons.inj hbs
      exact ⟨s, _, s', ws, _, h, hrun, rfl, hlen.trans (by decide), h'⟩
    · cases hcons

/-- What becomes of a block of memory. A pool within the limits is one free block; the allocator has no
pool when the block leaves room for too small or too large a one. The largest size that is accepted has
no list: the size of the new block is taken for the head of one, and the code goes on to write the
address of the block to `block_size_max + 25`. -/
theorem creation_outcome (s : State) :
    (blockSizeMin ≤ arena.poolBytes → arena.poolBytes < blockSizeMax →
      ∃ s', Runs arena (tlsfCreateWithPool arena.control arena.bytes) s arena.control s' ∧
        Holds arena [.free arena.poolBytes] s') ∧
    (arena.poolBytes < blockSizeMin ∨ blockSizeMax < arena.poolBytes →
      ∃ s', Runs arena (tlsfCreateWithPool arena.control arena.bytes) s arena.control s' ∧
        Rep arena [] (fun _ _ => []) s') ∧
    (arena.poolBytes = blockSizeMax →
      ∃ s', Prog.StopsAt (machine arena) (.store (blockSizeMax + 25) arena.start) s'
        (tlsfCreateWithPool arena.control arena.bytes) s) := by
  have hbytes : sizetSub (sizetSub arena.bytes tlsfSize) tlsfPoolOverhead / 8 * 8 =
      arena.poolBytes := by rw [Arena.poolBytes]
  refine ⟨fun hmin hmax => Holds.create hmin hmax s, fun hlimits => ?_, fun he => ?_⟩
  · obtain ⟨s₁, r₁, h₁⟩ := @runs_tlsfCreate arena s
    exact ⟨s₁, r₁.bind ((runs_tlsfAddPool_refused hbytes (pool_aligned arena) hlimits).bind
      Prog.Runs.ret), h₁⟩
  · obtain ⟨s₁, r₁, h₁⟩ := @runs_tlsfCreate arena s
    have hfit := (Arena.poolBytes_le (Nat.le_of_eq he)).1
    rw [he] at hbytes hfit
    obtain ⟨s', hstop⟩ := stops_createBlocks h₁ hfit
    exact ⟨s', r₁.stopsAt (Prog.StopsAt.bind (stops_tlsfAddPool hbytes (pool_aligned arena) (by decide)
      (Nat.le_refl _) hstop))⟩

/-- The smallest memory for a pool of the largest size. -/
def largestArena : Arena :=
  ⟨4096, 6552 + blockSizeMax, by decide, by decide, by decide, by decide⟩

theorem creation_outcome_largest :
    (∃ s', Runs pageArena (tlsfCreateWithPool 4096 10632) zeroed 4096 s' ∧ Holds pageArena [.free 4080] s') ∧
    ∃ s', Prog.StopsAt (machine largestArena) (.store 4294967321 10624) s'
      (tlsfCreateWithPool 4096 4294973848) zeroed :=
  ⟨(@creation_outcome pageArena zeroed).1 (by decide) (by decide),
    (@creation_outcome largestArena zeroed).2.2 (by decide)⟩

end WinShell.Tlsf
