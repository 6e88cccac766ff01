-- SUMMARY: The laws of the free lists: removing a block, inserting one, and searching for one that fits.
import WinShell.Tlsf.Laws

/-!
# Laws of the free lists

The operations on the lists change links inside of free blocks, a list head, and at
most one bit of each bitmap. The laws say which block changes its membership. A search
returns the head of the first list at or above a class that is not empty.
-/

namespace WinShell.Tlsf

open Store Effect

variable {arena : Arena} {cs xs ys : List Chunk} {c : Chunk} {L : Nat → Nat → List Nat}
  {s s' : State} {b i j : Nat}

/-! ## Membership -/

/-- Replacing a chunk changes one member of the layout. -/
theorem Arena.mem_blocks_replace {p : Nat × Chunk} (c c' : Chunk) (hsize : c'.size = c.size) :
    p ∈ arena.blocks (xs ++ c' :: ys) ↔
      p = (arena.addr xs, c') ∨ p.1 ≠ arena.addr xs ∧ p ∈ arena.blocks (xs ++ c :: ys) := by
  have hext : c'.extent = c.extent := by rw [Chunk.extent, hsize, Chunk.extent]
  have hleft : ∀ p ∈ placed Chunk.extent arena.start xs, p.1 ≠ arena.addr xs := by
    intro p hp
    have : p.1 + p.2.extent ≤ arena.addr xs := (bounds_of_placed hp).2
    have := p.2.extent_pos
    omega
  have hright : ∀ p ∈ placed Chunk.extent (arena.addr xs + c.extent) ys, p.1 ≠ arena.addr xs := by
    intro p hp
    have := (bounds_of_placed hp).1
    have := c.extent_pos
    omega
  simp only [Arena.blocks, placed_append, placed_cons, List.mem_append, List.mem_cons, hext]
  constructor
  · rintro (hp | rfl | hp)
    · exact .inr ⟨hleft p hp, .inl hp⟩
    · exact .inl rfl
    · exact .inr ⟨hright p hp, .inr (.inr hp)⟩
  · rintro (rfl | ⟨hne, hp | rfl | hp⟩)
    · exact .inr (.inl rfl)
    · exact .inl hp
    · exact absurd rfl hne
    · exact .inr (.inr hp)

/-- Entering or leaving a list is not written into the block. -/
theorem Laid.relist {m : Nat → Nat} (h : Laid arena (xs ++ c :: ys) m) {l : Bool}
    (hl : l → blockSizeMin ≤ c.size ∧ c.data = []) :
    Laid arena (xs ++ { c with listed := l } :: ys) m := by
  have hv := h.valid c (by simp)
  have hat := h.holds _ Arena.mid_mem_blocks
  refine Laid.rewrite [c] [{ c with listed := l }] h ?_ (fun _ _ => rfl) ?_ ?_
  · rfl
  · intro p hp
    rcases List.mem_singleton.1 hp with rfl
    exact ⟨hat.header, hat.foot, hat.data⟩
  · intro d hd
    rcases List.mem_singleton.1 hd with rfl
    exact ⟨hv.dvd, hv.data_le, hv.footed, hl⟩

section Nodes

variable {y z : Nat}

theorem IsNode.ne_zero (h : Laid arena cs s.mem) (hb : IsNode arena cs b) : b ≠ 0 := by
  have := arena.pos
  have := @Arena.start_eq arena
  rcases hb with rfl | ⟨c, hc, -⟩
  · omega
  · have := (h.bounds hc).1
    simp only at this
    omega

theorem IsNode.next_ne_prev (h : Laid arena cs s.mem) (hy : IsNode arena cs y)
    (hz : IsNode arena cs z) : y + 16 ≠ z + 24 := by
  rcases hy.apart h hz with rfl | hlt | hlt <;> omega

end Nodes

namespace Rep

theorem isNode_mid (hsize : blockSizeMin ≤ c.size) (hdata : c.data = []) : IsNode arena (xs ++ c :: ys) (arena.addr xs) :=
  .inr ⟨c, Arena.mid_mem_blocks, hsize, hdata⟩

theorem mem_class (h : Rep arena (xs ++ c :: ys) L s) (hl : c.listed) :
    arena.addr xs ∈ L (mappingInsert c.size).1 (mappingInsert c.size).2 :=
  (h.indexed.mem_iff _ _ _).2 ⟨c, Arena.mid_mem_blocks, hl, rfl⟩

/-- A block that is not listed is in no list. -/
theorem not_mem_of_unlisted (h : Rep arena (xs ++ c :: ys) L s) (hl : c.listed = false) :
    arena.addr xs ∉ L i j := by
  intro hb
  obtain ⟨c', hc', hl', -⟩ := (h.indexed.mem_iff i j _).1 hb
  have : c' = c := (Prod.mk.inj (Laid.eq_of_fst_eq hc' Arena.mid_mem_blocks rfl)).2
  rw [this, hl] at hl'
  cases hl'

/-! ## Removal -/

/-- The lists without `b`. -/
def unlist (L : Nat → Nat → List Nat) (b : Nat) (i j : Nat) : List Nat := (L i j).erase b

/-- Unlinking a block: the links of its neighbours, and the heads and bitmaps that go
with the lists. -/
theorem unlinked (h : Rep arena (xs ++ c :: ys) L s) (hl : c.listed)
    (hmem : s'.mem = Function.update (Function.update s.mem (s.mem (arena.addr xs + 16) + 24)
      (s.mem (arena.addr xs + 24))) (s.mem (arena.addr xs + 24) + 16)
      (s.mem (arena.addr xs + 16)))
    (hhead : ∀ i < flIndexCount, ∀ j < slIndexCount,
      s'.blocks i j = (unlist L (arena.addr xs) i j).headD arena.control)
    (hsl : ∀ i < flIndexCount, ∀ j < slIndexCount,
      (s'.slBitmap i).getLsbD j = true ↔ unlist L (arena.addr xs) i j ≠ [])
    (hfl : ∀ i < flIndexCount, s'.flBitmap.getLsbD i = true ↔ s'.slBitmap i ≠ 0#32)
    (hhigh : ∀ i, flIndexCount ≤ i → s'.flBitmap.getLsbD i = false) :
    Rep arena (xs ++ { c with listed := false } :: ys) (unlist L (arena.addr xs)) s' := by
  have hb := h.mem_class hl
  have hv := h.valid_mid
  obtain ⟨us, vs, hL⟩ := List.append_of_mem hb
  have hnd := h.indexed.nodup (mappingInsert c.size).1 (mappingInsert c.size).2
  have hlinked := h.indexed.linked (mappingInsert c.size).1 (mappingInsert c.size).2
  have hnull := @control_not_mem _ _ _ _ (mappingInsert c.size).1 (mappingInsert c.size).2 h
  rw [hL] at hnd hlinked hnull
  obtain ⟨hprev, hnext, -⟩ := hlinked.mid
  -- Both neighbours are in the list of the block, or null.
  have hprev' : s.mem (arena.addr xs + 24) = arena.control ∨ s.mem (arena.addr xs + 24) ∈
      L (mappingInsert c.size).1 (mappingInsert c.size).2 := by
    rw [hprev, hL]
    exact getLastD_eq_or_mem.imp_right (List.mem_append_left _)
  have hnext' : s.mem (arena.addr xs + 16) = arena.control ∨ s.mem (arena.addr xs + 16) ∈
      L (mappingInsert c.size).1 (mappingInsert c.size).2 := by
    rw [hnext, hL]
    exact headD_eq_or_mem.imp_right fun hm => List.mem_append_right _ (List.mem_cons_of_mem _ hm)
  have hnodePrev : IsNode arena (xs ++ c :: ys) (s.mem (arena.addr xs + 24)) :=
    hprev'.elim .inl h.isNode_of_mem
  have hnodeNext : IsNode arena (xs ++ c :: ys) (s.mem (arena.addr xs + 16)) :=
    hnext'.elim .inl h.isNode_of_mem
  generalize hp : s.mem (arena.addr xs + 24) = p at *
  generalize hn : s.mem (arena.addr xs + 16) = n at *
  have hmemNext : ∀ y, IsNode arena (xs ++ c :: ys) y →
      s'.mem (y + 16) = if y = p then n else s.mem (y + 16) := by
    intro y hy
    have := hy.next_ne_prev h.laid hnodeNext
    by_cases he : y = p
    · simp [hmem, he]
    · rw [if_neg he, hmem, Function.update_of_ne (by omega), Function.update_of_ne this]
  have hmemPrev : ∀ y, IsNode arena (xs ++ c :: ys) y →
      s'.mem (y + 24) = if y = n then p else s.mem (y + 24) := by
    intro y hy
    have := hnodePrev.next_ne_prev h.laid hy
    rw [hmem, Function.update_of_ne (by omega), Function.update_apply]
    simp only [Nat.add_right_cancel_iff]
  refine ⟨?_, ?_, hhead, ?_, ?_, hsl, hfl, hhigh⟩
  · rw [hmem]
    exact ((h.laid.store_link hnodeNext (.inr rfl)).store_link hnodePrev (.inl rfl)).relist (by simp)
  · intro i j
    by_cases hij : arena.addr xs ∈ L i j
    · obtain ⟨rfl, rfl⟩ := h.class_unique hij hb
      have herase : unlist L (arena.addr xs) (mappingInsert c.size).1 (mappingInsert c.size).2 =
          us ++ vs := by
        have hus : arena.addr xs ∉ us := fun hm =>
          (List.nodup_append.1 hnd).2.2 _ hm _ List.mem_cons_self rfl
        rw [unlist, hL, List.erase_append_right _ hus, List.erase_cons_head]
      rw [herase]
      have hnode : ∀ y ∈ us ++ vs, IsNode arena (xs ++ c :: ys) y := by
        intro y hy
        refine h.isNode_of_mem (i := (mappingInsert c.size).1) (j := (mappingInsert c.size).2) ?_
        rw [hL]
        rcases List.mem_append.1 hy with hy | hy
        · exact List.mem_append_left _ hy
        · exact List.mem_append_right _ (List.mem_cons_of_mem _ hy)
      refine hlinked.remove (List.nodup_cons.2 ⟨hnull, hnd⟩) hnull ?_ ?_
      · intro y hy
        simp only [hp, hn]
        exact hmemNext y (hnode y hy)
      · intro y hy
        simp only [hp, hn]
        exact hmemPrev y (hnode y hy)
    · rw [unlist, List.erase_of_not_mem hij]
      have hother : ∀ y ∈ L i j, y ≠ p ∧ y ≠ n := by
        intro y hy
        have hyc := h.ne_control_of_mem hy
        constructor
        · rintro rfl
          rcases hprev' with he | hm
          · exact hyc he
          · obtain ⟨rfl, rfl⟩ := h.class_unique hy hm
            exact hij hb
        · rintro rfl
          rcases hnext' with he | hm
          · exact hyc he
          · obtain ⟨rfl, rfl⟩ := h.class_unique hy hm
            exact hij hb
      refine (h.indexed.linked i j).congr ?_ ?_
      · intro y hy
        rw [hmemNext y (h.isNode_of_mem hy), if_neg (hother y hy).1]
      · intro y hy
        rw [hmemPrev y (h.isNode_of_mem hy), if_neg (hother y hy).2]
  · intro i j y
    rw [unlist, (h.indexed.nodup i j).mem_erase_iff, h.indexed.mem_iff]
    constructor
    · rintro ⟨hne, d, hd, hrest⟩
      exact ⟨d, (Arena.mem_blocks_replace c { c with listed := false } rfl).2 (.inr ⟨hne, hd⟩), hrest⟩
    · rintro ⟨d, hd, hdl, hcl⟩
      rcases (Arena.mem_blocks_replace c { c with listed := false } rfl).1 hd with he | ⟨hne, hd⟩
      · rw [(Prod.mk.inj he).2] at hdl
        cases hdl
      · exact ⟨hne, d, hd, hdl, hcl⟩
  · intro i j
    exact (h.indexed.nodup i j).erase _

/-- Lists of another class stay as they are. -/
theorem unlist_of_ne (h : Rep arena (xs ++ c :: ys) L s) (hl : c.listed)
    (hne : ¬(i = (mappingInsert c.size).1 ∧ j = (mappingInsert c.size).2)) :
    unlist L (arena.addr xs) i j = L i j := by
  refine List.erase_of_not_mem fun hm => hne ?_
  exact h.class_unique hm (h.mem_class hl)

/-- The list of a block, which is its head when the block before it is null. -/
theorem class_list (h : Rep arena (xs ++ c :: ys) L s) (hl : c.listed) :
    ∃ us vs, L (mappingInsert c.size).1 (mappingInsert c.size).2 = us ++ arena.addr xs :: vs ∧
      unlist L (arena.addr xs) (mappingInsert c.size).1 (mappingInsert c.size).2 = us ++ vs ∧
      s.mem (arena.addr xs + 24) = us.getLastD arena.control ∧
      s.mem (arena.addr xs + 16) = vs.headD arena.control ∧
      arena.addr xs ∉ us ∧ arena.control ∉ us ∧ arena.control ∉ vs := by
  have hb := h.mem_class hl
  obtain ⟨us, vs, hL⟩ := List.append_of_mem hb
  have hnd := h.indexed.nodup (mappingInsert c.size).1 (mappingInsert c.size).2
  have hlinked := h.indexed.linked (mappingInsert c.size).1 (mappingInsert c.size).2
  have hnull := @control_not_mem _ _ _ _ (mappingInsert c.size).1 (mappingInsert c.size).2 h
  rw [hL] at hnd hlinked hnull
  obtain ⟨hprev, hnext, -⟩ := hlinked.mid
  have hus : arena.addr xs ∉ us := fun hm =>
    (List.nodup_append.1 hnd).2.2 _ hm _ List.mem_cons_self rfl
  refine ⟨us, vs, hL, ?_, hprev, hnext, hus, ?_, ?_⟩
  · rw [unlist, hL, List.erase_append_right _ hus, List.erase_cons_head]
  · exact fun hm => hnull (List.mem_append_left _ hm)
  · exact fun hm => hnull (List.mem_append_right _ (List.mem_cons_of_mem _ hm))

/-- The end of a removal, after the links of the neighbours were changed. -/
theorem removeHead (h : Rep arena (xs ++ c :: ys) L s) (hl : c.listed)
    (hfl : (mappingInsert c.size).1 < flIndexCount)
    (hmem : s'.mem = Function.update (Function.update s.mem (s.mem (arena.addr xs + 16) + 24)
      (s.mem (arena.addr xs + 24))) (s.mem (arena.addr xs + 24) + 16)
      (s.mem (arena.addr xs + 16)))
    (hblocks : s'.blocks = s.blocks) (hslMap : s'.slBitmap = s.slBitmap)
    (hflMap : s'.flBitmap = s.flBitmap) :
    ∃ s'', Runs arena (Tlsf.removeHead arena.control (arena.addr xs) (s.mem (arena.addr xs + 16))
        (mappingInsert c.size).1 (mappingInsert c.size).2) s' () s'' ∧
      Rep arena (xs ++ { c with listed := false } :: ys) (unlist L (arena.addr xs)) s'' := by
  obtain ⟨us, vs, hL, hunlist, -, hnext, hbus, -, hcvs⟩ := h.class_list hl
  have hsl := @mappingInsert_snd_lt c.size
  have hfl' : (mappingInsert c.size).1 < 32 := Nat.lt_trans hfl (by decide)
  have hsl' : (mappingInsert c.size).2 < 32 := hsl
  have hread := @runs_readHead arena s' _ _ hfl hsl
  have hhead := h.indexed.head _ hfl _ hsl
  rw [hblocks, hhead, hL] at hread
  have hother := @unlist_of_ne arena xs ys c L s
  generalize hF : (mappingInsert c.size).1 = F at *
  generalize hS : (mappingInsert c.size).2 = S at *
  cases us with
  | cons u us =>
    -- The block is not the head of its list.
    have hne : ¬u = arena.addr xs := fun he => hbus (he ▸ List.mem_cons_self)
    refine ⟨s', hread.bind ?_, h.unlinked hl hmem ?_ ?_ ?_ ?_⟩
    · rw [List.cons_append, List.headD_cons, if_neg hne]
      exact Prog.Runs.ret
    · intro i hi j hj
      rw [hblocks, h.indexed.head i hi j hj]
      by_cases hij : i = F ∧ j = S
      · rw [hij.1, hij.2, hunlist, hL]
        rfl
      · rw [hother h hl hij]
    · intro i hi j hj
      rw [hslMap, h.indexed.slBit i hi j hj]
      by_cases hij : i = F ∧ j = S
      · rw [hij.1, hij.2, hunlist, hL]
        simp
      · rw [hother h hl hij]
    · intro i hi
      rw [hslMap, hflMap, h.indexed.flBit i hi]
    · intro i hi
      rw [hflMap, h.indexed.flHigh i hi]
  | nil =>
    have hwrite := @runs_writeHead arena s' (s.mem (arena.addr xs + 16)) _ _ hfl hsl
    have hblocks' : ∀ i j, (s'.setHead F S (s.mem (arena.addr xs + 16))).blocks i j =
        if i = F ∧ j = S then vs.headD arena.control else s.blocks i j := by
      intro i j
      rw [State.blocks_setHead, hblocks, hnext]
    generalize hs₂ : s'.setHead F S (s.mem (arena.addr xs + 16)) = s₂ at *
    have hmem₂ : s₂.mem = s'.mem := by rw [← hs₂]; rfl
    have hsl₂ : s₂.slBitmap = s.slBitmap := by rw [← hs₂, ← hslMap]; rfl
    have hfl₂ : s₂.flBitmap = s.flBitmap := by rw [← hs₂, ← hflMap]; rfl
    have hheads : ∀ i < flIndexCount, ∀ j < slIndexCount,
        s₂.blocks i j = (unlist L (arena.addr xs) i j).headD arena.control := by
      intro i hi j hj
      rw [hblocks']
      by_cases hij : i = F ∧ j = S
      · rw [if_pos hij, hij.1, hij.2, hunlist, List.nil_append]
      · rw [if_neg hij, hother h hl hij, h.indexed.head i hi j hj]
    cases vs with
    | cons v vs =>
      have hne : ¬s.mem (arena.addr xs + 16) = arena.control := by
        rw [hnext]
        exact fun he => hcvs (he ▸ List.mem_cons_self)
      refine ⟨s₂, hread.bind ?_, h.unlinked hl (hmem₂.trans hmem) hheads ?_ ?_ ?_⟩
      · rw [List.nil_append, List.headD_cons, if_pos rfl]
        refine hwrite.bind ?_
        rw [if_neg hne]
        exact Prog.Runs.ret
      · intro i hi j hj
        rw [hsl₂, h.indexed.slBit i hi j hj]
        by_cases hij : i = F ∧ j = S
        · rw [hij.1, hij.2, hunlist, hL]
          simp
        · rw [hother h hl hij]
      · intro i hi
        rw [hsl₂, hfl₂, h.indexed.flBit i hi]
      · intro i hi
        rw [hfl₂, h.indexed.flHigh i hi]
    | nil =>
      -- The list becomes empty: its bit goes, and with the last bit the one of the level.
      have he : s.mem (arena.addr xs + 16) = arena.control := hnext
      have hmap : ∀ i < flIndexCount, ∀ j < slIndexCount,
          (if i = F then s.slBitmap F &&& ~~~(1#32 <<< S) else s.slBitmap i).getLsbD j = true ↔
            unlist L (arena.addr xs) i j ≠ [] := by
        intro i hi j hj
        by_cases hij : i = F ∧ j = S
        · rw [if_pos hij.1, hij.2, getLsbD_clear hsl' hsl', hij.1, hunlist]
          simp
        · rw [hother h hl hij, ← h.indexed.slBit i hi j hj]
          by_cases hi' : i = F
          · have hj' : ¬S = j := fun hj' => hij ⟨hi', hj'.symm⟩
            rw [if_pos hi', getLsbD_clear hsl' hj, hi']
            simp [hj']
          · rw [if_neg hi']
      have hset : s.slBitmap F ≠ 0#32 := by
        intro hz
        have hbit := (h.indexed.slBit F hfl S hsl).2 (by rw [hL]; simp)
        rw [hz, BitVec.getLsbD_zero] at hbit
        cases hbit
      have hrun : ∀ s'', Runs arena (if s.slBitmap F &&& ~~~(1#32 <<< S) = 0#32 then do
            Tlsf.writeFl ((← readFl) &&& ~~~(1#32 <<< F))
          else pure ()) (s₂.setSl F (s.slBitmap F &&& ~~~(1#32 <<< S))) () s'' →
          Runs arena (Tlsf.removeHead arena.control (arena.addr xs) (s.mem (arena.addr xs + 16))
            F S) s' () s'' := by
        intro s'' hs''
        refine hread.bind ?_
        rw [List.nil_append, List.headD_cons, if_pos rfl]
        refine hwrite.bind ?_
        rw [if_pos he]
        have hreadSl := @runs_readSl arena s₂ _ hfl
        rw [hsl₂] at hreadSl
        exact hreadSl.bind ((runs_writeSl hfl).bind hs'')
      generalize s.slBitmap F &&& ~~~(1#32 <<< S) = map at *
      by_cases hzero : map = 0#32
      · have h' : Rep arena (xs ++ { c with listed := false } :: ys) (unlist L (arena.addr xs))
            { s₂.setSl F map with flBitmap := s.flBitmap &&& ~~~(1#32 <<< F) } := by
          refine h.unlinked hl (hmem₂.trans hmem) hheads ?_ ?_ ?_
          · intro i hi j hj
            rw [← hmap i hi j hj]
            simp only [State.slBitmap_setSl, hsl₂]
          · intro i hi
            have hi' : i < 32 := Nat.lt_trans hi (by decide)
            simp only [State.slBitmap_setSl, hsl₂]
            rw [getLsbD_clear hfl' hi', hzero]
            by_cases hiF : i = F
            · simp [hiF]
            · rw [if_neg hiF, ← h.indexed.flBit i hi]
              simp [Ne.symm hiF]
          · intro i hi
            rw [BitVec.getLsbD_and, h.indexed.flHigh i hi, Bool.false_and]
        refine ⟨_, hrun _ ?_, h'⟩
        rw [if_pos hzero, ← hfl₂]
        exact runs_readFl.bind runs_writeFl
      · have h' : Rep arena (xs ++ { c with listed := false } :: ys) (unlist L (arena.addr xs))
            (s₂.setSl F map) := by
          refine h.unlinked hl (hmem₂.trans hmem) hheads ?_ ?_ ?_
          · intro i hi j hj
            rw [← hmap i hi j hj, State.slBitmap_setSl, hsl₂]
          · intro i hi
            rw [State.slBitmap_setSl, hsl₂, show (s₂.setSl F map).flBitmap = s.flBitmap from hfl₂,
              h.indexed.flBit i hi]
            by_cases hiF : i = F
            · simp [hiF, hset, hzero]
            · rw [if_neg hiF]
          · intro i hi
            rw [show (s₂.setSl F map).flBitmap = s.flBitmap from hfl₂, h.indexed.flHigh i hi]
        refine ⟨_, hrun _ ?_, h'⟩
        rw [if_neg hzero]
        exact Prog.Runs.ret

theorem removeFreeBlock (h : Rep arena (xs ++ c :: ys) L s) (hl : c.listed)
    (hfl : (mappingInsert c.size).1 < flIndexCount) :
    ∃ s', Runs arena (removeFreeBlock arena.control (arena.addr xs) (mappingInsert c.size).1
        (mappingInsert c.size).2) s () s' ∧
      Rep arena (xs ++ { c with listed := false } :: ys) (unlist L (arena.addr xs)) s' := by
  obtain ⟨us, vs, hL, hunlist, hprev, hnext, hbus, hcus, hcvs⟩ := h.class_list hl
  have hsl := @mappingInsert_snd_lt c.size
  have hfl' : (mappingInsert c.size).1 < 32 := Nat.lt_trans hfl (by decide)
  have hsl' : (mappingInsert c.size).2 < 32 := hsl
  have hvl := h.valid_mid.listed hl
  have hb : IsNode arena (xs ++ c :: ys) (arena.addr xs) := isNode_mid hvl.1 hvl.2
  have hnode : ∀ y ∈ us ++ vs, IsNode arena (xs ++ c :: ys) y := by
    intro y hy
    refine h.isNode_of_mem (i := (mappingInsert c.size).1) (j := (mappingInsert c.size).2) ?_
    rw [hL]
    rcases List.mem_append.1 hy with hy | hy
    · exact List.mem_append_left _ hy
    · exact List.mem_append_right _ (List.mem_cons_of_mem _ hy)
  have hnodePrev : IsNode arena (xs ++ c :: ys) (s.mem (arena.addr xs + 24)) := by
    rw [hprev]
    exact getLastD_eq_or_mem.elim .inl fun hm => hnode _ (List.mem_append_left _ hm)
  have hnodeNext : IsNode arena (xs ++ c :: ys) (s.mem (arena.addr xs + 16)) := by
    rw [hnext]
    exact headD_eq_or_mem.elim .inl fun hm => hnode _ (List.mem_append_right _ hm)
  have hhead := h.indexed.head _ hfl _ hsl
  obtain ⟨s', r, h'⟩ := @removeHead arena xs ys c L s
    ((s.store (s.mem (arena.addr xs + 16) + 24) (s.mem (arena.addr xs + 24))).store
      (s.mem (arena.addr xs + 24) + 16) (s.mem (arena.addr xs + 16))) h hl hfl rfl rfl rfl rfl
  refine ⟨s', ?_, h'⟩
  refine (runs_load (hb.maps h.laid (.inr rfl))).bind ?_
  refine (runs_load (hb.maps h.laid (.inl rfl))).bind ?_
  refine (runs_assert (decide_eq_true (hnodePrev.ne_zero h.laid))).bind ?_
  refine (runs_assert (decide_eq_true (hnodeNext.ne_zero h.laid))).bind ?_
  refine (runs_store (hnodeNext.maps h.laid (.inr rfl))).bind ?_
  exact (runs_store (hnodePrev.maps h.laid (.inl rfl))).bind r

/-! ## Insertion -/

/-- The lists with `b` in front of one of them. -/
def enlist (L : Nat → Nat → List Nat) (b fl sl i j : Nat) : List Nat :=
  if i = fl ∧ j = sl then b :: L i j else L i j

theorem mem_enlist {y fl sl : Nat} :
    y ∈ enlist L b fl sl i j ↔ y ∈ L i j ∨ y = b ∧ i = fl ∧ j = sl := by
  unfold enlist
  split
  case isTrue h => simp [h, or_comm]
  case isFalse h => simp [h]

/-- Linking a block in front of the list of its class. -/
theorem linked_enlist {m : Nat → Nat} (h : Rep arena (xs ++ c :: ys) L s) (hl : c.listed = false)
    (hsize : blockSizeMin ≤ c.size) (hdata : c.data = []) {fl sl : Nat}
    (hm : m = Function.update (Function.update (Function.update s.mem (arena.addr xs + 16)
      ((L fl sl).headD arena.control)) (arena.addr xs + 24) arena.control)
      ((L fl sl).headD arena.control + 24) (arena.addr xs)) :
    Linked (fun b => m (b + 16)) (fun b => m (b + 24)) arena.control arena.control
      (enlist L (arena.addr xs) fl sl i j) := by
  have hb : IsNode arena (xs ++ c :: ys) (arena.addr xs) := isNode_mid hsize hdata
  have hnot : ∀ i j, ∀ y ∈ L i j, ¬y = arena.addr xs := by
    rintro i j y hy rfl
    exact h.not_mem_of_unlisted hl hy
  have hhead : (L fl sl).headD arena.control = arena.control ∨
      (L fl sl).headD arena.control ∈ L fl sl := headD_eq_or_mem
  have hnodeHead : IsNode arena (xs ++ c :: ys) ((L fl sl).headD arena.control) :=
    hhead.elim .inl h.isNode_of_mem
  have hcontrol : arena.addr xs ≠ arena.control := by
    have := @Arena.start_le_addr arena xs
    have := @Arena.start_eq arena
    omega
  have hne : (L fl sl).headD arena.control ≠ arena.addr xs := by
    rcases hhead with he | hm
    · exact fun he' => hcontrol (he'.symm.trans he)
    · exact hnot fl sl _ hm
  generalize hcur : (L fl sl).headD arena.control = cur at *
  have hmNext : ∀ y, IsNode arena (xs ++ c :: ys) y →
      m (y + 16) = if y = arena.addr xs then cur else s.mem (y + 16) := by
    intro y hy
    have h1 := hy.next_ne_prev h.laid hnodeHead
    have h2 := hy.next_ne_prev h.laid hb
    rw [hm, Function.update_of_ne h1, Function.update_of_ne h2, Function.update_apply]
    simp only [Nat.add_right_cancel_iff]
  have hmPrev : ∀ y, IsNode arena (xs ++ c :: ys) y → m (y + 24) =
      if y = cur then arena.addr xs else if y = arena.addr xs then arena.control
        else s.mem (y + 24) := by
    intro y hy
    have h1 := hb.next_ne_prev h.laid hy
    rw [hm, Function.update_apply, Function.update_apply, Function.update_of_ne h1.symm]
    simp only [Nat.add_right_cancel_iff]
  unfold enlist
  split
  case isTrue hij =>
    rw [hij.1, hij.2]
    refine (h.indexed.linked fl sl).insert (h.indexed.nodup fl sl) ?_ ?_ ?_ ?_
    · rw [hmNext _ hb, if_pos rfl, hcur]
    · rw [hmPrev _ hb, if_neg hne.symm, if_pos rfl]
    · intro y hy
      rw [hmNext _ (h.isNode_of_mem hy), if_neg (hnot fl sl y hy)]
    · intro y hy
      rw [hmPrev _ (h.isNode_of_mem hy), hcur]
      by_cases hyc : y = cur
      · rw [if_pos hyc, if_pos hyc]
      · rw [if_neg hyc, if_neg hyc, if_neg (hnot fl sl y hy)]
  case isFalse hij =>
    refine (h.indexed.linked i j).congr ?_ ?_
    · intro y hy
      rw [hmNext _ (h.isNode_of_mem hy), if_neg (hnot i j y hy)]
    · intro y hy
      have hyc : y ≠ cur := by
        rintro rfl
        rcases hhead with he | hm
        · exact h.ne_control_of_mem hy he
        · exact hij (h.class_unique hy hm)
      rw [hmPrev _ (h.isNode_of_mem hy), if_neg hyc, if_neg (hnot i j y hy)]

theorem enlisted (h : Rep arena (xs ++ c :: ys) L s) (hl : c.listed = false)
    (hsize : blockSizeMin ≤ c.size) (hdata : c.data = []) {F S : Nat}
    (hclass : mappingInsert c.size = (F, S)) (hF : F < flIndexCount) (hS : S < slIndexCount)
    (hmem : s'.mem = Function.update (Function.update (Function.update s.mem (arena.addr xs + 16)
      ((L F S).headD arena.control)) (arena.addr xs + 24) arena.control)
      ((L F S).headD arena.control + 24) (arena.addr xs))
    (hblocks : ∀ i j, s'.blocks i j = if i = F ∧ j = S then arena.addr xs else s.blocks i j)
    (hslMap : ∀ i, s'.slBitmap i =
      if i = F then s.slBitmap F ||| (1#32 <<< S) else s.slBitmap i)
    (hflMap : s'.flBitmap = s.flBitmap ||| (1#32 <<< F)) :
    Rep arena (xs ++ { c with listed := true } :: ys) (enlist L (arena.addr xs) F S) s' := by
  have hF' : F < 32 := Nat.lt_trans hF (by decide)
  have hS' : S < 32 := hS
  have hb : IsNode arena (xs ++ c :: ys) (arena.addr xs) := isNode_mid hsize hdata
  have hhead : (L F S).headD arena.control = arena.control ∨
      (L F S).headD arena.control ∈ L F S := headD_eq_or_mem
  have hnodeHead : IsNode arena (xs ++ c :: ys) ((L F S).headD arena.control) :=
    hhead.elim .inl h.isNode_of_mem
  refine ⟨?_, fun i j => h.linked_enlist hl hsize hdata hmem, ?_, ?_, ?_, ?_, ?_, ?_⟩
  · rw [hmem]
    exact (((h.laid.store_link hb (.inl rfl)).store_link hb (.inr rfl)).store_link hnodeHead
      (.inr rfl)).relist fun _ => ⟨hsize, hdata⟩
  · intro i hi j hj
    rw [hblocks, enlist]
    by_cases hij : i = F ∧ j = S
    · rw [if_pos hij, if_pos hij, List.headD_cons]
    · rw [if_neg hij, if_neg hij, h.indexed.head i hi j hj]
  · intro i j y
    rw [mem_enlist, h.indexed.mem_iff]
    constructor
    · rintro (⟨d, hd, hdl, hcl⟩ | ⟨rfl, rfl, rfl⟩)
      · refine ⟨d, (Arena.mem_blocks_replace c { c with listed := true } rfl).2 (.inr ⟨?_, hd⟩),
          hdl, hcl⟩
        intro he
        have : d = c := (Prod.mk.inj (Laid.eq_of_fst_eq hd Arena.mid_mem_blocks he)).2
        rw [this, hl] at hdl
        cases hdl
      · exact ⟨{ c with listed := true }, Arena.mid_mem_blocks, rfl, hclass⟩
    · rintro ⟨d, hd, hdl, hcl⟩
      rcases (Arena.mem_blocks_replace c { c with listed := true } rfl).1 hd with he | ⟨-, hd⟩
      · obtain ⟨rfl, rfl⟩ := Prod.mk.inj he
        have hij := Prod.mk.inj (hcl.symm.trans hclass)
        exact .inr ⟨rfl, hij⟩
      · exact .inl ⟨d, hd, hdl, hcl⟩
  · intro i j
    unfold enlist
    split
    · exact List.nodup_cons.2 ⟨h.not_mem_of_unlisted hl, h.indexed.nodup i j⟩
    · exact h.indexed.nodup i j
  · intro i hi j hj
    rw [hslMap, enlist]
    by_cases hij : i = F ∧ j = S
    · rw [if_pos hij.1, if_pos hij, getLsbD_set hS', hij.2]
      simp
    · rw [if_neg hij, ← h.indexed.slBit i hi j hj]
      by_cases hi' : i = F
      · have hj' : ¬S = j := fun hj' => hij ⟨hi', hj'.symm⟩
        rw [if_pos hi', getLsbD_set hS', hi']
        simp [hj']
      · rw [if_neg hi']
  · intro i hi
    rw [hflMap, hslMap, getLsbD_set hF']
    by_cases hi' : i = F
    · have hne : s.slBitmap F ||| (1#32 <<< S) ≠ 0#32 := by
        intro hz
        have hbit := (eq_zero_iff_getLsbD.1 hz) S hS'
        rw [getLsbD_set hS'] at hbit
        simp at hbit
      simp [hi', hne]
    · rw [if_neg hi', ← h.indexed.flBit i hi]
      simp [Ne.symm hi']
  · intro i hi
    have hne : ¬F = i := by omega
    rw [hflMap, getLsbD_set hF', h.indexed.flHigh i hi]
    simp [hne]

theorem insertFreeBlock (h : Rep arena (xs ++ c :: ys) L s) (hl : c.listed = false)
    (hsize : blockSizeMin ≤ c.size) (hdata : c.data = [])
    (hfl : (mappingInsert c.size).1 < flIndexCount) :
    ∃ s', Runs arena (insertFreeBlock arena.control (arena.addr xs) (mappingInsert c.size).1
        (mappingInsert c.size).2) s () s' ∧
      Rep arena (xs ++ { c with listed := true } :: ys)
        (enlist L (arena.addr xs) (mappingInsert c.size).1 (mappingInsert c.size).2) s' := by
  have hsl := @mappingInsert_snd_lt c.size
  have hp : (arena.addr xs, c) ∈ arena.blocks (xs ++ c :: ys) := Arena.mid_mem_blocks
  have hb : IsNode arena (xs ++ c :: ys) (arena.addr xs) := isNode_mid hsize hdata
  have hread := @runs_readHead arena s _ _ hfl hsl
  rw [h.indexed.head _ hfl _ hsl] at hread
  have halign : ∀ s, Runs arena (alignPtr (blockToPtr (arena.addr xs)) alignSize) s
      (blockToPtr (arena.addr xs)) s := by
    intro s
    have hdvd := h.laid.dvd_block hp
    have hbound := (h.laid.bounds hp).2
    have hlt := arena.lt
    simp only at hdvd hbound
    refine runs_alignPtr_self ?_ ?_ <;> simp only [blockToPtr, blockStartOffset] <;> omega
  have hrep := fun s' => @enlisted arena xs ys c L s s' h hl hsize hdata (mappingInsert c.size).1
    (mappingInsert c.size).2 rfl hfl hsl
  generalize (mappingInsert c.size).1 = F at *
  generalize (mappingInsert c.size).2 = S at *
  have hhead : (L F S).headD arena.control = arena.control ∨
      (L F S).headD arena.control ∈ L F S := headD_eq_or_mem
  have hnodeHead : IsNode arena (xs ++ c :: ys) ((L F S).headD arena.control) :=
    hhead.elim .inl h.isNode_of_mem
  generalize (L F S).headD arena.control = cur at *
  refine ⟨_, ?_, hrep ({ ((((s.store (arena.addr xs + 16) cur).store (arena.addr xs + 24)
    arena.control).store (cur + 24) (arena.addr xs)).setHead F S (arena.addr xs)) with
      flBitmap := s.flBitmap ||| (1#32 <<< F) }.setSl F (s.slBitmap F ||| (1#32 <<< S)))
    rfl (fun i j => ?_) (fun i => ?_) rfl⟩
  · refine hread.bind ?_
    refine (runs_assert (decide_eq_true (hnodeHead.ne_zero h.laid))).bind ?_
    refine (runs_assert (decide_eq_true (hb.ne_zero h.laid))).bind ?_
    refine (runs_store (hb.maps h.laid (.inl rfl))).bind ?_
    refine (runs_store (hb.maps h.laid (.inr rfl))).bind ?_
    refine (runs_store (hnodeHead.maps h.laid (.inr rfl))).bind ?_
    refine (halign _).bind ((runs_assert (decide_eq_true rfl)).bind ?_)
    refine (runs_writeHead hfl hsl).bind ?_
    refine runs_readFl.bind (runs_writeFl.bind ?_)
    exact (runs_readSl hfl).bind (runs_writeSl hfl)
  · exact State.blocks_setHead
  · exact State.slBitmap_setSl

/-! ## Search -/

/-- The first list of a map, with a map of lists that are not empty. -/
theorem firstBlock (h : Rep arena cs L s) {fl : Nat} {map : BitVec 32} (hfl : fl < flIndexCount)
    (hmap : map ≠ 0#32)
    (hbits : ∀ j < slIndexCount, map.getLsbD j = true → L fl j ≠ []) :
    ∃ b sl, Runs arena (firstBlock fl map) s (b, fl, sl) s ∧ sl < slIndexCount ∧ b ∈ L fl sl ∧
      map.getLsbD sl = true ∧ ∀ j < sl, map.getLsbD j = false := by
  obtain ⟨hlt, hbit, hlow⟩ := tlsfFfs_spec hmap
  refine ⟨_, (tlsfFfs map).toNat, (runs_assert (decide_eq_true hmap)).bind
    ((runs_readHead hfl hlt).bind Prog.Runs.ret), hlt, ?_, hbit, hlow⟩
  rw [h.indexed.head fl hfl _ hlt]
  rcases headD_eq_or_mem (α := Nat) with he | hm
  · exact absurd ((headD_eq_null h.control_not_mem).1 he) (hbits _ hlt hbit)
  · exact hm

theorem searchSuitableBlock (h : Rep arena cs L s) {fl sl : Nat} (hfl : fl < flIndexCount)
    (hsl : sl < slIndexCount) :
    (Runs arena (searchSuitableBlock fl sl) s (0, fl, sl) s ∧
      ∀ i < flIndexCount, ∀ j < slIndexCount, classKey (fl, sl) ≤ classKey (i, j) → L i j = []) ∨
    ∃ b i j, Runs arena (searchSuitableBlock fl sl) s (b, i, j) s ∧ b ∈ L i j ∧
      i < flIndexCount ∧ j < slIndexCount ∧ classKey (fl, sl) ≤ classKey (i, j) ∧
      ∀ i' < flIndexCount, ∀ j' < slIndexCount, classKey (fl, sl) ≤ classKey (i', j') →
        classKey (i', j') < classKey (i, j) → L i' j' = [] := by
  have hkey : ∀ i j i' j', j < slIndexCount → j' < slIndexCount →
      (classKey (i, j) ≤ classKey (i', j') ↔ i < i' ∨ i = i' ∧ j ≤ j') := by
    intro i j i' j' hj hj'
    have hj : j < 32 := hj
    have hj' : j' < 32 := hj'
    show 32 * i + j ≤ 32 * i' + j' ↔ _
    omega
  have hempty : ∀ i < flIndexCount, ∀ j < slIndexCount,
      (s.slBitmap i).getLsbD j = false → L i j = [] := by
    intro i hi j hj hbit
    by_contra hne
    rw [(h.indexed.slBit i hi j hj).2 hne] at hbit
    cases hbit
  have hread := @runs_readSl arena s _ hfl
  by_cases hmap : s.slBitmap fl &&& (BitVec.allOnes 32 <<< sl) = 0#32
  · have hlevel : ∀ j < slIndexCount, sl ≤ j → L fl j = [] := by
      intro j hj hle
      refine hempty fl hfl j hj ?_
      have := eq_zero_iff_getLsbD.1 hmap j hj
      rw [getLsbD_from hj] at this
      simpa [hle] using this
    by_cases hflMap : s.flBitmap &&& (BitVec.allOnes 32 <<< (fl + 1)) = 0#32
    · refine .inl ⟨hread.bind ?_, fun i hi j hj hle => ?_⟩
      · rw [if_pos hmap]
        refine runs_readFl.bind ?_
        rw [if_pos hflMap]
        exact Prog.Runs.ret
      · rcases (hkey fl sl i j hsl hj).1 hle with hlt | ⟨rfl, hle'⟩
        · have hi' : i < 32 := Nat.lt_trans hi (by decide)
          have hbit := eq_zero_iff_getLsbD.1 hflMap i hi'
          rw [getLsbD_from hi', decide_eq_true (show fl + 1 ≤ i by omega), Bool.and_true] at hbit
          have hz : s.slBitmap i = 0#32 := by
            by_contra hne
            rw [(h.indexed.flBit i hi).2 hne] at hbit
            cases hbit
          exact hempty i hi j hj (by rw [hz, BitVec.getLsbD_zero])
        · exact hlevel j hj hle'
    · -- The next first level that has a block.
      obtain ⟨hlt, hbit, hlow⟩ := tlsfFfs_spec hflMap
      generalize hi : (tlsfFfs (s.flBitmap &&& (BitVec.allOnes 32 <<< (fl + 1)))).toNat = i at *
      rw [getLsbD_from hlt, Bool.and_eq_true, decide_eq_true_eq] at hbit
      have hi25 : i < flIndexCount := by
        by_contra hge
        rw [h.indexed.flHigh i (Nat.not_lt.1 hge)] at hbit
        cases hbit.1
      have hne := (h.indexed.flBit i hi25).1 hbit.1
      obtain ⟨b, j, r, hj, hb, -, hlow'⟩ := h.firstBlock hi25 hne
        fun j hj => (h.indexed.slBit i hi25 j hj).1
      refine .inr ⟨b, i, j, hread.bind ?_, hb, hi25, hj, (hkey fl sl i j hsl hj).2 (.inl hbit.2),
        fun i' hi' j' hj' hle hlt' => ?_⟩
      · rw [if_pos hmap]
        refine runs_readFl.bind ?_
        rw [if_neg hflMap, hi]
        exact (runs_readSl hi25).bind r
      · rw [← Nat.not_le, hkey i j i' j' hj hj'] at hlt'
        rcases (hkey fl sl i' j' hsl hj').1 hle with hlt'' | ⟨rfl, hle'⟩
        · have hlt' : i' < i ∨ i' = i ∧ j' < j := by omega
          rcases hlt' with hlt₃ | ⟨rfl, hjlt⟩
          · have hi32 : i' < 32 := Nat.lt_trans hi' (by decide)
            have hbit' := hlow i' hlt₃
            rw [getLsbD_from hi32, decide_eq_true (show fl + 1 ≤ i' by omega), Bool.and_true]
              at hbit'
            have hz : s.slBitmap i' = 0#32 := by
              by_contra hne'
              rw [(h.indexed.flBit i' hi').2 hne'] at hbit'
              cases hbit'
            exact hempty i' hi' j' hj' (by rw [hz, BitVec.getLsbD_zero])
          · exact hempty i' hi' j' hj' (hlow' j' hjlt)
        · exact hlevel j' hj' hle'
  · obtain ⟨b, j, r, hj, hb, hbit, hlow⟩ := h.firstBlock hfl hmap fun j hj hbit => by
      rw [getLsbD_from hj, Bool.and_eq_true] at hbit
      exact (h.indexed.slBit fl hfl j hj).1 hbit.1
    rw [getLsbD_from hj, Bool.and_eq_true, decide_eq_true_eq] at hbit
    refine .inr ⟨b, fl, j, hread.bind ?_, hb, hfl, hj, (hkey fl sl fl j hsl hj).2 (.inr ⟨rfl, hbit.2⟩),
      fun i' hi' j' hj' hle hlt => ?_⟩
    · rw [if_neg hmap]
      exact r
    · rw [← Nat.not_le, hkey fl j i' j' hj hj'] at hlt
      rcases (hkey fl sl i' j' hsl hj').1 hle with hlt' | ⟨rfl, hle'⟩
      · omega
      · refine hempty fl hfl j' hj' ?_
        have := hlow j' (by omega)
        rw [getLsbD_from hj'] at this
        simpa [hle'] using this

end Rep

end WinShell.Tlsf
