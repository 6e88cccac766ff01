-- SUMMARY: Reallocation in a TLSF pool: shrinking, growing in place, moving, and the request that cannot be satisfied.
import WinShell.Tlsf.Contents

/-!
# Reallocation

`tlsf_realloc` trims a block, grows it into the free block behind it, or allocates
another one and copies. A size with no list is adjusted to zero, and the code trims
the block to that: it becomes empty, and the block behind the cut begins inside of
what the client still holds.
-/

namespace WinShell.Tlsf

open Store Effect

variable {arena : Arena} {xs ys bs : List Block} {n k p q : Nat} {ws vs : List Nat} {s : State}
  {A : Contents}

/-! ## In place -/

/-- The pool after trimming a used block to its first `k` bytes. -/
def cut (xs : List Block) (ws : List Nat) (k : Nat) (ys : List Block) : List Block :=
  if k + 32 ≤ 8 * ws.length then
    xs ++ .used (ws.take (k / 8)) ::
      .free (mergedNext (8 * ws.length - k - 8) ys).1 :: (mergedNext (8 * ws.length - k - 8) ys).2
  else
    xs ++ .used ws :: ys

namespace Stored

theorem blockTrimUsed (h : Stored arena (pool (xs ++ .used ws :: ys)) s) (hk : 8 ∣ k)
    (hmax : k < 2 ^ 63) :
    ∃ s', Runs arena (blockTrimUsed arena.control (arena.place xs) k) s () s' ∧
      Stored arena (pool (cut xs ws k ys)) s' ∧ (8 * ws.length < k + 32 → s' = s) := by
  have haddr : arena.addr (chunks false xs) = arena.place xs := addr_chunks
  have hpool := h
  rw [pool_append] at hpool
  have rsplit := hpool.runs_blockCanSplit hmax
  obtain ⟨L, hrep⟩ := hpool
  have rfree := hrep.laid.runs_blockIsFree Arena.mid_mem_blocks
  rw [haddr, Block.size_chunk] at rsplit
  rw [haddr, Block.free_chunk] at rfree
  by_cases hle : k + 32 ≤ 8 * ws.length
  · obtain ⟨d, rest, -, hd⟩ := ending_eq ys
    rw [Block.isFree, hd] at hrep
    obtain ⟨p, s₁, r₁, h₁⟩ := hrep.blockSplit rfl hk hle
    have hlen : 8 * (ws.take (k / 8)).length = k := by
      rw [List.length_take]
      omega
    have h₁' : Rep arena ((chunks false xs ++ [(Block.used (ws.take (k / 8))).chunk
        (lastFree false xs)]) ++ ⟨8 * ws.length - k - 8, true, p, true, false, []⟩ ::
          { d with prevFree := true } :: rest) L s₁ := by
      have hchunk : (Block.used (ws.take (k / 8))).chunk (lastFree false xs) =
          ⟨k, false, lastFree false xs, false, false, ws.take (k / 8)⟩ := by
        rw [Block.chunk, hlen]
      rw [hchunk]
      simpa [Block.chunk] using h₁
    obtain ⟨s₂, r₂, h₂⟩ := h₁'.blockSetPrevUsed
    have hopened : Stored arena (opened (xs ++ [.used (ws.take (k / 8))])
        (8 * ws.length - k - 8) ys) s₂ := by
      rw [opened, chunks_append, lastFree_append, hd]
      exact ⟨L, h₂⟩
    obtain ⟨s₃, r₃, h₃⟩ := hopened.blockMergeNext_opened (by omega)
    have hmin : 24 ≤ (mergedNext (8 * ws.length - k - 8) ys).1 := by
      rcases mergedNext_cases (8 * ws.length - k - 8) ys with ⟨m, zs, -, he⟩ | ⟨-, he⟩ <;>
        rw [he] <;> simp only <;> omega
    obtain ⟨s₄, r₄, h₄⟩ := h₃.close hmin
    have hplace : arena.place (xs ++ [.used (ws.take (k / 8))]) = arena.place xs + k + 8 := by
      rw [place_append, Block.size, hlen]
    rw [Arena.addr_append_singleton, haddr, Chunk.extent, Block.size_chunk, Block.size, hlen,
      ← Nat.add_assoc] at r₂
    rw [haddr] at r₁
    rw [hplace] at r₃ r₄
    refine ⟨s₄, ?_, ?_, fun hlt => by omega⟩
    · refine rfree.bind ((runs_assert rfl).bind (rsplit.bind ?_))
      rw [decide_eq_true (show k + 32 ≤ (Block.used ws).size from hle)]
      exact r₁.bind (r₂.bind (r₃.bind r₄))
    · rw [cut, if_pos hle]
      simpa using h₄
  · refine ⟨s, ?_, ?_, fun _ => rfl⟩
    · refine rfree.bind ((runs_assert rfl).bind (rsplit.bind ?_))
      rw [decide_eq_false (show ¬k + 32 ≤ (Block.used ws).size from hle)]
      exact Prog.Runs.ret
    · rw [cut, if_neg hle]
      exact h

/-- Growing a used block into the free block behind it. The contents stay in front. -/
theorem grow {m : Nat} (h : Stored arena (pool (xs ++ .used ws :: .free m :: ys)) s)
    (hpos : ws ≠ []) :
    ∃ s₁ s₂ vs, Runs arena (Tlsf.blockMergeNext arena.control (arena.place xs)) s
        (arena.place xs) s₁ ∧ Runs arena (Tlsf.blockMarkAsUsed (arena.place xs)) s₁ () s₂ ∧
      ws <+: vs ∧ 8 * vs.length = 8 * ws.length + m + 8 ∧
      Stored arena (pool (xs ++ .used vs :: ys)) s₂ := by
  have haddr : arena.addr (chunks false xs) = arena.place xs := addr_chunks
  have hlen := List.length_pos_iff.2 hpos
  obtain ⟨d, rest, -, hd⟩ := ending_eq ys
  rw [pool_append, Block.isFree, ending_cons, Block.isFree, hd] at h
  obtain ⟨s₁, r₁, L, h₁⟩ := h.blockMergeNext rfl (show 0 < 8 * ws.length by omega) rfl rfl
  obtain ⟨s₂, r₂, h₂⟩ := h₁.blockMarkAsUsed (show 0 < 8 * ws.length + m + 8 by omega)
  have hv := h₂.valid_mid
  have hat := h₂.at_mid
  have hdvd : 8 ∣ 8 * ws.length + m + 8 := hv.dvd
  rw [haddr] at r₁ r₂
  have hlength : (payload s₂.mem (arena.place xs) (8 * ws.length + m + 8)).length =
      (8 * ws.length + m + 8) / 8 := by
    rw [payload, List.length_map, List.length_range]
  have hsize : 8 * (payload s₂.mem (arena.place xs) (8 * ws.length + m + 8)).length =
      8 * ws.length + m + 8 := by
    rw [hlength]
    omega
  have hget : ∀ i, i < (8 * ws.length + m + 8) / 8 →
      (payload s₂.mem (arena.place xs) (8 * ws.length + m + 8))[i]? =
        some (s₂.mem (arena.place xs + 16 + 8 * i)) := by
    intro i hi
    rw [payload, List.getElem?_map, List.getElem?_range hi]
    rfl
  refine ⟨s₁, s₂, payload s₂.mem (arena.place xs) (8 * ws.length + m + 8), r₁, r₂, ?_, hsize, L, ?_⟩
  · rw [List.prefix_iff_getElem?]
    intro i hi
    rw [hget i (by omega)]
    have := hat.data i ws[i] (List.getElem?_eq_getElem hi)
    rw [haddr] at this
    rw [this]
  · rw [pool_append, Block.isFree, hd]
    refine h₂.restate hsize rfl ⟨Nat.dvd_mul_right 8 _, Nat.le_refl _, by simp [Block.chunk],
      by simp [Block.chunk]⟩ ⟨?_, by simp [Block.chunk], ?_⟩
    · rw [hat.header, Chunk.header, Chunk.header]
      simp only [Block.chunk, hsize]
    · intro i v hi
      simp only [Block.chunk] at hi
      have hi' : i < (8 * ws.length + m + 8) / 8 := by
        have := (List.getElem?_eq_some_iff.1 hi).1
        omega
      rw [hget i hi'] at hi
      rw [haddr]
      exact Option.some.inj hi

end Stored

/-! ## Copying -/

/-- A byte of some words, the lowest byte of a word first. -/
def byteAt (ws : List Nat) (k : Nat) : Nat := ws.getD (k / 8) 0 / 2 ^ (8 * (k % 8)) % 2 ^ 8

/-- The first `n` bytes agree. -/
def SameBytes (n : Nat) (ws vs : List Nat) : Prop := ∀ k < n, byteAt vs k = byteAt ws k

theorem byteAt_eq {k : Nat} (h : vs[k / 8]? = ws[k / 8]?) : byteAt vs k = byteAt ws k := by
  rw [byteAt, byteAt, List.getD_eq_getElem?_getD, h, List.getD_eq_getElem?_getD]

theorem sameBytes_of_front {m : Nat} (h : vs <+: ws) (hm : m ≤ 8 * vs.length) :
    SameBytes m ws vs := by
  intro k hk
  obtain ⟨us, rfl⟩ := h
  exact byteAt_eq (List.getElem?_append_left (by omega)).symm

theorem sameBytes_of_extension {m : Nat} (h : ws <+: vs) (hm : m ≤ 8 * ws.length) :
    SameBytes m ws vs := by
  intro k hk
  obtain ⟨us, rfl⟩ := h
  exact byteAt_eq (List.getElem?_append_left (by omega))

theorem SameBytes.trans {m : Nat} {us : List Nat} (h : SameBytes m ws vs) (h' : SameBytes m vs us) :
    SameBytes m ws us := fun k hk => (h' k hk).trans (h k hk)

/-- The low bytes of a word that is put together from two. -/
theorem joined_byte {w t b j : Nat} (h : 8 * j + 8 ≤ b) :
    (w % 2 ^ b + t * 2 ^ b) / 2 ^ (8 * j) % 2 ^ 8 = w / 2 ^ (8 * j) % 2 ^ 8 := by
  have hdvd : 2 ^ (8 * j) * 2 ^ 8 ∣ 2 ^ b := by
    rw [← Nat.pow_add]
    exact Nat.pow_dvd_pow 2 h
  have hmod : (w % 2 ^ b + t * 2 ^ b) % (2 ^ (8 * j) * 2 ^ 8) = w % (2 ^ (8 * j) * 2 ^ 8) := by
    rw [Nat.add_mod, Nat.mod_mod_of_dvd _ hdvd,
      Nat.mod_eq_zero_of_dvd (Nat.dvd_trans hdvd (Nat.dvd_mul_left _ t)), Nat.add_zero, Nat.mod_mod]
  rw [← Nat.mod_mul_right_div_self, hmod, Nat.mod_mul_right_div_self]

/-- Copying `m` words between two live spans, from the word `j` on. -/
theorem Holds.runs_copyWords {m j : Nat} (h : Holds arena bs s) (hp : contents arena bs p = some ws)
    (hq : contents arena bs q = some vs) (hne : p ≠ q) (hws : j + m ≤ ws.length)
    (hvs : j + m ≤ vs.length) :
    ∃ bs' s' vs', Runs arena (copyWords (q + 8 * j) (p + 8 * j) m) s () s' ∧ Holds arena bs' s' ∧
      contents arena bs' = Function.update (contents arena bs) q (some vs') ∧
      vs'.length = vs.length ∧ (∀ i < j, vs'[i]? = vs[i]?) ∧
      ∀ i, j ≤ i → i < j + m → vs'[i]? = ws[i]? := by
  induction m generalizing j bs s vs with
  | zero =>
    refine ⟨bs, s, vs, Prog.Runs.ret, h, ?_, rfl, fun _ _ => rfl, fun i h1 h2 => by omega⟩
    rw [← hq, Function.update_eq_self]
  | succ m ih =>
    obtain ⟨hmaps, hmem⟩ := h.mem_eq hp (List.getElem?_eq_getElem (show j < ws.length by omega))
    have rload := @runs_load arena s _ hmaps
    rw [hmem] at rload
    obtain ⟨bs₁, r₁, h₁, hc₁⟩ := h.write hq (show j < vs.length by omega) ws[j]
    have hp₁ : contents arena bs₁ p = some ws := by rw [hc₁, Function.update_of_ne hne, hp]
    have hq₁ : contents arena bs₁ q = some (vs.set j ws[j]) := by rw [hc₁, Function.update_self]
    obtain ⟨bs₂, s₂, us, r₂, h₂, hc₂, hlen, hlow, hmid⟩ := @ih bs₁ (vs.set j ws[j]) _ (j + 1) h₁ hp₁
      hq₁ (by omega) (by rw [List.length_set]; omega)
    refine ⟨bs₂, s₂, us, rload.bind (r₁.bind r₂), h₂, ?_, by rw [hlen, List.length_set], ?_, ?_⟩
    · rw [hc₂, hc₁, Function.update_idem]
    · intro i hi
      rw [hlow i (by omega), List.getElem?_set_ne (by omega)]
    · intro i h1 h2
      by_cases hij : i = j
      · rw [hij, hlow j (by omega), List.getElem?_set_self (by omega),
          List.getElem?_eq_getElem (show j < ws.length by omega)]
      · exact hmid i (by omega) (by omega)

theorem Holds.runs_memcpy {n : Nat} (h : Holds arena bs s) (hp : contents arena bs p = some ws)
    (hq : contents arena bs q = some vs) (hne : p ≠ q) (hws : n ≤ 8 * ws.length)
    (hvs : n ≤ 8 * vs.length) :
    ∃ bs' s' vs', Runs arena (memcpy q p n) s () s' ∧ Holds arena bs' s' ∧
      contents arena bs' = Function.update (contents arena bs) q (some vs') ∧
      vs'.length = vs.length ∧ SameBytes n ws vs' := by
  obtain ⟨bs₁, s₁, us, r₁, h₁, hc₁, hlen, -, hmid⟩ := @Holds.runs_copyWords arena bs p q ws vs s
    (n / 8) 0 h hp hq hne (by omega) (by omega)
  have hp₁ : contents arena bs₁ p = some ws := by rw [hc₁, Function.update_of_ne hne, hp]
  have hq₁ : contents arena bs₁ q = some us := by rw [hc₁, Function.update_self]
  have hwhole : ∀ k, k / 8 < n / 8 → us[k / 8]? = ws[k / 8]? := fun k hk =>
    hmid _ (Nat.zero_le _) (by omega)
  by_cases htail : n % 8 = 0
  · refine ⟨bs₁, s₁, us, r₁.bind ?_, h₁, hc₁, hlen, fun k hk => byteAt_eq (hwhole k (by omega))⟩
    rw [if_neg (not_not.2 htail)]
    exact Prog.Runs.ret
  · -- The last word keeps its high bytes.
    have hi : n / 8 < ws.length := by omega
    have hi' : n / 8 < us.length := by omega
    obtain ⟨hmaps, hmem⟩ := h₁.mem_eq hp₁ (List.getElem?_eq_getElem hi)
    obtain ⟨hmaps', hmem'⟩ := h₁.mem_eq hq₁ (List.getElem?_eq_getElem hi')
    have rload := @runs_load arena s₁ _ hmaps
    have rload' := @runs_load arena s₁ _ hmaps'
    rw [hmem] at rload
    rw [hmem'] at rload'
    obtain ⟨bs₂, r₂, h₂, hc₂⟩ := h₁.write hq₁ hi'
      (ws[n / 8] % 2 ^ (8 * (n % 8)) + us[n / 8] / 2 ^ (8 * (n % 8)) * 2 ^ (8 * (n % 8)))
    refine ⟨bs₂, _, _, r₁.bind ?_, h₂, by rw [hc₂, hc₁, Function.update_idem],
      by rw [List.length_set, hlen], fun k hk => ?_⟩
    · rw [if_pos htail]
      exact rload.bind (rload'.bind r₂)
    · by_cases hk8 : k / 8 < n / 8
      · refine byteAt_eq ?_
        rw [List.getElem?_set_ne (by omega), hwhole k hk8]
      · have hk8 : k / 8 = n / 8 := by omega
        rw [byteAt, byteAt, hk8, List.getD_eq_getElem?_getD, List.getElem?_set_self hi',
          List.getD_eq_getElem?_getD, List.getElem?_eq_getElem hi]
        exact joined_byte (by omega)

/-! ## Reallocation -/

theorem Holds.cut {s' : State} (h : Holds arena (xs ++ .used ws :: ys) s) (hk : 8 ∣ k)
    (hmin : blockSizeMin ≤ k) (h' : Stored arena (pool (cut xs ws k ys)) s') :
    Holds arena (cut xs ws k ys) s' := by
  have hmin : 24 ≤ k := hmin
  unfold Tlsf.cut at h' ⊢
  split
  · rename_i hle
    rw [if_pos hle] at h'
    obtain ⟨hxs, -, hys⟩ := coalesced_append.1 h.coalesced
    have hlen : 8 * (ws.take (k / 8)).length = k := by
      rw [List.length_take]
      omega
    have htotal := h.total
    rw [place_mid, Block.size] at htotal
    refine ⟨h', ?_, ?_, ?_⟩
    · rw [coalesced_append]
      refine ⟨hxs, by simp, by simp, ?_⟩
      rcases mergedNext_cases (8 * ws.length - k - 8) ys with ⟨m, zs, rfl, he⟩ | ⟨hy, he⟩
      · rw [he]
        exact hys.2
      · rw [he]
        exact coalesced_of_headFree hys hy
    · have hy : ∀ b ∈ ys, blockSizeMin ≤ b.size := fun b hb =>
        h.large b (List.mem_append_right _ (List.mem_cons_of_mem _ hb))
      intro b hb
      rcases List.mem_append.1 hb with hb | hb
      · exact h.large b (List.mem_append_left _ hb)
      rcases List.mem_cons.1 hb with rfl | hb
      · show 24 ≤ 8 * (ws.take (k / 8)).length
        omega
      rcases mergedNext_cases (8 * ws.length - k - 8) ys with ⟨m, zs, rfl, he⟩ | ⟨-, he⟩
      · rw [he] at hb
        rcases List.mem_cons.1 hb with rfl | hb
        · show 24 ≤ 8 * ws.length - k - 8 + m + 8
          omega
        · exact hy b (List.mem_cons_of_mem _ hb)
      · rw [he] at hb
        rcases List.mem_cons.1 hb with rfl | hb
        · show 24 ≤ 8 * ws.length - k - 8
          omega
        · exact hy b hb
    · rw [place_mid, Block.size, hlen, after_cons, ← htotal]
      rcases mergedNext_cases (8 * ws.length - k - 8) ys with ⟨m, zs, rfl, he⟩ | ⟨-, he⟩
      · rw [he, after_cons]
        simp only [Block.extent, Block.size, blockHeaderOverhead]
        congr 1
        omega
      · rw [he]
        simp only [Block.extent, Block.size, blockHeaderOverhead]
        congr 1
        omega
  · rename_i hle
    rw [if_neg hle] at h'
    exact ⟨h', h.coalesced, h.large, h.total⟩

/-- Trimming keeps the front of the contents. -/
theorem contents_cut (hk : 8 ∣ k) : ∃ vs, contents arena (cut xs ws k ys) =
    Function.update (contents arena (xs ++ .used ws :: ys)) (arena.place xs + 16) (some vs) ∧
      (k ≤ 8 * ws.length → k ≤ 8 * vs.length) ∧ vs <+: ws := by
  unfold cut
  split
  · rename_i hle
    refine ⟨ws.take (k / 8), ?_, ?_, List.take_prefix _ _⟩
    · have hlen : 8 * (ws.take (k / 8)).length = k := by
        rw [List.length_take]
        omega
      rw [contents_used, contents_used, Function.update_idem]
      congr 1
      funext p
      congr 1
      rw [hlen, contentsFrom]
      rcases mergedNext_cases (8 * ws.length - k - 8) ys with ⟨m, zs, rfl, he⟩ | ⟨-, he⟩
      · rw [he, contentsFrom]
        congr 1
        simp only
        omega
      · rw [he]
        congr 1
        simp only
        omega
    · rw [List.length_take]
      omega
  · refine ⟨ws, ?_, fun h => h, List.prefix_refl ws⟩
    have hp : contents arena (xs ++ .used ws :: ys) (arena.place xs + 16) = some ws :=
      contents_eq_some_iff.2 ⟨xs, ys, rfl, rfl⟩
    rw [← hp, Function.update_eq_self]

theorem Holds.grow {m : Nat} {s' : State} (h : Holds arena (xs ++ .used ws :: .free m :: ys) s)
    (hlen : 8 * vs.length = 8 * ws.length + m + 8)
    (h' : Stored arena (pool (xs ++ .used vs :: ys)) s') :
    Holds arena (xs ++ .used vs :: ys) s' ∧ contents arena (xs ++ .used vs :: ys) =
      Function.update (contents arena (xs ++ .used ws :: .free m :: ys)) (arena.place xs + 16)
        (some vs) := by
  obtain ⟨hxs, -, hys⟩ := coalesced_append.1 h.coalesced
  have hlarge : 24 ≤ 8 * ws.length := h.large (.used ws) (by simp)
  have htotal := h.total
  rw [place_mid, Block.size, after_cons] at htotal
  refine ⟨⟨h', ?_, ?_, ?_⟩, ?_⟩
  · rw [coalesced_append]
    refine ⟨hxs, by simp, ?_⟩
    have hys := hys.2
    cases ys with
    | nil => trivial
    | cons b ys => exact ⟨by simp, hys.2⟩
  · intro b hb
    rcases List.mem_append.1 hb with hb | hb
    · exact h.large b (List.mem_append_left _ hb)
    rcases List.mem_cons.1 hb with rfl | hb
    · show 24 ≤ 8 * vs.length
      omega
    · exact h.large b (List.mem_append_right _ (List.mem_cons_of_mem _ (List.mem_cons_of_mem _ hb)))
  · rw [place_mid, Block.size, ← htotal]
    simp only [Block.extent, Block.size, blockHeaderOverhead]
    congr 1
    omega
  · rw [contents_used, contents_used, Function.update_idem]
    congr 1
    funext p
    congr 1
    rw [contentsFrom]
    congr 1
    omega

/-- Moving a live block into a new one. -/
theorem Holds.move {size : Nat} (h : Holds arena bs s) (hp : contents arena bs p = some ws)
    (hle : min (8 * ws.length) size ≤ adjusted size 3) :
    Runs arena (moveBlock arena.control p size (8 * ws.length)) s 0 s ∨
    ∃ q vs bs' s', Runs arena (moveBlock arena.control p size (8 * ws.length)) s q s' ∧
      Holds arena bs' s' ∧ contents arena bs q = none ∧
      contents arena bs' = Function.update (Function.update (contents arena bs) p none) q (some vs) ∧
      adjusted size 3 ≤ 8 * vs.length ∧ SameBytes (min (8 * ws.length) size) ws vs := by
  rcases h.malloc size with r | ⟨q, us, bs₁, s₁, r, h₁, hq, hc₁, -, hlen⟩
  · refine .inl (r.bind ?_)
    rw [if_neg (by simp)]
    exact Prog.Runs.ret
  · have hne : p ≠ q := by
      rintro rfl
      rw [hp] at hq
      cases hq
    have hp₁ : contents arena bs₁ p = some ws := by rw [hc₁, Function.update_of_ne hne, hp]
    have hq₁ : contents arena bs₁ q = some us := by rw [hc₁, Function.update_self]
    have hq0 : q ≠ 0 := by
      have := (h₁.span hq₁).2.2.1
      omega
    obtain ⟨bs₂, s₂, vs, r₂, h₂, hc₂, hvs, hsame⟩ := h₁.runs_memcpy hp₁ hq₁ hne
      (Nat.min_le_left _ size) (by omega)
    have hp₂ : contents arena bs₂ p = some ws := by rw [hc₂, Function.update_of_ne hne, hp₁]
    obtain ⟨bs₃, s₃, r₃, h₃, hc₃⟩ := h₂.free hp₂
    refine .inr ⟨q, vs, bs₃, s₃, r.bind ?_, h₃, hq, ?_, by omega, hsame⟩
    · rw [if_pos hq0]
      exact r₂.bind (r₃.bind Prog.Runs.ret)
    · rw [hc₃, hc₂, hc₁, Function.update_idem, Function.update_comm hne]

theorem mergedNext_ending {n : Nat} {p : Bool} {d : Chunk} {rest : List Chunk}
    (h : ending p ys = d :: rest) :
    (mergedNext n ys).1 = if d.free then n + d.size + 8 else n := by
  match ys with
  | [] =>
    obtain rfl := (List.cons.inj h).1
    rfl
  | .free m :: zs =>
    obtain rfl := (List.cons.inj h).1
    rfl
  | .used ws :: zs =>
    obtain rfl := (List.cons.inj h).1
    rfl

/-- Reallocation moves a block when the free block behind it does not make enough room. -/
theorem Stored.runs_tlsfRealloc {size r : Nat} {s' : State}
    (h : Stored arena (pool (xs ++ .used ws :: ys)) s) (hpos : ws ≠ []) (hsize : size ≠ 0)
    (hr : Runs arena (if (mergedNext (8 * ws.length) ys).1 < adjusted size 3 then
      moveBlock arena.control (arena.place xs + 16) size (8 * ws.length)
    else do
      growBlock arena.control (arena.place xs) (adjusted size 3) (8 * ws.length)
      Tlsf.blockTrimUsed arena.control (arena.place xs) (adjusted size 3)
      return arena.place xs + 16) s r s') :
    Runs arena (tlsfRealloc arena.control (arena.place xs + 16) size) s r s' := by
  have haddr : arena.addr (chunks false xs) = arena.place xs := addr_chunks
  have hlen := List.length_pos_iff.2 hpos
  obtain ⟨d, rest, -, hd⟩ := ending_eq ys
  have hmerged := mergedNext_ending (n := 8 * ws.length) (hd false)
  simp only at hmerged
  rw [pool_append, Block.isFree, hd] at h
  obtain ⟨L, hrep⟩ := h
  have rnext := hrep.laid.runs_blockNext Arena.mid_mem_blocks (show 0 < 8 * ws.length by omega)
  have rsize := hrep.laid.runs_blockSize Arena.mid_mem_blocks
  have rfree := hrep.laid.runs_blockIsFree Arena.mid_mem_blocks
  have hnext : (arena.place xs + 8 * ws.length + 8, { d with prevFree := false }) ∈
      arena.blocks (chunks false xs ++ (Block.used ws).chunk (lastFree false xs) ::
        { d with prevFree := false } :: rest) := by
    rw [← haddr]
    exact Arena.next_mem_blocks
  have rnextSize := hrep.laid.runs_blockSize hnext
  have rnextFree := hrep.laid.runs_blockIsFree hnext
  have radjust := @runs_adjustRequestSize arena s size 3 (by decide)
  have hb : arena.place xs + 8 * ws.length + 8 + 16 + d.size ≤ arena.control + arena.bytes :=
    (hrep.laid.bounds hnext).2
  have hlt := arena.lt
  rw [haddr] at rnext rsize rfree
  have hadd : sizetAdd (8 * ws.length) d.size = 8 * ws.length + d.size := sizetAdd_eq (by omega)
  have hadd' : sizetAdd (8 * ws.length + d.size) 8 = 8 * ws.length + d.size + 8 :=
    sizetAdd_eq (by omega)
  have hblock : blockFromPtr (arena.place xs + 16) = arena.place xs := Nat.add_sub_cancel _ _
  have hiff : (adjusted size 3 > 8 * ws.length ∧ (!d.free ∨ adjusted size 3 >
      sizetAdd (sizetAdd (8 * ws.length) d.size) 8)) ↔
        (mergedNext (8 * ws.length) ys).1 < adjusted size 3 := by
    rw [hmerged, hadd, hadd']
    cases d.free <;> simp
    omega
  rw [tlsfRealloc, if_neg (fun hc => hsize hc.2), if_neg (by omega), hblock]
  refine rnext.bind (rsize.bind (rnextSize.bind (radjust.bind (rfree.bind ((runs_assert rfl).bind
    (rnextFree.bind ?_))))))
  show Runs arena (if adjusted size 3 > 8 * ws.length ∧ (!d.free ∨ adjusted size 3 >
    sizetAdd (sizetAdd (8 * ws.length) d.size) 8) then _ else _) s r s'
  by_cases hmove : (mergedNext (8 * ws.length) ys).1 < adjusted size 3
  · rw [if_pos hmove] at hr
    rw [if_pos (hiff.2 hmove)]
    exact hr
  · rw [if_neg hmove] at hr
    rw [if_neg (fun hc => hmove (hiff.1 hc))]
    exact hr

/-- Trimming a live block in place. -/
theorem Holds.trim (h : Holds arena (xs ++ .used ws :: ys) s) (hk : 8 ∣ k) (hmin : blockSizeMin ≤ k)
    (hmax : k < blockSizeMax) (hle : k ≤ 8 * ws.length) :
    ∃ vs bs' s', Runs arena (blockTrimUsed arena.control (arena.place xs) k) s () s' ∧
      Holds arena bs' s' ∧ contents arena bs' =
        Function.update (contents arena (xs ++ .used ws :: ys)) (arena.place xs + 16) (some vs) ∧
      k ≤ 8 * vs.length ∧ vs <+: ws := by
  have hmax : k < 2 ^ 32 := hmax
  obtain ⟨s', r, h', -⟩ := h.stored.blockTrimUsed hk (by omega)
  obtain ⟨vs, hc, hlen, hpre⟩ := @contents_cut arena xs ys k ws hk
  exact ⟨vs, _, s', r, h.cut hk hmin h', hc, hlen hle, hpre⟩

/-- Reallocation either leaves everything as it is, or moves the contents to a block that is large
enough. -/
theorem Holds.realloc {size : Nat} (h : Holds arena bs s) (hp : contents arena bs p = some ws)
    (hzero : adjusted size 3 ≠ 0) (hle : min (8 * ws.length) size ≤ adjusted size 3) :
    Runs arena (tlsfRealloc arena.control p size) s 0 s ∨
    ∃ q vs bs' s', Runs arena (tlsfRealloc arena.control p size) s q s' ∧ Holds arena bs' s' ∧
      (q = p ∨ contents arena bs q = none) ∧
      contents arena bs' = Function.update (Function.update (contents arena bs) p none) q (some vs) ∧
      adjusted size 3 ≤ 8 * vs.length ∧ SameBytes (min (8 * ws.length) size) ws vs := by
  have hsize : size ≠ 0 := by
    rintro rfl
    exact hzero rfl
  have hspec := adjusted_spec hzero
  have hdvd := @dvd_adjusted size 3 (by decide)
  obtain ⟨xs, ys, rfl, rfl⟩ := contents_eq_some_iff.1 hp
  have hlarge : 24 ≤ 8 * ws.length := h.large (.used ws) (by simp)
  have hws : ws ≠ [] := by
    rintro rfl
    simp at hlarge
  by_cases hmove : (mergedNext (8 * ws.length) ys).1 < adjusted size 3
  · have hrun : ∀ {q s'}, Runs arena (moveBlock arena.control (arena.place xs + 16) size
        (8 * ws.length)) s q s' →
        Runs arena (tlsfRealloc arena.control (arena.place xs + 16) size) s q s' := by
      intro q s' r
      refine h.stored.runs_tlsfRealloc hws hsize ?_
      rw [if_pos hmove]
      exact r
    rcases h.move hp hle with r | ⟨q, vs, bs', s', r, h', hq, hc, hlen, hsame⟩
    · exact .inl (hrun r)
    · exact .inr ⟨q, vs, bs', s', hrun r, h', .inr hq, hc, hlen, hsame⟩
  · -- The block is grown, if need be, and trimmed.
    obtain ⟨us, bs₁, s₁, r₁, h₁, hc₁, hus, hsame₁⟩ : ∃ us zs s₁,
        Runs arena (growBlock arena.control (arena.place xs) (adjusted size 3) (8 * ws.length)) s ()
          s₁ ∧ Holds arena (xs ++ .used us :: zs) s₁ ∧
        contents arena (xs ++ .used us :: zs) = Function.update
          (contents arena (xs ++ .used ws :: ys)) (arena.place xs + 16) (some us) ∧
        adjusted size 3 ≤ 8 * us.length ∧ SameBytes (min (8 * ws.length) size) ws us := by
      by_cases hgrow : adjusted size 3 > 8 * ws.length
      · rcases mergedNext_cases (8 * ws.length) ys with ⟨m, zs, rfl, he⟩ | ⟨-, he⟩
        · rw [he] at hmove
          obtain ⟨s₁, s₂, us, r₁, r₂, hpre, hlen, h₂⟩ := h.stored.grow hws
          obtain ⟨h₂, hc⟩ := h.grow hlen h₂
          refine ⟨us, zs, s₂, ?_, h₂, hc, by omega, sameBytes_of_extension hpre (Nat.min_le_left _ _)⟩
          rw [growBlock, if_pos hgrow]
          exact r₁.bind r₂
        · rw [he] at hmove
          exact absurd hgrow hmove
      · refine ⟨ws, ys, s, ?_, h, ?_, by omega, fun k hk => rfl⟩
        · rw [growBlock, if_neg hgrow]
          exact Prog.Runs.ret
        · rw [← hp, Function.update_eq_self]
    obtain ⟨vs, bs₂, s₂, r₂, h₂, hc₂, hvs, hpre⟩ := h₁.trim hdvd hspec.1 hspec.2 hus
    refine .inr ⟨_, vs, bs₂, s₂, ?_, h₂, .inl rfl, ?_, hvs,
      hsame₁.trans (sameBytes_of_front hpre (by omega))⟩
    · refine h.stored.runs_tlsfRealloc hws hsize ?_
      rw [if_neg hmove]
      exact r₁.bind (r₂.bind Prog.Runs.ret)
    · rw [hc₂, hc₁, Function.update_idem, Function.update_idem]

/-- The size in the header of a block. -/
theorem Stored.size_eq {b : Block} (h : Stored arena (pool (xs ++ b :: ys)) s) :
    clearBits (s.mem (arena.place xs + 8)) (blockHeaderFreeBit ||| blockHeaderPrevFreeBit) =
      b.size := by
  obtain ⟨L, hrep⟩ := h
  rw [pool_append] at hrep
  have hdvd := hrep.valid_mid.dvd
  have hheader := hrep.at_mid.header
  rw [addr_chunks] at hheader
  rw [hheader, Chunk.header, header_size hdvd, Block.size_chunk]

/-- The sizes that are adjusted to zero: rounding wraps behind them. -/
theorem adjusted_eq_zero_iff {size : Nat} (hsize : size < 2 ^ 64) :
    adjusted size 3 = 0 ↔ size = 0 ∨ 2 ^ 32 - 8 < size ∧ size ≤ 2 ^ 64 - 8 := by
  have hmax : blockSizeMax = 2 ^ 32 := by decide
  have hmin : blockSizeMin = 24 := by decide
  unfold adjusted
  rw [hmax, hmin]
  by_cases hzero : size = 0
  · simp [hzero]
  · rw [if_pos hzero]
    split <;> omega

/-- A request of a size that no list serves trims the block to nothing. -/
theorem Holds.reallocUnserved {size : Nat} (h : Holds arena (xs ++ .used ws :: ys) s)
    (hsize : 2 ^ 32 - 8 < size ∧ size ≤ 2 ^ 64 - 8) :
    ∃ s', Runs arena (tlsfRealloc arena.control (arena.place xs + 16) size) s
        (arena.place xs + 16) s' ∧
      Stored arena (pool (Tlsf.cut xs ws 0 ys)) s' ∧ (8 * ws.length < 32 → s' = s) := by
  have hzero : adjusted size 3 = 0 := (adjusted_eq_zero_iff (by omega)).2 (.inr hsize)
  have hlarge : 24 ≤ 8 * ws.length := h.large (.used ws) (by simp)
  have hws : ws ≠ [] := by
    rintro rfl
    simp at hlarge
  obtain ⟨s', r, h', hsame⟩ := h.stored.blockTrimUsed (Nat.dvd_zero 8) (show 0 < 2 ^ 63 by decide)
  refine ⟨s', Stored.runs_tlsfRealloc h.stored hws (by omega) ?_, h', fun hlt => hsame (by omega)⟩
  have hgrow : Runs arena (growBlock arena.control (arena.place xs) (adjusted size 3)
      (8 * ws.length)) s () s := by
    rw [growBlock, if_neg (by omega)]
    exact Prog.Runs.ret
  rw [if_neg (by omega)]
  rw [← hzero] at r
  exact hgrow.bind (r.bind Prog.Runs.ret)

/-- A request of a size that no list serves does not fail. It trims the block to nothing: a block
of at least 32 bytes loses its payload to a free block. -/
theorem realloc_unserved {size : Nat} (h : Holds arena (xs ++ .used ws :: ys) s)
    (hsize : 2 ^ 32 - 8 < size ∧ size ≤ 2 ^ 64 - 8) :
    ∃ s', Runs arena (tlsfRealloc arena.control (arena.place xs + 16) size) s
        (arena.place xs + 16) s' ∧
      (s' = s ↔ 8 * ws.length < 32) ∧
      (32 ≤ 8 * ws.length → ∃ m zs, 8 * ws.length - 8 ≤ m ∧
        Stored arena (pool (xs ++ .used [] :: .free m :: zs)) s') := by
  obtain ⟨s', hrun, h', hsame⟩ := h.reallocUnserved hsize
  refine ⟨s', hrun, ?_, fun hle => ?_⟩
  · constructor
    · rintro rfl
      by_contra hge
      rw [cut, if_pos (by omega)] at h'
      have h1 := h.stored.size_eq
      have h2 := h'.size_eq
      rw [h1] at h2
      simp only [Block.size, List.length_take] at h2
      omega
    · exact hsame
  · rw [cut, if_pos (by omega)] at h'
    refine ⟨_, _, ?_, h'⟩
    rcases mergedNext_cases (8 * ws.length - 0 - 8) ys with ⟨m, zs, -, he⟩ | ⟨-, he⟩ <;> rw [he] <;>
      simp only <;> omega

theorem realloc_unserved_page : ∃ ws ys s, Holds pageArena (.used ws :: ys) s ∧ 8 * ws.length = 48 ∧
    ∃ s', Runs pageArena (tlsfRealloc pageArena.control (pageArena.place [] + 16) (2 ^ 32)) s
        (pageArena.place [] + 16) s' ∧
      s' ≠ s ∧ ∃ m zs, 40 ≤ m ∧ Stored pageArena (pool (.used [] :: .free m :: zs)) s' := by
  obtain ⟨-, -, s, ws, ys, -, -, -, hlen, h⟩ := Holds.page_malloc
  obtain ⟨s', hrun, hsame, hlost⟩ := @realloc_unserved pageArena [] ys ws s (2 ^ 32) h (by decide)
  obtain ⟨m, zs, hm, h'⟩ := hlost (by omega)
  exact ⟨ws, ys, s, h, hlen, s', hrun, by rw [ne_eq, hsame]; omega, m, zs, by omega, h'⟩

end WinShell.Tlsf
