-- SUMMARY: Header words, size classes and bitmaps: what the bit operations of the allocator compute.
import WinShell.Tlsf.Allocator

/-!
# Words

A header word is a multiple of eight with the two flags in its low bits. The class of
a block is read off the leading bits of its size; `classKey` orders the classes as
`searchSuitableBlock` goes through them. A search starts in a class whose blocks are
all large enough, although it looks at no size.
-/

namespace WinShell.Tlsf

/-! ## Headers -/

def flags (free prevFree : Bool) : Nat :=
  (if free then blockHeaderFreeBit else 0) ||| if prevFree then blockHeaderPrevFreeBit else 0

section Flags

variable {size m w : Nat} {f p : Bool}

theorem flags_lt : flags f p < 4 := by
  cases f <;> cases p <;> decide

theorem and_of_dvd (h : 8 ∣ size) (hm : m < 8) : size &&& m = 0 := by
  obtain ⟨k, rfl⟩ := h
  apply Nat.eq_of_testBit_eq
  intro i
  rw [Nat.testBit_and, Nat.mul_comm, show 8 = 2 ^ 3 from rfl, Nat.testBit_mul_two_pow,
    Nat.zero_testBit]
  by_cases hi : 3 ≤ i
  · have hlt : m < 2 ^ i :=
      lt_of_lt_of_le hm (Nat.pow_le_pow_right (show 0 < 2 by decide) hi)
    rw [Nat.testBit_lt_two_pow hlt, Bool.and_false]
  · simp [hi]

theorem header_and (h : 8 ∣ size) (hm : m < 8) :
    (size ||| flags f p) &&& m = flags f p &&& m := by
  rw [Nat.and_or_distrib_right, and_of_dvd h hm, Nat.zero_or]

theorem header_eq_add (h : 8 ∣ size) : size ||| flags f p = size + flags f p := by
  obtain ⟨k, rfl⟩ := h
  exact (@Nat.two_pow_add_eq_or_of_lt 3 _ (lt_of_lt_of_le flags_lt (by decide)) k).symm

theorem header_and_free (h : 8 ∣ size) :
    (((size ||| flags f p) &&& blockHeaderFreeBit) != 0) = f := by
  rw [header_and h (by decide)]
  cases f <;> cases p <;> decide

theorem header_and_prevFree (h : 8 ∣ size) :
    (((size ||| flags f p) &&& blockHeaderPrevFreeBit) != 0) = p := by
  rw [header_and h (by decide)]
  cases f <;> cases p <;> decide

theorem header_size (h : 8 ∣ size) :
    clearBits (size ||| flags f p) (blockHeaderFreeBit ||| blockHeaderPrevFreeBit) = size := by
  have hf : flags f p &&& (blockHeaderFreeBit ||| blockHeaderPrevFreeBit) = flags f p := by
    cases f <;> cases p <;> decide
  rw [clearBits, header_and h (by decide), hf, header_eq_add h, Nat.add_sub_cancel]

theorem header_or_free : (size ||| flags f p) ||| blockHeaderFreeBit = size ||| flags true p := by
  have hf : flags f p ||| blockHeaderFreeBit = flags true p := by
    cases f <;> cases p <;> decide
  rw [Nat.or_assoc, hf]

theorem header_or_prevFree :
    (size ||| flags f p) ||| blockHeaderPrevFreeBit = size ||| flags f true := by
  have hf : flags f p ||| blockHeaderPrevFreeBit = flags f true := by
    cases f <;> cases p <;> decide
  rw [Nat.or_assoc, hf]

theorem header_clear_free (h : 8 ∣ size) :
    clearBits (size ||| flags f p) blockHeaderFreeBit = size ||| flags false p := by
  have hf : flags f p = flags false p + (flags f p &&& blockHeaderFreeBit) := by
    cases f <;> cases p <;> decide
  rw [clearBits, header_and h (by decide), header_eq_add h, header_eq_add h]
  omega

theorem header_clear_prevFree (h : 8 ∣ size) :
    clearBits (size ||| flags f p) blockHeaderPrevFreeBit = size ||| flags f false := by
  have hf : flags f p = flags f false + (flags f p &&& blockHeaderPrevFreeBit) := by
    cases f <;> cases p <;> decide
  rw [clearBits, header_and h (by decide), header_eq_add h, header_eq_add h]
  omega

/-- The flags that `blockSetSize` keeps, of a word that may be anything. -/
theorem and_flags :
    w &&& (blockHeaderFreeBit ||| blockHeaderPrevFreeBit) = flags (w.testBit 0) (w.testBit 1) := by
  have h3 : w &&& 3 = w % 4 := Nat.and_two_pow_sub_one_eq_mod w 2
  have h0 : w.testBit 0 = decide (w % 2 = 1) := Nat.testBit_zero w
  have h1 : w.testBit 1 = decide (w / 2 % 2 = 1) := by
    rw [Nat.testBit_eq_decide_div_mod_eq]
  rw [show blockHeaderFreeBit ||| blockHeaderPrevFreeBit = 3 from rfl, h3, h0, h1]
  have : w % 4 < 4 := Nat.mod_lt _ (by decide)
  rcases Nat.mod_two_eq_zero_or_one w with h | h <;>
    rcases Nat.mod_two_eq_zero_or_one (w / 2) with h' | h' <;>
    simp [h, h', flags] <;> omega

theorem header_and_flags (h : 8 ∣ size) :
    (size ||| flags f p) &&& (blockHeaderFreeBit ||| blockHeaderPrevFreeBit) = flags f p := by
  rw [header_and h (by decide)]
  cases f <;> cases p <;> decide

end Flags

/-! ## Alignment -/

section Align

variable {x : Nat}

theorem sizetSub_eq {a b : Nat} (ha : a < 2 ^ 64) (hb : b ≤ a) : sizetSub a b = a - b := by
  unfold sizetSub
  omega

theorem sizetAdd_eq {a b : Nat} (h : a + b < 2 ^ 64) : sizetAdd a b = a + b :=
  Nat.mod_eq_of_lt h

theorem and_two_pow_sub_one (k : Nat) : x &&& (2 ^ k - 1) = x % 2 ^ k :=
  Nat.and_two_pow_sub_one_eq_mod x k

theorem isPowerOfTwo_two_pow {k : Nat} (hk : k < 64) : isPowerOfTwo (2 ^ k) := by
  have hlt : 2 ^ k < 2 ^ 64 := Nat.pow_lt_pow_right (by decide) hk
  have hpos : 0 < 2 ^ k := Nat.two_pow_pos k
  rw [isPowerOfTwo, sizetSub_eq hlt (by omega), and_two_pow_sub_one, Nat.mod_self]
  rfl

/-- Rounding up to a multiple of `2 ^ k`, with the wrap of `size_t`. -/
theorem clearBits_up {k : Nat} (hk : k < 64) :
    clearBits (sizetAdd x (sizetSub (2 ^ k) 1)) (sizetSub (2 ^ k) 1) =
      (x + (2 ^ k - 1)) % 2 ^ 64 / 2 ^ k * 2 ^ k := by
  have hlt : 2 ^ k < 2 ^ 64 := Nat.pow_lt_pow_right (by decide) hk
  have hpos : 0 < 2 ^ k := Nat.two_pow_pos k
  rw [sizetSub_eq hlt (by omega), clearBits, and_two_pow_sub_one, sizetAdd]
  have := Nat.div_add_mod ((x + (2 ^ k - 1)) % 2 ^ 64) (2 ^ k)
  rw [Nat.mul_comm] at this
  omega

end Align

/-! ## Classes -/

def classKey (c : Nat × Nat) : Nat := slIndexCount * c.1 + c.2

section Classes

variable {n k : Nat}

theorem tlsfFlsSizet_eq (hn : n ≠ 0) : tlsfFlsSizet n = Nat.log2 n := by
  by_cases h : n < 2 ^ 32
  · have hs : n >>> 32 = 0 := by
      rw [Nat.shiftRight_eq_div_pow]
      exact Nat.div_eq_of_lt h
    have hm : n &&& 0xffffffff = n := by
      rw [show (0xffffffff : Nat) = 2 ^ 32 - 1 from rfl, and_two_pow_sub_one]
      exact Nat.mod_eq_of_lt h
    simp [tlsfFlsSizet, hs, hm, tlsfFls, hn]
  · have hs : n >>> 32 ≠ 0 := by
      rw [Nat.shiftRight_eq_div_pow]
      omega
    have hlog : Nat.log2 n = 32 + Nat.log2 (n >>> 32) := by
      rw [Nat.log2_eq_iff hn, Nat.add_assoc, Nat.pow_add, Nat.pow_add]
      have hle := Nat.log2_self_le hs
      have hlt := @Nat.lt_log2_self (n >>> 32)
      rw [Nat.shiftRight_eq_div_pow] at hle hlt ⊢
      generalize 2 ^ (Nat.log2 (n / 2 ^ 32)) = x at *
      generalize 2 ^ (Nat.log2 (n / 2 ^ 32) + 1) = y at *
      omega
    simp [tlsfFlsSizet, hs, tlsfFls, hlog]

/-- A size of at least `smallBlockSize`, by its leading bits: `x` is the power of two
below it, and each class of its first level spans `y`. -/
theorem mappingInsert_large (hn : 256 ≤ n) :
    ∃ f, 8 ≤ f ∧ 2 ^ f ≤ n ∧ n < 2 ^ (f + 1) ∧
      mappingInsert n = (f - 7, n / 2 ^ (f - 5) - 32) := by
  have hne : n ≠ 0 := by omega
  have hle := Nat.log2_self_le hne
  have hlt := @Nat.lt_log2_self n
  have h8 : 8 ≤ n.log2 := (Nat.le_log2 hne).2 hn
  refine ⟨n.log2, h8, hle, hlt, ?_⟩
  have hpow : 2 ^ n.log2 = 32 * 2 ^ (n.log2 - 5) := by
    rw [show 32 = 2 ^ 5 from rfl, ← Nat.pow_add, Nat.add_sub_cancel' (by omega)]
  rw [Nat.pow_succ, hpow] at hlt
  rw [hpow] at hle
  have hpos : 0 < 2 ^ (n.log2 - 5) := Nat.two_pow_pos _
  have hq : 32 ≤ n / 2 ^ (n.log2 - 5) := (Nat.le_div_iff_mul_le hpos).2 hle
  have hq' : n / 2 ^ (n.log2 - 5) < 64 := by
    rw [Nat.div_lt_iff_lt_mul hpos]
    omega
  have hxor : n / 2 ^ (n.log2 - 5) ^^^ 32 = n / 2 ^ (n.log2 - 5) - 32 := by
    generalize n / 2 ^ (n.log2 - 5) = q at *
    have : ∀ q < 64, 32 ≤ q → q ^^^ 32 = q - 32 := by decide
    exact this q hq' hq
  have hsmall : ¬n < smallBlockSize := Nat.not_lt.2 hn
  rw [mappingInsert, if_neg hsmall, tlsfFlsSizet_eq hne]
  simp only [Int.toNat_natCast, Nat.shiftRight_eq_div_pow]
  exact Prod.ext rfl hxor

theorem mappingInsert_small (hn : n < 256) : mappingInsert n = (0, n / 8) := by
  have hsmall : n < smallBlockSize := hn
  rw [mappingInsert, if_pos hsmall]
  rfl

/-- The least size in a class. -/
def classLow (c : Nat × Nat) : Nat :=
  if c.1 = 0 then 8 * c.2 else (32 + c.2) * 2 ^ (c.1 + 2)

theorem two_pow_eq_mul {f : Nat} (h : 5 ≤ f) : 2 ^ f = 32 * 2 ^ (f - 5) := by
  rw [show 32 = 2 ^ 5 from rfl, ← Nat.pow_add, Nat.add_sub_cancel' h]

/-- The leading bits of a size. -/
theorem leading_bits {f : Nat} (hf : 8 ≤ f) (hle : 2 ^ f ≤ n) (hlt : n < 2 ^ (f + 1)) :
    32 ≤ n / 2 ^ (f - 5) ∧ n / 2 ^ (f - 5) < 64 := by
  have hpos : 0 < 2 ^ (f - 5) := Nat.two_pow_pos _
  have hpow := two_pow_eq_mul (show 5 ≤ f by omega)
  rw [Nat.pow_succ, hpow] at hlt
  rw [hpow] at hle
  refine ⟨(Nat.le_div_iff_mul_le hpos).2 hle, ?_⟩
  rw [Nat.div_lt_iff_lt_mul hpos]
  omega

theorem mappingInsert_snd_lt : (mappingInsert n).2 < slIndexCount := by
  show (mappingInsert n).2 < 32
  by_cases hn : n < 256
  · rw [mappingInsert_small hn]
    omega
  · obtain ⟨f, hf, hle, hlt, he⟩ := mappingInsert_large (Nat.not_lt.1 hn)
    have := leading_bits hf hle hlt
    rw [he]
    simp only
    omega

theorem mappingInsert_fst_lt (h : n < blockSizeMax) : (mappingInsert n).1 < flIndexCount := by
  show (mappingInsert n).1 < 25
  by_cases hn : n < 256
  · rw [mappingInsert_small hn]
    exact Nat.zero_lt_succ 24
  · obtain ⟨f, hf, hle, hlt, he⟩ := mappingInsert_large (Nat.not_lt.1 hn)
    have hlt32 : f < 32 := by
      by_contra hge
      have := Nat.pow_le_pow_right (show 0 < 2 by decide) (Nat.not_lt.1 hge)
      have : n < 2 ^ 32 := h
      omega
    rw [he]
    simp only
    omega

/-- A class is at or below the class of `n` exactly when its blocks can be as small
as `n`. -/
theorem classLow_le_iff {c : Nat × Nat} (hc : c.2 < slIndexCount) :
    classLow c ≤ n ↔ classKey c ≤ classKey (mappingInsert n) := by
  obtain ⟨g, s⟩ := c
  have hs : s < 32 := hc
  show (if g = 0 then 8 * s else (32 + s) * 2 ^ (g + 2)) ≤ n ↔
    32 * g + s ≤ 32 * (mappingInsert n).1 + (mappingInsert n).2
  by_cases hn : n < 256
  · rw [mappingInsert_small hn]
    by_cases hg : g = 0
    · rw [if_pos hg]
      omega
    · have h8 : 2 ^ 3 ≤ 2 ^ (g + 2) := Nat.pow_le_pow_right (by decide) (by omega)
      have hmul : 32 * 2 ^ 3 ≤ (32 + s) * 2 ^ (g + 2) := Nat.mul_le_mul (by omega) h8
      rw [if_neg hg]
      omega
  · obtain ⟨f, hf, hle, hlt, he⟩ := mappingInsert_large (Nat.not_lt.1 hn)
    have hq := leading_bits hf hle hlt
    have hpow := two_pow_eq_mul (show 5 ≤ f by omega)
    rw [he]
    by_cases hg : g = 0
    · rw [if_pos hg]
      omega
    rw [if_neg hg]
    rcases Nat.lt_trichotomy g (f - 7) with hlt' | heq | hgt
    · -- A lower first level: its blocks are below `2 ^ f`.
      have h1 : (32 + s) * 2 ^ (g + 2) ≤ 64 * 2 ^ (g + 2) := Nat.mul_le_mul_right _ (by omega)
      have h2 : 64 * 2 ^ (g + 2) ≤ 2 ^ f := by
        rw [show 64 = 2 ^ 6 from rfl, ← Nat.pow_add]
        exact Nat.pow_le_pow_right (by decide) (by omega)
      omega
    · rw [heq, show f - 7 + 2 = f - 5 by omega, ← Nat.le_div_iff_mul_le (Nat.two_pow_pos _)]
      omega
    · -- A higher first level: its blocks are at least `2 ^ (f + 1)`.
      have h1 : 32 * 2 ^ (g + 2) ≤ (32 + s) * 2 ^ (g + 2) := Nat.mul_le_mul_right _ (by omega)
      have h2 : 2 ^ (f + 1) ≤ 32 * 2 ^ (g + 2) := by
        rw [show 32 = 2 ^ 5 from rfl, ← Nat.pow_add]
        exact Nat.pow_le_pow_right (by decide) (by omega)
      omega

theorem classLow_mappingInsert_le : classLow (mappingInsert n) ≤ n :=
  (classLow_le_iff mappingInsert_snd_lt).2 (Nat.le_refl _)

/-- What `mappingSearch` adds to a size. -/
def searchRound (size : Nat) : Nat :=
  if size < smallBlockSize then 0 else 2 ^ (Nat.log2 size - slIndexCountLog2) - 1

theorem mappingSearch_eq : mappingSearch n = mappingInsert (n + searchRound n) := by
  by_cases hn : n < smallBlockSize
  · rw [mappingSearch, if_neg (Nat.not_le.2 hn), searchRound, if_pos hn, Nat.add_zero]
  · have hne : n ≠ 0 := by
      have : ¬n < 256 := hn
      omega
    rw [mappingSearch, if_pos (Nat.not_lt.1 hn), searchRound, if_neg hn, tlsfFlsSizet_eq hne,
      Int.toNat_natCast, Nat.one_shiftLeft]

theorem mappingSearch_snd_lt : (mappingSearch n).2 < slIndexCount := by
  rw [mappingSearch_eq]
  exact mappingInsert_snd_lt

/-- Every block of the class where a search starts is large enough. -/
theorem le_classLow_mappingSearch (h : 8 ∣ k) : k ≤ classLow (mappingSearch k) := by
  rw [mappingSearch_eq]
  by_cases hk : k < smallBlockSize
  · have hk' : k < 256 := hk
    rw [searchRound, if_pos hk, Nat.add_zero, mappingInsert_small hk']
    simp only [classLow, if_true]
    omega
  · have hne : k ≠ 0 := by
      have : ¬k < 256 := hk
      omega
    have h256 : 256 ≤ k := Nat.not_lt.1 hk
    rw [searchRound, if_neg hk]
    simp only [slIndexCountLog2]
    have hle := Nat.log2_self_le hne
    have hlt := @Nat.lt_log2_self k
    have h8 : 8 ≤ k.log2 := (Nat.le_log2 hne).2 h256
    generalize k.log2 = f at *
    have hpos := Nat.two_pow_pos (f - 5)
    obtain ⟨g, hg, hgle, hglt, he⟩ :=
      mappingInsert_large (show 256 ≤ k + (2 ^ (f - 5) - 1) by omega)
    have hq := leading_bits hg hgle hglt
    rw [he]
    simp only [classLow]
    rw [if_neg (by omega), show g - 7 + 2 = g - 5 by omega, Nat.add_sub_cancel' hq.1]
    by_cases hgf : g = f
    · rw [hgf]
      have hsum := Nat.div_add_mod' (k + (2 ^ (f - 5) - 1)) (2 ^ (f - 5))
      have hmod := Nat.mod_lt (k + (2 ^ (f - 5) - 1)) hpos
      omega
    · -- Rounding up reached the next power of two.
      have hfg : f < g := by
        by_contra hge
        have : 2 ^ (g + 1) ≤ 2 ^ f := Nat.pow_le_pow_right (by decide) (by omega)
        omega
      have h1 : 2 ^ (f + 1) ≤ 2 ^ g := Nat.pow_le_pow_right (by decide) hfg
      have h2 := two_pow_eq_mul (show 5 ≤ g by omega)
      have h3 := Nat.mul_le_mul_right (2 ^ (g - 5)) hq.1
      omega

theorem le_of_mappingSearch (h : 8 ∣ k)
    (hkey : classKey (mappingSearch k) ≤ classKey (mappingInsert n)) : k ≤ n :=
  Nat.le_trans (le_classLow_mappingSearch h) ((classLow_le_iff mappingSearch_snd_lt).2 hkey)

end Classes

/-! ## Bitmaps -/

section Bitmaps

variable {map : BitVec 32} {i j : Nat}

theorem eq_zero_iff_getLsbD : map = 0#32 ↔ ∀ j < 32, map.getLsbD j = false := by
  constructor
  · rintro rfl j -
    exact BitVec.getLsbD_zero
  · intro h
    refine BitVec.eq_of_getLsbD_eq fun j hj => ?_
    rw [h j hj, BitVec.getLsbD_zero]

theorem getLsbD_from (hj : j < 32) :
    (map &&& (BitVec.allOnes 32 <<< i)).getLsbD j = (map.getLsbD j && decide (i ≤ j)) := by
  rw [BitVec.getLsbD_and, BitVec.getLsbD_shiftLeft, BitVec.getLsbD_allOnes]
  by_cases hi : i ≤ j
  · simp [hj, hi, Nat.not_lt.2 hi, show j - i < 32 by omega]
  · simp [hi, Nat.lt_of_not_le hi]

theorem getLsbD_bit (hi : i < 32) : (1#32 <<< i).getLsbD j = decide (i = j) := by
  rw [← BitVec.twoPow_eq, BitVec.getLsbD_twoPow]
  simp [hi]

theorem getLsbD_set (hi : i < 32) :
    (map ||| (1#32 <<< i)).getLsbD j = (map.getLsbD j || decide (i = j)) := by
  rw [BitVec.getLsbD_or, getLsbD_bit hi]

theorem getLsbD_clear (hi : i < 32) (hj : j < 32) :
    (map &&& ~~~(1#32 <<< i)).getLsbD j = (map.getLsbD j && !decide (i = j)) := by
  rw [BitVec.getLsbD_and, BitVec.getLsbD_not, getLsbD_bit hi]
  simp [hj]

/-- `tlsfFfs` finds the lowest bit. -/
theorem tlsfFfs_spec (h : map ≠ 0#32) :
    (tlsfFfs map).toNat < 32 ∧ map.getLsbD (tlsfFfs map).toNat = true ∧
      ∀ j < (tlsfFfs map).toNat, map.getLsbD j = false := by
  have hffs : (tlsfFfs map).toNat = map.ctz.toNat := by
    rw [tlsfFfs, if_neg h, Int.toNat_natCast]
  have hbit := BitVec.getLsbD_true_ctz_of_ne_zero h
  rw [hffs]
  exact ⟨BitVec.lt_of_getLsbD hbit, hbit, fun j hj => BitVec.getLsbD_false_of_lt_ctz hj⟩

end Bitmaps

end WinShell.Tlsf
