-- SUMMARY: The compressed numbers of the exception tables, and that reading one inverts its encoding.
import WinShell.Store.Bytes

/-!
# Compressed numbers

The tables of `__CxxFrameHandler4` hold numbers of one to five bytes. The low bits of
the first byte tell the length. `read_unsigned` loads the four bytes that end with the
number and shifts out what is not part of it, so it may load bytes in front of the
number; they have no influence on the result.
-/

namespace WinShell.Exceptions

open Store

/-! ## Reading -/

/-- `read_int`, as the bits of a `uint32_t`. -/
def readInt : Reader Nat := fun mem p => (load mem p 4, p + 4)

def lengths : List Nat := [1, 2, 1, 3, 1, 2, 1, 4, 1, 2, 1, 3, 1, 2, 1, 5]

def shifts : List Nat :=
  [0x19, 0x12, 0x19, 0x0b, 0x19, 0x12, 0x19, 0x04,
   0x19, 0x12, 0x19, 0x0b, 0x19, 0x12, 0x19, 0x00]

def readUnsigned : Reader Nat := fun mem p =>
  let encType := (mem p).toNat &&& 0xf
  let length := lengths.getD encType 0
  let result := load mem (p + length - 4) 4
  (result >>> shifts.getD encType 0, p + length)

def readRva : Reader Nat := readInt

def readByte : Reader (BitVec 8) := fun mem p => (mem p, p + 1)

/-! ## The format -/

/-- The bytes of a number: `length` of them, the lowest `length - 1` bits set and the next one
clear; or a byte of ones and the number. -/
def encodeUnsigned (v : Nat) : List (BitVec 8) :=
  if v < 2 ^ 7 then bytesOf (v * 2 ^ 1) 1
  else if v < 2 ^ 14 then bytesOf (v * 2 ^ 2 + 1) 2
  else if v < 2 ^ 21 then bytesOf (v * 2 ^ 3 + 3) 3
  else if v < 2 ^ 28 then bytesOf (v * 2 ^ 4 + 7) 4
  else 0x0f#8 :: bytesOf v 4

def encodeInt (v : Nat) : List (BitVec 8) := bytesOf v 4

/-! ## Round trips -/

section RoundTrip

variable {mem mem' : Memory} {p v n k : Nat}

theorem decodes_readInt (hv : v < 2 ^ 32) : Reader.Decodes mem readInt (encodeInt v) v := by
  intro p _ h
  rw [readInt, load_of_lies h, Nat.mod_eq_of_lt (show v < 256 ^ 4 from hv), encodeInt, length_bytesOf]

theorem decodes_readByte {x : BitVec 8} : Reader.Decodes mem readByte [x] x := by
  intro p _ h
  rw [readByte, h.1]
  rfl

/-- The number that ends a load of four bytes. -/
theorem load_shift (hn : n ≤ 4) (hp : 3 ≤ p) (hpos : 0 < n) :
    load mem (p + n - 4) 4 >>> (32 - 7 * n) = load mem p n / 2 ^ n := by
  have haddr : p + n - 4 + (4 - n) = p := by omega
  have hload : load mem (p + n - 4) 4 =
      load mem (p + n - 4) (4 - n) + 256 ^ (4 - n) * load mem p n := by
    have h := @load_add mem (p + n - 4) (4 - n) n
    rw [haddr, Nat.sub_add_cancel hn] at h
    exact h
  have hpow : 2 ^ (32 - 7 * n) = 256 ^ (4 - n) * 2 ^ n := by
    rw [show 256 = 2 ^ 8 from rfl, ← Nat.pow_mul, ← Nat.pow_add]
    congr 1
    omega
  rw [Nat.shiftRight_eq_div_pow, hload, hpow, ← Nat.div_div_eq_div_mul,
    Nat.add_mul_div_left _ _ (Nat.pow_pos (by decide)), Nat.div_eq_of_lt load_lt, Nat.zero_add]

/-- What the tables say of a first byte whose lowest set bits are `n - 1`. -/
theorem tables_spec : ∀ k < 16, ∀ n ≤ 4, 0 < n → k % 2 ^ n = 2 ^ (n - 1) - 1 →
    lengths.getD k 0 = n ∧ shifts.getD k 0 = 32 - 7 * n := by decide

theorem firstByte (h : Lies mem p (bytesOf v n)) (hpos : 0 < n) :
    (mem p).toNat &&& 0xf = v % 16 := by
  cases n with
  | zero => cases hpos
  | succ n =>
    rw [h.1, BitVec.toNat_ofNat, show (0xf : Nat) = 2 ^ 4 - 1 from rfl, Nat.and_two_pow_sub_one_eq_mod]
    omega

/-- A number of at most four bytes. -/
theorem readUnsigned_short (hn : n ≤ 4) (hpos : 0 < n) (hp : 3 ≤ p)
    (h : Lies mem p (bytesOf (v * 2 ^ n + (2 ^ (n - 1) - 1)) n)) (hv : v < 2 ^ (7 * n)) :
    readUnsigned mem p = (v, p + n) := by
  have hload := load_of_lies h
  have hlow : 2 ^ (n - 1) - 1 < 2 ^ n := by
    have hlt := Nat.pow_lt_pow_right (show 1 < 2 by decide) (show n - 1 < n by omega)
    have hone := Nat.two_pow_pos (n - 1)
    omega
  have hlt : v * 2 ^ n + (2 ^ (n - 1) - 1) < 256 ^ n := by
    have hsplit : 256 ^ n = 2 ^ (7 * n) * 2 ^ n := by
      rw [show 256 = 2 ^ 8 from rfl, ← Nat.pow_mul, ← Nat.pow_add]
      congr 1
      omega
    calc v * 2 ^ n + (2 ^ (n - 1) - 1) < v * 2 ^ n + 2 ^ n := by omega
      _ = (v + 1) * 2 ^ n := by rw [Nat.add_mul, Nat.one_mul]
      _ ≤ 2 ^ (7 * n) * 2 ^ n := Nat.mul_le_mul_right _ hv
      _ = 256 ^ n := hsplit.symm
  rw [Nat.mod_eq_of_lt hlt] at hload
  have htag := firstByte h hpos
  obtain ⟨hlen, hshift⟩ := tables_spec ((v * 2 ^ n + (2 ^ (n - 1) - 1)) % 16)
    (Nat.mod_lt _ (by decide)) n hn hpos (by
      rw [Nat.mod_mod_of_dvd _ (Nat.pow_dvd_pow 2 hn), Nat.mul_add_mod', Nat.mod_eq_of_lt hlow])
  rw [readUnsigned, htag, hlen, hshift, load_shift hn hp hpos, hload, Nat.add_comm,
    Nat.add_mul_div_right _ _ (Nat.two_pow_pos n), Nat.div_eq_of_lt hlow, Nat.zero_add]

/-- Reading inverts the encoding of every number of 32 bits, wherever it lies. -/
theorem decodes_readUnsigned (hv : v < 2 ^ 32) :
    Reader.Decodes mem readUnsigned (encodeUnsigned v) v := by
  intro p hp h
  unfold encodeUnsigned at h ⊢
  split at h
  · rename_i hlt
    rw [if_pos hlt]
    exact readUnsigned_short (n := 1) (by decide) (by decide) hp h hlt
  rename_i h7
  rw [if_neg h7]
  split at h
  · rename_i hlt
    rw [if_pos hlt]
    exact readUnsigned_short (n := 2) (by decide) (by decide) hp h hlt
  rename_i h14
  rw [if_neg h14]
  split at h
  · rename_i hlt
    rw [if_pos hlt]
    exact readUnsigned_short (n := 3) (by decide) (by decide) hp h hlt
  rename_i h21
  rw [if_neg h21]
  split at h
  · rename_i hlt
    rw [if_pos hlt]
    exact readUnsigned_short (n := 4) (by decide) (by decide) hp h hlt
  · rename_i h28
    rw [if_neg h28]
    have hload := load_of_lies h.2
    rw [Nat.mod_eq_of_lt (show v < 256 ^ 4 from hv)] at hload
    rw [readUnsigned, h.1]
    show (load mem (p + 5 - 4) 4 >>> 0, p + 5) = _
    rw [show p + 5 - 4 = p + 1 by omega, hload]
    rfl

/-- Only the bytes of the number itself have an influence on what is read. -/
theorem readUnsigned_congr (hp : 3 ≤ p)
    (h : ∀ i < lengths.getD ((mem p).toNat &&& 0xf) 0, mem' (p + i) = mem (p + i)) :
    readUnsigned mem' p = readUnsigned mem p := by
  have hk : (mem p).toNat &&& 0xf < 16 := Nat.lt_of_le_of_lt Nat.and_le_right (by decide)
  have htable : ∀ k < 16, 0 < lengths.getD k 0 ∧ (lengths.getD k 0 ≤ 4 ∧
      shifts.getD k 0 = 32 - 7 * lengths.getD k 0 ∨ lengths.getD k 0 = 5 ∧ shifts.getD k 0 = 0) := by
    decide
  obtain ⟨hpos, hcases⟩ := htable _ hk
  have hfirst : mem' p = mem p := h 0 hpos
  rw [readUnsigned, readUnsigned, hfirst]
  generalize lengths.getD ((mem p).toNat &&& 0xf) 0 = n at *
  rcases hcases with ⟨hn, hshift⟩ | ⟨rfl, -⟩
  · rw [hshift, load_shift hn hp hpos, load_shift hn hp hpos, load_congr h]
  · have hload : load mem' (p + 5 - 4) 4 = load mem (p + 5 - 4) 4 := by
      refine load_congr fun i hi => ?_
      rw [show p + 5 - 4 + i = p + (i + 1) by omega]
      exact h (i + 1) (by omega)
    rw [hload]

theorem readUnsigned_congr_twoBytes :
    readUnsigned (fun a => if a < 16 then 255 else Memory.holding 16 [1, 2] a) 16 =
      readUnsigned (.holding 16 [1, 2]) 16 :=
  readUnsigned_congr (by decide) (by decide)

end RoundTrip

end WinShell.Exceptions
