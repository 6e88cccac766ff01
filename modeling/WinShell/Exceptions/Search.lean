-- SUMMARY: The function table of the image, and that the search in it finds the function of an address.
import WinShell.Exceptions.Tables
import WinShell.Store.Bisect

/-!
# The function table

`frame_walk_pdata` takes the table of functions from the image's header.
`find_function_entry` bisects the table, which the linker has sorted.
-/

namespace WinShell.Exceptions

open Store

structure RuntimeFunction where
  beginRva : Nat
  endRva : Nat
  unwindStruct : Nat
deriving DecidableEq, Inhabited

def sizeOfRuntimeFunction : Nat := 12

def readRuntimeFunction (mem : Memory) (a : Nat) : RuntimeFunction :=
  ⟨load mem a 4, load mem (a + 4) 4, load mem (a + 8) 4⟩

/-- `frame_walk_pdata`. -/
structure Pdata where
  imageBase : Nat
  functions : Nat
  functionCount : Nat
  imageSize : Nat
deriving DecidableEq

def sizeOfNtHeaders : Nat := 264

/-- The constructor of `frame_walk_pdata`, with the offsets of the 64-bit header. -/
def Pdata.ofImage (mem : Memory) (imageBase : Nat) : Except BugCheckReason Pdata :=
  let lfanew := int32 (load mem (imageBase + 60) 4)
  let ntHeader := (imageBase + lfanew).toNat
  let sizeOfImage := load mem (ntHeader + 80) 4
  let sizeOfHeaders := load mem (ntHeader + 84) 4
  let directory := load mem (ntHeader + 160) 4
  let directorySize := load mem (ntHeader + 164) 4
  if load mem imageBase 2 = 0x5a4d ∧ load mem ntHeader 4 = 0x4550 ∧
      load mem (ntHeader + 4) 2 = 0x8664 ∧ load mem (ntHeader + 24) 2 = 0x20b ∧
      (lfanew + sizeOfNtHeaders) % 2 ^ 64 ≤ sizeOfHeaders ∧ sizeOfHeaders ≤ sizeOfImage ∧
      4 ≤ load mem (ntHeader + 132) 4 ∧ directorySize % sizeOfRuntimeFunction = 0 then
    .ok ⟨imageBase, imageBase + directory, directorySize / sizeOfRuntimeFunction, sizeOfImage⟩
  else .error .corruptedPeHeader

def Pdata.containsAddress (pdata : Pdata) (addr : Nat) : Bool :=
  pdata.imageBase ≤ addr ∧ addr - pdata.imageBase < pdata.imageSize

/-- Where an offset lies with respect to a function. -/
def RuntimeFunction.compare (pcRva : Nat) (fn : RuntimeFunction) : Ordering :=
  if pcRva < fn.beginRva then .lt else if fn.endRva ≤ pcRva then .gt else .eq

/-- `find_function_entry`: the address of the entry. -/
def Pdata.findFunctionEntry (mem : Memory) (pdata : Pdata) (addr : Nat) :
    Except BugCheckReason (Option Nat) :=
  if ¬pdata.containsAddress addr then .error .noMatchingExceptionHandler
  else
    let pcRva := makeRva addr pdata.imageBase
    let entry idx := pdata.functions + sizeOfRuntimeFunction * idx
    .ok ((bisect (fun idx => (readRuntimeFunction mem (entry idx)).compare pcRva) 0
      pdata.functionCount).map entry)

/-! ## The table -/

def RuntimeFunction.encode (fn : RuntimeFunction) : List (BitVec 8) :=
  encodeInt fn.beginRva ++ (encodeInt fn.endRva ++ encodeInt fn.unwindStruct)

def RuntimeFunction.Covers (fn : RuntimeFunction) (pcRva : Nat) : Prop :=
  fn.beginRva ≤ pcRva ∧ pcRva < fn.endRva

/-- The table that the linker makes: no function is empty, and none begins before the one in front of
it ends. -/
structure Pdata.Holds (mem : Memory) (pdata : Pdata) (fns : List RuntimeFunction) : Prop where
  count : pdata.functionCount = fns.length
  lies : Lies mem pdata.functions (fns.flatMap RuntimeFunction.encode)
  fits : ∀ fn ∈ fns, fn.beginRva < 2 ^ 32 ∧ fn.endRva < 2 ^ 32 ∧ fn.unwindStruct < 2 ^ 32
  nonempty : ∀ fn ∈ fns, fn.beginRva < fn.endRva
  sorted : fns.Pairwise fun f g => f.endRva ≤ g.beginRva

section

variable {mem : Memory} {pdata : Pdata} {fns : List RuntimeFunction} {fn : RuntimeFunction}
variable {i j addr a pcRva : Nat}

@[simp] theorem RuntimeFunction.length_encode : fn.encode.length = sizeOfRuntimeFunction := by
  simp [RuntimeFunction.encode, encodeInt, sizeOfRuntimeFunction]

theorem load_encodeInt {v : Nat} (hv : v < 2 ^ 32) (h : Lies mem a (encodeInt v)) :
    load mem a 4 = v := by
  rw [load_of_lies h]
  exact Nat.mod_eq_of_lt hv

theorem readRuntimeFunction_eq
    (hfits : fn.beginRva < 2 ^ 32 ∧ fn.endRva < 2 ^ 32 ∧ fn.unwindStruct < 2 ^ 32)
    (h : Lies mem a fn.encode) : readRuntimeFunction mem a = fn := by
  obtain ⟨hbegin, hrest⟩ := lies_append.1 h
  obtain ⟨hend, hunwind⟩ := lies_append.1 hrest
  rw [encodeInt, length_bytesOf] at hend hunwind
  rw [encodeInt, length_bytesOf, Nat.add_assoc] at hunwind
  rw [readRuntimeFunction, load_encodeInt hfits.1 hbegin, load_encodeInt hfits.2.1 hend,
    load_encodeInt hfits.2.2 hunwind]

theorem lies_entry (h : Lies mem a (fns.flatMap RuntimeFunction.encode)) (hfn : fns[i]? = some fn) :
    Lies mem (a + sizeOfRuntimeFunction * i) fn.encode := by
  induction fns generalizing a i with
  | nil => cases hfn
  | cons g fns ih =>
    obtain ⟨hfirst, hrest⟩ := lies_append.1 (List.flatMap_cons ▸ h)
    cases i with
    | zero =>
      obtain rfl := Option.some.inj hfn
      exact hfirst
    | succ i =>
      rw [RuntimeFunction.length_encode] at hrest
      rw [Nat.mul_succ, Nat.add_comm (sizeOfRuntimeFunction * i), ← Nat.add_assoc]
      exact ih hrest hfn

theorem Pdata.Holds.entry (h : pdata.Holds mem fns) (hfn : fns[i]? = some fn) :
    readRuntimeFunction mem (pdata.functions + sizeOfRuntimeFunction * i) = fn :=
  readRuntimeFunction_eq (h.fits fn (List.mem_of_getElem? hfn)) (lies_entry h.lies hfn)

theorem RuntimeFunction.compare_eq_iff : fn.compare pcRva = .eq ↔ fn.Covers pcRva := by
  unfold RuntimeFunction.compare RuntimeFunction.Covers
  split_ifs <;> simp <;> omega

theorem Pdata.Holds.endRva_le (h : pdata.Holds mem fns) (hij : i < j) (hi : i < fns.length)
    (hj : j < fns.length) : fns[i].endRva ≤ fns[j].beginRva :=
  List.pairwise_iff_getElem.1 h.sorted i j hi hj hij

theorem Pdata.Holds.monotone (h : pdata.Holds mem fns) (pcRva : Nat) :
    Monotone (fun idx => (readRuntimeFunction mem
      (pdata.functions + sizeOfRuntimeFunction * idx)).compare pcRva) 0 fns.length where
  lt i j _ hij hj hcompare := by
    have hi := Nat.lt_trans hij hj
    have hsorted := h.endRva_le hij hi hj
    have hnonempty := h.nonempty _ (List.getElem_mem hi)
    rw [h.entry (List.getElem?_eq_getElem hi)] at hcompare
    rw [h.entry (List.getElem?_eq_getElem hj)]
    unfold RuntimeFunction.compare at hcompare ⊢
    split_ifs at hcompare
    rw [if_pos (by omega)]
  gt i j _ hij hj hcompare := by
    have hi := Nat.lt_trans hij hj
    have hsorted := h.endRva_le hij hi hj
    have hnonempty := h.nonempty _ (List.getElem_mem hi)
    have hnonempty' := h.nonempty _ (List.getElem_mem hj)
    rw [h.entry (List.getElem?_eq_getElem hj)] at hcompare
    rw [h.entry (List.getElem?_eq_getElem hi)]
    unfold RuntimeFunction.compare at hcompare ⊢
    split_ifs at hcompare
    rw [if_neg (by omega), if_pos (by omega)]

/-- At most one function of the table covers an offset. -/
theorem Pdata.Holds.covers_unique (h : pdata.Holds mem fns) (hi : i < fns.length)
    (hj : j < fns.length) (hci : fns[i].Covers pcRva) (hcj : fns[j].Covers pcRva) : i = j := by
  unfold RuntimeFunction.Covers at hci hcj
  rcases Nat.lt_trichotomy i j with hlt | heq | hgt
  · have := h.endRva_le hlt hi hj
    omega
  · exact heq
  · have := h.endRva_le hgt hj hi
    omega

theorem Pdata.Holds.findFunctionEntry_eq (h : pdata.Holds mem fns)
    (hcontains : pdata.containsAddress addr = true) :
    pdata.findFunctionEntry mem addr = .ok ((bisect (fun idx =>
        (readRuntimeFunction mem (pdata.functions + sizeOfRuntimeFunction * idx)).compare
          (makeRva addr pdata.imageBase)) 0 fns.length).map
        fun idx => pdata.functions + sizeOfRuntimeFunction * idx) := by
  rw [Pdata.findFunctionEntry, if_neg (by simp [hcontains]), h.count]

theorem Pdata.Holds.not_covers_of_bisect (h : pdata.Holds mem fns)
    (hbisect : bisect (fun idx => (readRuntimeFunction mem
      (pdata.functions + sizeOfRuntimeFunction * idx)).compare pcRva) 0 fns.length = none) :
    ∀ fn ∈ fns, ¬fn.Covers pcRva := by
  intro fn hfn hcovers
  obtain ⟨i, hi, rfl⟩ := List.mem_iff_getElem.1 hfn
  refine bisect_complete (h.monotone _) hbisect i (Nat.zero_le i) hi ?_
  rw [h.entry (List.getElem?_eq_getElem hi)]
  exact RuntimeFunction.compare_eq_iff.2 hcovers

theorem Pdata.Holds.covers_of_bisect {k : Nat} (h : pdata.Holds mem fns)
    (hbisect : bisect (fun idx => (readRuntimeFunction mem
      (pdata.functions + sizeOfRuntimeFunction * idx)).compare pcRva) 0 fns.length = some k) :
    ∃ hk : k < fns.length, fns[k].Covers pcRva := by
  obtain ⟨-, hk, heq⟩ := bisect_sound hbisect
  rw [h.entry (List.getElem?_eq_getElem hk)] at heq
  exact ⟨hk, RuntimeFunction.compare_eq_iff.1 heq⟩

/-- The entry of the function that covers an address is found. -/
theorem Pdata.Holds.findFunctionEntry_of_covers (h : pdata.Holds mem fns)
    (hcontains : pdata.containsAddress addr = true) (hfn : fns[i]? = some fn)
    (hcovers : fn.Covers (makeRva addr pdata.imageBase)) :
    pdata.findFunctionEntry mem addr =
      .ok (some (pdata.functions + sizeOfRuntimeFunction * i)) := by
  rw [h.findFunctionEntry_eq hcontains]
  obtain ⟨hi, rfl⟩ := List.getElem?_eq_some_iff.1 hfn
  cases hbisect : bisect (fun idx => (readRuntimeFunction mem
      (pdata.functions + sizeOfRuntimeFunction * idx)).compare (makeRva addr pdata.imageBase)) 0
      fns.length with
  | none => exact absurd hcovers (h.not_covers_of_bisect hbisect _ (List.getElem_mem hi))
  | some k =>
    obtain ⟨hk, hcovers'⟩ := h.covers_of_bisect hbisect
    obtain rfl := h.covers_unique hk hi hcovers' hcovers
    rfl

/-- An address of the image that a function covers is found there, any other address of the image is
not found, and an address outside the image ends the search for a handler. -/
theorem findFunctionEntry_iff (h : pdata.Holds mem fns) :
    (∀ i, pdata.findFunctionEntry mem addr =
        .ok (some (pdata.functions + sizeOfRuntimeFunction * i)) ↔
      pdata.containsAddress addr = true ∧
        ∃ fn, fns[i]? = some fn ∧ fn.Covers (makeRva addr pdata.imageBase)) ∧
    (pdata.findFunctionEntry mem addr = .ok none ↔
      pdata.containsAddress addr = true ∧ ∀ fn ∈ fns, ¬fn.Covers (makeRva addr pdata.imageBase)) ∧
    (pdata.findFunctionEntry mem addr = .error .noMatchingExceptionHandler ↔
      pdata.containsAddress addr = false) := by
  cases hcontains : pdata.containsAddress addr with
  | false =>
    have hresult : pdata.findFunctionEntry mem addr = .error .noMatchingExceptionHandler :=
      if_pos (by simp [hcontains])
    simp [hresult]
  | true =>
    have hresult := h.findFunctionEntry_eq hcontains
    cases hbisect : bisect (fun idx => (readRuntimeFunction mem
        (pdata.functions + sizeOfRuntimeFunction * idx)).compare (makeRva addr pdata.imageBase)) 0
        fns.length with
    | none =>
      rw [hbisect] at hresult
      have hnone := h.not_covers_of_bisect hbisect
      rw [hresult]
      refine ⟨fun i => ⟨fun heq => ?_, fun hex => ?_⟩, ⟨fun _ => ⟨rfl, hnone⟩, fun _ => rfl⟩, ?_⟩
      · cases heq
      · obtain ⟨-, fn, hfn, hcovers⟩ := hex
        exact absurd hcovers (hnone fn (List.mem_of_getElem? hfn))
      · simp
    | some k =>
      obtain ⟨hk, hcovers⟩ := h.covers_of_bisect hbisect
      rw [hbisect] at hresult
      refine ⟨fun i => ⟨fun heq => ?_, fun hex => ?_⟩, ⟨fun heq => ?_, fun hall => ?_⟩, ?_⟩
      · obtain rfl : k = i := by
          have hentry : pdata.functions + 12 * k = pdata.functions + 12 * i :=
            Option.some.inj (Except.ok.inj (hresult.symm.trans heq))
          omega
        exact ⟨rfl, fns[k], List.getElem?_eq_getElem hk, hcovers⟩
      · obtain ⟨-, fn, hfn, hcovers'⟩ := hex
        exact h.findFunctionEntry_of_covers hcontains hfn hcovers'
      · cases hresult.symm.trans heq
      · exact absurd hcovers (hall.2 _ (List.getElem_mem hk))
      · simp [hresult]

/-- An image with two functions, one behind the other. -/
def twoFunctions : List RuntimeFunction := [⟨32, 48, 100⟩, ⟨48, 60, 104⟩]

def twoFunctionsPdata : Pdata := ⟨16, 16, 2, 64⟩

theorem twoFunctions_hold :
    twoFunctionsPdata.Holds (.holding 16 (twoFunctions.flatMap RuntimeFunction.encode)) twoFunctions where
  count := rfl
  lies := lies_holding
  fits := by decide
  nonempty := by decide
  sorted := by decide

theorem findFunctionEntry_iff_twoFunctions :
    twoFunctionsPdata.findFunctionEntry (.holding 16 (twoFunctions.flatMap RuntimeFunction.encode)) 66 =
      .ok (some (16 + sizeOfRuntimeFunction * 1)) :=
  ((findFunctionEntry_iff twoFunctions_hold).1 1).2 ⟨rfl, ⟨48, 60, 104⟩, rfl, by decide, by decide⟩

end

end WinShell.Exceptions
