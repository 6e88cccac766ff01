-- SUMMARY: The function info of a C++ frame and its regions: what is read is what was encoded.
import WinShell.Exceptions.Graph

/-!
# Function info

The compiler describes a function by a header, whose flags tell which of its fields are
there, and by a region map that tells the state of the function at each address.
`load_exception_info` and `lookup_region` read them. A function in several segments has
a region map for each.
-/

namespace WinShell.Exceptions

open Store

/-! ## The header -/

structure ExcInfo where
  flags : BitVec 8
  bbtFlags : Nat
  unwindGraph : Nat
  tryBlocks : Nat
  regions : Nat
  primaryFramePtr : Nat
deriving DecidableEq, Inhabited

-- the members of `attributes`
def isCatchFunclet (flags : BitVec 8) : Bool := flags.getLsbD 0
def hasMultipleFunclets (flags : BitVec 8) : Bool := flags.getLsbD 1
def bbt (flags : BitVec 8) : Bool := flags.getLsbD 2
def hasUnwindMap (flags : BitVec 8) : Bool := flags.getLsbD 3
def hasTryBlockMap (flags : BitVec 8) : Bool := flags.getLsbD 4

/-- The loop over the funclet map. A segment that is not found has no states. -/
def findRegions (fnBegin : Nat) : Nat → Reader Nat
  | 0 => pure 0
  | count + 1 => do
    let fnRva ← readRva
    let regions ← readRva
    if fnRva = fnBegin then pure regions else findRegions fnBegin count

def readFuncletMap (fnBegin : Nat) : Reader Nat := do
  let count ← readUnsigned
  findRegions fnBegin count

def readRegions (imageBase fnBegin : Nat) (multiple : Bool) : Reader Nat :=
  if multiple then do
    let funcletMap ← readRva
    Reader.peek (imageBase + funcletMap) (readFuncletMap fnBegin)
  else readRva

/-- `load_exception_info`, for a segment of the function that begins at `fnBegin`. -/
def loadExceptionInfo (imageBase fnBegin : Nat) : Reader ExcInfo := do
  let flags ← readByte
  let bbtFlags ← Reader.optionally (bbt flags) readUnsigned
  let unwindGraph ← Reader.optionally (hasUnwindMap flags) readRva
  let tryBlocks ← Reader.optionally (hasTryBlockMap flags) readRva
  let regions ← readRegions imageBase fnBegin (hasMultipleFunclets flags)
  let primaryFramePtr ← Reader.optionally (isCatchFunclet flags) readUnsigned
  return ⟨flags, bbtFlags, unwindGraph, tryBlocks, regions, primaryFramePtr⟩

/-! ## Regions -/

/-- The offset of an address, `relative_virtual_address::calculate_offset`. -/
def makeRva (ptr base : Nat) : Nat := (BitVec.ofNat 64 ptr - BitVec.ofNat 64 base).toNat % 2 ^ 32

/-- The value of a `uint32_t` as an `int32_t`. -/
def int32 (v : Nat) : Int := (BitVec.ofNat 32 v).toInt

/-- The loop of `lookup_region`. -/
def lookupRegions (mem : Memory) (pc : Nat) : Nat → Nat → Nat → Int → Int
  | 0, _, _, state => state
  | count + 1, p, fnRva, state =>
    let (delta, p) := readUnsigned mem p
    let fnRva := (fnRva + delta) % 2 ^ 32
    if pc < fnRva then state
    else
      let (code, p) := readUnsigned mem p
      lookupRegions mem pc count p fnRva (int32 (code + (2 ^ 32 - 1)))

def lookupRegion (mem : Memory) (ehInfo : ExcInfo) (imageBase fn controlPc : Nat) : Int :=
  if ehInfo.regions = 0 then -1
  else
    let pc := makeRva controlPc (imageBase + fn)
    let (regionCount, p) := readUnsigned mem (imageBase + ehInfo.regions)
    lookupRegions mem pc regionCount p 0 (-1)

/-! ## The format -/

/-- The region map of a function, or those of its segments. -/
inductive Segments where
  | single (regions : Nat)
  | multiple (funcletMap : Nat) (segments : List (Nat × Nat))
deriving DecidableEq

/-- What the header says. -/
structure FuncInfo where
  bbtFlags : Option Nat
  unwindMap : Option Nat
  tryBlockMap : Option Nat
  segments : Segments
  primaryFramePtr : Option Nat
  ehs : Bool
  isNoexcept : Bool
deriving DecidableEq

def Segments.isMultiple : Segments → Bool
  | .single _ => false
  | .multiple _ _ => true

def Segments.encode : Segments → List (BitVec 8)
  | .single regions => encodeInt regions
  | .multiple funcletMap _ => encodeInt funcletMap

def encodeFuncletMap (segments : List (Nat × Nat)) : List (BitVec 8) :=
  encodeUnsigned segments.length ++
    segments.flatMap fun segment => encodeInt segment.1 ++ encodeInt segment.2

/-- The region map of the segment that begins at `fnBegin`, or none. -/
def Segments.regions (fnBegin : Nat) : Segments → Nat
  | .single regions => regions
  | .multiple _ segments => ((segments.find? (·.1 = fnBegin)).map (·.2)).getD 0

def flagsByte (b₀ b₁ b₂ b₃ b₄ b₅ b₆ : Bool) : BitVec 8 :=
  BitVec.ofNat 8 (b₀.toNat + 2 * b₁.toNat + 4 * b₂.toNat + 8 * b₃.toNat + 16 * b₄.toNat +
    32 * b₅.toNat + 64 * b₆.toNat)

namespace FuncInfo

def flags (info : FuncInfo) : BitVec 8 :=
  flagsByte info.primaryFramePtr.isSome info.segments.isMultiple info.bbtFlags.isSome
    info.unwindMap.isSome info.tryBlockMap.isSome info.ehs info.isNoexcept

def encode (info : FuncInfo) : List (BitVec 8) :=
  [info.flags] ++ (info.bbtFlags.elim [] encodeUnsigned ++ (info.unwindMap.elim [] encodeInt ++
    (info.tryBlockMap.elim [] encodeInt ++ (info.segments.encode ++
      info.primaryFramePtr.elim [] encodeUnsigned))))

/-- What is to be read of a segment. -/
def excInfo (info : FuncInfo) (fnBegin : Nat) : ExcInfo where
  flags := info.flags
  bbtFlags := info.bbtFlags.getD 0
  unwindGraph := info.unwindMap.getD 0
  tryBlocks := info.tryBlockMap.getD 0
  regions := info.segments.regions fnBegin
  primaryFramePtr := info.primaryFramePtr.getD 0

@[simp] theorem excInfo_regions {info : FuncInfo} {fnBegin : Nat} :
    (info.excInfo fnBegin).regions = info.segments.regions fnBegin := rfl

@[simp] theorem excInfo_tryBlocks {info : FuncInfo} {fnBegin : Nat} :
    (info.excInfo fnBegin).tryBlocks = info.tryBlockMap.getD 0 := rfl

@[simp] theorem excInfo_unwindGraph {info : FuncInfo} {fnBegin : Nat} :
    (info.excInfo fnBegin).unwindGraph = info.unwindMap.getD 0 := rfl

end FuncInfo

def Segments.Fits : Segments → Prop
  | .single regions => regions < 2 ^ 32
  | .multiple funcletMap segments => funcletMap < 2 ^ 32 ∧ segments.length < 2 ^ 32 ∧
      ∀ segment ∈ segments, segment.1 < 2 ^ 32 ∧ segment.2 < 2 ^ 32

/-- The funclet map lies where the header says. -/
def Segments.Stored (mem : Memory) (imageBase : Nat) : Segments → Prop
  | .single _ => True
  | .multiple funcletMap segments =>
    3 ≤ imageBase + funcletMap ∧ Lies mem (imageBase + funcletMap) (encodeFuncletMap segments)

structure FuncInfo.Fits (info : FuncInfo) : Prop where
  bbtFlags : ∀ v ∈ info.bbtFlags, v < 2 ^ 32
  unwindMap : ∀ v ∈ info.unwindMap, v < 2 ^ 32
  tryBlockMap : ∀ v ∈ info.tryBlockMap, v < 2 ^ 32
  segments : info.segments.Fits
  primaryFramePtr : ∀ v ∈ info.primaryFramePtr, v < 2 ^ 32

/-- The region map: from each offset on, the state, as the distance from the offset before and the
state above -1. -/
def encodeRegionsFrom (fnRva : Nat) : List (Nat × Int) → List (BitVec 8)
  | [] => []
  | (start, state) :: regions =>
    encodeUnsigned (start - fnRva) ++ (encodeUnsigned (state + 1).toNat ++
      encodeRegionsFrom start regions)

def encodeRegions (regions : List (Nat × Int)) : List (BitVec 8) :=
  encodeUnsigned regions.length ++ encodeRegionsFrom 0 regions

/-- The state of the last region that starts at `pc` or before. -/
def stateAt (regions : List (Nat × Int)) (pc : Nat) : Int :=
  ((regions.filter (·.1 ≤ pc)).getLast?.map (·.2)).getD (-1)

structure RegionsFit (regions : List (Nat × Int)) : Prop where
  count : regions.length < 2 ^ 32
  ascending : regions.Pairwise fun r s => r.1 ≤ s.1
  start : ∀ r ∈ regions, r.1 < 2 ^ 32
  state : ∀ r ∈ regions, -1 ≤ r.2 ∧ r.2 < 2 ^ 31

/-! ## Round trips -/

section RoundTrip

variable {mem : Memory} {imageBase fnBegin p pc fnRva : Nat} {info : FuncInfo}
variable {segments : List (Nat × Nat)} {regions : List (Nat × Int)} {state : Int}

theorem flagsByte_bits : ∀ b₀ b₁ b₂ b₃ b₄ b₅ b₆ : Bool,
    isCatchFunclet (flagsByte b₀ b₁ b₂ b₃ b₄ b₅ b₆) = b₀ ∧
    hasMultipleFunclets (flagsByte b₀ b₁ b₂ b₃ b₄ b₅ b₆) = b₁ ∧
    bbt (flagsByte b₀ b₁ b₂ b₃ b₄ b₅ b₆) = b₂ ∧
    hasUnwindMap (flagsByte b₀ b₁ b₂ b₃ b₄ b₅ b₆) = b₃ ∧
    hasTryBlockMap (flagsByte b₀ b₁ b₂ b₃ b₄ b₅ b₆) = b₄ := by decide

theorem findRegions_eq (hp : 3 ≤ p)
    (hfits : ∀ segment ∈ segments, segment.1 < 2 ^ 32 ∧ segment.2 < 2 ^ 32)
    (h : Lies mem p (segments.flatMap fun segment => encodeInt segment.1 ++ encodeInt segment.2)) :
    (findRegions fnBegin segments.length mem p).1 =
      ((segments.find? (·.1 = fnBegin)).map (·.2)).getD 0 := by
  induction segments generalizing p with
  | nil => rfl
  | cons segment segments ih =>
    obtain ⟨hsegment, hrest⟩ := lies_append.1 (List.flatMap_cons ▸ h)
    obtain ⟨hfn, hregions⟩ := lies_append.1 hsegment
    obtain ⟨hfit, hfits⟩ := List.forall_mem_cons.1 hfits
    have hp' : 3 ≤ p + (encodeInt segment.1).length := Nat.le_add_right_of_le hp
    rw [List.length_cons, findRegions, Reader.bind_apply, readRva, decodes_readInt hfit.1 p hp hfn,
      Reader.bind_apply, decodes_readInt hfit.2 _ hp' hregions]
    dsimp only
    by_cases heq : segment.1 = fnBegin
    · rw [if_pos heq, List.find?_cons_of_pos (by simpa using heq)]
      rfl
    · rw [if_neg heq, List.find?_cons_of_neg (by simpa using heq)]
      rw [List.length_append, ← Nat.add_assoc] at hrest
      exact ih (Nat.le_add_right_of_le hp') hfits hrest

theorem decodes_readRegions {segments : Segments} (hfits : segments.Fits)
    (hstored : segments.Stored mem imageBase) :
    Reader.Decodes mem (readRegions imageBase fnBegin segments.isMultiple) segments.encode
      (segments.regions fnBegin) := by
  cases segments with
  | single regions => exact decodes_readInt hfits
  | multiple funcletMap segments =>
    have hmap : (readFuncletMap fnBegin mem (imageBase + funcletMap)).1 =
        (Segments.multiple funcletMap segments).regions fnBegin := by
      obtain ⟨hcount, hsegments⟩ := lies_append.1 hstored.2
      rw [readFuncletMap, Reader.bind_apply, decodes_readUnsigned hfits.2.1 _ hstored.1 hcount]
      exact findRegions_eq (Nat.le_add_right_of_le hstored.1) hfits.2.2 hsegments
    have hfield : Reader.Decodes mem readRva (encodeInt funcletMap) funcletMap :=
      decodes_readInt hfits.1
    have hdecodes := hfield.bind
      (f := fun funcletMap => Reader.peek (imageBase + funcletMap) (readFuncletMap fnBegin))
      (Reader.Decodes.peek hmap)
    rwa [List.append_nil] at hdecodes

/-- The header is read as it was encoded, with the region map of the segment asked for. -/
theorem decodes_loadExceptionInfo (hfits : info.Fits) (hstored : info.segments.Stored mem imageBase) :
    Reader.Decodes mem (loadExceptionInfo imageBase fnBegin) info.encode (info.excInfo fnBegin) := by
  obtain ⟨hcatch, hmultiple, hbbt, hunwind, htry⟩ := flagsByte_bits info.primaryFramePtr.isSome
    info.segments.isMultiple info.bbtFlags.isSome info.unwindMap.isSome info.tryBlockMap.isSome
    info.ehs info.isNoexcept
  change isCatchFunclet info.flags = _ at hcatch
  change hasMultipleFunclets info.flags = _ at hmultiple
  change bbt info.flags = _ at hbbt
  change hasUnwindMap info.flags = _ at hunwind
  change hasTryBlockMap info.flags = _ at htry
  refine Reader.Decodes.bind decodes_readByte ?_
  rw [hbbt, hunwind, htry, hmultiple, hcatch]
  refine .bind (.optionally fun v hv => decodes_readUnsigned (hfits.bbtFlags v hv)) ?_
  refine .bind (.optionally fun v hv => decodes_readInt (hfits.unwindMap v hv)) ?_
  refine .bind (.optionally fun v hv => decodes_readInt (hfits.tryBlockMap v hv)) ?_
  refine .bind (decodes_readRegions hfits.segments hstored) ?_
  rw [← List.append_nil (info.primaryFramePtr.elim [] encodeUnsigned)]
  exact .bind (.optionally fun v hv => decodes_readUnsigned (hfits.primaryFramePtr v hv)) .pure

theorem int32_pred {state : Int} (hlow : -1 ≤ state) (hhigh : state < 2 ^ 31) :
    int32 ((state + 1).toNat + (2 ^ 32 - 1)) = state := by
  unfold int32
  rw [BitVec.toInt_ofNat']
  have hcast : (((state + 1).toNat + (2 ^ 32 - 1) : Nat) : Int) = state + 2 ^ 32 := by omega
  rw [hcast, Int.bmod_def]
  split_ifs <;> omega

/-- The loop finds the state of the last region not behind `pc`, or keeps the one before. -/
theorem lookupRegions_eq (hp : 3 ≤ p) (hfits : RegionsFit regions)
    (hprev : ∀ r ∈ regions, fnRva ≤ r.1)
    (h : Lies mem p (encodeRegionsFrom fnRva regions)) :
    lookupRegions mem pc regions.length p fnRva state =
      ((regions.filter (·.1 ≤ pc)).getLast?.map (·.2)).getD state := by
  induction regions generalizing p fnRva state with
  | nil => rfl
  | cons r regions ih =>
    obtain ⟨start, code⟩ := r
    obtain ⟨hdelta, hrest⟩ := lies_append.1 h
    obtain ⟨hcode, hrest⟩ := lies_append.1 hrest
    obtain ⟨hfirst, hascending⟩ := List.pairwise_cons.1 hfits.ascending
    have hstart : start < 2 ^ 32 := hfits.start _ List.mem_cons_self
    obtain ⟨hlow, hhigh⟩ : -1 ≤ code ∧ code < 2 ^ 31 := hfits.state _ List.mem_cons_self
    have hle : fnRva ≤ start := hprev _ List.mem_cons_self
    have hp' := Nat.le_add_right_of_le (k := (encodeUnsigned (start - fnRva)).length) hp
    rw [List.length_cons, lookupRegions, decodes_readUnsigned (by omega) p hp hdelta]
    dsimp only
    rw [Nat.add_sub_cancel' hle, Nat.mod_eq_of_lt hstart]
    by_cases hpc : pc < start
    · have hnone : ((start, code) :: regions).filter (·.1 ≤ pc) = [] := by
        refine List.filter_eq_nil_iff.2 fun r hr => ?_
        have hge : start ≤ r.1 := by
          rcases List.mem_cons.1 hr with rfl | hr
          · exact Nat.le_refl _
          · exact hfirst r hr
        simp only [decide_eq_true_eq]
        omega
      rw [if_pos hpc, hnone]
      rfl
    · rw [if_neg hpc, decodes_readUnsigned (by omega) _ hp' hcode]
      dsimp only
      rw [int32_pred hlow hhigh, List.filter_cons_of_pos (by simpa using hpc), List.getLast?_cons]
      have hrec := @ih _ start code (Nat.le_add_right_of_le hp')
        ⟨Nat.lt_of_succ_lt hfits.count, hascending, fun r hr => hfits.start r (List.mem_cons_of_mem _ hr),
          fun r hr => hfits.state r (List.mem_cons_of_mem _ hr)⟩ hfirst hrest
      rw [hrec]
      cases (regions.filter (·.1 ≤ pc)).getLast? <;> rfl

/-- `lookup_region` finds the state that the region map gives for the address. -/
theorem lookupRegion_eq {ehInfo : ExcInfo} {fn controlPc : Nat} (hregions : ehInfo.regions ≠ 0)
    (hp : 3 ≤ imageBase + ehInfo.regions) (hfits : RegionsFit regions)
    (h : Lies mem (imageBase + ehInfo.regions) (encodeRegions regions)) :
    lookupRegion mem ehInfo imageBase fn controlPc =
      stateAt regions (makeRva controlPc (imageBase + fn)) := by
  obtain ⟨hcount, hrest⟩ := lies_append.1 h
  rw [lookupRegion, if_neg hregions, decodes_readUnsigned hfits.count _ hp hcount]
  exact lookupRegions_eq (Nat.le_add_right_of_le hp) hfits (fun _ _ => Nat.zero_le _) hrest

end RoundTrip

end WinShell.Exceptions
