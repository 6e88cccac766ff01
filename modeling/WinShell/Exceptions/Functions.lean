-- SUMMARY: A C++ function with its tables, and that the frame handler does with its frame what the tables say.
import WinShell.Exceptions.Frames

/-!
# C++ functions

What the tables of a function say: its scopes, the state at each address, and its try
blocks with their catch blocks. The frame handler, which reads the encoded tables,
takes the first catch block of the first try block around the state of the frame that
takes the exception, and destroys what is alive between the two.
-/

namespace WinShell.Exceptions

open Store

/-! ## Try blocks -/

structure Catch where
  adjectives : Option Nat
  type : Option Nat
  catchVar : Option Nat
  handler : Nat
  imageRva : Bool
  continuations : List Nat
deriving DecidableEq

structure Try where
  block : TryBlock
  catches : List Catch
deriving DecidableEq

structure CppFunction where
  info : FuncInfo
  nodes : List Node
  regions : List (Nat × Int)
  tries : List Try
deriving DecidableEq

namespace Catch

def flags (c : Catch) : BitVec 8 :=
  BitVec.ofNat 8 (c.adjectives.isSome.toNat + 2 * c.type.isSome.toNat + 4 * c.catchVar.isSome.toNat +
    8 * c.imageRva.toNat + 16 * c.continuations.length)

def encodeContinuation (imageRva : Bool) (offset : Nat) : List (BitVec 8) :=
  if imageRva then encodeInt offset else encodeUnsigned offset

def encode (c : Catch) : List (BitVec 8) :=
  [c.flags] ++ (c.adjectives.elim [] encodeUnsigned ++ (c.type.elim [] encodeInt ++
    (c.catchVar.elim [] encodeUnsigned ++ (encodeInt c.handler ++
      c.continuations.flatMap (encodeContinuation c.imageRva)))))

/-- What is to be read of a catch block. -/
def entry (c : Catch) : HandlerEntry where
  flags := c.flags
  typeFlags := c.adjectives.getD 0
  type := c.type.getD 0
  catchVar := c.catchVar.getD 0
  handler := c.handler
  continuations := c.continuations

structure Fits (c : Catch) : Prop where
  adjectives : ∀ v ∈ c.adjectives, v < 2 ^ 32
  type : ∀ v ∈ c.type, v < 2 ^ 32
  catchVar : ∀ v ∈ c.catchVar, v < 2 ^ 32
  handler : c.handler < 2 ^ 32
  count : c.continuations.length ≤ 2
  continuations : ∀ v ∈ c.continuations, v < 2 ^ 32

end Catch

def TryBlock.encode (block : TryBlock) : List (BitVec 8) :=
  encodeUnsigned block.tryLow ++ (encodeUnsigned block.tryHigh ++
    (encodeUnsigned block.catchHigh ++ encodeInt block.handlers))

structure TryBlock.Fits (block : TryBlock) : Prop where
  tryLow : block.tryLow < 2 ^ 31
  tryHigh : block.tryHigh < 2 ^ 32
  catchHigh : block.catchHigh < 2 ^ 32
  handlers : block.handlers < 2 ^ 32

def encodeCatches (catches : List Catch) : List (BitVec 8) :=
  encodeUnsigned catches.length ++ catches.flatMap Catch.encode

def encodeTries (tries : List Try) : List (BitVec 8) :=
  encodeUnsigned tries.length ++ tries.flatMap fun t => t.block.encode

/-- The try block's catch blocks lie where it says. -/
structure Try.Stored (mem : Memory) (imageBase : Nat) (t : Try) : Prop where
  fits : t.block.Fits
  count : t.catches.length < 2 ^ 32
  high : 3 ≤ imageBase + t.block.handlers
  catches : ∀ c ∈ t.catches, c.Fits
  lies : Lies mem (imageBase + t.block.handlers) (encodeCatches t.catches)

section Read

variable {mem : Memory} {imageBase p : Nat} {c : Catch} {block : TryBlock}

theorem catchFlags_bits : ∀ b₀ b₁ b₂ b₃ : Bool, ∀ n < 4,
    let flags := BitVec.ofNat 8 (b₀.toNat + 2 * b₁.toNat + 4 * b₂.toNat + 8 * b₃.toNat + 16 * n)
    hasTypeFlags flags = b₀ ∧ hasTypeInfo flags = b₁ ∧ hasCatchVar flags = b₂ ∧
      imageRva flags = b₃ ∧ continuationAddrCount flags = n := by decide

theorem decodes_readContinuations {offsets : List Nat} {b : Bool} (h : ∀ v ∈ offsets, v < 2 ^ 32) :
    Reader.Decodes mem (readContinuations b offsets.length)
      (offsets.flatMap (Catch.encodeContinuation b)) offsets := by
  induction offsets with
  | nil => exact .pure
  | cons offset offsets ih =>
    obtain ⟨hfirst, hrest⟩ := List.forall_mem_cons.1 h
    rw [List.flatMap_cons]
    refine Reader.Decodes.bind (x := offset) ?_ ?_
    · cases b with
      | false => exact decodes_readUnsigned hfirst
      | true => exact decodes_readInt hfirst
    · rw [← List.append_nil (offsets.flatMap _)]
      exact (ih hrest).bind .pure

/-- A catch block is read as it was encoded. -/
theorem decodes_readHandler (h : c.Fits) : Reader.Decodes mem readHandler c.encode c.entry := by
  obtain ⟨hadjectives, htype, hcatchVar, hrva, hcount⟩ := catchFlags_bits c.adjectives.isSome
    c.type.isSome c.catchVar.isSome c.imageRva c.continuations.length
    (Nat.lt_of_le_of_lt h.count (by decide))
  change hasTypeFlags c.flags = _ at hadjectives
  change hasTypeInfo c.flags = _ at htype
  change Exceptions.hasCatchVar c.flags = _ at hcatchVar
  change Exceptions.imageRva c.flags = _ at hrva
  change continuationAddrCount c.flags = _ at hcount
  refine Reader.Decodes.bind decodes_readByte ?_
  rw [hadjectives, htype, hcatchVar, hrva, hcount]
  refine .bind (.optionally fun v hv => decodes_readUnsigned (h.adjectives v hv)) ?_
  refine .bind (.optionally fun v hv => decodes_readInt (h.type v hv)) ?_
  refine .bind (.optionally fun v hv => decodes_readUnsigned (h.catchVar v hv)) ?_
  refine .bind (decodes_readInt h.handler) ?_
  rw [← List.append_nil (c.continuations.flatMap _)]
  exact (decodes_readContinuations h.continuations).bind .pure

theorem decodes_readTryBlock (h : block.Fits) :
    Reader.Decodes mem readTryBlock block.encode block := by
  refine .bind (decodes_readUnsigned (Nat.lt_trans h.tryLow (by decide))) ?_
  refine .bind (decodes_readUnsigned h.tryHigh) ?_
  refine .bind (decodes_readUnsigned h.catchHigh) ?_
  rw [← List.append_nil (encodeInt _)]
  exact (decodes_readInt h.handlers).bind .pure

theorem TryBlock.targetState_eq (h : block.Fits) : block.targetState = block.tryLow - 1 := by
  have hlow := h.tryLow
  have hpred := @int32_pred ((block.tryLow : Int) - 1) (by omega) (by omega)
  rwa [show ((block.tryLow : Int) - 1 + 1).toNat = block.tryLow by omega] at hpred

end Read

/-! ## Choosing a catch block -/

section Choose

variable (run : Call → Memory → Memory) (imageBase fnBegin primaryFramePtr exceptionObject : Nat)
variable (throwInfo : ThrowInfo)

/-- Whether a catch block takes the exception, and what becomes of the memory. -/
def Catch.take (c : Catch) (w : World) : Bool × World :=
  processCatchBlock run imageBase (BitVec.ofNat 32 (c.adjectives.getD 0)) (imageBase + c.type.getD 0)
    (primaryFramePtr + c.catchVar.getD 0) exceptionObject throwInfo w

/-- The addresses at which a function can go on behind a catch block. -/
def Catch.continuationAddress (c : Catch) (old : Nat × Nat) : Nat × Nat :=
  let base := if c.imageRva then imageBase else imageBase + fnBegin
  match c.continuations with
  | [] => old
  | [a] => (base + a, old.2)
  | a :: b :: _ => (base + a, base + b)

def Try.Covers (s : Nat) (t : Try) : Prop := t.block.tryLow ≤ s ∧ s ≤ t.block.tryHigh

instance (s : Nat) (t : Try) : Decidable (t.Covers s) :=
  inferInstanceAs (Decidable (t.block.tryLow ≤ s ∧ s ≤ t.block.tryHigh))

/-- The first catch block that takes the exception, in the first try block that has one. -/
def chosen (takes : Catch → Bool) (s : Nat) (tries : List Try) : Option (Try × Catch) :=
  tries.findSome? fun t => if t.Covers s then (t.catches.find? takes).map fun c => (t, c) else none

/-- Nothing was found, but continuation addresses have been written. -/
def ThrowFrame.examined (conts : Nat × Nat) (t : ThrowFrame) : ThrowFrame :=
  { t with catchInfo := { t.catchInfo with continuationAddress := conts } }

/-- A catch block was found. -/
def ThrowFrame.caught (t : Try) (c : Catch) (old : Nat × Nat) (world : World) (th : ThrowFrame) :
    ThrowFrame :=
  { th with
    catchInfo :=
      { th.catchInfo with
        continuationAddress := c.continuationAddress imageBase fnBegin old
        primaryFramePtr := primaryFramePtr
        unwindContext := t.block.targetState }
    handler := imageBase + c.handler
    world := world }

end Choose

section Select

variable {run : Call → Memory → Memory} {personality : Nat → Personality} {pdata : Pdata}
variable {fnBegin primaryFramePtr p s fuel exceptionObject : Nat} {throwInfo : ThrowInfo}
variable {t : ThrowFrame} {c : Catch} {tr : Try} {catches : List Catch} {tries : List Try} {w : World}

theorem ThrowFrame.caught_handler {old : Nat × Nat} (hbase : 0 < pdata.imageBase) :
    (t.caught pdata.imageBase fnBegin primaryFramePtr tr c old w).handler ≠ 0 :=
  Nat.ne_of_gt (Nat.add_pos_left hbase _)

theorem Catch.take_snd (h : (c.take run pdata.imageBase primaryFramePtr exceptionObject throwInfo w).1 =
    false) : (c.take run pdata.imageBase primaryFramePtr exceptionObject throwInfo w).2 = w := by
  rw [Catch.take, processCatchBlock_eq] at h ⊢
  split_ifs at h ⊢ with hellipsis hqualified
  · cases hfirst : firstMatch w.mem pdata.imageBase throwInfo (pdata.imageBase + c.type.getD 0) with
    | none => rfl
    | some catchable =>
      rw [hfirst] at h
      cases h
  · rfl

theorem setContinuations_eq (h : c.continuations.length ≤ 2) (ci : CatchInfo) :
    setContinuations (if Exceptions.imageRva c.entry.flags then pdata.imageBase
      else pdata.imageBase + fnBegin) c.entry.continuations 0 ci =
      { ci with continuationAddress :=
        c.continuationAddress pdata.imageBase fnBegin ci.continuationAddress } := by
  have hrva : Exceptions.imageRva c.entry.flags = c.imageRva :=
    (catchFlags_bits c.adjectives.isSome c.type.isSome c.catchVar.isSome c.imageRva
      c.continuations.length (Nat.lt_of_le_of_lt h (by decide))).2.2.2.1
  rw [hrva, Catch.continuationAddress]
  match hc : c.continuations with
  | [] => simp [Catch.entry, hc, setContinuations]
  | [a] => simp [Catch.entry, hc, setContinuations, CatchInfo.setContinuation]
  | [a, b] => simp [Catch.entry, hc, setContinuations, CatchInfo.setContinuation]
  | a :: b :: d :: rest =>
    rw [hc] at h
    simp at h

/-- The loop over the catch blocks takes the first one that takes the exception. -/
theorem selectHandler_eq (hp : 3 ≤ p) (hfits : ∀ c ∈ catches, c.Fits)
    (h : Lies t.world.mem p (catches.flatMap Catch.encode))
    (hobject : exceptionObject = t.catchInfo.getExceptionObject (readCatchInfo t.world.mem)) :
    match catches.find? fun c =>
      (c.take run pdata.imageBase primaryFramePtr exceptionObject throwInfo t.world).1 with
    | none => ∃ conts, selectHandler run pdata tr.block fnBegin primaryFramePtr throwInfo
        catches.length p t = t.examined conts
    | some c => ∃ old, selectHandler run pdata tr.block fnBegin primaryFramePtr throwInfo
        catches.length p t = t.caught pdata.imageBase fnBegin primaryFramePtr tr c old
          (c.take run pdata.imageBase primaryFramePtr exceptionObject throwInfo t.world).2 := by
  induction catches generalizing p t with
  | nil => exact ⟨t.catchInfo.continuationAddress, rfl⟩
  | cons c catches ih =>
    obtain ⟨hfirst, hrest⟩ := lies_append.1 (List.flatMap_cons ▸ h)
    obtain ⟨hfit, hfits⟩ := List.forall_mem_cons.1 hfits
    rw [List.length_cons, selectHandler, decodes_readHandler hfit p hp hfirst]
    dsimp only
    rw [setContinuations_eq hfit.count]
    have hobject' (conts : Nat × Nat) : CatchInfo.getExceptionObject (readCatchInfo t.world.mem)
        ⟨conts, t.catchInfo.primaryFramePtr, t.catchInfo.exceptionObjectOrLink,
          t.catchInfo.throwInfoIfOwner, t.catchInfo.unwindContext⟩ = exceptionObject := hobject.symm
    rw [hobject']
    have htake : processCatchBlock run pdata.imageBase (BitVec.ofNat 32 c.entry.typeFlags)
        (pdata.imageBase + c.entry.type) (primaryFramePtr + c.entry.catchVar) exceptionObject throwInfo
        t.world = c.take run pdata.imageBase primaryFramePtr exceptionObject throwInfo t.world := rfl
    rw [htake, List.find?_cons]
    cases hcaught : (c.take run pdata.imageBase primaryFramePtr exceptionObject throwInfo t.world).1 with
    | true => exact ⟨t.catchInfo.continuationAddress, rfl⟩
    | false =>
      rw [Catch.take_snd hcaught]
      exact @ih _ (t.examined (c.continuationAddress pdata.imageBase fnBegin
        t.catchInfo.continuationAddress)) (Nat.le_add_right_of_le hp) hfits hrest hobject

section Chosen

variable {takes : Catch → Bool}

theorem chosen_of_none (hcovers : tr.Covers s) (hfind : tr.catches.find? takes = none) :
    chosen takes s (tr :: tries) = chosen takes s tries := by
  rw [chosen, List.findSome?_cons, if_pos hcovers, hfind]
  rfl

theorem chosen_of_some (hcovers : tr.Covers s) (hfind : tr.catches.find? takes = some c) :
    chosen takes s (tr :: tries) = some (tr, c) := by
  rw [chosen, List.findSome?_cons, if_pos hcovers, hfind]
  rfl

theorem chosen_of_not_covers (hcovers : ¬tr.Covers s) :
    chosen takes s (tr :: tries) = chosen takes s tries := by
  rw [chosen, List.findSome?_cons, if_neg hcovers]
  rfl

theorem mem_of_chosen (h : chosen takes s tries = some (tr, c)) :
    tr ∈ tries ∧ c ∈ tr.catches ∧ tr.Covers s := by
  obtain ⟨tr', htr, hsome⟩ := List.exists_of_findSome?_eq_some h
  split_ifs at hsome with hcovers
  · obtain ⟨c', hc, heq⟩ := Option.map_eq_some_iff.1 hsome
    obtain ⟨rfl, rfl⟩ := Prod.mk.inj heq
    exact ⟨htr, List.mem_of_find?_eq_some hc, hcovers⟩

end Chosen

/-- The loop over the try blocks takes the catch block that is chosen. -/
theorem searchTryBlocks_eq (hp : 3 ≤ p) (hbase : 0 < pdata.imageBase)
    (hstored : ∀ tr ∈ tries, tr.Stored t.world.mem pdata.imageBase)
    (h : Lies t.world.mem p (tries.flatMap fun tr => tr.block.encode))
    (hobject : exceptionObject = t.catchInfo.getExceptionObject (readCatchInfo t.world.mem))
    (hthrow : t.catchInfo.getThrowInfo (readCatchInfo t.world.mem) ≠ 0)
    (hinfo : throwInfo = readThrowInfo t.world.mem
      (t.catchInfo.getThrowInfo (readCatchInfo t.world.mem)))
    (hhandler : t.handler = 0) :
    match chosen (fun c =>
      (c.take run pdata.imageBase primaryFramePtr exceptionObject throwInfo t.world).1) s tries with
    | none => ∃ conts, searchTryBlocks run personality pdata fuel fnBegin primaryFramePtr s tries.length
        p t = .ok (t.examined conts, -1)
    | some (tr, c) => ∃ old, searchTryBlocks run personality pdata fuel fnBegin primaryFramePtr s
        tries.length p t = .ok (t.caught pdata.imageBase fnBegin primaryFramePtr tr c old
          (c.take run pdata.imageBase primaryFramePtr exceptionObject throwInfo t.world).2,
          tr.block.targetState) := by
  induction tries generalizing p t with
  | nil => exact ⟨t.catchInfo.continuationAddress, rfl⟩
  | cons tr tries ih =>
    obtain ⟨hfirst, hrest⟩ := lies_append.1 (List.flatMap_cons ▸ h)
    obtain ⟨htr, hstored⟩ := List.forall_mem_cons.1 hstored
    have hp' := Nat.le_add_right_of_le (k := tr.block.encode.length) hp
    rw [List.length_cons, searchTryBlocks, decodes_readTryBlock htr.fits p hp hfirst]
    dsimp only
    by_cases hcovers : tr.Covers s
    · obtain ⟨hcount, hcatches⟩ := lies_append.1 htr.lies
      have hinside : ¬(s < tr.block.tryLow ∨ tr.block.tryHigh < s) := by
        unfold Try.Covers at hcovers
        omega
      have hselect := @selectHandler_eq run pdata fnBegin primaryFramePtr _ exceptionObject throwInfo t tr
        tr.catches (Nat.le_add_right_of_le htr.high) htr.catches hcatches hobject
      rw [if_neg hinside, probeIfNeeded, if_neg hthrow]
      dsimp only [bind, Except.bind]
      rw [← hinfo, decodes_readUnsigned htr.count _ htr.high hcount]
      dsimp only
      cases hfind : tr.catches.find? fun c =>
          (c.take run pdata.imageBase primaryFramePtr exceptionObject throwInfo t.world).1 with
      | none =>
        rw [hfind] at hselect
        obtain ⟨conts, hselect⟩ := hselect
        rw [hselect, if_neg (by rw [ThrowFrame.examined, hhandler]; decide),
          chosen_of_none hcovers hfind]
        exact @ih _ (t.examined conts) hp' hstored hrest hobject hthrow hinfo hhandler
      | some c =>
        rw [hfind] at hselect
        obtain ⟨old, hselect⟩ := hselect
        rw [hselect, if_pos (ThrowFrame.caught_handler hbase), chosen_of_some hcovers hfind]
        exact ⟨old, rfl⟩
    · have houtside : s < tr.block.tryLow ∨ tr.block.tryHigh < s := by
        unfold Try.Covers at hcovers
        omega
      rw [if_pos houtside, chosen_of_not_covers hcovers]
      exact ih hp' hstored hrest hobject hthrow hinfo hhandler

/-- Try blocks that are not around the state are passed over. -/
theorem searchTryBlocks_of_not_covers (hp : 3 ≤ p) (hfits : ∀ tr ∈ tries, tr.block.Fits)
    (h : Lies t.world.mem p (tries.flatMap fun tr => tr.block.encode))
    (hcovers : ∀ tr ∈ tries, ¬tr.Covers s) :
    searchTryBlocks run personality pdata fuel fnBegin primaryFramePtr s tries.length p t =
      .ok (t, -1) := by
  induction tries generalizing p with
  | nil => rfl
  | cons tr tries ih =>
    obtain ⟨hfirst, hrest⟩ := lies_append.1 (List.flatMap_cons ▸ h)
    obtain ⟨hfit, hfits⟩ := List.forall_mem_cons.1 hfits
    obtain ⟨hcover, hcovers⟩ := List.forall_mem_cons.1 hcovers
    have houtside : s < tr.block.tryLow ∨ tr.block.tryHigh < s := by
      unfold Try.Covers at hcover
      omega
    rw [List.length_cons, searchTryBlocks, decodes_readTryBlock hfit p hp hfirst]
    dsimp only
    rw [if_pos houtside]
    exact ih (Nat.le_add_right_of_le hp) hfits hrest hcovers

/-- Without an exception the first try block around the state starts the probe, and the search goes on
from what the probe leaves. -/
theorem searchTryBlocks_of_probe {t₁ : ThrowFrame} (hp : 3 ≤ p)
    (hprobe : probeForException run personality pdata fuel t = .ok t₁) (hworld : t₁.world = t.world)
    (hrethrow : t.catchInfo.getThrowInfo (readCatchInfo t.world.mem) = 0)
    (hthrow : t₁.catchInfo.getThrowInfo (readCatchInfo t.world.mem) ≠ 0)
    (hfits : ∀ tr ∈ tries, tr.block.Fits)
    (h : Lies t.world.mem p (tries.flatMap fun tr => tr.block.encode))
    (hcovers : ∃ tr ∈ tries, tr.Covers s) :
    searchTryBlocks run personality pdata fuel fnBegin primaryFramePtr s tries.length p t =
      searchTryBlocks run personality pdata fuel fnBegin primaryFramePtr s tries.length p t₁ := by
  induction tries generalizing p with
  | nil => simp at hcovers
  | cons tr tries ih =>
    obtain ⟨hfirst, hrest⟩ := lies_append.1 (List.flatMap_cons ▸ h)
    obtain ⟨hfit, hfits⟩ := List.forall_mem_cons.1 hfits
    rw [List.length_cons, searchTryBlocks, searchTryBlocks, hworld, decodes_readTryBlock hfit p hp hfirst]
    dsimp only
    by_cases hcover : tr.Covers s
    · have hinside : ¬(s < tr.block.tryLow ∨ tr.block.tryHigh < s) := by
        unfold Try.Covers at hcover
        omega
      rw [if_neg hinside, if_neg hinside, probeIfNeeded, probeIfNeeded, if_pos hrethrow, hworld,
        if_neg hthrow, hprobe]
    · have houtside : s < tr.block.tryLow ∨ tr.block.tryHigh < s := by
        unfold Try.Covers at hcover
        omega
      rw [if_pos houtside, if_pos houtside]
      refine ih (Nat.le_add_right_of_le hp) hfits hrest ?_
      obtain ⟨tr', hmem, hcover'⟩ := hcovers
      rcases List.mem_cons.1 hmem with rfl | hmem
      · exact absurd hcover' hcover
      · exact ⟨tr', hmem, hcover'⟩

end Select

/-! ## The handler of a frame -/

/-- The tables of a function, with its header at `data`, for the segment that begins at `fnBegin`. A
function without states has no unwind map, one without try blocks no try block map. -/
structure CppFunction.Stored (mem : Memory) (imageBase fnBegin data : Nat) (fn : CppFunction) : Prop where
  fits : fn.info.Fits
  high : 3 ≤ data
  header : Lies mem data fn.info.encode
  segments : fn.info.segments.Stored mem imageBase
  wellFormed : WellFormed fn.nodes
  nodes : fn.nodes ≠ [] → 3 ≤ imageBase + fn.info.unwindMap.getD 0 ∧
    Lies mem (imageBase + fn.info.unwindMap.getD 0) (encodeUnwindMap fn.nodes)
  regionsFit : RegionsFit fn.regions
  states : ∀ r ∈ fn.regions, r.2 < fn.nodes.length
  noRegions : fn.info.segments.regions fnBegin = 0 → fn.regions = []
  regions : fn.info.segments.regions fnBegin ≠ 0 →
    3 ≤ imageBase + fn.info.segments.regions fnBegin ∧
      Lies mem (imageBase + fn.info.segments.regions fnBegin) (encodeRegions fn.regions)
  tryCount : fn.tries.length < 2 ^ 32
  noTries : fn.info.tryBlockMap.getD 0 = 0 → fn.tries = []
  tries : fn.info.tryBlockMap.getD 0 ≠ 0 → 3 ≤ imageBase + fn.info.tryBlockMap.getD 0 ∧
    Lies mem (imageBase + fn.info.tryBlockMap.getD 0) (encodeTries fn.tries)
  catches : ∀ t ∈ fn.tries, t.Stored mem imageBase

/-- The number of a state, where a negative one is that of the whole function. -/
def stateOf (s : Int) : Option Nat := if s < 0 then none else some s.toNat

section Frame

variable (imageBase : Nat) (fn : CppFunction) (frame : FrameInfo) (t : ThrowFrame)

/-- The state of a frame, from the regions of its function or from a catch block that it called. -/
def CppFunction.state : Int :=
  if frame.framePtr ≤ t.catchInfo.primaryFramePtr then
    (BitVec.ofInt 32 t.catchInfo.unwindContext).toInt
  else stateAt fn.regions (makeRva t.mach.rip (imageBase + frame.fnBegin))

/-- The frame that the variables of the function belong to. -/
def CppFunction.primaryFrame : Nat :=
  if frame.framePtr ≤ t.catchInfo.primaryFramePtr then t.catchInfo.primaryFramePtr
  else match fn.info.primaryFramePtr with
    | some offset => load t.world.mem (frame.framePtr + offset) 8
    | none => frame.framePtr

/-- Whether a catch block of the function takes the exception in flight, and what it makes of the
memory. -/
def CppFunction.take (run : Call → Memory → Memory) (c : Catch) : Bool × World :=
  c.take run imageBase (fn.primaryFrame frame t)
    (t.catchInfo.getExceptionObject (readCatchInfo t.world.mem))
    (readThrowInfo t.world.mem (t.catchInfo.getThrowInfo (readCatchInfo t.world.mem))) t.world

/-- The catch block that is to take the exception in flight. -/
def CppFunction.chosen (run : Call → Memory → Memory) : Option (Try × Catch) :=
  (stateOf (fn.state imageBase frame t)).bind fun s =>
    Exceptions.chosen (fun c => (fn.take imageBase frame t run c).1) s fn.tries

/-- A try block of the function is around its state. -/
def CppFunction.guarded : Bool :=
  (stateOf (fn.state imageBase frame t)).any fun s => fn.tries.any fun tr => tr.Covers s

end Frame

section Handle

variable {run : Call → Memory → Memory} {personality : Nat → Personality} {pdata : Pdata}
variable {fn : CppFunction} {frame : FrameInfo} {t : ThrowFrame} {fuel data s : Nat}
variable {fixed : Nat → Prop}

theorem stateAt_lt {regions : List (Nat × Int)} {pc : Nat} (h : ∀ r ∈ regions, -1 ≤ r.2 ∧ r.2 < (s : Int)) :
    -1 ≤ stateAt regions pc ∧ stateAt regions pc < s := by
  unfold stateAt
  cases hlast : (regions.filter (·.1 ≤ pc)).getLast? with
  | none => exact ⟨by decide, by simp; omega⟩
  | some r => exact h r (List.mem_filter.1 (List.mem_of_getLast? hlast)).1

theorem frameState_eq (h : fn.Stored t.world.mem pdata.imageBase frame.fnBegin data) :
    frameState pdata (fn.info.excInfo frame.fnBegin) frame t =
      (fn.primaryFrame frame t, fn.state pdata.imageBase frame t) := by
  have hlookup : lookupRegion t.world.mem (fn.info.excInfo frame.fnBegin) pdata.imageBase frame.fnBegin
      t.mach.rip = stateAt fn.regions (makeRva t.mach.rip (pdata.imageBase + frame.fnBegin)) := by
    by_cases hzero : fn.info.segments.regions frame.fnBegin = 0
    · rw [lookupRegion, FuncInfo.excInfo_regions, if_pos hzero, h.noRegions hzero]
      rfl
    · obtain ⟨hhigh, hlies⟩ := h.regions hzero
      exact lookupRegion_eq hzero hhigh h.regionsFit hlies
  have hfunclet : isCatchFunclet (fn.info.excInfo frame.fnBegin).flags = fn.info.primaryFramePtr.isSome :=
    (flagsByte_bits _ _ _ _ _ _ _).1
  rw [frameState, CppFunction.primaryFrame, CppFunction.state]
  by_cases hcaught : frame.framePtr ≤ t.catchInfo.primaryFramePtr
  · rw [if_pos hcaught, if_pos hcaught, if_pos hcaught]
  · rw [if_neg hcaught, if_neg hcaught, if_neg hcaught, hlookup, hfunclet]
    cases hprimary : fn.info.primaryFramePtr with
    | none => rfl
    | some offset =>
      rw [Option.isSome_some, if_pos rfl, FuncInfo.excInfo, hprimary]
      rfl

/-- The search of the handler finds the catch block that is chosen. -/
theorem searchFrame_eq (h : fn.Stored t.world.mem pdata.imageBase frame.fnBegin data)
    (hbase : 0 < pdata.imageBase)
    (hthrow : t.catchInfo.getThrowInfo (readCatchInfo t.world.mem) ≠ 0) (hhandler : t.handler = 0) :
    match fn.chosen pdata.imageBase frame t run with
    | none => ∃ conts, searchFrame run personality pdata fuel (fn.info.excInfo frame.fnBegin) frame
        (fn.primaryFrame frame t) (fn.state pdata.imageBase frame t) t = .ok (t.examined conts, -1)
    | some (tr, c) => ∃ old, searchFrame run personality pdata fuel (fn.info.excInfo frame.fnBegin) frame
        (fn.primaryFrame frame t) (fn.state pdata.imageBase frame t) t =
          .ok (t.caught pdata.imageBase frame.fnBegin (fn.primaryFrame frame t) tr c old
            (fn.take pdata.imageBase frame t run c).2, tr.block.targetState) := by
  rw [CppFunction.chosen, stateOf]
  by_cases hneg : fn.state pdata.imageBase frame t < 0
  · rw [if_pos hneg, searchFrame, if_neg (by omega)]
    exact ⟨t.catchInfo.continuationAddress, rfl⟩
  rw [if_neg hneg, searchFrame, Option.bind_some, FuncInfo.excInfo_tryBlocks]
  by_cases hzero : fn.info.tryBlockMap.getD 0 = 0
  · rw [if_neg fun hne => hne.1 hzero, h.noTries hzero]
    exact ⟨t.catchInfo.continuationAddress, rfl⟩
  · obtain ⟨hhigh, hlies⟩ := h.tries hzero
    obtain ⟨hcount, htries⟩ := lies_append.1 hlies
    rw [if_pos ⟨hzero, by omega⟩, decodes_readUnsigned h.tryCount _ hhigh hcount]
    exact searchTryBlocks_eq (Nat.le_add_right_of_le hhigh) hbase h.catches htries rfl hthrow rfl hhandler

theorem guarded_of_chosen {tr : Try} {c : Catch}
    (h : fn.chosen pdata.imageBase frame t run = some (tr, c)) :
    fn.guarded pdata.imageBase frame t = true := by
  obtain ⟨s, hs, hchosen⟩ := Option.bind_eq_some_iff.1 h
  obtain ⟨hmem, -, hcovers⟩ := mem_of_chosen hchosen
  rw [CppFunction.guarded, hs, Option.any_some, List.any_eq_true]
  exact ⟨tr, hmem, decide_eq_true hcovers⟩

/-- The search of the handler finds nothing where no try block is around the state. -/
theorem searchFrame_of_not_guarded (h : fn.Stored t.world.mem pdata.imageBase frame.fnBegin data)
    (hguarded : fn.guarded pdata.imageBase frame t = false) :
    searchFrame run personality pdata fuel (fn.info.excInfo frame.fnBegin) frame
      (fn.primaryFrame frame t) (fn.state pdata.imageBase frame t) t = .ok (t, -1) := by
  rw [CppFunction.guarded, stateOf] at hguarded
  by_cases hneg : fn.state pdata.imageBase frame t < 0
  · rw [searchFrame, if_neg (by omega)]
  rw [if_neg hneg, Option.any_some, List.any_eq_false] at hguarded
  rw [searchFrame, FuncInfo.excInfo_tryBlocks]
  by_cases hzero : fn.info.tryBlockMap.getD 0 = 0
  · rw [if_neg fun hne => hne.1 hzero]
  · obtain ⟨hhigh, hlies⟩ := h.tries hzero
    obtain ⟨hcount, htries⟩ := lies_append.1 hlies
    rw [if_pos ⟨hzero, by omega⟩, decodes_readUnsigned h.tryCount _ hhigh hcount]
    exact searchTryBlocks_of_not_covers (Nat.le_add_right_of_le hhigh)
      (fun tr htr => (h.catches tr htr).fits) htries
      fun tr htr hcovers => hguarded tr htr (decide_eq_true hcovers)

/-- With a probe, the search finds the catch block that is to take what the probe has found, and goes
on where the probe has left the throw. -/
theorem searchFrame_of_probe {t₁ : ThrowFrame} {tr : Try} {c : Catch}
    (h : fn.Stored t.world.mem pdata.imageBase frame.fnBegin data) (hbase : 0 < pdata.imageBase)
    (hprobe : probeForException run personality pdata fuel t = .ok t₁) (hworld : t₁.world = t.world)
    (hrethrow : t.catchInfo.getThrowInfo (readCatchInfo t.world.mem) = 0)
    (hthrow : t₁.catchInfo.getThrowInfo (readCatchInfo t.world.mem) ≠ 0) (hhandler : t₁.handler = 0)
    (hchosen : (stateOf (fn.state pdata.imageBase frame t)).bind (fun s => Exceptions.chosen (fun c =>
      (c.take run pdata.imageBase (fn.primaryFrame frame t)
        (t₁.catchInfo.getExceptionObject (readCatchInfo t.world.mem))
        (readThrowInfo t.world.mem (t₁.catchInfo.getThrowInfo (readCatchInfo t.world.mem))) t.world).1) s
      fn.tries) = some (tr, c)) :
    ∃ old, searchFrame run personality pdata fuel (fn.info.excInfo frame.fnBegin) frame
        (fn.primaryFrame frame t) (fn.state pdata.imageBase frame t) t =
      .ok (t₁.caught pdata.imageBase frame.fnBegin (fn.primaryFrame frame t) tr c old
        (c.take run pdata.imageBase (fn.primaryFrame frame t)
          (t₁.catchInfo.getExceptionObject (readCatchInfo t.world.mem))
          (readThrowInfo t.world.mem (t₁.catchInfo.getThrowInfo (readCatchInfo t.world.mem)))
          t.world).2, tr.block.targetState) := by
  obtain ⟨s, hs, hchosen⟩ := Option.bind_eq_some_iff.1 hchosen
  obtain ⟨hmem, -, hcovers⟩ := mem_of_chosen hchosen
  unfold stateOf at hs
  split_ifs at hs with hneg
  obtain rfl := Option.some.inj hs
  have hzero : fn.info.tryBlockMap.getD 0 ≠ 0 := fun hzero => by
    rw [h.noTries hzero] at hmem
    cases hmem
  obtain ⟨hhigh, hlies⟩ := h.tries hzero
  obtain ⟨hcount, htries⟩ := lies_append.1 hlies
  rw [searchFrame, FuncInfo.excInfo_tryBlocks, if_pos ⟨hzero, by omega⟩,
    decodes_readUnsigned h.tryCount _ hhigh hcount]
  dsimp only
  rw [searchTryBlocks_of_probe (Nat.le_add_right_of_le hhigh) hprobe hworld hrethrow hthrow
    (fun tr htr => (h.catches tr htr).fits) htries ⟨tr, hmem, hcovers⟩]
  rw [← hworld] at hthrow hchosen htries h ⊢
  have hsearch := @searchTryBlocks_eq run personality pdata frame.fnBegin (fn.primaryFrame frame t) _
    (fn.state pdata.imageBase frame t).toNat fuel _ _ t₁ fn.tries (Nat.le_add_right_of_le hhigh) hbase
    h.catches htries rfl hthrow rfl hhandler
  rw [hchosen] at hsearch
  exact hsearch

/-- The function as it is left: for a state up to `target`. -/
def CppFunction.undone (run : Call → Memory → Memory) (imageBase : Nat) (fn : CppFunction)
    (framePtr : Nat) (target s : Int) (t : ThrowFrame) : ThrowFrame :=
  { t with world := undo run imageBase framePtr fn.nodes (leaveFrom fn.nodes target (stateOf s)) t.world }

theorem destroyFrame_eq {mem : Memory} {target s : Int}
    (h : fn.Stored mem pdata.imageBase frame.fnBegin data)
    (hrun : ∀ c mem a, fixed a → run c mem a = mem a)
    (hmap : ∀ k < (encodeUnwindMap fn.nodes).length, fixed (pdata.imageBase + fn.info.unwindMap.getD 0 + k))
    (hsame : ∀ a, fixed a → t.world.mem a = mem a) (hlow : -1 ≤ target) (hs : s < fn.nodes.length) :
    destroyFrame run pdata (fn.info.excInfo frame.fnBegin) frame s target t =
      .ok (fn.undone run pdata.imageBase frame.framePtr target s t) := by
  unfold destroyFrame CppFunction.undone
  by_cases hlt : target < s
  · have hne : fn.nodes ≠ [] := fun hnil => by
      rw [hnil, List.length_nil] at hs
      omega
    obtain ⟨hhigh, hlies⟩ := h.nodes hne
    have hdestroy := @destroyObjects_eq run pdata.imageBase frame.framePtr t.world fn.nodes target s.toNat
      (fn.info.unwindMap.getD 0) fixed hrun hhigh
      (hlies.congr fun k hk => hsame _ (hmap k hk)) hmap h.wellFormed (by omega) hlow (by omega)
    rw [Int.toNat_of_nonneg (by omega)] at hdestroy
    rw [if_pos hlt, FuncInfo.excInfo_unwindGraph, hdestroy, stateOf, if_neg (by omega)]
    rfl
  · rw [if_neg hlt]
    have hnothing : leaveFrom fn.nodes target (stateOf s) = [] := by
      unfold stateOf
      split_ifs with hneg
      · rfl
      · rw [leaveFrom, leave, if_pos (by omega)]
    rw [hnothing]
    rfl

/-- The search, and what it leaves to destroy. -/
theorem fh_of_searchFrame {target : Int} {t' : ThrowFrame}
    (hdata : data = pdata.imageBase + load t.world.mem frame.extraData 4)
    (h : fn.Stored t.world.mem pdata.imageBase frame.fnBegin data)
    (hrun : ∀ c mem a, fixed a → run c mem a = mem a)
    (hmap : ∀ k < (encodeUnwindMap fn.nodes).length, fixed (pdata.imageBase + fn.info.unwindMap.getD 0 + k))
    (hsearch : searchFrame run personality pdata fuel (fn.info.excInfo frame.fnBegin) frame
      (fn.primaryFrame frame t) (fn.state pdata.imageBase frame t) t = .ok (t', target))
    (hsame : ∀ a, fixed a → t'.world.mem a = t.world.mem a) (hlow : -1 ≤ target)
    (hstate : fn.state pdata.imageBase frame t < fn.nodes.length) :
    fh run personality pdata fuel frame t =
      .ok (fn.undone run pdata.imageBase frame.framePtr target (fn.state pdata.imageBase frame t) t') := by
  have hinfo : loadExceptionInfo pdata.imageBase frame.fnBegin t.world.mem data =
      (fn.info.excInfo frame.fnBegin, data + fn.info.encode.length) :=
    decodes_loadExceptionInfo h.fits h.segments data h.high h.header
  unfold fh
  dsimp only
  rw [← hdata, hinfo]
  dsimp only
  rw [frameState_eq h]
  dsimp only
  rw [hsearch]
  exact destroyFrame_eq h hrun hmap hsame hlow hstate

theorem fh_of_not_guarded (hdata : data = pdata.imageBase + load t.world.mem frame.extraData 4)
    (h : fn.Stored t.world.mem pdata.imageBase frame.fnBegin data)
    (hrun : ∀ c mem a, fixed a → run c mem a = mem a)
    (hmap : ∀ k < (encodeUnwindMap fn.nodes).length, fixed (pdata.imageBase + fn.info.unwindMap.getD 0 + k))
    (hstate : fn.state pdata.imageBase frame t < fn.nodes.length)
    (hguarded : fn.guarded pdata.imageBase frame t = false) :
    fh run personality pdata fuel frame t =
      .ok (fn.undone run pdata.imageBase frame.framePtr (-1) (fn.state pdata.imageBase frame t) t) :=
  fh_of_searchFrame hdata h hrun hmap (searchFrame_of_not_guarded h hguarded) (fun _ _ => rfl)
    (Int.le_refl _) hstate

theorem fh_of_none (hdata : data = pdata.imageBase + load t.world.mem frame.extraData 4)
    (h : fn.Stored t.world.mem pdata.imageBase frame.fnBegin data) (hbase : 0 < pdata.imageBase)
    (hthrow : t.catchInfo.getThrowInfo (readCatchInfo t.world.mem) ≠ 0) (hhandler : t.handler = 0)
    (hrun : ∀ c mem a, fixed a → run c mem a = mem a)
    (hmap : ∀ k < (encodeUnwindMap fn.nodes).length, fixed (pdata.imageBase + fn.info.unwindMap.getD 0 + k))
    (hstate : fn.state pdata.imageBase frame t < fn.nodes.length)
    (hchosen : fn.chosen pdata.imageBase frame t run = none) :
    ∃ conts, fh run personality pdata fuel frame t =
      .ok (fn.undone run pdata.imageBase frame.framePtr (-1) (fn.state pdata.imageBase frame t)
        (t.examined conts)) := by
  have hsearch := @searchFrame_eq run personality pdata fn frame t fuel data h hbase hthrow hhandler
  rw [hchosen] at hsearch
  obtain ⟨conts, hsearch⟩ := hsearch
  exact ⟨conts, fh_of_searchFrame hdata h hrun hmap hsearch (fun _ _ => rfl) (Int.le_refl _) hstate⟩

theorem fh_of_some {tr : Try} {c : Catch}
    (hdata : data = pdata.imageBase + load t.world.mem frame.extraData 4)
    (h : fn.Stored t.world.mem pdata.imageBase frame.fnBegin data) (hbase : 0 < pdata.imageBase)
    (hthrow : t.catchInfo.getThrowInfo (readCatchInfo t.world.mem) ≠ 0) (hhandler : t.handler = 0)
    (hrun : ∀ c mem a, fixed a → run c mem a = mem a)
    (hmap : ∀ k < (encodeUnwindMap fn.nodes).length, fixed (pdata.imageBase + fn.info.unwindMap.getD 0 + k))
    (hstate : fn.state pdata.imageBase frame t < fn.nodes.length)
    (hchosen : fn.chosen pdata.imageBase frame t run = some (tr, c))
    (htake : ∀ a, fixed a → (fn.take pdata.imageBase frame t run c).2.mem a = t.world.mem a) :
    ∃ old, fh run personality pdata fuel frame t =
      .ok (fn.undone run pdata.imageBase frame.framePtr (tr.block.tryLow - 1)
        (fn.state pdata.imageBase frame t)
        (t.caught pdata.imageBase frame.fnBegin (fn.primaryFrame frame t) tr c old
          (fn.take pdata.imageBase frame t run c).2)) := by
  have hsearch := @searchFrame_eq run personality pdata fn frame t fuel data h hbase hthrow hhandler
  rw [hchosen] at hsearch
  obtain ⟨old, hsearch⟩ := hsearch
  have htr : tr ∈ fn.tries := by
    obtain ⟨s, -, hs⟩ := Option.bind_eq_some_iff.1 hchosen
    exact (mem_of_chosen hs).1
  rw [TryBlock.targetState_eq (h.catches tr htr).fits] at hsearch
  exact ⟨old, fh_of_searchFrame hdata h hrun hmap hsearch htake (by omega) hstate⟩

/-- The frame handler takes the first catch block around the state of the frame that takes the
exception, and sets up the throw for it. It destroys what is alive in the frame and not in front of
the try block, or all that is alive. -/
theorem fh_eq (hdata : data = pdata.imageBase + load t.world.mem frame.extraData 4)
    (h : fn.Stored t.world.mem pdata.imageBase frame.fnBegin data) (hbase : 0 < pdata.imageBase)
    (hthrow : t.catchInfo.getThrowInfo (readCatchInfo t.world.mem) ≠ 0) (hhandler : t.handler = 0)
    (hrun : ∀ c mem a, fixed a → run c mem a = mem a)
    (hmap : ∀ k < (encodeUnwindMap fn.nodes).length, fixed (pdata.imageBase + fn.info.unwindMap.getD 0 + k))
    (htake : ∀ tr c, fn.chosen pdata.imageBase frame t run = some (tr, c) →
      ∀ a, fixed a → (fn.take pdata.imageBase frame t run c).2.mem a = t.world.mem a)
    (hstate : fn.state pdata.imageBase frame t < fn.nodes.length) :
    match fn.chosen pdata.imageBase frame t run with
    | none => ∃ conts, fh run personality pdata fuel frame t =
        .ok (fn.undone run pdata.imageBase frame.framePtr (-1) (fn.state pdata.imageBase frame t)
          (t.examined conts))
    | some (tr, c) => ∃ old, fh run personality pdata fuel frame t =
        .ok (fn.undone run pdata.imageBase frame.framePtr (tr.block.tryLow - 1)
          (fn.state pdata.imageBase frame t)
          (t.caught pdata.imageBase frame.fnBegin (fn.primaryFrame frame t) tr c old
            (fn.take pdata.imageBase frame t run c).2)) := by
  cases hchosen : fn.chosen pdata.imageBase frame t run with
  | none => exact fh_of_none hdata h hbase hthrow hhandler hrun hmap hstate hchosen
  | some chosen =>
    exact fh_of_some hdata h hbase hthrow hhandler hrun hmap hstate hchosen
      (htake chosen.1 chosen.2 hchosen)

/-- A catch block for every exception. -/
def catchAll : Catch := ⟨some 64, none, none, 40, false, [12]⟩

def guardedTry : Try := ⟨⟨1, 1, 2, 462⟩, [catchAll]⟩

/-- A function with a try block from its ninth byte on, in a scope of its own. -/
def guardedFunction : CppFunction where
  info := ⟨none, some 437, some 454, .single 449, none, false, false⟩
  nodes := nestedScopes
  regions := [(0, 0), (8, 1)]
  tries := [guardedTry]

/-- Its tables, one behind the other. -/
def guardedTables : List (BitVec 8) :=
  guardedFunction.info.encode ++ (encodeUnwindMap guardedFunction.nodes ++
    (encodeRegions guardedFunction.regions ++ (encodeTries guardedFunction.tries ++
      encodeCatches guardedTry.catches)))

theorem lies_guardedTables {mem : Memory} (h : Lies mem 440 guardedTables) :
    Lies mem 440 guardedFunction.info.encode ∧ Lies mem 453 (encodeUnwindMap guardedFunction.nodes) ∧
      Lies mem 465 (encodeRegions guardedFunction.regions) ∧
      Lies mem 470 (encodeTries guardedFunction.tries) ∧
      Lies mem 478 (encodeCatches guardedTry.catches) := by
  obtain ⟨hheader, h⟩ := lies_append.1 h
  obtain ⟨hmap, h⟩ := lies_append.1 h
  obtain ⟨hregions, h⟩ := lies_append.1 h
  obtain ⟨htries, hcatches⟩ := lies_append.1 h
  exact ⟨hheader, hmap, hregions, htries, hcatches⟩

theorem guardedTry_stored {mem : Memory} (h : Lies mem 440 guardedTables) :
    guardedTry.Stored mem 16 where
  fits := ⟨by decide, by decide, by decide, by decide⟩
  count := by decide
  high := by decide
  catches := by
    intro c hc
    rw [List.mem_singleton.1 hc]
    exact ⟨by decide, by decide, by decide, by decide, by decide, by decide⟩
  lies := (lies_guardedTables h).2.2.2.2

theorem guardedFunction_stored {mem : Memory} (h : Lies mem 440 guardedTables) :
    guardedFunction.Stored mem 16 384 440 where
  fits := ⟨by decide, by decide, by decide, show 449 < 2 ^ 32 by decide, by decide⟩
  high := by decide
  header := (lies_guardedTables h).1
  segments := trivial
  wellFormed := nestedScopes_wellFormed
  nodes _ := ⟨by decide, (lies_guardedTables h).2.1⟩
  regionsFit := ⟨by decide, by decide, by decide, by decide⟩
  states := by decide
  noRegions := by decide
  regions _ := ⟨by decide, (lies_guardedTables h).2.2.1⟩
  tryCount := by decide
  noTries := by decide
  tries _ := ⟨by decide, (lies_guardedTables h).2.2.2.1⟩
  catches := by
    intro t ht
    rw [List.mem_singleton.1 ht]
    exact guardedTry_stored h

/-- A throw in the try block. -/
def guardedThrow : ThrowFrame where
  ctx := ⟨fun _ => 0, fun _ => 0, 0⟩
  mach := ⟨412, 608⟩
  catchInfo := ⟨(0, 0), 0, 8, 8, 0⟩
  handler := 0
  world := ⟨.holding 436 (encodeInt 424 ++ guardedTables), []⟩

def guardedFrame : FrameInfo := ⟨384, 608, 436⟩

theorem chosen_guardedFunction :
    guardedFunction.chosen 16 guardedFrame guardedThrow (fun _ mem => mem) =
      some (guardedTry, catchAll) := by decide

theorem fh_eq_guardedFunction :
    ∃ old, fh (fun _ mem => mem) (fun _ => .foreign) ⟨16, 416, 1, 512⟩ 1 guardedFrame guardedThrow =
      .ok (guardedFunction.undone (fun _ mem => mem) 16 608 0 1
        (guardedThrow.caught 16 384 608 guardedTry catchAll old guardedThrow.world)) := by
  have hlies : Lies guardedThrow.world.mem 440 guardedTables := by decide +kernel
  have h := @fh_eq (fun _ mem => mem) (fun _ => .foreign) ⟨16, 416, 1, 512⟩ guardedFunction guardedFrame
    guardedThrow 1 440 (fun _ => True) (by decide)
    (guardedFunction_stored hlies) (by decide) (by decide) rfl
    (fun _ _ _ _ => rfl) (fun _ _ => trivial) ?_ (by decide)
  · rw [chosen_guardedFunction] at h
    exact h
  · intro tr c hchosen a _
    rw [chosen_guardedFunction] at hchosen
    obtain ⟨rfl, rfl⟩ := Prod.mk.inj (Option.some.inj hchosen)
    rfl

end Handle

end WinShell.Exceptions
