-- SUMMARY: Which catch block takes an exception, and what it gets as its variable.
import WinShell.Exceptions.Unwind

/-!
# Catch blocks

An exception is thrown with a list of the types by which it can be caught, the thrown
type and its bases. `process_catch_block` takes the first of them that is the type of a
catch block, and sets up the block's variable.
-/

namespace WinShell.Exceptions

open Store

/-! ## Types -/

/-- `member_ptr`: where an object contains a base. -/
structure MemberPtr where
  vbaseOffset : Nat
  vbtablePtrOffset : Nat
  memberOffset : Nat
deriving DecidableEq

def MemberPtr.apply (mem : Memory) (ptr : MemberPtr) (obj : Nat) : Nat :=
  if ptr.vbtablePtrOffset ≠ 0 then
    let vbtablePtr := add64 obj ptr.vbtablePtrOffset
    let vbtable := load mem vbtablePtr 8
    add64 (add64 vbtablePtr (load mem (add64 vbtable ptr.vbaseOffset) 4)) ptr.memberOffset
  else add64 obj ptr.memberOffset

structure CatchableType where
  properties : BitVec 32
  desc : Nat
  offset : MemberPtr
  size : Nat
  copyFn : Nat
deriving DecidableEq

def readCatchableType (mem : Memory) (a : Nat) : CatchableType where
  properties := BitVec.ofNat 32 (load mem a 4)
  desc := load mem (a + 4) 4
  offset := ⟨load mem (a + 8) 4, load mem (a + 12) 4, load mem (a + 16) 4⟩
  size := load mem (a + 20) 4
  copyFn := load mem (a + 24) 4

-- the members of `catchable_property`
def isSimpleType (properties : BitVec 32) : Bool := properties.getLsbD 0
def byReferenceOnly (properties : BitVec 32) : Bool := properties.getLsbD 1
def hasVirtualBase (properties : BitVec 32) : Bool := properties.getLsbD 2

-- the members of `catch_flag`
def isReference (adjectives : BitVec 32) : Bool := adjectives.getLsbD 3
def isEllipsis (adjectives : BitVec 32) : Bool := adjectives.getLsbD 6

structure ThrowInfo where
  attributes : BitVec 32
  destroyExcObj : Nat
  catchables : Nat
deriving DecidableEq

def readThrowInfo (mem : Memory) (a : Nat) : ThrowInfo where
  attributes := BitVec.ofNat 32 (load mem a 4)
  destroyExcObj := load mem (a + 4) 4
  catchables := load mem (a + 12) 4

/-! ## The catch variable -/

section Catch

variable (run : Call → Memory → Memory) (imageBase : Nat)

def copyToCatchBlock (catchable : CatchableType) (catchVar exceptionObject : Nat) (w : World) :
    World :=
  if isSimpleType catchable.properties then
    { w with mem := copy w.mem catchVar exceptionObject catchable.size }
  else if catchable.copyFn = 0 then
    let address := catchable.offset.apply w.mem exceptionObject
    { w with mem := copy w.mem catchVar address catchable.size }
  else if hasVirtualBase catchable.properties then
    w.call run ⟨imageBase + catchable.copyFn, [catchVar, exceptionObject, 1]⟩
  else w.call run ⟨imageBase + catchable.copyFn, [catchVar, exceptionObject]⟩

def transferToCatchBlock (adjectives : BitVec 32) (catchable : CatchableType)
    (catchVar exceptionObject : Nat) (w : World) : World :=
  if !byReferenceOnly catchable.properties || isReference adjectives then
    if !isReference adjectives then
      copyToCatchBlock run imageBase catchable catchVar exceptionObject w
    else { w with mem := store w.mem catchVar exceptionObject 8 }
  else w

/-- The loop of `process_catch_block_unchecked`, over the entries from `p` on. -/
def processCatchables (adjectives : BitVec 32) (matchType catchVar exceptionObject : Nat) :
    Nat → Nat → World → Bool × World
  | 0, _, w => (false, w)
  | count + 1, p, w =>
    let catchable := readCatchableType w.mem (imageBase + load w.mem p 4)
    if imageBase + catchable.desc = matchType then
      (true, transferToCatchBlock run imageBase adjectives catchable catchVar exceptionObject w)
    else processCatchables adjectives matchType catchVar exceptionObject count (p + 4) w

def processCatchBlock (adjectives : BitVec 32) (matchType catchVar exceptionObject : Nat)
    (throwInfo : ThrowInfo) (w : World) : Bool × World :=
  if isEllipsis adjectives then (true, w)
  else if throwInfo.attributes &&& 7#32 &&& ~~~adjectives ≠ 0#32 then (false, w)
  else
    let catchableList := imageBase + throwInfo.catchables
    processCatchables run imageBase adjectives matchType catchVar exceptionObject
      (load w.mem catchableList 4) (catchableList + 4) w

end Catch

/-! ## What is caught -/

section Catches

variable {run : Call → Memory → Memory} {mem : Memory} {imageBase matchType catchVar : Nat}
variable {exceptionObject p n : Nat} {adjectives : BitVec 32} {throwInfo : ThrowInfo} {w : World}

/-- The types by which an exception can be caught. -/
def catchableTypes (mem : Memory) (imageBase : Nat) : Nat → Nat → List CatchableType
  | 0, _ => []
  | count + 1, p =>
    readCatchableType mem (imageBase + load mem p 4) :: catchableTypes mem imageBase count (p + 4)

def ThrowInfo.types (mem : Memory) (imageBase : Nat) (throwInfo : ThrowInfo) : List CatchableType :=
  let catchableList := imageBase + throwInfo.catchables
  catchableTypes mem imageBase (load mem catchableList 4) (catchableList + 4)

/-- No qualifier of the thrown pointer's target is lost. -/
def Qualified (throwInfo : ThrowInfo) (adjectives : BitVec 32) : Prop :=
  ∀ i < 3, throwInfo.attributes.getLsbD i = true → adjectives.getLsbD i = true

/-- The type by which a catch block takes the exception. -/
def firstMatch (mem : Memory) (imageBase : Nat) (throwInfo : ThrowInfo) (matchType : Nat) :
    Option CatchableType :=
  (throwInfo.types mem imageBase).find? fun catchable => imageBase + catchable.desc = matchType

theorem qualified_iff :
    Qualified throwInfo adjectives ↔ throwInfo.attributes &&& 7#32 &&& ~~~adjectives = 0#32 := by
  have hseven : ∀ i < 32, (7#32).getLsbD i = decide (i < 3) := by decide
  constructor
  · intro h
    refine BitVec.eq_of_getLsbD_eq fun i hi => ?_
    simp only [BitVec.getLsbD_and, BitVec.getLsbD_not, hseven i hi, BitVec.getLsbD_zero, hi, decide_true,
      Bool.true_and]
    by_cases hlow : i < 3
    · cases ha : throwInfo.attributes.getLsbD i with
      | false => simp
      | true => simp [h i hlow ha]
    · simp [hlow]
  · intro h i hi ha
    have hbit := congrArg (fun x : BitVec 32 => x.getLsbD i) h
    have hi' : i < 32 := Nat.lt_trans hi (by decide)
    simp only [BitVec.getLsbD_and, BitVec.getLsbD_not, hseven i hi', BitVec.getLsbD_zero, hi', hi, ha,
      decide_true, Bool.true_and, Bool.not_eq_false'] at hbit
    exact hbit

instance : Decidable (Qualified throwInfo adjectives) := decidable_of_iff _ qualified_iff.symm

theorem processCatchables_eq :
    processCatchables run imageBase adjectives matchType catchVar exceptionObject n p w =
      match (catchableTypes w.mem imageBase n p).find? fun catchable =>
        imageBase + catchable.desc = matchType with
      | none => (false, w)
      | some catchable =>
        (true, transferToCatchBlock run imageBase adjectives catchable catchVar exceptionObject w) := by
  induction n generalizing p with
  | zero => rfl
  | succ n ih =>
    rw [processCatchables, catchableTypes]
    by_cases h : imageBase + (readCatchableType w.mem (imageBase + load w.mem p 4)).desc = matchType
    · rw [if_pos h, List.find?_cons_of_pos (by simpa using h)]
    · rw [if_neg h, List.find?_cons_of_neg (by simpa using h), ih]

/-- What a catch block does with an exception, by the qualifiers and the types alone. -/
theorem processCatchBlock_eq :
    processCatchBlock run imageBase adjectives matchType catchVar exceptionObject throwInfo w =
      if isEllipsis adjectives = true then (true, w)
      else if ¬Qualified throwInfo adjectives then (false, w)
      else match firstMatch w.mem imageBase throwInfo matchType with
        | none => (false, w)
        | some catchable =>
          (true, transferToCatchBlock run imageBase adjectives catchable catchVar exceptionObject w) := by
  rw [processCatchBlock]
  by_cases hellipsis : isEllipsis adjectives = true
  · rw [if_pos hellipsis, if_pos hellipsis]
  rw [if_neg hellipsis, if_neg hellipsis]
  by_cases hqualified : Qualified throwInfo adjectives
  · rw [if_neg (not_not.2 (qualified_iff.1 hqualified)), if_neg (not_not.2 hqualified)]
    exact processCatchables_eq
  · rw [if_pos fun h => hqualified (qualified_iff.2 h), if_pos hqualified]

end Catches

end WinShell.Exceptions
