-- SUMMARY: Who owns an exception object, and what the handler of a catch block does with it.
import Mathlib.Tactic.Common

/-!
# Exception objects

A throw leaves a `catch_info` on the stack. It belongs to the throw while frames are
searched and to the catch block afterwards. It owns the exception object, or it is a
link to the `catch_info` further down that does: a rethrow starts out with neither, and
`probe_for_exception` links it to the innermost catch block. A catch block that is
unwound hands its object over to a rethrow and destroys it otherwise.
-/

namespace WinShell.Exceptions

/-! ## Catch information -/

structure CatchInfo where
  continuationAddress : Nat × Nat
  primaryFramePtr : Nat
  exceptionObjectOrLink : Nat
  throwInfoIfOwner : Nat
  unwindContext : Int
deriving DecidableEq, Inhabited

inductive BugCheckReason where
  | corruptedMachineState
  | corruptedPeHeader
  | noMatchingExceptionHandler
  | unwindingNonCxxFrame
  | corruptedEhUnwindData
  | corruptedExceptionHandler
deriving DecidableEq

/-- The cookies that tell a frame handler what it is called for. -/
inductive Cookie where
  | unwind
  | rethrowProbe
  | foreign
deriving DecidableEq

inductive ExceptionDisposition where
  | continueSearch
  | cxxHandler
deriving DecidableEq

/-- The call of an exception object's destructor. -/
structure Destruction where
  destructor : Nat
  object : Nat
deriving DecidableEq

namespace CatchInfo

-- `other` is the `catch_info` at an address
variable (other : Nat → CatchInfo)

def getExceptionObject (ci : CatchInfo) : Nat :=
  if ci.throwInfoIfOwner ≠ 0 then ci.exceptionObjectOrLink
  else if ci.exceptionObjectOrLink ≠ 0 then (other ci.exceptionObjectOrLink).exceptionObjectOrLink
  else 0

def getThrowInfo (ci : CatchInfo) : Nat :=
  if ci.exceptionObjectOrLink ≠ 0 then
    if ci.throwInfoIfOwner = 0 then (other ci.exceptionObjectOrLink).throwInfoIfOwner
    else ci.throwInfoIfOwner
  else 0

end CatchInfo

section Handlers

-- the `destroy_exc_obj` of a `throw_info`, and the image it is relative to
variable (destroyExcObj : Nat → Nat) (imageBase : Nat)

/-- `__cxx_destroy_exception`: the destructor it calls, if any. -/
def destroyException (ci : CatchInfo) : Option Destruction :=
  if ci.throwInfoIfOwner ≠ 0 ∧ destroyExcObj ci.throwInfoIfOwner ≠ 0 then
    some ⟨imageBase + destroyExcObj ci.throwInfoIfOwner, ci.exceptionObjectOrLink⟩
  else none

/-- `__cxx_call_catch_frame_handler` for a catch block whose `catch_info` is `frame` at `address`,
while `ci` is thrown. -/
def callCatchFrameHandler (cookie : Cookie) (address : Nat) (frame ci : CatchInfo) :
    Except BugCheckReason (ExceptionDisposition × CatchInfo × Option Destruction) :=
  match cookie with
  | .rethrowProbe =>
    if frame.exceptionObjectOrLink = 0 then .error .corruptedExceptionHandler
    else if frame.throwInfoIfOwner ≠ 0 then
      .ok (.cxxHandler, { ci with exceptionObjectOrLink := address }, none)
    else
      .ok (.cxxHandler, { ci with exceptionObjectOrLink := frame.exceptionObjectOrLink }, none)
  | .unwind =>
    if ci.exceptionObjectOrLink = 0 ∨ ci.exceptionObjectOrLink = address then
      .ok (.cxxHandler,
        { ci with
          exceptionObjectOrLink := frame.exceptionObjectOrLink
          throwInfoIfOwner := frame.throwInfoIfOwner
          primaryFramePtr := frame.primaryFramePtr
          unwindContext := frame.unwindContext }, none)
    else
      .ok (.cxxHandler,
        { ci with
          primaryFramePtr := frame.primaryFramePtr
          unwindContext := frame.unwindContext },
        destroyException destroyExcObj imageBase frame)
  | .foreign => .ok (.continueSearch, ci, none)

end Handlers

/-- What `__cxx_dispatch_exception` sets; the other fields are not initialised. -/
def thrownInfo (init : CatchInfo) (object throwInfo : Nat) : CatchInfo :=
  { init with
    exceptionObjectOrLink := object
    throwInfoIfOwner := throwInfo
    primaryFramePtr := 0 }

/-! ## Ownership -/

/-- The object that a `catch_info` owns, with its `throw_info`. -/
def CatchInfo.owned (ci : CatchInfo) : Option (Nat × Nat) :=
  if ci.throwInfoIfOwner ≠ 0 then some (ci.exceptionObjectOrLink, ci.throwInfoIfOwner) else none

/-- The throw takes over what a catch block has: it is a rethrow, or linked to the catch block. -/
def CatchInfo.TakesOver (ci : CatchInfo) (address : Nat) : Prop :=
  ci.exceptionObjectOrLink = 0 ∨ ci.exceptionObjectOrLink = address

instance (ci : CatchInfo) (address : Nat) : Decidable (ci.TakesOver address) :=
  inferInstanceAs (Decidable (_ ∨ _))

/-- The throw behind a catch block whose `catch_info` is `frame` at `address`. -/
def CatchInfo.passed (ci : CatchInfo) (address : Nat) (frame : CatchInfo) : CatchInfo :=
  if ci.TakesOver address then
    { ci with
      exceptionObjectOrLink := frame.exceptionObjectOrLink
      throwInfoIfOwner := frame.throwInfoIfOwner
      primaryFramePtr := frame.primaryFramePtr
      unwindContext := frame.unwindContext }
  else
    { ci with
      primaryFramePtr := frame.primaryFramePtr
      unwindContext := frame.unwindContext }

/-- The object that is destroyed with a catch block. -/
def CatchInfo.released (ci : CatchInfo) (address : Nat) (frame : CatchInfo) : Option (Nat × Nat) :=
  if ci.TakesOver address then none else frame.owned

section Ownership

variable {destroyExcObj : Nat → Nat} {imageBase address : Nat} {ci frame : CatchInfo}

/-- The destructor call that an object and its `throw_info` require. -/
def destruction (destroyExcObj : Nat → Nat) (imageBase : Nat) (x : Nat × Nat) : Option Destruction :=
  if destroyExcObj x.2 ≠ 0 then some ⟨imageBase + destroyExcObj x.2, x.1⟩ else none

theorem destroyException_eq (ci : CatchInfo) :
    destroyException destroyExcObj imageBase ci =
      ci.owned.bind (destruction destroyExcObj imageBase) := by
  unfold destroyException CatchInfo.owned destruction
  by_cases h : ci.throwInfoIfOwner = 0 <;> simp [h]

/-- Unwinding a catch block: its object is taken over or destroyed. -/
theorem callCatchFrameHandler_unwind :
    callCatchFrameHandler destroyExcObj imageBase .unwind address frame ci =
      .ok (.cxxHandler, ci.passed address frame,
        (ci.released address frame).bind (destruction destroyExcObj imageBase)) := by
  unfold CatchInfo.passed CatchInfo.released
  by_cases h : ci.TakesOver address
  · rw [if_pos h, if_pos h]
    exact if_pos h
  · rw [if_neg h, if_neg h, ← destroyException_eq]
    exact if_neg h

end Ownership

end WinShell.Exceptions
