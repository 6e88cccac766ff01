-- SUMMARY: The frame handlers, and the walk over the frames that calls them.
import WinShell.Exceptions.Handlers

/-!
# Frame handlers and the walk

`__cxx_dispatch_exception` calls the handler of one frame after the other and unwinds the
frame, until a handler has found a catch block. The handler of a C++ frame looks for a
catch block that takes the exception and destroys what is alive between the state of the
frame and that of the catch block. A rethrow has to find the exception first:
`probe_for_exception` walks over the same frames for that.
-/

namespace WinShell.Exceptions

open Store

/-- Why a walk ends without a catch block. -/
inductive Failure where
  | bugCheck (reason : BugCheckReason)
  /-- The entry of a function that is not in the table is read. -/
  | nullEntry
  /-- The walk is not over. -/
  | unfinished
deriving DecidableEq

def check {α : Type} : Except BugCheckReason α → Except Failure α
  | .ok a => .ok a
  | .error reason => .error (.bugCheck reason)

/-- `throw_frame`, with the handler that `dispatcher_context` takes up. -/
structure ThrowFrame where
  ctx : FrameWalkContext
  mach : MachineFrame
  catchInfo : CatchInfo
  handler : Nat
  world : World

/-- What is called for a frame. `foreign` stands for the handlers of other languages. -/
inductive Personality where
  | cxxFrameHandler4
  | callCatchFrameHandler
  | sehFrameHandler
  | foreign
deriving DecidableEq

/-- What a handler is told of its frame. -/
structure FrameInfo where
  fnBegin : Nat
  framePtr : Nat
  extraData : Nat

def readCatchInfo (mem : Memory) (a : Nat) : CatchInfo where
  continuationAddress := (load mem a 8, load mem (a + 8) 8)
  primaryFramePtr := load mem (a + 16) 8
  exceptionObjectOrLink := load mem (a + 24) 8
  throwInfoIfOwner := load mem (a + 32) 8
  unwindContext := (BitVec.ofNat 64 (load mem (a + 40) 8)).toInt

/-- The offset of `catch_info` in `catch_frame`. -/
def catchInfoOffset : Nat := 72

section Walk

variable (run : Call → Memory → Memory) (personality : Nat → Personality) (pdata : Pdata)

/-! ## The handler of a catch block -/

/-- `__cxx_call_catch_frame_handler`, with the destructor it calls. -/
def catchFrameHandler (cookie : Cookie) (frame : FrameInfo) (t : ThrowFrame) :
    Except Failure ThrowFrame := do
  let address := frame.framePtr + catchInfoOffset
  let destroyExcObj throwInfo := (readThrowInfo t.world.mem throwInfo).destroyExcObj
  let (_, catchInfo, destruction) ← check <| callCatchFrameHandler destroyExcObj pdata.imageBase cookie
    address (readCatchInfo t.world.mem address) t.catchInfo
  match destruction with
  | none => return { t with catchInfo }
  | some d => return { t with catchInfo, world := t.world.call run ⟨d.destructor, [d.object]⟩ }

/-! ## Calling a handler -/

/-- The frame pointer that a handler is passed. -/
def establisherFrame (info : UnwindInfo) (t : ThrowFrame) : Except BugCheckReason Nat :=
  if info.frameReg ≠ 0 then (gpIndex info.frameReg).map t.ctx.gp else .ok t.mach.rsp

def prepareForNonCxxHandler (t : ThrowFrame) : ThrowFrame :=
  { t with
    ctx :=
      { t.ctx with
        -- `dummy_rsp` is the upper half of its block
        xmm := Function.update t.ctx.xmm 9 (t.ctx.xmm 9 % 2 ^ 64 + 2 ^ 64 * t.mach.rsp)
        dummyRip := t.mach.rip } }

/-- `execute_handler` up to the call: the unwind info of the frame, the address of its handler and
what that is told, if there is one. -/
def enterFrame (t : ThrowFrame) :
    Except Failure (UnwindInfo × Option (Nat × FrameInfo) × ThrowFrame) := do
  match ← check (pdata.findFunctionEntry t.world.mem t.mach.rip) with
  | none => .error .nullEntry
  | some entry =>
    let fn := readRuntimeFunction t.world.mem entry
    let unwindStruct := pdata.imageBase + fn.unwindStruct
    let info := readUnwindInfo t.world.mem unwindStruct
    if info.flags &&& 3 = 0 then return (info, none, t)
    else
      let unwindSlots := (info.codeCount + 1) / 2 * 2
      let handlerRva := unwindStruct + 4 + 2 * unwindSlots
      let framePtr ← check (establisherFrame info t)
      return (info,
        some (pdata.imageBase + load t.world.mem handlerRva 4, ⟨fn.beginRva, framePtr, handlerRva + 4⟩),
        prepareForNonCxxHandler t)

def unwindFrame (info : UnwindInfo) (t : ThrowFrame) : Except Failure ThrowFrame := do
  let (ctx, mach) ← check (unwind t.world.mem info t.ctx t.mach)
  return { t with ctx, mach }

def callForeign (handler : Nat) (frame : FrameInfo) (t : ThrowFrame) : ThrowFrame :=
  { t with world := t.world.call run ⟨handler, [frame.framePtr]⟩ }

/-! ## The probe -/

/-- A handler that is called with the cookie of a probe. -/
def callProbed (handler : Nat) (frame : FrameInfo) (t : ThrowFrame) : Except Failure ThrowFrame :=
  match personality handler with
  | .cxxFrameHandler4 | .sehFrameHandler => .ok t
  | .callCatchFrameHandler => catchFrameHandler run pdata .rethrowProbe frame t
  | .foreign => .ok (callForeign run handler frame t)

def callOptional (call : Nat → FrameInfo → ThrowFrame → Except Failure ThrowFrame) :
    Option (Nat × FrameInfo) → ThrowFrame → Except Failure ThrowFrame
  | none, t => .ok t
  | some (handler, frame), t => call handler frame t

/-- `probe_for_exception`. Its context and its machine frame are those of the throw frame, by
reference. -/
def probeForException : Nat → ThrowFrame → Except Failure ThrowFrame
  | 0, _ => .error .unfinished
  | fuel + 1, t => do
    let (info, handler, t) ← enterFrame pdata t
    let t ← callOptional (callProbed run personality pdata) handler t
    if t.catchInfo.exceptionObjectOrLink ≠ 0 then return t
    else
      let t ← unwindFrame info t
      probeForException fuel t

end Walk

/-! ## Try blocks -/

-- the members of `catch_block_flag`
def hasTypeFlags (flags : BitVec 8) : Bool := flags.getLsbD 0
def hasTypeInfo (flags : BitVec 8) : Bool := flags.getLsbD 1
def hasCatchVar (flags : BitVec 8) : Bool := flags.getLsbD 2
def imageRva (flags : BitVec 8) : Bool := flags.getLsbD 3
def continuationAddrCount (flags : BitVec 8) : Nat := flags.toNat / 16 % 4

structure HandlerEntry where
  flags : BitVec 8
  typeFlags : Nat
  type : Nat
  catchVar : Nat
  handler : Nat
  continuations : List Nat
deriving DecidableEq

def readContinuation (imageRva : Bool) : Reader Nat := if imageRva then readRva else readUnsigned

def readContinuations (imageRva : Bool) : Nat → Reader (List Nat)
  | 0 => pure []
  | count + 1 => do
    let offset ← readContinuation imageRva
    let offsets ← readContinuations imageRva count
    return offset :: offsets

def readHandler : Reader HandlerEntry := do
  let flags ← readByte
  let typeFlags ← Reader.optionally (hasTypeFlags flags) readUnsigned
  let type ← Reader.optionally (hasTypeInfo flags) readRva
  let catchVar ← Reader.optionally (hasCatchVar flags) readUnsigned
  let handler ← readRva
  let continuations ← readContinuations (imageRva flags) (continuationAddrCount flags)
  return ⟨flags, typeFlags, type, catchVar, handler, continuations⟩

structure TryBlock where
  tryLow : Nat
  tryHigh : Nat
  catchHigh : Nat
  handlers : Nat
deriving DecidableEq

def readTryBlock : Reader TryBlock := do
  let tryLow ← readUnsigned
  let tryHigh ← readUnsigned
  let catchHigh ← readUnsigned
  let handlers ← readRva
  return ⟨tryLow, tryHigh, catchHigh, handlers⟩

/-- An element of `continuation_address`, which has `primary_frame_ptr` behind it. -/
def CatchInfo.setContinuation (ci : CatchInfo) (k v : Nat) : CatchInfo :=
  match k with
  | 0 => { ci with continuationAddress := (v, ci.continuationAddress.2) }
  | 1 => { ci with continuationAddress := (ci.continuationAddress.1, v) }
  | _ => { ci with primaryFramePtr := v }

def setContinuations (base : Nat) : List Nat → Nat → CatchInfo → CatchInfo
  | [], _, ci => ci
  | offset :: offsets, k, ci => setContinuations base offsets (k + 1) (ci.setContinuation k (base + offset))

/-- The state in which a catch block of a try block leaves the function. -/
def TryBlock.targetState (block : TryBlock) : Int := int32 (block.tryLow + (2 ^ 32 - 1))

section Handler

variable (run : Call → Memory → Memory) (personality : Nat → Personality) (pdata : Pdata)

/-- The loop over the catch blocks of a try block. -/
def selectHandler (block : TryBlock) (fnBegin primaryFramePtr : Nat) (throwInfo : ThrowInfo) :
    Nat → Nat → ThrowFrame → ThrowFrame
  | 0, _, t => t
  | count + 1, p, t =>
    let (entry, p) := readHandler t.world.mem p
    let base := if imageRva entry.flags then pdata.imageBase else pdata.imageBase + fnBegin
    let catchInfo := setContinuations base entry.continuations 0 t.catchInfo
    let exceptionObject := catchInfo.getExceptionObject (readCatchInfo t.world.mem)
    let (caught, world) := processCatchBlock run pdata.imageBase (BitVec.ofNat 32 entry.typeFlags)
      (pdata.imageBase + entry.type) (primaryFramePtr + entry.catchVar) exceptionObject throwInfo t.world
    if caught then
      { t with
        catchInfo := { catchInfo with primaryFramePtr, unwindContext := block.targetState }
        handler := pdata.imageBase + entry.handler
        world }
    else selectHandler block fnBegin primaryFramePtr throwInfo count p { t with catchInfo, world }

def probeIfNeeded (fuel : Nat) (t : ThrowFrame) : Except Failure ThrowFrame :=
  if t.catchInfo.getThrowInfo (readCatchInfo t.world.mem) = 0 then
    probeForException run personality pdata fuel t
  else .ok t

/-- The loop over the try blocks, with the state in which the function is to be left. -/
def searchTryBlocks (fuel fnBegin primaryFramePtr initialState : Nat) :
    Nat → Nat → ThrowFrame → Except Failure (ThrowFrame × Int)
  | 0, _, t => .ok (t, -1)
  | count + 1, p, t =>
    let (block, p) := readTryBlock t.world.mem p
    if initialState < block.tryLow ∨ block.tryHigh < initialState then
      searchTryBlocks fuel fnBegin primaryFramePtr initialState count p t
    else do
      let t ← probeIfNeeded run personality pdata fuel t
      let throwInfo := readThrowInfo t.world.mem (t.catchInfo.getThrowInfo (readCatchInfo t.world.mem))
      let (handlerCount, q) := readUnsigned t.world.mem (pdata.imageBase + block.handlers)
      let t := selectHandler run pdata block fnBegin primaryFramePtr throwInfo handlerCount q t
      if t.handler ≠ 0 then return (t, block.targetState)
      else searchTryBlocks fuel fnBegin primaryFramePtr initialState count p t

/-- The state of the frame and the frame that its variables belong to. A frame from which a catch
block was called is in the state that the catch block left it in. -/
def frameState (ehInfo : ExcInfo) (frame : FrameInfo) (t : ThrowFrame) : Nat × Int :=
  if frame.framePtr ≤ t.catchInfo.primaryFramePtr then
    (t.catchInfo.primaryFramePtr, (BitVec.ofInt 32 t.catchInfo.unwindContext).toInt)
  else
    let initialState :=
      lookupRegion t.world.mem ehInfo pdata.imageBase frame.fnBegin t.mach.rip
    if isCatchFunclet ehInfo.flags then
      (load t.world.mem (frame.framePtr + ehInfo.primaryFramePtr) 8, initialState)
    else (frame.framePtr, initialState)

/-- The search of `fh`, if there is something to search. -/
def searchFrame (fuel : Nat) (ehInfo : ExcInfo) (frame : FrameInfo) (primaryFramePtr : Nat)
    (initialState : Int) (t : ThrowFrame) : Except Failure (ThrowFrame × Int) :=
  if ehInfo.tryBlocks ≠ 0 ∧ 0 ≤ initialState then
    let (tryBlockCount, p) := readUnsigned t.world.mem (pdata.imageBase + ehInfo.tryBlocks)
    searchTryBlocks run personality pdata fuel frame.fnBegin primaryFramePtr initialState.toNat
      tryBlockCount p t
  else .ok (t, -1)

def destroyFrame (ehInfo : ExcInfo) (frame : FrameInfo) (initialState targetState : Int)
    (t : ThrowFrame) : Except Failure ThrowFrame :=
  if targetState < initialState then do
    let world ← check (destroyObjects run pdata.imageBase frame.framePtr ehInfo.unwindGraph
      initialState targetState t.world)
    return { t with world }
  else .ok t

/-- `fh`, for the cookie of `__cxx_dispatch_exception`. -/
def fh (fuel : Nat) (frame : FrameInfo) (t : ThrowFrame) : Except Failure ThrowFrame := do
  let compressedData := pdata.imageBase + load t.world.mem frame.extraData 4
  let ehInfo := (loadExceptionInfo pdata.imageBase frame.fnBegin t.world.mem compressedData).1
  let (primaryFramePtr, initialState) := frameState pdata ehInfo frame t
  let (t, targetState) ← searchFrame run personality pdata fuel ehInfo frame primaryFramePtr initialState t
  destroyFrame run pdata ehInfo frame initialState targetState t

/-! ## The dispatcher -/

def callHandler (fuel handler : Nat) (frame : FrameInfo) (t : ThrowFrame) : Except Failure ThrowFrame :=
  match personality handler with
  | .cxxFrameHandler4 => fh run personality pdata fuel frame t
  | .callCatchFrameHandler => catchFrameHandler run pdata .unwind frame t
  | .sehFrameHandler => .ok t
  | .foreign => .ok (callForeign run handler frame t)

/-- The loop of `__cxx_dispatch_exception`. -/
def dispatchLoop : Nat → ThrowFrame → Except Failure ThrowFrame
  | 0, _ => .error .unfinished
  | fuel + 1, t => do
    let (info, handler, t) ← enterFrame pdata t
    let t ← callOptional (callHandler run personality pdata fuel) handler t
    if t.handler ≠ 0 then return t
    else
      let t ← unwindFrame info t
      dispatchLoop fuel t

end Handler

/-- `__cxx_dispatch_exception`, for the image at `imageBase`. -/
def cxxDispatchException (run : Call → Memory → Memory) (personality : Nat → Personality)
    (imageBase fuel exceptionObject throwInfo : Nat) (t : ThrowFrame) : Except Failure ThrowFrame := do
  let pdata ← check (Pdata.ofImage t.world.mem imageBase)
  dispatchLoop run personality pdata fuel
    { t with catchInfo := thrownInfo t.catchInfo exceptionObject throwInfo, handler := 0 }

end WinShell.Exceptions
