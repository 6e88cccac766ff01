-- SUMMARY: Dispatching an exception: where a throw ends, what it destroys, and that no exception object is lost on the way.
import WinShell.Exceptions.Stack
import Mathlib.Data.List.Perm.Basic

/-!
# Dispatching an exception

A throw walks up the stack. In each frame of a C++ function the frame handler looks for
a catch block and destroys what is alive, and the frame is unwound to its caller, until
a catch block takes the exception. A catch block on the way is left with its exception:
a rethrow takes it over, and any other throw destroys it.
-/

namespace WinShell.Exceptions

open Store

/-! ## Frames of all kinds -/

/-- A frame that a throw walks over: of a C++ function, of the caller of a catch block with its
`catch_info`, or one whose handler has nothing to do. -/
inductive WalkedFrame where
  | cpp (a : CppFrame)
  | catchBlock (a : StackFrame) (info : CatchInfo)
  | seh (a : StackFrame)

/-- Where the `catch_info` of a catch block lies. -/
def StackFrame.catchInfoAddress (a : StackFrame) : Nat := a.framePtr + catchInfoOffset

/-- The exception object that belongs to a frame. -/
def WalkedFrame.owned : WalkedFrame → Option (Nat × Nat)
  | .catchBlock _ info => info.owned
  | .cpp _ | .seh _ => none

namespace Image

variable (img : Image)

def destroyExcObj (throwInfo : Nat) : Nat := (readThrowInfo img.mem throwInfo).destroyExcObj

/-- The destructor call for an exception object. -/
def destructorCall (x : Nat × Nat) : Option Call :=
  (destruction img.destroyExcObj img.pdata.imageBase x).map fun d => ⟨d.destructor, [d.object]⟩

/-- The destructor of an exception object is called, if there is one. -/
def release (x : Option (Nat × Nat)) (w : World) : World :=
  match x.bind img.destructorCall with
  | none => w
  | some call => w.call img.run call

end Image

/-- A stack of frames, the innermost first, with the registers `ctx` and the throw `ci` in front of it.
The `catch_info` and the `throw_info` of a catch block are apart from what is changed by the functions
that a throw calls. -/
inductive CallStack (img : Image) :
    CatchInfo → FrameWalkContext → MachineFrame → List WalkedFrame → Prop where
  | nil {ci : CatchInfo} {ctx : FrameWalkContext} {mach : MachineFrame} : CallStack img ci ctx mach []
  | cpp {ci : CatchInfo} {ctx : FrameWalkContext} {a : CppFrame} {rest : List WalkedFrame}
    (stands : a.Stands img ci ctx) (h : CallStack img ci a.caller ⟨a.ret, a.callerRsp⟩ rest) :
    CallStack img ci ctx a.mach (.cpp a :: rest)
  | catchBlock {ci : CatchInfo} {ctx : FrameWalkContext} {a : StackFrame} {info : CatchInfo}
    {rest : List WalkedFrame} (stands : a.Stands img .callCatchFrameHandler ctx)
    (hinfo : ∀ mem, img.Agrees mem → readCatchInfo mem a.catchInfoAddress = info)
    (hthrow : ∀ mem, img.Agrees mem →
      (readThrowInfo mem info.throwInfoIfOwner).destroyExcObj = img.destroyExcObj info.throwInfoIfOwner)
    (h : CallStack img (ci.passed a.catchInfoAddress info) a.caller ⟨a.ret, a.callerRsp⟩ rest) :
    CallStack img ci ctx a.mach (.catchBlock a info :: rest)
  | seh {ci : CatchInfo} {ctx : FrameWalkContext} {a : StackFrame} {rest : List WalkedFrame}
    (stands : a.Stands img .sehFrameHandler ctx)
    (h : CallStack img ci a.caller ⟨a.ret, a.callerRsp⟩ rest) :
    CallStack img ci ctx a.mach (.seh a :: rest)

/-! ## Where a throw ends -/

/-- Where a throw ends: the frame with its registers, the throw as it comes there, and the catch block,
with the memory in which it is found and the memory that the catch block gets. `below` are the frames
that are left, and `destroyed` the exception objects of the catch blocks that are not. -/
structure Settled where
  frame : CppFrame
  context : FrameWalkContext
  info : CatchInfo
  tryBlock : Try
  handler : Catch
  before : World
  after : World
  below : List WalkedFrame
  destroyed : List (Nat × Nat)

/-- The first frame with a catch block for the exception takes it. What is alive in the frames in
front of it is destroyed, with the exceptions of the catch blocks among them, and then what is alive in
it up to the try block. A rethrow that is met in a try block before it has an exception ends nowhere. -/
def settle (img : Image) : CatchInfo → FrameWalkContext → List WalkedFrame → World → Option Settled
  | _, _, [], _ => none
  | ci, _, .seh a :: rest, w => settle img ci a.caller rest w
  | ci, _, .catchBlock a info :: rest, w =>
    let released := ci.released a.catchInfoAddress info
    (settle img (ci.passed a.catchInfoAddress info) a.caller rest (img.release released w)).map fun st =>
      { st with destroyed := released.toList ++ st.destroyed }
  | ci, ctx, .cpp a :: rest, w =>
    if ci.getThrowInfo (readCatchInfo w.mem) = 0 ∧ a.guarded img ci w = true then none
    else
      match a.chosen img ci w with
      | none => settle img ci a.caller rest (a.leave img ci w (-1) w)
      | some (tr, c) =>
        some ⟨a, ctx, ci, tr, c, w, a.leave img ci w (tr.block.tryLow - 1) (a.take img ci w c), rest, []⟩

/-- The throw is set up for the catch block at which it ends. -/
structure ThrowFrame.Caught (img : Image) (st : Settled) (t : ThrowFrame) : Prop where
  handler : t.handler = img.pdata.imageBase + st.handler.handler
  mach : t.mach = st.frame.mach
  ctx : t.ctx.Same st.context
  primaryFramePtr : t.catchInfo.primaryFramePtr = st.frame.primaryFrame img st.info st.before
  unwindContext : t.catchInfo.unwindContext = st.tryBlock.block.targetState
  exceptionObjectOrLink : t.catchInfo.exceptionObjectOrLink = st.info.exceptionObjectOrLink
  throwInfoIfOwner : t.catchInfo.throwInfoIfOwner = st.info.throwInfoIfOwner
  world : t.world = st.after

section Dispatch

variable {img : Image} {ci : CatchInfo} {ctx ctx' : FrameWalkContext} {mach : MachineFrame}
variable {a : CppFrame} {frames rest : List WalkedFrame} {w w' : World} {conts : Nat × Nat} {fuel : Nat}
variable {tr : Try} {c : Catch} {st : Settled}

/-! ## The loop -/

theorem Image.Agrees.release (h : img.Agrees w.mem) (x : Option (Nat × Nat)) :
    img.Agrees (img.release x w).mem := by
  unfold Image.release
  cases x.bind img.destructorCall with
  | none => exact h
  | some call => exact h.call call

theorem CatchInfo.passed_met (address : Nat) (info : CatchInfo) :
    CatchInfo.passed { ci with continuationAddress := conts } address info =
      { ci.passed address info with continuationAddress := conts } := by
  have hsame : CatchInfo.TakesOver { ci with continuationAddress := conts } address ↔
      ci.TakesOver address := Iff.rfl
  unfold CatchInfo.passed
  by_cases htakes : ci.TakesOver address
  · rw [if_pos htakes, if_pos (hsame.2 htakes)]
  · rw [if_neg htakes, if_neg fun h => htakes (hsame.1 h)]

/-- The destructor that the handler of a catch block calls. -/
theorem release_eq {address : Nat} {info : CatchInfo} (hmem : img.Agrees w.mem)
    (hthrow : ∀ mem, img.Agrees mem →
      (readThrowInfo mem info.throwInfoIfOwner).destroyExcObj = img.destroyExcObj info.throwInfoIfOwner) :
    (ci.released address info).bind img.destructorCall =
      ((ci.released address info).bind (destruction (fun throwInfo =>
        (readThrowInfo w.mem throwInfo).destroyExcObj) img.pdata.imageBase)).map fun d =>
          ⟨d.destructor, [d.object]⟩ := by
  unfold CatchInfo.released CatchInfo.owned
  split_ifs
  · rfl
  · rw [Option.bind_some, Option.bind_some, Image.destructorCall, destruction, destruction,
      hthrow w.mem hmem]
  · rfl

/-- What the handler of a catch block does to a throw. -/
theorem catchFrameHandler_unwind {f : StackFrame} {info : CatchInfo} (hmem : img.Agrees w.mem)
    (hinfo : ∀ mem, img.Agrees mem → readCatchInfo mem f.catchInfoAddress = info)
    (hthrow : ∀ mem, img.Agrees mem →
      (readThrowInfo mem info.throwInfoIfOwner).destroyExcObj = img.destroyExcObj info.throwInfoIfOwner) :
    catchFrameHandler img.run img.pdata .unwind (f.frameInfo img)
        ⟨ctx, mach, { ci with continuationAddress := conts }, 0, w⟩ =
      .ok ⟨ctx, mach, { ci.passed f.catchInfoAddress info with continuationAddress := conts }, 0,
        img.release (ci.released f.catchInfoAddress info) w⟩ := by
  have hread : readCatchInfo w.mem ((f.frameInfo img).framePtr + catchInfoOffset) = info :=
    hinfo w.mem hmem
  unfold catchFrameHandler Image.release
  dsimp only
  rw [hread, callCatchFrameHandler_unwind, CatchInfo.passed_met, release_eq hmem hthrow]
  dsimp only [check, bind, Except.bind]
  have hreleased : CatchInfo.released { ci with continuationAddress := conts }
      ((f.frameInfo img).framePtr + catchInfoOffset) info = ci.released f.catchInfoAddress info := rfl
  rw [hreleased]
  cases (ci.released f.catchInfoAddress info).bind (destruction (fun throwInfo =>
    (readThrowInfo w.mem throwInfo).destroyExcObj) img.pdata.imageBase) <;> rfl

theorem settle_cpp_none
    (hclear : ¬(ci.getThrowInfo (readCatchInfo w.mem) = 0 ∧ a.guarded img ci w = true))
    (hchosen : a.chosen img ci w = none) :
    settle img ci ctx (.cpp a :: rest) w = settle img ci a.caller rest (a.leave img ci w (-1) w) := by
  rw [settle, if_neg hclear, hchosen]

theorem settle_cpp_some
    (hclear : ¬(ci.getThrowInfo (readCatchInfo w.mem) = 0 ∧ a.guarded img ci w = true))
    (hchosen : a.chosen img ci w = some (tr, c)) :
    settle img ci ctx (.cpp a :: rest) w =
      some ⟨a, ctx, ci, tr, c, w, a.leave img ci w (tr.block.tryLow - 1) (a.take img ci w c), rest, []⟩ := by
  rw [settle, if_neg hclear, hchosen]

theorem CppFrame.Stands.fh_settles (h : a.Stands img ci ctx) (rest : List WalkedFrame) (fuel : Nat)
    (conts : Nat × Nat) (hmem : img.Agrees w.mem)
    (hclear : ¬(ci.getThrowInfo (readCatchInfo w.mem) = 0 ∧ a.guarded img ci w = true))
    (hchosen : a.chosen img ci w = some (tr, c)) (hsame : ctx'.Same ctx) :
    ∃ t, fh img.run img.personality img.pdata fuel (a.frameInfo img) (a.met ci ctx' conts w) = .ok t ∧
      t.Caught img ⟨a, ctx, ci, tr, c, w,
        a.leave img ci w (tr.block.tryLow - 1) (a.take img ci w c), rest, []⟩ := by
  obtain ⟨old, hfh⟩ := h.fh_catches fuel ctx' conts hmem hclear hchosen
  exact ⟨_, hfh,
    { handler := rfl
      mach := rfl
      ctx := hsame
      primaryFramePtr := rfl
      unwindContext := by rw [CppFunction.undone, ThrowFrame.caught]
      exceptionObjectOrLink := rfl
      throwInfoIfOwner := rfl
      world := rfl }⟩

/-- A frame whose handler has nothing to do is left. -/
theorem StackFrame.Stands.dispatchLoop_seh {f : StackFrame} (h : f.Stands img .sehFrameHandler ctx)
    (ci : CatchInfo) (fuel : Nat) (hmem : img.Agrees w.mem) (hsame : ctx'.Same ctx) :
    ∃ ctx₂, dispatchLoop img.run img.personality img.pdata (fuel + 1) ⟨ctx', f.mach, ci, 0, w⟩ =
        dispatchLoop img.run img.personality img.pdata fuel ⟨ctx₂, ⟨f.ret, f.callerRsp⟩, ci, 0, w⟩ ∧
      ctx₂.Same f.caller := by
  obtain ⟨handler, ctx₁, henter, hpersonality, hsame₁⟩ := h.enterFrame_eq ci hmem hsame
  obtain ⟨ctx₂, hunwind, hsame₂⟩ := h.unwindFrame_eq ci hmem hsame₁
  refine ⟨ctx₂, ?_, hsame₂⟩
  rw [dispatchLoop, henter]
  dsimp only [bind, Except.bind]
  rw [callOptional, callHandler, hpersonality]
  dsimp only
  rw [if_neg (not_not.2 rfl), hunwind]

/-- A catch block is left, and its exception is released or taken over. -/
theorem StackFrame.Stands.dispatchLoop_catchBlock {f : StackFrame} {info : CatchInfo}
    (h : f.Stands img .callCatchFrameHandler ctx) (ci : CatchInfo) (fuel : Nat) (conts : Nat × Nat)
    (hmem : img.Agrees w.mem) (hsame : ctx'.Same ctx)
    (hinfo : ∀ mem, img.Agrees mem → readCatchInfo mem f.catchInfoAddress = info)
    (hthrow : ∀ mem, img.Agrees mem →
      (readThrowInfo mem info.throwInfoIfOwner).destroyExcObj = img.destroyExcObj info.throwInfoIfOwner) :
    ∃ ctx₂, dispatchLoop img.run img.personality img.pdata (fuel + 1)
        ⟨ctx', f.mach, { ci with continuationAddress := conts }, 0, w⟩ =
      dispatchLoop img.run img.personality img.pdata fuel
        ⟨ctx₂, ⟨f.ret, f.callerRsp⟩,
          { ci.passed f.catchInfoAddress info with continuationAddress := conts }, 0,
          img.release (ci.released f.catchInfoAddress info) w⟩ ∧
      ctx₂.Same f.caller := by
  obtain ⟨handler, ctx₁, henter, hpersonality, hsame₁⟩ :=
    h.enterFrame_eq { ci with continuationAddress := conts } hmem hsame
  obtain ⟨ctx₂, hunwind, hsame₂⟩ := h.unwindFrame_eq
    { ci.passed f.catchInfoAddress info with continuationAddress := conts }
    (hmem.release (ci.released f.catchInfoAddress info)) hsame₁
  refine ⟨ctx₂, ?_, hsame₂⟩
  rw [dispatchLoop, henter]
  dsimp only [bind, Except.bind]
  rw [callOptional, callHandler, hpersonality]
  dsimp only
  rw [catchFrameHandler_unwind hmem hinfo hthrow]
  dsimp only
  rw [if_neg (not_not.2 rfl), hunwind]

/-- A frame of a C++ function without a catch block for the exception is left. -/
theorem CppFrame.Stands.dispatchLoop_passes (h : a.Stands img ci ctx) (fuel : Nat) (conts : Nat × Nat)
    (hmem : img.Agrees w.mem) (hsame : ctx'.Same ctx)
    (hclear : ¬(ci.getThrowInfo (readCatchInfo w.mem) = 0 ∧ a.guarded img ci w = true))
    (hchosen : a.chosen img ci w = none) :
    ∃ ctx₂ conts', dispatchLoop img.run img.personality img.pdata (fuel + 1)
        ⟨ctx', a.mach, { ci with continuationAddress := conts }, 0, w⟩ =
      dispatchLoop img.run img.personality img.pdata fuel
        ⟨ctx₂, ⟨a.ret, a.callerRsp⟩, { ci with continuationAddress := conts' }, 0,
          a.leave img ci w (-1) w⟩ ∧
      ctx₂.Same a.caller := by
  obtain ⟨handler, ctx₁, henter, hpersonality, hsame₁⟩ :=
    h.enterFrame_eq { ci with continuationAddress := conts } hmem hsame
  obtain ⟨conts', hfh⟩ := h.fh_passes fuel ctx₁ conts hmem hclear hchosen
  have hmem' : img.Agrees (a.leave img ci w (-1) w).mem := Image.Agrees.undo hmem _ _ _
  obtain ⟨ctx₂, hunwind, hsame₂⟩ :=
    h.unwindFrame_eq { ci with continuationAddress := conts' } hmem' hsame₁
  refine ⟨ctx₂, conts', ?_, hsame₂⟩
  rw [CppFrame.met, CppFrame.met] at hfh
  rw [dispatchLoop, henter]
  dsimp only [bind, Except.bind]
  rw [callOptional, callHandler, hpersonality]
  dsimp only
  rw [hfh]
  dsimp only
  rw [if_neg (not_not.2 rfl), hunwind]

/-- A frame of a C++ function with a catch block for the exception ends the loop. -/
theorem CppFrame.Stands.dispatchLoop_catches (h : a.Stands img ci ctx) (rest : List WalkedFrame)
    (fuel : Nat) (conts : Nat × Nat) (hmem : img.Agrees w.mem) (hsame : ctx'.Same ctx)
    (hclear : ¬(ci.getThrowInfo (readCatchInfo w.mem) = 0 ∧ a.guarded img ci w = true))
    (hchosen : a.chosen img ci w = some (tr, c)) :
    ∃ t, dispatchLoop img.run img.personality img.pdata (fuel + 1)
        ⟨ctx', a.mach, { ci with continuationAddress := conts }, 0, w⟩ = .ok t ∧
      t.Caught img ⟨a, ctx, ci, tr, c, w,
        a.leave img ci w (tr.block.tryLow - 1) (a.take img ci w c), rest, []⟩ := by
  obtain ⟨handler, ctx₁, henter, hpersonality, hsame₁⟩ :=
    h.enterFrame_eq { ci with continuationAddress := conts } hmem hsame
  obtain ⟨t, hfh, hcaught⟩ := h.fh_settles rest fuel conts hmem hclear hchosen hsame₁
  refine ⟨t, ?_, hcaught⟩
  have hne : t.handler ≠ 0 := by
    rw [hcaught.handler]
    exact Nat.ne_of_gt (Nat.add_pos_left img.base _)
  rw [CppFrame.met] at hfh
  rw [dispatchLoop, henter]
  dsimp only [bind, Except.bind]
  rw [callOptional, callHandler, hpersonality]
  dsimp only
  rw [hfh]
  dsimp only
  rw [if_pos hne]
  rfl

/-- The loop ends where the throw is to end. -/
theorem dispatchLoop_settles (stack : CallStack img ci ctx mach frames) (hsame : ctx'.Same ctx)
    (hmem : img.Agrees w.mem) (hfuel : frames.length < fuel) (hsettle : settle img ci ctx frames w = some st) :
    ∃ t, dispatchLoop img.run img.personality img.pdata fuel
        ⟨ctx', mach, { ci with continuationAddress := conts }, 0, w⟩ = .ok t ∧ t.Caught img st := by
  induction stack generalizing ctx' conts w fuel st with
  | nil => cases hsettle
  | @seh ci ctx f rest stands stack ih =>
    obtain ⟨fuel, rfl⟩ : ∃ n, fuel = n + 1 := ⟨fuel - 1, by omega⟩
    obtain ⟨ctx₂, hloop, hsame₂⟩ :=
      stands.dispatchLoop_seh { ci with continuationAddress := conts } fuel hmem hsame
    rw [hloop]
    exact ih hsame₂ hmem (by simpa using hfuel) hsettle
  | @catchBlock ci ctx f info rest stands hinfo hthrow stack ih =>
    obtain ⟨fuel, rfl⟩ : ∃ n, fuel = n + 1 := ⟨fuel - 1, by omega⟩
    obtain ⟨ctx₂, hloop, hsame₂⟩ :=
      stands.dispatchLoop_catchBlock ci fuel conts hmem hsame hinfo hthrow
    rw [settle] at hsettle
    obtain ⟨st', hsettle', rfl⟩ := Option.map_eq_some_iff.1 hsettle
    obtain ⟨t, hrun, hcaught⟩ := @ih ctx₂ _ conts fuel st' hsame₂ (hmem.release _) (by simpa using hfuel)
      hsettle'
    exact ⟨t, hloop.trans hrun, { hcaught with }⟩
  | @cpp ci ctx a rest stands stack ih =>
    obtain ⟨fuel, rfl⟩ : ∃ n, fuel = n + 1 := ⟨fuel - 1, by omega⟩
    have hclear : ¬(ci.getThrowInfo (readCatchInfo w.mem) = 0 ∧ a.guarded img ci w = true) := by
      intro hastray
      rw [settle, if_pos hastray] at hsettle
      cases hsettle
    cases hchosen : a.chosen img ci w with
    | none =>
      rw [settle_cpp_none hclear hchosen] at hsettle
      obtain ⟨ctx₂, conts', hloop, hsame₂⟩ :=
        stands.dispatchLoop_passes fuel conts hmem hsame hclear hchosen
      rw [hloop]
      exact ih hsame₂ (Image.Agrees.undo hmem _ _ _) (by simpa using hfuel) hsettle
    | some found =>
      rw [settle_cpp_some hclear hchosen] at hsettle
      obtain rfl := Option.some.inj hsettle
      exact stands.dispatchLoop_catches rest fuel conts hmem hsame hclear hchosen

/-! ## Ownership -/

/-- The `catch_info` of a frame. -/
def WalkedFrame.catchInfoAddress : WalkedFrame → Option Nat
  | .catchBlock f _ => some f.catchInfoAddress
  | .cpp _ | .seh _ => none

/-- An exception object that is owned is none of the `catch_info`s on the stack. -/
def CatchInfo.Apart (ci : CatchInfo) (frames : List WalkedFrame) : Prop :=
  ci.throwInfoIfOwner ≠ 0 → ci.exceptionObjectOrLink ≠ 0 ∧
    ∀ f ∈ frames, f.catchInfoAddress ≠ some ci.exceptionObjectOrLink

theorem CatchInfo.Apart.tail {f : WalkedFrame} (h : ci.Apart (f :: rest)) : ci.Apart rest :=
  fun howner => ⟨(h howner).1, fun g hg => (h howner).2 g (List.mem_cons_of_mem f hg)⟩

theorem CatchInfo.Apart.passed {address : Nat} {info : CatchInfo} (h : ci.Apart rest)
    (hinfo : info.Apart rest) : (ci.passed address info).Apart rest := by
  unfold CatchInfo.passed
  split_ifs
  · exact hinfo
  · exact h

/-- A throw, or a rethrow that no try block meets before a catch block has handed its exception over,
ends at the first catch block that takes the exception. What is alive in the frames in front of it is
destroyed, frame by frame, and then what is alive in the frame itself up to the try block, and the throw
is set up for the catch block, with the registers and the stack of its frame. -/
theorem cxxDispatchException_settles {imageBase object throwInfo : Nat} {t : ThrowFrame}
    (hpdata : Pdata.ofImage t.world.mem imageBase = .ok img.pdata) (hmem : img.Agrees t.world.mem)
    (stack : CallStack img (thrownInfo t.catchInfo object throwInfo) t.ctx t.mach frames)
    (hsettle : settle img (thrownInfo t.catchInfo object throwInfo) t.ctx frames t.world = some st)
    (hfuel : frames.length < fuel) :
    ∃ t', cxxDispatchException img.run img.personality imageBase fuel object throwInfo t = .ok t' ∧
      t'.Caught img st := by
  obtain ⟨t', hloop, hcaught⟩ := dispatchLoop_settles stack (.refl t.ctx) hmem hfuel hsettle
  refine ⟨t', ?_, hcaught⟩
  rw [cxxDispatchException, hpdata]
  exact hloop

end Dispatch

/-! ## A throw out of a catch block -/

/-- The frame of the catch block, with what the catch block owns. -/
def callerFrame : StackFrame := bareFrame 1 callCatchEntry ⟨418, 908⟩ 412

def callerInfo : CatchInfo := ⟨(0, 0), 916, 800, 1040, 0⟩

/-- The registers at the throw. -/
def throwingContext : FrameWalkContext := ⟨fun _ => 0, fun i => if i = 0 then 7 else 0, 0⟩

/-- A frame that has saved `rbx` and has nothing to destroy. -/
def savingFrame : StackFrame where
  index := 2
  entry := savingEntry
  info := readUnwindInfo recursiveMemory 534
  prolog := [(1, .push 3)]
  mach := ⟨425, 884⟩
  framePtr := 884
  bodyRsp := 884
  fp := 0
  caller := savedContext
  ret := 404
  callerRsp := 900

theorem savingFrame_stands : savingFrame.Stands recursiveImage .sehFrameHandler throwingContext where
  inside := by decide
  entry := rfl
  covers := ⟨by decide, by decide⟩
  unwindInfo mem hmem := by
    rw [recursiveImage_agrees hmem]
    rfl
  flags := by decide +kernel
  handler mem hmem := by
    rw [recursiveImage_agrees hmem]
    decide +kernel
  establisher := if_neg (by decide +kernel)
  frame mem hmem := by
    rw [recursiveImage_agrees hmem]
    have hsaved : load recursiveMemory 884 8 = savedContext.gp 0 := by decide +kernel
    have hret : load recursiveMemory 892 8 = 404 := by decide +kernel
    exact .push rfl hsaved (fun _ _ hop => nomatch hop) (.entry hret rfl (by decide))
  near := by
    intro op hop
    rw [List.mem_singleton.1 hop]
    exact ⟨by decide, trivial⟩
  slots := ⟨by decide +kernel, trivial⟩
  count := by decide +kernel
  ready :=
    { rip := rfl
      rsp := .inl rfl
      frame := fun ⟨op, hop, hset⟩ => by
        rw [List.mem_singleton.1 hop] at hset
        cases hset
      gp := fun i hi => by
        have hne : i ≠ 0 := by
          rintro rfl
          exact hi (1, .push 3) List.mem_cons_self rfl
        exact (if_neg hne).trans (if_neg hne).symm
      xmm := fun _ _ _ => rfl }

/-- What the catch block has called, in front of the try block. -/
def calledFrame : CppFrame := recursiveFrame ⟨404, 900⟩ 418

/-- The activation that has caught, behind its try block. -/
def resumedFrame : CppFrame := recursiveFrame ⟨412, 916⟩ 412

/-- The activation in front of it, in its try block. -/
def guardingFrame : CppFrame := recursiveFrame ⟨412, 924⟩ 0

def caughtFrames : List WalkedFrame :=
  [.seh savingFrame, .cpp calledFrame, .catchBlock callerFrame callerInfo, .cpp resumedFrame, .cpp guardingFrame]

theorem caughtFrames_stack {ci : CatchInfo} (hci : ci.primaryFramePtr = 0) :
    CallStack recursiveImage ci throwingContext savingFrame.mach caughtFrames := by
  have called : calledFrame.Stands recursiveImage ci savedContext :=
    recursiveFrame_stands (by decide) ⟨by decide, by decide⟩ (by decide +kernel) (by decide)
      fun h => absurd h (by rw [hci]; decide)
  have caller : callerFrame.Stands recursiveImage .callCatchFrameHandler savedContext :=
    bareFrame_stands rfl (by decide) ⟨by decide, by decide⟩ (by decide +kernel) (by decide +kernel)
      (by decide +kernel) (by decide +kernel) (by decide +kernel) (by decide)
  have hpassed : (ci.passed callerFrame.catchInfoAddress callerInfo).primaryFramePtr = 916 ∧
      (ci.passed callerFrame.catchInfoAddress callerInfo).unwindContext = 0 := by
    unfold CatchInfo.passed
    split_ifs <;> exact ⟨rfl, rfl⟩
  have resumed : resumedFrame.Stands recursiveImage (ci.passed callerFrame.catchInfoAddress callerInfo)
      savedContext :=
    recursiveFrame_stands (by decide) ⟨by decide, by decide⟩ (by decide +kernel) (by decide)
      fun _ => by rw [hpassed.2]; decide
  have guarding : guardingFrame.Stands recursiveImage
      (ci.passed callerFrame.catchInfoAddress callerInfo) savedContext :=
    recursiveFrame_stands (by decide) ⟨by decide, by decide⟩ (by decide +kernel) (by decide)
      fun h => absurd h (by rw [hpassed.1]; decide)
  refine .seh savingFrame_stands (.cpp called (.catchBlock caller ?_ ?_ (.cpp resumed (.cpp guarding .nil))))
  · intro mem hmem
    rw [recursiveImage_agrees hmem]
    decide +kernel
  · intro mem hmem
    rw [recursiveImage_agrees hmem]
    rfl

/-- A throw, or a rethrow, in the innermost of these frames. -/
def calledThrow : ThrowFrame where
  ctx := throwingContext
  mach := savingFrame.mach
  catchInfo := default
  handler := 0
  world := ⟨recursiveMemory, []⟩

/-- The throw behind the catch block: with the object `x`, or as a rethrow. -/
def passedInfo (x : Nat) : CatchInfo :=
  (thrownInfo default x x).passed callerFrame.catchInfoAddress callerInfo

/-- Memory when the catch block is left, and when the activation that has caught is left. -/
def releasedWorld (x : Nat) : World :=
  recursiveImage.release ((thrownInfo default x x).released callerFrame.catchInfoAddress callerInfo)
    (calledFrame.leave recursiveImage (thrownInfo default x x) calledThrow.world (-1) calledThrow.world)

def resumedWorld (x : Nat) : World :=
  resumedFrame.leave recursiveImage (passedInfo x) (releasedWorld x) (-1) (releasedWorld x)

/-- A throw destroys the exception of the catch block, and a rethrow takes it over. -/
theorem settle_caughtFrames {x : Nat} (hx : x = 0 ∨ x = 8) :
    ∃ st, settle recursiveImage (thrownInfo default x x) throwingContext caughtFrames calledThrow.world =
        some st ∧
      st.frame = guardingFrame ∧ st.context = savedContext ∧ st.handler = catchAll ∧ st.below = [] ∧
      st.info.owned = (if x = 0 then some (800, 1040) else some (8, 8)) ∧
      st.destroyed = (if x = 0 then [] else [(800, 1040)]) ∧
      st.after.calls = ⟨32, [908]⟩ :: ((if x = 0 then [] else [⟨48, [800]⟩]) ++
        [⟨32, [924]⟩, ⟨48, [48, 924]⟩]) := by
  have hcalled : settle recursiveImage (thrownInfo default x x) throwingContext caughtFrames
      calledThrow.world = (settle recursiveImage (passedInfo x) savedContext
        [.cpp resumedFrame, .cpp guardingFrame] (releasedWorld x)).map fun st =>
          { st with destroyed := ((thrownInfo default x x).released callerFrame.catchInfoAddress
            callerInfo).toList ++ st.destroyed } := by
    have hclear : ¬((thrownInfo default x x).getThrowInfo (readCatchInfo calledThrow.world.mem) = 0 ∧
        calledFrame.guarded recursiveImage (thrownInfo default x x) calledThrow.world = true) := by
      rcases hx with rfl | rfl <;> decide +kernel
    have hchosen : calledFrame.chosen recursiveImage (thrownInfo default x x) calledThrow.world = none := by
      rcases hx with rfl | rfl <;> decide +kernel
    rw [caughtFrames, settle, settle_cpp_none hclear hchosen, settle]
    rfl
  have hresumed : settle recursiveImage (passedInfo x) savedContext [.cpp resumedFrame, .cpp guardingFrame]
      (releasedWorld x) = settle recursiveImage (passedInfo x) savedContext [.cpp guardingFrame]
        (resumedWorld x) :=
    settle_cpp_none (by rcases hx with rfl | rfl <;> decide +kernel)
      (by rcases hx with rfl | rfl <;> decide +kernel)
  have hchosen : guardingFrame.chosen recursiveImage (passedInfo x) (resumedWorld x) =
      some (guardedTry, catchAll) := by
    rcases hx with rfl | rfl <;> decide +kernel
  have hguarding := @settle_cpp_some recursiveImage (passedInfo x) savedContext guardingFrame []
    (resumedWorld x) guardedTry catchAll (by rcases hx with rfl | rfl <;> decide +kernel) hchosen
  rw [hcalled, hresumed, hguarding]
  refine ⟨_, rfl, rfl, rfl, rfl, rfl, ?_, ?_, ?_⟩
  · rcases hx with rfl | rfl <;> decide +kernel
  · rcases hx with rfl | rfl <;> decide +kernel
  · rcases hx with rfl | rfl <;> decide +kernel

theorem cxxDispatchException_settles_rethrown :
    ∃ t', cxxDispatchException recursiveImage.run recursiveImage.personality 16 6 0 0 calledThrow = .ok t' ∧
      t'.handler = 56 ∧ t'.mach = ⟨412, 924⟩ ∧ t'.ctx.Same savedContext ∧
      t'.world.calls = [⟨32, [908]⟩, ⟨32, [924]⟩, ⟨48, [48, 924]⟩] := by
  obtain ⟨st, hsettle, hframe, hcontext, hhandler, -, -, -, hcalls⟩ := settle_caughtFrames (.inl rfl)
  obtain ⟨t', hrun, hcaught⟩ := @cxxDispatchException_settles recursiveImage caughtFrames 6 st 16 0 0
    calledThrow (by decide +kernel) (fun _ _ => rfl) (caughtFrames_stack rfl) hsettle (by decide)
  refine ⟨t', hrun, ?_, ?_, ?_, ?_⟩
  · rw [hcaught.handler, hhandler]
    rfl
  · rw [hcaught.mach, hframe]
    rfl
  · rw [← hcontext]
    exact hcaught.ctx
  · rw [hcaught.world, hcalls]
    rfl

end WinShell.Exceptions
