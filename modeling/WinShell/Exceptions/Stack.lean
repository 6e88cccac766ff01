-- SUMMARY: The frames that a throw walks over, and what the walk and the frame handler do at each.
import WinShell.Exceptions.Functions

/-!
# Frames on the stack

A frame is described by the function table and the unwind codes of its function, and a
frame of a C++ function by its tables as well. Walking over it restores the registers of
its caller. The frame handler destroys what is alive in it, and finds the catch block for
the exception if there is one.
-/

namespace WinShell.Exceptions

open Store

/-! ## The stack -/

/-- An image with its function table. The functions that a throw calls leave the addresses `fixed`
alone; `mem` is what lies there. -/
structure Image where
  run : Call → Memory → Memory
  personality : Nat → Personality
  pdata : Pdata
  functions : List RuntimeFunction
  fixed : Nat → Prop
  mem : Memory
  base : 0 < pdata.imageBase
  undisturbed : ∀ c mem' x, fixed x → run c mem' x = mem' x
  holds : ∀ mem', (∀ x, fixed x → mem' x = mem x) → pdata.Holds mem' functions

def Image.Agrees (img : Image) (mem : Memory) : Prop := ∀ x, img.fixed x → mem x = img.mem x

/-- A frame on the stack: the place of its function in the image, how the prolog has set up the
frame, and where the caller goes on with which registers. -/
structure StackFrame where
  index : Nat
  entry : RuntimeFunction
  info : UnwindInfo
  prolog : Prolog
  mach : MachineFrame
  framePtr : Nat
  bodyRsp : Nat
  fp : Nat
  caller : FrameWalkContext
  ret : Nat
  callerRsp : Nat

/-- Contexts that agree on the nonvolatile registers. `xmm15` has no block of its own. -/
def FrameWalkContext.Same (ctx ctx' : FrameWalkContext) : Prop :=
  (∀ i, ctx.gp i = ctx'.gp i) ∧ ∀ i, i ≠ 9 → ctx.xmm i = ctx'.xmm i

namespace StackFrame

variable (img : Image) (a : StackFrame)

def handlerRva : Nat :=
  img.pdata.imageBase + a.entry.unwindStruct + 4 + 2 * ((a.info.codeCount + 1) / 2 * 2)

/-- What the handler of the frame is told of it. -/
def frameInfo : FrameInfo := ⟨a.entry.beginRva, a.framePtr, a.handlerRva img + 4⟩

/-- The frame stands on the stack with the registers `ctx` and has a handler of the kind
`personality`. What describes it and what it has saved is apart from what is changed by the functions
that a throw calls. -/
structure Stands (personality : Personality) (ctx : FrameWalkContext) : Prop where
  inside : img.pdata.containsAddress a.mach.rip = true
  entry : img.functions[a.index]? = some a.entry
  covers : a.entry.Covers (makeRva a.mach.rip img.pdata.imageBase)
  unwindInfo : ∀ mem, img.Agrees mem →
    readUnwindInfo mem (img.pdata.imageBase + a.entry.unwindStruct) = a.info
  flags : a.info.flags &&& 3 ≠ 0
  handler : ∀ mem, img.Agrees mem →
    img.personality (img.pdata.imageBase + load mem (a.handlerRva img) 4) = personality
  establisher : (if a.info.frameReg ≠ 0 then (gpIndex a.info.frameReg).map ctx.gp else .ok a.mach.rsp) =
    .ok a.framePtr
  frame : ∀ mem, img.Agrees mem →
    Frame mem a.info a.fp a.caller a.ret a.callerRsp a.prolog a.bodyRsp
  near : ∀ op ∈ a.prolog, op.1 < 256 ∧ op.2.Near
  slots : SlotsAt a.info.data 0 a.prolog.encode
  count : a.info.codeCount = a.prolog.encode.length
  ready : Ready a.info a.fp a.caller a.prolog a.bodyRsp ⟨ctx, a.mach, false⟩

end StackFrame

/-- A frame of a C++ function. -/
structure CppFrame extends StackFrame where
  fn : CppFunction

namespace CppFrame

variable (img : Image) (ci : CatchInfo) (a : CppFrame)

/-- The throw when it has come to the frame. -/
def throwFrame (w : World) : ThrowFrame := ⟨a.caller, a.mach, ci, 0, w⟩

def state (w : World) : Int := a.fn.state img.pdata.imageBase (a.frameInfo img) (a.throwFrame ci w)

/-- The catch block of the frame that is to take the exception. -/
def chosen (w : World) : Option (Try × Catch) :=
  a.fn.chosen img.pdata.imageBase (a.frameInfo img) (a.throwFrame ci w) img.run

/-- The frame that a catch block of the frame works on. -/
def primaryFrame (w : World) : Nat := a.fn.primaryFrame (a.frameInfo img) (a.throwFrame ci w)

/-- The memory when the catch block has got its variable. -/
def take (w : World) (c : Catch) : World :=
  (a.fn.take img.pdata.imageBase (a.frameInfo img) (a.throwFrame ci w) img.run c).2

/-- The destruction of what is alive in the frame, for a state up to `target`. -/
def leave (w : World) (target : Int) (w' : World) : World :=
  undo img.run img.pdata.imageBase a.framePtr a.fn.nodes
    (leaveFrom a.fn.nodes target (stateOf (a.state img ci w))) w'

/-- A try block of the function is around the state of the frame. -/
def guarded (w : World) : Bool :=
  a.fn.guarded img.pdata.imageBase (a.frameInfo img) (a.throwFrame ci w)

/-- The frame stands on the stack. When a catch block has left it in a state, this is one of its
states. Its tables and its catch variables are apart from what is changed by the functions that a
throw calls. -/
structure Stands (ctx : FrameWalkContext) : Prop
    extends a.toStackFrame.Stands img .cxxFrameHandler4 ctx where
  resumed : a.framePtr ≤ ci.primaryFramePtr →
    (BitVec.ofInt 32 ci.unwindContext).toInt < a.fn.nodes.length
  tables : ∀ mem, img.Agrees mem → a.fn.Stored mem img.pdata.imageBase a.entry.beginRva
    (img.pdata.imageBase + load mem (a.handlerRva img + 4) 4)
  unwindMap : ∀ k < (encodeUnwindMap a.fn.nodes).length,
    img.fixed (img.pdata.imageBase + a.fn.info.unwindMap.getD 0 + k)
  catchVars : ∀ w tr c, img.Agrees w.mem → a.chosen img ci w = some (tr, c) →
    ∀ x, img.fixed x → (a.take img ci w c).mem x = w.mem x

end CppFrame

section Walk

variable {img : Image} {ci : CatchInfo} {ctx ctx' : FrameWalkContext} {mach : MachineFrame}
variable {a : CppFrame} {w : World} {conts : Nat × Nat} {tr : Try} {c : Catch}

theorem FrameWalkContext.Same.refl (ctx : FrameWalkContext) : ctx.Same ctx :=
  ⟨fun _ => rfl, fun _ _ => rfl⟩

theorem Ready.same {info : UnwindInfo} {fp rsp : Nat} {caller : FrameWalkContext} {prolog : Prolog}
    (h : Ready info fp caller prolog rsp ⟨ctx, mach, false⟩) (hsame : ctx'.Same ctx) :
    Ready info fp caller prolog rsp ⟨ctx', mach, false⟩ where
  rip := rfl
  rsp := h.rsp
  frame hset i hi := (hsame.1 i).trans (h.frame hset i hi)
  gp i hi := (hsame.1 i).trans (h.gp i hi)
  xmm i hne hi := (hsame.2 i hne).trans (h.xmm i hne hi)

/-- Functions that a throw calls leave what is fixed alone. -/
theorem Image.Agrees.call (h : img.Agrees w.mem) (call : Call) : img.Agrees (w.call img.run call).mem :=
  fun x hx => (img.undisturbed call w.mem x hx).trans (h x hx)

/-- Destructors leave what is fixed alone. -/
theorem Image.Agrees.undo (h : img.Agrees w.mem) (framePtr : Nat) (nodes : List Node)
    (states : List Nat) :
    img.Agrees (undo img.run img.pdata.imageBase framePtr nodes states w).mem := by
  induction states generalizing w with
  | nil => exact h
  | cons i states ih =>
    exact ih (Action.perform_mem (fun c mem hmem x hx => (img.undisturbed c mem x hx).trans (hmem x hx)) h)

namespace StackFrame.Stands

variable {a : StackFrame} {personality : Personality} (h : a.Stands img personality ctx)

include h

/-- The frame is entered with its handler. -/
theorem enterFrame_eq (ci : CatchInfo) (hmem : img.Agrees w.mem) (hsame : ctx'.Same ctx) :
    ∃ handler ctx'', enterFrame img.pdata ⟨ctx', a.mach, ci, 0, w⟩ =
        .ok (a.info, some (handler, a.frameInfo img), ⟨ctx'', a.mach, ci, 0, w⟩) ∧
      img.personality handler = personality ∧ ctx''.Same ctx := by
  have hentry := (img.holds w.mem hmem).findFunctionEntry_of_covers h.inside h.entry h.covers
  have hread := (img.holds w.mem hmem).entry h.entry
  have hgp : ctx'.gp = ctx.gp := funext hsame.1
  have hestablisher : establisherFrame a.info ⟨ctx', a.mach, ci, 0, w⟩ = .ok a.framePtr := by
    rw [← h.establisher, ← hgp]
    rfl
  refine ⟨img.pdata.imageBase + load w.mem (a.handlerRva img) 4,
    (prepareForNonCxxHandler ⟨ctx', a.mach, ci, 0, w⟩).ctx, ?_, h.handler w.mem hmem, hsame.1, ?_⟩
  · rw [enterFrame]
    dsimp only
    rw [hentry]
    dsimp only [check, bind, Except.bind]
    rw [hread, h.unwindInfo w.mem hmem, if_neg h.flags, hestablisher]
    rfl
  · intro i hne
    exact (Function.update_of_ne hne ..).trans (hsame.2 i hne)

/-- The frame is unwound to its caller. -/
theorem unwindFrame_eq (ci : CatchInfo) (hmem : img.Agrees w.mem) (hsame : ctx'.Same ctx) :
    ∃ ctx'', unwindFrame a.info ⟨ctx', a.mach, ci, 0, w⟩ =
        .ok ⟨ctx'', ⟨a.ret, a.callerRsp⟩, ci, 0, w⟩ ∧ ctx''.Same a.caller := by
  obtain ⟨s, hs, hunwound⟩ := unwindCodes_frame (h.frame w.mem hmem) h.near h.slots
    (h.count.trans (Nat.zero_add _).symm) (h.ready.same hsame)
  refine ⟨s.ctx, ?_, hunwound.gp, hunwound.xmm⟩
  rw [unwindFrame]
  dsimp only
  rw [unwind_of_unwound hs hunwound]
  rfl

end StackFrame.Stands

namespace CppFrame

/-- The throw at the frame, with the registers of the walk and the continuation addresses that catch
blocks above have left. -/
def met (ci : CatchInfo) (a : CppFrame) (ctx : FrameWalkContext) (conts : Nat × Nat) (w : World) :
    ThrowFrame :=
  ⟨ctx, a.mach, { ci with continuationAddress := conts }, 0, w⟩

namespace Stands

variable (h : a.Stands img ci ctx)

include h

theorem state_lt (hmem : img.Agrees w.mem) : a.state img ci w < a.fn.nodes.length := by
  by_cases hresumed : a.framePtr ≤ ci.primaryFramePtr
  · have hstate : a.state img ci w = (BitVec.ofInt 32 ci.unwindContext).toInt := if_pos hresumed
    rw [hstate]
    exact h.resumed hresumed
  · have hstored := h.tables w.mem hmem
    have hbounds := @stateAt_lt a.fn.nodes.length a.fn.regions
      (makeRva a.mach.rip (img.pdata.imageBase + a.entry.beginRva))
      fun r hr => ⟨(hstored.regionsFit.state r hr).1, hstored.states r hr⟩
    have hstate : a.state img ci w =
        stateAt a.fn.regions (makeRva a.mach.rip (img.pdata.imageBase + a.entry.beginRva)) :=
      if_neg hresumed
    rw [hstate]
    exact hbounds.2

theorem met_stored (hmem : img.Agrees w.mem) :
    a.fn.Stored (a.met ci ctx' conts w).world.mem img.pdata.imageBase (a.frameInfo img).fnBegin
      (img.pdata.imageBase + load w.mem (a.frameInfo img).extraData 4) :=
  h.tables w.mem hmem

/-- A frame without a catch block for the exception is left. Without an exception no try block may be
around its state. -/
theorem fh_passes (fuel : Nat) (ctx' : FrameWalkContext) (conts : Nat × Nat) (hmem : img.Agrees w.mem)
    (hclear : ¬(ci.getThrowInfo (readCatchInfo w.mem) = 0 ∧ a.guarded img ci w = true))
    (hchosen : a.chosen img ci w = none) :
    ∃ conts', fh img.run img.personality img.pdata fuel (a.frameInfo img) (a.met ci ctx' conts w) =
      .ok (a.met ci ctx' conts' (a.leave img ci w (-1) w)) := by
  by_cases hguarded : a.guarded img ci w = true
  · exact fh_of_none rfl (h.met_stored hmem) img.base (fun hnone => hclear ⟨hnone, hguarded⟩) rfl
      img.undisturbed h.unwindMap (h.state_lt hmem) hchosen
  · exact ⟨conts, fh_of_not_guarded rfl (h.met_stored hmem) img.undisturbed h.unwindMap
      (h.state_lt hmem) (Bool.eq_false_iff.2 hguarded)⟩

/-- A catch block for the exception is found. -/
theorem fh_catches (fuel : Nat) (ctx' : FrameWalkContext) (conts : Nat × Nat)
    (hmem : img.Agrees w.mem)
    (hclear : ¬(ci.getThrowInfo (readCatchInfo w.mem) = 0 ∧ a.guarded img ci w = true))
    (hchosen : a.chosen img ci w = some (tr, c)) :
    ∃ old, fh img.run img.personality img.pdata fuel (a.frameInfo img) (a.met ci ctx' conts w) =
      .ok (a.fn.undone img.run img.pdata.imageBase a.framePtr (tr.block.tryLow - 1) (a.state img ci w)
        ((a.met ci ctx' conts w).caught img.pdata.imageBase a.entry.beginRva (a.primaryFrame img ci w)
          tr c old (a.take img ci w c))) :=
  @fh_of_some img.run img.personality img.pdata a.fn (a.frameInfo img)
    (a.met ci ctx' conts w) fuel _ img.fixed tr c rfl (h.met_stored hmem) img.base
    (fun hnone => hclear ⟨hnone, guarded_of_chosen hchosen⟩) rfl img.undisturbed h.unwindMap
    (h.state_lt hmem) hchosen (h.catchVars w tr c hmem hchosen)

end Stands

end CppFrame

end Walk

/-! ## A recursive function -/

def recursiveEntry : RuntimeFunction := ⟨384, 400, 412⟩

/-- The function that calls catch blocks. -/
def callCatchEntry : RuntimeFunction := ⟨400, 408, 470⟩

/-- A function that saves `rbx`, with a handler that has nothing to do. -/
def savingEntry : RuntimeFunction := ⟨408, 412, 518⟩

/-- Unwind information of a function without a prolog, with its handler. -/
def bareUnwindInfo (handler extraData : Nat) : List (BitVec 8) :=
  [25#8, 0#8, 0#8, 0#8] ++ (encodeInt handler ++ encodeInt extraData)

/-- Unwind information of a function that pushes `rbx`. -/
def savingUnwindInfo : List (BitVec 8) :=
  [25#8, 1#8, 1#8, 0#8, 1#8, 48#8, 0#8, 0#8] ++ encodeInt 34

/-- The tables of the guarded function, the unwind information of the functions and the function
table. -/
def recursiveTables : List (BitVec 8) :=
  bareUnwindInfo 32 424 ++ (guardedTables ++ (bareUnwindInfo 33 0 ++
    (recursiveEntry.encode ++ (callCatchEntry.encode ++ (savingEntry.encode ++ savingUnwindInfo)))))

/-- The headers of the image. -/
def recursiveHeaders : List (Nat × Nat × Nat) :=
  [(16, 0x5a4d, 2), (76, 64, 4), (80, 0x4550, 4), (84, 0x8664, 2), (104, 0x20b, 2), (160, 544, 4),
    (164, 400, 4), (212, 4, 4), (240, 482, 4), (244, 36, 4)]

/-- The return addresses of two activations, and the `catch_info` of the catch block that has called
them. -/
def calledStack : List (Nat × Nat × Nat) := [(600, 412, 8), (608, 418, 8), (712, 8, 8), (720, 8, 8)]

/-- A frame with a saved register, an activation that a catch block has called, the frame of the catch
block with its `catch_info`, the activation that has caught, and the one in front of that. The object
at 800 was thrown, with a `throw_info` at 1040. -/
def caughtStack : List (Nat × Nat × Nat) :=
  [(884, 103, 8), (892, 404, 8), (900, 418, 8), (908, 412, 8), (916, 412, 8), (996, 916, 8), (1004, 800, 8), (1012, 1040, 8),
    (1044, 32, 4)]

/-- The image, and two stacks behind it. -/
def recursiveMemory : Memory :=
  (recursiveHeaders ++ (calledStack ++ caughtStack)).foldl
    (fun mem field => store mem field.1 field.2.1 field.2.2) (.holding 428 recursiveTables)

def recursivePdata : Pdata := ⟨16, 498, 3, 544⟩

def recursiveImage : Image where
  run := fun _ mem => mem
  personality := fun handler =>
    if handler = 48 then .cxxFrameHandler4
    else if handler = 50 then .sehFrameHandler
    else .callCatchFrameHandler
  pdata := recursivePdata
  functions := [recursiveEntry, callCatchEntry, savingEntry]
  fixed := fun _ => True
  mem := recursiveMemory
  base := by decide
  undisturbed := fun _ _ _ _ => rfl
  holds := by
    intro mem hmem
    obtain rfl : mem = recursiveMemory := funext fun x => hmem x trivial
    exact ⟨rfl, by decide +kernel, by decide, by decide, by decide⟩

theorem recursiveImage_agrees {mem : Memory} (h : recursiveImage.Agrees mem) : mem = recursiveMemory :=
  funext fun x => h x trivial

/-- The registers of the functions without a prolog. -/
def savedContext : FrameWalkContext := ⟨fun _ => 0, fun i => if i = 0 then 103 else 0, 0⟩

/-- An activation of a function without a prolog. -/
def bareFrame (index : Nat) (entry : RuntimeFunction) (mach : MachineFrame) (ret : Nat) : StackFrame where
  index := index
  entry := entry
  info := readUnwindInfo recursiveMemory (16 + entry.unwindStruct)
  prolog := []
  mach := mach
  framePtr := mach.rsp
  bodyRsp := mach.rsp
  fp := 0
  caller := savedContext
  ret := ret
  callerRsp := mach.rsp + 8

section Bare

variable {personality : Personality} {index ret : Nat} {entry : RuntimeFunction} {mach : MachineFrame}

theorem bareFrame_stands (hentry : recursiveImage.functions[index]? = some entry)
    (hinside : recursivePdata.containsAddress mach.rip = true)
    (hcovers : entry.Covers (makeRva mach.rip 16))
    (hflags : (readUnwindInfo recursiveMemory (16 + entry.unwindStruct)).flags &&& 3 ≠ 0)
    (hcount : (readUnwindInfo recursiveMemory (16 + entry.unwindStruct)).codeCount = 0)
    (hreg : (readUnwindInfo recursiveMemory (16 + entry.unwindStruct)).frameReg = 0)
    (hhandler : recursiveImage.personality
      (16 + load recursiveMemory (16 + entry.unwindStruct + 4) 4) = personality)
    (hret : load recursiveMemory mach.rsp 8 = ret) (hhigh : mach.rsp + 8 < 2 ^ 64) :
    (bareFrame index entry mach ret).Stands recursiveImage personality savedContext where
  inside := hinside
  entry := hentry
  covers := hcovers
  unwindInfo mem hmem := by
    rw [recursiveImage_agrees hmem]
    rfl
  flags := hflags
  handler mem hmem := by
    have hrva : (bareFrame index entry mach ret).handlerRva recursiveImage = 16 + entry.unwindStruct + 4 := by
      show 16 + entry.unwindStruct + 4 +
        2 * (((readUnwindInfo recursiveMemory (16 + entry.unwindStruct)).codeCount + 1) / 2 * 2) = _
      rw [hcount]
    rw [recursiveImage_agrees hmem, hrva]
    exact hhandler
  establisher := if_neg (not_not.2 hreg)
  frame mem hmem := by
    rw [recursiveImage_agrees hmem]
    exact .entry hret rfl hhigh
  near := by
    intro op hop
    cases hop
  slots := trivial
  count := hcount
  ready :=
    { rip := rfl
      rsp := .inl rfl
      frame := fun ⟨_, hop, _⟩ => nomatch hop
      gp := fun _ _ => rfl
      xmm := fun _ _ _ => rfl }

def recursiveFrame (mach : MachineFrame) (ret : Nat) : CppFrame :=
  ⟨bareFrame 0 recursiveEntry mach ret, guardedFunction⟩

theorem recursiveFrame_catchVars {ci : CatchInfo} {w : World} {tr : Try} {c : Catch}
    (h : (recursiveFrame mach ret).chosen recursiveImage ci w = some (tr, c)) :
    ((recursiveFrame mach ret).take recursiveImage ci w c).mem = w.mem := by
  obtain ⟨s, -, hs⟩ := Option.bind_eq_some_iff.1 h
  obtain ⟨htr, hc, -⟩ := mem_of_chosen hs
  rw [List.mem_singleton.1 htr] at hc
  rw [List.mem_singleton.1 hc]
  rfl

theorem recursiveFrame_stands {ci : CatchInfo} (hinside : recursivePdata.containsAddress mach.rip = true)
    (hcovers : recursiveEntry.Covers (makeRva mach.rip 16)) (hret : load recursiveMemory mach.rsp 8 = ret)
    (hhigh : mach.rsp + 8 < 2 ^ 64)
    (hresumed : mach.rsp ≤ ci.primaryFramePtr → (BitVec.ofInt 32 ci.unwindContext).toInt < 2) :
    (recursiveFrame mach ret).Stands recursiveImage ci savedContext where
  toStands := bareFrame_stands rfl hinside hcovers (by decide +kernel) (by decide +kernel)
    (by decide +kernel) (by decide +kernel) hret hhigh
  resumed := hresumed
  tables mem hmem := by
    rw [recursiveImage_agrees hmem]
    have hdata : 16 + load recursiveMemory (16 + 412 + 4 +
        2 * (((readUnwindInfo recursiveMemory 428).codeCount + 1) / 2 * 2) + 4) 4 = 440 := by
      decide +kernel
    have hlies : Lies recursiveMemory 440 guardedTables := by decide +kernel
    exact hdata.symm ▸ guardedFunction_stored hlies
  unwindMap _ _ := trivial
  catchVars w tr c _ h x _ := congrFun (recursiveFrame_catchVars h) x

end Bare

end WinShell.Exceptions
