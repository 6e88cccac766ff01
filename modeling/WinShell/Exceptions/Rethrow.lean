-- SUMMARY: A rethrow in front of a catch block: the probe for its exception, and where it leaves the throw.
import WinShell.Exceptions.Stack

/-!
# Rethrow

A rethrow that is met in a try block has to look for its exception first. It probes the
frames behind, up to that of the catch block that it is in, and the throw does not come
back from there.
-/

namespace WinShell.Exceptions

open Store

/-- A stack of C++ frames, the innermost first: each returns to the one behind it, and the last one
to `endMach` with the registers `endCtx`. -/
inductive CppStack (img : Image) (ci : CatchInfo) (endCtx : FrameWalkContext) (endMach : MachineFrame) :
    FrameWalkContext → MachineFrame → List CppFrame → Prop where
  | nil : CppStack img ci endCtx endMach endCtx endMach []
  | cons {ctx : FrameWalkContext} {a : CppFrame} {rest : List CppFrame}
    (stands : a.Stands img ci ctx)
    (h : CppStack img ci endCtx endMach a.caller ⟨a.ret, a.callerRsp⟩ rest) :
    CppStack img ci endCtx endMach ctx a.mach (a :: rest)

section Rethrow

variable {img : Image} {ci : CatchInfo} {ctx ctx' endCtx : FrameWalkContext} {mach endMach : MachineFrame}
variable {a : CppFrame} {frames : List CppFrame} {w : World} {fuel : Nat} {tr : Try} {c : Catch}

/-- What a probe takes from the `catch_info` at an address: the exception there, or the one that it is
linked to. -/
def linkFrom (mem : Memory) (address : Nat) : Nat :=
  if (readCatchInfo mem address).throwInfoIfOwner ≠ 0 then address
  else (readCatchInfo mem address).exceptionObjectOrLink

theorem StackFrame.probe_eq (cf : StackFrame)
    (hlive : (readCatchInfo w.mem (cf.framePtr + catchInfoOffset)).exceptionObjectOrLink ≠ 0) :
    catchFrameHandler img.run img.pdata .rethrowProbe (cf.frameInfo img) ⟨ctx, mach, ci, 0, w⟩ =
      .ok ⟨ctx, mach,
        { ci with exceptionObjectOrLink := linkFrom w.mem (cf.framePtr + catchInfoOffset) }, 0, w⟩ := by
  unfold catchFrameHandler callCatchFrameHandler linkFrom StackFrame.frameInfo
  dsimp only
  rw [if_neg hlive]
  split_ifs <;> rfl

theorem linkFrom_ne_zero {mem : Memory} {framePtr : Nat}
    (hlive : (readCatchInfo mem (framePtr + catchInfoOffset)).exceptionObjectOrLink ≠ 0) :
    linkFrom mem (framePtr + catchInfoOffset) ≠ 0 := by
  unfold linkFrom
  split_ifs
  · exact Nat.ne_of_gt (Nat.add_pos_right _ (by decide))
  · exact hlive

/-- The probe of a rethrow passes C++ frames. -/
theorem probeForException_passes (n : Nat) (stack : CppStack img ci endCtx endMach ctx mach frames)
    (hsame : ctx'.Same ctx) (hmem : img.Agrees w.mem) (hrethrow : ci.exceptionObjectOrLink = 0) :
    ∃ ctx'', probeForException img.run img.personality img.pdata (n + frames.length)
        ⟨ctx', mach, ci, 0, w⟩ =
      probeForException img.run img.personality img.pdata n ⟨ctx'', endMach, ci, 0, w⟩ ∧
      ctx''.Same endCtx := by
  induction stack generalizing ctx' with
  | nil => exact ⟨ctx', rfl, hsame⟩
  | @cons ctx a rest stands stack ih =>
    obtain ⟨handler, ctx₁, henter, hpersonality, hsame₁⟩ := stands.enterFrame_eq ci hmem hsame
    obtain ⟨ctx₂, hunwind, hsame₂⟩ := stands.unwindFrame_eq ci hmem hsame₁
    rw [List.length_cons, ← Nat.add_assoc, probeForException, henter]
    dsimp only [bind, Except.bind]
    rw [callOptional, callProbed, hpersonality]
    dsimp only
    rw [if_neg (not_not.2 hrethrow), hunwind]
    exact ih hsame₂

/-- The probe of a rethrow stops at the frame of a catch block. -/
theorem probeForException_stops {cf : StackFrame} (hcatch : cf.Stands img .callCatchFrameHandler endCtx)
    (hsame : ctx'.Same endCtx) (hmem : img.Agrees w.mem)
    (hlive : (readCatchInfo w.mem (cf.framePtr + catchInfoOffset)).exceptionObjectOrLink ≠ 0) :
    ∃ ctx'', probeForException img.run img.personality img.pdata (fuel + 1) ⟨ctx', cf.mach, ci, 0, w⟩ =
        .ok ⟨ctx'', cf.mach,
          { ci with exceptionObjectOrLink := linkFrom w.mem (cf.framePtr + catchInfoOffset) }, 0, w⟩ ∧
      ctx''.Same endCtx := by
  obtain ⟨handler, ctx₁, henter, hpersonality, hsame₁⟩ := hcatch.enterFrame_eq ci hmem hsame
  rw [probeForException, henter]
  dsimp only [bind, Except.bind]
  rw [callOptional, callProbed, hpersonality]
  dsimp only
  rw [cf.probe_eq hlive]
  dsimp only
  rw [if_pos (linkFrom_ne_zero hlive)]
  exact ⟨ctx₁, rfl, hsame₁⟩

/-- The probe of a rethrow passes the C++ frames up to the frame of a catch block, from which it takes
the exception. It leaves the throw there: the frame and the registers in which the rethrow was met are
lost. -/
theorem probeForException_moves {cf : StackFrame}
    (stack : CppStack img ci endCtx cf.mach ctx mach frames)
    (hcatch : cf.Stands img .callCatchFrameHandler endCtx) (hsame : ctx'.Same ctx)
    (hmem : img.Agrees w.mem) (hrethrow : ci.exceptionObjectOrLink = 0)
    (hlive : (readCatchInfo w.mem (cf.framePtr + catchInfoOffset)).exceptionObjectOrLink ≠ 0)
    (hfuel : frames.length < fuel) :
    ∃ ctx'', probeForException img.run img.personality img.pdata fuel ⟨ctx', mach, ci, 0, w⟩ =
        .ok ⟨ctx'', cf.mach,
          { ci with exceptionObjectOrLink := linkFrom w.mem (cf.framePtr + catchInfoOffset) }, 0, w⟩ ∧
      ctx''.Same endCtx := by
  obtain ⟨n, rfl⟩ : ∃ n, fuel = n + 1 + frames.length := ⟨fuel - frames.length - 1, by omega⟩
  obtain ⟨ctx₁, hpasses, hsame₁⟩ := probeForException_passes (n + 1) stack hsame hmem hrethrow
  obtain ⟨ctx₂, hstops, hsame₂⟩ := probeForException_stops hcatch hsame₁ hmem hlive
  exact ⟨ctx₂, hpasses.trans hstops, hsame₂⟩

/-- The frame in which a rethrow is met has a catch block for the exception, but the throw is set up for
it with the registers and the stack of the frame that the probe has stopped at. -/
theorem fh_rethrow_astray {cf : StackFrame} {rest : List CppFrame} {link : Nat}
    (stands : a.Stands img ci ctx)
    (stack : CppStack img ci endCtx cf.mach a.caller ⟨a.ret, a.callerRsp⟩ rest)
    (hcatch : cf.Stands img .callCatchFrameHandler endCtx) (hsame : ctx'.Same ctx)
    (hmem : img.Agrees w.mem) (hrethrow : ci.exceptionObjectOrLink = 0)
    (hlive : (readCatchInfo w.mem (cf.framePtr + catchInfoOffset)).exceptionObjectOrLink ≠ 0)
    (hlink : linkFrom w.mem (cf.framePtr + catchInfoOffset) = link)
    (hthrow : ({ ci with exceptionObjectOrLink := link } : CatchInfo).getThrowInfo
      (readCatchInfo w.mem) ≠ 0)
    (hchosen : a.chosen img { ci with exceptionObjectOrLink := link } w = some (tr, c))
    (hvar : ∀ x, img.fixed x → (a.take img { ci with exceptionObjectOrLink := link } w c).mem x = w.mem x)
    (hfuel : rest.length + 1 < fuel) :
    ∃ t, fh img.run img.personality img.pdata fuel (a.frameInfo img) ⟨ctx', a.mach, ci, 0, w⟩ = .ok t ∧
      t.handler = img.pdata.imageBase + c.handler ∧ t.mach = cf.mach ∧ t.ctx.Same endCtx ∧
      t.catchInfo.primaryFramePtr = a.primaryFrame img ci w := by
  obtain ⟨n, rfl⟩ : ∃ n, fuel = n + 1 + (a :: rest).length :=
    ⟨fuel - rest.length - 2, by rw [List.length_cons]; omega⟩
  obtain ⟨ctx₁, hpasses, hsame₁⟩ :=
    probeForException_passes (n + 1) (.cons stands stack) hsame hmem hrethrow
  obtain ⟨ctx₂, hstops, hsame₂⟩ := probeForException_stops hcatch hsame₁ hmem hlive
  have hprobe := hpasses.trans hstops
  rw [hlink] at hprobe
  have hstored := stands.tables w.mem hmem
  obtain ⟨old, hsearch⟩ := @searchFrame_of_probe img.run img.personality img.pdata a.fn
    (a.frameInfo img) _ _ _ _ tr c hstored img.base hprobe rfl (if_neg (not_not.2 hrethrow)) hthrow rfl
    hchosen
  have hlow : -1 ≤ tr.block.targetState := by
    obtain ⟨s, -, hs⟩ := Option.bind_eq_some_iff.1 hchosen
    rw [TryBlock.targetState_eq (hstored.catches tr (mem_of_chosen hs).1).fits]
    omega
  exact ⟨_, fh_of_searchFrame rfl hstored img.undisturbed stands.unwindMap hsearch hvar hlow
    (stands.state_lt hmem), rfl, rfl, hsame₂, rfl⟩

/-- A rethrow goes astray when the function that rethrows has a catch block for the exception: the throw
is set up for that catch block, with the registers and the stack of the frame behind all C++ frames. -/
theorem cxxDispatchException_astray {cf : StackFrame} {rest : List CppFrame} {init : CatchInfo}
    {imageBase link handler : Nat} (hpdata : Pdata.ofImage w.mem imageBase = .ok img.pdata)
    (stands : a.Stands img (thrownInfo init 0 0) ctx)
    (stack : CppStack img (thrownInfo init 0 0) endCtx cf.mach a.caller ⟨a.ret, a.callerRsp⟩ rest)
    (hcatch : cf.Stands img .callCatchFrameHandler endCtx) (hmem : img.Agrees w.mem)
    (hlive : (readCatchInfo w.mem (cf.framePtr + catchInfoOffset)).exceptionObjectOrLink ≠ 0)
    (hlink : linkFrom w.mem (cf.framePtr + catchInfoOffset) = link)
    (hthrow : (thrownInfo init link 0).getThrowInfo (readCatchInfo w.mem) ≠ 0)
    (hchosen : a.chosen img (thrownInfo init link 0) w = some (tr, c))
    (hvar : ∀ x, img.fixed x → (a.take img (thrownInfo init link 0) w c).mem x = w.mem x)
    (hfuel : rest.length + 2 < fuel) :
    ∃ t, cxxDispatchException img.run img.personality imageBase fuel 0 0 ⟨ctx, a.mach, init, handler, w⟩ =
        .ok t ∧
      t.handler = img.pdata.imageBase + c.handler ∧ t.mach = cf.mach ∧ t.ctx.Same endCtx ∧
      t.catchInfo.primaryFramePtr = a.primaryFrame img (thrownInfo init 0 0) w := by
  obtain ⟨fuel, rfl⟩ : ∃ n, fuel = n + 1 := ⟨fuel - 1, by omega⟩
  obtain ⟨handler, ctx₁, henter, hpersonality, hsame₁⟩ :=
    stands.enterFrame_eq (thrownInfo init 0 0) hmem ⟨fun _ => rfl, fun _ _ => rfl⟩
  obtain ⟨t, hfh, hhandler, hrest⟩ := fh_rethrow_astray stands stack hcatch hsame₁ hmem rfl hlive hlink
    hthrow hchosen hvar (Nat.lt_of_succ_lt_succ hfuel)
  have hne : t.handler ≠ 0 := by
    rw [hhandler]
    exact Nat.ne_of_gt (Nat.add_pos_left img.base _)
  refine ⟨t, ?_, hhandler, hrest⟩
  rw [cxxDispatchException, hpdata]
  dsimp only [check, bind, Except.bind]
  rw [dispatchLoop, henter]
  dsimp only [bind, Except.bind]
  rw [callOptional, callHandler, hpersonality]
  dsimp only
  rw [hfh]
  dsimp only
  rw [if_pos hne]
  rfl

end Rethrow

/-! ## A rethrow in a recursive function -/

/-- Before the try block, called from within it. -/
def innerFrame : CppFrame := recursiveFrame ⟨404, 600⟩ 412

def outerFrame : CppFrame := recursiveFrame ⟨412, 608⟩ 418

/-- The frame of the catch block from which the function was called. -/
def catchFrame : StackFrame := bareFrame 1 callCatchEntry ⟨418, 616⟩ 0

theorem catchFrame_stands : catchFrame.Stands recursiveImage .callCatchFrameHandler savedContext :=
  bareFrame_stands rfl (by decide) ⟨by decide, by decide⟩ (by decide +kernel) (by decide +kernel)
    (by decide +kernel) (by decide +kernel) (by decide +kernel) (by decide)

theorem recursiveStack {ci : CatchInfo} (hci : ci.primaryFramePtr = 0) :
    CppStack recursiveImage ci savedContext catchFrame.mach savedContext ⟨404, 600⟩
      [innerFrame, outerFrame] := by
  have inner : innerFrame.Stands recursiveImage ci savedContext :=
    recursiveFrame_stands (by decide) ⟨by decide, by decide⟩ (by decide +kernel) (by decide)
      fun h => absurd h (by rw [hci]; decide)
  have outer : outerFrame.Stands recursiveImage ci savedContext :=
    recursiveFrame_stands (by decide) ⟨by decide, by decide⟩ (by decide +kernel) (by decide)
      fun h => absurd h (by rw [hci]; decide)
  exact .cons inner (.cons outer .nil)

/-- A throw in the inner activation. -/
def recursiveThrow : ThrowFrame where
  ctx := savedContext
  mach := ⟨404, 600⟩
  catchInfo := default
  handler := 0
  world := ⟨recursiveMemory, []⟩

/-- The probe of a rethrow in the inner activation. -/
theorem probeForException_moves_recursive :
    ∃ ctx, probeForException recursiveImage.run recursiveImage.personality recursivePdata 3
        ⟨savedContext, ⟨404, 600⟩, thrownInfo default 0 0, 0, recursiveThrow.world⟩ =
      .ok ⟨ctx, ⟨418, 616⟩, thrownInfo default 688 0, 0, recursiveThrow.world⟩ := by
  have hlive : (readCatchInfo recursiveThrow.world.mem
      (catchFrame.framePtr + catchInfoOffset)).exceptionObjectOrLink ≠ 0 := by decide +kernel
  have hlink : linkFrom recursiveThrow.world.mem (catchFrame.framePtr + catchInfoOffset) = 688 := by
    decide +kernel
  have stack : CppStack recursiveImage (thrownInfo default 0 0) savedContext catchFrame.mach savedContext
    ⟨404, 600⟩ [innerFrame, outerFrame] := recursiveStack rfl
  obtain ⟨ctx, hprobe, -⟩ := probeForException_moves stack catchFrame_stands
    ⟨fun _ => rfl, fun _ _ => rfl⟩ (fun _ _ => rfl) rfl hlive (Nat.lt_succ_self 2)
  rw [hlink] at hprobe
  exact ⟨ctx, hprobe⟩

/-- A rethrow in the outer activation: its catch block is entered on the stack of the function that has
called it. -/
theorem cxxDispatchException_astray_recursive :
    ∃ t, cxxDispatchException recursiveImage.run recursiveImage.personality 16 3 0 0
        ⟨savedContext, ⟨412, 608⟩, default, 0, recursiveThrow.world⟩ = .ok t ∧
      t.handler = 56 ∧ t.mach = ⟨418, 616⟩ ∧ t.catchInfo.primaryFramePtr = 608 := by
  have outer : outerFrame.Stands recursiveImage (thrownInfo default 0 0) savedContext :=
    recursiveFrame_stands (by decide) ⟨by decide, by decide⟩ (by decide +kernel) (by decide)
      fun h => absurd h (by decide)
  have hchosen : outerFrame.chosen recursiveImage (thrownInfo default 688 0) recursiveThrow.world =
      some (guardedTry, catchAll) := by decide +kernel
  obtain ⟨t, hrun, hhandler, hmach, -, hprimary⟩ := @cxxDispatchException_astray recursiveImage
    savedContext savedContext outerFrame recursiveThrow.world 3 _ _ catchFrame [] default 16 688 0
    (by decide +kernel) outer .nil catchFrame_stands (fun _ _ => rfl) (by decide +kernel)
    (by decide +kernel) (by decide +kernel) hchosen
    (fun x _ => congrFun (recursiveFrame_catchVars hchosen) x) (by decide)
  exact ⟨t, hrun, hhandler, hmach, hprimary.trans (by decide +kernel)⟩

end WinShell.Exceptions
