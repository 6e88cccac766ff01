-- SUMMARY: Unwinding one frame from its unwind codes restores the caller's registers, with the codes for which it does not.
import WinShell.Exceptions.Search

/-!
# Unwinding a frame

A function saves the nonvolatile registers it uses and moves the stack pointer in its
prolog. The compiler describes the prolog by unwind codes, the last instruction first.
`frame_walk_pdata::unwind` undoes what they say.
-/

namespace WinShell.Exceptions

open Store

/-! ## Contexts -/

/-- `frame_walk_context`. `xmm` counts blocks of 16 bytes from `xmm6` on: nine registers, a block for
`padding1` and `dummy_rsp`, and `xmm15`. `gp` counts from `rbx` on. -/
structure FrameWalkContext where
  xmm : Nat → Nat
  gp : Nat → Nat
  dummyRip : Nat

/-- The fields of `machine_frame` that are changed. -/
structure MachineFrame where
  rip : Nat
  rsp : Nat
deriving DecidableEq

/-- `frame_walk_context::gp`: the place of a register. -/
def gpIndex (idx : Nat) : Except BugCheckReason Nat :=
  let conv : List Int := [-1, -1, -1, 0, -1, 1, 2, 3, -1, -1, -1, -1, 4, 5, 6, 7]
  let offs := conv.getD idx (-1)
  if offs < 0 then .error .corruptedMachineState else .ok offs.toNat

/-- `get_xmm`: the block that is taken for a register. -/
def xmmIndex (idx : Nat) : Except BugCheckReason Nat :=
  if idx < 6 ∨ 16 ≤ idx then .error .corruptedMachineState else .ok (idx - 6)

def FrameWalkContext.setGp (ctx : FrameWalkContext) (i v : Nat) : FrameWalkContext :=
  { ctx with gp := Function.update ctx.gp i v }

def FrameWalkContext.setXmm (ctx : FrameWalkContext) (i v : Nat) : FrameWalkContext :=
  { ctx with xmm := Function.update ctx.xmm i v }

section

variable {ctx : FrameWalkContext} {i j v : Nat}

@[simp] theorem FrameWalkContext.gp_setGp_self : (ctx.setGp i v).gp i = v := by
  simp [FrameWalkContext.setGp]

@[simp] theorem FrameWalkContext.gp_setGp_of_ne (h : j ≠ i) : (ctx.setGp i v).gp j = ctx.gp j := by
  simp [FrameWalkContext.setGp, h]

@[simp] theorem FrameWalkContext.xmm_setXmm_self : (ctx.setXmm i v).xmm i = v := by
  simp [FrameWalkContext.setXmm]

@[simp] theorem FrameWalkContext.xmm_setXmm_of_ne (h : j ≠ i) : (ctx.setXmm i v).xmm j = ctx.xmm j := by
  simp [FrameWalkContext.setXmm, h]

end

/-! ## Unwind codes -/

inductive UnwindCode where
  | pushNonVolatileReg
  | allocLarge
  | allocSmall
  | setFramePointer
  | saveNonVolatileReg
  | saveFarNonVolatileReg
  | epilog
  | reserved07
  | sameXmm128
  | saveFarXmm128
  | pushMachineFrame
  | unknown
deriving DecidableEq

def UnwindCode.ofBits (bits : Nat) : UnwindCode :=
  match bits with
  | 0 => .pushNonVolatileReg
  | 1 => .allocLarge
  | 2 => .allocSmall
  | 3 => .setFramePointer
  | 4 => .saveNonVolatileReg
  | 5 => .saveFarNonVolatileReg
  | 6 => .epilog
  | 7 => .reserved07
  | 8 => .sameXmm128
  | 9 => .saveFarXmm128
  | 10 => .pushMachineFrame
  | _ => .unknown

/-- `unwind_info`, with its codes as the 16-bit numbers `data`. -/
structure UnwindInfo where
  flags : Nat
  codeCount : Nat
  frameReg : Nat
  frameRegDisp : Nat
  data : Nat → Nat

def readUnwindInfo (mem : Memory) (a : Nat) : UnwindInfo where
  flags := (mem a).toNat / 8
  codeCount := (mem (a + 2)).toNat
  frameReg := (mem (a + 3)).toNat % 16
  frameRegDisp := (mem (a + 3)).toNat / 16
  data idx := load mem (a + 4 + 2 * idx) 2

/-- The members of an `unwind_entry`. -/
def entryCode (entry : Nat) : UnwindCode := .ofBits (entry / 256 % 16)

def entryInfo (entry : Nat) : Nat := entry / 4096

structure Unwinding where
  ctx : FrameWalkContext
  mach : MachineFrame
  ripUpdated : Bool

/-- The sum of 64-bit numbers. -/
def add64 (a b : Nat) : Nat := (a + b) % 2 ^ 64

section Unwind

variable (mem : Memory) (info : UnwindInfo)

/-- One turn of the loop of `unwind`, with the number of further slots that the code takes. -/
def unwindCode (idx : Nat) (s : Unwinding) : Except BugCheckReason (Nat × Unwinding) :=
  let entry := info.data idx
  let rsp := s.mach.rsp
  match entryCode entry with
  | .pushNonVolatileReg => do
    let i ← gpIndex (entryInfo entry)
    return (0, { s with
      ctx := s.ctx.setGp i (load mem rsp 8), mach := { s.mach with rsp := add64 rsp 8 } })
  | .allocLarge =>
    if entryInfo entry = 0 then
      .ok (1, { s with mach := { s.mach with rsp := add64 rsp (info.data (idx + 1) * 8) } })
    else .ok (2, { s with mach := { s.mach with rsp := add64 rsp (info.data (idx + 1)) } })
  | .allocSmall =>
    .ok (0, { s with mach := { s.mach with rsp := add64 rsp (entryInfo entry * 8 + 8) } })
  | .setFramePointer => do
    let i ← gpIndex info.frameReg
    return (0, { s with mach := { s.mach with
      rsp := (s.ctx.gp i + 2 ^ 64 - info.frameRegDisp * 16) % 2 ^ 64 } })
  | .saveNonVolatileReg => do
    let i ← gpIndex (entryInfo entry)
    return (1, { s with
      ctx := s.ctx.setGp i (load mem (add64 rsp (info.data (idx + 1) * 8)) 8) })
  | .saveFarNonVolatileReg => do
    let i ← gpIndex (entryInfo entry)
    -- `get_unwind_data_as` is passed the index of the code itself
    let offset := info.data idx + 2 ^ 16 * info.data (idx + 1)
    return (2, { s with ctx := s.ctx.setGp i (load mem (add64 rsp offset) 8) })
  | .epilog => .ok (1, s)
  | .reserved07 => .ok (2, s)
  | .sameXmm128 => do
    let i ← xmmIndex (entryInfo entry)
    return (1, { s with
      ctx := s.ctx.setXmm i (load mem (add64 rsp (info.data (idx + 1) * 16)) 16) })
  | .saveFarXmm128 => do
    let i ← xmmIndex (entryInfo entry)
    return (2, { s with ctx := s.ctx.setXmm i (load mem (add64 rsp (info.data (idx + 1))) 16) })
  | .pushMachineFrame =>
    let rsp := add64 rsp (entryInfo entry * 8)
    .ok (0, { s with mach := ⟨load mem rsp 8, load mem (add64 rsp 24) 8⟩, ripUpdated := true })
  | .unknown => .ok (0, s)

/-- The loop of `unwind`. -/
def unwindCodes (idx : Nat) (s : Unwinding) : Except BugCheckReason Unwinding :=
  if idx < info.codeCount then do
    let (skip, s) ← unwindCode mem info idx s
    unwindCodes (idx + skip + 1) s
  else .ok s
termination_by info.codeCount - idx
decreasing_by omega

/-- `frame_walk_pdata::unwind`. -/
def unwind (ctx : FrameWalkContext) (mach : MachineFrame) :
    Except BugCheckReason (FrameWalkContext × MachineFrame) := do
  let s ← unwindCodes mem info 0 ⟨ctx, mach, false⟩
  if s.ripUpdated then return (s.ctx, s.mach)
  else return (s.ctx, ⟨load mem s.mach.rsp 8, add64 s.mach.rsp 8⟩)

end Unwind

/-! ## Prologs -/

/-- What an instruction of a prolog does. Offsets are from the stack pointer after the prolog's
allocations. -/
inductive PrologOp where
  | push (reg : Nat)
  | alloc (size : Nat)
  | setFrame
  | save (reg offset : Nat)
  | saveXmm (reg offset : Nat)
  | machineFrame (errorCode : Bool)
deriving DecidableEq

/-- A code's first slot: the prolog offset, the code and its info. -/
def entry (prologOffset code info : Nat) : Nat := prologOffset + 256 * code + 4096 * info

/-- The slots of an instruction at `prologOffset`. -/
def PrologOp.encode (prologOffset : Nat) : PrologOp → List Nat
  | .push reg => [entry prologOffset 0 reg]
  | .alloc size =>
    if size ≤ 128 then [entry prologOffset 2 (size / 8 - 1)]
    else if size < 2 ^ 19 then [entry prologOffset 1 0, size / 8]
    else [entry prologOffset 1 1, size % 2 ^ 16, size / 2 ^ 16]
  | .setFrame => [entry prologOffset 3 0]
  | .save reg offset =>
    if offset < 2 ^ 19 then [entry prologOffset 4 reg, offset / 8]
    else [entry prologOffset 5 reg, offset % 2 ^ 16, offset / 2 ^ 16]
  | .saveXmm reg offset =>
    if offset < 2 ^ 20 then [entry prologOffset 8 reg, offset / 16]
    else [entry prologOffset 9 reg, offset % 2 ^ 16, offset / 2 ^ 16]
  | .machineFrame errorCode => [entry prologOffset 10 errorCode.toNat]

/-- A prolog, the last instruction first, each with its prolog offset. -/
abbrev Prolog := List (Nat × PrologOp)

def Prolog.encode (prolog : Prolog) : List Nat := prolog.flatMap fun op => op.2.encode op.1

/-- The slots from `idx` on. -/
def SlotsAt (data : Nat → Nat) (idx : Nat) : List Nat → Prop
  | [] => True
  | slot :: slots => data idx = slot ∧ SlotsAt data (idx + 1) slots

def PrologOp.SavesGp (i : Nat) : PrologOp → Prop
  | .push reg | .save reg _ => gpIndex reg = .ok i
  | _ => False

def PrologOp.SavesXmm (i : Nat) : PrologOp → Prop
  | .saveXmm reg _ => xmmIndex reg = .ok i
  | _ => False

/-- The instructions that are undone as they should: all but those with large offsets and those that
save `xmm15`. -/
def PrologOp.Near : PrologOp → Prop
  | .push _ | .setFrame | .machineFrame _ => True
  | .alloc size => 8 ∣ size ∧ 0 < size ∧ size < 2 ^ 19
  | .save _ offset => 8 ∣ offset ∧ offset < 2 ^ 19
  | .saveXmm reg offset => reg < 15 ∧ 16 ∣ offset ∧ offset < 2 ^ 20

/-- The frame that a prolog has set up below the stack pointer `callerRsp`: at `rsp` what the prolog's
instructions have saved, and the return address. `fp` is the value of the frame register, which is
not saved again once it is set. -/
inductive Frame (mem : Memory) (info : UnwindInfo) (fp : Nat) (caller : FrameWalkContext)
    (ret callerRsp : Nat) : Prolog → Nat → Prop where
  | entry {rsp : Nat} (hret : load mem rsp 8 = ret) (hrsp : rsp + 8 = callerRsp)
      (hhigh : callerRsp < 2 ^ 64) : Frame mem info fp caller ret callerRsp [] rsp
  | machineFrame {rsp start : Nat} {errorCode : Bool} (hret : load mem (rsp + errorCode.toNat * 8) 8 = ret)
      (hrsp : load mem (rsp + errorCode.toNat * 8 + 24) 8 = callerRsp) (hhigh : rsp + 40 < 2 ^ 64) :
      Frame mem info fp caller ret callerRsp [(start, .machineFrame errorCode)] rsp
  | push {rsp start reg i : Nat} {rest : Prolog} (hreg : gpIndex reg = .ok i)
      (hsaved : load mem rsp 8 = caller.gp i)
      (hkeep : gpIndex info.frameReg = .ok i → ∀ op ∈ rest, op.2 ≠ .setFrame)
      (h : Frame mem info fp caller ret callerRsp rest (rsp + 8)) :
      Frame mem info fp caller ret callerRsp ((start, .push reg) :: rest) rsp
  | alloc {rsp start size : Nat} {rest : Prolog}
      (h : Frame mem info fp caller ret callerRsp rest (rsp + size)) :
      Frame mem info fp caller ret callerRsp ((start, .alloc size) :: rest) rsp
  | setFrame {rsp start i : Nat} {rest : Prolog} (hreg : gpIndex info.frameReg = .ok i)
      (hfp : fp = rsp + info.frameRegDisp * 16)
      (h : Frame mem info fp caller ret callerRsp rest rsp) :
      Frame mem info fp caller ret callerRsp ((start, .setFrame) :: rest) rsp
  | save {rsp start reg i offset : Nat} {rest : Prolog} (hreg : gpIndex reg = .ok i)
      (hsaved : load mem (rsp + offset) 8 = caller.gp i) (hhigh : rsp + offset < 2 ^ 64)
      (hkeep : gpIndex info.frameReg = .ok i → ∀ op ∈ rest, op.2 ≠ .setFrame)
      (h : Frame mem info fp caller ret callerRsp rest rsp) :
      Frame mem info fp caller ret callerRsp ((start, .save reg offset) :: rest) rsp
  | saveXmm {rsp start reg i offset : Nat} {rest : Prolog} (hreg : xmmIndex reg = .ok i)
      (hsaved : load mem (rsp + offset) 16 = caller.xmm i) (hhigh : rsp + offset < 2 ^ 64)
      (h : Frame mem info fp caller ret callerRsp rest rsp) :
      Frame mem info fp caller ret callerRsp ((start, .saveXmm reg offset) :: rest) rsp

theorem slotsAt_append {data : Nat → Nat} {idx : Nat} {xs ys : List Nat} :
    SlotsAt data idx (xs ++ ys) ↔ SlotsAt data idx xs ∧ SlotsAt data (idx + xs.length) ys := by
  induction xs generalizing idx with
  | nil => simp [SlotsAt]
  | cons x xs ih =>
    rw [List.cons_append, SlotsAt, SlotsAt, ih, and_assoc, List.length_cons, Nat.add_assoc,
      Nat.add_comm 1]

/-! ## Unwinding restores the caller -/

section Restores

variable {mem : Memory} {info : UnwindInfo} {fp ret callerRsp rsp idx i reg : Nat}
variable {caller ctx : FrameWalkContext} {prolog rest : Prolog} {s s' : Unwinding}

theorem add64_of_lt {a b : Nat} (h : a + b < 2 ^ 64) : add64 a b = a + b := Nat.mod_eq_of_lt h

theorem lt_of_gpIndex (h : gpIndex reg = .ok i) : reg < 16 := by
  by_contra hge
  have hnone : gpIndex reg = .error .corruptedMachineState := by
    unfold gpIndex
    dsimp only
    rw [List.getD_eq_default _ _ (by simpa using hge)]
    rfl
  rw [hnone] at h
  cases h

theorem entryCode_entry {start code x : Nat} (hat : start < 256) (hcode : code < 16) :
    entryCode (entry start code x) = .ofBits code := by
  unfold entryCode entry
  congr 1
  omega

theorem entryInfo_entry {start code x : Nat} (hat : start < 256) (hcode : code < 16) :
    entryInfo (entry start code x) = x := by
  unfold entryInfo entry
  omega

theorem unwindCodes_step (skip : Nat) (s' : Unwinding) (hidx : idx < info.codeCount)
    (h : unwindCode mem info idx s = .ok (skip, s')) :
    unwindCodes mem info idx s = unwindCodes mem info (idx + skip + 1) s' := by
  rw [unwindCodes, if_pos hidx, h]
  rfl

theorem Frame.rsp_lt (h : Frame mem info fp caller ret callerRsp prolog rsp) : rsp + 8 < 2 ^ 64 := by
  induction h with
  | entry _ hrsp hhigh => omega
  | machineFrame _ _ hhigh => omega
  | push _ _ _ _ ih | alloc _ ih | setFrame _ _ _ ih | save _ _ _ _ _ ih | saveXmm _ _ _ _ ih => omega

/-- What the loop has to have when it comes to the codes of `prolog`. -/
structure Ready (info : UnwindInfo) (fp : Nat) (caller : FrameWalkContext) (prolog : Prolog)
    (rsp : Nat) (s : Unwinding) : Prop where
  rip : s.ripUpdated = false
  rsp : s.mach.rsp = rsp ∨ ∃ start rest, prolog = (start, .setFrame) :: rest
  frame : (∃ op ∈ prolog, op.2 = .setFrame) → ∀ i, gpIndex info.frameReg = .ok i → s.ctx.gp i = fp
  gp : ∀ i, (∀ op ∈ prolog, ¬op.2.SavesGp i) → s.ctx.gp i = caller.gp i
  xmm : ∀ i, i ≠ 9 → (∀ op ∈ prolog, ¬op.2.SavesXmm i) → s.ctx.xmm i = caller.xmm i

/-- What the loop leaves. -/
structure Unwound (mem : Memory) (caller : FrameWalkContext) (ret callerRsp : Nat) (s : Unwinding) :
    Prop where
  gp : ∀ i, s.ctx.gp i = caller.gp i
  xmm : ∀ i, i ≠ 9 → s.ctx.xmm i = caller.xmm i
  mach : s.ripUpdated = true ∧ s.mach = ⟨ret, callerRsp⟩ ∨
    s.ripUpdated = false ∧ load mem s.mach.rsp 8 = ret ∧ s.mach.rsp + 8 = callerRsp ∧
      callerRsp < 2 ^ 64

/-- Where the next code is not that of the frame register, the stack pointer is known. -/
theorem Ready.rsp_eq {op : Nat × PrologOp} (h : Ready info fp caller (op :: rest) rsp s)
    (hop : op.2 ≠ .setFrame) : s.mach.rsp = rsp := by
  refine h.rsp.elim id fun ⟨start, rest', heq⟩ => absurd ?_ hop
  rw [(List.cons.inj heq).1]

/-- A code that saves nothing. -/
theorem Ready.move {op : Nat × PrologOp} {rsp' : Nat} (h : Ready info fp caller (op :: rest) rsp s)
    (hgp : ∀ i, ¬op.2.SavesGp i) (hxmm : ∀ i, ¬op.2.SavesXmm i) :
    Ready info fp caller rest rsp' { s with mach := { s.mach with rsp := rsp' } } where
  rip := h.rip
  rsp := .inl rfl
  frame hset := h.frame (hset.imp fun _ hop => ⟨List.mem_cons_of_mem _ hop.1, hop.2⟩)
  gp i hi := h.gp i (List.forall_mem_cons.2 ⟨hgp i, hi⟩)
  xmm i hne hi := h.xmm i hne (List.forall_mem_cons.2 ⟨hxmm i, hi⟩)

/-- A code that restores a general register. -/
theorem Ready.restoreGp {op : Nat × PrologOp} {rsp' : Nat} (h : Ready info fp caller (op :: rest) rsp s)
    (hop : ∀ j, op.2.SavesGp j ↔ j = i) (hxmm : ∀ i, ¬op.2.SavesXmm i)
    (hkeep : gpIndex info.frameReg = .ok i → ∀ op ∈ rest, op.2 ≠ .setFrame) :
    Ready info fp caller rest rsp'
      ⟨s.ctx.setGp i (caller.gp i), { s.mach with rsp := rsp' }, s.ripUpdated⟩ where
  rip := h.rip
  rsp := .inl rfl
  frame hset j hj := by
    have hne : j ≠ i := fun heq => by
      subst heq
      obtain ⟨op, hop, hset⟩ := hset
      exact hkeep hj op hop hset
    rw [FrameWalkContext.gp_setGp_of_ne hne]
    exact h.frame (hset.imp fun _ hop => ⟨List.mem_cons_of_mem _ hop.1, hop.2⟩) j hj
  gp j hj := by
    by_cases heq : j = i
    · subst heq
      exact FrameWalkContext.gp_setGp_self
    · rw [FrameWalkContext.gp_setGp_of_ne heq]
      exact h.gp j (List.forall_mem_cons.2 ⟨fun hs => heq ((hop j).1 hs), hj⟩)
  xmm j hne hj := h.xmm j hne (List.forall_mem_cons.2 ⟨hxmm j, hj⟩)

/-- A code that restores an `xmm` register. -/
theorem Ready.restoreXmm {op : Nat × PrologOp} (h : Ready info fp caller (op :: rest) rsp s)
    (hrsp : s.mach.rsp = rsp) (hop : ∀ j, op.2.SavesXmm j ↔ j = i) (hgp : ∀ i, ¬op.2.SavesGp i) :
    Ready info fp caller rest rsp ⟨s.ctx.setXmm i (caller.xmm i), s.mach, s.ripUpdated⟩ where
  rip := h.rip
  rsp := .inl hrsp
  frame hset := h.frame (hset.imp fun _ hop => ⟨List.mem_cons_of_mem _ hop.1, hop.2⟩)
  gp j hj := h.gp j (List.forall_mem_cons.2 ⟨hgp j, hj⟩)
  xmm j hne hj := by
    by_cases heq : j = i
    · subst heq
      exact FrameWalkContext.xmm_setXmm_self
    · rw [FrameWalkContext.xmm_setXmm_of_ne heq]
      exact h.xmm j hne (List.forall_mem_cons.2 ⟨fun hs => heq ((hop j).1 hs), hj⟩)

/-- The slots of the first instruction, and of the others. -/
theorem slotsAt_cons {start : Nat} {op : PrologOp}
    (h : SlotsAt info.data idx (Prolog.encode ((start, op) :: rest))) :
    SlotsAt info.data idx (op.encode start) ∧
      SlotsAt info.data (idx + (op.encode start).length) (Prolog.encode rest) :=
  slotsAt_append.1 h

theorem length_encode_cons {start : Nat} {op : PrologOp} :
    (Prolog.encode ((start, op) :: rest)).length = (op.encode start).length + (Prolog.encode rest).length :=
  List.length_append

theorem ok_inj {α ε : Type} {a b : α} : (Except.ok a : Except ε α) = .ok b ↔ b = a :=
  ⟨fun h => (Except.ok.inj h).symm, fun h => congrArg _ h.symm⟩

/-- The loop over the codes of a prolog, all of whose instructions are near. -/
theorem unwindCodes_frame (h : Frame mem info fp caller ret callerRsp prolog rsp)
    (hnear : ∀ op ∈ prolog, op.1 < 256 ∧ op.2.Near) (hslots : SlotsAt info.data idx prolog.encode)
    (hcount : info.codeCount = idx + prolog.encode.length)
    (ready : Ready info fp caller prolog rsp s) :
    ∃ s', unwindCodes mem info idx s = .ok s' ∧ Unwound mem caller ret callerRsp s' := by
  induction h generalizing idx s with
  | entry hret hrsp hhigh =>
    have hs : s.mach.rsp = _ := ready.rsp.elim id fun ⟨_, _, heq⟩ => nomatch heq
    refine ⟨s, ?_, fun i => ready.gp i nofun, fun i hi => ready.xmm i hi nofun, .inr ?_⟩
    · rw [unwindCodes, if_neg (by rw [hcount]; exact Nat.lt_irrefl _)]
    · rw [hs]
      exact ⟨ready.rip, hret, hrsp, hhigh⟩
  | @machineFrame rsp start errorCode hret hrsp hhigh =>
    obtain ⟨⟨hat, -⟩, -⟩ := List.forall_mem_cons.1 hnear
    obtain ⟨⟨hslot, -⟩, -⟩ := slotsAt_cons hslots
    have hs := ready.rsp_eq (by simp)
    have hcode : errorCode.toNat ≤ 1 := Bool.toNat_le errorCode
    refine ⟨⟨s.ctx, ⟨ret, callerRsp⟩, true⟩, ?_,
      fun i => ready.gp i (List.forall_mem_singleton.2 id),
      fun i hi => ready.xmm i hi (List.forall_mem_singleton.2 id), .inl ⟨rfl, rfl⟩⟩
    rw [unwindCodes_step 0 ⟨s.ctx, ⟨ret, callerRsp⟩, true⟩
      (by rw [hcount]; simp [Prolog.encode, PrologOp.encode]) ?_,
      unwindCodes, if_neg (by rw [hcount]; simp [Prolog.encode, PrologOp.encode])]
    rw [unwindCode, hslot, entryCode_entry hat (by decide), hs]
    simp only [UnwindCode.ofBits, entryInfo_entry hat (show 10 < 16 by decide)]
    rw [add64_of_lt (by omega), add64_of_lt (by omega), hret, hrsp]
  | @push rsp start reg i rest hreg hsaved hkeep h ih =>
    obtain ⟨⟨hat, -⟩, hrest⟩ := List.forall_mem_cons.1 hnear
    obtain ⟨⟨hslot, -⟩, hslots⟩ := slotsAt_cons hslots
    rw [length_encode_cons] at hcount
    have hlen : ((PrologOp.push reg).encode start).length = 1 := rfl
    have hs := ready.rsp_eq (by simp)
    have hlow := h.rsp_lt
    rw [unwindCodes_step 0 ⟨s.ctx.setGp i (caller.gp i),
      { s.mach with rsp := rsp + 8 }, s.ripUpdated⟩ (by omega) ?_]
    · exact ih hrest hslots (by omega)
        (ready.restoreGp (fun j => by rw [PrologOp.SavesGp, hreg, ok_inj]) (fun _ => id) hkeep)
    · rw [unwindCode, hslot, entryCode_entry hat (by decide), hs]
      simp only [UnwindCode.ofBits, entryInfo_entry hat (show 0 < 16 by decide)]
      rw [hreg, hsaved, add64_of_lt (by omega)]
      rfl
  | @alloc rsp start size rest h ih =>
    obtain ⟨⟨hat, hdvd, hpos, hsize⟩, hrest⟩ := List.forall_mem_cons.1 hnear
    obtain ⟨hslot, hslots⟩ := slotsAt_cons hslots
    rw [length_encode_cons] at hcount
    have hs := ready.rsp_eq (by simp)
    have hlow := h.rsp_lt
    have hready : Ready info fp caller rest (rsp + size)
        ⟨s.ctx, { s.mach with rsp := rsp + size }, s.ripUpdated⟩ :=
      ready.move (fun _ => id) (fun _ => id)
    by_cases hsmall : size ≤ 128
    · rw [PrologOp.encode, if_pos hsmall] at hslot hslots hcount
      rw [unwindCodes_step 0 ⟨s.ctx, { s.mach with rsp := rsp + size }, s.ripUpdated⟩
        (by simp at hcount; omega) ?_]
      · exact ih hrest hslots (by simp at hcount ⊢; omega) hready
      · rw [unwindCode, hslot.1, entryCode_entry hat (by decide), hs]
        simp only [UnwindCode.ofBits, entryInfo_entry hat (show 2 < 16 by decide)]
        rw [show (size / 8 - 1) * 8 + 8 = size by omega, add64_of_lt (by omega)]
    · rw [PrologOp.encode, if_neg hsmall, if_pos hsize] at hslot hslots hcount
      rw [unwindCodes_step 1 ⟨s.ctx, { s.mach with rsp := rsp + size }, s.ripUpdated⟩
        (by simp at hcount; omega) ?_]
      · exact ih hrest hslots (by simp at hcount ⊢; omega) hready
      · rw [unwindCode, hslot.1, entryCode_entry hat (by decide), hs]
        simp only [UnwindCode.ofBits, entryInfo_entry hat (show 1 < 16 by decide)]
        rw [if_pos trivial, hslot.2.1, Nat.div_mul_cancel hdvd, add64_of_lt (by omega)]
  | @setFrame rsp start i rest hreg hfp h ih =>
    obtain ⟨⟨hat, -⟩, hrest⟩ := List.forall_mem_cons.1 hnear
    obtain ⟨⟨hslot, -⟩, hslots⟩ := slotsAt_cons hslots
    rw [length_encode_cons] at hcount
    have hlen : (PrologOp.setFrame.encode start).length = 1 := rfl
    have hlow := h.rsp_lt
    have hframe : s.ctx.gp i = fp := ready.frame ⟨_, List.mem_cons_self, rfl⟩ i hreg
    rw [unwindCodes_step 0 ⟨s.ctx, { s.mach with rsp := rsp }, s.ripUpdated⟩ (by omega) ?_]
    · exact ih hrest hslots (by omega) (ready.move (fun _ => id) (fun _ => id))
    · rw [unwindCode, hslot, entryCode_entry hat (by decide)]
      simp only [UnwindCode.ofBits]
      rw [hreg]
      show Except.ok (0, _) = _
      rw [hframe, hfp, show (rsp + info.frameRegDisp * 16 + 2 ^ 64 - info.frameRegDisp * 16) % 2 ^ 64 =
        rsp by omega]
  | @save rsp start reg i offset rest hreg hsaved hhigh hkeep h ih =>
    obtain ⟨⟨hat, hdvd, hoffset⟩, hrest⟩ := List.forall_mem_cons.1 hnear
    obtain ⟨hslot, hslots⟩ := slotsAt_cons hslots
    rw [length_encode_cons] at hcount
    rw [PrologOp.encode, if_pos hoffset] at hslot hslots hcount
    have hs := ready.rsp_eq (by simp)
    rw [unwindCodes_step 1 ⟨s.ctx.setGp i (caller.gp i), { s.mach with rsp := rsp }, s.ripUpdated⟩
      (by simp at hcount; omega) ?_]
    · exact ih hrest hslots (by simp at hcount ⊢; omega)
        (ready.restoreGp (fun j => by rw [PrologOp.SavesGp, hreg, ok_inj]) (fun _ => id) hkeep)
    · rw [unwindCode, hslot.1, entryCode_entry hat (by decide), hs]
      simp only [UnwindCode.ofBits, entryInfo_entry hat (show 4 < 16 by decide)]
      rw [hreg, hslot.2.1, Nat.div_mul_cancel hdvd, add64_of_lt hhigh, hsaved, ← hs]
      rfl
  | @saveXmm rsp start reg i offset rest hreg hsaved hhigh h ih =>
    obtain ⟨⟨hat, -, hdvd, hoffset⟩, hrest⟩ := List.forall_mem_cons.1 hnear
    obtain ⟨hslot, hslots⟩ := slotsAt_cons hslots
    rw [length_encode_cons] at hcount
    rw [PrologOp.encode, if_pos hoffset] at hslot hslots hcount
    have hs := ready.rsp_eq (by simp)
    rw [unwindCodes_step 1 ⟨s.ctx.setXmm i (caller.xmm i), s.mach, s.ripUpdated⟩
      (by simp at hcount; omega) ?_]
    · exact ih hrest hslots (by simp at hcount ⊢; omega)
        (ready.restoreXmm hs (fun j => by rw [PrologOp.SavesXmm, hreg, ok_inj]) (fun _ => id))
    · rw [unwindCode, hslot.1, entryCode_entry hat (by decide), hs]
      simp only [UnwindCode.ofBits, entryInfo_entry hat (show 8 < 16 by decide)]
      rw [hreg, hslot.2.1, Nat.div_mul_cancel hdvd, add64_of_lt hhigh, hsaved]
      rfl

theorem unwind_of_unwound {mach : MachineFrame} (hs : unwindCodes mem info 0 ⟨ctx, mach, false⟩ = .ok s)
    (h : Unwound mem caller ret callerRsp s) :
    unwind mem info ctx mach = .ok (s.ctx, ⟨ret, callerRsp⟩) := by
  rw [unwind, hs]
  show (if s.ripUpdated = true then _ else _) = _
  rcases h.mach with ⟨hrip, hmach⟩ | ⟨hrip, hret, hrsp, hhigh⟩
  · rw [if_pos hrip, hmach]
    rfl
  · rw [if_neg (by rw [hrip]; decide), hret, add64_of_lt (by omega), hrsp]
    rfl

/-- Unwinding a frame in the body of its function gives the registers, the stack pointer and the
address with which the caller goes on. -/
theorem unwind_restores {mach : MachineFrame} (h : Frame mem info fp caller ret callerRsp prolog rsp)
    (hnear : ∀ op ∈ prolog, op.1 < 256 ∧ op.2.Near) (hslots : SlotsAt info.data 0 prolog.encode)
    (hcount : info.codeCount = prolog.encode.length)
    (ready : Ready info fp caller prolog rsp ⟨ctx, mach, false⟩) :
    ∃ ctx', unwind mem info ctx mach = .ok (ctx', ⟨ret, callerRsp⟩) ∧
      (∀ i, ctx'.gp i = caller.gp i) ∧ ∀ i, i ≠ 9 → ctx'.xmm i = caller.xmm i := by
  obtain ⟨s, hs, hunwound⟩ :=
    unwindCodes_frame h hnear hslots (hcount.trans (Nat.zero_add _).symm) ready
  exact ⟨s.ctx, unwind_of_unwound hs hunwound, hunwound.gp, hunwound.xmm⟩

/-- A prolog that pushes `rbx` and makes room for 32 bytes. -/
def pushProlog : Prolog := [(5, .alloc 32), (1, .push 3)]

def pushInfo : UnwindInfo := ⟨0, 2, 0, 0, fun idx => pushProlog.encode.getD idx 0⟩

def pushMemory : Memory := .holding 32 (bytesOf 7 8 ++ bytesOf 9 8)

def pushCaller : FrameWalkContext := ⟨fun _ => 0, fun i => if i = 0 then 7 else 0, 0⟩

theorem unwind_restores_pushProlog :
    ∃ ctx', unwind pushMemory pushInfo ⟨fun _ => 0, fun _ => 0, 0⟩ ⟨0, 0⟩ = .ok (ctx', ⟨9, 48⟩) ∧
      (∀ i, ctx'.gp i = pushCaller.gp i) ∧ ∀ i, i ≠ 9 → ctx'.xmm i = pushCaller.xmm i := by
  have frame : Frame pushMemory pushInfo 0 pushCaller 9 48 pushProlog 0 :=
    .alloc (.push rfl (by decide) (fun h => nomatch h) (.entry (by decide) rfl (by decide)))
  have ready : Ready pushInfo 0 pushCaller pushProlog 0 ⟨⟨fun _ => 0, fun _ => 0, 0⟩, ⟨0, 0⟩, false⟩ :=
    { rip := rfl
      rsp := .inl rfl
      frame := fun _ _ h => nomatch h
      gp := fun i hi => by
        have hne : i ≠ 0 := by
          rintro rfl
          exact hi (1, .push 3) (.tail _ (.head _)) rfl
        exact (if_neg hne).symm
      xmm := fun _ _ _ => rfl }
  have hnear : ∀ op ∈ pushProlog, op.1 < 256 ∧ op.2.Near := by
    intro op hop
    rcases List.mem_cons.1 hop with rfl | hop
    · exact ⟨by decide, by decide, by decide, by decide⟩
    · rw [List.mem_singleton.1 hop]
      exact ⟨by decide, trivial⟩
  exact unwind_restores frame hnear ⟨rfl, rfl, trivial⟩ rfl ready

end Restores

/-! ## The codes that are misread -/

section Misread

variable {mem : Memory} {info : UnwindInfo} {idx start a b : Nat} {op : PrologOp} {s : Unwinding}

/-- The place of a general register that has one. -/
def gpPlace (reg : Nat) : Nat := (gpIndex reg).toOption.getD 0

/-- The block of `xmm6` to `xmm15`. -/
def xmmPlace (reg : Nat) : Nat := if reg = 15 then 10 else reg - 6

/-- What it means to undo an instruction. -/
def PrologOp.undo (mem : Memory) (info : UnwindInfo) (s : Unwinding) : PrologOp → Unwinding
  | .push reg =>
    { s with
      ctx := s.ctx.setGp (gpPlace reg) (load mem s.mach.rsp 8)
      mach := { s.mach with rsp := add64 s.mach.rsp 8 } }
  | .alloc size => { s with mach := { s.mach with rsp := add64 s.mach.rsp size } }
  | .setFrame =>
    { s with mach := { s.mach with
      rsp := (s.ctx.gp (gpPlace info.frameReg) + 2 ^ 64 - info.frameRegDisp * 16) % 2 ^ 64 } }
  | .save reg offset =>
    { s with ctx := s.ctx.setGp (gpPlace reg) (load mem (add64 s.mach.rsp offset) 8) }
  | .saveXmm reg offset =>
    { s with ctx := s.ctx.setXmm (xmmPlace reg) (load mem (add64 s.mach.rsp offset) 16) }
  | .machineFrame errorCode =>
    let rsp := add64 s.mach.rsp (errorCode.toNat * 8)
    { s with mach := ⟨load mem rsp 8, load mem (add64 rsp 24) 8⟩, ripUpdated := true }

/-- An instruction that the codes can describe. -/
def PrologOp.Fits (info : UnwindInfo) : PrologOp → Prop
  | .push reg => ∃ i, gpIndex reg = .ok i
  | .alloc size => 8 ∣ size ∧ 0 < size ∧ size < 2 ^ 32
  | .setFrame => ∃ i, gpIndex info.frameReg = .ok i
  | .save reg offset => (∃ i, gpIndex reg = .ok i) ∧ 8 ∣ offset ∧ offset < 2 ^ 32
  | .saveXmm reg offset => 6 ≤ reg ∧ reg < 16 ∧ 16 ∣ offset ∧ offset < 2 ^ 32
  | .machineFrame _ => True

/-- The code of an instruction undoes it. -/
def Undoes (info : UnwindInfo) (idx start : Nat) (op : PrologOp) : Prop :=
  ∀ mem s, unwindCode mem info idx s = .ok ((op.encode start).length - 1, op.undo mem info s)

theorem gpPlace_eq {reg i : Nat} (h : gpIndex reg = .ok i) : gpPlace reg = i := by
  rw [gpPlace, h]
  rfl

/-- A memory in which no two addresses hold the same number. -/
theorem load_single_ne (h : a ≠ b) (n : Nat) :
    load (fun x => if x = a then 1 else 0) a (n + 1) ≠
      load (fun x => if x = a then 1 else 0) b (n + 1) := by
  rw [load, load, if_pos rfl, if_neg h.symm]
  intro heq
  simp at heq
  omega

theorem near_undoes (hstart : start < 256) (hfits : op.Fits info) (hnear : op.Near)
    (hslots : SlotsAt info.data idx (op.encode start)) : Undoes info idx start op := by
  intro mem s
  cases op with
  | push reg =>
    obtain ⟨i, hi⟩ := hfits
    rw [unwindCode, hslots.1, entryCode_entry hstart (by decide)]
    simp only [UnwindCode.ofBits, entryInfo_entry hstart (show 0 < 16 by decide)]
    rw [hi, PrologOp.undo, gpPlace_eq hi]
    rfl
  | alloc size =>
    obtain ⟨hdvd, hpos, hsize⟩ := hnear
    by_cases hsmall : size ≤ 128
    · rw [PrologOp.encode, if_pos hsmall] at hslots ⊢
      rw [unwindCode, hslots.1, entryCode_entry hstart (by decide)]
      simp only [UnwindCode.ofBits, entryInfo_entry hstart (show 2 < 16 by decide)]
      rw [show (size / 8 - 1) * 8 + 8 = size by omega]
      rfl
    · rw [PrologOp.encode, if_neg hsmall, if_pos hsize] at hslots ⊢
      rw [unwindCode, hslots.1, entryCode_entry hstart (by decide)]
      simp only [UnwindCode.ofBits, entryInfo_entry hstart (show 1 < 16 by decide)]
      rw [if_pos trivial, hslots.2.1, Nat.div_mul_cancel hdvd]
      rfl
  | setFrame =>
    obtain ⟨i, hi⟩ := hfits
    rw [unwindCode, hslots.1, entryCode_entry hstart (by decide)]
    simp only [UnwindCode.ofBits]
    rw [hi, PrologOp.undo, gpPlace_eq hi]
    rfl
  | save reg offset =>
    obtain ⟨⟨i, hi⟩, -⟩ := hfits
    obtain ⟨hdvd, hoffset⟩ := hnear
    rw [PrologOp.encode, if_pos hoffset] at hslots ⊢
    rw [unwindCode, hslots.1, entryCode_entry hstart (by decide)]
    simp only [UnwindCode.ofBits, entryInfo_entry hstart (show 4 < 16 by decide)]
    rw [hi, PrologOp.undo, gpPlace_eq hi, hslots.2.1, Nat.div_mul_cancel hdvd]
    rfl
  | saveXmm reg offset =>
    obtain ⟨hlow, -⟩ := hfits
    obtain ⟨hreg, hdvd, hoffset⟩ := hnear
    rw [PrologOp.encode, if_pos hoffset] at hslots ⊢
    rw [unwindCode, hslots.1, entryCode_entry hstart (by decide)]
    simp only [UnwindCode.ofBits, entryInfo_entry hstart (show 8 < 16 by decide)]
    rw [xmmIndex, if_neg (by omega), PrologOp.undo, xmmPlace, if_neg (by omega), hslots.2.1,
      Nat.div_mul_cancel hdvd]
    rfl
  | machineFrame errorCode =>
    rw [unwindCode, hslots.1, entryCode_entry hstart (by decide)]
    simp only [UnwindCode.ofBits, entryInfo_entry hstart (show 10 < 16 by decide)]
    rfl

/-- A frame at the bottom of the address space. -/
def bottom : Unwinding := ⟨⟨fun _ => 0, fun _ => 0, 0⟩, ⟨0, 0⟩, false⟩

/-- Far codes, as the loop reads them. -/
theorem unwindCode_allocFar {size : Nat} (hstart : start < 256) (hsize : 2 ^ 19 ≤ size)
    (hslots : SlotsAt info.data idx ((PrologOp.alloc size).encode start)) :
    unwindCode mem info idx s =
      .ok (2, { s with mach := { s.mach with rsp := add64 s.mach.rsp (size % 2 ^ 16) } }) := by
  rw [PrologOp.encode, if_neg (by omega), if_neg (by omega)] at hslots
  rw [unwindCode, hslots.1, entryCode_entry hstart (by decide)]
  simp only [UnwindCode.ofBits, entryInfo_entry hstart (show 1 < 16 by decide)]
  rw [if_neg (by decide), hslots.2.1]

theorem unwindCode_saveFar {reg offset i : Nat} (hstart : start < 256) (hoffset : 2 ^ 19 ≤ offset)
    (hi : gpIndex reg = .ok i)
    (hslots : SlotsAt info.data idx ((PrologOp.save reg offset).encode start)) :
    unwindCode mem info idx s =
      .ok (2, { s with
        ctx := s.ctx.setGp i
          (load mem (add64 s.mach.rsp (entry start 5 reg + 2 ^ 16 * (offset % 2 ^ 16))) 8) }) := by
  rw [PrologOp.encode, if_neg (by omega)] at hslots
  rw [unwindCode, hslots.1, entryCode_entry hstart (by decide)]
  simp only [UnwindCode.ofBits, entryInfo_entry hstart (show 5 < 16 by decide)]
  rw [hi, hslots.2.1]
  rfl

theorem unwindCode_saveXmmFar {reg offset : Nat} (hstart : start < 256) (hoffset : 2 ^ 20 ≤ offset)
    (hlow : 6 ≤ reg) (hhigh : reg < 16)
    (hslots : SlotsAt info.data idx ((PrologOp.saveXmm reg offset).encode start)) :
    unwindCode mem info idx s =
      .ok (2, { s with
        ctx := s.ctx.setXmm (reg - 6) (load mem (add64 s.mach.rsp (offset % 2 ^ 16)) 16) }) := by
  rw [PrologOp.encode, if_neg (by omega)] at hslots
  rw [unwindCode, hslots.1, entryCode_entry hstart (by decide)]
  simp only [UnwindCode.ofBits, entryInfo_entry hstart (show 9 < 16 by decide)]
  rw [xmmIndex, if_neg (by omega), hslots.2.1]
  rfl

theorem unwindCode_saveXmmNear {reg offset : Nat} (hstart : start < 256) (hoffset : offset < 2 ^ 20)
    (hlow : 6 ≤ reg) (hhigh : reg < 16) (hdvd : 16 ∣ offset)
    (hslots : SlotsAt info.data idx ((PrologOp.saveXmm reg offset).encode start)) :
    unwindCode mem info idx s =
      .ok (1, { s with ctx := s.ctx.setXmm (reg - 6) (load mem (add64 s.mach.rsp offset) 16) }) := by
  rw [PrologOp.encode, if_pos hoffset] at hslots
  rw [unwindCode, hslots.1, entryCode_entry hstart (by decide)]
  simp only [UnwindCode.ofBits, entryInfo_entry hstart (show 8 < 16 by decide)]
  rw [xmmIndex, if_neg (by omega), hslots.2.1, Nat.div_mul_cancel hdvd]
  rfl

/-- The contexts and the stack pointers that two ways of undoing an instruction give. -/
theorem Undoes.eq {skip : Nat} {s' : Unwinding} (h : Undoes info idx start op)
    (hcode : unwindCode mem info idx s = .ok (skip, s')) : s' = op.undo mem info s :=
  (Prod.mk.inj (Except.ok.inj (hcode.symm.trans (h mem s)))).2

/-- The code of an instruction undoes it, whatever the frame holds, if and only if it allocates less
than 512 KiB, saves a general register at an offset below 512 KiB, or saves one of `xmm6` to `xmm14`
at an offset below 1 MiB. With a far offset a general register is restored from the right place only
if the offset repeats the bits of its own code. -/
theorem undoes_iff (hstart : start < 256) (hfits : op.Fits info)
    (hslots : SlotsAt info.data idx (op.encode start)) :
    Undoes info idx start op ↔
      op.Near ∨ ∃ reg offset, op = .save reg offset ∧ offset = (2 ^ 16 + 1) * entry start 5 reg := by
  refine ⟨fun h => ?_, ?_⟩
  · cases op with
    | push | setFrame | machineFrame => exact .inl trivial
    | alloc size =>
      obtain ⟨hdvd, hpos, hsize⟩ := hfits
      refine .inl ⟨hdvd, hpos, Nat.lt_of_not_le fun hfar => ?_⟩
      have heq := h.eq (@unwindCode_allocFar (fun _ => 0) info idx start bottom size hstart hfar hslots)
      have hrsp : add64 0 (size % 2 ^ 16) = add64 0 size := congrArg (·.mach.rsp) heq
      unfold add64 at hrsp
      omega
    | save reg offset =>
      obtain ⟨⟨i, hi⟩, hdvd, hoffset⟩ := hfits
      by_cases hnear : offset < 2 ^ 19
      · exact .inl ⟨hdvd, hnear⟩
      · have hreg := lt_of_gpIndex hi
        refine .inr ⟨reg, offset, rfl, ?_⟩
        by_contra hne
        have hwrong : offset ≠ entry start 5 reg + 2 ^ 16 * (offset % 2 ^ 16) := by
          unfold entry at hne ⊢
          omega
        have heq := h.eq (@unwindCode_saveFar (fun x => if x = offset then 1 else 0) info idx
          start bottom reg offset i hstart (Nat.le_of_not_lt hnear) hi hslots)
        have hgp := congrArg (fun s : Unwinding => s.ctx.gp i) heq
        simp only [PrologOp.undo, gpPlace_eq hi, FrameWalkContext.gp_setGp_self] at hgp
        have hlt : entry start 5 reg + 2 ^ 16 * (offset % 2 ^ 16) < 2 ^ 64 := by
          unfold entry
          omega
        simp only [bottom, add64, Nat.zero_add, Nat.mod_eq_of_lt hlt,
          Nat.mod_eq_of_lt (show offset < 2 ^ 64 by omega)] at hgp
        exact load_single_ne hwrong 7 hgp.symm
    | saveXmm reg offset =>
      obtain ⟨hlow, hhigh, hdvd, hoffset⟩ := hfits
      have hsingle : load (fun x => if x = offset then 1 else 0) offset 16 ≠ 0 := by
        rw [load, if_pos rfl]
        simp
      have hundo : (PrologOp.undo (fun x => if x = offset then 1 else 0) info bottom
          (.saveXmm reg offset)).ctx.xmm (xmmPlace reg) =
          load (fun x => if x = offset then 1 else 0) offset 16 := by
        simp only [PrologOp.undo, FrameWalkContext.xmm_setXmm_self, bottom, add64, Nat.zero_add,
          Nat.mod_eq_of_lt (show offset < 2 ^ 64 by omega)]
      obtain ⟨v, skip, hcode, hv⟩ : ∃ v skip, unwindCode (fun x => if x = offset then 1 else 0) info
          idx bottom = .ok (skip, { bottom with ctx := bottom.ctx.setXmm (reg - 6) v }) ∧
          (2 ^ 20 ≤ offset → v = load (fun x => if x = offset then 1 else 0) (offset % 2 ^ 16) 16) := by
        by_cases hnear : offset < 2 ^ 20
        · exact ⟨_, _, unwindCode_saveXmmNear hstart hnear hlow hhigh hdvd hslots,
            fun hfar => absurd hnear (Nat.not_lt.2 hfar)⟩
        · refine ⟨_, _, unwindCode_saveXmmFar hstart (Nat.le_of_not_lt hnear) hlow hhigh hslots,
            fun _ => ?_⟩
          simp only [bottom, add64, Nat.zero_add, Nat.mod_eq_of_lt
            (show offset % 2 ^ 16 < 2 ^ 64 by omega)]
      have hxmm := congrArg (fun s : Unwinding => s.ctx.xmm (xmmPlace reg)) (h.eq hcode)
      dsimp only at hxmm
      rw [hundo] at hxmm
      have hreg : reg < 15 := by
        by_contra hge
        obtain rfl : reg = 15 := by omega
        have hne : xmmPlace 15 ≠ 15 - 6 := by decide
        rw [FrameWalkContext.xmm_setXmm_of_ne hne] at hxmm
        exact hsingle hxmm.symm
      have hplace : xmmPlace reg = reg - 6 := if_neg (by omega)
      rw [hplace, FrameWalkContext.xmm_setXmm_self] at hxmm
      refine .inl ⟨hreg, hdvd, Nat.lt_of_not_le fun hfar => ?_⟩
      rw [hv hfar] at hxmm
      exact load_single_ne (show offset ≠ offset % 2 ^ 16 by omega) 15 hxmm.symm
  · rintro (hnear | ⟨reg, offset, rfl, hoffset⟩)
    · exact near_undoes hstart hfits hnear hslots
    · intro mem s
      obtain ⟨⟨i, hi⟩, -⟩ := hfits
      have hreg := lt_of_gpIndex hi
      have hsame : entry start 5 reg + 2 ^ 16 * (offset % 2 ^ 16) = offset := by
        unfold entry at hoffset ⊢
        omega
      have hfar : 2 ^ 19 ≤ offset := by
        unfold entry at hoffset
        omega
      rw [unwindCode_saveFar hstart hfar hi hslots, hsame, PrologOp.undo, gpPlace_eq hi,
        PrologOp.encode, if_neg (by omega)]
      rfl

/-- The code for a register saved 512 KiB above the stack pointer. -/
def farInfo : UnwindInfo := ⟨0, 3, 0, 0, fun idx => ((PrologOp.save 3 (2 ^ 19)).encode 4).getD idx 0⟩

theorem undoes_iff_farInfo :
    SlotsAt farInfo.data 0 ((PrologOp.save 3 (2 ^ 19)).encode 4) ∧
      ¬Undoes farInfo 0 4 (.save 3 (2 ^ 19)) := by
  have hslots : SlotsAt farInfo.data 0 ((PrologOp.save 3 (2 ^ 19)).encode 4) := ⟨rfl, rfl, rfl, trivial⟩
  have hfits : (PrologOp.save 3 (2 ^ 19)).Fits farInfo := ⟨⟨0, rfl⟩, by decide, by decide⟩
  refine ⟨hslots, fun h => ?_⟩
  rcases (undoes_iff (by decide) hfits hslots).1 h with hnear | ⟨reg, offset, heq, hoffset⟩
  · exact absurd hnear.2 (by decide)
  · obtain ⟨rfl, rfl⟩ := PrologOp.save.inj heq
    revert hoffset
    decide

end Misread

end WinShell.Exceptions
