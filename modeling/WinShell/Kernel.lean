-- SUMMARY: The kernel under the program: pool objects, frames, outstanding requests, and what each primitive does to them.
import WinShell.Effect.Heap
import WinShell.Effect.Prog
import WinShell.Wsk

/-!
# The kernel

The state that the program and the provider share, and the primitives through
which the program changes it. A primitive that is given a null or a dangling
pointer stops the machine (`none`). Freeing an object that the provider still
uses does not: that corruption stays silent, and its absence has to be proved.
-/

namespace WinShell

open Effect

inductive EventType where
  | notificationEvent | synchronizationEvent
  deriving DecidableEq

/-- `KEVENT`. -/
structure KEvent where
  type : EventType
  signaled : Bool
  deriving DecidableEq

/-- A satisfied wait resets a synchronization event and leaves a notification
event signaled. -/
def KEvent.afterWait (event : KEvent) : KEvent :=
  match event.type with
  | .notificationEvent => event
  | .synchronizationEvent => { event with signaled := false }

/-- The addressed locals of a running function that somebody else writes to:
its event, and the list that a resolution stores. `none` is uninitialised. -/
structure Frame where
  issuer : Nat
  event : Option KEvent := none
  result : Option AddrInfoList := none

structure IoStatusBlock where
  status : NtStatus
  information : ULongPtr
  deriving DecidableEq

structure Irp where
  completion : Option Completion := none
  ioStatus : IoStatusBlock := ⟨statusSuccess, 0#64⟩

/-- An MDL describes `byteCount` bytes from `startVa` on. -/
structure Mdl where
  startVa : PVoid
  byteCount : ULong
  built : Bool := false

structure Kernel where
  irps : Heap Irp := .empty
  mdls : Heap Mdl := .empty
  frames : Heap Frame := .empty
  /-- The requests that the provider owns. -/
  requests : List Request := []
  /-- The number of provider calls made so far. -/
  calls : Nat := 0
  /-- The number of pool allocations attempted so far. -/
  allocs : Nat := 0
  trace : List Event := []

/-! ## Primitives -/

/-- The kernel and provider interface that the functions of the program call.
A call with an IRP is made by `submit`, and `callReturn` is the moment it
returns to the caller; the provider may act in between. -/
inductive Op where
  | pushFrame
  | popFrame (frame : Nat)
  | ioAllocateIrp
  | ioFreeIrp (irp : PIrp)
  | keInitializeEvent (event : StackRef) (type : EventType) (state : Bool)
  | ioSetCompletionRoutine (irp : PIrp) (completion : Completion)
  | ioAllocateMdl (virtualAddress : PVoid) (length : ULong)
  | mmBuildMdlForNonPagedPool (mdl : PMdl)
  | ioFreeMdl (mdl : PMdl)
  | submit (call : WskCall) (irp : PIrp)
  | callReturn (irp : PIrp)
  | keWaitForSingleObject (event : StackRef)
  | ioStatusStatus (irp : PIrp)
  | ioStatusInformation (irp : PIrp)
  | readResult (result : StackRef)
  | wskRegister (dispatch : StackRef)
  | wskCaptureProviderNpi (registration : WskRegistration)
  | wskReleaseProviderNpi (registration : WskRegistration)
  | wskDeregister (registration : WskRegistration)
  | wskFreeAddressInfo (npi : WskProviderNpi) (list : Nat)

/-- What each primitive answers. -/
abbrev Op.Ret : Op → Type
  | pushFrame => Nat
  | ioAllocateIrp => PIrp
  | ioAllocateMdl _ _ => PMdl
  | callReturn _ => NtStatus
  | ioStatusStatus _ => NtStatus
  | ioStatusInformation _ => ULongPtr
  | readResult _ => SockAddr
  | wskRegister _ => NtStatus × WskRegistration
  | wskCaptureProviderNpi _ => NtStatus × WskProviderNpi
  | _ => Unit

/-- The signature of the programs of the repository. -/
abbrev winKernel : Signature := ⟨Op, Op.Ret⟩

abbrev Win := Prog winKernel

@[simp] def primitive (o : Op) : Win o.Ret := @Prog.perform winKernel o

/-- Whether the completion routine runs for a final status. No request of the
program is ever cancelled. -/
def Completion.runsFor (c : Completion) (status : NtStatus) : Bool :=
  if ntSuccess status then c.invokeOnSuccess else c.invokeOnError

namespace Kernel

def log (k : Kernel) (e : Event) : Kernel := { k with trace := k.trace ++ [e] }

/-- `KeSetEvent`: an event that was never initialised, or whose frame is gone,
is not there to be set. -/
def keSetEvent (k : Kernel) (event : StackRef) : Kernel :=
  match k.frames.get event.frame with
  | some fr =>
    { k with frames :=
        k.frames.set event.frame { fr with event := fr.event.map ({ · with signaled := true }) } }
  | none => k

/-- `IoCompletionRoutine`. -/
def ioCompletionRoutine (context : StackRef) (k : Kernel) : NtStatus × Kernel :=
  (statusMoreProcessingRequired, k.keSetEvent context)

/-- A resolution that succeeds stores its list through the pointer it was given. -/
def storeResult (k : Kernel) (req : Request) (fin : Final) : Kernel :=
  match req.call with
  | .wskGetAddressInfo _ _ _ _ _ result =>
    if ntSuccess fin.status then
      match k.frames.get result.frame with
      | some fr =>
        { k with frames :=
            k.frames.set result.frame { fr with result := some ⟨req.number, fin.addresses⟩ } }
      | none => k
    else k
  | _ => k

/-- The I/O manager takes a request through its completion: unless a completion
routine asks for more processing, the IRP is gone afterwards. -/
def runCompletion (k : Kernel) (req : Request) (status : NtStatus) : Kernel :=
  match req.completion with
  | some c =>
    if c.runsFor status then
      if (ioCompletionRoutine c.context k).1 = statusMoreProcessingRequired then
        (ioCompletionRoutine c.context k).2
      else { k with irps := k.irps.free req.irp }
    else { k with irps := k.irps.free req.irp }
  | none => { k with irps := k.irps.free req.irp }

/-- The final status is written to the IRP. -/
def setIoStatus (k : Kernel) (irp : Nat) (fin : Final) : Kernel :=
  match k.irps.get irp with
  | some cell =>
    { k with irps := k.irps.set irp { cell with ioStatus := ⟨fin.status, fin.information⟩ } }
  | none => k

/-- The provider completes a request it owns. -/
def complete (k : Kernel) (req : Request) (fin : Final) : Kernel :=
  let k := { k with requests := k.requests.erase req }
  let k := k.setIoStatus req.irp fin
  let k := k.storeResult req fin
  let k := k.log (.complete req fin.status fin.information)
  k.runCompletion req fin.status

/-- The effect of a primitive, given the answer that its caller receives. `none`
is a null or dangling pointer, which the kernel does not survive. -/
def apply (issuer : Nat) (k : Kernel) : (o : Op) → o.Ret → Option Kernel
  | .pushFrame, frame => some ({ k with frames := k.frames.push { issuer } }.log (.enter frame))
  | .popFrame frame, _ =>
    (k.frames.get frame).map fun _ =>
      { k with frames := k.frames.free frame }.log (.leave frame)
  | .ioAllocateIrp, none => some { k with allocs := k.allocs + 1 }
  | .ioAllocateIrp, some _ => some { k with irps := k.irps.push {}, allocs := k.allocs + 1 }
  | .ioFreeIrp irp, _ => do
    let p ← irp
    let _ ← k.irps.get p
    return { k with irps := k.irps.free p }
  | .keInitializeEvent event type state, _ => do
    let fr ← k.frames.get event.frame
    return { k with frames := k.frames.set event.frame { fr with event := some ⟨type, state⟩ } }
  | .ioSetCompletionRoutine irp completion, _ => do
    let p ← irp
    let cell ← k.irps.get p
    return { k with irps := k.irps.set p { cell with completion := some completion } }
  | .ioAllocateMdl _ _, none => some { k with allocs := k.allocs + 1 }
  | .ioAllocateMdl virtualAddress length, some _ =>
    some { k with
      mdls := k.mdls.push { startVa := virtualAddress, byteCount := length },
      allocs := k.allocs + 1 }
  | .mmBuildMdlForNonPagedPool mdl, _ => do
    let m ← mdl
    let cell ← k.mdls.get m
    return { k with mdls := k.mdls.set m { cell with built := true } }
  | .ioFreeMdl mdl, _ => do
    let m ← mdl
    let _ ← k.mdls.get m
    return { k with mdls := k.mdls.free m }
  | .submit call irp, _ => do
    let p ← irp
    let cell ← k.irps.get p
    let req : Request := ⟨k.calls, issuer, p, call, cell.completion⟩
    return { k with requests := req :: k.requests, calls := k.calls + 1 }.log (.issue req)
  | .callReturn _, _ => some k
  | .keWaitForSingleObject event, _ => do
    let fr ← k.frames.get event.frame
    let ev ← fr.event
    return { k with frames := k.frames.set event.frame { fr with event := some ev.afterWait } }
  | .ioStatusStatus irp, _ | .ioStatusInformation irp, _ => do
    let p ← irp
    let _ ← k.irps.get p
    return k
  | .readResult result, _ => do
    let fr ← k.frames.get result.frame
    return k.log (.readResult (fr.result.map AddrInfoList.request))
  | .wskRegister dispatch, (status, registration) =>
    some ({ k with calls := k.calls + 1 }.log (.register registration dispatch status))
  | .wskCaptureProviderNpi registration, (status, npi) =>
    some ({ k with calls := k.calls + 1 }.log (.capture registration npi status))
  | .wskReleaseProviderNpi registration, _ => some (k.log (.release registration))
  | .wskDeregister registration, _ => some (k.log (.deregister registration))
  | .wskFreeAddressInfo npi list, _ => some (k.log (.freeAddressInfo npi list))

/-! ## Primitives on live objects -/

section Live

variable {k : Kernel} {issuer p : Nat} {fr : Frame} {ev : KEvent} {cell : Irp} {m : Mdl}

theorem apply_popFrame (h : k.frames.get p = some fr) (r : Unit) :
    k.apply issuer (.popFrame p) r = some ({ k with frames := k.frames.free p }.log (.leave p)) := by
  show (k.frames.get p).map _ = _
  rw [h]
  rfl

theorem apply_keInitializeEvent {event : StackRef} (h : k.frames.get event.frame = some fr)
    (type : EventType) (state : Bool) (r : Unit) :
    k.apply issuer (.keInitializeEvent event type state) r =
      some { k with
        frames := k.frames.set event.frame { fr with event := some ⟨type, state⟩ } } := by
  show (k.frames.get event.frame).bind _ = _
  rw [h]
  rfl

theorem apply_keWaitForSingleObject {event : StackRef} (h : k.frames.get event.frame = some fr)
    (hev : fr.event = some ev) (r : Unit) :
    k.apply issuer (.keWaitForSingleObject event) r =
      some { k with frames := k.frames.set event.frame { fr with event := some ev.afterWait } } := by
  simp [apply, h, hev]

theorem apply_readResult {result : StackRef} (h : k.frames.get result.frame = some fr)
    (r : SockAddr) :
    k.apply issuer (.readResult result) r =
      some (k.log (.readResult (fr.result.map AddrInfoList.request))) := by
  show (k.frames.get result.frame).bind _ = _
  rw [h]
  rfl

theorem apply_ioFreeIrp (h : k.irps.get p = some cell) (r : Unit) :
    k.apply issuer (.ioFreeIrp (some p)) r = some { k with irps := k.irps.free p } := by
  show (k.irps.get p).bind _ = _
  rw [h]
  rfl

theorem apply_ioSetCompletionRoutine (h : k.irps.get p = some cell) (completion : Completion)
    (r : Unit) :
    k.apply issuer (.ioSetCompletionRoutine (some p) completion) r =
      some { k with irps := k.irps.set p { cell with completion := some completion } } := by
  show (k.irps.get p).bind _ = _
  rw [h]
  rfl

theorem apply_submit (h : k.irps.get p = some cell) (call : WskCall) (r : Unit) :
    k.apply issuer (.submit call (some p)) r =
      some ({ k with
        requests := ⟨k.calls, issuer, p, call, cell.completion⟩ :: k.requests
        calls := k.calls + 1 }.log (.issue ⟨k.calls, issuer, p, call, cell.completion⟩)) := by
  show (k.irps.get p).bind _ = _
  rw [h]
  rfl

theorem apply_ioStatusStatus (h : k.irps.get p = some cell) (r : NtStatus) :
    k.apply issuer (.ioStatusStatus (some p)) r = some k := by
  show (k.irps.get p).bind _ = _
  rw [h]
  rfl

theorem apply_ioStatusInformation (h : k.irps.get p = some cell) (r : ULongPtr) :
    k.apply issuer (.ioStatusInformation (some p)) r = some k := by
  show (k.irps.get p).bind _ = _
  rw [h]
  rfl

theorem apply_mmBuildMdlForNonPagedPool (h : k.mdls.get p = some m) (r : Unit) :
    k.apply issuer (.mmBuildMdlForNonPagedPool (some p)) r =
      some { k with mdls := k.mdls.set p { m with built := true } } := by
  show (k.mdls.get p).bind _ = _
  rw [h]
  rfl

theorem apply_ioFreeMdl (h : k.mdls.get p = some m) (r : Unit) :
    k.apply issuer (.ioFreeMdl (some p)) r = some { k with mdls := k.mdls.free p } := by
  show (k.mdls.get p).bind _ = _
  rw [h]
  rfl

end Live

end Kernel

end WinShell
