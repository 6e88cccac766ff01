-- SUMMARY: What one invocation knows of the kernel it shares, and the protocol of its request.
import WinShell.Concurrent.Operations
import WinShell.Trace

/-!
# The view of an invocation

An invocation knows its frame, its IRP, its MDL, and how far its one request has
come. The only thing that others change about it is that the provider completes
the request. The protocol lets an invocation prepare and submit one request, and
free what the request refers to only while the provider does not own it.
-/

namespace WinShell

open Effect

/-! ## The requests of one invocation -/

section Projections

variable (i : Nat)

@[simp] def Event.issuedBy : Event → Option Request
  | .issue req => if req.issuer = i then some req else none
  | _ => none

@[simp] def Event.completedBy : Event → Option (Request × NtStatus × ULongPtr)
  | .complete req status information =>
    if req.issuer = i then some (req, status, information) else none
  | _ => none

/-- The requests that an invocation has made. -/
abbrev Trace.issues (t : List Event) : List Request := collect (Event.issuedBy i) t

/-- The requests of an invocation that are complete, with their outcomes. -/
abbrev Trace.completions (t : List Event) : List (Request × NtStatus × ULongPtr) :=
  collect (Event.completedBy i) t

theorem Trace.issues_append (t s : List Event) :
    Trace.issues i (t ++ s) = Trace.issues i t ++ Trace.issues i s :=
  collect_append

theorem Trace.completions_append (t s : List Event) :
    Trace.completions i (t ++ s) = Trace.completions i t ++ Trace.completions i s :=
  collect_append

end Projections

namespace Concurrent

/-- How far the request of an invocation has come. -/
inductive Stage where
  | fresh
  | owned (req : Request)
  | done (req : Request) (status : NtStatus) (information : ULongPtr)

namespace Stage

/-- The provider does not own the request. -/
@[simp] def settled : Stage → Bool
  | owned _ => false
  | _ => true

@[simp] def isDone : Stage → Bool
  | done _ _ _ => true
  | _ => false

@[simp] def issues : Stage → List Request
  | fresh => []
  | owned req | done req _ _ => [req]

@[simp] def completions : Stage → List (Request × NtStatus × ULongPtr)
  | done req status information => [(req, status, information)]
  | _ => []

end Stage

/-- What an invocation knows: its frame and whether the event there is
initialised, its IRP and whether the completion is set, its MDL, and the stage of
its request. -/
structure View where
  frame : Option Nat := none
  event : Bool := false
  irp : Option Nat := none
  armed : Bool := false
  mdl : Option Nat := none
  stage : Stage := .fresh

namespace View

variable {v v' : View}

def blank : View := {}

/-- The provider has completed the request, or nothing has happened. -/
def Moved (v v' : View) : Prop :=
  v' = v ∨ ∃ req status information,
    v.stage = .owned req ∧ v' = { v with stage := .done req status information }

theorem Moved.eq_of_settled (h : Moved v v') (hs : v.stage.settled = true) : v' = v := by
  obtain rfl | ⟨req, _, _, howned, -⟩ := h
  · rfl
  · rw [howned] at hs
    cases hs

instance : PartialOrder View where
  le := Moved
  le_refl v := .inl rfl
  le_trans := by
    intro u v w huv hvw
    obtain rfl | ⟨req, status, information, howned, rfl⟩ := huv
    · exact hvw
    · rw [hvw.eq_of_settled rfl]
      exact .inr ⟨req, status, information, howned, rfl⟩
  le_antisymm := by
    intro v w hvw hwv
    obtain rfl | ⟨req, status, information, howned, rfl⟩ := hvw
    · rfl
    · exact hwv.eq_of_settled rfl

/-- Nobody changes a view whose request the provider does not own. -/
theorem isMax (h : v.stage.settled = true) : IsMax v := by
  intro w hw
  exact (Moved.eq_of_settled hw h).le

end View

/-! ## The protocol -/

/-- What an invocation may do next. Where allocations may fail, a primitive may be
given the null pointer that one returned, and does not come back. -/
def Permits (c : Contract) (v : View) : Op → Prop
  | .pushFrame => v.frame = none ∧ v.stage.settled = true
  | .popFrame frame => v.frame = some frame ∧ v.irp = none ∧ v.stage.settled = true
  | .ioAllocateIrp => v.irp = none ∧ v.stage = .fresh
  | .ioFreeIrp irp => v.irp = irp ∧ irp.isSome ∧ v.stage.settled = true
  | .keInitializeEvent event type state =>
    v.frame = some event.frame ∧ type = .notificationEvent ∧ state = false ∧ v.stage = .fresh
  | .ioSetCompletionRoutine irp completion =>
    c.Fails ∧ irp = none ∨ v.irp = irp ∧ irp.isSome ∧ v.stage = .fresh ∧
      ∃ frame, v.frame = some frame ∧ v.event = true ∧ completion = completionFor frame
  | .ioAllocateMdl _ _ => v.mdl = none ∧ v.stage.settled = true
  | .mmBuildMdlForNonPagedPool mdl =>
    c.Fails ∧ mdl = none ∨ v.mdl = mdl ∧ mdl.isSome ∧ v.stage.settled = true
  | .ioFreeMdl mdl => v.mdl = mdl ∧ mdl.isSome ∧ v.stage.settled = true
  | .submit call irp =>
    v.irp = irp ∧ irp.isSome ∧ v.armed = true ∧ v.stage = .fresh ∧
      (∃ frame, v.frame = some frame ∧ ∀ ref ∈ call.refs, ref.frame = frame) ∧
      ∀ m, call.mdl = some m → v.mdl = some m
  | .callReturn irp => v.irp = irp ∧ irp.isSome ∧ v.stage.issues ≠ []
  | .keWaitForSingleObject event => v.frame = some event.frame ∧ v.event = true
  | .ioStatusStatus irp | .ioStatusInformation irp =>
    v.irp = irp ∧ irp.isSome ∧ v.stage.isDone = true
  | .readResult result => v.frame = some result.frame ∧ v.stage.settled = true
  | _ => False

/-- What an invocation knows after a primitive that answered. -/
def Yields (c : Contract) (v : View) : (o : Op) → o.Ret → View → Prop
  | .pushFrame, frame, v' => v' = { v with frame := some frame, event := false }
  | .popFrame _, _, v' => v' = { v with frame := none, event := false, armed := false }
  | .ioAllocateIrp, irp, v' => (∃ p, irp = some p ∧ v' = { v with irp := some p, armed := false }) ∨
    c.Fails ∧ irp = none ∧ v' = v
  | .ioFreeIrp _, _, v' => v' = { v with irp := none, armed := false }
  | .keInitializeEvent _ _ _, _, v' => v' = { v with event := true }
  | .ioSetCompletionRoutine irp _, _, v' => irp.isSome ∧ v' = { v with armed := true }
  | .ioAllocateMdl _ _, mdl, v' => (∃ m, mdl = some m ∧ v' = { v with mdl := some m }) ∨
    c.Fails ∧ mdl = none ∧ v' = v
  | .mmBuildMdlForNonPagedPool mdl, _, v' => mdl.isSome ∧ v' = v
  | .ioFreeMdl _, _, v' => v' = { v with mdl := none }
  | .submit _ _, _, v' => ∃ req, v' = { v with stage := .owned req }
  | .callReturn _, status, v' => v' = v ∧ (status = statusPending ∨
    ∃ req final information, v.stage = .done req final information ∧ c.Inline status final)
  | .keWaitForSingleObject _, _, v' => v' = v ∧ v.stage.isDone = true
  | .ioStatusStatus _, status, v' => v' = v ∧
    ∀ req final information, v.stage = .done req final information → status = final
  | .ioStatusInformation _, information, v' => v' = v ∧
    ∀ req final information', v.stage = .done req final information' → information = information'
  | _, _, v' => v' = v

/-- The protocol of the request operations. -/
def protocol (c : Contract) : Protocol winKernel View := ⟨Permits c, Yields c⟩

end Concurrent

end WinShell
