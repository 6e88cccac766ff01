-- SUMMARY: The machine of one thread: it answers every primitive from a script of provider responses.
import WinShell.Effect.Run
import WinShell.Utils

/-!
# One thread and its provider

A run of one thread is determined by what its surroundings answer: the provider
to each call, and the pool to each allocation. A call that the provider answers
at once is complete when it returns. A call answered with `STATUS_PENDING` is
completed while the thread waits for the event of that call; nothing the thread
does in between can tell when.
-/

namespace WinShell

open Effect

/-- Everything a run of one thread depends on besides the program. -/
structure Surroundings where
  /-- The answer to the n-th provider call of the run. -/
  respond : Nat → Response
  /-- Whether the n-th pool allocation of the run succeeds. -/
  allocate : Nat → Bool
  /-- What a read through an uninitialised pointer returns. -/
  garbage : Nat → SockAddr

namespace Surroundings

variable {env : Surroundings} {first m n : Nat}

/-- No allocation fails. -/
def Allocates (env : Surroundings) : Prop := ∀ n, env.allocate n = true

/-- The pool serves `count` allocations in a row, from number `first` on. -/
def Serves (env : Surroundings) (first count : Nat) : Prop :=
  ∀ i < count, env.allocate (first + i) = true

instance : Decidable (env.Serves first n) := Nat.decidableBallLT n _

theorem serves_add : env.Serves first (m + n) ↔ env.Serves first m ∧ env.Serves (first + m) n := by
  constructor
  · intro h
    refine ⟨fun i hi => h i (Nat.lt_add_right n hi), fun i hi => ?_⟩
    rw [Nat.add_assoc]
    exact h (m + i) (Nat.add_lt_add_left hi m)
  · rintro ⟨hm, hn⟩ i hi
    rcases Nat.lt_or_ge i m with hlt | hge
    · exact hm i hlt
    · have hserved := hn (i - m) (by omega)
      rwa [Nat.add_assoc, Nat.add_sub_cancel' hge] at hserved

@[simp] theorem serves_zero : env.Serves first 0 :=
  fun _ hi => absurd hi (Nat.not_lt_zero _)

theorem serves_one : env.Serves first 1 ↔ env.allocate first = true := by
  simp [Serves]

theorem not_serves_one : ¬env.Serves first 1 ↔ env.allocate first = false := by
  rw [serves_one, Bool.not_eq_true]

theorem serves_two :
    env.Serves first 2 ↔ env.allocate first = true ∧ env.allocate (first + 1) = true := by
  rw [show 2 = 1 + 1 from rfl, serves_add, serves_one, serves_one]

theorem Serves.left (h : env.Serves first (m + n)) : env.Serves first m := (serves_add.mp h).1

/-- Once the first allocations are served, it depends on the others. -/
theorem Serves.add_iff (h : env.Serves first m) :
    env.Serves first (m + n) ↔ env.Serves (first + m) n := by
  rw [serves_add, and_iff_right h]

end Surroundings

namespace Sequential

/-- The invocation that the only thread is. -/
def thread : Nat := 0

/-- The first entry of a list that was handed out and is not empty. -/
def firstAddress (fr : Frame) : Option SockAddr :=
  fr.result.bind fun list => list.entries.head?.map fun entry => SockAddr.read entry.aiAddr

/-- What the provider does before a primitive is answered: it completes the call
that returns at once, and the call that the thread waits for. -/
def settle (env : Surroundings) (k : Kernel) : Op → Kernel
  | .callReturn irp =>
    match k.requests.find? fun req => some req.irp = irp with
    | some req =>
      if (env.respond req.number).pending then k
      else k.complete req (env.respond req.number).toFinal
    | none => k
  | .keWaitForSingleObject event =>
    match k.requests.find? fun req => req.completion.map Completion.context = some event with
    | some req => k.complete req (env.respond req.number).toFinal
    | none => k
  | _ => k

/-- The answer to a primitive, `none` when the caller never gets one. -/
def answer (env : Surroundings) (k : Kernel) : (o : Op) → Option o.Ret
  | .pushFrame => some k.frames.next
  | .popFrame _ => some ()
  | .ioAllocateIrp => some (if env.allocate k.allocs then some k.irps.next else none)
  | .ioFreeIrp _ => some ()
  | .keInitializeEvent _ _ _ => some ()
  | .ioSetCompletionRoutine _ _ => some ()
  | .ioAllocateMdl _ _ => some (if env.allocate k.allocs then some k.mdls.next else none)
  | .mmBuildMdlForNonPagedPool _ => some ()
  | .ioFreeMdl _ => some ()
  | .submit _ _ => some ()
  | .callReturn irp =>
    match k.requests.find? fun req => some req.irp = irp with
    | some _ => some statusPending
    | none => do
      let p ← irp
      let cell ← k.irps.get p
      return cell.ioStatus.status
  | .keWaitForSingleObject event => do
    let fr ← k.frames.get event.frame
    let ev ← fr.event
    if ev.signaled then some () else none
  | .ioStatusStatus irp => do
    let p ← irp
    let cell ← k.irps.get p
    return cell.ioStatus.status
  | .ioStatusInformation irp => do
    let p ← irp
    let cell ← k.irps.get p
    return cell.ioStatus.information
  | .readResult result => do
    let fr ← k.frames.get result.frame
    return (firstAddress fr).getD (env.garbage k.calls)
  | .wskRegister _ => some ((env.respond k.calls).status, ⟨k.calls⟩)
  | .wskCaptureProviderNpi _ => some ((env.respond k.calls).status, ⟨k.calls⟩)
  | .wskReleaseProviderNpi _ => some ()
  | .wskDeregister _ => some ()
  | .wskFreeAddressInfo _ _ => some ()

/-- The machine that runs one thread. -/
def machine (env : Surroundings) : Machine winKernel Kernel := fun k o =>
  let k := settle env k o
  match answer env k o with
  | none => (none, k)
  | some r =>
    match k.apply thread o r with
    | some k' => (some r, k')
    | none => (none, k)

/-- The run of a program of the repository. -/
def run {α : Type} (env : Surroundings) (p : Win α) (k : Kernel) : Option α × Kernel :=
  p.run (machine env) k

end Sequential

end WinShell
