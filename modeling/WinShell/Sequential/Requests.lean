-- SUMMARY: What a request operation does in a run of one thread: rules for its steps, and one equation for each operation.
import WinShell.Sequential.Machine

/-!
# Requests, run by one thread

Every request operation sets up an IRP, makes one provider call and waits when
the call is pending. The kernel passes through the same few states in all of
them. They are named here, with one rule for each step that leads from one to
the next; the equation of an operation is then read off its body.

The rules ask that the provider owns no request when the operation starts. The
equations give that back.
-/

namespace WinShell

open Effect

/-- The calls that store a result in a frame store it in frame `frame`. -/
def WskCall.StoresIn (frame : Nat) : WskCall → Prop
  | .wskGetAddressInfo _ _ _ _ _ result => result.frame = frame
  | _ => True

/-- The list that a call leaves in its frame. -/
def WskCall.stored (number : Nat) (fin : Final) : WskCall → Option AddrInfoList
  | .wskGetAddressInfo _ _ _ _ _ _ =>
    if ntSuccess fin.status then some ⟨number, fin.addresses⟩ else none
  | _ => none

/-- A failure that the provider reports at once. -/
def Response.failsInline (response : Response) : Bool :=
  !response.pending && !ntSuccess response.status

/-- A failure that the provider delivers after `STATUS_PENDING`. -/
def Response.failsLater (response : Response) : Bool :=
  response.pending && !ntSuccess response.status

/-- The caller sees `STATUS_PENDING`, and waits. -/
def Response.waits (response : Response) : Prop :=
  response.pending = true ∨ response.status = statusPending

theorem Response.waits_iff_of_failure {response : Response}
    (h : ntSuccess response.status = false) : response.waits ↔ response.pending = true :=
  or_iff_left (ne_statusPending_of_failure h)

instance (response : Response) : Decidable response.waits :=
  inferInstanceAs (Decidable (_ ∨ _))

namespace Sequential

variable {α β : Type} {env : Surroundings} {k : Kernel} {call : WskCall} {fin : Final}

/-! ## The states of an operation -/

/-- The request that an operation makes. -/
def requestOf (k : Kernel) (call : WskCall) : Request :=
  ⟨k.calls, thread, k.irps.next, call, some (completionFor k.frames.next)⟩

/-- The frame has been entered. -/
def entered (k : Kernel) : Kernel :=
  { k with
    frames := k.frames.push { issuer := thread }
    trace := k.trace ++ [.enter k.frames.next] }

/-- The IRP and the event are ready. -/
def prepared (k : Kernel) : Kernel :=
  { k with
    irps := k.irps.push { completion := some (completionFor k.frames.next) }
    frames := k.frames.push { issuer := thread, event := some ⟨.notificationEvent, false⟩ }
    allocs := k.allocs + 1
    trace := k.trace ++ [.enter k.frames.next] }

/-- The provider owns the request. -/
def issued (k : Kernel) (call : WskCall) : Kernel :=
  { k with
    irps := k.irps.push { completion := some (completionFor k.frames.next) }
    frames := k.frames.push { issuer := thread, event := some ⟨.notificationEvent, false⟩ }
    allocs := k.allocs + 1
    requests := requestOf k call :: k.requests
    calls := k.calls + 1
    trace := k.trace ++ [.enter k.frames.next, .issue (requestOf k call)] }

/-- The request is complete, and its IRP is back. -/
def answered (k : Kernel) (call : WskCall) (fin : Final) : Kernel :=
  { k with
    irps := k.irps.push
      { completion := some (completionFor k.frames.next), ioStatus := ⟨fin.status, fin.information⟩ }
    frames := k.frames.push
      { issuer := thread, event := some ⟨.notificationEvent, true⟩,
        result := call.stored k.calls fin }
    allocs := k.allocs + 1
    calls := k.calls + 1
    trace := k.trace ++ [.enter k.frames.next, .issue (requestOf k call),
      .complete (requestOf k call) fin.status fin.information] }

/-- The IRP has been freed. -/
def freed (k : Kernel) (call : WskCall) (fin : Final) : Kernel :=
  { answered k call fin with irps := k.irps.skip }

/-- The function has returned. -/
def finished (k : Kernel) (call : WskCall) (fin : Final) : Kernel :=
  { k with
    irps := k.irps.skip
    frames := k.frames.skip
    allocs := k.allocs + 1
    calls := k.calls + 1
    trace := k.trace ++ [.enter k.frames.next, .issue (requestOf k call),
      .complete (requestOf k call) fin.status fin.information, .leave k.frames.next] }

/-- The operation stopped at a null pointer before it made its request. -/
def stopped (k : Kernel) : Kernel :=
  { k with
    frames := k.frames.push { issuer := thread, event := some ⟨.notificationEvent, false⟩ }
    allocs := k.allocs + 1
    trace := k.trace ++ [.enter k.frames.next] }

/-! ## The provider answers -/

/-- Completing the request of an operation writes its outcome to the IRP, its
result to the frame, and sets the event. -/
theorem complete_issued (hstore : call.StoresIn k.frames.next) :
    (issued k call).complete (requestOf k call) fin = answered k call fin := by
  cases call with
  | wskGetAddressInfo client nodeName serviceName nameSpace nameAt result =>
    simp only [WskCall.StoresIn] at hstore
    cases hs : ntSuccess fin.status with
    | true =>
      simp [Kernel.complete, Kernel.setIoStatus, Kernel.storeResult, Kernel.runCompletion,
        Kernel.ioCompletionRoutine, Kernel.keSetEvent, Kernel.log, issued, answered, requestOf,
        completionFor, Completion.runsFor, WskCall.stored, hstore, hs]
    | false =>
      simp [Kernel.complete, Kernel.setIoStatus, Kernel.storeResult, Kernel.runCompletion,
        Kernel.ioCompletionRoutine, Kernel.keSetEvent, Kernel.log, issued, answered, requestOf,
        completionFor, Completion.runsFor, WskCall.stored, hs]
  | _ =>
    simp [Kernel.complete, Kernel.setIoStatus, Kernel.storeResult, Kernel.runCompletion,
      Kernel.ioCompletionRoutine, Kernel.keSetEvent, Kernel.log, issued, answered, requestOf,
      completionFor, Completion.runsFor, WskCall.stored]

/-! ## Rules -/

theorem run_exec (o : Op) (f : o.Ret → Win α) :
    run env (@Prog.exec winKernel α o f) k =
      match machine env k o with
      | (some r, k') => run env (f r) k'
      | (none, k') => (none, k') := by
  rw [run, Prog.run_exec]
  rcases machine env k o with ⟨_ | r, k'⟩ <;> rfl

@[simp] theorem run_ret (a : α) : run env (.ret a) k = (some a, k) := rfl

theorem run_bind (p : Win α) (f : α → Win β) :
    run env (p >>= f) k =
      match run env p k with
      | (some a, k') => run env (f a) k'
      | (none, k') => (none, k') := by
  unfold run
  rw [Prog.run_bind]
  rcases p.run (machine env) k with ⟨_ | a, k'⟩ <;> rfl

section Rules

variable {frame irp : Nat}

@[simp] theorem run_pushFrame {f : Nat → Win α} :
    run env (@Prog.exec winKernel α .pushFrame f) k = run env (f k.frames.next) (entered k) := by
  simp [run_exec, machine, settle, answer, Kernel.apply, Kernel.log, entered]

/-- Setting up an IRP, when the pool has one. -/
theorem run_prepare {f : PIrp → Unit → Win α} (ha : env.allocate k.allocs = true) :
    run env (@Prog.exec winKernel α .ioAllocateIrp fun irp =>
      .exec (.keInitializeEvent ⟨k.frames.next, .event⟩ .notificationEvent false) fun _ =>
      .exec (.ioSetCompletionRoutine irp (completionFor k.frames.next)) (f irp)) (entered k) =
    run env (f (some k.irps.next) ()) (prepared k) := by
  simp [run_exec, machine, settle, answer, Kernel.apply, entered, prepared, ha]

/-- Without an IRP, `IoSetCompletionRoutine` is given a null pointer. -/
theorem run_prepare_null {f : PIrp → Unit → Win α} (ha : env.allocate k.allocs = false) :
    run env (@Prog.exec winKernel α .ioAllocateIrp fun irp =>
      .exec (.keInitializeEvent ⟨k.frames.next, .event⟩ .notificationEvent false) fun _ =>
      .exec (.ioSetCompletionRoutine irp (completionFor k.frames.next)) (f irp)) (entered k) =
    (none, stopped k) := by
  simp [run_exec, machine, settle, answer, Kernel.apply, entered, stopped, ha]

/-- A call that the provider answers at once. -/
theorem run_callProvider_inline {f : NtStatus → Win α} (hi : irp = k.irps.next)
    (hp : (env.respond k.calls).pending = false) (hstore : call.StoresIn k.frames.next)
    (hq : k.requests = []) :
    run env (@Prog.exec winKernel α (.submit call (some irp)) fun _ =>
      .exec (.callReturn (some irp)) f) (prepared k) =
    run env (f (env.respond k.calls).status)
      (answered k call (env.respond k.calls).toFinal) := by
  subst hi
  have hissued : machine env (prepared k) (.submit call (some k.irps.next)) =
      (some (), issued k call) := by
    simp [machine, settle, answer, Kernel.apply, Kernel.log, prepared, issued, requestOf]
  have hreturn : machine env (issued k call) (.callReturn (some k.irps.next)) =
      (some (env.respond k.calls).status,
        answered k call (env.respond k.calls).toFinal) := by
    have hfind : (issued k call).requests.find? (fun req => some req.irp = some k.irps.next) =
        some (requestOf k call) := by
      simp [issued, requestOf]
    have hsettle : settle env (issued k call) (.callReturn (some k.irps.next)) =
        answered k call (env.respond k.calls).toFinal := by
      simp only [settle, hfind, requestOf, hp]
      exact complete_issued hstore
    simp [machine, hsettle, answer, Kernel.apply, answered, hq]
  rw [run_exec, hissued]
  simp only
  rw [run_exec, hreturn]

theorem run_callProvider_pending {f : NtStatus → Win α} (hi : irp = k.irps.next)
    (hp : (env.respond k.calls).pending = true) :
    run env (@Prog.exec winKernel α (.submit call (some irp)) fun _ =>
      .exec (.callReturn (some irp)) f) (prepared k) =
    run env (f statusPending) (issued k call) := by
  simp [run_exec, machine, settle, answer, Kernel.apply, Kernel.log, prepared, issued,
    requestOf, hp, hi]

/-- The wait for a request that is outstanding lasts until the provider has
completed it. -/
theorem run_wait_issued {f : Unit → Win α} (hf : frame = k.frames.next)
    (hstore : call.StoresIn k.frames.next) :
    run env (@Prog.exec winKernel α (.keWaitForSingleObject ⟨frame, .event⟩) f)
      (issued k call) =
    run env (f ()) (answered k call (env.respond k.calls).toFinal) := by
  subst hf
  have hfind : (issued k call).requests.find?
      (fun req => req.completion.map Completion.context = some ⟨k.frames.next, .event⟩) =
      some (requestOf k call) := by
    simp [issued, requestOf, completionFor]
  have hsettle : settle env (issued k call)
      (.keWaitForSingleObject ⟨k.frames.next, .event⟩) =
      answered k call (env.respond k.calls).toFinal := by
    simp only [settle, hfind]
    exact complete_issued hstore
  rw [run_exec]
  simp [machine, hsettle, answer, Kernel.apply, answered, KEvent.afterWait]

/-- The wait for a request that is complete already returns at once. -/
theorem run_wait_answered {f : Unit → Win α} (hf : frame = k.frames.next)
    (hq : k.requests = []) :
    run env (@Prog.exec winKernel α (.keWaitForSingleObject ⟨frame, .event⟩) f)
      (answered k call fin) =
    run env (f ()) (answered k call fin) := by
  simp [run_exec, machine, settle, answer, Kernel.apply, answered, KEvent.afterWait, hq, hf]

@[simp] theorem run_ioStatusStatus {f : NtStatus → Win α} (hi : irp = k.irps.next) :
    run env (@Prog.exec winKernel α (.ioStatusStatus (some irp)) f) (answered k call fin) =
    run env (f fin.status) (answered k call fin) := by
  simp [run_exec, machine, settle, answer, Kernel.apply, answered, hi]

@[simp] theorem run_ioStatusInformation {f : ULongPtr → Win α} (hi : irp = k.irps.next) :
    run env (@Prog.exec winKernel α (.ioStatusInformation (some irp)) f)
      (answered k call fin) =
    run env (f fin.information) (answered k call fin) := by
  simp [run_exec, machine, settle, answer, Kernel.apply, answered, hi]

@[simp] theorem run_ioFreeIrp {f : Unit → Win α} (hi : irp = k.irps.next) :
    run env (@Prog.exec winKernel α (.ioFreeIrp (some irp)) f) (answered k call fin) =
    run env (f ()) (freed k call fin) := by
  simp [run_exec, machine, settle, answer, Kernel.apply, answered, freed, hi]

@[simp] theorem run_popFrame {f : Unit → Win α} (hf : frame = k.frames.next) :
    run env (@Prog.exec winKernel α (.popFrame frame) f) (freed k call fin) =
    run env (f ()) (finished k call fin) := by
  simp [run_exec, machine, settle, answer, Kernel.apply, Kernel.log, answered, freed, finished,
    hf]

/-- A provider call and the wait that may follow it. What comes after either finds
the request complete; which of the two comes depends on what the call returned. -/
theorem run_await {later now : NtStatus → Win α} (hi : irp = k.irps.next)
    (hf : frame = k.frames.next) (hstore : call.StoresIn k.frames.next) (hq : k.requests = []) :
    run env (@Prog.exec winKernel α (.submit call (some irp)) fun _ =>
      .exec (.callReturn (some irp)) fun status =>
        if status = statusPending then
          .exec (.keWaitForSingleObject ⟨frame, .event⟩) fun _ =>
          .exec (.ioStatusStatus (some irp)) later
        else now status) (prepared k) =
    run env
      (if (env.respond k.calls).waits then later (env.respond k.calls).status
        else now (env.respond k.calls).status)
      (answered k call (env.respond k.calls).toFinal) := by
  cases hp : (env.respond k.calls).pending with
  | true =>
    rw [run_callProvider_pending hi hp, if_pos rfl, run_wait_issued hf hstore,
      run_ioStatusStatus hi, if_pos (.inl hp)]
  | false =>
    rw [run_callProvider_inline hi hp hstore hq]
    rcases eq_or_ne (env.respond k.calls).status statusPending with hs | hs
    · rw [if_pos hs, run_wait_answered hf hq, run_ioStatusStatus hi, if_pos (.inr hs)]
    · have hwaits : ¬(env.respond k.calls).waits := by simp [Response.waits, hp, hs]
      rw [if_neg hs, if_neg hwaits]

/-- A test for failure before the test for `STATUS_PENDING` may as well come after
it: `STATUS_PENDING` is no failure. -/
theorem test_before_wait (status : NtStatus) (p q r : Win α) :
    (if ntSuccess status = false then p else if status = statusPending then q else r) =
      if status = statusPending then q else if ntSuccess status = false then p else r := by
  rcases eq_or_ne status statusPending with rfl | hne
  · simp [ntSuccess_statusPending]
  · simp [hne]

end Rules

/-! ## Operations with one request -/

/-- An operation that gets no IRP stops before it makes a request. -/
def Stops (env : Surroundings) (p : Win α) (k : Kernel) : Prop :=
  ∃ k', run env p k = (none, k') ∧ k'.trace = k.trace ++ [.enter k.frames.next]

/-- The program starts with the set-up of one request: a frame, an IRP, and the event that its
completion signals. -/
def Prepares (p : Win α) : Prop :=
  ∃ f : Nat → PIrp → Unit → Win α, p =
    @Prog.exec winKernel α .pushFrame fun frame =>
      @Prog.exec winKernel α .ioAllocateIrp fun irp =>
      .exec (.keInitializeEvent ⟨frame, .event⟩ .notificationEvent false) fun _ =>
      .exec (.ioSetCompletionRoutine irp (completionFor frame)) (f frame irp)

theorem Prepares.stops {p : Win α} (h : Prepares p) (ha : env.allocate k.allocs = false) :
    Stops env p k := by
  obtain ⟨f, rfl⟩ := h
  refine ⟨stopped k, ?_, rfl⟩
  rw [run_pushFrame, run_prepare_null ha]

theorem prepares_requestStatus {call : Nat → WskCall} : Prepares (Utils.requestStatus call) := ⟨_, rfl⟩

theorem prepares_closeSocket {sock : PWskSocket} : Prepares (Utils.closeSocket sock) := ⟨_, rfl⟩

theorem prepares_createSocket {sock : PWskSocket} : Prepares (Utils.createSocket call sock) := ⟨_, rfl⟩

theorem prepares_createConnectionSocket {npi : WskProviderNpi} {sock : PWskSocket} :
    Prepares (Utils.createConnectionSocket npi sock) := ⟨_, rfl⟩

theorem prepares_convertStringToAdress {npi : WskProviderNpi} {adress : Endpoint} :
    Prepares (Utils.convertStringToAdress npi adress) := ⟨_, rfl⟩

theorem run_requestStatus {call : Nat → WskCall} (hq : k.requests = [])
    (ha : env.allocate k.allocs = true) (hstore : (call k.frames.next).StoresIn k.frames.next) :
    run env (Utils.requestStatus call) k =
      (some (env.respond k.calls).status,
        finished k (call k.frames.next) (env.respond k.calls).toFinal) := by
  simp only [Utils.requestStatus, inFrame, pushFrame, primitive, Prog.perform, ioAllocateIrp,
    keInitializeEvent, ioSetCompletionRoutine, callProvider, Prog.exec_bind, Prog.ret_bind,
    keWaitForSingleObject, ioStatusStatus, Bool.not_eq_eq_eq_not, Bool.not_true, ioFreeIrp, Prog.pure_eq,
    ite_self, popFrame, Prog.ite_bind, run_pushFrame]
  rw [← completionFor, run_prepare ha, run_await rfl rfl hstore hq]
  simp

theorem run_closeSocket {sock : PWskSocket} (hq : k.requests = [])
    (ha : env.allocate k.allocs = true) :
    run env (Utils.closeSocket sock) k =
      (some (), finished k (.wskCloseSocket sock) (env.respond k.calls).toFinal) := by
  have hstore : (WskCall.wskCloseSocket sock).StoresIn k.frames.next := trivial
  simp only [Utils.closeSocket, inFrame, pushFrame, primitive, Prog.perform, ioAllocateIrp,
    keInitializeEvent, ioSetCompletionRoutine, callProvider, Prog.exec_bind, Prog.ret_bind,
    keWaitForSingleObject, ioStatusStatus, Bool.not_eq_eq_eq_not, Bool.not_true, ioFreeIrp, Prog.pure_eq,
    ite_self, popFrame, Prog.ite_bind, run_pushFrame]
  rw [← completionFor, run_prepare ha, run_await rfl rfl hstore hq]
  simp

/-! ## Creating a socket -/

/-- What `*sock` holds after a creator that tests the status only after a wait. -/
def createdHandle (response : Response) (sock : PWskSocket) : PWskSocket :=
  if response.failsLater then sock else response.information

theorem run_createSocket {sock : PWskSocket} (hq : k.requests = [])
    (ha : env.allocate k.allocs = true) (hstore : call.StoresIn k.frames.next) :
    run env (Utils.createSocket call sock) k =
      (some ((env.respond k.calls).status, createdHandle (env.respond k.calls) sock),
        finished k call (env.respond k.calls).toFinal) := by
  simp only [Utils.createSocket, inFrame, pushFrame, primitive, Prog.perform, ioAllocateIrp,
    keInitializeEvent, ioSetCompletionRoutine, callProvider, Prog.exec_bind, Prog.ret_bind,
    keWaitForSingleObject, ioStatusStatus, Bool.not_eq_eq_eq_not, Bool.not_true, ioFreeIrp, Prog.pure_eq,
    ioStatusInformation, popFrame, Prog.ite_bind, run_pushFrame]
  rw [← completionFor, run_prepare ha, run_await rfl rfl hstore hq]
  cases hs : ntSuccess (env.respond k.calls).status with
  | true => simp [createdHandle, Response.failsLater, hs]
  | false =>
    cases hp : (env.respond k.calls).pending <;>
      simp [Response.waits_iff_of_failure hs, createdHandle, Response.failsLater, hs, hp]

/-- The call of `CreateConnectionSocket`. -/
def connectionSocketCall (npi : WskProviderNpi) : WskCall :=
  .wskSocket npi afInet sockStream ipprotoTcp wskFlagConnectionSocket

theorem run_createConnectionSocket {npi : WskProviderNpi} {sock : PWskSocket}
    (hq : k.requests = []) (ha : env.allocate k.allocs = true) :
    run env (Utils.createConnectionSocket npi sock) k =
      (some ((env.respond k.calls).status,
          if ntSuccess (env.respond k.calls).status then (env.respond k.calls).information
          else sock),
        finished k (connectionSocketCall npi) (env.respond k.calls).toFinal) := by
  have hstore : (connectionSocketCall npi).StoresIn k.frames.next := trivial
  simp only [Utils.createConnectionSocket, inFrame, pushFrame, primitive, Prog.perform, ioAllocateIrp,
    keInitializeEvent, ioSetCompletionRoutine, callProvider, Prog.exec_bind, Prog.ret_bind,
    Bool.not_eq_eq_eq_not, Bool.not_true, ioFreeIrp, Prog.pure_eq, keWaitForSingleObject, ioStatusStatus,
    ioStatusInformation, popFrame, Prog.ite_bind, run_pushFrame]
  simp only [test_before_wait]
  rw [← completionFor, run_prepare ha, ← connectionSocketCall, run_await rfl rfl hstore hq]
  cases hs : ntSuccess (env.respond k.calls).status with
  | true => simp
  | false => simp

/-! ## Moving data -/

/-- The kernel with the MDL of an operation, described and built. -/
def withMdl (k : Kernel) (data : PVoid) (dataSize : ULong) : Kernel :=
  { k with
    mdls := k.mdls.push { startVa := data, byteCount := dataSize, built := true }
    allocs := k.allocs + 1 }

/-- The kernel after the MDL of an operation has been freed again. -/
def withoutMdl (k : Kernel) : Kernel :=
  { k with mdls := k.mdls.skip, allocs := k.allocs + 1 }

/-- The buffer descriptor of an operation. -/
def bufferOf (k : Kernel) (dataSize : ULong) : WskBuf :=
  ⟨some k.mdls.next, 0#32, dataSize.setWidth 64⟩

section MdlRules

variable {data : PVoid} {dataSize : ULong}

@[simp] theorem irps_withMdl : (withMdl k data dataSize).irps = k.irps := rfl
@[simp] theorem frames_withMdl : (withMdl k data dataSize).frames = k.frames := rfl
@[simp] theorem requests_withMdl : (withMdl k data dataSize).requests = k.requests := rfl
@[simp] theorem calls_withMdl : (withMdl k data dataSize).calls = k.calls := rfl
@[simp] theorem irps_withoutMdl : (withoutMdl k).irps = k.irps := rfl
@[simp] theorem frames_withoutMdl : (withoutMdl k).frames = k.frames := rfl

theorem run_prepareData {f : PIrp → PMdl → Unit → Win α} (ha : env.allocate k.allocs = true)
    (hm : env.allocate (k.allocs + 1) = true) :
    run env (@Prog.exec winKernel α .ioAllocateIrp fun irp =>
      .exec (.ioAllocateMdl data dataSize) fun mdl =>
      .exec (.mmBuildMdlForNonPagedPool mdl) fun _ =>
      .exec (.keInitializeEvent ⟨k.frames.next, .event⟩ .notificationEvent false) fun _ =>
      .exec (.ioSetCompletionRoutine irp (completionFor k.frames.next)) (f irp mdl)) (entered k) =
    run env (f (some k.irps.next) (some k.mdls.next) ()) (prepared (withMdl k data dataSize)) := by
  simp [run_exec, machine, settle, answer, Kernel.apply, entered, prepared, withMdl, ha, hm,
    completionFor]

/-- With either allocation failed, the set-up uses a null pointer. -/
theorem run_prepareData_null (data : PVoid) (dataSize : ULong)
    {f : PIrp → PMdl → Unit → Win α}
    (ha : ¬env.Serves k.allocs 2) :
    ∃ k', run env (@Prog.exec winKernel α .ioAllocateIrp fun irp =>
      .exec (.ioAllocateMdl data dataSize) fun mdl =>
      .exec (.mmBuildMdlForNonPagedPool mdl) fun _ =>
      .exec (.keInitializeEvent ⟨k.frames.next, .event⟩ .notificationEvent false) fun _ =>
      .exec (.ioSetCompletionRoutine irp (completionFor k.frames.next)) (f irp mdl)) (entered k) =
        (none, k') ∧
      k'.trace = k.trace ++ [.enter k.frames.next] := by
  cases hm : env.allocate (k.allocs + 1) with
  | false =>
    cases hi : env.allocate k.allocs <;>
      simp [run_exec, machine, settle, answer, Kernel.apply, entered, hi, hm]
  | true =>
    have hi : env.allocate k.allocs = false := by
      rw [← Bool.not_eq_true]
      exact fun hi => ha (Surroundings.serves_two.mpr ⟨hi, hm⟩)
    simp [run_exec, machine, settle, answer, Kernel.apply, entered, hi, hm]

@[simp] theorem run_ioFreeMdl {f : Unit → Win α} {mdl : Nat} (hm : mdl = k.mdls.next) :
    run env (@Prog.exec winKernel α (.ioFreeMdl (some mdl)) f)
      (answered (withMdl k data dataSize) call fin) =
    run env (f ()) (answered (withoutMdl k) call fin) := by
  simp [run_exec, machine, settle, answer, Kernel.apply, answered, withMdl, withoutMdl, hm,
    requestOf, completionFor]

end MdlRules

/-- The program starts with the set-up of a data operation, which describes the data by an MDL. -/
def PreparesData (data : PVoid) (dataSize : ULong) (p : Win α) : Prop :=
  ∃ f : Nat → PIrp → PMdl → Unit → Win α, p =
    @Prog.exec winKernel α .pushFrame fun frame =>
      @Prog.exec winKernel α .ioAllocateIrp fun irp =>
      .exec (.ioAllocateMdl data dataSize) fun mdl =>
      .exec (.mmBuildMdlForNonPagedPool mdl) fun _ =>
      .exec (.keInitializeEvent ⟨frame, .event⟩ .notificationEvent false) fun _ =>
      .exec (.ioSetCompletionRoutine irp (completionFor frame)) (f frame irp mdl)

section PreparesData

variable {sock : PWskSocket} {data : PVoid} {dataSize : ULong}

theorem PreparesData.stops {p : Win α} (h : PreparesData data dataSize p) (ha : ¬env.Serves k.allocs 2) :
    Stops env p k := by
  obtain ⟨f, rfl⟩ := h
  obtain ⟨k', hrun, htrace⟩ := run_prepareData_null data dataSize ha
  exact ⟨k', run_pushFrame.trans hrun, htrace⟩

theorem prepares_sendData {call : Nat → WskBuf → WskCall} :
    PreparesData data dataSize (Utils.sendData call data dataSize) := ⟨_, rfl⟩

theorem prepares_getDataConnectionSocket :
    PreparesData data dataSize (Utils.getDataConnectionSocket sock data dataSize) := ⟨_, rfl⟩

theorem prepares_getDataDatagramSocket :
    PreparesData data dataSize (Utils.getDataDatagramSocket sock data dataSize) := ⟨_, rfl⟩

end PreparesData

/-- What a data operation that releases its MDL on an inline failure only leaves. -/
def transferred (env : Surroundings) (k : Kernel) (data : PVoid) (dataSize : ULong) : Kernel :=
  if (env.respond k.calls).failsInline then withoutMdl k else withMdl k data dataSize

theorem run_sendData {call : Nat → WskBuf → WskCall} {data : PVoid} {dataSize : ULong}
    (hq : k.requests = []) (ha : env.allocate k.allocs = true)
    (hm : env.allocate (k.allocs + 1) = true)
    (hstore : (call k.frames.next (bufferOf k dataSize)).StoresIn k.frames.next) :
    run env (Utils.sendData call data dataSize) k =
      (some (env.respond k.calls).status,
        finished (transferred env k data dataSize) (call k.frames.next (bufferOf k dataSize))
          (env.respond k.calls).toFinal) := by
  have hirp : k.irps.next = (withMdl k data dataSize).irps.next := rfl
  have hirp' : k.irps.next = (withoutMdl k).irps.next := rfl
  have hfr : k.frames.next = (withMdl k data dataSize).frames.next := rfl
  have hfr' : k.frames.next = (withoutMdl k).frames.next := rfl
  simp only [Utils.sendData, inFrame, pushFrame, primitive, Prog.perform, ioAllocateIrp, ioAllocateMdl,
    mmBuildMdlForNonPagedPool, keInitializeEvent, ioSetCompletionRoutine, callProvider, Prog.exec_bind,
    Prog.ret_bind, Bool.not_eq_eq_eq_not, Bool.not_true, ioFreeMdl, ioFreeIrp, Prog.pure_eq,
    keWaitForSingleObject, ioStatusStatus, ioStatusInformation, ushortNegative_eq_false, Bool.false_eq_true,
    ↓reduceIte, popFrame, Prog.ite_bind, run_pushFrame]
  simp only [test_before_wait]
  rw [← completionFor, run_prepareData ha hm, ← bufferOf, run_await hirp hfr hstore hq]
  cases hs : ntSuccess (env.respond k.calls).status with
  | true =>
    simp [run_ioStatusInformation hirp, run_ioFreeIrp hirp, run_popFrame hfr, transferred,
      Response.failsInline, hs]
  | false =>
    cases hp : (env.respond k.calls).pending with
    | true =>
      simp [Response.waits_iff_of_failure hs, run_ioFreeIrp hirp, run_popFrame hfr, transferred,
        Response.failsInline, hs, hp]
    | false =>
      simp [Response.waits_iff_of_failure hs, run_ioFreeIrp hirp', run_popFrame hfr', transferred,
        Response.failsInline, bufferOf, hs, hp]

/-- The receiver of a connection tests the status in another order than the
senders, and leaves the same kernel. -/
theorem run_getDataConnectionSocket {sock : PWskSocket} {data : PVoid} {dataSize : ULong}
    (hq : k.requests = []) (ha : env.allocate k.allocs = true)
    (hm : env.allocate (k.allocs + 1) = true) :
    run env (Utils.getDataConnectionSocket sock data dataSize) k =
      (some (env.respond k.calls).status,
        finished (transferred env k data dataSize)
          (.wskReceive sock (bufferOf k dataSize) ⟨k.frames.next, .buffer⟩)
          (env.respond k.calls).toFinal) := by
  have hirp : k.irps.next = (withMdl k data dataSize).irps.next := rfl
  have hirp' : k.irps.next = (withoutMdl k).irps.next := rfl
  have hfr : k.frames.next = (withMdl k data dataSize).frames.next := rfl
  have hfr' : k.frames.next = (withoutMdl k).frames.next := rfl
  have hstore : (WskCall.wskReceive sock (bufferOf k dataSize) ⟨k.frames.next, .buffer⟩).StoresIn
      k.frames.next := trivial
  simp only [Utils.getDataConnectionSocket, inFrame, pushFrame, primitive, Prog.perform, ioAllocateIrp,
    ioAllocateMdl, mmBuildMdlForNonPagedPool, keInitializeEvent, ioSetCompletionRoutine, callProvider,
    Prog.exec_bind, Prog.ret_bind, keWaitForSingleObject, ioStatusStatus, Bool.not_eq_eq_eq_not,
    Bool.not_true, ioFreeIrp, Prog.pure_eq, ioFreeMdl, ioStatusInformation, ushortNegative_eq_false,
    Bool.false_eq_true, ↓reduceIte, popFrame, Prog.ite_bind, run_pushFrame]
  rw [← completionFor, run_prepareData ha hm, ← bufferOf, run_await hirp hfr hstore hq]
  cases hs : ntSuccess (env.respond k.calls).status with
  | true =>
    simp [run_ioStatusInformation hirp, run_ioFreeIrp hirp, run_popFrame hfr, transferred,
      Response.failsInline, hs]
  | false =>
    cases hp : (env.respond k.calls).pending with
    | true =>
      simp [Response.waits_iff_of_failure hs, run_ioFreeIrp hirp, run_popFrame hfr, transferred,
        Response.failsInline, hs, hp]
    | false =>
      simp [Response.waits_iff_of_failure hs, run_ioFreeIrp hirp', run_popFrame hfr', transferred,
        Response.failsInline, bufferOf, hs, hp]

/-- The call of `GetDataDatagramSocket`. -/
def receiveFromCall (k : Kernel) (sock : PWskSocket) (dataSize : ULong) : WskCall :=
  .wskReceiveFrom sock (bufferOf k dataSize) ⟨k.frames.next, .buffer⟩ Utils.datagramAdress.cast
    ⟨k.frames.next, .adress⟩ ⟨k.frames.next, .received⟩

/-- The receiver of datagrams keeps its MDL whatever the provider answers. -/
theorem run_getDataDatagramSocket {sock : PWskSocket} {data : PVoid} {dataSize : ULong}
    (hq : k.requests = []) (ha : env.allocate k.allocs = true)
    (hm : env.allocate (k.allocs + 1) = true) :
    run env (Utils.getDataDatagramSocket sock data dataSize) k =
      (some (env.respond k.calls).status,
        finished (withMdl k data dataSize) (receiveFromCall k sock dataSize)
          (env.respond k.calls).toFinal) := by
  have hirp : k.irps.next = (withMdl k data dataSize).irps.next := rfl
  have hfr : k.frames.next = (withMdl k data dataSize).frames.next := rfl
  have hstore : (receiveFromCall k sock dataSize).StoresIn k.frames.next := trivial
  simp only [Utils.getDataDatagramSocket, inFrame, pushFrame, primitive, Prog.perform, ioAllocateIrp,
    ioAllocateMdl, mmBuildMdlForNonPagedPool, keInitializeEvent, ioSetCompletionRoutine, callProvider,
    Prog.exec_bind, Prog.ret_bind, keWaitForSingleObject, ioStatusStatus, Bool.not_eq_eq_eq_not,
    Bool.not_true, ioFreeIrp, Prog.pure_eq, ioStatusInformation, ushortNegative_eq_false,
    Bool.false_eq_true, ↓reduceIte, popFrame, Prog.ite_bind, run_pushFrame]
  rw [← completionFor, run_prepareData ha hm, ← bufferOf, ← receiveFromCall,
    run_await hirp hfr hstore hq]
  cases hs : ntSuccess (env.respond k.calls).status with
  | true => simp [run_ioStatusInformation hirp, run_ioFreeIrp hirp, run_popFrame hfr, hs]
  | false =>
    cases hp : (env.respond k.calls).pending <;>
      simp [Response.waits_iff_of_failure hs, run_ioStatusInformation hirp, run_ioFreeIrp hirp,
        run_popFrame hfr, hs, hp]

/-! ## Resolving an address -/

/-- The call of `ConvertStringToAdress`. -/
def resolveCall (k : Kernel) (npi : WskProviderNpi) (adress : Endpoint) : WskCall :=
  .wskGetAddressInfo npi adress.ipAdress adress.port nsAll ⟨k.frames.next, .stringAdress⟩
    ⟨k.frames.next, .result⟩

/-- What a read through `Result` finds. -/
def resolvedAddress (env : Surroundings) (k : Kernel) : SockAddr :=
  (if ntSuccess (env.respond k.calls).status then
    (env.respond k.calls).addresses.head?.map fun entry => SockAddr.read entry.aiAddr
  else none).getD (env.garbage (k.calls + 1))

/-- The kernel after a resolution that read through `Result`. -/
def resolved (k : Kernel) (call : WskCall) (fin : Final) : Kernel :=
  { finished k call fin with
    trace := k.trace ++ [.enter k.frames.next, .issue (requestOf k call),
      .complete (requestOf k call) fin.status fin.information,
      .readResult ((call.stored k.calls fin).map AddrInfoList.request), .leave k.frames.next] }

/-- The end of a resolution: the result is read, and the IRP and the frame go. -/
theorem run_readResult {f : SockAddr → Unit → Win α} {npi : WskProviderNpi} {adress : Endpoint} :
    run env (@Prog.exec winKernel α (.readResult ⟨k.frames.next, .result⟩) fun a =>
      .exec (.ioFreeIrp (some k.irps.next)) fun _ => .exec (.popFrame k.frames.next) (f a))
      (answered k (resolveCall k npi adress) (env.respond k.calls).toFinal) =
    run env (f (resolvedAddress env k) ())
      (resolved k (resolveCall k npi adress) (env.respond k.calls).toFinal) := by
  cases hs : ntSuccess (env.respond k.calls).status with
  | true =>
    simp [run_exec, machine, settle, answer, Kernel.apply, Kernel.log, answered, finished,
      resolved, resolveCall, resolvedAddress, firstAddress, WskCall.stored, hs]
  | false =>
    simp [run_exec, machine, settle, answer, Kernel.apply, Kernel.log, answered, finished,
      resolved, resolveCall, resolvedAddress, firstAddress, WskCall.stored, hs]

/-- A failure that arrives after `STATUS_PENDING` ends the resolution with the
zero address. Every other answer, an inline failure included, is followed by a
read through `Result`. -/
theorem run_convertStringToAdress {npi : WskProviderNpi} {adress : Endpoint}
    (hq : k.requests = []) (ha : env.allocate k.allocs = true) :
    run env (Utils.convertStringToAdress npi adress) k =
      if (env.respond k.calls).failsLater then
        (some SockAddr.zero,
          finished k (resolveCall k npi adress) (env.respond k.calls).toFinal)
      else
        (some (resolvedAddress env k),
          resolved k (resolveCall k npi adress) (env.respond k.calls).toFinal) := by
  have hstore : (resolveCall k npi adress).StoresIn k.frames.next := rfl
  simp only [Utils.convertStringToAdress, inFrame, pushFrame, primitive, Prog.perform, ioAllocateIrp,
    keInitializeEvent, ioSetCompletionRoutine, callProvider, Prog.exec_bind, Prog.ret_bind,
    keWaitForSingleObject, ioStatusStatus, Bool.not_eq_eq_eq_not, Bool.not_true, ioFreeIrp, Prog.pure_eq,
    readResult, popFrame, Prog.ite_bind, run_pushFrame]
  rw [← completionFor, run_prepare ha, ← resolveCall, run_await rfl rfl hstore hq]
  cases hs : ntSuccess (env.respond k.calls).status with
  | true => simp [run_readResult, Response.failsLater, hs]
  | false =>
    cases hp : (env.respond k.calls).pending <;>
      simp [Response.waits_iff_of_failure hs, run_readResult, Response.failsLater, hs, hp]

/-- The address that a resolution hands to its caller. -/
def handedAddress (env : Surroundings) (k : Kernel) : SockAddr :=
  if (env.respond k.calls).failsLater then SockAddr.zero else resolvedAddress env k

/-- A resolution that gets its IRP returns. -/
theorem resolves_of_serves (npi : WskProviderNpi) (adress : Endpoint) (hq : k.requests = [])
    (hs : env.Serves k.allocs 1) :
    ∃ k', run env (Utils.convertStringToAdress npi adress) k = (some (handedAddress env k), k') ∧
      k'.requests = [] ∧ k'.calls = k.calls + 1 ∧ k'.allocs = k.allocs + 1 := by
  rw [run_convertStringToAdress hq (Surroundings.serves_one.mp hs), handedAddress]
  split
  · exact ⟨_, rfl, hq, rfl, rfl⟩
  · exact ⟨_, rfl, hq, rfl, rfl⟩

/-! ## Registering with the provider -/

/-- The kernel after a function that made `calls` provider calls without an IRP
and left `events` between its entry and its return. -/
def passed (k : Kernel) (calls : Nat) (events : List Event) : Kernel :=
  { k with
    frames := k.frames.skip
    calls := k.calls + calls
    trace := k.trace ++ (.enter k.frames.next :: events ++ [.leave k.frames.next]) }

/-- The registration that `WskRegister` and the interface that
`WskCaptureProviderNPI` fill in when they are the next call. -/
def nextRegistration (k : Kernel) : WskRegistration := ⟨k.calls⟩
def nextNpi (k : Kernel) : WskProviderNpi := ⟨k.calls + 1⟩

/-- The events of `InitWsk`, up to a failing `WskRegister`, a failing
`WskCaptureProviderNPI`, or its end. -/
def initEvents (env : Surroundings) (k : Kernel) : List Event :=
  let registered := Event.register (nextRegistration k) ⟨k.frames.next, .wskClientDispatch⟩
    (env.respond k.calls).status
  let captured := Event.capture (nextRegistration k) (nextNpi k)
    (env.respond (k.calls + 1)).status
  if !ntSuccess (env.respond k.calls).status then [registered]
  else if !ntSuccess (env.respond (k.calls + 1)).status then
    [registered, captured, .deregister (nextRegistration k)]
  else [registered, captured]

theorem run_initWsk {reg : WskRegistration} {npi : WskProviderNpi} :
    run env (Utils.initWsk reg npi) k =
      if !ntSuccess (env.respond k.calls).status then
        (some ((env.respond k.calls).status, nextRegistration k, npi),
          passed k 1 (initEvents env k))
      else
        (some ((env.respond (k.calls + 1)).status, nextRegistration k, nextNpi k),
          passed k 2 (initEvents env k)) := by
  simp only [Utils.initWsk, inFrame]
  cases hr : ntSuccess (env.respond k.calls).status with
  | false =>
    -- `WskRegister` fails, and `WskCaptureProviderNPI` is not called.
    simp [run_exec, machine, settle, answer, Kernel.apply, Kernel.log, passed, initEvents,
      nextRegistration, hr]
  | true =>
    cases hc : ntSuccess (env.respond (k.calls + 1)).status <;>
      simp [run_exec, machine, settle, answer, Kernel.apply, Kernel.log, passed, initEvents,
        nextRegistration, nextNpi, hr, hc]

theorem run_deregisterWsk {reg : WskRegistration} :
    run env (Utils.deregisterWsk reg) k =
      (some (), { k with trace := k.trace ++ [.release reg, .deregister reg] }) := by
  simp [Utils.deregisterWsk, run_exec, machine, settle, answer, Kernel.apply, Kernel.log]

end Sequential

end WinShell
