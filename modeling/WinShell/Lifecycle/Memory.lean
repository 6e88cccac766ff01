-- SUMMARY: What a request operation does when the pool refuses it an IRP or an MDL.
import WinShell.Concurrent.Operations
import WinShell.Sequential.Calls
import WinShell.Sequential.Submissions

/-!
# Running out of memory

`IoAllocateIrp` and `IoAllocateMdl` may return a null pointer. No operation tests
for one: it goes on with what it was given, and the next primitive that needs the
object gets the null pointer.
-/

namespace WinShell

open Effect

/-- A primitive that needs an object is given a null pointer for it. -/
def Op.passesNull : Op → Bool
  | .ioSetCompletionRoutine none _ => true
  | .submit _ none => true
  | .mmBuildMdlForNonPagedPool none => true
  | _ => false

/-- The pool allocations that an operation makes. -/
def Operation.allocations : Operation → Nat
  | sendDataConnectionSocket _ _ _ | getDataConnectionSocket _ _ _
  | sendDataDatagramSocket _ _ _ _ | getDataDatagramSocket _ _ _ => 2
  | _ => 1

/-- The pool allocations that the operations make in turn. -/
def Operation.allAllocations : List Operation → Nat
  | [] => 0
  | op :: rest => op.allocations + allAllocations rest

/-- The outcome is a failure status. -/
def Outcome.fails (outcome : Outcome) : Bool :=
  outcome.ntStatus.any fun status => !ntSuccess status

namespace Sequential

variable {α β : Type} {env : Surroundings} {k k' : Kernel} {count : Nat}

/-! ## Null pointers -/

/-- The kernel does not survive the null pointer. -/
theorem machine_passesNull {o : Op} (h : o.passesNull = true) : (machine env k o).1 = none := by
  unfold Op.passesNull at h
  split at h
  · rfl
  · rfl
  · rfl
  · cases h

/-- A run comes to a primitive that is given a null pointer. -/
def PassesNull (env : Surroundings) (p : Win α) (k : Kernel) : Prop :=
  ∃ visit ∈ visits env p k, visit.1.passesNull = true

instance (p : Win α) : Decidable (PassesNull env p k) := List.decidableBEx _ _

/-- A run that returns was given none. -/
theorem not_passesNull_of_run {p : Win α} {a : α} (hrun : run env p k = (some a, k')) :
    ¬PassesNull env p k := by
  rintro ⟨⟨o, k₀⟩, hvisit, hnull⟩
  have hanswered : (machine env k₀ o).1.isSome := Prog.answered_of_run hrun hvisit
  rw [machine_passesNull hnull] at hanswered
  cases hanswered

theorem passesNull_exec {o : Op} {f : o.Ret → Win α} :
    PassesNull env (@Prog.exec winKernel α o f) k ↔
      o.passesNull = true ∨
        match machine env k o with
        | (some r, k') => PassesNull env (f r) k'
        | (none, _) => False := by
  rw [PassesNull, visits_exec]
  rcases machine env k o with ⟨_ | r, k'⟩
  · simp
  · simp [PassesNull]

theorem PassesNull.bind {p : Win α} {f : α → Win β} (h : PassesNull env p k) :
    PassesNull env (p >>= f) k := by
  obtain ⟨visit, hvisit, hnull⟩ := h
  refine ⟨visit, ?_, hnull⟩
  rw [visits_bind]
  exact List.mem_append_left _ hvisit

@[simp] theorem passesNull_pushFrame {f : Nat → Win α} :
    PassesNull env (@Prog.exec winKernel α .pushFrame f) k ↔
      PassesNull env (f k.frames.next) (entered k) := by
  simp [passesNull_exec, Op.passesNull, machine, settle, answer, Kernel.apply, Kernel.log, entered]

/-- Without an IRP, the null pointer goes to `IoSetCompletionRoutine`. -/
theorem Prepares.passesNull {p : Win α} (h : Prepares p) (hs : ¬env.Serves k.allocs 1) :
    PassesNull env p k := by
  obtain ⟨f, rfl⟩ := h
  have ha : env.allocate k.allocs = false := Surroundings.not_serves_one.mp hs
  rw [passesNull_pushFrame]
  simp [passesNull_exec, Op.passesNull, machine, settle, answer, Kernel.apply, entered, ha]

/-- Without an MDL, it goes to `MmBuildMdlForNonPagedPool`, whether or not there is
an IRP. -/
theorem PreparesData.passesNull {data : PVoid} {dataSize : ULong} {p : Win α}
    (h : PreparesData data dataSize p) (hs : ¬env.Serves k.allocs 2) : PassesNull env p k := by
  obtain ⟨f, rfl⟩ := h
  rw [passesNull_pushFrame]
  rw [Surroundings.serves_two] at hs
  cases ha : env.allocate k.allocs <;> cases hm : env.allocate (k.allocs + 1) <;>
    simp [passesNull_exec, Op.passesNull, machine, settle, answer, Kernel.apply, entered, ha, hm]
      at hs ⊢

/-! ## Operations -/

/-- The program needs `count` allocations. Served, it returns and leaves the provider
without a request; refused one of them, it passes a null pointer on. -/
structure Needs (env : Surroundings) (p : Win α) (k : Kernel) (count : Nat) : Prop where
  served : env.Serves k.allocs count →
    ∃ a k', run env p k = (some a, k') ∧ k'.requests = [] ∧ k'.allocs = k.allocs + count
  refused : ¬env.Serves k.allocs count → PassesNull env p k

theorem Needs.of_answers {p : Win α} {call : WskCall} {result : Response → α}
    (answers : Answers env p k count call result)
    (hnull : ¬env.Serves k.allocs count → PassesNull env p k) : Needs env p k count where
  served := by
    intro hs
    obtain ⟨k', hrun, leads, hallocs⟩ := answers.served hs
    exact ⟨_, k', hrun, leads.idle, hallocs⟩
  refused := hnull

/-- What is done with the result needs no allocation. -/
theorem Needs.returning {p : Win α} (h : Needs env p k count) (f : α → β) :
    Needs env (p >>= fun a => pure (f a)) k count where
  served := by
    intro hs
    obtain ⟨a, k', hrun, hidle, hallocs⟩ := h.served hs
    refine ⟨f a, k', ?_, hidle, hallocs⟩
    rw [run_bind, hrun]
    rfl
  refused := fun hs => (h.refused hs).bind

theorem Needs.map {p : Win α} (h : Needs env p k count) (f : α → β) :
    Needs env (f <$> p) k count := by
  rw [map_eq_pure_bind]
  exact h.returning f

theorem needs_requestStatus {call : Nat → WskCall} (hq : k.requests = [])
    (hstore : (call k.frames.next).StoresIn k.frames.next) :
    Needs env (Utils.requestStatus call) k 1 := by
  apply Needs.of_answers (answers_requestStatus hq hstore)
  exact prepares_requestStatus.passesNull

theorem needs_closeSocket {sock : PWskSocket} (hq : k.requests = []) :
    Needs env (Utils.closeSocket sock) k 1 := by
  apply Needs.of_answers (answers_closeSocket hq)
  exact prepares_closeSocket.passesNull

theorem needs_createSocket {call : WskCall} {sock : PWskSocket} (hq : k.requests = [])
    (hstore : call.StoresIn k.frames.next) : Needs env (Utils.createSocket call sock) k 1 := by
  apply Needs.of_answers (answers_createSocket hq hstore)
  exact prepares_createSocket.passesNull

theorem needs_createConnectionSocket {npi : WskProviderNpi} {sock : PWskSocket}
    (hq : k.requests = []) : Needs env (Utils.createConnectionSocket npi sock) k 1 := by
  apply Needs.of_answers (answers_createConnectionSocket hq)
  exact prepares_createConnectionSocket.passesNull

theorem needs_convertStringToAdress {npi : WskProviderNpi} {adress : Endpoint}
    (hq : k.requests = []) : Needs env (Utils.convertStringToAdress npi adress) k 1 where
  served := by
    intro hs
    obtain ⟨k', hrun, hidle, -, hallocs⟩ := resolves_of_serves npi adress hq hs
    exact ⟨_, k', hrun, hidle, hallocs⟩
  refused := prepares_convertStringToAdress.passesNull

section Data

variable {sock : PWskSocket} {data : PVoid} {dataSize : ULong}

theorem needs_sendData {call : Nat → WskBuf → WskCall} (hq : k.requests = [])
    (hstore : (call k.frames.next (bufferOf k dataSize)).StoresIn k.frames.next) :
    Needs env (Utils.sendData call data dataSize) k 2 := by
  apply Needs.of_answers (answers_sendData hq hstore)
  exact prepares_sendData.passesNull

theorem needs_getDataConnectionSocket (hq : k.requests = []) :
    Needs env (Utils.getDataConnectionSocket sock data dataSize) k 2 := by
  apply Needs.of_answers (answers_getDataConnectionSocket hq)
  exact prepares_getDataConnectionSocket.passesNull

theorem needs_getDataDatagramSocket (hq : k.requests = []) :
    Needs env (Utils.getDataDatagramSocket sock data dataSize) k 2 := by
  apply Needs.of_answers (answers_getDataDatagramSocket hq)
  exact prepares_getDataDatagramSocket.passesNull

end Data

theorem needs_execute (op : Operation) (hq : k.requests = []) :
    Needs env op.execute k op.allocations := by
  cases op with
  | convertStringToAdress npi adress => exact (needs_convertStringToAdress hq).returning _
  | closeSocket sock => exact (needs_closeSocket hq).returning _
  | createConnectionSocket npi sock => exact (needs_createConnectionSocket hq).returning _
  | createDatagramSocket npi sock | createListeningSocket npi sock =>
    refine (needs_createSocket hq ?_).returning _
    trivial
  | bindConnectionSocket sock | disconnectConnectionSocket sock
  | connectConnectionSocket sock adress | bindDatagramSocket sock | bindListenerSocket sock
  | acceptConnection sock =>
    refine (needs_requestStatus hq ?_).map _
    trivial
  | sendDataConnectionSocket sock data dataSize | sendDataDatagramSocket sock data dataSize adress =>
    refine (needs_sendData hq ?_).map _
    trivial
  | getDataConnectionSocket sock data dataSize => exact (needs_getDataConnectionSocket hq).map _
  | getDataDatagramSocket sock data dataSize => exact (needs_getDataDatagramSocket hq).map _

/-! ## Allocation failures -/

/-- The operation passes no null pointer on. When one of its allocations fails, it
returns a failure status, submits nothing, and frees what it did allocate. -/
structure AllocationSafe (env : Surroundings) (op : Operation) (k : Kernel) : Prop where
  nonnull : ¬PassesNull env op.execute k
  reports : ∀ result k', run env op.execute k = (result, k') →
    ∀ n, k.allocs ≤ n → n < k'.allocs → env.allocate n = false →
      result.any Outcome.fails = true ∧ submissions env op.execute k = [] ∧
      k'.irps.live = k.irps.live ∧ k'.mdls.live = k.mdls.live

theorem allocationSafe_iff_serves {op : Operation} (hq : k.requests = []) :
    AllocationSafe env op k ↔ env.Serves k.allocs op.allocations := by
  constructor
  · intro safe
    by_contra hs
    exact safe.nonnull ((needs_execute op hq).refused hs)
  · intro hs
    obtain ⟨outcome, k₁, hrun, -, hallocs⟩ := (needs_execute op hq).served hs
    constructor
    · exact not_passesNull_of_run hrun
    · intro result k' hrun' n hfirst hlast hfails
      cases hrun.symm.trans hrun'
      have hserved : env.allocate (k.allocs + (n - k.allocs)) = true := hs _ (by omega)
      rw [Nat.add_sub_cancel' hfirst, hfails] at hserved
      cases hserved

/-- A thread that runs the operations in turn comes to `op` in state `k'`. -/
inductive Reaches (env : Surroundings) : List Operation → Kernel → Operation → Kernel → Prop
  | here {op : Operation} {rest : List Operation} {k : Kernel} : Reaches env (op :: rest) k op k
  | later {op op' : Operation} {rest : List Operation} {outcome : Outcome} {k k₁ k' : Kernel}
      (hrun : run env op.execute k = (some outcome, k₁)) (h : Reaches env rest k₁ op' k') :
      Reaches env (op :: rest) k op' k'

/-- Every operation that a thread comes to handles its allocation failures exactly
when none of the allocations of the whole run fails. -/
theorem allocation_failures_handled_iff (ops : List Operation) (hq : k.requests = []) :
    (∀ op k', Reaches env ops k op k' → AllocationSafe env op k') ↔
      env.Serves k.allocs (Operation.allAllocations ops) := by
  induction ops generalizing k with
  | nil =>
    refine iff_of_true ?_ Surroundings.serves_zero
    intro op k' h
    cases h
  | cons op rest ih =>
    rw [Operation.allAllocations, Surroundings.serves_add]
    constructor
    · intro h
      have hs : env.Serves k.allocs op.allocations :=
        (allocationSafe_iff_serves hq).mp (h op k .here)
      obtain ⟨outcome, k₁, hrun, hidle, hallocs⟩ := (needs_execute op hq).served hs
      refine ⟨hs, ?_⟩
      rw [← hallocs]
      exact (ih hidle).mp fun op' k' reached => h op' k' (.later hrun reached)
    · rintro ⟨hs, hrest⟩ op' k' reached
      cases reached with
      | here => exact (allocationSafe_iff_serves hq).mpr hs
      | later hrun reached =>
        obtain ⟨outcome, k₁, hrun', hidle, hallocs⟩ := (needs_execute op hq).served hs
        cases hrun.symm.trans hrun'
        rw [← hallocs] at hrest
        exact (ih hidle).mpr hrest op' k' reached

/-- The pool is exhausted after two allocations. The provider grants everything. -/
def exhausted : Surroundings where
  respond _ := ⟨⟨statusSuccess, 0#64, []⟩, false⟩
  allocate n := n < 2
  garbage _ := SockAddr.zero

theorem allocation_failures_handled_iff_exhausted :
    (∀ op k', Reaches exhausted [.bindConnectionSocket 5#64, .disconnectConnectionSocket 5#64] {}
      op k' → AllocationSafe exhausted op k') ↔ exhausted.Serves 0 2 :=
  allocation_failures_handled_iff [.bindConnectionSocket 5#64, .disconnectConnectionSocket 5#64] rfl

/-- A send that gets an IRP but no MDL. -/
def lastSend : Operation := .sendDataConnectionSocket 5#64 4096#64 5#32

/-- The state in which it starts, after a `BindConnectionSocket`. -/
def almostExhausted : Kernel := (run exhausted (Operation.bindConnectionSocket 5#64).execute {}).2

/-- It passes the null MDL on and stops there, with its IRP still allocated. -/
theorem lastSend_not_handled :
    ((visits exhausted lastSend.execute almostExhausted).map Prod.fst).filter Op.passesNull =
      [.mmBuildMdlForNonPagedPool none] ∧
    (run exhausted lastSend.execute almostExhausted).1 = none ∧
    almostExhausted.irps.live = [] ∧
    (run exhausted lastSend.execute almostExhausted).2.irps.live = [1] ∧
    ¬∀ op k', Reaches exhausted [.bindConnectionSocket 5#64, lastSend] {} op k' →
      AllocationSafe exhausted op k' := by
  refine ⟨rfl, rfl, by decide +kernel, by decide +kernel, ?_⟩
  intro h
  have safe : AllocationSafe exhausted lastSend almostExhausted := h _ _ (.later rfl .here)
  exact safe.nonnull (by decide +kernel)

end Sequential

end WinShell
