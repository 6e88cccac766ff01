-- SUMMARY: What failures do: which calls throw, what they leave undone, and what failed constructors leave behind.
import WinShell.Lifecycle.Dispatch

/-!
# Failures

A constructor or a method throws when one of its steps failed, with the status of
that step, and makes no further request. That alone does not clean up: once
`InitWsk` has succeeded, a constructor that throws leaves the registration and
the interface on the books, since no destructor runs.
-/

namespace WinShell

open Effect Sockets Trace

namespace Sequential

variable {env : Surroundings} {k k' k₁ : Kernel} {objects objects' : Objects} {p : Program}
  {t s s' : List Event} {cls : SocketClass} {this : Socket} {method : Method}

/-- A state that a program reaches is in order as to numbers. -/
theorem aged_of_start (h : start env p = (some objects, k)) : Aged objects k := by
  have hrun : (p.execute ∅).wp (machine env) Aged (fun _ => True) {} := by
    apply run_program
    · exact fun objects k hk => hk.idle
    · exact fun c _ objects k objects' k' hk hs => hk.steps hs
    · exact fun c _ objects k k' _ _ => trivial
    · exact Aged.start
  exact hrun.of_run h

/-! ## Steps that report a status -/

end Sequential

/-- The calls whose status a constructor or a method looks at. -/
def WskCall.reports : WskCall → Bool
  | .wskGetAddressInfo _ _ _ _ _ _ | .wskCloseSocket _ => false
  | _ => true

namespace Event

/-- The final status of a step that reports one. -/
@[simp] def step : Event → Option NtStatus
  | register _ _ status | capture _ _ status => some status
  | complete req status _ => if req.call.reports then some status else none
  | _ => none

/-- The event is a request to the provider. -/
@[simp] def isRequest : Event → Bool
  | register _ _ _ | capture _ _ _ | release _ | deregister _ | issue _
  | freeAddressInfo _ _ => true
  | _ => false

/-- After `e` has failed, `e'` is still allowed: it is no request, or the
deregistration by which `InitWsk` undoes a registration whose capture failed. -/
def Stops (e e' : Event) : Prop :=
  ∀ status, e.step = some status → ntSuccess status = false → e'.isRequest = true →
    ∃ reg npi, e = capture reg npi status ∧ e' = deregister reg

end Event

namespace Sequential

/-- The final statuses of the steps of a call, in order. -/
abbrev steps (s : List Event) : List NtStatus := collect Event.step s

/-- A call that left the events `s` stopped at its first failure. A constructor
that returns has no status, a method returns one, and a call that never ends has
no outcome. -/
structure FailStop (s : List Event)
    (outcome : Option (Except SocketException (Option NtStatus))) : Prop where
  throws : (∃ e, outcome = some (.error e)) ↔ ∃ status ∈ steps s, ntSuccess status = false
  first : ∀ e, outcome = some (.error e) →
    (steps s).find? (fun status => !ntSuccess status) = some e.status
  stops : s.Pairwise Event.Stops
  last : ∀ status, outcome = some (.ok (some status)) → (steps s).getLast? = some status

/-- No step of the events failed. -/
def Succeeds (s : List Event) : Prop := ∀ status ∈ steps s, ntSuccess status = true

theorem Succeeds.append (h : Succeeds s) (h' : Succeeds s') : Succeeds (s ++ s') := by
  intro status hmem
  rw [steps, collect_append, List.mem_append] at hmem
  obtain hmem | hmem := hmem
  · exact h status hmem
  · exact h' status hmem

/-- Steps that succeed put no limit on what follows. -/
theorem Succeeds.pairwise_append (h : Succeeds s) (h' : s'.Pairwise Event.Stops) :
    (s ++ s').Pairwise Event.Stops := by
  have hstops : ∀ e ∈ s, ∀ e', e.Stops e' := by
    intro e he e' status hstep hfail _
    have hs : ntSuccess status = true := h status (mem_collect.mpr ⟨e, he, hstep⟩)
    rw [hs] at hfail
    cases hfail
  rw [List.pairwise_append]
  refine ⟨?_, h', fun e he e' _ => hstops e he e'⟩
  exact List.Pairwise.imp_of_mem (fun {e e'} he _ _ => hstops e he e') (List.pairwise_of_forall
    (fun _ _ => trivial))

theorem failStop_error {text : String} {status : NtStatus} (h : Succeeds s)
    (hsteps : steps s' = [status]) (hfail : ntSuccess status = false)
    (hstops : s'.Pairwise Event.Stops) : FailStop (s ++ s') (some (.error ⟨text, status⟩)) where
  throws := by
    refine ⟨fun _ => ⟨status, ?_, hfail⟩, fun _ => ⟨_, rfl⟩⟩
    rw [steps, collect_append, List.mem_append]
    right
    rw [show collect Event.step s' = [status] from hsteps]
    exact List.mem_singleton_self status
  first := by
    rintro e he
    cases he
    have hnone : (steps s).find? (fun status => !ntSuccess status) = none :=
      List.find?_eq_none.mpr fun status hmem => by simp [h status hmem]
    rw [steps, collect_append, List.find?_append, hnone]
    rw [steps] at hsteps
    simp [hsteps, hfail]
  stops := h.pairwise_append hstops
  last := by simp

theorem failStop_of_succeeds (outcome : Option (Option NtStatus)) (h : Succeeds s)
    (hlast : ∀ status, outcome = some (some status) → (steps s).getLast? = some status) :
    FailStop s (outcome.map .ok) where
  throws := by
    constructor
    · rintro ⟨e, he⟩
      cases outcome <;> cases he
    · rintro ⟨status, hmem, hfail⟩
      rw [h status hmem] at hfail
      cases hfail
  first := by
    intro e he
    cases outcome <;> cases he
  stops := by
    have hpair : (s ++ []).Pairwise Event.Stops := h.pairwise_append List.Pairwise.nil
    rwa [List.append_nil] at hpair
  last := by
    intro status ho
    cases outcome with
    | none => cases ho
    | some o =>
      cases ho
      exact hlast status rfl

/-! ### The pieces of a call -/

theorem steps_exchange {frame : Nat} {call : WskCall} {fin : Final} (hcall : call.reports = true) :
    steps (exchange frame (requestOf k call) fin) = [fin.status] := by
  simp [steps, exchange, requestOf, hcall]

theorem stops_exchange {frame : Nat} {req : Request} {fin : Final} :
    (exchange frame req fin).Pairwise Event.Stops := by
  simp [exchange, Event.Stops]

theorem reports_socketCall (npi : WskProviderNpi) (cls : SocketClass) :
    (socketCall npi cls).reports = true := by
  cases cls <;> rfl

theorem reports_of_makes {call : WskCall} (makes : Makes this method call) :
    call.reports = true := by
  cases method with
  | accept | disconnect => subst makes; rfl
  | connect adress => obtain ⟨_, rfl⟩ := makes; rfl
  | sendData data dataSize | receivData data dataSize => obtain ⟨_, _, rfl⟩ := makes; rfl
  | sendDatagram data adress => obtain ⟨_, _, _, rfl⟩ := makes; rfl
  | receivDatagram data dataSize => obtain ⟨_, _, _, _, _, rfl⟩ := makes; rfl

theorem Leads.succeeds {call : WskCall} {fin : Final} (_ : Asked k call fin k')
    (hcall : call.reports = true) (hs : ntSuccess fin.status = true) :
    Succeeds (exchange k.frames.next (requestOf k call) fin) := by
  intro status hmem
  rw [steps_exchange hcall, List.mem_singleton] at hmem
  rw [hmem, hs]

theorem succeeds_enter {frame : Nat} : Succeeds [.enter frame] := by simp [Succeeds, steps]

/-- What an `InitWsk` that succeeded left in the trace. -/
theorem Initialised.events (init : Initialised k k₁) :
    ∃ s, k₁.trace = k.trace ++ s ∧ Succeeds s := by
  obtain ⟨registered, captured, hregistered, hcaptured, leads⟩ := init
  exact ⟨_, leads.trace, by simp [Succeeds, steps, registering, hregistered, hcaptured]⟩

/-- Resolving an address is no step that reports a status. -/
theorem Prelude.events (before : Prelude this method k k₁) :
    ∃ s, k₁.trace = k.trace ++ s ∧ steps s = [] := by
  cases before with
  | none _ _ => exact ⟨[], by simp, rfl⟩
  | resolves fin read _ leads =>
    refine ⟨_, leads.trace, ?_⟩
    cases read <;> simp [steps, resolving, requestOf, resolveCall, WskCall.reports]

/-! ### Calls -/

theorem failStop_construct {o : Option (Except SocketException Socket)}
    (h : Constructs cls k o k') (htrace : k'.trace = k.trace ++ s) :
    FailStop s (o.map fun outcome => outcome.map fun _ => none) := by
  have hs : ∀ {s'}, k'.trace = k.trace ++ s' → s' = s :=
    fun h' => List.append_cancel_left (h'.symm.trans htrace)
  have hreports : ∀ npi, (socketCall npi cls).reports = true := (reports_socketCall · cls)
  cases h with
  | @registerFails text status _ failed leads =>
    obtain rfl := hs leads.trace
    have hnil : Succeeds [] := by simp [Succeeds, steps]
    have hfail : FailStop ([] ++ (registering k status ++ [.leave k.frames.next]))
        (some (.error ⟨text, status⟩)) :=
      failStop_error hnil (by simp [steps, registering]) failed
        (by simp [registering, Event.Stops])
    exact hfail
  | @captureFails _ registered _ _ hregistered failed leads =>
    obtain rfl := hs leads.trace
    have hregistering : Succeeds (registering k registered) := by
      simpa [Succeeds, steps, registering] using hregistered
    exact failStop_error hregistering (by simp [steps]) failed (by simp [Event.Stops])
  | createStops init stops =>
    obtain ⟨s₁, htrace₁, h₁⟩ := init.events
    obtain rfl := hs (by rw [stops, htrace₁, List.append_assoc])
    exact failStop_of_succeeds none (h₁.append succeeds_enter) (by simp)
  | createFails init create failed =>
    obtain ⟨s₁, htrace₁, h₁⟩ := init.events
    obtain rfl := hs (by rw [create.trace, htrace₁, List.append_assoc])
    exact failStop_error h₁ (steps_exchange (hreports _)) failed stops_exchange
  | bindStops init create hcreated stops =>
    obtain ⟨s₁, htrace₁, h₁⟩ := init.events
    obtain rfl := hs (by rw [stops, create.trace, htrace₁, List.append_assoc k.trace,
      List.append_assoc k.trace])
    have h₂ := create.succeeds (hreports _) hcreated
    exact failStop_of_succeeds none ((h₁.append h₂).append succeeds_enter) (by simp)
  | bindFails init create hcreated bind failed =>
    obtain ⟨s₁, htrace₁, h₁⟩ := init.events
    obtain rfl := hs (by rw [bind.trace, create.trace, htrace₁, List.append_assoc k.trace,
      List.append_assoc k.trace])
    have h₂ := create.succeeds (hreports _) hcreated
    exact failStop_error (h₁.append h₂) (steps_exchange rfl) failed stops_exchange
  | returns init create hcreated bind bound =>
    obtain ⟨s₁, htrace₁, h₁⟩ := init.events
    obtain rfl := hs (by rw [bind.trace, create.trace, htrace₁, List.append_assoc k.trace,
      List.append_assoc k.trace])
    have h₂ := create.succeeds (hreports _) hcreated
    have h₃ := bind.succeeds rfl bound
    exact failStop_of_succeeds (some none) ((h₁.append h₂).append h₃) (by simp)

theorem failStop_invoke {o : Option (Except SocketException NtStatus)}
    (h : Invokes this method k o k') (htrace : k'.trace = k.trace ++ s) :
    FailStop s (o.map fun outcome => outcome.map some) := by
  have hs : ∀ {s'}, k'.trace = k.trace ++ s' → s' = s :=
    fun h' => List.append_cancel_left (h'.symm.trans htrace)
  cases h with
  | resolveStops stops =>
    obtain rfl := hs stops
    exact failStop_of_succeeds none succeeds_enter (by simp)
  | stops before stops =>
    obtain ⟨s₁, htrace₁, h₁⟩ := before.events
    obtain rfl := hs (by rw [stops, htrace₁, List.append_assoc])
    have hs₁ : Succeeds s₁ := by simp [Succeeds, h₁]
    exact failStop_of_succeeds none (hs₁.append succeeds_enter) (by simp)
  | @returns text call fin _ _ before makes asked =>
    obtain ⟨s₁, htrace₁, h₁⟩ := before.events
    obtain rfl := hs (by rw [asked.trace, htrace₁, List.append_assoc])
    have hs₁ : Succeeds s₁ := by simp [Succeeds, h₁]
    have hcall : call.reports = true := reports_of_makes makes
    cases hfin : ntSuccess fin.status with
    | false =>
      simp only [throwOnFailure, hfin, Bool.not_false, if_true]
      exact failStop_error hs₁ (steps_exchange hcall) hfin stops_exchange
    | true =>
      simp only [throwOnFailure, hfin, Bool.not_true, Bool.false_eq_true, if_false]
      refine failStop_of_succeeds (some (some fin.status))
        (hs₁.append (asked.succeeds hcall hfin)) ?_
      intro status hstatus
      cases hstatus
      rw [steps, collect_append, show collect Event.step s₁ = [] from h₁,
        show collect Event.step (exchange _ _ fin) = [fin.status] from steps_exchange hcall]
      rfl

/-- Every constructor and every method, called in a state that some program
reaches, throws exactly when one of its steps failed, with the status of the first
such step, and stops there; a method that returns gives the status of its last
step. -/
theorem calls_failStop (hstart : start env p = (some objects, k)) :
    (∀ cls storage o k' s, run env (SocketClass.construct cls storage) k = (o, k') →
      k'.trace = k.trace ++ s → FailStop s (o.map fun outcome => outcome.map fun _ => none)) ∧
    (∀ id object method o k' s, objects.lookup id = some object → object.cls = method.cls →
      run env (Method.invoke object.fields method) k = (o, k') → k'.trace = k.trace ++ s →
      FailStop s (o.map fun outcome => outcome.map some)) := by
  have hidle : k.requests = [] := (aged_of_start hstart).idle
  constructor
  · intro cls storage o k' s hrun htrace
    have h := run_construct env cls storage hidle
    rw [hrun] at h
    exact failStop_construct h htrace
  · intro id object method o k' s _ _ hrun htrace
    have h := run_invoke env object.fields method hidle
    rw [hrun] at h
    exact failStop_invoke h htrace

/-- A provider that refuses one call. -/
def refusing (number : Nat) : Surroundings :=
  { cooperative with respond := fun n =>
      if n = number then ⟨⟨statusInvalidParameter, 0#64, []⟩, true⟩ else cooperative.respond n }

/-- A listener, and what its `Accept` and another constructor do when the seventh call is refused. -/
def listenOnce : Program := [.construct .listenerSocket 0 storage]
def listening : Kernel := (start (refusing 6) listenOnce).2
def listener : Socket := ⟨2#64, ⟨1⟩, ⟨0⟩⟩
def accepting : Option (Except SocketException NtStatus) × Kernel :=
  run (refusing 6) (Method.invoke listener .accept) listening
def constructing : Option (Except SocketException Socket) × Kernel :=
  run (refusing 6) (SocketClass.construct .connectionSocket storage) listening

theorem calls_failStop_accepting :
    FailStop (accepting.2.trace.drop listening.trace.length) (some (.ok (some statusSuccess))) ∧
      ∃ text, FailStop (constructing.2.trace.drop listening.trace.length)
        (some (.error ⟨text, statusInvalidParameter⟩)) := by
  have hstart : start (refusing 6) listenOnce =
      (some ((∅ : Objects).insert 0 ⟨.listenerSocket, listener⟩), listening) := rfl
  constructor
  · have hrun : run (refusing 6) (Method.invoke listener .accept) listening =
        (some (.ok statusSuccess), accepting.2) := rfl
    exact (calls_failStop hstart).2 0 ⟨.listenerSocket, listener⟩ .accept _ _ _
      (AList.lookup_insert _) rfl hrun (by decide +kernel)
  · have hrun : run (refusing 6) (SocketClass.construct .connectionSocket storage) listening =
        (some (.error ⟨_, statusInvalidParameter⟩), constructing.2) := rfl
    exact ⟨_, (calls_failStop hstart).1 .connectionSocket storage _ _ _ hrun (by decide +kernel)⟩

/-! ## Failed constructors -/

/-- Constructors that run one after the other; each is given its storage. -/
def attempts : List (SocketClass × Socket) → Win (List (Except SocketException Socket))
  | [] => return []
  | (cls, storage) :: rest => do
    let outcome ← cls.construct storage
    let outcomes ← attempts rest
    return outcome :: outcomes

/-- The registrations, the interfaces and the sockets that are on the books. -/
def liveRegistrations (t : List Event) : List WskRegistration :=
  (registered t).filter fun reg => reg ∉ deregistered t
def heldNpis (t : List Event) : List (WskRegistration × WskProviderNpi) :=
  (captured t).filter fun x => x.1 ∉ released t
def openSockets (t : List Event) : List PWskSocket :=
  (handedOut t).filter fun sock => sock ∉ closed t

/-- Everything that the events acquired they also gave back. -/
structure LeavesNothing (s : List Event) : Prop where
  registrations : ∀ reg ∈ registered s, reg ∈ deregistered s
  npis : ∀ x ∈ captured s, x.1 ∈ released s
  sockets : ∀ x ∈ created s, x.2 ∈ closed s

/-- As many registrations, interfaces and sockets are on the books as before. -/
structure SameCounts (t t' : List Event) : Prop where
  registrations : (liveRegistrations t').length = (liveRegistrations t).length
  npis : (heldNpis t').length = (heldNpis t).length
  sockets : (openSockets t').length = (openSockets t).length

/-- What a constructor that throws does to the books. -/
structure FailedAttempt (k : Kernel) (s : List Event) (k' : Kernel) : Prop where
  trace : k'.trace = k.trace ++ s
  released : released s = []
  held : heldNpis k'.trace = heldNpis k.trace ++ captured s
  clean : captured s = [] → LeavesNothing s ∧
    liveRegistrations k'.trace = liveRegistrations k.trace ∧
    openSockets k'.trace = openSockets k.trace

theorem Aged.new_registered (h : Aged objects k) : nextRegistration k ∉ registered k.trace := by
  intro hmem
  obtain ⟨e, he, hreg⟩ := mem_collect.mp hmem
  have hwithin := h.trace e he
  cases e with
  | register reg dispatch status =>
    simp only [Event.registered] at hreg
    split at hreg
    · cases hreg
      exact Nat.lt_irrefl _ hwithin.1
    · cases hreg
  | _ => simp at hreg

/-- A new registration that is undone at once leaves those of the others. -/
theorem liveRegistrations_undone {reg : WskRegistration} (hnew : reg ∉ registered t)
    (hregistered : registered s = [reg]) (hderegistered : deregistered s = [reg]) :
    liveRegistrations (t ++ s) = liveRegistrations t := by
  have hmine : reg ∈ deregistered (t ++ s) := by simp [hderegistered]
  have hothers : ∀ reg' ∈ registered t, reg' ∉ deregistered (t ++ s) ↔ reg' ∉ deregistered t := by
    intro reg' hmem
    have hne : reg' ≠ reg := fun heq => hnew (heq ▸ hmem)
    simp [hderegistered, hne]
  rw [liveRegistrations, registered, collect_append, List.filter_append,
    show collect Event.registered s = [reg] from hregistered,
    List.filter_cons_of_neg (by simpa only [decide_eq_true_eq, not_not] using hmine), List.filter_nil, List.append_nil]
  apply List.filter_congr
  intro reg' hmem
  exact decide_eq_decide.mpr (hothers reg' hmem)

/-- A constructor that fails after `InitWsk` keeps the interface. -/
theorem failedAttempt_of_captured {registered captured : NtStatus}
    (aged : Aged objects k) (hcaptured : ntSuccess captured = true)
    (htrace : k'.trace = k.trace ++ (registering k registered ++
      [.capture (nextRegistration k) (nextNpi k) captured, .leave k.frames.next] ++ s))
    (hreleased : Trace.released s = []) (hs : Trace.captured s = []) :
    ∃ s, FailedAttempt k s k' := by
  refine ⟨_, htrace, ?_, ?_, ?_⟩
  · simpa [registering] using hreleased
  · simp [heldNpis, htrace, registering, hcaptured, hreleased, hs, aged.new_released]
  · simp [registering, hcaptured]

theorem failedAttempt_of_constructs {e : SocketException} (aged : Aged objects k)
    (hc : Constructs cls k (some (.error e)) k') : ∃ s, FailedAttempt k s k' := by
  cases hc with
  | registerFails failed leads =>
    refine ⟨_, leads.trace, ?_, ?_, fun _ => ⟨⟨?_, ?_, ?_⟩, ?_, ?_⟩⟩
    · simp [registering]
    · simp [heldNpis, leads.trace, registering]
    · simp [registering, failed]
    · simp [registering]
    · simp [registering]
    · simp [liveRegistrations, leads.trace, registering, failed]
    · simp [openSockets, leads.trace, registering]
  | captureFails hregistered failed leads =>
    refine ⟨_, leads.trace, ?_, ?_, fun _ => ⟨⟨?_, ?_, ?_⟩, ?_, ?_⟩⟩
    · simp [registering]
    · simp [heldNpis, leads.trace, registering, failed]
    · simp [registering, hregistered]
    · simp [registering, failed]
    · simp [registering]
    · rw [leads.trace]
      apply liveRegistrations_undone aged.new_registered
      · simp [registering, hregistered]
      · simp [registering]
    · simp [openSockets, leads.trace, registering]
  | createFails init create failed =>
    obtain ⟨registered, captured, hregistered, hcaptured, leads⟩ := init
    apply failedAttempt_of_captured aged hcaptured
    · rw [create.trace, leads.trace, List.append_assoc]
    · simp [exchange]
    · simp [exchange]
  | bindFails init create hcreated bind failed =>
    obtain ⟨registered, captured, hregistered, hcaptured, leads⟩ := init
    apply failedAttempt_of_captured aged hcaptured
    · rw [bind.trace, create.trace, leads.trace, List.append_assoc, List.append_assoc]
    · simp [exchange]
    · simp [exchange]

theorem FailedAttempt.append (h : FailedAttempt k s k₁) (h' : FailedAttempt k₁ s' k') :
    FailedAttempt k (s ++ s') k' where
  trace := by rw [h'.trace, h.trace, List.append_assoc]
  released := by simp [h.released, h'.released]
  held := by
    rw [h'.held, h.held, List.append_assoc]
    simp
  clean := by
    intro hnone
    simp only [captured, collect_append, List.append_eq_nil_iff] at hnone
    obtain ⟨⟨hregs, hnpis, hsocks⟩, hlive, hopen⟩ := h.clean hnone.1
    obtain ⟨⟨hregs', hnpis', hsocks'⟩, hlive', hopen'⟩ := h'.clean hnone.2
    refine ⟨⟨?_, ?_, ?_⟩, hlive'.trans hlive, hopen'.trans hopen⟩
    · intro reg hmem
      simp only [collect_append, List.mem_append] at hmem ⊢
      exact hmem.imp (hregs reg) (hregs' reg)
    · intro x hmem
      simp only [collect_append, List.mem_append] at hmem ⊢
      exact hmem.imp (hnpis x) (hnpis' x)
    · intro x hmem
      simp only [collect_append, List.mem_append] at hmem ⊢
      exact hmem.imp (hsocks x) (hsocks' x)

theorem Aged.constructs_error {e : SocketException} (aged : Aged objects k)
    (hc : Constructs cls k (some (.error e)) k') : Aged objects k' := by
  have h : Aged (constructed objects cls 0 (.error e)) k' := aged.constructs hc
  exact h

theorem failedAttempt_of_run {as : List (SocketClass × Socket)}
    {outcomes : List (Except SocketException Socket)} (aged : Aged objects k)
    (hrun : run env (attempts as) k = (some outcomes, k'))
    (hfail : ∀ o ∈ outcomes, ∃ e, o = .error e) : ∃ s, FailedAttempt k s k' := by
  induction as generalizing k outcomes with
  | nil =>
    cases hrun
    refine ⟨[], by simp, rfl, by simp, fun _ => ⟨⟨?_, ?_, ?_⟩, rfl, rfl⟩⟩
    · simp
    · simp
    · simp
  | cons a as ih =>
    obtain ⟨cls, storage⟩ := a
    rw [attempts, run_bind] at hrun
    have hc := run_construct env cls storage aged.idle
    rcases hfirst : run env (cls.construct storage) k with ⟨_ | outcome, k₁⟩
    · rw [hfirst] at hrun
      cases hrun
    · rw [hfirst] at hrun hc
      simp only [run_bind] at hrun
      rcases hrest : run env (attempts as) k₁ with ⟨_ | rest, k₂⟩
      · rw [hrest] at hrun
        cases hrun
      · rw [hrest] at hrun
        cases hrun
        obtain ⟨e, rfl⟩ := hfail outcome List.mem_cons_self
        obtain ⟨s, hs⟩ := failedAttempt_of_constructs aged hc
        have aged₁ : Aged objects k₁ := aged.constructs_error hc
        obtain ⟨s', hs'⟩ :=
          ih aged₁ hrest (fun o ho => hfail o (List.mem_cons_of_mem _ ho))
        exact ⟨s ++ s', hs.append hs'⟩

/-- Any number of constructors that all throw, in a state that some program
reaches, give back what they acquired exactly when each of them failed in
`InitWsk`; and exactly then the books show the same counts as before. -/
theorem failed_attempts_iff {as : List (SocketClass × Socket)}
    {outcomes : List (Except SocketException Socket)} (hstart : start env p = (some objects, k))
    (hrun : run env (attempts as) k = (some outcomes, k'))
    (hfail : ∀ o ∈ outcomes, ∃ e, o = .error e) (htrace : k'.trace = k.trace ++ s) :
    (LeavesNothing s ↔
      ∀ reg npi status, .capture reg npi status ∈ s → ntSuccess status = false) ∧
    (SameCounts k.trace k'.trace ↔
      ∀ reg npi status, .capture reg npi status ∈ s → ntSuccess status = false) := by
  obtain ⟨s', h⟩ := failedAttempt_of_run (aged_of_start hstart) hrun hfail
  obtain rfl : s' = s := List.append_cancel_left (h.trace.symm.trans htrace)
  rw [← captured_eq_nil]
  constructor
  · constructor
    · intro hnothing
      rw [List.eq_nil_iff_forall_not_mem]
      intro x hx
      have hmem := hnothing.npis x hx
      rw [h.released] at hmem
      cases hmem
    · exact fun hnone => (h.clean hnone).1
  · constructor
    · intro hcounts
      have hlength := hcounts.npis
      rw [h.held, List.length_append] at hlength
      exact List.eq_nil_of_length_eq_zero (by omega)
    · intro hnone
      obtain ⟨_, hlive, hopen⟩ := h.clean hnone
      refine ⟨by rw [hlive], ?_, by rw [hopen]⟩
      rw [h.held, hnone, List.append_nil]

/-- A provider that refuses to create sockets. -/
def socketless : Surroundings where
  respond n := ⟨⟨if n = 2 then statusInvalidParameter else statusSuccess, 0#64, []⟩, false⟩
  allocate _ := true
  garbage _ := SockAddr.zero

/-- One attempt to construct a listener. -/
def attemptOnce : Option (List (Except SocketException Socket)) × Kernel :=
  run socketless (attempts [(.listenerSocket, storage)]) {}

/-- The exception of that attempt. -/
def creationFailed : SocketException :=
  ⟨"Failed _ListenerSocket::_ListenerSocket(x)::CreateListeningSocket", statusInvalidParameter⟩

theorem failed_attempts_iff_attemptOnce :
    (LeavesNothing attemptOnce.2.trace ↔
      ∀ reg npi status, .capture reg npi status ∈ attemptOnce.2.trace →
        ntSuccess status = false) ∧
    (SameCounts [] attemptOnce.2.trace ↔
      ∀ reg npi status, .capture reg npi status ∈ attemptOnce.2.trace →
        ntSuccess status = false) := by
  have hstart : start socketless [] = (some ∅, {}) := rfl
  have hrun : run socketless (attempts [(.listenerSocket, storage)]) {} =
      (some [.error creationFailed], attemptOnce.2) := rfl
  exact failed_attempts_iff hstart hrun (by simp) rfl

/-- The constructor throws, and the registration and the interface stay. -/
theorem attemptOnce_leaves :
    attemptOnce.1 = some [.error creationFailed] ∧ ¬LeavesNothing attemptOnce.2.trace ∧
      ¬SameCounts [] attemptOnce.2.trace := by
  refine ⟨rfl, fun h => ?_, fun h => ?_⟩
  · exact absurd h.registrations (by decide +kernel)
  · exact absurd h.registrations (by decide +kernel)

end Sequential

end WinShell
