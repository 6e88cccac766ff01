-- SUMMARY: Runs of whole programs: what a command does, and the rule for invariants of a run.
import WinShell.Sequential.Calls
import WinShell.Trace

/-!
# Runs of programs

`Steps` lists everything that one command can do. An invariant of a run is then
shown command by command: `run_program` carries it from the start to the state
in which the program ends, or to the one in which it stops.

Registrations, interfaces and frames are numbered as they come. `Aged` says that
a kernel and its objects mention no number that is still to come, so what the
next call brings is new.
-/

namespace WinShell

open Effect Sockets

namespace Sequential

variable {env : Surroundings} {k k' : Kernel} {objects objects' : Objects}

/-! ## Commands -/

/-- The objects after a constructor. -/
def constructed (objects : Objects) (cls : SocketClass) (id : Nat) :
    Except SocketException Socket → Objects
  | .ok this => objects.insert id ⟨cls, this⟩
  | .error _ => objects

/-- What a command does. -/
inductive Steps (objects : Objects) (k : Kernel) :
    Command → Option Objects → Kernel → Prop
  | skips {c : Command} (h : c.applies objects = false) : Steps objects k c (some objects) k
  | constructs {cls : SocketClass} {id : Nat} {storage : Socket}
      {o : Option (Except SocketException Socket)} {k' : Kernel} (hid : objects.lookup id = none)
      (h : Constructs cls k o k') :
      Steps objects k (.construct cls id storage) (o.map (constructed objects cls id)) k'
  | invokes {id : Nat} {method : Method} {object : Object}
      {o : Option (Except SocketException NtStatus)} {k' : Kernel}
      (hid : objects.lookup id = some object) (hcls : object.cls = method.cls)
      (h : Invokes object.fields method k o k') :
      Steps objects k (.invoke id method) (o.map fun _ => objects) k'
  | destroys {id : Nat} {object : Object} {o : Option Unit} {k' : Kernel}
      (hid : objects.lookup id = some object) (h : Destroys object.fields k o k') :
      Steps objects k (.destroy id) (o.map fun _ => objects.erase id) k'
  | copyConstructs {id source : Nat} {object : Object} (hid : objects.lookup id = none)
      (hsource : objects.lookup source = some object) :
      Steps objects k (.copyConstruct id source)
        (some (objects.insert id object)) k
  | copyAssigns {id source : Nat} {object object' : Object} (hid : objects.lookup id = some object)
      (hsource : objects.lookup source = some object') (hcls : object.cls = object'.cls) :
      Steps objects k (.copyAssign id source)
        (some (objects.insert id object')) k

/-- A command that does not apply does nothing. -/
theorem execute_of_not_applies {c : Command} (h : c.applies objects = false) :
    c.execute objects = pure objects := by
  cases c with
  | construct cls id storage =>
    have hsome : (objects.lookup id).isSome = true := by simpa [Command.applies] using h
    obtain ⟨object, hid⟩ := Option.isSome_iff_exists.mp hsome
    simp only [Command.execute, hid]
  | invoke id method =>
    cases hid : objects.lookup id with
    | none => simp only [Command.execute, hid]
    | some object =>
      have hcls : object.cls ≠ method.cls := by simpa [Command.applies, hid] using h
      simp only [Command.execute, hid, hcls, if_false]
  | destroy id =>
    have hid : objects.lookup id = none := by simpa [Command.applies] using h
    simp only [Command.execute, hid]
  | copyConstruct id source =>
    cases hid : objects.lookup id with
    | some object => simp only [Command.execute, hid]
    | none =>
      have hsource : objects.lookup source = none := by simpa [Command.applies, hid] using h
      simp only [Command.execute, hid, hsource]
  | copyAssign id source =>
    cases hid : objects.lookup id with
    | none => simp only [Command.execute, hid]
    | some object =>
      cases hsource : objects.lookup source with
      | none => simp only [Command.execute, hid, hsource]
      | some object' =>
        have hcls : object.cls ≠ object'.cls := by simpa [Command.applies, hid, hsource] using h
        simp only [Command.execute, hid, hsource, hcls, if_false]

theorem run_command (env : Surroundings) (c : Command) (hq : k.requests = []) :
    Steps objects k c (run env (c.execute objects) k).1 (run env (c.execute objects) k).2 := by
  by_cases happlies : c.applies objects = true
  swap
  · have hskips : c.applies objects = false := by simpa using happlies
    rw [execute_of_not_applies hskips]
    exact .skips hskips
  cases c with
  | construct cls id storage =>
    have hid : objects.lookup id = none := by simpa [Command.applies] using happlies
    have h : Constructs cls k _ _ := run_construct env cls storage hq
    simp only [Command.execute, hid, run_bind]
    rcases hrun : run env (cls.construct storage) k with ⟨_ | outcome, k'⟩
    · rw [hrun] at h
      exact .constructs hid h
    · rw [hrun] at h
      cases outcome with
      | ok this => exact .constructs hid h
      | error e => exact .constructs hid h
  | invoke id method =>
    obtain ⟨object, hid, hcls⟩ : ∃ object, objects.lookup id = some object ∧
        object.cls = method.cls := by
      simpa [Command.applies, Option.any_eq_true] using happlies
    have h : Invokes object.fields method k _ _ := run_invoke env object.fields method hq
    simp only [Command.execute, hid, hcls, if_true, run_bind]
    rcases hrun : run env (method.invoke object.fields) k with ⟨_ | outcome, k'⟩
    · rw [hrun] at h
      exact .invokes hid hcls h
    · rw [hrun] at h
      exact .invokes hid hcls h
  | destroy id =>
    obtain ⟨object, hid⟩ : ∃ object, objects.lookup id = some object := by
      simpa [Command.applies, Option.isSome_iff_exists] using happlies
    have h : Destroys object.fields k _ _ := run_destroy env object.cls object.fields hq
    simp only [Command.execute, hid, run_bind]
    rcases hrun : run env (object.cls.destroy object.fields) k with ⟨_ | outcome, k'⟩
    · rw [hrun] at h
      exact .destroys hid h
    · rw [hrun] at h
      exact .destroys hid h
  | copyConstruct id source =>
    obtain ⟨hid, object, hsource⟩ : objects.lookup id = none ∧
        ∃ object, objects.lookup source = some object := by
      simpa [Command.applies, Option.isSome_iff_exists] using happlies
    simp only [Command.execute, hid, hsource]
    exact .copyConstructs hid hsource
  | copyAssign id source =>
    obtain ⟨object, hid, object', hsource, hcls⟩ : ∃ object, objects.lookup id = some object ∧
        ∃ object', objects.lookup source = some object' ∧ object.cls = object'.cls := by
      simpa [Command.applies, Option.any_eq_true] using happlies
    simp only [Command.execute, hid, hsource, hcls, if_true]
    exact .copyAssigns hid hsource hcls

theorem Leads.isPrefix {m n : Nat} {s : List Event} (h : Leads k m n s k') :
    k.trace <+: k'.trace :=
  ⟨s, h.trace.symm⟩

theorem Initialised.isPrefix (init : Initialised k k') : k.trace <+: k'.trace := by
  obtain ⟨_, _, _, _, leads⟩ := init
  exact leads.isPrefix

theorem Prelude.isPrefix {this : Socket} {method : Method} (before : Prelude this method k k') :
    k.trace <+: k'.trace := by
  cases before with
  | none _ _ => exact List.prefix_rfl
  | resolves _ _ _ leads => exact leads.isPrefix

/-- A command only adds to the trace. -/
theorem Steps.isPrefix {c : Command} {o : Option Objects} (hs : Steps objects k c o k') :
    k.trace <+: k'.trace := by
  cases hs with
  | skips _ | copyConstructs _ _ | copyAssigns _ _ _ => exact List.prefix_rfl
  | constructs _ h =>
    cases h with
    | registerFails _ leads | captureFails _ _ leads => exact leads.isPrefix
    | createStops init stops => exact init.isPrefix.trans ⟨_, stops.symm⟩
    | createFails init create _ => exact init.isPrefix.trans create.isPrefix
    | bindStops init create _ stops =>
      exact (init.isPrefix.trans create.isPrefix).trans ⟨_, stops.symm⟩
    | bindFails init create _ bind _ | returns init create _ bind _ =>
      exact (init.isPrefix.trans create.isPrefix).trans bind.isPrefix
  | invokes _ _ h =>
    cases h with
    | resolveStops stops => exact ⟨_, stops.symm⟩
    | stops before stops => exact before.isPrefix.trans ⟨_, stops.symm⟩
    | returns before _ asked => exact before.isPrefix.trans asked.isPrefix
  | destroys _ h =>
    cases h with
    | stops stops => exact ⟨_, stops.symm⟩
    | returns _ leads => exact leads.isPrefix

/-! ## Programs -/

/-- An invariant that every command keeps holds at the end of a run; when a run
stops in a command, what that command leaves holds. -/
theorem run_program {I : Objects → Kernel → Prop} {S : Kernel → Prop} {p : Program}
    (hidle : ∀ objects k, I objects k → k.requests = [])
    (hstep : ∀ c ∈ p, ∀ objects k objects' k', I objects k →
      Steps objects k c (some objects') k' → I objects' k')
    (hstop : ∀ c ∈ p, ∀ objects k k', I objects k → Steps objects k c none k' → S k')
    (h : I objects k) : (p.execute objects).wp (machine env) I S k := by
  induction p generalizing objects k with
  | nil => exact h
  | cons c p ih =>
    have hc : Steps objects k c _ _ := run_command env c (hidle objects k h)
    apply Prog.wp.bind
    unfold Prog.wp
    rcases hrun : (c.execute objects).run (machine env) k with ⟨_ | objects', k'⟩
    · rw [run, hrun] at hc
      exact hstop c List.mem_cons_self objects k k' h hc
    · rw [run, hrun] at hc
      apply ih
      · exact fun c' hc' => hstep c' (List.mem_cons_of_mem c hc')
      · exact fun c' hc' => hstop c' (List.mem_cons_of_mem c hc')
      · exact hstep c List.mem_cons_self objects k objects' k' h hc

/-- The run of a program from the start of the machine. -/
def start (env : Surroundings) (p : Program) : Option Objects × Kernel :=
  run env (p.execute ∅) {}

/-- The trace of a program, whether its run ends or stops. -/
def history (env : Surroundings) (p : Program) : List Event := (start env p).2.trace

theorem history_of_wp {I : Objects → Kernel → Prop} {S : Kernel → Prop} {p : Program}
    {P : List Event → Prop}
    (h : (p.execute ∅).wp (machine env) I S {})
    (hI : ∀ objects k, I objects k → P k.trace) (hS : ∀ k, S k → P k.trace) :
    P (history env p) := by
  unfold history start run
  rcases hrun : (p.execute ∅).run (machine env) {} with ⟨_ | objects, k⟩
  · exact hS k (h.of_stop hrun)
  · exact hI objects k (h.of_run hrun)

/-! ## Numbers -/

end Sequential

/-- The numbers that an event mentions have been given out. -/
def Event.Within (calls frames : Nat) : Event → Prop
  | .enter frame | .leave frame => frame < frames
  | .register reg dispatch _ => reg.token < calls ∧ dispatch.frame < frames
  | .capture reg npi _ => reg.token < calls ∧ npi.token < calls
  | .release reg | .deregister reg => reg.token < calls
  | .issue req | .complete req _ _ => ∀ npi, req.call.client = some npi → npi.token < calls
  | _ => True

theorem Event.Within.mono {calls frames calls' frames' : Nat} {e : Event}
    (h : e.Within calls frames) (hc : calls ≤ calls') (hf : frames ≤ frames') :
    e.Within calls' frames' := by
  cases e with
  | enter frame | leave frame => exact Nat.lt_of_lt_of_le h hf
  | register reg dispatch status =>
    exact ⟨Nat.lt_of_lt_of_le h.1 hc, Nat.lt_of_lt_of_le h.2 hf⟩
  | capture reg npi status => exact ⟨Nat.lt_of_lt_of_le h.1 hc, Nat.lt_of_lt_of_le h.2 hc⟩
  | release reg | deregister reg => exact Nat.lt_of_lt_of_le h hc
  | issue req | complete req status information =>
    exact fun npi hnpi => Nat.lt_of_lt_of_le (h npi hnpi) hc
  | readResult request | freeAddressInfo npi request => trivial

namespace Sequential

/-- Nothing in sight mentions a number that is still to come. -/
structure Aged (objects : Objects) (k : Kernel) : Prop where
  idle : k.requests = []
  trace : ∀ e ∈ k.trace, e.Within k.calls k.frames.next
  fields : ∀ id object, objects.lookup id = some object →
    object.fields.wskReg.token < k.calls ∧ object.fields.providNpi.token < k.calls

namespace Aged

variable {this : Socket} {method : Method} {call : WskCall} {fin : Final} {k₁ : Kernel}

theorem start : Aged ∅ {} where
  idle := rfl
  trace := by simp
  fields := by simp

theorem leads {m n : Nat} {s : List Event} (h : Aged objects k) (leads : Leads k m n s k')
    (hs : ∀ e ∈ s, e.Within k'.calls k'.frames.next) : Aged objects k' where
  idle := leads.idle
  trace := by
    intro e he
    rw [leads.trace, List.mem_append] at he
    obtain he | he := he
    · exact (h.trace e he).mono (by rw [leads.calls]; exact Nat.le_add_right _ _)
        (by rw [leads.frames]; exact Nat.le_add_right _ _)
    · exact hs e he
  fields := by
    intro id object hid
    obtain ⟨hreg, hnpi⟩ := h.fields id object hid
    rw [leads.calls]
    exact ⟨Nat.lt_add_right n hreg, Nat.lt_add_right n hnpi⟩

theorem initialised (h : Aged objects k) (init : Initialised k k₁) : Aged objects k₁ := by
  obtain ⟨_, _, _, _, leads⟩ := init
  apply h.leads leads
  simp [registering, Event.Within, nextRegistration, nextNpi, leads.calls, leads.frames]

theorem asked (h : Aged objects k) (hcall : ∀ npi, call.client = some npi → npi.token < k.calls)
    (asked : Asked k call fin k') : Aged objects k' := by
  apply h.leads asked
  have hclient : ∀ npi, call.client = some npi → npi.token < k.calls + 1 :=
    fun npi hnpi => Nat.lt_succ_of_lt (hcall npi hnpi)
  simpa [exchange, requestOf, Event.Within, asked.calls, asked.frames] using hclient

/-- The interface that `InitWsk` captured is old when the socket is created. -/
theorem asked_create {cls : SocketClass} (h : Aged objects k) (init : Initialised k k₁)
    (create : Asked k₁ (socketCall (nextNpi k) cls) fin k') : Aged objects k' := by
  apply (h.initialised init).asked _ create
  obtain ⟨_, _, _, _, leads⟩ := init
  cases cls with
  | listenerSocket => simp [socketCall, WskCall.client, nextNpi, leads.calls]
  | connectionSocket =>
    simp [socketCall, connectionSocketCall, WskCall.client, nextNpi, leads.calls]
  | datagramSocket => simp [socketCall, WskCall.client, nextNpi, leads.calls]

theorem constructs {cls : SocketClass} {id : Nat} {outcome : Except SocketException Socket}
    (h : Aged objects k) (hc : Constructs cls k (some outcome) k') :
    Aged (constructed objects cls id outcome) k' := by
  cases hc with
  | registerFails _ leads =>
    apply h.leads leads
    simp [registering, Event.Within, nextRegistration, leads.calls, leads.frames]
  | captureFails _ _ leads =>
    apply h.leads leads
    simp [registering, Event.Within, nextRegistration, nextNpi, leads.calls, leads.frames]
  | createFails init create _ => exact h.asked_create init create
  | bindFails init create _ bind _ =>
    exact (h.asked_create init create).asked (by simp [WskCall.client]) bind
  | returns init create _ bind _ =>
    have hk' : Aged objects k' :=
      (h.asked_create init create).asked (by simp [WskCall.client]) bind
    have hcalls : k'.calls = k.calls + 4 := by
      obtain ⟨_, _, _, _, leads⟩ := init
      rw [bind.calls, create.calls, leads.calls]
    refine ⟨hk'.idle, hk'.trace, ?_⟩
    intro id' object hid
    obtain ⟨rfl, rfl⟩ | ⟨_, hid⟩ := Objects.of_lookup_insert hid
    · simp [nextRegistration, nextNpi, hcalls]
    · exact hk'.fields id' object hid

theorem makes_client {call : WskCall} (makes : Makes this method call) : call.client = none := by
  cases method with
  | accept | disconnect => subst makes; rfl
  | connect adress => obtain ⟨_, rfl⟩ := makes; rfl
  | sendData data dataSize | receivData data dataSize => obtain ⟨_, _, rfl⟩ := makes; rfl
  | sendDatagram data adress => obtain ⟨_, _, _, rfl⟩ := makes; rfl
  | receivDatagram data dataSize => obtain ⟨_, _, _, _, _, rfl⟩ := makes; rfl

theorem before (h : Aged objects k) (hnpi : this.providNpi.token < k.calls)
    (before : Prelude this method k k₁) : Aged objects k₁ := by
  cases before with
  | none _ _ => exact h
  | resolves fin read _ leads =>
    apply h.leads leads
    have hlt : this.providNpi.token < k₁.calls := by
      rw [leads.calls]
      exact Nat.lt_succ_of_lt hnpi
    cases read <;>
      simp [resolving, requestOf, resolveCall, WskCall.client, Event.Within, leads.frames, hlt]

theorem invokes {outcome : Except SocketException NtStatus} (h : Aged objects k)
    (hnpi : this.providNpi.token < k.calls) (hi : Invokes this method k (some outcome) k') :
    Aged objects k' := by
  cases hi with
  | returns hbefore makes asked =>
    exact (h.before hnpi hbefore).asked (by simp [makes_client makes]) asked

theorem destroys {outcome : Unit} (h : Aged objects k) (hreg : this.wskReg.token < k.calls)
    (hd : Destroys this k (some outcome) k') : Aged objects k' := by
  cases hd with
  | returns fin leads =>
    apply h.leads leads
    have hlt : this.wskReg.token < k'.calls := by
      rw [leads.calls]
      exact Nat.lt_succ_of_lt hreg
    simp [exchange, requestOf, WskCall.client, Event.Within, leads.frames, hlt]

theorem steps {c : Command} (h : Aged objects k) (hs : Steps objects k c (some objects') k') :
    Aged objects' k' := by
  generalize ho : some objects' = o at hs
  cases hs with
  | skips _ => cases ho; exact h
  | @constructs cls id _ outcome _ hid hc =>
    cases outcome with
    | none => cases ho
    | some outcome => cases ho; exact h.constructs hc
  | @invokes _ _ object outcome _ hid _ hi =>
    cases outcome with
    | none => cases ho
    | some outcome => cases ho; exact h.invokes (h.fields _ _ hid).2 hi
  | @destroys id object outcome _ hid hd =>
    cases outcome with
    | none => cases ho
    | some outcome =>
      cases ho
      have hk' : Aged objects k' := h.destroys (h.fields _ _ hid).1 hd
      refine ⟨hk'.idle, hk'.trace, ?_⟩
      intro id' object' hid'
      exact hk'.fields id' object' (Objects.of_lookup_erase hid').2
  | @copyConstructs id source object hid hsource =>
    cases ho
    refine ⟨h.idle, h.trace, ?_⟩
    intro id' object' hid'
    obtain ⟨_, rfl⟩ | ⟨_, hid'⟩ := Objects.of_lookup_insert hid'
    · exact h.fields source object' hsource
    · exact h.fields id' object' hid'
  | @copyAssigns id source object object' hid hsource hcls =>
    cases ho
    refine ⟨h.idle, h.trace, ?_⟩
    intro id' object'' hid'
    obtain ⟨_, rfl⟩ | ⟨_, hid'⟩ := Objects.of_lookup_insert hid'
    · exact h.fields source object'' hsource
    · exact h.fields id' object'' hid'

end Aged

end Sequential

end WinShell
