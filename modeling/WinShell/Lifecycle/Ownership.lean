-- SUMMARY: Every live object owns its registration, its interface and its socket, and the provider interface is used in order.
import WinShell.Sequential.Programs

/-!
# Ownership

An object whose constructor returned owns one registration, one captured
interface and one open, bound socket, until its destructor runs. As long as no
object is copied, different objects own different things. The invariant makes
every provider call of a run a permitted one.
-/

namespace WinShell

open Effect Sockets Trace

namespace Sequential

variable {env : Surroundings} {k k' k₁ k₂ : Kernel} {objects objects' : Objects}
  {t s : List Event} {this : Socket} {call : WskCall} {fin : Final}
  {reg : WskRegistration} {npi : WskProviderNpi} {cls : SocketClass}

/-! ## Books -/

/-- The books of an object whose constructor has passed `InitWsk`. -/
structure Begun (t : List Event) (reg : WskRegistration) (npi : WskProviderNpi) : Prop where
  registered : Registered t reg
  captured : Captured t reg npi
  onlyNpi : ∀ npi', (reg, npi') ∈ Trace.captured t → npi' = npi
  noSocket : ∀ sock, (npi, sock) ∉ created t

/-- The books of an object whose socket exists. -/
structure Made (t : List Event) (this : Socket) : Prop where
  registered : Registered t this.wskReg
  captured : Captured t this.wskReg this.providNpi
  onlyNpi : ∀ npi, (this.wskReg, npi) ∈ Trace.captured t → npi = this.providNpi
  created : (this.providNpi, this.sock) ∈ created t
  onlySocket : ∀ sock, (this.providNpi, sock) ∈ Trace.created t → sock = this.sock
  notClosed : this.sock ∉ closed t

/-- The books of a live object. -/
structure Owned (t : List Event) (this : Socket) : Prop extends Made t this where
  bound : this.sock ∈ bound t

/-- The events end nothing that an object owns, and add nothing to what it owns. -/
structure Spares (s : List Event) (this : Socket) : Prop where
  deregistered : this.wskReg ∉ deregistered s
  released : this.wskReg ∉ released s
  captured : ∀ npi, (this.wskReg, npi) ∉ Trace.captured s
  created : ∀ sock, (this.providNpi, sock) ∉ Trace.created s
  closed : this.sock ∉ closed s

theorem Owned.append (h : Owned t this) (spares : Spares s this) : Owned (t ++ s) this where
  registered := by
    refine ⟨mem_collect_left h.registered.1, ?_⟩
    simp [h.registered.2, spares.deregistered]
  captured := by
    refine ⟨mem_collect_left h.captured.1, ?_⟩
    simp [h.captured.2, spares.released]
  onlyNpi := by
    intro npi hnpi
    rw [Trace.captured, collect_append, List.mem_append] at hnpi
    obtain hnpi | hnpi := hnpi
    · exact h.onlyNpi npi hnpi
    · exact absurd hnpi (spares.captured npi)
  created := mem_collect_left h.created
  onlySocket := by
    intro sock hsock
    rw [Trace.created, collect_append, List.mem_append] at hsock
    obtain hsock | hsock := hsock
    · exact h.onlySocket sock hsock
    · exact absurd hsock (spares.created sock)
  notClosed := by simp [h.notClosed, spares.closed]
  bound := mem_collect_left h.bound

/-! ## What the next call brings is new -/

theorem Aged.new_deregistered (h : Aged objects k) : nextRegistration k ∉ deregistered k.trace := by
  intro hmem
  obtain ⟨e, he, hreg⟩ := mem_collect.mp hmem
  have hwithin := h.trace e he
  cases e with
  | deregister reg =>
    simp only [Event.deregistered, Option.some.injEq] at hreg
    subst hreg
    exact Nat.lt_irrefl _ hwithin
  | _ => simp at hreg

theorem Aged.new_released (h : Aged objects k) : nextRegistration k ∉ released k.trace := by
  intro hmem
  obtain ⟨e, he, hreg⟩ := mem_collect.mp hmem
  have hwithin := h.trace e he
  cases e with
  | release reg =>
    simp only [Event.released, Option.some.injEq] at hreg
    subst hreg
    exact Nat.lt_irrefl _ hwithin
  | _ => simp at hreg

theorem Aged.new_captured (h : Aged objects k) (npi : WskProviderNpi) :
    (nextRegistration k, npi) ∉ captured k.trace := by
  intro hmem
  obtain ⟨e, he, hreg⟩ := mem_collect.mp hmem
  have hwithin := h.trace e he
  cases e with
  | capture reg npi status =>
    simp only [Event.captured] at hreg
    split at hreg
    · cases hreg
      exact Nat.lt_irrefl _ hwithin.1
    · cases hreg
  | _ => simp at hreg

theorem Aged.new_created (h : Aged objects k) (sock : PWskSocket) :
    (nextNpi k, sock) ∉ created k.trace := by
  intro hmem
  obtain ⟨e, he, hcreated⟩ := mem_collect.mp hmem
  have hwithin := h.trace e he
  cases e with
  | complete req status information =>
    obtain ⟨number, issuer, irp, call, completion⟩ := req
    cases call with
    | wskSocket client family type protocol flags =>
      simp only [Event.created] at hcreated
      split at hcreated
      · cases hcreated
        exact absurd (hwithin _ rfl) (by simp [nextNpi])
      · cases hcreated
    | _ => simp at hcreated
  | _ => simp at hcreated

/-! ## One exchange -/

/-- Entering a function changes nothing that the law looks at. -/
theorem permitted_enter {frame : Nat} {e : Event} :
    Permitted (t ++ [.enter frame]) e ↔ Permitted t e := by
  cases e <;> simp [Permitted, Registered, Captured, Open]

/-- A permitted request keeps a run in order. -/
theorem always_asked (h : Always Permitted k.trace) (asked : Asked k call fin k')
    (hp : Permitted k.trace (.issue (requestOf k call))) : Always Permitted k'.trace := by
  rw [asked.trace]
  apply h.append
  simp only [exchange, from_cons, from_nil, permitted_enter, hp, true_and, and_true]
  simp [Permitted]

theorem always_stopped (h : Always Permitted k.trace) (stops : Stopped k k') :
    Always Permitted k'.trace := by
  rw [stops]
  apply h.append
  simp [Permitted]

theorem always_initialised (h : Always Permitted k.trace) (aged : Aged objects k)
    (init : Initialised k k₁) : Always Permitted k₁.trace := by
  obtain ⟨registered, captured, hregistered, hcaptured, leads⟩ := init
  rw [leads.trace]
  apply h.append
  simp [registering, Permitted, Registered, hregistered, aged.new_deregistered]

theorem begun_of_initialised (aged : Aged objects k) (init : Initialised k k₁) :
    Begun k₁.trace (nextRegistration k) (nextNpi k) := by
  obtain ⟨registered, captured, hregistered, hcaptured, leads⟩ := init
  constructor
  · simp [leads.trace, registering, Registered, hregistered, aged.new_deregistered]
  · simp [leads.trace, registering, Captured, hcaptured, aged.new_released]
  · simp [leads.trace, registering, hcaptured, aged.new_captured]
  · simp [leads.trace, registering, aged.new_created]

/-- The three classes create their socket with `WskSocket`. -/
theorem socketCall_eq (npi : WskProviderNpi) (cls : SocketClass) :
    ∃ type protocol flags, socketCall npi cls = .wskSocket npi afInet type protocol flags := by
  cases cls <;> exact ⟨_, _, _, rfl⟩

theorem always_create (h : Always Permitted k.trace) (begun : Begun k.trace reg npi)
    (create : Asked k (socketCall npi cls) fin k') : Always Permitted k'.trace := by
  apply always_asked h create
  obtain ⟨type, protocol, flags, heq⟩ := socketCall_eq npi cls
  rw [heq]
  refine ⟨?_, by simp [requestOf, WskCall.socket]⟩
  intro npi' hnpi
  cases hnpi
  exact ⟨reg, begun.captured⟩

/-- The handle that `WskSocket` reports was not handed out before. -/
theorem fresh_of_create (hfresh : FreshHandles k'.trace)
    (create : Asked k (socketCall npi cls) fin k') (hs : ntSuccess fin.status = true) :
    fin.information ∉ handedOut k.trace := by
  obtain ⟨type, protocol, flags, heq⟩ := socketCall_eq npi cls
  rw [FreshHandles, create.trace, handedOut, collect_append, List.nodup_append] at hfresh
  intro hmem
  apply hfresh.2.2 _ hmem fin.information _ rfl
  simp [exchange, requestOf, heq, hs]

/-- A handle that was never handed out was never closed. -/
theorem not_closed_of_fresh {sock : PWskSocket} (h : Always Permitted t)
    (hsock : sock ∉ handedOut t) : sock ∉ closed t := by
  intro hclosed
  obtain ⟨npi, hcreated⟩ := created_of_closed h hclosed
  exact hsock (handedOut_of_created hcreated)

theorem made_of_create (begun : Begun k.trace reg npi)
    (create : Asked k (socketCall npi cls) fin k') (hs : ntSuccess fin.status = true)
    (hclosed : fin.information ∉ closed k.trace) :
    Made k'.trace ⟨fin.information, npi, reg⟩ := by
  obtain ⟨type, protocol, flags, heq⟩ := socketCall_eq npi cls
  obtain ⟨⟨hreg, hdereg⟩, ⟨hcap, hrel⟩, honly, hno⟩ := begun
  constructor
  · simp [create.trace, exchange, requestOf, heq, Registered, hreg, hdereg]
  · simp [create.trace, exchange, requestOf, heq, Captured, hcap, hrel]
  · simpa [create.trace, exchange, requestOf, heq] using honly
  · simp [create.trace, exchange, requestOf, heq, hs]
  · simp [create.trace, exchange, requestOf, heq, hs, hno]
  · simpa [create.trace, exchange, requestOf, heq] using hclosed

theorem always_bind {adress : SockAddr} {at' : StackRef} (h : Always Permitted k.trace)
    (made : Made k.trace this) (bind : Asked k (.wskBind this.sock adress at') fin k') :
    Always Permitted k'.trace := by
  apply always_asked h bind
  refine ⟨by simp [requestOf, WskCall.client], ?_⟩
  intro sock hsock
  cases hsock
  exact ⟨⟨⟨_, made.created⟩, made.notClosed⟩, by simp [requestOf, WskCall.needsBound]⟩

theorem owned_of_bind {adress : SockAddr} {at' : StackRef} (made : Made k.trace this)
    (bind : Asked k (.wskBind this.sock adress at') fin k') (hs : ntSuccess fin.status = true) :
    Owned k'.trace this := by
  obtain ⟨⟨hreg, hdereg⟩, ⟨hcap, hrel⟩, hnpi, hcreated, honly, hclosed⟩ := made
  refine ⟨⟨?_, ?_, ?_, ?_, ?_, ?_⟩, ?_⟩
  · simp [bind.trace, exchange, requestOf, Registered, hreg, hdereg]
  · simp [bind.trace, exchange, requestOf, Captured, hcap, hrel]
  · simpa [bind.trace, exchange, requestOf] using hnpi
  · simp [bind.trace, exchange, requestOf, hcreated]
  · simpa [bind.trace, exchange, requestOf] using honly
  · simpa [bind.trace, exchange, requestOf] using hclosed
  · simp [bind.trace, exchange, requestOf, hs]

/-! ## Objects -/

/-- The invariant of a run that copies no object. -/
structure Owners (objects : Objects) (k : Kernel) : Prop where
  always : Always Permitted k.trace
  owned : ∀ id object, objects.lookup id = some object → Owned k.trace object.fields
  apart : ∀ id id' object object', objects.lookup id = some object → objects.lookup id' = some object' →
    id ≠ id' → object.fields.wskReg ≠ object'.fields.wskReg ∧
      object.fields.sock ≠ object'.fields.sock

theorem Owners.leads {m n : Nat} (h : Owners objects k) (leads : Leads k m n s k')
    (always : Always Permitted k'.trace)
    (spares : ∀ id object, objects.lookup id = some object → Spares s object.fields) :
    Owners objects k' where
  always := always
  owned := by
    intro id object hid
    rw [leads.trace]
    exact (h.owned id object hid).append (spares id object hid)
  apart := h.apart

theorem Owners.initialised (h : Owners objects k) (aged : Aged objects k)
    (init : Initialised k k₁) : Owners objects k₁ := by
  have always : Always Permitted k₁.trace := always_initialised h.always aged init
  obtain ⟨registered, captured, hregistered, hcaptured, leads⟩ := init
  apply h.leads leads always
  intro id object hid
  have hreg : object.fields.wskReg ≠ nextRegistration k := by
    intro heq
    exact Nat.lt_irrefl _ (heq ▸ (aged.fields id object hid).1)
  constructor <;> simp [registering, hreg, hcaptured]

theorem Owners.create (h : Owners objects k) (begun : Begun k.trace reg npi)
    (hnpi : ∀ id object, objects.lookup id = some object → object.fields.providNpi ≠ npi)
    (create : Asked k (socketCall npi cls) fin k') : Owners objects k' := by
  apply h.leads create (always_create h.always begun create)
  intro id object hid
  obtain ⟨type, protocol, flags, heq⟩ := socketCall_eq npi cls
  cases hs : ntSuccess fin.status <;> constructor <;>
    simp [exchange, requestOf, heq, hs, hnpi id object hid]

theorem Owners.bind {adress : SockAddr} {at' : StackRef} (h : Owners objects k)
    (made : Made k.trace this) (bind : Asked k (.wskBind this.sock adress at') fin k') :
    Owners objects k' := by
  apply h.leads bind (always_bind h.always made bind)
  intro id object _
  constructor <;> simp [exchange, requestOf]

/-- An object that owns what nobody else owns joins the others. -/
theorem Owners.insert {id : Nat} {object : Object} (h : Owners objects k)
    (owned : Owned k.trace object.fields)
    (apart : ∀ id' object', objects.lookup id' = some object' →
      object.fields.wskReg ≠ object'.fields.wskReg ∧
        object.fields.sock ≠ object'.fields.sock) :
    Owners (objects.insert id object) k where
  always := h.always
  owned := by
    intro id' object' hid'
    obtain ⟨_, rfl⟩ | ⟨_, hid'⟩ := Objects.of_lookup_insert hid'
    · exact owned
    · exact h.owned id' object' hid'
  apart := by
    intro id₁ id₂ object₁ object₂ h₁ h₂ hne
    obtain ⟨hid₁, rfl⟩ | ⟨_, hold₁⟩ := Objects.of_lookup_insert h₁
    · obtain ⟨hid₂, _⟩ | ⟨_, hold₂⟩ := Objects.of_lookup_insert h₂
      · exact absurd (hid₁.trans hid₂.symm) hne
      · exact apart id₂ object₂ hold₂
    · obtain ⟨_, rfl⟩ | ⟨_, hold₂⟩ := Objects.of_lookup_insert h₂
      · obtain ⟨hreg, hsock⟩ := apart id₁ object₁ hold₁
        exact ⟨hreg.symm, hsock.symm⟩
      · exact h.apart id₁ id₂ object₁ object₂ hold₁ hold₂ hne

/-- What a constructor leaves behind when it stops, or returns. -/
theorem Owners.constructs {id : Nat} {o : Option (Except SocketException Socket)}
    (h : Owners objects k) (aged : Aged objects k) (hfresh : FreshHandles k'.trace)
    (hc : Constructs cls k o k') :
    Always Permitted k'.trace ∧
      ∀ outcome, o = some outcome → Owners (constructed objects cls id outcome) k' := by
  have hnpi : ∀ id object, objects.lookup id = some object →
      object.fields.providNpi ≠ nextNpi k := by
    intro id object hid heq
    have hlt : object.fields.providNpi.token < k.calls := (aged.fields id object hid).2
    rw [heq] at hlt
    exact Nat.lt_irrefl _ (Nat.lt_trans hlt (Nat.lt_succ_self _))
  cases hc with
  | registerFails failed leads =>
    have hk' : Owners objects k' := by
      apply h.leads leads
      · rw [leads.trace]
        apply h.always.append
        simp [registering, Permitted]
      · intro id object _
        constructor <;> simp [registering]
    exact ⟨hk'.always, fun outcome ho => by cases ho; exact hk'⟩
  | captureFails hregistered failed leads =>
    have hk' : Owners objects k' := by
      apply h.leads leads
      · rw [leads.trace]
        apply h.always.append
        simp [registering, Permitted, Registered, hregistered, failed, aged.new_deregistered,
          aged.new_captured]
      · intro id object hid
        have hreg : object.fields.wskReg ≠ nextRegistration k := by
          intro heq
          exact Nat.lt_irrefl _ (heq ▸ (aged.fields id object hid).1)
        constructor <;> simp [registering, failed, hreg]
    exact ⟨hk'.always, fun outcome ho => by cases ho; exact hk'⟩
  | createStops init stops =>
    exact ⟨always_stopped (h.initialised aged init).always stops, fun outcome ho => by cases ho⟩
  | createFails init create failed =>
    have hk' : Owners objects k' :=
      (h.initialised aged init).create (begun_of_initialised aged init) hnpi create
    exact ⟨hk'.always, fun outcome ho => by cases ho; exact hk'⟩
  | bindStops init create hcreated stops =>
    have hk₂ := (h.initialised aged init).create (begun_of_initialised aged init) hnpi create
    exact ⟨always_stopped hk₂.always stops, fun outcome ho => by cases ho⟩
  | @bindFails _ created _ _ _ k₁ k₂ _ init create hcreated bind failed =>
    have begun := begun_of_initialised aged init
    have hk₁ := h.initialised aged init
    have hk₂ := hk₁.create begun hnpi create
    have hnew := fresh_of_create (hfresh.of_isPrefix bind.isPrefix) create hcreated
    have made := made_of_create begun create hcreated (not_closed_of_fresh hk₁.always hnew)
    have hk' : Owners objects k' := hk₂.bind made bind
    exact ⟨hk'.always, fun outcome ho => by cases ho; exact hk'⟩
  | @returns created _ _ _ k₁ k₂ _ init create hcreated bind bound =>
    have begun := begun_of_initialised aged init
    have hk₁ := h.initialised aged init
    have hk₂ := hk₁.create begun hnpi create
    have hnew := fresh_of_create (hfresh.of_isPrefix bind.isPrefix) create hcreated
    have made := made_of_create begun create hcreated (not_closed_of_fresh hk₁.always hnew)
    have hk' : Owners objects k' := hk₂.bind made bind
    refine ⟨hk'.always, fun outcome ho => ?_⟩
    cases ho
    apply hk'.insert (owned_of_bind made bind bound)
    intro id' object' hid'
    constructor
    · intro heq
      exact Nat.lt_irrefl _ (heq ▸ (aged.fields id' object' hid').1)
    · intro heq
      change created.information = object'.fields.sock at heq
      rw [heq] at hnew
      exact hnew (handedOut_of_created (hk₁.owned id' object' hid').created)

/-! ## Methods -/

theorem makes_socket {method : Method} (makes : Makes this method call) :
    call.socket = some this.sock := by
  cases method with
  | accept | disconnect => subst makes; rfl
  | connect adress => obtain ⟨_, rfl⟩ := makes; rfl
  | sendData data dataSize | receivData data dataSize => obtain ⟨_, _, rfl⟩ := makes; rfl
  | sendDatagram data adress => obtain ⟨_, _, _, rfl⟩ := makes; rfl
  | receivDatagram data dataSize => obtain ⟨_, _, _, _, _, rfl⟩ := makes; rfl

/-- The request of a method neither ends nor adds to what anybody owns. -/
theorem spares_of_makes {method : Method} (makes : Makes this method call) (that : Socket)
    (frame : Nat) : Spares (exchange frame (requestOf k call) fin) that := by
  cases method with
  | accept | disconnect =>
    subst makes
    constructor <;> simp [exchange, requestOf]
  | connect adress =>
    obtain ⟨_, rfl⟩ := makes
    constructor <;> simp [exchange, requestOf]
  | sendData data dataSize | receivData data dataSize =>
    obtain ⟨_, _, rfl⟩ := makes
    constructor <;> simp [exchange, requestOf]
  | sendDatagram data adress =>
    obtain ⟨_, _, _, rfl⟩ := makes
    constructor <;> simp [exchange, requestOf]
  | receivDatagram data dataSize =>
    obtain ⟨_, _, _, _, _, rfl⟩ := makes
    constructor <;> simp [exchange, requestOf]

/-- Resolving goes through an interface that the object holds. -/
theorem Owners.before {id : Nat} {object : Object} {method : Method} (h : Owners objects k)
    (hid : objects.lookup id = some object) (before : Prelude object.fields method k k') :
    Owners objects k' := by
  cases before with
  | none _ _ => exact h
  | @resolves adress _ fin read _ leads =>
    have owned : Owned k.trace object.fields := h.owned id object hid
    apply h.leads leads
    · rw [leads.trace]
      apply h.always.append
      have hissue : Permitted k.trace
          (.issue (requestOf k (resolveCall k object.fields.providNpi adress))) := by
        refine ⟨?_, by simp [requestOf, resolveCall, WskCall.socket]⟩
        intro npi hnpi
        cases hnpi
        exact ⟨_, owned.captured⟩
      simp only [resolving, List.cons_append, List.nil_append, from_cons, permitted_enter, hissue,
        true_and]
      cases read <;> simp [Permitted]
    · intro id' object' _
      cases read <;> constructor <;> simp [resolving, requestOf, resolveCall]

theorem Owners.invokes {id : Nat} {object : Object} {method : Method}
    {o : Option (Except SocketException NtStatus)} (h : Owners objects k)
    (hid : objects.lookup id = some object) (hi : Invokes object.fields method k o k') :
    Always Permitted k'.trace ∧ (o ≠ none → Owners objects k') := by
  cases hi with
  | resolveStops stops => exact ⟨always_stopped h.always stops, fun ho => absurd rfl ho⟩
  | stops before stops =>
    exact ⟨always_stopped (h.before hid before).always stops, fun ho => absurd rfl ho⟩
  | @returns _ call _ k₁ _ before makes asked =>
    have hk₁ : Owners objects k₁ := h.before hid before
    have owned : Owned k₁.trace object.fields := hk₁.owned id object hid
    have always : Always Permitted k'.trace := by
      apply always_asked hk₁.always asked
      refine ⟨by simp [requestOf, Aged.makes_client makes], ?_⟩
      intro sock hsock
      rw [requestOf, makes_socket makes] at hsock
      cases hsock
      exact ⟨⟨⟨_, owned.created⟩, owned.notClosed⟩, fun _ => owned.bound⟩
    refine ⟨always, fun _ => ?_⟩
    apply hk₁.leads asked always
    intro id' object' _
    exact spares_of_makes makes object'.fields _

/-! ## Destructors -/

theorem Owners.destroys {id : Nat} {object : Object} {o : Option Unit} (h : Owners objects k)
    (hid : objects.lookup id = some object) (hd : Destroys object.fields k o k') :
    Always Permitted k'.trace ∧
      (o ≠ none → Owners (objects.erase id) k') := by
  have owned : Owned k.trace object.fields := h.owned id object hid
  cases hd with
  | stops stops => exact ⟨always_stopped h.always stops, fun ho => absurd rfl ho⟩
  | returns fin leads =>
    have always : Always Permitted k'.trace := by
      rw [leads.trace]
      apply h.always.append
      obtain ⟨⟨⟨hreg, hdereg⟩, ⟨hcap, hrel⟩, hnpi, hcreated, honly, hclosed⟩, hbound⟩ := owned
      have hissue : Permitted k.trace
          (.issue (requestOf k (.wskCloseSocket object.fields.sock))) := by
        refine ⟨by simp [requestOf, WskCall.client], ?_⟩
        intro sock hsock
        cases hsock
        exact ⟨⟨⟨_, hcreated⟩, hclosed⟩, by simp [requestOf, WskCall.needsBound]⟩
      simp only [exchange, List.cons_append, List.nil_append, from_cons, permitted_enter, hissue,
        true_and]
      refine ⟨trivial, trivial, trivial, ⟨⟨object.fields.providNpi, ?_⟩, ?_⟩, ⟨?_, ?_⟩, from_nil⟩
      · simp [Captured, requestOf, hcap, hrel]
      · -- The socket that was just closed is the only one of the interface.
        intro npi sock hnpi' hsock
        have hnpi'' : (object.fields.wskReg, npi) ∈ Trace.captured k.trace := by simpa using hnpi'
        have hsock' : (npi, sock) ∈ Trace.created k.trace := by simpa [requestOf] using hsock
        rw [hnpi npi hnpi''] at hsock'
        simp [requestOf, honly sock hsock']
      · simp [Registered, requestOf, hreg, hdereg]
      · simp [requestOf]
    refine ⟨always, fun _ => ⟨always, ?_, ?_⟩⟩
    · intro id' object' hid'
      obtain ⟨hne, hold⟩ := Objects.of_lookup_erase hid'
      obtain ⟨hreg, hsock⟩ := h.apart id' id object' object hold hid hne
      rw [leads.trace]
      apply (h.owned id' object' hold).append
      constructor <;> simp [exchange, requestOf, hreg, hsock]
    · intro id₁ id₂ object₁ object₂ h₁ h₂ hne
      exact h.apart id₁ id₂ object₁ object₂ (Objects.of_lookup_erase h₁).2
        (Objects.of_lookup_erase h₂).2 hne

/-! ## Runs -/

/-- A command that copies nothing keeps the invariant, and is in order. -/
theorem Owners.steps {c : Command} {o : Option Objects} (h : Owners objects k)
    (aged : Aged objects k) (hfresh : FreshHandles k'.trace) (hc : c.copies = false)
    (hs : Steps objects k c o k') :
    Always Permitted k'.trace ∧ ∀ objects', o = some objects' → Owners objects' k' := by
  cases hs with
  | skips _ => exact ⟨h.always, fun objects' ho => by cases ho; exact h⟩
  | constructs hid hconstructs =>
    obtain ⟨always, howners⟩ := h.constructs aged hfresh hconstructs
    refine ⟨always, fun objects' ho => ?_⟩
    obtain ⟨outcome, rfl, rfl⟩ := Option.map_eq_some_iff.mp ho
    exact howners outcome rfl
  | invokes hid hcls hinvokes =>
    obtain ⟨always, howners⟩ := h.invokes hid hinvokes
    refine ⟨always, fun objects' ho => ?_⟩
    obtain ⟨outcome, rfl, rfl⟩ := Option.map_eq_some_iff.mp ho
    exact howners (Option.some_ne_none outcome)
  | destroys hid hdestroys =>
    obtain ⟨always, howners⟩ := h.destroys hid hdestroys
    refine ⟨always, fun objects' ho => ?_⟩
    obtain ⟨outcome, rfl, rfl⟩ := Option.map_eq_some_iff.mp ho
    exact howners (Option.some_ne_none outcome)
  | copyConstructs hid hsource => simp [Command.copies] at hc
  | @copyAssigns id source object object' hid hsource hcls =>
    -- The only copy left is the assignment of an object to itself.
    refine ⟨h.always, fun objects' ho => ?_⟩
    cases ho
    have heq : id = source := by simpa [Command.copies] using hc
    subst heq
    have hback : ∀ id' object'', (objects.insert id object').lookup id' = some object'' →
        objects.lookup id' = some object'' := by
      intro id' object'' hid'
      obtain ⟨rfl, rfl⟩ | ⟨_, hold⟩ := Objects.of_lookup_insert hid'
      · exact hsource
      · exact hold
    refine ⟨h.always, fun id' object'' hid' => h.owned id' object'' (hback id' object'' hid'), ?_⟩
    intro id₁ id₂ object₁ object₂ h₁ h₂ hne
    exact h.apart id₁ id₂ object₁ object₂ (hback id₁ object₁ h₁) (hback id₂ object₂ h₂) hne

/-- Every provider call of a program that copies no object is permitted. -/
theorem always_permitted {p : Program} (hp : p.CopyFree) (hfresh : FreshHandles (history env p)) :
    Always Permitted (history env p) := by
  have hrun : (p.execute ∅).wp (machine env)
      (fun objects k => Aged objects k ∧ (FreshHandles k.trace → Owners objects k))
      (fun k => FreshHandles k.trace → Always Permitted k.trace) {} := by
    apply run_program
    · exact fun objects k h => h.1.idle
    · intro c hc objects k objects' k' h hs
      refine ⟨h.1.steps hs, fun hfresh => ?_⟩
      exact ((h.2 (hfresh.of_isPrefix hs.isPrefix)).steps h.1 hfresh (hp c hc) hs).2 objects' rfl
    · intro c hc objects k k' h hs hfresh
      exact ((h.2 (hfresh.of_isPrefix hs.isPrefix)).steps h.1 hfresh (hp c hc) hs).1
    · refine ⟨Aged.start, fun _ => ⟨Always.nil, ?_, ?_⟩⟩
      · simp
      · simp
  exact history_of_wp hrun (P := fun t => FreshHandles t → Always Permitted t)
    (fun objects k h hfresh => (h.2 hfresh).always) (fun k h => h) hfresh

end Sequential

end WinShell
