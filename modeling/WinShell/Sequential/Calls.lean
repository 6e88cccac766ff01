-- SUMMARY: Everything a call of a socket class can do, as seen from the provider interface.
import WinShell.Program
import WinShell.Sequential.Requests

/-!
# Calls of the socket classes

A constructor, a method or a destructor makes a few exchanges with the provider.
The relations of this module list all of its outcomes, with the events each
leaves, and a run of the call is one of them. A call without a value (`none`) has
stopped at a null pointer, and its last event is the entry of the function that
stopped.
-/

namespace WinShell

open Effect Sockets

namespace Sequential

variable {α β : Type} {env : Surroundings} {k k' : Kernel} {call : WskCall}

/-- From `k`, with `frames` function calls and `calls` provider calls, to `k'`,
where the provider owns no request. -/
structure Leads (k : Kernel) (frames calls : Nat) (events : List Event) (k' : Kernel) : Prop where
  idle : k'.requests = []
  frames : k'.frames.next = k.frames.next + frames
  calls : k'.calls = k.calls + calls
  trace : k'.trace = k.trace ++ events

/-! ## Requests -/

/-- The events of a function that makes one request. -/
def exchange (frame : Nat) (req : Request) (fin : Final) : List Event :=
  [.enter frame, .issue req, .complete req fin.status fin.information, .leave frame]

/-- The program makes one request, for `call`, and returns what `result` makes of
the answer, unless it stops for want of memory. -/
def Asks (env : Surroundings) (p : Win α) (k : Kernel) (call : WskCall)
    (result : Response → α) : Prop :=
  Stops env p k ∨
  ∃ k', run env p k = (some (result (env.respond k.calls)), k') ∧
    Leads k 1 1 (exchange k.frames.next (requestOf k call) (env.respond k.calls).toFinal) k'

/-- The program makes `count` pool allocations and one request, for `call`, and
returns what `result` makes of the answer. When the pool refuses an allocation,
it stops instead. -/
structure Answers (env : Surroundings) (p : Win α) (k : Kernel) (count : Nat) (call : WskCall)
    (result : Response → α) : Prop where
  served : env.Serves k.allocs count →
    ∃ k', run env p k = (some (result (env.respond k.calls)), k') ∧
      Leads k 1 1 (exchange k.frames.next (requestOf k call) (env.respond k.calls).toFinal) k' ∧
      k'.allocs = k.allocs + count
  refused : ¬env.Serves k.allocs count → Stops env p k

section Answers

variable {p : Win α} {result : Response → α} {count : Nat} {sock : PWskSocket} {data : PVoid}
  {dataSize : ULong}

theorem Asks.of_answers (h : Answers env p k count call result) : Asks env p k call result := by
  by_cases hs : env.Serves k.allocs count
  · obtain ⟨k', hrun, leads, -⟩ := h.served hs
    exact .inr ⟨k', hrun, leads⟩
  · exact .inl (h.refused hs)

theorem Answers.outcome (h : Answers env p k count call result) :
    (run env p k).1 =
      if env.Serves k.allocs count then some (result (env.respond k.calls)) else none := by
  by_cases hs : env.Serves k.allocs count
  · obtain ⟨k', hrun, -, -⟩ := h.served hs
    rw [hrun, if_pos hs]
  · obtain ⟨k', hrun, -⟩ := h.refused hs
    rw [hrun, if_neg hs]

theorem Answers.of_run (hq : k.requests = [])
    (hstop : ¬env.Serves k.allocs count → Stops env p k)
    (hrun : env.Serves k.allocs count → ∃ k₀, run env p k =
      (some (result (env.respond k.calls)),
        finished k₀ call (env.respond k.calls).toFinal) ∧
      k₀.requests = k.requests ∧ k₀.frames = k.frames ∧ k₀.calls = k.calls ∧
      k₀.irps = k.irps ∧ k₀.trace = k.trace ∧ k₀.allocs + 1 = k.allocs + count) :
    Answers env p k count call result where
  served := by
    intro hs
    obtain ⟨k₀, hp, hreqs, hframes, hcalls, hirps, htrace, hallocs⟩ := hrun hs
    refine ⟨_, hp, ?_, hallocs⟩
    constructor
    · exact hreqs.trans hq
    · simp [finished, hframes]
    · simp [finished, hcalls]
    · simp [finished, exchange, requestOf, completionFor, hframes, hcalls, hirps, htrace]
  refused := hstop

/-- A program with one allocation. -/
theorem Answers.of_run_one (hq : k.requests = [])
    (hstop : env.allocate k.allocs = false → Stops env p k)
    (hrun : env.allocate k.allocs = true → run env p k =
      (some (result (env.respond k.calls)), finished k call (env.respond k.calls).toFinal)) :
    Answers env p k 1 call result := by
  apply Answers.of_run hq
  · intro hs
    exact hstop (Surroundings.not_serves_one.mp hs)
  · intro hs
    exact ⟨k, hrun (Surroundings.serves_one.mp hs), rfl, rfl, rfl, rfl, rfl, rfl⟩

theorem answers_requestStatus {call : Nat → WskCall} (hq : k.requests = [])
    (hstore : (call k.frames.next).StoresIn k.frames.next) :
    Answers env (Utils.requestStatus call) k 1 (call k.frames.next) (·.status) := by
  apply Answers.of_run_one hq prepares_requestStatus.stops
  intro ha
  exact run_requestStatus hq ha hstore

theorem answers_closeSocket (hq : k.requests = []) :
    Answers env (Utils.closeSocket sock) k 1 (.wskCloseSocket sock) (fun _ => ()) := by
  apply Answers.of_run_one hq prepares_closeSocket.stops
  intro ha
  exact run_closeSocket hq ha

theorem answers_createSocket (hq : k.requests = []) (hstore : call.StoresIn k.frames.next) :
    Answers env (Utils.createSocket call sock) k 1 call
      (fun response => (response.status, createdHandle response sock)) := by
  apply Answers.of_run_one hq prepares_createSocket.stops
  intro ha
  exact run_createSocket hq ha hstore

theorem answers_createConnectionSocket {npi : WskProviderNpi} (hq : k.requests = []) :
    Answers env (Utils.createConnectionSocket npi sock) k 1 (connectionSocketCall npi)
      (fun response =>
        (response.status, if ntSuccess response.status then response.information else sock)) := by
  apply Answers.of_run_one hq prepares_createConnectionSocket.stops
  intro ha
  exact run_createConnectionSocket hq ha

theorem answers_sendData {call : Nat → WskBuf → WskCall} (hq : k.requests = [])
    (hstore : (call k.frames.next (bufferOf k dataSize)).StoresIn k.frames.next) :
    Answers env (Utils.sendData call data dataSize) k 2
      (call k.frames.next (bufferOf k dataSize)) (·.status) := by
  apply Answers.of_run hq
  · exact prepares_sendData.stops
  · intro ha
    obtain ⟨hi, hm⟩ := Surroundings.serves_two.mp ha
    refine ⟨_, run_sendData hq hi hm hstore, ?_⟩
    unfold transferred
    split <;> exact ⟨rfl, rfl, rfl, rfl, rfl, rfl⟩

theorem answers_getDataConnectionSocket (hq : k.requests = []) :
    Answers env (Utils.getDataConnectionSocket sock data dataSize) k 2
      (.wskReceive sock (bufferOf k dataSize) ⟨k.frames.next, .buffer⟩) (·.status) := by
  apply Answers.of_run hq
  · exact prepares_getDataConnectionSocket.stops
  · intro ha
    obtain ⟨hi, hm⟩ := Surroundings.serves_two.mp ha
    refine ⟨_, run_getDataConnectionSocket hq hi hm, ?_⟩
    unfold transferred
    split <;> exact ⟨rfl, rfl, rfl, rfl, rfl, rfl⟩

theorem answers_getDataDatagramSocket (hq : k.requests = []) :
    Answers env (Utils.getDataDatagramSocket sock data dataSize) k 2
      (receiveFromCall k sock dataSize) (·.status) := by
  apply Answers.of_run hq
  · exact prepares_getDataDatagramSocket.stops
  · intro ha
    obtain ⟨hi, hm⟩ := Surroundings.serves_two.mp ha
    exact ⟨_, run_getDataDatagramSocket hq hi hm, rfl, rfl, rfl, rfl, rfl, rfl⟩

end Answers

/-! ## Constructors -/

/-- The call by which a class creates its socket. -/
def socketCall (npi : WskProviderNpi) : SocketClass → WskCall
  | .listenerSocket => .wskSocket npi afInet sockStream ipprotoTcp wskFlagListenSocket
  | .connectionSocket => connectionSocketCall npi
  | .datagramSocket => .wskSocket npi afInet sockDgram ipprotoUdp wskFlagDatagramSocket

/-- A creator returns the final status, and after a success the new socket. -/
structure Creates (result : Response → NtStatus × PWskSocket) : Prop where
  status : ∀ response, (result response).1 = response.status
  handle : ∀ response, ntSuccess response.status = true →
    (result response).2 = response.information

theorem creates_createdHandle (sock : PWskSocket) :
    Creates fun response => (response.status, createdHandle response sock) where
  status _ := rfl
  handle response hs := by simp [createdHandle, Response.failsLater, hs]

theorem creates_connection (sock : PWskSocket) :
    Creates fun response =>
      (response.status, if ntSuccess response.status then response.information else sock) where
  status _ := rfl
  handle response hs := by simp [hs]

/-- The three constructors are one body over a creator and a binder. -/
theorem construct_eq (cls : SocketClass) (storage : Socket) :
    ∃ create bind texts, cls.construct storage = Sockets.construct create bind texts storage ∧
      (∀ env k npi sock, k.requests = [] →
        ∃ result, Creates result ∧ Asks env (create npi sock) k (socketCall npi cls) result) ∧
      ∀ env k sock, k.requests = [] → ∃ adress at',
        Asks env (bind sock) k (.wskBind sock adress at') (·.status) := by
  cases cls with
  | listenerSocket =>
    refine ⟨_, _, _, rfl, ?_, ?_⟩
    · intro env k npi sock hq
      exact ⟨_, creates_createdHandle sock, .of_answers (answers_createSocket hq trivial)⟩
    · intro env k sock hq
      exact ⟨_, _, .of_answers (answers_requestStatus hq trivial)⟩
  | connectionSocket =>
    refine ⟨_, _, _, rfl, ?_, ?_⟩
    · intro env k npi sock hq
      exact ⟨_, creates_connection sock, .of_answers (answers_createConnectionSocket hq)⟩
    · intro env k sock hq
      exact ⟨_, _, .of_answers (answers_requestStatus hq trivial)⟩
  | datagramSocket =>
    refine ⟨_, _, _, rfl, ?_, ?_⟩
    · intro env k npi sock hq
      exact ⟨_, creates_createdHandle sock, .of_answers (answers_createSocket hq trivial)⟩
    · intro env k sock hq
      exact ⟨_, _, .of_answers (answers_requestStatus hq trivial)⟩

/-- The events of an `InitWsk` whose `WskRegister` ends in `status`, up to there. -/
def registering (k : Kernel) (status : NtStatus) : List Event :=
  [.enter k.frames.next,
    .register (nextRegistration k) ⟨k.frames.next, .wskClientDispatch⟩ status]

/-- `InitWsk` succeeded. -/
inductive Initialised (k k' : Kernel) : Prop
  | intro (registered captured : NtStatus) (hregistered : ntSuccess registered = true)
      (hcaptured : ntSuccess captured = true)
      (leads : Leads k 1 2 (registering k registered ++
        [.capture (nextRegistration k) (nextNpi k) captured, .leave k.frames.next]) k')

theorem initialised_of_success (hq : k.requests = [])
    (hregistered : ntSuccess (env.respond k.calls).status = true)
    (hcaptured : ntSuccess (env.respond (k.calls + 1)).status = true) :
    Initialised k (passed k 2 (initEvents env k)) := by
  refine ⟨_, _, hregistered, hcaptured, ⟨hq, rfl, rfl, ?_⟩⟩
  simp [passed, initEvents, hregistered, hcaptured, registering]

theorem Initialised.idle (init : Initialised k k') : k'.requests = [] := by
  obtain ⟨_, _, _, _, leads⟩ := init
  exact leads.idle

/-- A request for `call` ended with `fin`. -/
abbrev Asked (k : Kernel) (call : WskCall) (fin : Final) (k' : Kernel) : Prop :=
  Leads k 1 1 (exchange k.frames.next (requestOf k call) fin) k'

/-- The function that is called from `k` stops. -/
abbrev Stopped (k k' : Kernel) : Prop := k'.trace = k.trace ++ [.enter k.frames.next]

/-- The outcomes of a constructor. -/
inductive Constructs (cls : SocketClass) (k : Kernel) :
    Option (Except SocketException Socket) → Kernel → Prop
  | registerFails {text : String} {status : NtStatus} {k' : Kernel} (failed : ntSuccess status = false)
      (leads : Leads k 1 1 (registering k status ++ [.leave k.frames.next]) k') :
      Constructs cls k (some (.error ⟨text, status⟩)) k'
  | captureFails {text : String} {registered status : NtStatus} {k' : Kernel}
      (hregistered : ntSuccess registered = true)
      (failed : ntSuccess status = false)
      (leads : Leads k 1 2 (registering k registered ++
        [.capture (nextRegistration k) (nextNpi k) status, .deregister (nextRegistration k),
          .leave k.frames.next]) k') :
      Constructs cls k (some (.error ⟨text, status⟩)) k'
  | createStops {k₁ k' : Kernel} (init : Initialised k k₁) (stops : Stopped k₁ k') :
      Constructs cls k none k'
  | createFails {text : String} {fin : Final} {k₁ k' : Kernel} (init : Initialised k k₁)
      (create : Asked k₁ (socketCall (nextNpi k) cls) fin k')
      (failed : ntSuccess fin.status = false) :
      Constructs cls k (some (.error ⟨text, fin.status⟩)) k'
  | bindStops {created : Final} {k₁ k₂ k' : Kernel} (init : Initialised k k₁)
      (create : Asked k₁ (socketCall (nextNpi k) cls) created k₂)
      (hcreated : ntSuccess created.status = true) (stops : Stopped k₂ k') :
      Constructs cls k none k'
  | bindFails {text : String} {created fin : Final} {adress : SockAddr} {at' : StackRef}
      {k₁ k₂ k' : Kernel} (init : Initialised k k₁)
      (create : Asked k₁ (socketCall (nextNpi k) cls) created k₂)
      (hcreated : ntSuccess created.status = true)
      (bind : Asked k₂ (.wskBind created.information adress at') fin k')
      (failed : ntSuccess fin.status = false) :
      Constructs cls k (some (.error ⟨text, fin.status⟩)) k'
  | returns {created fin : Final} {adress : SockAddr} {at' : StackRef} {k₁ k₂ k' : Kernel}
      (init : Initialised k k₁)
      (create : Asked k₁ (socketCall (nextNpi k) cls) created k₂)
      (hcreated : ntSuccess created.status = true)
      (bind : Asked k₂ (.wskBind created.information adress at') fin k')
      (bound : ntSuccess fin.status = true) :
      Constructs cls k
        (some (.ok ⟨created.information, nextNpi k, nextRegistration k⟩)) k'

theorem run_construct (env : Surroundings) (cls : SocketClass) (storage : Socket) (hq : k.requests = []) :
    Constructs cls k (run env (cls.construct storage) k).1
      (run env (cls.construct storage) k).2 := by
  obtain ⟨create, bind, texts, heq, hcreate, hbind⟩ := construct_eq cls storage
  rw [heq]
  unfold Sockets.construct
  rw [run_bind, run_initWsk]
  by_cases hr : ntSuccess (env.respond k.calls).status = true
  swap
  · -- `WskRegister` fails.
    have hf : ntSuccess (env.respond k.calls).status = false := by simpa using hr
    simp only [hf, Bool.not_false, if_true]
    refine .registerFails hf ⟨hq, rfl, rfl, ?_⟩
    simp [passed, initEvents, hf, registering]
  by_cases hc : ntSuccess (env.respond (k.calls + 1)).status = true
  swap
  · -- `WskCaptureProviderNPI` fails.
    have hf : ntSuccess (env.respond (k.calls + 1)).status = false := by simpa using hc
    simp only [hr, hf, Bool.not_true, Bool.not_false, Bool.false_eq_true, if_true, if_false]
    refine .captureFails hr hf ⟨hq, rfl, rfl, ?_⟩
    simp [passed, initEvents, hr, hf, registering]
  have hinit : Initialised k (passed k 2 (initEvents env k)) := initialised_of_success hq hr hc
  simp only [hr, hc, Bool.not_true, Bool.false_eq_true, if_false]
  generalize passed k 2 (initEvents env k) = k₁ at hinit ⊢
  obtain ⟨result, hresult, hstop | ⟨k₂, hrun, hasked⟩⟩ :=
    hcreate env k₁ (nextNpi k) storage.sock hinit.idle
  · obtain ⟨k', hrun, htrace⟩ := hstop
    rw [run_bind, hrun]
    exact .createStops hinit htrace
  rw [run_bind, hrun]
  simp only [hresult.status]
  by_cases hs : ntSuccess (env.respond k₁.calls).status = true
  swap
  · simp only [hs]
    exact .createFails hinit hasked (by simpa using hs)
  simp only [hs, Bool.not_true, Bool.false_eq_true, if_false, hresult.handle _ hs]
  obtain ⟨adress, at', hstop | ⟨k₃, hrun', hbound⟩⟩ :=
    hbind env k₂ (env.respond k₁.calls).information hasked.idle
  · obtain ⟨k', hrun', htrace⟩ := hstop
    rw [run_bind, hrun']
    exact .bindStops hinit hasked hs htrace
  rw [run_bind, hrun']
  by_cases hb : ntSuccess (env.respond k₂.calls).status = true
  · simp only [hb]
    exact .returns hinit hasked hs hbound hb
  · simp only [hb]
    exact .bindFails hinit hasked hs hbound (by simpa using hb)

/-! ## Methods -/

/-- The endpoint that a method resolves first. -/
def endpoint : Method → Option Endpoint
  | .connect adress | .sendDatagram _ adress => some adress
  | _ => none

/-- The provider calls that a method ends in. -/
def Makes (this : Socket) : Method → WskCall → Prop
  | .accept, call => call = .wskAccept this.sock
  | .connect _, call => ∃ adress, call = .wskConnect this.sock adress
  | .sendData _ _, call => ∃ buffer at', call = .wskSend this.sock buffer at'
  | .receivData _ _, call => ∃ buffer at', call = .wskReceive this.sock buffer at'
  | .disconnect, call => call = .wskDisconnect this.sock
  | .sendDatagram _ _, call => ∃ buffer at' adress, call = .wskSendTo this.sock buffer at' adress
  | .receivDatagram _ _, call => ∃ buffer at' adress adressAt received,
      call = .wskReceiveFrom this.sock buffer at' adress adressAt received

/-- The events of a resolution, with the read through `Result` that follows it. -/
def resolving (k : Kernel) (npi : WskProviderNpi) (adress : Endpoint) (fin : Final)
    (read : Option (Option Nat)) : List Event :=
  [.enter k.frames.next, .issue (requestOf k (resolveCall k npi adress)),
    .complete (requestOf k (resolveCall k npi adress)) fin.status fin.information] ++
  read.toList.map Event.readResult ++ [.leave k.frames.next]

/-- What a method does before its request. -/
inductive Prelude (this : Socket) (method : Method) (k : Kernel) : Kernel → Prop
  | none (h : endpoint method = none) (hq : k.requests = []) : Prelude this method k k
  | resolves {adress : Endpoint} {k' : Kernel} (fin : Final) (read : Option (Option Nat))
      (h : endpoint method = some adress)
      (leads : Leads k 1 1 (resolving k this.providNpi adress fin read) k') :
      Prelude this method k k'

theorem Prelude.idle {this : Socket} {method : Method} (h : Prelude this method k k') :
    k'.requests = [] := by
  cases h with
  | none _ hq => exact hq
  | resolves _ _ _ leads => exact leads.idle

/-- The outcomes of a method. -/
inductive Invokes (this : Socket) (method : Method) (k : Kernel) :
    Option (Except SocketException NtStatus) → Kernel → Prop
  | resolveStops {k' : Kernel} (stops : Stopped k k') : Invokes this method k none k'
  | stops {k₁ k' : Kernel} (before : Prelude this method k k₁) (stops : Stopped k₁ k') :
      Invokes this method k none k'
  | returns {text : String} {call : WskCall} {fin : Final} {k₁ k' : Kernel}
      (before : Prelude this method k k₁) (makes : Makes this method call)
      (asked : Asked k₁ call fin k') :
      Invokes this method k (some (throwOnFailure text fin.status)) k'

/-- A method that makes its request and throws on a failure. -/
theorem invokes_of_asks {this : Socket} {method : Method} {p : Win NtStatus} {text : String}
    (before : Prelude this method k k₁) (makes : Makes this method call)
    (asks : Asks env p k₁ call (·.status)) :
    Invokes this method k (run env (throwOnFailure text <$> p) k₁).1
      (run env (throwOnFailure text <$> p) k₁).2 := by
  rw [map_eq_pure_bind, run_bind]
  obtain ⟨k', hrun, htrace⟩ | ⟨k', hrun, hasked⟩ := asks
  · rw [hrun]
    exact .stops before htrace
  · rw [hrun]
    exact .returns before makes hasked

/-- A resolution that gets its IRP is what the method does before its request. -/
theorem prelude_of_resolves {this : Socket} {method : Method} {adress : Endpoint}
    (hq : k.requests = []) (hadress : endpoint method = some adress)
    (ha : env.allocate k.allocs = true) :
    ∃ a k₁, run env (Utils.convertStringToAdress this.providNpi adress) k = (some a, k₁) ∧
      Prelude this method k k₁ := by
  rw [run_convertStringToAdress hq ha]
  by_cases hl : (env.respond k.calls).failsLater = true
  · rw [if_pos hl]
    refine ⟨_, _, rfl, .resolves (env.respond k.calls).toFinal none hadress ⟨hq, rfl, rfl, ?_⟩⟩
    simp [finished, resolving]
  · let list := (resolveCall k this.providNpi adress).stored k.calls (env.respond k.calls).toFinal
    rw [if_neg hl]
    refine ⟨_, _, rfl, .resolves (env.respond k.calls).toFinal
      (some (list.map AddrInfoList.request)) hadress ⟨hq, rfl, rfl, ?_⟩⟩
    simp [resolved, resolving, list]

/-- A method that resolves an endpoint before it makes its request. -/
theorem invokes_of_resolves {this : Socket} {method : Method} {adress : Endpoint}
    {f : SockAddr → Win NtStatus} {text : String} (hq : k.requests = [])
    (hadress : endpoint method = some adress)
    (asks : ∀ resolved k₁, k₁.requests = [] →
      ∃ call, Makes this method call ∧ Asks env (f resolved) k₁ call (·.status)) :
    Invokes this method k
      (run env (Utils.convertStringToAdress this.providNpi adress >>= fun resolved =>
        throwOnFailure text <$> f resolved) k).1
      (run env (Utils.convertStringToAdress this.providNpi adress >>= fun resolved =>
        throwOnFailure text <$> f resolved) k).2 := by
  rw [run_bind]
  by_cases ha : env.allocate k.allocs = true
  · obtain ⟨a, k₁, hrun, before⟩ := @prelude_of_resolves env k this method adress hq hadress ha
    obtain ⟨call, makes, hasks⟩ := asks a k₁ before.idle
    rw [hrun]
    exact invokes_of_asks before makes hasks
  · obtain ⟨k', hrun, htrace⟩ : Stops env (Utils.convertStringToAdress this.providNpi adress) k :=
      prepares_convertStringToAdress.stops (by simpa using ha)
    rw [hrun]
    exact .resolveStops htrace

theorem run_invoke (env : Surroundings) (this : Socket) (method : Method) (hq : k.requests = []) :
    Invokes this method k (run env (method.invoke this) k).1
      (run env (method.invoke this) k).2 := by
  cases method with
  | accept =>
    exact invokes_of_asks (.none rfl hq) rfl (.of_answers (answers_requestStatus hq trivial))
  | connect adress =>
    refine invokes_of_resolves hq rfl fun resolved k₁ hq₁ => ?_
    exact ⟨_, ⟨_, rfl⟩, .of_answers (answers_requestStatus hq₁ trivial)⟩
  | sendData data dataSize =>
    exact invokes_of_asks (.none rfl hq) ⟨_, _, rfl⟩ (.of_answers (answers_sendData hq trivial))
  | receivData data dataSize =>
    exact invokes_of_asks (.none rfl hq) ⟨_, _, rfl⟩
      (.of_answers (answers_getDataConnectionSocket hq))
  | disconnect =>
    exact invokes_of_asks (.none rfl hq) rfl (.of_answers (answers_requestStatus hq trivial))
  | sendDatagram data adress =>
    refine invokes_of_resolves hq rfl fun resolved k₁ hq₁ => ?_
    exact ⟨_, ⟨_, _, _, rfl⟩, .of_answers (answers_sendData hq₁ trivial)⟩
  | receivDatagram data dataSize =>
    exact invokes_of_asks (.none rfl hq) ⟨_, _, _, _, _, rfl⟩
      (.of_answers (answers_getDataDatagramSocket hq))

/-! ## Outcomes of methods -/

/-- The pool allocations that a method makes, when none of them fails. -/
def allocations : Method → Nat
  | .accept | .disconnect => 1
  | .connect _ | .sendData _ _ | .receivData _ _ | .receivDatagram _ _ => 2
  | .sendDatagram _ _ => 3

/-- The provider calls that a method makes before its own request. -/
def resolutions (method : Method) : Nat := if (endpoint method).isSome then 1 else 0

theorem outcome_map {p : Win NtStatus} {count : Nat} (text : String)
    (answers : Answers env p k count call (·.status)) :
    (run env (throwOnFailure text <$> p) k).1 =
      if env.Serves k.allocs count then some (throwOnFailure text (env.respond k.calls).status)
      else none := by
  have hmap : (run env (throwOnFailure text <$> p) k).1 =
      (run env p k).1.map (throwOnFailure text) := by
    rw [map_eq_pure_bind, run_bind]
    rcases run env p k with ⟨_ | status, k'⟩ <;> rfl
  rw [hmap, answers.outcome]
  split <;> rfl

theorem outcome_resolve {npi : WskProviderNpi} {adress : Endpoint} {f : SockAddr → Win NtStatus}
    {count : Nat} (text : String) (hq : k.requests = [])
    (answers : ∀ a k', k'.requests = [] → ∃ call, Answers env (f a) k' count call (·.status)) :
    (run env (Utils.convertStringToAdress npi adress >>= fun a => throwOnFailure text <$> f a) k).1 =
      if env.Serves k.allocs (1 + count) then
        some (throwOnFailure text (env.respond (k.calls + 1)).status)
      else none := by
  rw [run_bind]
  by_cases hs : env.Serves k.allocs 1
  · obtain ⟨k', hrun, hidle, hcalls, hallocs⟩ := resolves_of_serves npi adress hq hs
    obtain ⟨call, hanswers⟩ := answers (handedAddress env k) k' hidle
    rw [hrun]
    simp only [outcome_map text hanswers, hcalls, hallocs, hs.add_iff]
  · obtain ⟨k', hrun, -⟩ : Stops env (Utils.convertStringToAdress npi adress) k :=
      prepares_convertStringToAdress.stops (Surroundings.not_serves_one.mp hs)
    rw [hrun, if_neg fun h => hs h.left]

/-- A method throws or returns what the final status of its own request says,
unless the pool refuses one of its allocations. -/
theorem outcome_invoke (this : Socket) (method : Method) (hq : k.requests = []) :
    ∃ text, (run env (method.invoke this) k).1 =
      if env.Serves k.allocs (allocations method) then
        some (throwOnFailure text (env.respond (k.calls + resolutions method)).status)
      else none := by
  cases method with
  | accept => exact ⟨_, outcome_map _ (answers_requestStatus hq trivial)⟩
  | connect adress =>
    have hconnect : ∀ a k', k'.requests = [] → ∃ call,
        Answers env (Utils.connectConnectionSocket this.sock a) k' 1 call (·.status) :=
      fun a k' hq' => ⟨_, answers_requestStatus hq' trivial⟩
    exact ⟨_, outcome_resolve _ hq hconnect⟩
  | sendData data dataSize => exact ⟨_, outcome_map _ (answers_sendData hq trivial)⟩
  | receivData data dataSize => exact ⟨_, outcome_map _ (answers_getDataConnectionSocket hq)⟩
  | disconnect => exact ⟨_, outcome_map _ (answers_requestStatus hq trivial)⟩
  | sendDatagram data adress =>
    have hsend : ∀ a k', k'.requests = [] → ∃ call,
        Answers env (Utils.sendDataDatagramSocket this.sock data DatagramSocket.sizeofData a) k' 2
          call (·.status) :=
      fun a k' hq' => ⟨_, answers_sendData hq' trivial⟩
    exact ⟨_, outcome_resolve _ hq hsend⟩
  | receivDatagram data dataSize => exact ⟨_, outcome_map _ (answers_getDataDatagramSocket hq)⟩

/-! ## Destructors -/

/-- The outcomes of a destructor. -/
inductive Destroys (this : Socket) (k : Kernel) : Option Unit → Kernel → Prop
  | stops {k' : Kernel} (stops : Stopped k k') : Destroys this k none k'
  | returns {k' : Kernel} (fin : Final)
      (leads : Leads k 1 1
        (exchange k.frames.next (requestOf k (.wskCloseSocket this.sock)) fin ++
          [.release this.wskReg, .deregister this.wskReg]) k') :
      Destroys this k (some ()) k'

theorem run_destroy (env : Surroundings) (cls : SocketClass) (this : Socket) (hq : k.requests = []) :
    Destroys this k (run env (cls.destroy this) k).1 (run env (cls.destroy this) k).2 := by
  have heq : cls.destroy this = Sockets.destroy this := by cases cls <;> rfl
  rw [heq, Sockets.destroy, run_bind]
  have hasks : Asks env (Utils.closeSocket this.sock) k (.wskCloseSocket this.sock) _ :=
    .of_answers (answers_closeSocket hq)
  obtain ⟨k', hrun, htrace⟩ | ⟨k', hrun, hasked⟩ := hasks
  · rw [hrun]
    exact .stops htrace
  · rw [hrun]
    simp only [run_deregisterWsk]
    refine .returns (env.respond k.calls).toFinal ⟨hasked.idle, hasked.frames, hasked.calls, ?_⟩
    rw [← List.append_assoc, ← hasked.trace]

end Sequential

end WinShell
