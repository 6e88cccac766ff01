-- SUMMARY: What a failed address resolution turns into: a read of the unset result, a request to the peer, no exception.
import WinShell.Lifecycle.Release

/-!
# Failed resolutions

`ConvertStringToAdress` has no status to return. A failure that the provider
reports at once is followed by a read through the unset `Result`; one that comes
later is returned as the zero address. `Connect` and the datagram `SendData` go
on with either.
-/

namespace WinShell

open Effect Sockets

/-- The requests that carry a resolved address to the peer. -/
def WskCall.isTraffic : WskCall → Bool
  | .wskConnect _ _ | .wskSendTo _ _ _ _ => true
  | _ => false

/-- No list is read in these events. -/
def Unread (s : List Event) : Prop := ∀ request, .readResult request ∉ s

/-- A call whose resolution ended in `failure` reads no list, makes no request to
the peer, and throws the failure. -/
structure ResolutionGuarded (failure : NtStatus) (s : List Event)
    (o : Option (Except SocketException NtStatus)) : Prop where
  unread : Unread s
  silent : ∀ req, .issue req ∈ s → req.call.isTraffic = false
  thrown : ∃ e, o = some (.error e) ∧ e.status = failure

namespace Sequential

variable {env : Surroundings} {k k' : Kernel} {this : Socket} {method : Method}
  {adress : Endpoint} {call : WskCall} {o : Option (Except SocketException NtStatus)}

/-- A resolution that fails leaves the list alone exactly when the provider
answered `STATUS_PENDING` first. -/
theorem run_failedResolution (npi : WskProviderNpi) (adress : Endpoint) (hq : k.requests = [])
    (ha : env.allocate k.allocs = true) (hfail : ntSuccess (env.respond k.calls).status = false) :
    ∃ resolved k' s, run env (Utils.convertStringToAdress npi adress) k = (some resolved, k') ∧
      k'.trace = k.trace ++ s ∧ (Unread s ↔ (env.respond k.calls).pending = true) := by
  rw [run_convertStringToAdress hq ha]
  cases hp : (env.respond k.calls).pending with
  | true =>
    have hl : (env.respond k.calls).failsLater = true := by simp [Response.failsLater, hp, hfail]
    rw [if_pos hl]
    refine ⟨_, _, _, rfl, rfl, ?_⟩
    simp [Unread]
  | false =>
    have hl : ¬(env.respond k.calls).failsLater = true := by simp [Response.failsLater, hp]
    rw [if_neg hl]
    refine ⟨_, _, _, rfl, rfl, ?_⟩
    simp [Unread]

theorem Makes.isTraffic (makes : Makes this method call) (hadress : endpoint method = some adress) :
    call.isTraffic = true := by
  cases method with
  | connect _ =>
    obtain ⟨_, rfl⟩ := makes
    rfl
  | sendDatagram _ _ =>
    obtain ⟨_, _, _, rfl⟩ := makes
    rfl
  | accept | sendData _ _ | receivData _ _ | disconnect | receivDatagram _ _ => cases hadress

theorem Prelude.exists_trace (before : Prelude this method k k') :
    ∃ s, k'.trace = k.trace ++ s := by
  obtain ⟨s, hs⟩ := before.isPrefix
  exact ⟨s, hs.symm⟩

/-- A method that resolves an endpoint goes on to its request whatever became of
the resolution, unless it stops for want of memory. -/
theorem Invokes.traffic (h : Invokes this method k o k') (hadress : endpoint method = some adress) :
    ∃ s, k'.trace = k.trace ++ s ∧
      (o = none ∨ ∃ req, .issue req ∈ s ∧ req.call.isTraffic = true) := by
  cases h with
  | resolveStops stops => exact ⟨_, stops, .inl rfl⟩
  | stops before stops =>
    obtain ⟨s, hs⟩ := before.exists_trace
    rw [Stopped, hs, List.append_assoc] at stops
    exact ⟨_, stops, .inl rfl⟩
  | @returns _ call fin k₁ _ before makes asked =>
    obtain ⟨s, hs⟩ := before.exists_trace
    have htrace := asked.trace
    rw [hs, List.append_assoc] at htrace
    refine ⟨_, htrace, .inr ⟨requestOf k₁ call, ?_, makes.isTraffic hadress⟩⟩
    exact List.mem_append_right s (by simp [exchange])

/-- However a resolution fails, neither `Connect` nor the datagram `SendData` is
guarded against it; the resolver itself reads the list exactly when the failure
was reported at once. -/
theorem failedResolution_unguarded (this : Socket) (hq : k.requests = [])
    (hadress : endpoint method = some adress) (ha : env.allocate k.allocs = true)
    (hfail : ntSuccess (env.respond k.calls).status = false) :
    (∃ resolved k' s,
      run env (Utils.convertStringToAdress this.providNpi adress) k = (some resolved, k') ∧
        k'.trace = k.trace ++ s ∧ (Unread s ↔ (env.respond k.calls).pending = true)) ∧
    ∃ s, (run env (method.invoke this) k).2.trace = k.trace ++ s ∧
      ¬ResolutionGuarded (env.respond k.calls).status s (run env (method.invoke this) k).1 := by
  refine ⟨run_failedResolution this.providNpi adress hq ha hfail, ?_⟩
  obtain ⟨s, hs, hnone | ⟨req, hissue, htraffic⟩⟩ :=
    (run_invoke env this method hq).traffic hadress
  · refine ⟨s, hs, fun guarded => ?_⟩
    obtain ⟨e, he, -⟩ := guarded.thrown
    rw [hnone] at he
    cases he
  · refine ⟨s, hs, fun guarded => ?_⟩
    rw [guarded.silent req hissue] at htraffic
    cases htraffic

/-! ## A name that does not resolve -/

/-- A provider that grants everything but resolves no name. -/
def nameless (pending : Bool) : Surroundings where
  respond n := ⟨⟨if n = 4 then statusInvalidParameter else statusSuccess, 2#64, []⟩, pending⟩
  allocate _ := true
  garbage _ := SockAddr.zero

/-- A connection socket, before it connects. -/
def connecting (pending : Bool) : Option Objects × Kernel :=
  start (nameless pending) [.construct .connectionSocket 0 storage]

/-- The socket of that object. -/
def unconnected : Socket := ⟨2#64, ⟨1⟩, ⟨0⟩⟩

/-- An endpoint whose name is the one letter `x`. -/
def nowhere : Endpoint := ⟨[120#16], [56#16, 48#16]⟩

/-- The attempt to connect it to that endpoint. -/
def connected (pending : Bool) : Option (Except SocketException NtStatus) × Kernel :=
  run (nameless pending) (Method.invoke unconnected (.connect nowhere)) (connecting pending).2

/-- The events of the attempt. -/
def attempt (pending : Bool) : List Event :=
  (connected pending).2.trace.drop (connecting pending).2.trace.length

theorem failedResolution_unguarded_connecting :
    (∃ resolved k' s,
      run (nameless true) (Utils.convertStringToAdress ⟨1⟩ nowhere) (connecting true).2 =
        (some resolved, k') ∧
        k'.trace = (connecting true).2.trace ++ s ∧ (Unread s ↔ true = true)) ∧
    ∃ s, (connected true).2.trace = (connecting true).2.trace ++ s ∧
      ¬ResolutionGuarded statusInvalidParameter s (connected true).1 :=
  @failedResolution_unguarded (nameless true) (connecting true).2 (.connect nowhere) nowhere
    unconnected rfl rfl rfl (by decide)

/-- When the name does not resolve, `Connect` connects and returns normally. When
the provider says so at once, the unset list is read as well. -/
theorem connecting_unguarded :
    ((connecting true).1.map fun objects => objects.lookup 0) =
      some (some ⟨.connectionSocket, unconnected⟩) ∧
    (connected true).2.trace = (connecting true).2.trace ++ attempt true ∧
    (connected true).1 = some (.ok statusSuccess) ∧
    ¬ResolutionGuarded statusInvalidParameter (attempt true) (connected true).1 ∧
    (connected false).2.trace = (connecting false).2.trace ++ attempt false ∧
    ¬Unread (attempt false) ∧
    ¬ResolutionGuarded statusInvalidParameter (attempt false) (connected false).1 := by
  have hok : ∀ pending, (connected pending).1 = some (.ok statusSuccess) := by
    intro pending
    cases pending <;> rfl
  have unguarded : ∀ pending,
      ¬ResolutionGuarded statusInvalidParameter (attempt pending) (connected pending).1 := by
    intro pending guarded
    obtain ⟨e, he, -⟩ := guarded.thrown
    rw [hok] at he
    cases he
  have hread : .readResult none ∈ attempt false := by decide +kernel
  exact ⟨rfl, by decide +kernel, hok true, unguarded true, by decide +kernel,
    fun unread => unread none hread, unguarded false⟩

end Sequential

end WinShell
