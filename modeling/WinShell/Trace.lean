-- SUMMARY: What the provider has on its books after a trace, and the laws of its interface.
import WinShell.Effect.History
import WinShell.Wsk

/-!
# The provider's books

What a trace says about registrations, captured interfaces and sockets. A
registration is on the books from a successful `WskRegister` to its
`WskDeregister`, an interface from its capture to its release, a socket from the
success of the request that created it to the request that closes it.

`Permitted` is the law of the interface: which call may follow which.
-/

namespace WinShell

open Effect

/-! ## Calls by what they need -/

namespace WskCall

/-- The provider interface that a call goes through. -/
def client : WskCall → Option WskProviderNpi
  | wskGetAddressInfo npi _ _ _ _ _ | wskSocket npi _ _ _ _ => some npi
  | _ => none

/-- The socket that a call acts on. -/
def socket : WskCall → Option PWskSocket
  | wskGetAddressInfo _ _ _ _ _ _ | wskSocket _ _ _ _ _ => none
  | wskCloseSocket sock | wskBind sock _ _ | wskConnect sock _ | wskDisconnect sock
  | wskSend sock _ _ | wskReceive sock _ _ | wskSendTo sock _ _ _
  | wskReceiveFrom sock _ _ _ _ _ | wskAccept sock => some sock

/-- The calls that the methods make on their socket: it has to be bound. -/
def needsBound : WskCall → Bool
  | wskGetAddressInfo _ _ _ _ _ _ | wskSocket _ _ _ _ _ | wskCloseSocket _ | wskBind _ _ _ => false
  | _ => true

end WskCall

/-! ## Events by what they contribute -/

namespace Event

@[simp] def registered : Event → Option WskRegistration
  | register reg _ status => if ntSuccess status then some reg else none
  | _ => none

@[simp] def deregistered : Event → Option WskRegistration
  | deregister reg => some reg
  | _ => none

@[simp] def captured : Event → Option (WskRegistration × WskProviderNpi)
  | capture reg npi status => if ntSuccess status then some (reg, npi) else none
  | _ => none

@[simp] def released : Event → Option WskRegistration
  | release reg => some reg
  | _ => none

/-- A socket that `WskSocket` created, with the interface it went through. -/
@[simp] def created : Event → Option (WskProviderNpi × PWskSocket)
  | complete ⟨_, _, _, .wskSocket npi _ _ _ _, _⟩ status information =>
    if ntSuccess status then some (npi, information) else none
  | _ => none

/-- A socket that `WskAccept` created, with the listener it was accepted on. -/
@[simp] def accepted : Event → Option (PWskSocket × PWskSocket)
  | complete ⟨_, _, _, .wskAccept sock, _⟩ status information =>
    if ntSuccess status then some (sock, information) else none
  | _ => none

@[simp] def bound : Event → Option PWskSocket
  | complete ⟨_, _, _, .wskBind sock _ _, _⟩ status _ =>
    if ntSuccess status then some sock else none
  | _ => none

@[simp] def closed : Event → Option PWskSocket
  | issue ⟨_, _, _, .wskCloseSocket sock, _⟩ => some sock
  | _ => none

/-- A socket that the provider handed out, by either call. -/
@[simp] def handedOut : Event → Option PWskSocket
  | complete ⟨_, _, _, .wskSocket _ _ _ _ _, _⟩ status information
  | complete ⟨_, _, _, .wskAccept _, _⟩ status information =>
    if ntSuccess status then some information else none
  | _ => none

/-- A list that a resolution handed out, named by its request. -/
@[simp] def listed : Event → Option Nat
  | complete ⟨number, _, _, .wskGetAddressInfo _ _ _ _ _ _, _⟩ status _ =>
    if ntSuccess status then some number else none
  | _ => none

@[simp] def listFreed : Event → Option Nat
  | freeAddressInfo _ request => some request
  | _ => none

@[simp] def entered : Event → Option Nat
  | enter frame => some frame
  | _ => none

@[simp] def left : Event → Option Nat
  | leave frame => some frame
  | _ => none

end Event

namespace Event

variable {e : Event} {npi : WskProviderNpi} {listener sock : PWskSocket}

theorem handedOut_of_created (h : e.created = some (npi, sock)) : e.handedOut = some sock := by
  cases e with
  | complete req status information =>
    obtain ⟨number, issuer, irp, call, completion⟩ := req
    cases call with
    | wskSocket client family type protocol flags =>
      cases hs : ntSuccess status with
      | true => simpa [hs] using congrArg (Option.map Prod.snd) h
      | false => simp [hs] at h
    | _ => simp at h
  | _ => simp at h

theorem handedOut_of_accepted (h : e.accepted = some (listener, sock)) :
    e.handedOut = some sock := by
  cases e with
  | complete req status information =>
    obtain ⟨number, issuer, irp, call, completion⟩ := req
    cases call with
    | wskAccept sock' =>
      cases hs : ntSuccess status with
      | true => simpa [hs] using congrArg (Option.map Prod.snd) h
      | false => simp [hs] at h
    | _ => simp at h
  | _ => simp at h

/-- No event is both a creation and an acceptance. -/
theorem created_of_accepted (h : e.accepted = some (listener, sock)) : e.created = none := by
  cases e with
  | complete req status information =>
    obtain ⟨number, issuer, irp, call, completion⟩ := req
    cases call with
    | wskSocket client family type protocol flags => simp at h
    | _ => rfl
  | _ => rfl

end Event

/-! ## The books -/

namespace Trace

variable {t s : List Event} {reg : WskRegistration} {npi : WskProviderNpi} {sock : PWskSocket}

abbrev registered (t : List Event) : List WskRegistration := collect Event.registered t
abbrev deregistered (t : List Event) : List WskRegistration := collect Event.deregistered t
abbrev captured (t : List Event) : List (WskRegistration × WskProviderNpi) :=
  collect Event.captured t
abbrev released (t : List Event) : List WskRegistration := collect Event.released t
abbrev created (t : List Event) : List (WskProviderNpi × PWskSocket) := collect Event.created t
abbrev accepted (t : List Event) : List (PWskSocket × PWskSocket) := collect Event.accepted t
abbrev bound (t : List Event) : List PWskSocket := collect Event.bound t
abbrev closed (t : List Event) : List PWskSocket := collect Event.closed t
abbrev handedOut (t : List Event) : List PWskSocket := collect Event.handedOut t
abbrev listed (t : List Event) : List Nat := collect Event.listed t
abbrev listsFreed (t : List Event) : List Nat := collect Event.listFreed t
abbrev entered (t : List Event) : List Nat := collect Event.entered t
abbrev left (t : List Event) : List Nat := collect Event.left t

/-- The registration is on the books. -/
def Registered (t : List Event) (reg : WskRegistration) : Prop :=
  reg ∈ registered t ∧ reg ∉ deregistered t

/-- The interface was captured through the registration and is not released. -/
def Captured (t : List Event) (reg : WskRegistration) (npi : WskProviderNpi) : Prop :=
  (reg, npi) ∈ captured t ∧ reg ∉ released t

/-- `WskSocket` created the socket, and it is not closed. -/
def Open (t : List Event) (sock : PWskSocket) : Prop :=
  (∃ npi, (npi, sock) ∈ created t) ∧ sock ∉ closed t

/-- A provider never hands out a socket a second time. -/
def FreshHandles (t : List Event) : Prop := (handedOut t).Nodup

/-- The law of the interface. -/
def Permitted : Law Event := fun t e =>
  match e with
  | .capture reg _ _ => Registered t reg
  | .issue req =>
    (∀ npi, req.call.client = some npi → ∃ reg, Captured t reg npi) ∧
    (∀ sock, req.call.socket = some sock →
      Open t sock ∧ (req.call.needsBound → sock ∈ bound t))
  | .release reg =>
    (∃ npi, Captured t reg npi) ∧
    ∀ npi sock, (reg, npi) ∈ captured t → (npi, sock) ∈ created t → sock ∈ closed t
  | .deregister reg =>
    Registered t reg ∧ ∀ npi, (reg, npi) ∈ captured t → reg ∈ released t
  | _ => True

/-! ## Consequences of the law -/

theorem FreshHandles.of_isPrefix (h : FreshHandles s) (hp : t <+: s) : FreshHandles t := by
  obtain ⟨s', rfl⟩ := hp
  rw [FreshHandles, handedOut, collect_append, List.nodup_append] at h
  exact h.1

theorem handedOut_of_created (h : (npi, sock) ∈ created t) : sock ∈ handedOut t := by
  obtain ⟨e, he, hcreated⟩ := mem_collect.mp h
  exact mem_collect.mpr ⟨e, he, Event.handedOut_of_created hcreated⟩

/-- Only sockets that `WskSocket` created are ever closed. -/
theorem created_of_closed (h : Always Permitted t) (hc : sock ∈ closed t) :
    ∃ npi, (npi, sock) ∈ created t := by
  obtain ⟨e, he, hclosed⟩ := mem_collect.mp hc
  obtain ⟨pre, post, rfl⟩ := List.append_of_mem he
  have hpermitted : Permitted pre e := h pre e post rfl
  cases e with
  | issue req =>
    obtain ⟨number, issuer, irp, call, completion⟩ := req
    cases call with
    | wskCloseSocket sock' =>
      simp only [Event.closed, Option.some.injEq] at hclosed
      obtain ⟨⟨npi, hcreated⟩, _⟩ := (hpermitted.2 sock' rfl).1
      exact ⟨npi, mem_collect_left (hclosed ▸ hcreated)⟩
    | _ => simp at hclosed
  | _ => simp at hclosed

theorem nodup_closed (h : Always Permitted t) : (closed t).Nodup := by
  apply h.nodup_collect
  intro t e sock hp hclosed
  cases e with
  | issue req =>
    obtain ⟨number, issuer, irp, call, completion⟩ := req
    cases call with
    | wskCloseSocket sock' =>
      simp only [Event.closed, Option.some.injEq] at hclosed
      exact hclosed ▸ (hp.2 sock' rfl).1.2
    | _ => simp at hclosed
  | _ => simp at hclosed

theorem nodup_released (h : Always Permitted t) : (released t).Nodup := by
  apply h.nodup_collect
  intro t e reg hp hreleased
  cases e with
  | release reg' =>
    simp only [Event.released, Option.some.injEq] at hreleased
    obtain ⟨⟨npi, _, hnot⟩, _⟩ := hp
    exact hreleased ▸ hnot
  | _ => simp at hreleased

theorem nodup_deregistered (h : Always Permitted t) : (deregistered t).Nodup := by
  apply h.nodup_collect
  intro t e reg hp hderegistered
  cases e with
  | deregister reg' =>
    simp only [Event.deregistered, Option.some.injEq] at hderegistered
    exact hderegistered ▸ hp.1.2
  | _ => simp at hderegistered

/-! ## Sockets under a registration -/

/-- The provider handed out the socket under the registration: as the socket of
an object, or by accepting a connection on that socket. -/
def HandedOutUnder (t : List Event) (reg : WskRegistration) (sock : PWskSocket) : Prop :=
  ∃ npi, (reg, npi) ∈ captured t ∧
    ((npi, sock) ∈ created t ∨
      ∃ listener, (npi, listener) ∈ created t ∧ (listener, sock) ∈ accepted t)

/-- A fresh socket is created or accepted, not both. -/
theorem not_created_of_accepted {listener : PWskSocket} (hfresh : FreshHandles t)
    (h : (listener, sock) ∈ accepted t) : (npi, sock) ∉ created t := by
  intro hcreated
  obtain ⟨e, he, haccepted⟩ := mem_collect.mp h
  obtain ⟨e', he', hcreated⟩ := mem_collect.mp hcreated
  have heq : e = e' :=
    eq_of_nodup_collect hfresh he he' (Event.handedOut_of_accepted haccepted)
      (Event.handedOut_of_created hcreated)
  subst heq
  rw [Event.created_of_accepted haccepted] at hcreated
  cases hcreated

end Trace

end WinShell
