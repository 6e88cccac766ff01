-- SUMMARY: Which address of a resolution goes to the provider, and what becomes of the list it came from.
import WinShell.Lifecycle.Resolution
import WinShell.Sequential.Submissions

/-!
# Resolved addresses

`ConvertStringToAdress` takes the first entry of the list, whatever its family
is, and sixteen bytes of it, however long it is. The sockets of the program are
all of family `AF_INET`, and the query names no family. The list itself is never
given back.
-/

namespace WinShell

open Effect Sockets Trace

/-! ## What a list is good for -/

namespace AddrInfo

/-- What the provider documents of an entry: the address starts with the family
of the entry, and an `AF_INET` address is a `SOCKADDR_IN`. -/
structure WellFormed (entry : AddrInfo) : Prop where
  family : (SockAddr.read entry.aiAddr).saFamily = entry.aiFamily
  length : entry.aiFamily = afInet → entry.aiAddrLen = 16

/-- The address is the whole address of the entry, byte for byte. -/
def CopiedTo (entry : AddrInfo) (adress : SockAddr) : Prop :=
  entry.aiAddrLen ≤ 16 ∧ ∀ i < entry.aiAddrLen, adress.byte i = entry.aiAddr i

end AddrInfo

/-- The address is the whole address of some entry, and fits the sockets of the
program. -/
structure Usable (list : List AddrInfo) (adress : SockAddr) : Prop where
  copied : ∃ entry ∈ list, entry.CopiedTo adress
  family : adress.saFamily = afInet

/-- The address of the peer in a call. -/
def WskCall.peer : WskCall → Option SockAddr
  | .wskConnect _ adress | .wskSendTo _ _ _ adress => some adress
  | _ => none

namespace Sequential

variable {α : Type} {env : Surroundings} {k k' : Kernel} {this : Socket} {method : Method}
  {adress : Endpoint} {objects objects' : Objects} {p : Program}

/-- The peers that a run hands to the provider. -/
def peers (env : Surroundings) (p : Win α) (k : Kernel) : List SockAddr :=
  (submissions env p k).filterMap fun submission => submission.1.peer

theorem peers_resolve {npi : WskProviderNpi} {f : SockAddr → Win NtStatus} {text : String}
    {count : Nat} (hq : k.requests = [])
    (hf : ∀ a k', peers env (f a) k' = if env.Serves k'.allocs count then [a] else []) :
    peers env (Utils.convertStringToAdress npi adress >>= fun a => throwOnFailure text <$> f a) k =
      if env.Serves k.allocs (1 + count) then [handedAddress env k] else [] := by
  have hrest : ∀ a k', (submissions env (throwOnFailure text <$> f a) k').filterMap
      (fun submission => submission.1.peer) =
      if env.Serves k'.allocs count then [a] else [] := by
    intro a k'
    rw [submissions_map]
    exact hf a k'
  obtain ⟨k', hpeers⟩ := filterMap_submissions_resolve hq rfl hrest
  exact hpeers

/-- A method that resolves an endpoint hands on what the resolution gave it. -/
theorem peers_invoke (hq : k.requests = []) (hadress : endpoint method = some adress) :
    peers env (method.invoke this) k =
      if env.Serves k.allocs (allocations method) then [handedAddress env k] else [] := by
  cases method with
  | connect adress =>
    have hconnect : ∀ a k', peers env (Utils.connectConnectionSocket this.sock a) k' =
        if env.Serves k'.allocs 1 then [a] else [] := by
      intro a k'
      rw [peers, Utils.connectConnectionSocket, submissions_requestStatus]
      split <;> rfl
    exact peers_resolve hq hconnect
  | sendDatagram data adress =>
    have hsend : ∀ a k', peers env
        (Utils.sendDataDatagramSocket this.sock data DatagramSocket.sizeofData a) k' =
        if env.Serves k'.allocs 2 then [a] else [] := by
      intro a k'
      rw [peers, Utils.sendDataDatagramSocket, submissions_sendData]
      split <;> rfl
    exact peers_resolve hq hsend
  | accept | sendData _ _ | receivData _ _ | disconnect | receivDatagram _ _ => cases hadress

/-! ## The first entry -/

/-- The first entry of the list is one for the sockets of the program. -/
def FirstFits (list : List AddrInfo) : Prop :=
  ∃ entry, list.head? = some entry ∧ entry.aiFamily = afInet

theorem usable_handedAddress_iff {list : List AddrInfo}
    (hresolves : ntSuccess (env.respond k.calls).status = true)
    (hlist : (env.respond k.calls).addresses = list) (hwf : ∀ entry ∈ list, entry.WellFormed) :
    Usable list (handedAddress env k) ↔ FirstFits list := by
  cases list with
  | nil =>
    constructor
    · intro h
      obtain ⟨entry, hmem, -⟩ := h.copied
      cases hmem
    · rintro ⟨entry, hfirst, -⟩
      cases hfirst
  | cons first rest =>
    have hhanded : handedAddress env k = SockAddr.read first.aiAddr := by
      simp [handedAddress, resolvedAddress, Response.failsLater, hresolves, hlist]
    have hfirst : first.WellFormed := hwf first List.mem_cons_self
    rw [hhanded]
    constructor
    · intro h
      exact ⟨first, rfl, hfirst.family.symm.trans h.family⟩
    · rintro ⟨entry, heq, hinet⟩
      cases heq
      refine ⟨⟨first, List.mem_cons_self, ?_, ?_⟩, hfirst.family.trans hinet⟩
      · rw [hfirst.length hinet]
      · intro i hi
        exact SockAddr.byte_read (hfirst.length hinet ▸ hi)

/-- Whatever a resolution that succeeds lists, the address that `Connect` and the
datagram `SendData` hand on is usable exactly when the first entry is, or when
the pool refuses an allocation and no address is handed on at all. -/
theorem peers_usable_iff {list : List AddrInfo} (this : Socket) (hq : k.requests = [])
    (hadress : endpoint method = some adress)
    (hresolves : ntSuccess (env.respond k.calls).status = true)
    (hlist : (env.respond k.calls).addresses = list) (hwf : ∀ entry ∈ list, entry.WellFormed) :
    (∀ peer ∈ peers env (method.invoke this) k, Usable list peer) ↔
      FirstFits list ∨ ¬env.Serves k.allocs (allocations method) := by
  rw [peers_invoke hq hadress, ← usable_handedAddress_iff hresolves hlist hwf]
  by_cases hs : env.Serves k.allocs (allocations method)
  · simp [hs]
  · simp [hs]

/-- The loopback address of `AF_INET6`, and a host of `AF_INET`. -/
def loopback6 : AddrInfo := ⟨23#16, 28, fun i => if i = 0 then 23#8 else if i = 23 then 1#8 else 0#8⟩
def host4 : AddrInfo :=
  ⟨afInet, 16, fun i => [2#8, 0#8, 5#8, 57#8, 192#8, 168#8, 0#8, 31#8][i]?.getD 0#8⟩

/-- A provider that grants everything and lists an address of each family. -/
def dualStack : Surroundings where
  respond n := ⟨⟨statusSuccess, BitVec.ofNat 64 n, [loopback6, host4]⟩, false⟩
  allocate _ := true
  garbage _ := SockAddr.zero

/-- A connection socket under that provider, before it connects. -/
def dialling : Option Objects × Kernel :=
  start dualStack [.construct .connectionSocket 0 storage]

theorem wellFormed_dualStack : ∀ entry ∈ [loopback6, host4], entry.WellFormed := by
  intro entry hmem
  simp only [List.mem_cons, List.not_mem_nil, or_false] at hmem
  rcases hmem with rfl | rfl
  · exact ⟨by decide, by decide⟩
  · exact ⟨by decide, by decide⟩

theorem peers_usable_iff_dialling :
    (∀ peer ∈ peers dualStack (Method.invoke unconnected (.connect nowhere)) dialling.2,
      Usable [loopback6, host4] peer) ↔
      FirstFits [loopback6, host4] ∨ ¬dualStack.Serves dialling.2.allocs 2 :=
  peers_usable_iff unconnected rfl rfl (by decide) rfl wellFormed_dualStack

/-- The list has an entry for the socket, and the first sixteen bytes of the other
one go to `WskConnect`. -/
theorem dialling_unusable :
    (dialling.1.map fun objects => objects.lookup 0) =
      some (some ⟨.connectionSocket, unconnected⟩) ∧
    (∀ entry ∈ (dualStack.respond dialling.2.calls).addresses, entry.WellFormed) ∧
    host4 ∈ (dualStack.respond dialling.2.calls).addresses ∧ host4.aiFamily = afInet ∧
    peers dualStack (Method.invoke unconnected (.connect nowhere)) dialling.2 =
      [SockAddr.read loopback6.aiAddr] ∧
    ¬Usable [loopback6, host4] (SockAddr.read loopback6.aiAddr) := by
  refine ⟨rfl, wellFormed_dualStack, List.mem_cons_of_mem _ List.mem_cons_self, rfl,
    by decide +kernel, ?_⟩
  intro h
  exact absurd h.family (by decide)

/-! ## Lists that were handed out -/

/-- At a moment between two commands of a run, when every call so far has returned
or thrown, the trace is `t`. -/
def Settled (env : Surroundings) (p : Program) (t : List Event) : Prop :=
  ∃ q objects k, q <+: p ∧ start env q = (some objects, k) ∧ k.trace = t

/-- Every list that was handed out has been given back exactly once, and through
an interface that was still held. -/
structure ListsReturned (t : List Event) : Prop where
  once : ∀ list ∈ listed t, (listsFreed t).count list = 1
  held : ∀ pre npi list post, t = pre ++ .freeAddressInfo npi list :: post →
    ∃ reg, Captured pre reg npi

theorem Initialised.freesNoList (init : Initialised k k') :
    listsFreed k'.trace = listsFreed k.trace := by
  obtain ⟨_, _, _, _, leads⟩ := init
  simp [leads.trace, registering]

theorem freesNoList_of_asked {call : WskCall} {fin : Final} (asked : Asked k call fin k') :
    listsFreed k'.trace = listsFreed k.trace := by
  simp [asked.trace, exchange]

theorem Prelude.freesNoList (before : Prelude this method k k') :
    listsFreed k'.trace = listsFreed k.trace := by
  cases before with
  | none _ _ => rfl
  | resolves fin read _ leads => cases read <;> simp [leads.trace, resolving]

/-- No command gives a list back. -/
theorem Steps.freesNoList {c : Command} {o : Option Objects} (hs : Steps objects k c o k') :
    listsFreed k'.trace = listsFreed k.trace := by
  have hstops : ∀ {k₁ : Kernel}, Stopped k₁ k' → listsFreed k'.trace = listsFreed k₁.trace := by
    intro k₁ stops
    rw [stops, listsFreed, collect_append]
    exact List.append_nil _
  cases hs with
  | skips _ | copyConstructs _ _ | copyAssigns _ _ _ => rfl
  | constructs _ h =>
    cases h with
    | registerFails _ leads | captureFails _ _ leads => simp [leads.trace, registering]
    | createStops init stops => rw [hstops stops, init.freesNoList]
    | createFails init create _ => rw [freesNoList_of_asked create, init.freesNoList]
    | bindStops init create _ stops =>
      rw [hstops stops, freesNoList_of_asked create, init.freesNoList]
    | bindFails init create _ bind _ | returns init create _ bind _ =>
      rw [freesNoList_of_asked bind, freesNoList_of_asked create, init.freesNoList]
  | invokes _ _ h =>
    cases h with
    | resolveStops stops => exact hstops stops
    | stops before stops => rw [hstops stops, before.freesNoList]
    | returns before _ asked => rw [freesNoList_of_asked asked, before.freesNoList]
  | destroys _ h =>
    cases h with
    | stops stops => exact hstops stops
    | returns fin leads => simp [leads.trace, exchange]

/-- No program gives a list back. -/
theorem listsFreed_eq_nil (h : start env p = (some objects, k)) : listsFreed k.trace = [] := by
  have hrun : (p.execute ∅).wp (machine env)
      (fun objects k => Aged objects k ∧ listsFreed k.trace = []) (fun _ => True) {} := by
    apply run_program
    · exact fun objects k hk => hk.1.idle
    · exact fun c _ objects k objects' k' hk hs =>
        ⟨hk.1.steps hs, hs.freesNoList.trans hk.2⟩
    · exact fun c _ objects k k' _ _ => trivial
    · exact ⟨Aged.start, rfl⟩
  exact (hrun.of_run h).2

/-- Every run gives back what its resolutions list exactly when none of them, in
the calls that have returned or thrown, ended in success. -/
theorem lists_returned_iff (env : Surroundings) (p : Program) :
    (∀ t, Settled env p t → ListsReturned t) ↔ ∀ t, Settled env p t → listed t = [] := by
  constructor
  · rintro h t ⟨q, objects, k, hq, hstart, rfl⟩
    rw [List.eq_nil_iff_forall_not_mem]
    intro list hmem
    have hcount : (listsFreed k.trace).count list = 1 :=
      (h k.trace ⟨q, objects, k, hq, hstart, rfl⟩).once list hmem
    rw [listsFreed_eq_nil hstart] at hcount
    cases hcount
  · rintro h t ⟨q, objects, k, hq, hstart, rfl⟩
    have hlisted : listed k.trace = [] := h k.trace ⟨q, objects, k, hq, hstart, rfl⟩
    have hfreed : listsFreed k.trace = [] := listsFreed_eq_nil hstart
    constructor
    · intro list hmem
      rw [hlisted] at hmem
      cases hmem
    · intro pre npi list post ht
      rw [ht, listsFreed, collect_append, collect_cons] at hfreed
      simp at hfreed

/-- A connection socket that connects once. -/
def connectOnce : Program :=
  [.construct .connectionSocket 0 storage, .invoke 0 (.connect nowhere)]

/-- The list of the one resolution is never given back. -/
theorem connectOnce_keeps_list :
    listed (history dualStack connectOnce) = [4] ∧
      Settled dualStack connectOnce (history dualStack connectOnce) ∧
      ¬ListsReturned (history dualStack connectOnce) := by
  refine ⟨by decide +kernel, ⟨connectOnce, _, _, List.prefix_rfl, rfl, rfl⟩, ?_⟩
  intro h
  have hcount := h.once 4 (by decide +kernel)
  exact absurd hcount (by decide +kernel)

end Sequential

end WinShell
