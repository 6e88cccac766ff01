-- SUMMARY: What the three creators of sockets report and store, and where they disagree.
import WinShell.Lifecycle.Resolution

/-!
# Creating a socket

All three creators report the final status of `WskSocket`. They differ in what a
failure stores in `*sock`: `CreateConnectionSocket` tests the status before the
wait, the other two only after it, so an inline failure runs into their success
path and stores `IoStatus.Information`.
-/

namespace WinShell

open Effect Sockets

/-- The creator that the constructor of a class calls. -/
def Sockets.SocketClass.create :
    SocketClass → WskProviderNpi → PWskSocket → Win (NtStatus × PWskSocket)
  | .listenerSocket => Utils.createListeningSocket
  | .connectionSocket => Utils.createConnectionSocket
  | .datagramSocket => Utils.createDatagramSocket

namespace Sequential

variable {env : Surroundings} {k : Kernel} {response : Response} {sock : PWskSocket}
  {cls : SocketClass} {npi : WskProviderNpi}

/-- What `*sock` holds after a creator got the response. -/
def storedHandle : SocketClass → Response → PWskSocket → PWskSocket
  | .connectionSocket, response, sock =>
    if ntSuccess response.status then response.information else sock
  | _, response, sock => createdHandle response sock

theorem answers_create (cls : SocketClass) (npi : WskProviderNpi) (sock : PWskSocket)
    (hq : k.requests = []) :
    Answers env (cls.create npi sock) k 1 (socketCall npi cls)
      (fun response => (response.status, storedHandle cls response sock)) := by
  cases cls with
  | listenerSocket | datagramSocket => exact answers_createSocket hq trivial
  | connectionSocket => exact answers_createConnectionSocket hq

/-- For a response, no creator touches `*sock` on a failure, and any two of them
report and store the same, whatever else surrounds them. -/
structure CreationLaw (response : Response) (sock : PWskSocket) : Prop where
  atomic : ∀ env k cls npi status sock', k.requests = [] → env.respond k.calls = response →
    (run env (SocketClass.create cls npi sock) k).1 = some (status, sock') →
    ntSuccess status = false → sock' = sock
  agree : ∀ env k cls npi o env' k' cls' npi' o', k.requests = [] → k'.requests = [] →
    env.respond k.calls = response → env'.respond k'.calls = response →
    (run env (SocketClass.create cls npi sock) k).1 = some o →
    (run env' (SocketClass.create cls' npi' sock) k').1 = some o' → o = o'

/-- A creator that returns got its IRP. -/
theorem outcome_create {o : NtStatus × PWskSocket} (hq : k.requests = [])
    (hrun : (run env (cls.create npi sock) k).1 = some o) :
    o = ((env.respond k.calls).status, storedHandle cls (env.respond k.calls) sock) := by
  rw [(answers_create cls npi sock hq).outcome] at hrun
  split at hrun
  · exact (Option.some.inj hrun).symm
  · cases hrun

/-- Unless a failure came inline with another value, every creator stores the new
handle on a success and nothing on a failure. -/
theorem storedHandle_eq
    (h : response.failsInline = true → response.information = sock) (cls : SocketClass) :
    storedHandle cls response sock =
      if ntSuccess response.status then response.information else sock := by
  have hcreated : createdHandle response sock =
      if ntSuccess response.status then response.information else sock := by
    cases hs : ntSuccess response.status with
    | true => simp [createdHandle, Response.failsLater, hs]
    | false =>
      cases hp : response.pending with
      | true => simp [createdHandle, Response.failsLater, hs, hp]
      | false =>
        have hsame : response.information = sock := h (by simp [Response.failsInline, hs, hp])
        simp [hsame, createdHandle]
  cases cls with
  | listenerSocket | datagramSocket => exact hcreated
  | connectionSocket => rfl

/-- Surroundings in which every call gets the response. -/
def answering (response : Response) : Surroundings where
  respond _ := response
  allocate _ := true
  garbage _ := SockAddr.zero

theorem run_create_answering (cls : SocketClass) (npi : WskProviderNpi) (response : Response)
    (sock : PWskSocket) :
    (run (answering response) (cls.create npi sock) {}).1 =
      some (response.status, storedHandle cls response sock) := by
  have hs : (answering response).Serves ({} : Kernel).allocs 1 := fun _ _ => rfl
  rw [(answers_create cls npi sock rfl).outcome, if_pos hs]
  rfl

/-- The creators are atomic on failure, and agree, exactly for the responses that
are no inline failure, or bring the value that `*sock` holds already. -/
theorem creation_law_iff (response : Response) (sock : PWskSocket) :
    CreationLaw response sock ↔ (response.failsInline = true → response.information = sock) := by
  constructor
  · intro law hinline
    have hrun := run_create_answering .datagramSocket ⟨0⟩ response sock
    simp only [Response.failsInline, Bool.and_eq_true, Bool.not_eq_true'] at hinline
    have hstored : storedHandle .datagramSocket response sock = response.information := by
      simp [storedHandle, createdHandle, Response.failsLater, hinline]
    rw [hstored] at hrun
    exact law.atomic _ {} _ _ _ _ rfl rfl hrun hinline.2
  · intro h
    constructor
    · rintro env k cls npi status sock' hq rfl hrun hfails
      obtain ⟨rfl, rfl⟩ := Prod.mk.inj (outcome_create hq hrun)
      rw [storedHandle_eq h, hfails]
      rfl
    · rintro env k cls npi o env' k' cls' npi' o' hq hq' rfl hresponse hrun hrun'
      rw [outcome_create hq hrun, outcome_create hq' hrun', hresponse, storedHandle_eq h,
        storedHandle_eq h]

/-- A `WskSocket` that fails at once, with a stale value in `IoStatus.Information`. -/
def refusal : Response := ⟨⟨statusInvalidParameter, 7#64, []⟩, false⟩

/-- `CreateConnectionSocket` keeps `*sock`, and the other two store the stale value. -/
theorem refusal_not_atomic :
    (run (answering refusal) (Utils.createConnectionSocket ⟨1⟩ 5#64) {}).1 =
      some (statusInvalidParameter, 5#64) ∧
    (run (answering refusal) (Utils.createDatagramSocket ⟨1⟩ 5#64) {}).1 =
      some (statusInvalidParameter, 7#64) ∧
    (run (answering refusal) (Utils.createListeningSocket ⟨1⟩ 5#64) {}).1 =
      some (statusInvalidParameter, 7#64) ∧
    ¬CreationLaw refusal 5#64 := by
  refine ⟨rfl, rfl, rfl, fun law => ?_⟩
  have hsame : 7#64 = 5#64 :=
    law.atomic (answering refusal) {} .datagramSocket ⟨1⟩ statusInvalidParameter 7#64 rfl rfl rfl
      (by decide)
  exact absurd hsame (by decide)

end Sequential

end WinShell
