-- SUMMARY: The fifteen request operations as the jobs of a pool of threads, and the provider as its environment.
import WinShell.Effect.Pool
import WinShell.Sequential.Machine

/-!
# Operations in concurrent threads

Any number of threads run the request operations, on shared sockets or not, one
primitive at a time. The provider completes the requests it owns in any order and
with any outcome, between any two steps. What it promises is a `Contract`: which
final statuses occur, and what a call returns whose request is complete by then.
Until then a call returns `STATUS_PENDING` and nothing else.
-/

namespace WinShell

open Effect

/-- A call of a request operation. -/
inductive Operation where
  | convertStringToAdress (wskNpi : WskProviderNpi) (stringAdress : Endpoint)
  | closeSocket (sock : PWskSocket)
  | createConnectionSocket (wskProviderNpi : WskProviderNpi) (sock : PWskSocket)
  | bindConnectionSocket (sock : PWskSocket)
  | disconnectConnectionSocket (sock : PWskSocket)
  | connectConnectionSocket (sock : PWskSocket) (connectionAdress : SockAddr)
  | sendDataConnectionSocket (sock : PWskSocket) (data : PVoid) (dataSize : ULong)
  | getDataConnectionSocket (sock : PWskSocket) (data : PVoid) (dataSize : ULong)
  | createDatagramSocket (wskProviderNpi : WskProviderNpi) (sock : PWskSocket)
  | bindDatagramSocket (sock : PWskSocket)
  | sendDataDatagramSocket (sock : PWskSocket) (data : PVoid) (dataSize : ULong)
      (connectionAddress : SockAddr)
  | getDataDatagramSocket (sock : PWskSocket) (data : PVoid) (dataSize : ULong)
  | createListeningSocket (wskProviderNpi : WskProviderNpi) (sock : PWskSocket)
  | bindListenerSocket (sock : PWskSocket)
  | acceptConnection (sock : PWskSocket)

/-- What an operation returns. A creator also leaves a handle in `*sock`. -/
inductive Outcome where
  | address (adress : SockAddr)
  | closed
  | status (status : NtStatus)
  | created (status : NtStatus) (sock : PWskSocket)
  deriving DecidableEq

namespace Outcome

/-- The `NTSTATUS` that is returned, by the operations that return one. -/
def ntStatus : Outcome → Option NtStatus
  | address _ | closed => none
  | status s | created s _ => some s

end Outcome

namespace Operation

def execute : Operation → Win Outcome
  | convertStringToAdress npi adress => do
    let adress ← Utils.convertStringToAdress npi adress
    return .address adress
  | closeSocket sock => do
    Utils.closeSocket sock
    return .closed
  | createConnectionSocket npi sock => do
    let (status, sock) ← Utils.createConnectionSocket npi sock
    return .created status sock
  | bindConnectionSocket sock => .status <$> Utils.bindConnectionSocket sock
  | disconnectConnectionSocket sock => .status <$> Utils.disconnectConnectionSocket sock
  | connectConnectionSocket sock adress => .status <$> Utils.connectConnectionSocket sock adress
  | sendDataConnectionSocket sock data dataSize =>
    .status <$> Utils.sendDataConnectionSocket sock data dataSize
  | getDataConnectionSocket sock data dataSize =>
    .status <$> Utils.getDataConnectionSocket sock data dataSize
  | createDatagramSocket npi sock => do
    let (status, sock) ← Utils.createDatagramSocket npi sock
    return .created status sock
  | bindDatagramSocket sock => .status <$> Utils.bindDatagramSocket sock
  | sendDataDatagramSocket sock data dataSize adress =>
    .status <$> Utils.sendDataDatagramSocket sock data dataSize adress
  | getDataDatagramSocket sock data dataSize =>
    .status <$> Utils.getDataDatagramSocket sock data dataSize
  | createListeningSocket npi sock => do
    let (status, sock) ← Utils.createListeningSocket npi sock
    return .created status sock
  | bindListenerSocket sock => .status <$> Utils.bindListenerSocket sock
  | acceptConnection sock => .status <$> Utils.acceptConnection sock

/-- Thirteen of the fifteen return an `NTSTATUS`. -/
def returnsStatus : Operation → Bool
  | convertStringToAdress _ _ | closeSocket _ => false
  | _ => true

end Operation

/-- What the surroundings promise: the final statuses that the provider uses, the
relation of the value that a call returns inline to the final status, and whether
an allocation may fail. -/
structure Contract where
  Final : NtStatus → Prop
  Inline : NtStatus → NtStatus → Prop
  Fails : Prop

namespace Concurrent

/-- Any final status, any value returned inline, and allocations that succeed. -/
def anyStatus : Contract where
  Final _ := True
  Inline _ _ := True
  Fails := False

/-- Final statuses other than `STATUS_PENDING`, returned inline as they are, and
allocations that may fail. -/
def finalStatus : Contract where
  Final final := final ≠ statusPending
  Inline returned final := returned = final
  Fails := True

/-- Which answers a primitive may get. -/
def Allowed (c : Contract) (k : Kernel) : (o : Op) → o.Ret → Prop
  | .pushFrame, frame => frame = k.frames.next
  | .ioAllocateIrp, irp => irp = some k.irps.next ∨ c.Fails ∧ irp = none
  | .ioAllocateMdl _ _, mdl => mdl = some k.mdls.next ∨ c.Fails ∧ mdl = none
  | .callReturn irp, status =>
    status = statusPending ∨ (∀ req ∈ k.requests, some req.irp ≠ irp) ∧
      ∃ p cell, irp = some p ∧ k.irps.get p = some cell ∧ c.Inline status cell.ioStatus.status
  | .keWaitForSingleObject event, _ =>
    ∃ fr ev, k.frames.get event.frame = some fr ∧ fr.event = some ev ∧ ev.signaled = true
  | .ioStatusStatus irp, status =>
    ∃ p cell, irp = some p ∧ k.irps.get p = some cell ∧ status = cell.ioStatus.status
  | .ioStatusInformation irp, information =>
    ∃ p cell, irp = some p ∧ k.irps.get p = some cell ∧ information = cell.ioStatus.information
  | .readResult result, adress =>
    ∀ fr a, k.frames.get result.frame = some fr → Sequential.firstAddress fr = some a → adress = a
  | .wskRegister _, (_, registration) => registration = ⟨k.calls⟩
  | .wskCaptureProviderNpi _, (_, npi) => npi = ⟨k.calls⟩
  | _, _ => True

/-- The operations in threads, and the provider around them. -/
def system (c : Contract) : System winKernel Kernel Operation Outcome where
  body := Operation.execute
  Answers i k o r k' := Allowed c k o r ∧ k.apply i o r = some k'
  Moves k k' := ∃ req ∈ k.requests, ∃ fin, c.Final fin.status ∧ k' = k.complete req fin

/-- A state of the threads and the kernel. -/
abbrev State := Pool winKernel Kernel Operation Outcome

/-- The states that the threads reach together with a provider that keeps the
contract. -/
abbrev Reachable (c : Contract) : State → Prop := Pool.Reachable (system c) {}

end Concurrent

end WinShell
