-- SUMMARY: The provider interface of Winsock Kernel: handles, calls and the events a run leaves.
import WinShell.Nt

/-!
# The Winsock Kernel provider

What the program passes to the provider, and what an observer of the interface
sees. The provider itself is not part of the program: its answers are arbitrary.
Registrations and captured interfaces are opaque to the program and are named by
the provider call that produced them.
-/

namespace WinShell

/-- The addressed locals of the functions in `utils.cpp`. -/
inductive Local where
  | event | buffer | localAdress | adress | stringAdress | result | received | wskClientDispatch
  deriving DecidableEq

/-- A pointer to a local of a function's frame. -/
structure StackRef where
  frame : Nat
  slot : Local
  deriving DecidableEq

/-- A nullable pointer to an IRP. -/
abbrev PIrp := Option Nat

/-- A nullable pointer to an MDL. -/
abbrev PMdl := Option Nat

abbrev PWskSocket := ULongPtr

structure WskRegistration where
  token : Nat
  deriving DecidableEq

structure WskProviderNpi where
  token : Nat
  deriving DecidableEq

/-- `WSK_BUF`. -/
structure WskBuf where
  mdl : PMdl
  offset : ULong
  length : ULongPtr
  deriving DecidableEq

def wskFlagListenSocket : ULong := 1#32
def wskFlagConnectionSocket : ULong := 2#32
def wskFlagDatagramSocket : ULong := 4#32

/-- The provider calls that take an IRP, with what they are given. An argument
passed by address is recorded with its value at the call and with the pointer. -/
inductive WskCall where
  | wskGetAddressInfo (client : WskProviderNpi) (nodeName serviceName : UnicodeString)
      (nameSpace : ULong) (nameAt result : StackRef)
  | wskSocket (client : WskProviderNpi) (addressFamily socketType : UShort)
      (protocol flags : ULong)
  | wskCloseSocket (sock : PWskSocket)
  | wskBind (sock : PWskSocket) (localAddress : SockAddr) (addressAt : StackRef)
  | wskConnect (sock : PWskSocket) (remoteAddress : SockAddr)
  | wskDisconnect (sock : PWskSocket)
  | wskSend (sock : PWskSocket) (buffer : WskBuf) (bufferAt : StackRef)
  | wskReceive (sock : PWskSocket) (buffer : WskBuf) (bufferAt : StackRef)
  | wskSendTo (sock : PWskSocket) (buffer : WskBuf) (bufferAt : StackRef)
      (remoteAddress : SockAddr)
  | wskReceiveFrom (sock : PWskSocket) (buffer : WskBuf) (bufferAt : StackRef)
      (remoteAddress : SockAddr) (addressAt received : StackRef)
  | wskAccept (sock : PWskSocket)
  deriving DecidableEq

namespace WskCall

/-- The pointers into the issuing function's frame that a call hands over. -/
def refs : WskCall → List StackRef
  | wskGetAddressInfo _ _ _ _ nameAt result => [nameAt, result]
  | wskBind _ _ addressAt => [addressAt]
  | wskSend _ _ bufferAt | wskReceive _ _ bufferAt | wskSendTo _ _ bufferAt _ => [bufferAt]
  | wskReceiveFrom _ _ bufferAt _ addressAt received => [bufferAt, addressAt, received]
  | _ => []

/-- The MDL that describes the data of a call, `none` when it has no data. -/
def mdl : WskCall → PMdl
  | wskSend _ buffer _ | wskReceive _ buffer _ | wskSendTo _ buffer _ _
  | wskReceiveFrom _ buffer _ _ _ _ => buffer.mdl
  | _ => none

end WskCall

/-- The completion routine set on an IRP is `IoCompletionRoutine`; its context
is the event of a frame. -/
structure Completion where
  context : StackRef
  invokeOnSuccess : Bool
  invokeOnError : Bool
  invokeOnCancel : Bool
  deriving DecidableEq

/-- The completion that an operation with the frame `frame` sets on its IRP. -/
def completionFor (frame : Nat) : Completion := ⟨⟨frame, .event⟩, true, true, true⟩

/-- A request in the hands of the provider. `number` counts the provider calls
of the run; `issuer` names the invocation that made the call. -/
structure Request where
  number : Nat
  issuer : Nat
  irp : Nat
  call : WskCall
  completion : Option Completion
  deriving DecidableEq

/-- Every pointer into the issuing frame that the provider holds. -/
def Request.refs (req : Request) : List StackRef :=
  (req.completion.map Completion.context).toList ++ req.call.refs

/-- What is observed of a run at the provider interface, and the frames that
come and go around it. -/
inductive Event where
  | enter (frame : Nat)
  | leave (frame : Nat)
  | register (registration : WskRegistration) (dispatch : StackRef) (status : NtStatus)
  | capture (registration : WskRegistration) (npi : WskProviderNpi) (status : NtStatus)
  | release (registration : WskRegistration)
  | deregister (registration : WskRegistration)
  | issue (req : Request)
  | complete (req : Request) (status : NtStatus) (information : ULongPtr)
  | readResult (request : Option Nat)
  | freeAddressInfo (npi : WskProviderNpi) (request : Nat)
  deriving DecidableEq

/-- The final outcome of a request. The address list is meaningful only for a
resolution that succeeded. -/
structure Final where
  status : NtStatus
  information : ULongPtr
  addresses : List AddrInfo

/-- How the provider answers a call: at once, or after `STATUS_PENDING`. -/
structure Response extends Final where
  pending : Bool

end WinShell
