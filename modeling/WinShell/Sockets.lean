-- SUMMARY: The three socket classes: constructors, methods and destructors over the request operations.
import WinShell.Utils

/-!
# The socket classes

The classes of `sockets.cpp`. They declare the same three fields, so an object of
any of them is a `Socket`. A member function that may throw returns an `Except`;
when a constructor throws, no object comes into being and no destructor runs.
-/

namespace WinShell

open Effect

/-- The private fields of a socket object. -/
structure Socket where
  sock : PWskSocket
  providNpi : WskProviderNpi
  wskReg : WskRegistration
  deriving DecidableEq

/-- `WinShell::exception`; `e` is the text of the inner `std::exception`. -/
structure SocketException where
  e : String
  status : NtStatus
  deriving DecidableEq

namespace Sockets

/-- The texts of the exceptions that a constructor throws. -/
structure ConstructorTexts where
  initWsk : String
  createSocket : String
  bindSocket : String

/-- The body of the three constructors. Before it runs, the storage of the
object holds arbitrary values. -/
def construct (create : WskProviderNpi → PWskSocket → Win (NtStatus × PWskSocket))
    (bind : PWskSocket → Win NtStatus) (texts : ConstructorTexts) (storage : Socket) :
    Win (Except SocketException Socket) := do
  let (status, wskReg, providNpi) ← Utils.initWsk storage.wskReg storage.providNpi
  if !ntSuccess status then
    return .error ⟨texts.initWsk, status⟩
  let (status, sock) ← create providNpi storage.sock
  if !ntSuccess status then
    return .error ⟨texts.createSocket, status⟩
  let status ← bind sock
  if !ntSuccess status then
    return .error ⟨texts.bindSocket, status⟩
  return .ok { sock, providNpi, wskReg }

/-- The end of every method: a failure is thrown, a success is returned. -/
def throwOnFailure (text : String) (status : NtStatus) : Except SocketException NtStatus :=
  if !ntSuccess status then .error ⟨text, status⟩ else .ok status

theorem throwOnFailure_eq_ok {text : String} {status status' : NtStatus} :
    throwOnFailure text status = .ok status' ↔ ntSuccess status = true ∧ status = status' := by
  cases h : ntSuccess status <;> simp [throwOnFailure, h]

/-- The body of the three destructors. -/
def destroy (this : Socket) : Win Unit := do
  Utils.closeSocket this.sock
  Utils.deregisterWsk this.wskReg

namespace ListenerSocket

def construct (storage : Socket) : Win (Except SocketException Socket) :=
  Sockets.construct Utils.createListeningSocket Utils.bindListenerSocket
    { initWsk := "Failed _ListenerSocket::_ListenerSocket(x)::InitWsk"
      createSocket := "Failed _ListenerSocket::_ListenerSocket(x)::CreateListeningSocket"
      bindSocket := "Failed _ListenerSocket::_ListenerSocket(x)::BindSocket" }
    storage

def accept (this : Socket) : Win (Except SocketException NtStatus) := do
  let status ← Utils.acceptConnection this.sock
  return throwOnFailure "Failed _ListenerSocket::Accept()" status

def destroy (this : Socket) : Win Unit := Sockets.destroy this

end ListenerSocket

namespace ConnectionSocket

def construct (storage : Socket) : Win (Except SocketException Socket) :=
  Sockets.construct Utils.createConnectionSocket Utils.bindConnectionSocket
    { initWsk := "Failed _ConnectionSocket::_ConnectionSocket(x)::InitWsk"
      createSocket := "Failed _ConnectionSocket::_ConnectionSocket(x)::CreateConnectionSocket"
      bindSocket := "Failed _ConnectionSocket::_ConnectionSocket(x)::BindSocket" }
    storage

def connect (this : Socket) (connectionAdress : Endpoint) :
    Win (Except SocketException NtStatus) := do
  let adress ← Utils.convertStringToAdress this.providNpi connectionAdress
  let status ← Utils.connectConnectionSocket this.sock adress
  return throwOnFailure "_ConnectionSocket::Connect" status

def sendData (this : Socket) (data : PVoid) (dataSize : ULong) :
    Win (Except SocketException NtStatus) := do
  let status ← Utils.sendDataConnectionSocket this.sock data dataSize
  return throwOnFailure "_ConnectionSocket::SendData" status

-- This method and the next throw with the text of `SendData`, as the source does.
def receivData (this : Socket) (data : PVoid) (dataSize : ULong) :
    Win (Except SocketException NtStatus) := do
  let status ← Utils.getDataConnectionSocket this.sock data dataSize
  return throwOnFailure "_ConnectionSocket::SendData" status

def disconnect (this : Socket) : Win (Except SocketException NtStatus) := do
  let status ← Utils.disconnectConnectionSocket this.sock
  return throwOnFailure "_ConnectionSocket::SendData" status

def destroy (this : Socket) : Win Unit := Sockets.destroy this

end ConnectionSocket

namespace DatagramSocket

def construct (storage : Socket) : Win (Except SocketException Socket) :=
  Sockets.construct Utils.createDatagramSocket Utils.bindDatagramSocket
    { initWsk := "Failed Failed _DatagramSocket::_DatagramSocket(x)::InitWsk"
      createSocket := "Failed __DatagramSocket::_DatagramSocket(x)::CreateListeningSocket"
      bindSocket := "Failed _DatagramSocket::_DatagramSocket(x)::BindSocket" }
    storage

/-- `sizeof(Data)` is the size of the pointer. -/
def sizeofData : ULong := 8#32

def sendData (this : Socket) (data : PVoid) (connectionAdress : Endpoint) :
    Win (Except SocketException NtStatus) := do
  let adress ← Utils.convertStringToAdress this.providNpi connectionAdress
  let status ← Utils.sendDataDatagramSocket this.sock data sizeofData adress
  return throwOnFailure "utils::SendDataDatagramSocket" status

def receivData (this : Socket) (data : PVoid) (dataSize : ULong) :
    Win (Except SocketException NtStatus) := do
  let status ← Utils.getDataDatagramSocket this.sock data dataSize
  return throwOnFailure "utils::SendDataDatagramSocket" status

def destroy (this : Socket) : Win Unit := Sockets.destroy this

end DatagramSocket

/-! ## Classes and their methods -/

inductive SocketClass where
  | listenerSocket | connectionSocket | datagramSocket
  deriving DecidableEq

inductive Method where
  | accept
  | connect (connectionAdress : Endpoint)
  | sendData (data : PVoid) (dataSize : ULong)
  | receivData (data : PVoid) (dataSize : ULong)
  | disconnect
  | sendDatagram (data : PVoid) (connectionAdress : Endpoint)
  | receivDatagram (data : PVoid) (dataSize : ULong)
  deriving DecidableEq

/-- The class that declares a method. -/
def Method.cls : Method → SocketClass
  | accept => .listenerSocket
  | connect _ | sendData _ _ | receivData _ _ | disconnect => .connectionSocket
  | sendDatagram _ _ | receivDatagram _ _ => .datagramSocket

def SocketClass.construct : SocketClass → Socket → Win (Except SocketException Socket)
  | listenerSocket => ListenerSocket.construct
  | connectionSocket => ConnectionSocket.construct
  | datagramSocket => DatagramSocket.construct

def Method.invoke (this : Socket) : Method → Win (Except SocketException NtStatus)
  | accept => ListenerSocket.accept this
  | connect adress => ConnectionSocket.connect this adress
  | sendData data dataSize => ConnectionSocket.sendData this data dataSize
  | receivData data dataSize => ConnectionSocket.receivData this data dataSize
  | disconnect => ConnectionSocket.disconnect this
  | sendDatagram data adress => DatagramSocket.sendData this data adress
  | receivDatagram data dataSize => DatagramSocket.receivData this data dataSize

def SocketClass.destroy : SocketClass → Socket → Win Unit
  | listenerSocket => ListenerSocket.destroy
  | connectionSocket => ConnectionSocket.destroy
  | datagramSocket => DatagramSocket.destroy

end Sockets

end WinShell
