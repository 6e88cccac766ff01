-- SUMMARY: The request operations of the utils namespace, translated statement by statement.
import WinShell.Kernel

/-!
# The request operations

The functions of `utils.cpp`. Each runs in a frame of its own, which holds the
event, the buffer descriptor and the other locals whose address leaves the
function. Debug prints are left out; they do not act on the state.

The bodies that are the same text up to the provider call they make are one
definition with that call as a parameter. Every function keeps its own name
below it.
-/

namespace WinShell

open Effect

/-! ## Kernel primitives

Each is one node of a program, and `simp` opens it as such. -/

@[simp] def pushFrame : Win Nat := primitive .pushFrame
@[simp] def popFrame (frame : Nat) : Win Unit := primitive (.popFrame frame)
@[simp] def ioAllocateIrp : Win PIrp := primitive .ioAllocateIrp
@[simp] def ioFreeIrp (irp : PIrp) : Win Unit := primitive (.ioFreeIrp irp)
@[simp] def keInitializeEvent (event : StackRef) (type : EventType) (state : Bool) : Win Unit :=
  primitive (.keInitializeEvent event type state)
@[simp] def ioSetCompletionRoutine (irp : PIrp) (context : StackRef)
    (invokeOnSuccess invokeOnError invokeOnCancel : Bool) : Win Unit :=
  primitive (.ioSetCompletionRoutine irp
    ⟨context, invokeOnSuccess, invokeOnError, invokeOnCancel⟩)
@[simp] def ioAllocateMdl (virtualAddress : PVoid) (length : ULong) : Win PMdl :=
  primitive (.ioAllocateMdl virtualAddress length)
@[simp] def mmBuildMdlForNonPagedPool (mdl : PMdl) : Win Unit :=
  primitive (.mmBuildMdlForNonPagedPool mdl)
@[simp] def ioFreeMdl (mdl : PMdl) : Win Unit := primitive (.ioFreeMdl mdl)
@[simp] def keWaitForSingleObject (event : StackRef) : Win Unit :=
  primitive (.keWaitForSingleObject event)
@[simp] def ioStatusStatus (irp : PIrp) : Win NtStatus := primitive (.ioStatusStatus irp)
@[simp] def ioStatusInformation (irp : PIrp) : Win ULongPtr := primitive (.ioStatusInformation irp)
@[simp] def readResult (result : StackRef) : Win SockAddr := primitive (.readResult result)
@[simp] def wskRegister (dispatch : StackRef) : Win (NtStatus × WskRegistration) :=
  primitive (.wskRegister dispatch)
@[simp] def wskCaptureProviderNpi (registration : WskRegistration) : Win (NtStatus × WskProviderNpi) :=
  primitive (.wskCaptureProviderNpi registration)
@[simp] def wskReleaseProviderNpi (registration : WskRegistration) : Win Unit :=
  primitive (.wskReleaseProviderNpi registration)
@[simp] def wskDeregister (registration : WskRegistration) : Win Unit :=
  primitive (.wskDeregister registration)

/-- A provider call with an IRP, from its submission to its return. -/
def callProvider (call : WskCall) (irp : PIrp) : Win NtStatus := do
  primitive (.submit call irp)
  primitive (.callReturn irp)

/-- A function call: the body runs in a fresh frame, gone when it returns. -/
def inFrame {α : Type} (body : Nat → Win α) : Win α := do
  let frame ← pushFrame
  let a ← body frame
  popFrame frame
  return a

namespace Utils

/-! ## Common -/

def convertStringToAdress (wskNpi : WskProviderNpi) (stringAdress : Endpoint) : Win SockAddr :=
  inFrame fun frame => do
    let event : StackRef := ⟨frame, .event⟩
    let irp ← ioAllocateIrp
    keInitializeEvent event .notificationEvent false
    ioSetCompletionRoutine irp event true true true
    let mut adress := SockAddr.zero
    let result : StackRef := ⟨frame, .result⟩
    let mut status ← callProvider
      (.wskGetAddressInfo wskNpi stringAdress.ipAdress stringAdress.port nsAll
        ⟨frame, .stringAdress⟩ result) irp
    if status = statusPending then
      keWaitForSingleObject event
      status ← ioStatusStatus irp
      if !ntSuccess status then
        ioFreeIrp irp
        return adress
    -- Reached after an inline failure too, with `Result` still unset.
    adress ← readResult result
    ioFreeIrp irp
    return adress

/-- The out parameters are passed and returned by value. -/
def initWsk (wskRegistretion : WskRegistration) (wskProviderNpi : WskProviderNpi) :
    Win (NtStatus × WskRegistration × WskProviderNpi) :=
  inFrame fun frame => do
    let mut wskRegistretion := wskRegistretion
    let mut wskProviderNpi := wskProviderNpi
    let registered ← wskRegister ⟨frame, .wskClientDispatch⟩
    let mut status := registered.1
    wskRegistretion := registered.2
    if !ntSuccess status then
      return (status, wskRegistretion, wskProviderNpi)
    let captured ← wskCaptureProviderNpi wskRegistretion
    status := captured.1
    wskProviderNpi := captured.2
    if !ntSuccess status then
      wskDeregister wskRegistretion
      return (status, wskRegistretion, wskProviderNpi)
    return (status, wskRegistretion, wskProviderNpi)

def deregisterWsk (wskRegistretion : WskRegistration) : Win Unit := do
  wskReleaseProviderNpi wskRegistretion
  wskDeregister wskRegistretion

def closeSocket (sock : PWskSocket) : Win Unit :=
  inFrame fun frame => do
    let event : StackRef := ⟨frame, .event⟩
    let irp ← ioAllocateIrp
    keInitializeEvent event .notificationEvent false
    ioSetCompletionRoutine irp event true true true
    let mut status ← callProvider (.wskCloseSocket sock) irp
    if status = statusPending then
      keWaitForSingleObject event
      status ← ioStatusStatus irp
      if !ntSuccess status then
        ioFreeIrp irp
        return
    ioFreeIrp irp

/-! ## Shared bodies -/

/-- The body of every operation that makes one request and reports its status. -/
def requestStatus (call : Nat → WskCall) : Win NtStatus :=
  inFrame fun frame => do
    let event : StackRef := ⟨frame, .event⟩
    let irp ← ioAllocateIrp
    keInitializeEvent event .notificationEvent false
    ioSetCompletionRoutine irp event true true true
    let mut status ← callProvider (call frame) irp
    if status = statusPending then
      keWaitForSingleObject event
      status ← ioStatusStatus irp
      if !ntSuccess status then
        ioFreeIrp irp
        return status
    ioFreeIrp irp
    return status

/-- The body of the two creators that test the status only after a wait. An
inline failure stores the handle as a success does. -/
def createSocket (call : WskCall) (sock : PWskSocket) : Win (NtStatus × PWskSocket) :=
  inFrame fun frame => do
    let event : StackRef := ⟨frame, .event⟩
    let mut sock := sock
    let irp ← ioAllocateIrp
    keInitializeEvent event .notificationEvent false
    ioSetCompletionRoutine irp event true true true
    let mut status ← callProvider call irp
    if status = statusPending then
      keWaitForSingleObject event
      status ← ioStatusStatus irp
      if !ntSuccess status then
        ioFreeIrp irp
        return (status, sock)
    sock ← ioStatusInformation irp
    ioFreeIrp irp
    return (status, sock)

/-- The body of the two senders. The MDL is released on an inline failure and in
the branch on the transferred length. -/
def sendData (call : Nat → WskBuf → WskCall) (data : PVoid) (dataSize : ULong) : Win NtStatus :=
  inFrame fun frame => do
    let event : StackRef := ⟨frame, .event⟩
    let irp ← ioAllocateIrp
    let mdl ← ioAllocateMdl data dataSize
    mmBuildMdlForNonPagedPool mdl
    let buffer : WskBuf := ⟨mdl, 0#32, dataSize.setWidth 64⟩
    keInitializeEvent event .notificationEvent false
    ioSetCompletionRoutine irp event true true true
    let mut status ← callProvider (call frame buffer) irp
    if !ntSuccess status then
      ioFreeMdl buffer.mdl
      ioFreeIrp irp
      return status
    if status = statusPending then
      keWaitForSingleObject event
      status ← ioStatusStatus irp
      if !ntSuccess status then
        ioFreeIrp irp
        return status
    let getDataSize ← ioStatusInformation irp
    if ushortNegative getDataSize then
      ioFreeMdl buffer.mdl
      status := statusInvalidParameter
    ioFreeIrp irp
    return status

/-! ## Connection socket -/

/-- Unlike the other creators, this one tests the status before the wait too. -/
def createConnectionSocket (wskProviderNpi : WskProviderNpi) (sock : PWskSocket) :
    Win (NtStatus × PWskSocket) :=
  inFrame fun frame => do
    let event : StackRef := ⟨frame, .event⟩
    let mut sock := sock
    let irp ← ioAllocateIrp
    keInitializeEvent event .notificationEvent false
    ioSetCompletionRoutine irp event true true true
    let mut status ← callProvider
      (.wskSocket wskProviderNpi afInet sockStream ipprotoTcp wskFlagConnectionSocket) irp
    if !ntSuccess status then
      ioFreeIrp irp
      return (status, sock)
    if status = statusPending then
      keWaitForSingleObject event
      status ← ioStatusStatus irp
      if !ntSuccess status then
        ioFreeIrp irp
        return (status, sock)
    sock ← ioStatusInformation irp
    ioFreeIrp irp
    return (status, sock)

def bindConnectionSocket (sock : PWskSocket) : Win NtStatus :=
  requestStatus fun frame =>
    .wskBind sock { SockAddr.zero with saFamily := afInet } ⟨frame, .localAdress⟩

def disconnectConnectionSocket (sock : PWskSocket) : Win NtStatus :=
  requestStatus fun _ => .wskDisconnect sock

def connectConnectionSocket (sock : PWskSocket) (connectionAdress : SockAddr) : Win NtStatus :=
  requestStatus fun _ => .wskConnect sock connectionAdress

def sendDataConnectionSocket (sock : PWskSocket) (data : PVoid) (dataSize : ULong) :
    Win NtStatus :=
  sendData (fun frame buffer => .wskSend sock buffer ⟨frame, .buffer⟩) data dataSize

/-- Unlike the senders, this one releases the MDL on an inline failure only after
the wait has been passed. -/
def getDataConnectionSocket (sock : PWskSocket) (data : PVoid) (dataSize : ULong) :
    Win NtStatus :=
  inFrame fun frame => do
    let event : StackRef := ⟨frame, .event⟩
    let irp ← ioAllocateIrp
    let mdl ← ioAllocateMdl data dataSize
    mmBuildMdlForNonPagedPool mdl
    let buffer : WskBuf := ⟨mdl, 0#32, dataSize.setWidth 64⟩
    keInitializeEvent event .notificationEvent false
    ioSetCompletionRoutine irp event true true true
    let mut status ← callProvider (.wskReceive sock buffer ⟨frame, .buffer⟩) irp
    if status = statusPending then
      keWaitForSingleObject event
      status ← ioStatusStatus irp
      if !ntSuccess status then
        ioFreeIrp irp
        return status
    if !ntSuccess status then
      ioFreeMdl buffer.mdl
      ioFreeIrp irp
      return status
    let getDataSize ← ioStatusInformation irp
    if ushortNegative getDataSize then
      ioFreeMdl buffer.mdl
      status := statusInvalidParameter
    ioFreeIrp irp
    return status

/-! ## Datagram socket -/

def createDatagramSocket (wskProviderNpi : WskProviderNpi) (sock : PWskSocket) :
    Win (NtStatus × PWskSocket) :=
  createSocket
    (.wskSocket wskProviderNpi afInet sockDgram ipprotoUdp wskFlagDatagramSocket) sock

/-- `SOCKADDR_IN adress` of the datagram functions. -/
def datagramAdress : SockAddrIn := ⟨afInet, 1337#16⟩

def bindDatagramSocket (sock : PWskSocket) : Win NtStatus :=
  requestStatus fun frame => .wskBind sock datagramAdress.cast ⟨frame, .adress⟩

def sendDataDatagramSocket (sock : PWskSocket) (data : PVoid) (dataSize : ULong)
    (connectionAddress : SockAddr) : Win NtStatus :=
  sendData (fun frame buffer => .wskSendTo sock buffer ⟨frame, .buffer⟩ connectionAddress)
    data dataSize

/-- The only one of the four data operations that never releases its MDL. -/
def getDataDatagramSocket (sock : PWskSocket) (data : PVoid) (dataSize : ULong) :
    Win NtStatus :=
  inFrame fun frame => do
    let event : StackRef := ⟨frame, .event⟩
    let irp ← ioAllocateIrp
    let mdl ← ioAllocateMdl data dataSize
    mmBuildMdlForNonPagedPool mdl
    let buffer : WskBuf := ⟨mdl, 0#32, dataSize.setWidth 64⟩
    keInitializeEvent event .notificationEvent false
    ioSetCompletionRoutine irp event true true true
    let mut status ← callProvider
      (.wskReceiveFrom sock buffer ⟨frame, .buffer⟩ datagramAdress.cast
        ⟨frame, .adress⟩ ⟨frame, .received⟩) irp
    if status = statusPending then
      keWaitForSingleObject event
      status ← ioStatusStatus irp
      if !ntSuccess status then
        ioFreeIrp irp
        return status
    let getDataSize ← ioStatusInformation irp
    if ushortNegative getDataSize then
      status := statusInvalidParameter
    ioFreeIrp irp
    return status

/-! ## Listener socket -/

def createListeningSocket (wskProviderNpi : WskProviderNpi) (sock : PWskSocket) :
    Win (NtStatus × PWskSocket) :=
  createSocket
    (.wskSocket wskProviderNpi afInet sockStream ipprotoTcp wskFlagListenSocket) sock

def bindListenerSocket (sock : PWskSocket) : Win NtStatus :=
  requestStatus fun frame =>
    .wskBind sock { SockAddr.zero with saFamily := afInet } ⟨frame, .localAdress⟩

/-- The accepted socket stays in the IRP, which is freed here. -/
def acceptConnection (sock : PWskSocket) : Win NtStatus :=
  requestStatus fun _ => .wskAccept sock

end Utils

end WinShell
