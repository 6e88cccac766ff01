-- SUMMARY: Status codes, machine integers and socket addresses of the Windows kernel interface.
import Mathlib.Tactic.Common

/-!
# Kernel interface types

The integer types have the widths of the 64-bit targets the project is built
for. Status codes are compared as signed integers, as `NT_SUCCESS` does.
-/

namespace WinShell

abbrev Byte := BitVec 8
abbrev WChar := BitVec 16
abbrev UShort := BitVec 16
abbrev ULong := BitVec 32
abbrev ULongPtr := BitVec 64
abbrev PVoid := BitVec 64
abbrev NtStatus := BitVec 32

/-! ## Status codes -/

def statusSuccess : NtStatus := 0x00000000#32
def statusPending : NtStatus := 0x00000103#32
def statusInvalidParameter : NtStatus := 0xC000000D#32
def statusMoreProcessingRequired : NtStatus := 0xC0000016#32

/-- `NT_SUCCESS`: the status, read as a signed integer, is not negative. -/
def ntSuccess (status : NtStatus) : Bool := decide (0 ≤ status.toInt)

/-- `STATUS_PENDING` counts as a success. -/
theorem ntSuccess_statusPending : ntSuccess statusPending = true := by decide

theorem ne_statusPending_of_failure {status : NtStatus} (h : ntSuccess status = false) :
    status ≠ statusPending := by
  rintro rfl
  rw [ntSuccess_statusPending] at h
  cases h

/-- `(USHORT)GetDataSize < 0`: the truncated count is promoted to `int` before
the comparison. -/
def ushortNegative (getDataSize : ULongPtr) : Bool :=
  decide (((getDataSize.setWidth 16).toNat : Int) < 0)

/-- An unsigned count is never negative, so the check on the transferred length
never fires. -/
@[simp] theorem ushortNegative_eq_false (getDataSize : ULongPtr) :
    ushortNegative getDataSize = false := by
  simp only [ushortNegative, decide_eq_false_iff_not, Int.not_lt]
  exact Int.natCast_nonneg _

/-! ## Socket addresses -/

def afInet : UShort := 2#16
def sockStream : UShort := 1#16
def sockDgram : UShort := 2#16
def ipprotoTcp : ULong := 6#32
def ipprotoUdp : ULong := 17#32
def nsAll : ULong := 0#32

/-- `SOCKADDR`: a family and fourteen bytes that the family gives a meaning to. -/
structure SockAddr where
  saFamily : UShort
  saData : Vector Byte 14
  deriving DecidableEq

namespace SockAddr

/-- `SOCKADDR adress = { 0 }`. -/
def zero : SockAddr := ⟨0#16, Vector.replicate 14 0#8⟩

/-- The sixteen bytes of a `SOCKADDR` read from memory, low byte first. -/
def read (memory : Nat → Byte) : SockAddr where
  saFamily := memory 1 ++ memory 0
  saData := Vector.ofFn fun i => memory (i + 2)

/-- The bytes of a `SOCKADDR` in memory. -/
def byte (adress : SockAddr) : Nat → Byte
  | 0 => adress.saFamily.setWidth 8
  | 1 => (adress.saFamily >>> 8).setWidth 8
  | i + 2 => adress.saData[i]?.getD 0#8

/-- An address that was read from memory has the bytes that are there. -/
theorem byte_read {memory : Nat → Byte} {i : Nat} (hi : i < 16) :
    (read memory).byte i = memory i := by
  match i with
  | 0 => exact @BitVec.setWidth_append_eq_right 8 8 (memory 1) (memory 0)
  | 1 =>
    rw [read, byte, BitVec.setWidth_ushiftRight_eq_extractLsb,
      BitVec.extractLsb'_append_eq_of_le (Nat.le_refl 8)]
    exact BitVec.extractLsb'_eq_self
  | i + 2 =>
    have hlt : i < 14 := by omega
    simp [read, byte, hlt]

end SockAddr

/-- `SOCKADDR_IN`; the address and the padding are left zero by every user. -/
structure SockAddrIn where
  sinFamily : UShort
  sinPort : UShort

/-- `(PSOCKADDR)&adress` for a `SOCKADDR_IN`: the port is stored low byte first. -/
def SockAddrIn.cast (adress : SockAddrIn) : SockAddr where
  saFamily := adress.sinFamily
  saData := ((SockAddr.zero.saData.set 0 (adress.sinPort.setWidth 8)).set 1
    ((adress.sinPort >>> 8).setWidth 8))

abbrev UnicodeString := List WChar

/-- `endpoint`: the address and the port as the user wrote them. -/
structure Endpoint where
  ipAdress : UnicodeString
  port : UnicodeString
  deriving DecidableEq

/-- One entry of an `ADDRINFOEXW` list. `aiAddr` is the memory at `ai_addr`, of
which the first `aiAddrLen` bytes belong to the address. -/
structure AddrInfo where
  aiFamily : UShort
  aiAddrLen : Nat
  aiAddr : Nat → Byte

/-- The list that a resolution hands out, named by the request that produced it. -/
structure AddrInfoList where
  request : Nat
  entries : List AddrInfo

end WinShell
