-- SUMMARY: The state of the TLSF allocator: words of memory, the control structure, and the accesses its code makes to them.
import WinShell.Effect.Run
import Mathlib.Data.Nat.Bitwise

/-!
# Memory and control structure

The allocator of `tlsf.c` keeps its headers in the memory that it manages. Memory
is a function from the addresses of aligned 64-bit words. The bitmaps and the list
heads of `control_t` are arrays of their own. `block_null`, which starts the
structure, is addressed as a block and lies in memory, at the address of the
structure.

A program performs one access at a time. It stops at a failed `tlsf_assert`, and at a
word that is not aligned, that lies outside of the memory given to the allocator, or
that belongs to the arrays. An index outside of an array reaches what lies behind it:
the list heads behind the bitmaps, and the first block of the pool behind the list heads.
-/

namespace WinShell.Tlsf

open Effect

/-! ## Constants -/

@[simp] def slIndexCountLog2 : Nat := 5
@[simp] def alignSizeLog2 : Nat := 3
@[simp] def alignSize : Nat := 1 <<< alignSizeLog2
@[simp] def flIndexMax : Nat := 32
@[simp] def slIndexCount : Nat := 1 <<< slIndexCountLog2
@[simp] def flIndexShift : Nat := slIndexCountLog2 + alignSizeLog2
@[simp] def flIndexCount : Nat := flIndexMax - flIndexShift + 1
@[simp] def smallBlockSize : Nat := 1 <<< flIndexShift

/-- `sizeof(block_header_t)`: four words. -/
@[simp] def sizeofBlockHeader : Nat := 32
@[simp] def blockHeaderOverhead : Nat := 8
@[simp] def blockStartOffset : Nat := 16
@[simp] def blockSizeMin : Nat := sizeofBlockHeader - 8
@[simp] def blockSizeMax : Nat := 1 <<< flIndexMax

@[simp] def blockHeaderFreeBit : Nat := 1 <<< 0
@[simp] def blockHeaderPrevFreeBit : Nat := 1 <<< 1

/-- `sizeof(control_t)`: the null block, the bitmaps and the list heads. -/
@[simp] def tlsfSize : Nat :=
  sizeofBlockHeader + 4 + 4 * flIndexCount + 8 * (flIndexCount * slIndexCount)

/-! ## State -/

/-- Memory, and the fields of `control_t` behind the null block. -/
structure State where
  mem : Nat → Nat
  flBitmap : BitVec 32
  slBitmap : Nat → BitVec 32
  blocks : Nat → Nat → Nat

/-- The accesses of the allocator. -/
inductive Access where
  | load (address : Nat)
  | store (address value : Nat)
  | readFl
  | writeFl (map : BitVec 32)
  | readSl (fl : Nat)
  | writeSl (fl : Nat) (map : BitVec 32)
  | readHead (fl sl : Nat)
  | writeHead (fl sl block : Nat)
  | assert (condition : Bool)

/-- What an access gives back. -/
@[simp] def Access.Ret : Access → Type
  | load _ | readHead _ _ => Nat
  | readFl | readSl _ => BitVec 32
  | store _ _ | writeFl _ | writeSl _ _ | writeHead _ _ _ | assert _ => Unit

def accesses : Signature := ⟨Access, Access.Ret⟩

/-- The programs of the allocator. -/
abbrev Code := Prog accesses

namespace State

variable {s : State} {a b v : Nat}

def store (s : State) (address value : Nat) : State :=
  { s with mem := Function.update s.mem address value }

@[simp] theorem mem_store : (s.store a v).mem b = if b = a then v else s.mem b :=
  Function.update_apply s.mem a v b

@[simp] theorem flBitmap_store : (s.store a v).flBitmap = s.flBitmap := rfl
@[simp] theorem slBitmap_store : (s.store a v).slBitmap = s.slBitmap := rfl
@[simp] theorem blocks_store : (s.store a v).blocks = s.blocks := rfl

def setSl (s : State) (fl : Nat) (map : BitVec 32) : State :=
  { s with slBitmap := Function.update s.slBitmap fl map }

theorem slBitmap_setSl {fl i : Nat} {map : BitVec 32} :
    (s.setSl fl map).slBitmap i = if i = fl then map else s.slBitmap i :=
  Function.update_apply s.slBitmap fl map i

def setHead (s : State) (fl sl block : Nat) : State :=
  { s with blocks := Function.update s.blocks fl (Function.update (s.blocks fl) sl block) }

theorem blocks_setHead {fl sl i j : Nat} :
    (s.setHead fl sl v).blocks i j = if i = fl ∧ j = sl then v else s.blocks i j := by
  by_cases hi : i = fl
  · subst hi
    by_cases hj : j = sl
    · simp [setHead, hj]
    · simp [setHead, hj]
  · simp [setHead, hi]

end State

/-- The memory given to `tlsf_create_with_pool`: `bytes` from `control` on, with room for
the control structure. -/
structure Arena where
  control : Nat
  bytes : Nat
  aligned : 8 ∣ control
  pos : 0 < control
  lt : control + bytes < 2 ^ 64
  room : tlsfSize ≤ bytes

/-- The words reached through block headers: those of the null block, and those
behind the control structure. -/
def Arena.Maps (arena : Arena) (address : Nat) : Bool :=
  address % 8 = 0 ∧
    (arena.control ≤ address ∧ address < arena.control + sizeofBlockHeader ∨
      arena.control + tlsfSize ≤ address ∧ address + 8 ≤ arena.control + arena.bytes)

/-- The place of `blocks[fl][sl]` in the array. -/
def headIndex (fl sl : Nat) : Nat := slIndexCount * fl + sl

/-- The address of the list head with an index, in the array or behind it. -/
def Arena.headAddress (arena : Arena) (i : Nat) : Nat :=
  arena.control + (sizeofBlockHeader + 4 + 4 * flIndexCount) + 8 * i

/-- What a program reads as a list head. -/
def State.readSlot (arena : Arena) (s : State) (i : Nat) : Option Nat :=
  if i < flIndexCount * slIndexCount then some (s.blocks (i / slIndexCount) (i % slIndexCount))
  else if arena.Maps (arena.headAddress i) then some (s.mem (arena.headAddress i))
  else none

def State.writeSlot (arena : Arena) (s : State) (i v : Nat) : Option State :=
  if i < flIndexCount * slIndexCount then some (s.setHead (i / slIndexCount) (i % slIndexCount) v)
  else if arena.Maps (arena.headAddress i) then some (s.store (arena.headAddress i) v)
  else none

/-- One half of a word. -/
def halfWord (upper : Bool) (word : Nat) : BitVec 32 :=
  BitVec.ofNat 32 (if upper then word / 2 ^ 32 else word)

def setHalfWord (upper : Bool) (word : Nat) (v : BitVec 32) : Nat :=
  if upper then word % 2 ^ 32 + 2 ^ 32 * v.toNat else word / 2 ^ 32 * 2 ^ 32 + v.toNat

/-- `sl_bitmap[fl]`. Two elements behind the bitmaps are one list head. -/
def State.readBitmap (arena : Arena) (s : State) (fl : Nat) : Option (BitVec 32) :=
  if fl < flIndexCount then some (s.slBitmap fl)
  else (s.readSlot arena ((fl - flIndexCount) / 2)).map (halfWord ((fl - flIndexCount) % 2 = 1))

def State.writeBitmap (arena : Arena) (s : State) (fl : Nat) (map : BitVec 32) : Option State :=
  if fl < flIndexCount then some (s.setSl fl map)
  else do
    let word ← s.readSlot arena ((fl - flIndexCount) / 2)
    s.writeSlot arena ((fl - flIndexCount) / 2) (setHalfWord ((fl - flIndexCount) % 2 = 1) word map)

/-- The access with the state that it leaves, if there is one. -/
def answer (s : State) : Option State → Option Unit × State
  | some s' => (some (), s')
  | none => (none, s)

/-- The machine of the allocator. -/
def machine (arena : Arena) : Machine accesses State
  | s, .load a => if arena.Maps a then (some (s.mem a), s) else (none, s)
  | s, .store a v => if arena.Maps a then (some (), s.store a v) else (none, s)
  | s, .readFl => (some s.flBitmap, s)
  | s, .writeFl map => (some (), { s with flBitmap := map })
  | s, .readSl fl => (s.readBitmap arena fl, s)
  | s, .writeSl fl map => answer s (s.writeBitmap arena fl map)
  | s, .readHead fl sl => (s.readSlot arena (headIndex fl sl), s)
  | s, .writeHead fl sl block => answer s (s.writeSlot arena (headIndex fl sl) block)
  | s, .assert condition => if condition then (some (), s) else (none, s)

section Slots

variable {arena : Arena} {s : State} {fl sl v : Nat} {map : BitVec 32}

theorem headIndex_lt (hf : fl < flIndexCount) (hs : sl < slIndexCount) :
    headIndex fl sl < flIndexCount * slIndexCount := by
  have hf : fl < 25 := hf
  have hs : sl < 32 := hs
  show 32 * fl + sl < 25 * 32
  omega

theorem headIndex_div (hs : sl < slIndexCount) : headIndex fl sl / slIndexCount = fl := by
  have hs : sl < 32 := hs
  show (32 * fl + sl) / 32 = fl
  omega

theorem headIndex_mod (hs : sl < slIndexCount) : headIndex fl sl % slIndexCount = sl := by
  have hs : sl < 32 := hs
  show (32 * fl + sl) % 32 = sl
  omega

theorem readSlot_eq (hf : fl < flIndexCount) (hs : sl < slIndexCount) :
    s.readSlot arena (headIndex fl sl) = some (s.blocks fl sl) := by
  rw [State.readSlot, if_pos (headIndex_lt hf hs), headIndex_div hs, headIndex_mod hs]

theorem writeSlot_eq (hf : fl < flIndexCount) (hs : sl < slIndexCount) :
    s.writeSlot arena (headIndex fl sl) v = some (s.setHead fl sl v) := by
  rw [State.writeSlot, if_pos (headIndex_lt hf hs), headIndex_div hs, headIndex_mod hs]

/-- Behind the last list lie the words of the first block, its size first. -/
theorem readSlot_behind {i : Nat} (hi : flIndexCount * slIndexCount ≤ i)
    (hmaps : arena.Maps (arena.headAddress i)) :
    s.readSlot arena i = some (s.mem (arena.headAddress i)) := by
  rw [State.readSlot, if_neg (Nat.not_lt.2 hi), if_pos hmaps]

end Slots

/-! ## Accesses -/

@[simp] def load (address : Nat) : Code Nat := Prog.perform (S := accesses) (.load address)
@[simp] def store (address value : Nat) : Code Unit :=
  Prog.perform (S := accesses) (.store address value)
@[simp] def readFl : Code (BitVec 32) := Prog.perform (S := accesses) .readFl
@[simp] def writeFl (map : BitVec 32) : Code Unit := Prog.perform (S := accesses) (.writeFl map)
@[simp] def readSl (fl : Nat) : Code (BitVec 32) := Prog.perform (S := accesses) (.readSl fl)
@[simp] def writeSl (fl : Nat) (map : BitVec 32) : Code Unit :=
  Prog.perform (S := accesses) (.writeSl fl map)
@[simp] def readHead (fl sl : Nat) : Code Nat := Prog.perform (S := accesses) (.readHead fl sl)
@[simp] def writeHead (fl sl block : Nat) : Code Unit :=
  Prog.perform (S := accesses) (.writeHead fl sl block)
@[simp] def assert (condition : Bool) : Code Unit :=
  Prog.perform (S := accesses) (.assert condition)

/-! ## Runs -/

/-- A run that returns: no assertion fails, and every access is to the arena. -/
abbrev Runs (arena : Arena) {α : Type} (p : Code α) (s : State) (a : α) (s' : State) : Prop :=
  Prog.Runs (machine arena) p s a s'

section Runs

variable {arena : Arena} {s : State} {a v fl sl : Nat} {map : BitVec 32}

theorem runs_load (h : arena.Maps a) : Runs arena (load a) s (s.mem a) s :=
  Prog.Runs.perform (by rw [machine, if_pos h])

theorem runs_store (h : arena.Maps a) : Runs arena (store a v) s () (s.store a v) :=
  Prog.Runs.perform (by rw [machine, if_pos h])

theorem runs_readFl : Runs arena readFl s s.flBitmap s := Prog.Runs.perform rfl

theorem runs_writeFl : Runs arena (writeFl map) s () { s with flBitmap := map } :=
  Prog.Runs.perform rfl

theorem runs_readSl (h : fl < flIndexCount) : Runs arena (readSl fl) s (s.slBitmap fl) s :=
  Prog.Runs.perform (by
    rw [machine, State.readBitmap, if_pos h]
    rfl)

theorem runs_writeSl (h : fl < flIndexCount) : Runs arena (writeSl fl map) s () (s.setSl fl map) :=
  Prog.Runs.perform (by
    rw [machine, State.writeBitmap, if_pos h, answer]
    rfl)

theorem runs_readHead (hf : fl < flIndexCount) (hs : sl < slIndexCount) :
    Runs arena (readHead fl sl) s (s.blocks fl sl) s :=
  Prog.Runs.perform (by
    rw [machine, readSlot_eq hf hs]
    rfl)

theorem runs_writeHead (hf : fl < flIndexCount) (hs : sl < slIndexCount) :
    Runs arena (writeHead fl sl a) s () (s.setHead fl sl a) :=
  Prog.Runs.perform (by
    rw [machine, writeSlot_eq hf hs, answer]
    rfl)

theorem runs_assert {condition : Bool} (h : condition = true) :
    Runs arena (assert condition) s () s :=
  Prog.Runs.perform (by rw [machine, if_pos h])

end Runs

end WinShell.Tlsf
