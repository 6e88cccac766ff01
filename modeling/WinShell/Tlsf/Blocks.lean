-- SUMMARY: Sizes, size classes and block headers of the TLSF allocator, and its free lists.
import WinShell.Tlsf.Memory

/-!
# Blocks

The helpers of `tlsf.c`, in the order of the source: arithmetic on sizes, the
mapping from sizes to the classes of the free lists, the fields of a block header,
and the free lists. Arithmetic on `size_t` that may wrap is written as such.
-/

namespace WinShell.Tlsf

/-! ## Words -/

/-- `w & ~mask`. -/
def clearBits (w mask : Nat) : Nat := w - (w &&& mask)

/-- Addition and subtraction of `size_t`. -/
def sizetAdd (a b : Nat) : Nat := (a + b) % 2 ^ 64
def sizetSub (a b : Nat) : Nat := (a + 2 ^ 64 - b) % 2 ^ 64

/-- The highest set bit, by `_BitScanReverse`. -/
def tlsfFls (word : Nat) : Int := if word = 0 then -1 else Nat.log2 word

/-- The lowest set bit, by `_BitScanForward`. -/
def tlsfFfs (word : BitVec 32) : Int := if word = 0#32 then -1 else word.ctz.toNat

def tlsfFlsSizet (size : Nat) : Int :=
  let high := size >>> 32
  if high ≠ 0 then 32 + tlsfFls high else tlsfFls (size &&& 0xffffffff)

/-! ## Sizes -/

def isPowerOfTwo (align : Nat) : Bool := align &&& sizetSub align 1 == 0

def alignUp (x align : Nat) : Code Nat := do
  assert (isPowerOfTwo align)
  return clearBits (sizetAdd x (sizetSub align 1)) (sizetSub align 1)

def alignDown (x align : Nat) : Code Nat := do
  assert (isPowerOfTwo align)
  return x - (x &&& sizetSub align 1)

def alignPtr (ptr align : Nat) : Code Nat := do
  let aligned := clearBits (sizetAdd ptr (sizetSub align 1)) (sizetSub align 1)
  assert (isPowerOfTwo align)
  return aligned

def adjustRequestSize (size align : Nat) : Code Nat := do
  if size ≠ 0 then
    let aligned ← alignUp size align
    -- An aligned size of `blockSizeMax` or more has no list.
    if aligned < blockSizeMax then
      return max aligned blockSizeMin
  return 0

/-- The class of a block, as `(fl, sl)`. -/
def mappingInsert (size : Nat) : Nat × Nat :=
  if size < smallBlockSize then
    (0, size / (smallBlockSize / slIndexCount))
  else
    let fl := (tlsfFlsSizet size).toNat
    let sl := (size >>> (fl - slIndexCountLog2)) ^^^ (1 <<< slIndexCountLog2)
    (fl - (flIndexShift - 1), sl)

/-- The first class in which every block is large enough. -/
def mappingSearch (size : Nat) : Nat × Nat :=
  if size ≥ smallBlockSize then
    let round := (1 <<< ((tlsfFlsSizet size).toNat - slIndexCountLog2)) - 1
    mappingInsert (size + round)
  else mappingInsert size

/-! ## Block headers -/

def blockSize (block : Nat) : Code Nat := do
  let size ← load (block + 8)
  return clearBits size (blockHeaderFreeBit ||| blockHeaderPrevFreeBit)

/-- The flags stay, whatever the word held before. -/
def blockSetSize (block size : Nat) : Code Unit := do
  let oldsize ← load (block + 8)
  store (block + 8) (size ||| (oldsize &&& (blockHeaderFreeBit ||| blockHeaderPrevFreeBit)))

def blockIsLast (block : Nat) : Code Bool := do
  let size ← blockSize block
  return size == 0

def blockIsFree (block : Nat) : Code Bool := do
  let size ← load (block + 8)
  return size &&& blockHeaderFreeBit != 0

def blockSetFree (block : Nat) : Code Unit := do
  let size ← load (block + 8)
  store (block + 8) (size ||| blockHeaderFreeBit)

def blockSetUsed (block : Nat) : Code Unit := do
  let size ← load (block + 8)
  store (block + 8) (clearBits size blockHeaderFreeBit)

def blockIsPrevFree (block : Nat) : Code Bool := do
  let size ← load (block + 8)
  return size &&& blockHeaderPrevFreeBit != 0

def blockSetPrevFree (block : Nat) : Code Unit := do
  let size ← load (block + 8)
  store (block + 8) (size ||| blockHeaderPrevFreeBit)

def blockSetPrevUsed (block : Nat) : Code Unit := do
  let size ← load (block + 8)
  store (block + 8) (clearBits size blockHeaderPrevFreeBit)

def blockFromPtr (ptr : Nat) : Nat := ptr - blockStartOffset
def blockToPtr (block : Nat) : Nat := block + blockStartOffset
def offsetToBlock (ptr offset : Nat) : Nat := sizetAdd ptr offset

def blockPrev (block : Nat) : Code Nat := do
  assert (← blockIsPrevFree block)
  load block

def blockNext (block : Nat) : Code Nat := do
  let size ← blockSize block
  let next := offsetToBlock (blockToPtr block) (sizetSub size blockHeaderOverhead)
  assert (!(← blockIsLast block))
  return next

def blockLinkNext (block : Nat) : Code Nat := do
  let next ← blockNext block
  store next block
  return next

def blockMarkAsFree (block : Nat) : Code Unit := do
  let next ← blockLinkNext block
  blockSetPrevFree next
  blockSetFree block

def blockMarkAsUsed (block : Nat) : Code Unit := do
  let next ← blockNext block
  blockSetPrevUsed next
  blockSetUsed block

/-! ## Free lists -/

/-- The end of `search_suitable_block`: the head of the first list in `slMap`. -/
def firstBlock (fl : Nat) (slMap : BitVec 32) : Code (Nat × Nat × Nat) := do
  assert (slMap ≠ 0#32)
  let sl := (tlsfFfs slMap).toNat
  let block ← readHead fl sl
  return (block, fl, sl)

/-- The first block that fits, `0` if there is none, with its class. -/
def searchSuitableBlock (fl sl : Nat) : Code (Nat × Nat × Nat) := do
  let slMap := (← readSl fl) &&& (BitVec.allOnes 32 <<< sl)
  if slMap = 0#32 then
    let flMap := (← readFl) &&& (BitVec.allOnes 32 <<< (fl + 1))
    if flMap = 0#32 then
      return (0, fl, sl)
    else
      let fl := (tlsfFfs flMap).toNat
      firstBlock fl (← readSl fl)
  else
    firstBlock fl slMap

/-- The end of `remove_free_block`: `next` takes the place of a block that heads its
list, and the bitmaps follow when it is null. -/
def removeHead (control block next fl sl : Nat) : Code Unit := do
  if (← readHead fl sl) = block then
    writeHead fl sl next
    if next = control then
      let slMap := (← readSl fl) &&& ~~~(1#32 <<< sl)
      writeSl fl slMap
      if slMap = 0#32 then
        writeFl ((← readFl) &&& ~~~(1#32 <<< fl))

def removeFreeBlock (control block fl sl : Nat) : Code Unit := do
  let prev ← load (block + 24)
  let next ← load (block + 16)
  assert (prev ≠ 0)
  assert (next ≠ 0)
  store (next + 24) prev
  store (prev + 16) next
  removeHead control block next fl sl

def insertFreeBlock (control block fl sl : Nat) : Code Unit := do
  let current ← readHead fl sl
  assert (current ≠ 0)
  assert (block ≠ 0)
  store (block + 16) current
  store (block + 24) control
  store (current + 24) block
  assert (blockToPtr block = (← alignPtr (blockToPtr block) alignSize))
  writeHead fl sl block
  writeFl ((← readFl) ||| (1#32 <<< fl))
  writeSl fl ((← readSl fl) ||| (1#32 <<< sl))

def blockRemove (control block : Nat) : Code Unit := do
  let (fl, sl) := mappingInsert (← blockSize block)
  removeFreeBlock control block fl sl

def blockInsert (control block : Nat) : Code Unit := do
  let (fl, sl) := mappingInsert (← blockSize block)
  insertFreeBlock control block fl sl

end WinShell.Tlsf
