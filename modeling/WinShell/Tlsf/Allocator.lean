-- SUMMARY: The operations of the TLSF allocator: splitting and merging of blocks, pools, allocation, release, and the self-check.
import WinShell.Tlsf.Blocks

/-!
# The allocator

The block operations and the interface of `tlsf.c`, in the order of the source.
`tlsf_destroy` does nothing, and the walker that prints is left out.
-/

namespace WinShell.Tlsf

/-! ## Splitting and merging -/

def blockCanSplit (block size : Nat) : Code Bool := do
  return (← blockSize block) ≥ sizetAdd sizeofBlockHeader size

/-- Splits a block in two. The second one is free. -/
def blockSplit (block size : Nat) : Code Nat := do
  let remaining := offsetToBlock (blockToPtr block) (sizetSub size blockHeaderOverhead)
  let remainSize := sizetSub (← blockSize block) (size + blockHeaderOverhead)
  assert (blockToPtr remaining = (← alignPtr (blockToPtr remaining) alignSize))
  assert ((← blockSize block) = remainSize + size + blockHeaderOverhead)
  blockSetSize remaining remainSize
  assert ((← blockSize remaining) ≥ blockSizeMin)
  blockSetSize block size
  blockMarkAsFree remaining
  return remaining

/-- Adds the storage of a block to the block before it. The flags stay. -/
def blockAbsorb (prev block : Nat) : Code Nat := do
  assert (!(← blockIsLast prev))
  let size ← load (prev + 8)
  store (prev + 8) (sizetAdd size ((← blockSize block) + blockHeaderOverhead))
  let _ ← blockLinkNext prev
  return prev

def blockMergePrev (control block : Nat) : Code Nat := do
  if ← blockIsPrevFree block then
    let prev ← blockPrev block
    assert (prev ≠ 0)
    assert (← blockIsFree prev)
    blockRemove control prev
    blockAbsorb prev block
  else
    return block

def blockMergeNext (control block : Nat) : Code Nat := do
  let next ← blockNext block
  assert (next ≠ 0)
  if ← blockIsFree next then
    assert (!(← blockIsLast block))
    blockRemove control next
    blockAbsorb block next
  else
    return block

/-- Gives the end of a free block back to the lists. -/
def blockTrimFree (control block size : Nat) : Code Unit := do
  assert (← blockIsFree block)
  if ← blockCanSplit block size then
    let remainingBlock ← blockSplit block size
    let _ ← blockLinkNext block
    blockSetPrevFree remainingBlock
    blockInsert control remainingBlock

/-- Gives the end of a used block back to the lists. -/
def blockTrimUsed (control block size : Nat) : Code Unit := do
  assert (!(← blockIsFree block))
  if ← blockCanSplit block size then
    let remainingBlock ← blockSplit block size
    blockSetPrevUsed remainingBlock
    let remainingBlock ← blockMergeNext control remainingBlock
    blockInsert control remainingBlock

/-- Gives the front of a free block back to the lists. -/
def blockTrimFreeLeading (control block size : Nat) : Code Nat := do
  if ← blockCanSplit block size then
    let remainingBlock ← blockSplit block (sizetSub size blockHeaderOverhead)
    blockSetPrevFree remainingBlock
    let _ ← blockLinkNext block
    blockInsert control block
    return remainingBlock
  else
    return block

/-! ## Allocation -/

/-- The search of `block_locate_free`: a block and its class, `0` when no list has one. -/
def blockFind (size : Nat) : Code (Nat × Nat × Nat) := do
  if size ≠ 0 then
    let (fl, sl) := mappingSearch size
    -- Rounding up can lead past the last list.
    if fl < flIndexCount then searchSuitableBlock fl sl else return (0, fl, sl)
  else
    return (0, 0, 0)

def blockLocateFree (control size : Nat) : Code Nat := do
  let (block, fl, sl) ← blockFind size
  if block ≠ 0 then
    assert ((← blockSize block) ≥ size)
    removeFreeBlock control block fl sl
    return block
  else
    return 0

def blockPrepareUsed (control block size : Nat) : Code Nat := do
  if block ≠ 0 then
    assert (size ≠ 0)
    blockTrimFree control block size
    blockMarkAsUsed block
    return blockToPtr block
  else
    return 0

def tlsfMalloc (control size : Nat) : Code Nat := do
  let adjust ← adjustRequestSize size alignSize
  let block ← blockLocateFree control adjust
  blockPrepareUsed control block adjust

/-- The room in front of an aligned block: none, or enough for a block of its own. -/
def alignedGap (ptr align : Nat) : Code Nat := do
  let gapMinimum := sizeofBlockHeader
  let aligned ← alignPtr ptr align
  let gap := sizetSub aligned ptr
  if gap ≠ 0 ∧ gap < gapMinimum then
    let offset := max (gapMinimum - gap) align
    let aligned ← alignPtr (sizetAdd aligned offset) align
    return sizetSub aligned ptr
  else
    return gap

/-- The part of `tlsf_memalign` behind the search: the block that starts at an aligned
address. -/
def blockAlign (control block align : Nat) : Code Nat := do
  if block ≠ 0 then
    let gap ← alignedGap (blockToPtr block) align
    if gap ≠ 0 then
      assert (gap ≥ sizeofBlockHeader)
      blockTrimFreeLeading control block gap
    else
      return block
  else
    return 0

def tlsfMemalign (control align size : Nat) : Code Nat := do
  let adjust ← adjustRequestSize size alignSize
  -- Room for the block that is trimmed off in front.
  let sizeWithGap ← adjustRequestSize (sizetAdd (sizetAdd adjust align) sizeofBlockHeader) align
  let alignedSize := if adjust ≠ 0 ∧ align > alignSize then sizeWithGap else adjust
  let block ← blockLocateFree control alignedSize
  assert (sizeofBlockHeader = blockSizeMin + blockHeaderOverhead)
  let block ← blockAlign control block align
  blockPrepareUsed control block adjust

/-! ## Release -/

def tlsfFree (control ptr : Nat) : Code Unit := do
  if ptr ≠ 0 then
    let block := blockFromPtr ptr
    assert (!(← blockIsFree block))
    blockMarkAsFree block
    let block ← blockMergePrev control block
    let block ← blockMergeNext control block
    blockInsert control block

/-- Copies whole words. -/
def copyWords (dst src : Nat) : Nat → Code Unit
  | 0 => return ()
  | n + 1 => do
    let word ← load src
    store dst word
    copyWords (dst + 8) (src + 8) n

/-- `memcpy`: the last word is copied up to its last byte. -/
def memcpy (dst src size : Nat) : Code Unit := do
  copyWords dst src (size / 8)
  if size % 8 ≠ 0 then
    let offset := 8 * (size / 8)
    let word ← load (src + offset)
    let rest ← load (dst + offset)
    let bits := 8 * (size % 8)
    store (dst + offset) (word % 2 ^ bits + rest / 2 ^ bits * 2 ^ bits)

/-- The branch of `tlsf_realloc` without room behind the block. -/
def moveBlock (control ptr size cursize : Nat) : Code Nat := do
  let p ← tlsfMalloc control size
  if p ≠ 0 then
    memcpy p ptr (min cursize size)
    tlsfFree control ptr
  return p

/-- The branch of `tlsf_realloc` with room behind it. -/
def growBlock (control block adjust cursize : Nat) : Code Unit := do
  if adjust > cursize then
    let _ ← blockMergeNext control block
    blockMarkAsUsed block

def tlsfRealloc (control ptr size : Nat) : Code Nat := do
  if ptr ≠ 0 ∧ size = 0 then
    tlsfFree control ptr
    return 0
  else if ptr = 0 then
    tlsfMalloc control size
  else
    let block := blockFromPtr ptr
    let next ← blockNext block
    let cursize ← blockSize block
    let combined := sizetAdd (sizetAdd cursize (← blockSize next)) blockHeaderOverhead
    let adjust ← adjustRequestSize size alignSize
    assert (!(← blockIsFree block))
    let nextFree ← blockIsFree next
    if adjust > cursize ∧ (!nextFree ∨ adjust > combined) then
      moveBlock control ptr size cursize
    else
      growBlock control block adjust cursize
      blockTrimUsed control block adjust
      return ptr

/-! ## Pools -/

/-- Empties the lists `j` from `sl` on of one first level. -/
def clearLists (control fl : Nat) : Nat → Code Unit
  | 0 => return ()
  | j + 1 => do
    writeHead fl (slIndexCount - (j + 1)) control
    clearLists control fl j

/-- The loop over the first levels, with `i` of them left. -/
def clearLevels (control : Nat) : Nat → Code Unit
  | 0 => return ()
  | i + 1 => do
    writeSl (flIndexCount - (i + 1)) 0#32
    clearLists control (flIndexCount - (i + 1)) slIndexCount
    clearLevels control i

def controlConstruct (control : Nat) : Code Unit := do
  store (control + 16) control
  store (control + 24) control
  writeFl 0#32
  clearLevels control flIndexCount

def tlsfPoolOverhead : Nat := 2 * blockHeaderOverhead

/-- The blocks of a new pool: a free one, and behind it the sentinel of size zero. -/
def createBlocks (control block poolBytes : Nat) : Code Unit := do
  blockSetSize block poolBytes
  blockSetFree block
  blockSetPrevUsed block
  blockInsert control block
  let next ← blockLinkNext block
  blockSetSize next 0
  blockSetUsed next
  blockSetPrevFree next

def tlsfAddPool (control mem bytes : Nat) : Code Nat := do
  let poolBytes ← alignDown (sizetSub bytes tlsfPoolOverhead) alignSize
  if mem % alignSize ≠ 0 then
    return 0
  else if poolBytes < blockSizeMin ∨ poolBytes > blockSizeMax then
    return 0
  else
    createBlocks control (mem - blockHeaderOverhead) poolBytes
    return mem

def tlsfCreate (mem : Nat) : Code Nat := do
  if mem % alignSize ≠ 0 then
    return 0
  else
    controlConstruct mem
    return mem

def tlsfCreateWithPool (mem bytes : Nat) : Code Nat := do
  let tlsf ← tlsfCreate mem
  let _ ← tlsfAddPool tlsf (mem + tlsfSize) (sizetSub bytes tlsfSize)
  return tlsf

def tlsfGetPool (tlsf : Nat) : Nat := tlsf + tlsfSize

def tlsfBlockSize (ptr : Nat) : Code Nat := do
  if ptr ≠ 0 then blockSize (blockFromPtr ptr) else return 0

/-! ## Self-check -/

/-- `prev_status` and `status` of `integrity_t`. -/
structure Integrity where
  prevStatus : Bool
  status : Int

/-- `tlsf_insist`: a failed check is an assertion first, and lowers the status when
assertions are off. -/
def tlsfInsist (condition : Bool) (status : Int) : Code Int := do
  assert condition
  return if condition then status else status - 1

def integrityWalker (ptr size : Nat) (user : Integrity) : Code Integrity := do
  let block := blockFromPtr ptr
  let thisPrevStatus ← blockIsPrevFree block
  let thisStatus ← blockIsFree block
  let thisBlockSize ← blockSize block
  let status ← tlsfInsist (user.prevStatus = thisPrevStatus) 0
  let status ← tlsfInsist (size = thisBlockSize) status
  return ⟨thisStatus, user.status + status⟩

/-- The loop of `tlsf_walk_pool`, `none` when the fuel is short. -/
def walkBlocks {σ : Type} (walker : Nat → Nat → Bool → σ → Code σ) (block : Nat) (user : σ) :
    Nat → Code (Option σ)
  | 0 => return none
  | fuel + 1 => do
    if block ≠ 0 then
      if ← blockIsLast block then
        return some user
      else
        let size ← blockSize block
        let free ← blockIsFree block
        let user ← walker (blockToPtr block) size (!free) user
        walkBlocks walker (← blockNext block) user fuel
    else
      return some user

def tlsfWalkPool {σ : Type} (pool : Nat) (walker : Nat → Nat → Bool → σ → Code σ) (user : σ)
    (fuel : Nat) : Code (Option σ) :=
  walkBlocks walker (pool - blockHeaderOverhead) user fuel

def tlsfCheckPool (pool fuel : Nat) : Code (Option Int) := do
  let integ ← tlsfWalkPool pool (fun ptr size _ user => integrityWalker ptr size user)
    ⟨false, 0⟩ fuel
  return integ.map Integrity.status

/-- The loop of `tlsf_check` over one list, `none` when the fuel is short. -/
def checkList (control i j : Nat) (block : Nat) (status : Int) : Nat → Code (Option Int)
  | 0 => return none
  | fuel + 1 => do
    if block = control then
      return some status
    else
      let status ← tlsfInsist (← blockIsFree block) status
      let status ← tlsfInsist (!(← blockIsPrevFree block)) status
      let status ← tlsfInsist (!(← blockIsFree (← blockNext block))) status
      let status ← tlsfInsist (← blockIsPrevFree (← blockNext block)) status
      let status ← tlsfInsist ((← blockSize block) ≥ blockSizeMin) status
      let (fli, sli) := mappingInsert (← blockSize block)
      let status ← tlsfInsist (fli = i ∧ sli = j) status
      checkList control i j (← load (block + 16)) status fuel

/-- The second-level bitmap must be null when the first-level one is. -/
def checkMaps (flMap slMap : BitVec 32) (status : Int) : Code Int :=
  if flMap = 0#32 then tlsfInsist (slMap = 0#32) status else return status

def checkClass (control i j fuel : Nat) (status : Int) : Code (Option Int) := do
  let flMap := (← readFl) &&& (1#32 <<< i)
  let slList ← readSl i
  let slMap := slList &&& (1#32 <<< j)
  let block ← readHead i j
  let status ← checkMaps flMap slMap status
  if slMap = 0#32 then
    let status ← tlsfInsist (block = control) status
    return some status
  else
    let status ← tlsfInsist (slList ≠ 0#32) status
    let status ← tlsfInsist (block ≠ control) status
    checkList control i j block status fuel

/-- The second level of the loop of `tlsf_check`, with `j` lists left. -/
def checkLists (control i fuel : Nat) : Nat → Int → Code (Option Int)
  | 0, status => return some status
  | j + 1, status => do
    match ← checkClass control i (slIndexCount - (j + 1)) fuel status with
    | some status => checkLists control i fuel j status
    | none => return none

/-- The first level of the loop, with `i` levels left. -/
def checkLevels (control fuel : Nat) : Nat → Int → Code (Option Int)
  | 0, status => return some status
  | i + 1, status => do
    match ← checkLists control (flIndexCount - (i + 1)) fuel slIndexCount status with
    | some status => checkLevels control fuel i status
    | none => return none

def tlsfCheck (control fuel : Nat) : Code (Option Int) :=
  checkLevels control fuel flIndexCount 0

end WinShell.Tlsf
