import NvidiaVaapi.Lib.LabelledSystem
import NvidiaVaapi.Readback.ImageCopies

/-!
# The pool of buffer blocks

The blocks that buffers give back are kept in classes of sizes for the next buffers.  The
list of a class is drawn through the blocks themselves: the first word of a block that is
kept is the next block.
-/

namespace NvidiaVaapi
namespace BufferPool

open Readback (checkedMultiplySize)

/-! ## State -/

/-- `NVD_BUFFER_POOL_CLASS_COUNT`. -/
def poolClassCount : Nat := 11

/-- `bufferPoolClassSizes`. -/
def bufferPoolClassSizes : List Nat :=
  [4 * 1024, 8 * 1024, 16 * 1024, 32 * 1024, 64 * 1024, 128 * 1024, 256 * 1024, 512 * 1024,
    1024 * 1024, 2 * 1024 * 1024, 4 * 1024 * 1024]

/-- The size of a class. -/
def classSize (poolClass : Nat) : Nat :=
  bufferPoolClassSizes.getD poolClass 0

/-- `bufferPoolClassForSize`; `none` is `-1`. -/
def bufferPoolClassForSize (size : Nat) : Option Nat :=
  (List.range poolClassCount).find? fun i => size ≤ classSize i

/-- What of an `NVBuffer` its memory depends on; `0` is a null pointer, and a class `none`
is `-1`. -/
structure NVBuffer where
  imageOwned : Bool := false
  size : Nat := 0
  ptr : Nat := 0
  capacity : Nat := 0
  poolClass : Option Nat := none
  deriving DecidableEq, Repr

/-- The part of an `NVDriver` that buffers work on, with the memory behind it: the first
word of every block, and the blocks that the C library has given out, with their sizes.
`images` are the buffers of the images. -/
structure NVDriver where
  bufferPool : Nat → Nat := fun _ => 0
  bufferPoolCounts : Nat → Nat := fun _ => 0
  bufferPoolBytes : Nat := 0
  bufferPoolMaxBytes : Nat
  next : Nat → Nat := fun _ => 0
  heap : Nat → Option Nat := fun _ => none
  buffers : Nat → Option NVBuffer := fun _ => none
  images : Nat → Option Nat := fun _ => none

/-! ## Blocks -/

/-- The first block of a class leaves the pool. -/
def NVDriver.takeBlock (d : NVDriver) (poolClass capacity : Nat) : NVDriver :=
  { d with
    bufferPool := Function.update d.bufferPool poolClass (d.next (d.bufferPool poolClass))
    bufferPoolCounts := Function.update d.bufferPoolCounts poolClass
      ((d.bufferPoolCounts poolClass + (2 ^ 32 - 1)) % 2 ^ 32)
    bufferPoolBytes := (d.bufferPoolBytes + (2 ^ 64 - capacity)) % 2 ^ 64 }

/-- `allocateBufferMemory` for a buffer that has no memory; `memory` is the answer of
`posix_memalign`, should it be asked.  `false` leaves the buffer as it was. -/
def allocateBufferMemory (memory : Option Nat) (d : NVDriver) (buffer : NVBuffer)
    (size : Nat) : Bool × NVBuffer × NVDriver :=
  let buffer := { buffer with ptr := 0, capacity := 0, poolClass := none }
  if size = 0 then (true, buffer, d)
  else
    let poolClass := bufferPoolClassForSize size
    let capacity := (poolClass.map classSize).getD size
    let block := (poolClass.map d.bufferPool).getD 0
    if block ≠ 0 then
      (true, { buffer with ptr := block, capacity := capacity, poolClass := poolClass },
        d.takeBlock (poolClass.getD 0) capacity)
    else
      match memory with
      | none => (false, buffer, d)
      | some address =>
        (true, { buffer with ptr := address, capacity := capacity, poolClass := poolClass },
          { d with heap := Function.update d.heap address (some capacity) })

/-- A block becomes the first one of a class. -/
def NVDriver.keepBlock (d : NVDriver) (poolClass capacity block : Nat) : NVDriver :=
  { d with
    next := Function.update d.next block (d.bufferPool poolClass)
    bufferPool := Function.update d.bufferPool poolClass block
    bufferPoolCounts := Function.update d.bufferPoolCounts poolClass
      ((d.bufferPoolCounts poolClass + 1) % 2 ^ 32)
    bufferPoolBytes := (d.bufferPoolBytes + capacity) % 2 ^ 64 }

/-- A block goes back to the C library. -/
def NVDriver.free (d : NVDriver) (block : Nat) : NVDriver :=
  { d with heap := Function.update d.heap block none }

/-- The pool has room for a block: fewer than 16 blocks of the class, and bytes to
spare. -/
def NVDriver.hasRoom (d : NVDriver) (poolClass capacity : Nat) : Bool :=
  d.bufferPoolCounts poolClass < 16 && capacity ≤ d.bufferPoolMaxBytes &&
    d.bufferPoolBytes ≤ d.bufferPoolMaxBytes - capacity

/-- `releaseBufferMemory`; the buffer is deleted after it. -/
def releaseBufferMemory (d : NVDriver) (buffer : NVBuffer) : NVDriver :=
  if buffer.ptr = 0 then d
  else
    match buffer.poolClass with
    | some poolClass =>
      if poolClass < poolClassCount ∧ d.hasRoom poolClass buffer.capacity then
        d.keepBlock poolClass buffer.capacity buffer.ptr
      else d.free buffer.ptr
    | none => d.free buffer.ptr

/-! ## Calls -/

/-- What the bytes that are written to a new buffer leave in the first word of its
block. -/
def NVDriver.fill (d : NVDriver) (buffer : NVBuffer) (word : Nat) : NVDriver :=
  if buffer.size = 0 then d else { d with next := Function.update d.next buffer.ptr word }

/-- A new buffer of a size under an id, or no change where there is no memory. -/
def addBuffer (memory : Option Nat) (word id size : Nat) (imageOwned : Bool) (d : NVDriver) :
    Option NVDriver :=
  let allocated := allocateBufferMemory memory d { imageOwned := imageOwned, size := size } size
  if allocated.1 then
    let d := allocated.2.2.fill allocated.2.1 word
    some { d with buffers := Function.update d.buffers id (some allocated.2.1) }
  else none

/-- `nvCreateBuffer`: whether the context exists and the type is valid, and the id that
`allocateObject` finds, if any. -/
def nvCreateBuffer (accepted : Bool) (size numElements : Nat) (id memory : Option Nat)
    (word : Nat) (d : NVDriver) : NVDriver :=
  if ¬accepted then d
  else
    match checkedMultiplySize size numElements, id with
    | some bufferSize, some id => (addBuffer memory word id bufferSize false d).getD d
    | _, _ => d

/-- `nvDestroyBuffer`. -/
def nvDestroyBuffer (id : Nat) (d : NVDriver) : NVDriver :=
  match d.buffers id with
  | none => d
  | some buffer =>
    if buffer.imageOwned then d
    else
      let d := releaseBufferMemory d buffer
      { d with buffers := Function.update d.buffers id none }

/-- `nvCreateImage`: the ids that `allocateObject` finds for the image and its buffer. -/
def nvCreateImage (fourcc : Nat) (width height : Int) (imageId bufferId memory : Option Nat)
    (word : Nat) (d : NVDriver) : NVDriver :=
  match Readback.nvCreateImage fourcc width height, imageId, bufferId with
  | some (_, image), some imageId, some bufferId =>
    match addBuffer memory word bufferId image.dataSize true d with
    | some d => { d with images := Function.update d.images imageId (some bufferId) }
    | none => d
  | _, _, _ => d

/-- `nvDestroyImage`. -/
def nvDestroyImage (id : Nat) (d : NVDriver) : NVDriver :=
  match d.images id with
  | none => d
  | some bufferId =>
    let d := match d.buffers bufferId with
      | none => d
      | some buffer =>
        let d := releaseBufferMemory d buffer
        { d with buffers := Function.update d.buffers bufferId none }
    { d with images := Function.update d.images id none }

/-- The application writes to a buffer that it has mapped. -/
def writeBuffer (id word : Nat) (d : NVDriver) : NVDriver :=
  match d.buffers id with
  | none => d
  | some buffer => d.fill buffer word

/-- A call, with the answers of the C library and the object table. -/
inductive Call
  | createBuffer (accepted : Bool) (size numElements : Nat) (id memory : Option Nat)
      (word : Nat)
  | destroyBuffer (id : Nat)
  | createImage (fourcc : Nat) (width height : Int) (imageId bufferId memory : Option Nat)
      (word : Nat)
  | destroyImage (id : Nat)
  | writeBuffer (id word : Nat)

/-- The driver after a call. -/
def NVDriver.after (d : NVDriver) : Call → NVDriver
  | .createBuffer accepted size numElements id memory word =>
    nvCreateBuffer accepted size numElements id memory word d
  | .destroyBuffer id => nvDestroyBuffer id d
  | .createImage fourcc width height imageId bufferId memory word =>
    nvCreateImage fourcc width height imageId bufferId memory word d
  | .destroyImage id => nvDestroyImage id d
  | .writeBuffer id word => BufferPool.writeBuffer id word d

/-- An address that the C library may answer: not null, and no block that it has given
out. -/
def FreshMemory (d : NVDriver) (memory : Option Nat) : Prop :=
  ∀ address ∈ memory, address ≠ 0 ∧ d.heap address = none

/-- An id that the object table may answer for a buffer. -/
def FreshBuffer (d : NVDriver) (id : Option Nat) : Prop :=
  ∀ i ∈ id, d.buffers i = none

/-- The answers that come with a call are possible ones. -/
def Answered (d : NVDriver) : Call → Prop
  | .createBuffer _ _ _ id memory _ => FreshBuffer d id ∧ FreshMemory d memory
  | .createImage _ _ _ _ bufferId memory _ => FreshBuffer d bufferId ∧ FreshMemory d memory
  | _ => True

/-- The driver with an empty pool, and its calls. -/
def poolSystem (maxBytes : Nat) : LabelledSystem NVDriver Call where
  init := { bufferPoolMaxBytes := maxBytes }
  step d call := some (d.after call)

end BufferPool
end NvidiaVaapi
