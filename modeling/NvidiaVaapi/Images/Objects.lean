import NvidiaVaapi.BufferPool.Blocks
import NvidiaVaapi.ObjectTable.TableRuns

/-!
# Images and buffers as objects

An image and the buffer of its data are two objects of the table that configurations,
contexts, surfaces and the buffers of the application are in too.  The payloads are found by
the pointers that the objects hold to them.  Whether the C library has memory for an object,
for the table or for a block, and where, are arguments of the calls.
-/

namespace NvidiaVaapi
namespace Images

open ObjectTable
open BufferPool (NVBuffer allocateBufferMemory releaseBufferMemory)

/-! ## State -/

inductive ObjectType
  | config
  | context
  | surface
  | buffer
  | image
  deriving DecidableEq, Repr

/-- The enumerators count from zero. -/
def ObjectType.code : ObjectType → BitVec 8
  | .config => 0
  | .context => 1
  | .surface => 2
  | .buffer => 3
  | .image => 4

inductive VAStatus
  | success
  | invalidParameter
  | invalidContext
  | invalidBuffer
  | invalidImage
  | invalidImageFormat
  | unsupportedBufferType
  | allocationFailed
  | operationFailed
  deriving DecidableEq, Repr

/-- `imageBuffer` is the payload of the buffer, or a null pointer, which is `0`. -/
structure NVImage extends Readback.NVImage where
  imageBuffer : Nat := 0
  imageBufferId : BitVec 32 := 0
  deriving DecidableEq, Repr

/-- The part of an `NVDriver` that images and buffers are in.  Of `pool` the blocks are
meant; the buffers and the images are by the addresses of their payloads. -/
structure NVDriver where
  objects : NVDObjectTable := nvdObjectTableInit
  pool : BufferPool.NVDriver
  buffers : Nat → NVBuffer := fun _ => {}
  images : Nat → NVImage := fun _ => { width := 0, height := 0, format := .none }

/-- The answers of `realloc` and `calloc` to an allocation in the table. -/
structure Allocation where
  reallocated : Bool
  object : Option Nat

/-- `sizeof(NVBuffer)`. -/
def sizeofBuffer : BitVec 64 := 72

/-- `sizeof(NVImage)`. -/
def sizeofImage : BitVec 64 := 32

/-! ## Objects -/

/-- Where the payload of an object is. -/
def payload (object : NVDObject) : Nat := object.obj.getD 0

/-- `allocateObject` in a driver that is not terminating. -/
def allocateObject (d : NVDriver) (type : ObjectType) (payloadSize : BitVec 64)
    (answer : Allocation) : NVDriver × Option NVDObject :=
  let allocated :=
    nvdObjectTableAllocate d.objects type.code payloadSize answer.reallocated answer.object
  ({ d with objects := allocated.1 }, allocated.2)

@[inherit_doc allocateObject]
def getObject (d : NVDriver) (type : ObjectType) (id : BitVec 32) : Option NVDObject :=
  if id ≠ vaInvalidId then nvdObjectTableGet d.objects type.code id else none

def getObjectPtr (d : NVDriver) (type : ObjectType) (id : BitVec 32) : Option Nat :=
  (getObject d type id).bind NVDObject.obj

def deleteObject (d : NVDriver) (id : BitVec 32) : NVDriver :=
  if id = vaInvalidId then d
  else { d with objects := (nvdObjectTableRemove d.objects id).1 }

/-! ## Buffers -/

/-- `nvCreateBuffer`: `validType` is the test of `isValidBufferType`, and `word` is what the
data leaves in the first word of the block.  The id is the one that the caller gets. -/
def nvCreateBuffer (d : NVDriver) (context : BitVec 32) (validType : Bool)
    (size numElements : Nat) (answer : Allocation) (memory : Option Nat) (word : Nat) :
    NVDriver × VAStatus × BitVec 32 :=
  match getObjectPtr d .context context with
  | none => (d, .invalidContext, vaInvalidId)
  | some _ =>
    if ¬validType then (d, .unsupportedBufferType, vaInvalidId)
    else
      match Readback.checkedMultiplySize size numElements with
      | none => (d, .invalidParameter, vaInvalidId)
      | some bufferSize =>
        match allocateObject d .buffer sizeofBuffer answer with
        | (d, none) => (d, .allocationFailed, vaInvalidId)
        | (d, some bufferObject) =>
          let buf : NVBuffer := { imageOwned := false, size := bufferSize }
          match allocateBufferMemory memory d.pool buf buf.size with
          | (false, _, pool) =>
            (deleteObject { d with pool } bufferObject.id, .allocationFailed, vaInvalidId)
          | (true, buf, pool) =>
            ({ d with
                pool := pool.fill buf word
                buffers := Function.update d.buffers (payload bufferObject) buf },
              .success, bufferObject.id)

/-- `nvMapBuffer`, with the pointer that the caller gets. -/
def nvMapBuffer (d : NVDriver) (bufferId : BitVec 32) : VAStatus × Option Nat :=
  match getObjectPtr d .buffer bufferId with
  | none => (.invalidBuffer, none)
  | some buf => (.success, some (d.buffers buf).ptr)

def nvUnmapBuffer (d : NVDriver) (bufferId : BitVec 32) : VAStatus :=
  if (getObjectPtr d .buffer bufferId).isSome then .success else .invalidBuffer

/-- The application writes through the pointer that `nvMapBuffer` has given it. -/
def writeBuffer (d : NVDriver) (bufferId : BitVec 32) (word : Nat) : NVDriver :=
  match getObjectPtr d .buffer bufferId with
  | none => d
  | some buf => { d with pool := d.pool.fill (d.buffers buf) word }

def nvDestroyBuffer (d : NVDriver) (bufferId : BitVec 32) : NVDriver × VAStatus :=
  match getObjectPtr d .buffer bufferId with
  | none => (d, .invalidBuffer)
  | some buf =>
    if (d.buffers buf).imageOwned then (d, .operationFailed)
    else
      let d := { d with pool := releaseBufferMemory d.pool (d.buffers buf) }
      (deleteObject d bufferId, .success)

/-! ## Images -/

/-- `nvCreateImage` behind the layout of the planes, with the ids of the image and of its
buffer that the caller gets. -/
def createImageObjects (d : NVDriver) (image : Readback.NVImage) (imageSize : Nat)
    (imageAnswer bufferAnswer : Allocation) (memory : Option Nat) :
    NVDriver × VAStatus × BitVec 32 × BitVec 32 :=
  match allocateObject d .image sizeofImage imageAnswer with
  | (d, none) => (d, .allocationFailed, vaInvalidId, vaInvalidId)
  | (d, some imageObj) =>
    let img : NVImage := { toNVImage := image }
    let d := { d with images := Function.update d.images (payload imageObj) img }
    match allocateObject d .buffer sizeofBuffer bufferAnswer with
    | (d, none) => (deleteObject d imageObj.id, .allocationFailed, vaInvalidId, vaInvalidId)
    | (d, some imageBufferObject) =>
      let imageBuffer : NVBuffer := { imageOwned := true, size := imageSize }
      match allocateBufferMemory memory d.pool imageBuffer imageBuffer.size with
      | (false, _, pool) =>
        let d := deleteObject { d with pool } imageBufferObject.id
        (deleteObject d imageObj.id, .allocationFailed, vaInvalidId, vaInvalidId)
      | (true, imageBuffer, pool) =>
        let img := { img with
          imageBuffer := payload imageBufferObject
          imageBufferId := imageBufferObject.id }
        ({ d with
            pool := pool.fill imageBuffer 0
            buffers := Function.update d.buffers (payload imageBufferObject) imageBuffer
            images := Function.update d.images (payload imageObj) img },
          .success, imageObj.id, imageBufferObject.id)

/-- The answer of `nvCreateImage` where its checks of the format and the extents refuse
them. -/
def imageRefusal (fourcc : Nat) (width height : Int) : VAStatus :=
  let fmtInfo := Surface.formatsInfo (Surface.nvFormatFromVaFormat fourcc)
  if width ≤ 0 ∨ height ≤ 0 then .invalidParameter
  else if Surface.nvFormatFromVaFormat fourcc = .none ∨ fmtInfo.numPlanes = 0 ∨
      fmtInfo.numPlanes > 3 ∨ fmtInfo.bppc = 0 then .invalidImageFormat
  else .invalidParameter

def nvCreateImage (d : NVDriver) (fourcc : Nat) (width height : Int)
    (imageAnswer bufferAnswer : Allocation) (memory : Option Nat) :
    NVDriver × VAStatus × BitVec 32 × BitVec 32 :=
  match Readback.nvCreateImage fourcc width height with
  | none => (d, imageRefusal fourcc width height, vaInvalidId, vaInvalidId)
  | some (image, layout) =>
    createImageObjects d image layout.dataSize imageAnswer bufferAnswer memory

def nvDestroyImage (d : NVDriver) (image : BitVec 32) : NVDriver × VAStatus :=
  match getObjectPtr d .image image with
  | none => (d, .invalidImage)
  | some img =>
    let d :=
      if (getObjectPtr d .buffer (d.images img).imageBufferId).isSome then
        let buffer := d.buffers (d.images img).imageBuffer
        deleteObject { d with pool := releaseBufferMemory d.pool buffer }
          (d.images img).imageBufferId
      else d
    (deleteObject d image, .success)

/-! ## Runs -/

/-- A call, with the answers of the C library.  `createObject` and `deleteObject` are what the
calls for configurations, contexts and surfaces do to the table. -/
inductive Call
  | createObject (type : ObjectType) (payloadSize : BitVec 64) (answer : Allocation)
  | deleteObject (type : ObjectType) (id : BitVec 32)
  | createBuffer (context : BitVec 32) (validType : Bool) (size numElements : Nat)
      (answer : Allocation) (memory : Option Nat) (word : Nat)
  | mapBuffer (bufferId : BitVec 32)
  | unmapBuffer (bufferId : BitVec 32)
  | writeBuffer (bufferId : BitVec 32) (word : Nat)
  | destroyBuffer (bufferId : BitVec 32)
  | createImage (fourcc : Nat) (width height : Int) (imageAnswer bufferAnswer : Allocation)
      (memory : Option Nat)
  | destroyImage (image : BitVec 32)

/-- A type whose objects are not made by the calls for buffers and images. -/
def ObjectType.other (type : ObjectType) : Bool :=
  type ≠ .buffer && type ≠ .image

/-- The driver after a call. -/
def NVDriver.after (d : NVDriver) : Call → NVDriver
  | .createObject type payloadSize answer =>
    if type.other then (allocateObject d type payloadSize answer).1 else d
  | .deleteObject type id =>
    if type.other ∧ (getObject d type id).isSome then Images.deleteObject d id else d
  | .createBuffer context validType size numElements answer memory word =>
    (nvCreateBuffer d context validType size numElements answer memory word).1
  | .mapBuffer _ => d
  | .unmapBuffer _ => d
  | .writeBuffer bufferId word => Images.writeBuffer d bufferId word
  | .destroyBuffer bufferId => (nvDestroyBuffer d bufferId).1
  | .createImage fourcc width height imageAnswer bufferAnswer memory =>
    (nvCreateImage d fourcc width height imageAnswer bufferAnswer memory).1
  | .destroyImage image => (nvDestroyImage d image).1

/-- An object is not put where a live object is. -/
def FreshObject (d : NVDriver) (answer : Allocation) : Prop :=
  ∀ address ∈ answer.object, ∀ object, d.objects.Live object → object.address ≠ address

/-- The answers that come with a call are possible ones. -/
def Answered (d : NVDriver) : Call → Prop
  | .createObject _ _ answer => FreshObject d answer
  | .createBuffer _ _ _ _ answer _ _ => FreshObject d answer
  | .createImage _ _ _ imageAnswer bufferAnswer _ =>
    FreshObject d imageAnswer ∧ FreshObject d bufferAnswer ∧
      ∀ address ∈ imageAnswer.object, address ∉ bufferAnswer.object
  | _ => True

/-- A driver with an empty table, and its calls. -/
def objectSystem (maxBytes : Nat) : LabelledSystem NVDriver Call where
  init := { pool := { bufferPoolMaxBytes := maxBytes } }
  step d call := some (d.after call)

end Images
end NvidiaVaapi
