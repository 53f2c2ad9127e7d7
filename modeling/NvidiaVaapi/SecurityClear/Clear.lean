import NvidiaVaapi.Surface.Formats

/-!
# Clearing the planes of a new image

The clear of `direct-export-buf.c`: the path over one scratch buffer of the GPU, and the
host path that takes over where the first one fails.
-/

namespace NvidiaVaapi
namespace SecurityClear

open Surface (NVFormat NVFormatInfo NVFormatPlane formatsInfo nvPlaneExtent)

/-- What the clear reads of a `BackingImage`. -/
structure BackingImage where
  format : NVFormat
  width : Nat
  height : Nat
  deriving DecidableEq, Repr

/-- Where the rows of a copy come from: the scratch buffer of the driver, or the rows of the
host path. -/
inductive CopySource
  | device
  | host (rows : Nat → UInt8)

/-- The calls of the CUDA library that the clear makes.  A copy goes to an array, from a row
on, and its rows follow each other without a gap in the source. -/
inductive CudaCall
  | streamCreate
  | streamSynchronize
  | memFree
  | memAlloc (bytes : Nat)
  | memsetD8 (value : UInt8) (count : Nat)
  | memsetD16 (value count : Nat)
  | memcpy2D (source : CopySource) (array dstY widthInBytes height : Nat)

/-- The library: which of the calls succeed, what address a call gives to a buffer, and
whether the optional function `cuMemsetD16Async` is in it; `none` without a handle to look
it up. -/
structure Cuda where
  succeeds : Nat → Bool
  address : Nat → Nat
  address_ne : ∀ n, address n ≠ 0
  memsetD16Async : Option Bool

/-- The part of an `NVDriver` that the clear works on: the bytes behind the scratch buffer,
the bytes of the arrays of the image by row and column, and the calls so far. -/
structure NVDriver where
  cudaWorkUnsafe : Bool := false
  securityClearStream : Bool := false
  securityClearBuffer : Nat := 0
  securityClearBufferSize : Nat := 0
  securityClearFunctionsLoaded : Bool := false
  cuMemsetD16Async : Bool := false
  scratch : Nat → UInt8 := fun _ => 0
  arrays : Nat → Nat → Nat → UInt8 := fun _ _ _ => 0
  calls : List CudaCall := []

/-! ## Calls -/

/-- `memset` and `cuMemsetD8Async`. -/
def fillBytes (value : UInt8) (count : Nat) (bytes : Nat → UInt8) : Nat → UInt8 :=
  fun i => if i < count then value else bytes i

/-- A byte of a 16-bit sample, the lower one first. -/
def sampleByte (value i : Nat) : UInt8 :=
  UInt8.ofNat (if i % 2 = 0 then value % 256 else value / 256)

/-- `cuMemsetD16Async`, and the loop over the samples of the host path. -/
def fillSamples (value count : Nat) (bytes : Nat → UInt8) : Nat → UInt8 :=
  fun i => if i / 2 < count then sampleByte value i else bytes i

/-- The effect of a call that succeeds on bytes.  A call that fails has none that matters:
the clear fails with it, and the host path writes every byte again. -/
def NVDriver.apply (d : NVDriver) : CudaCall → NVDriver
  | .memsetD8 value count => { d with scratch := fillBytes value count d.scratch }
  | .memsetD16 value count => { d with scratch := fillSamples value count d.scratch }
  | .memcpy2D source array dstY widthInBytes height =>
    let bytes := match source with
      | .device => d.scratch
      | .host rows => rows
    { d with arrays := fun a row x =>
        if a = array ∧ dstY ≤ row ∧ row < dstY + height ∧ x < widthInBytes then
          bytes ((row - dstY) * widthInBytes + x)
        else d.arrays a row x }
  | _ => d

/-- One call, and whether it succeeds. -/
def NVDriver.issue (cuda : Cuda) (call : CudaCall) (d : NVDriver) : Bool × NVDriver :=
  let succeeds := cuda.succeeds d.calls.length
  let d := if succeeds then d.apply call else d
  (succeeds, { d with calls := d.calls ++ [call] })

/-! ## Host path -/

/-- `8 * 1024 * 1024`. -/
def maxChunkBytes : Nat := 8 * 1024 * 1024

/-- The bytes of a row and the rows of a plane. -/
def BackingImage.rowBytes (img : BackingImage) (plane : Nat) : Nat :=
  let fmtInfo := formatsInfo img.format
  let p := fmtInfo.planeAt plane
  nvPlaneExtent img.width p.ssX * fmtInfo.bppc * p.channelCount

@[inherit_doc BackingImage.rowBytes]
def BackingImage.planeRows (img : BackingImage) (plane : Nat) : Nat :=
  nvPlaneExtent img.height ((formatsInfo img.format).planeAt plane).ssY

/-- `fillBackingImageClearRows`: the bytes of `rowsCount` rows, over those that were
there. -/
def fillBackingImageClearRows (rows : Nat → UInt8) (widthInBytes rowsCount : Nat)
    (format : NVFormat) (plane : Nat) : Nat → UInt8 :=
  if format = .argb then
    fun i =>
      let x := i % widthInBytes
      if i < widthInBytes * rowsCount ∧ x / 4 * 4 + 3 < widthInBytes then
        if x % 4 = 3 then 0xff else 0
      else rows i
  else if (formatsInfo format).bppc = 1 then
    fillBytes (if plane = 0 then 16 else 128) (widthInBytes * rowsCount) rows
  else
    let value := if plane = 0 then 0x1000 else 0x8000
    fillSamples value (widthInBytes * rowsCount / 2) rows

/-- The rows of a chunk that both paths begin with. -/
def chunkRowsFor (widthInBytes height : Nat) : Nat :=
  let chunkRows := maxChunkBytes / widthInBytes % 2 ^ 32
  let chunkRows := if chunkRows = 0 then 1 else chunkRows
  if chunkRows > height then height else chunkRows

/-- The loop that asks for staging memory, for half as many rows after every failure; `0`
where no memory is found. -/
def stagingRows (mallocs : Nat → Bool) : Nat → Nat → Nat → Nat
  | 0, _, _ => 0
  | rounds + 1, k, chunkRows =>
    if chunkRows > 0 then
      if mallocs k then chunkRows else stagingRows mallocs rounds (k + 1) (chunkRows / 2)
    else 0

/-- The loop over the rows of a plane, with the 32-bit row of the code; `none` where it has
not ended after as many rounds as given. -/
def copyRows (cuda : Cuda) (source : CopySource) (plane widthInBytes height chunkRows : Nat) :
    Nat → Nat → NVDriver → Option (Bool × NVDriver)
  | rounds, y, d =>
    if y < height then
      match rounds with
      | 0 => none
      | rounds + 1 =>
        let remainingRows := height - y
        let rowsToCopy := if chunkRows < remainingRows then chunkRows else remainingRows
        let issued := d.issue cuda (.memcpy2D source plane y widthInBytes rowsToCopy)
        if issued.1 then
          copyRows cuda source plane widthInBytes height chunkRows rounds
            ((y + chunkRows) % 2 ^ 32) issued.2
        else some (false, issued.2)
    else some (true, d)

/-- `clearBackingImagePlaneHost`; `staging` is what the memory of the rows held before. -/
def clearBackingImagePlaneHost (cuda : Cuda) (mallocs : Nat → Bool) (staging : Nat → UInt8)
    (img : BackingImage) (plane : Nat) (d : NVDriver) : Option (Bool × NVDriver) :=
  let height := img.planeRows plane
  let widthInBytes := img.rowBytes plane
  if widthInBytes = 0 ∨ height = 0 then some (true, d)
  else
    let chunkRows := chunkRowsFor widthInBytes height
    let chunkRows := stagingRows mallocs chunkRows 0 chunkRows
    if chunkRows = 0 then some (false, d)
    else
      let rows := fillBackingImageClearRows staging widthInBytes chunkRows img.format plane
      copyRows cuda (.host rows) plane widthInBytes height chunkRows height 0 d

/-! ## GPU path -/

/-- The stream is created where there is none. -/
def createSecurityClearStream (cuda : Cuda) (d : NVDriver) : Bool × NVDriver :=
  if d.securityClearStream then (true, d)
  else
    let issued := d.issue cuda .streamCreate
    (issued.1, { issued.2 with securityClearStream := issued.1 })

/-- The scratch buffer, which is too small, is freed behind the work that reads it. -/
def freeSecurityClearBuffer (cuda : Cuda) (d : NVDriver) : Bool × NVDriver :=
  if d.securityClearBuffer ≠ 0 then
    let drained := d.issue cuda .streamSynchronize
    if ¬drained.1 then (false, { drained.2 with cudaWorkUnsafe := true })
    else
      let freed := drained.2.issue cuda .memFree
      if ¬freed.1 then (false, freed.2)
      else (true, { freed.2 with securityClearBuffer := 0, securityClearBufferSize := 0 })
  else (true, d)

/-- A scratch buffer is allocated. -/
def allocSecurityClearBuffer (cuda : Cuda) (requiredBytes : Nat) (d : NVDriver) :
    Bool × NVDriver :=
  let address := cuda.address d.calls.length
  let allocated := d.issue cuda (.memAlloc requiredBytes)
  if ¬allocated.1 then (false, { allocated.2 with securityClearBuffer := 0 })
  else (true, { allocated.2 with
    securityClearBuffer := address
    securityClearBufferSize := requiredBytes })

/-- `ensureSecurityClearResourcesLocked`. -/
def ensureSecurityClearResourcesLocked (cuda : Cuda) (requiredBytes : Nat) (d : NVDriver) :
    Bool × NVDriver :=
  let created := createSecurityClearStream cuda d
  if ¬created.1 then (false, created.2)
  else if created.2.securityClearBufferSize ≥ requiredBytes ∧
      created.2.securityClearBuffer ≠ 0 then (true, created.2)
  else
    let freed := freeSecurityClearBuffer cuda created.2
    if ¬freed.1 then (false, freed.2)
    else allocSecurityClearBuffer cuda requiredBytes freed.2

/-- `loadSecurityClearFunctionsLocked`. -/
def loadSecurityClearFunctionsLocked (cuda : Cuda) (d : NVDriver) : NVDriver :=
  if d.securityClearFunctionsLoaded then d
  else { d with
    cuMemsetD16Async := cuda.memsetD16Async.getD d.cuMemsetD16Async
    securityClearFunctionsLoaded := true }

/-- The call that fills the scratch buffer for a plane. -/
def fillCall (format : NVFormat) (plane chunkBytes : Nat) : CudaCall :=
  if (formatsInfo format).bppc = 2 then
    .memsetD16 (if plane = 0 then 0x1000 else 0x8000) (chunkBytes / 2)
  else .memsetD8 (if plane = 0 then 16 else 128) chunkBytes

/-- `clearBackingImagePlaneGpuLocked`. -/
def clearBackingImagePlaneGpuLocked (cuda : Cuda) (img : BackingImage) (plane : Nat)
    (d : NVDriver) : Option (Bool × NVDriver) :=
  if d.cudaWorkUnsafe then some (false, d)
  else if img.format = .argb then some (false, d)
  else
    let height := img.planeRows plane
    let widthInBytes := img.rowBytes plane
    if widthInBytes = 0 ∨ height = 0 then some (true, d)
    else
      let chunkRows := chunkRowsFor widthInBytes height
      let chunkBytes := widthInBytes * chunkRows
      let elementBytes := (formatsInfo img.format).bppc
      if (elementBytes = 2 ∧ ¬d.cuMemsetD16Async) ∨ (elementBytes ≠ 1 ∧ elementBytes ≠ 2) ∨
          chunkBytes % elementBytes ≠ 0 then some (false, d)
      else
        let ensured := ensureSecurityClearResourcesLocked cuda chunkBytes d
        if ¬ensured.1 then some (false, ensured.2)
        else if ensured.2.securityClearBuffer % elementBytes ≠ 0 then some (false, ensured.2)
        else
          let filled := ensured.2.issue cuda (fillCall img.format plane chunkBytes)
          if ¬filled.1 then some (false, filled.2)
          else copyRows cuda .device plane widthInBytes height chunkRows height 0 filled.2

/-- The loop over the planes, as long as it does not fail. -/
def clearPlanesGpu (cuda : Cuda) (img : BackingImage) :
    List Nat → NVDriver → Option (Bool × NVDriver)
  | [], d => some (true, d)
  | plane :: planes, d =>
    (clearBackingImagePlaneGpuLocked cuda img plane d).bind fun (cleared, d) =>
      if cleared then clearPlanesGpu cuda img planes d else some (false, d)

/-- One round of the loop that looks for the largest chunk. -/
def reserveForPlane (img : BackingImage) (requiredBytes plane : Nat) : Nat :=
  let widthBytes := img.rowBytes plane
  let height := img.planeRows plane
  if widthBytes = 0 ∨ height = 0 then requiredBytes
  else
    let rows := maxChunkBytes / widthBytes
    let rows := if rows = 0 then 1 else rows
    let rows := if rows > height then height else rows
    let bytes := rows * widthBytes
    if bytes > requiredBytes then bytes else requiredBytes

/-- The bytes that the largest chunk of the image needs. -/
def requiredScratchBytes (img : BackingImage) : Nat :=
  (List.range (formatsInfo img.format).numPlanes).foldl (reserveForPlane img) 0

/-- The drain at the end, which follows a failure too. -/
def drainSecurityClear (cuda : Cuda) (cleared : Bool) (d : NVDriver) : Bool × NVDriver :=
  if d.securityClearStream then
    let drained := d.issue cuda .streamSynchronize
    if drained.1 then (cleared, drained.2)
    else (false, { drained.2 with cudaWorkUnsafe := true })
  else (cleared, d)

/-- `clearBackingImageGpu`. -/
def clearBackingImageGpu (cuda : Cuda) (img : BackingImage) (d : NVDriver) :
    Option (Bool × NVDriver) :=
  if d.cudaWorkUnsafe ∨ img.format = .argb then some (false, d)
  else
    let fmtInfo := formatsInfo img.format
    let d := loadSecurityClearFunctionsLocked cuda d
    if (fmtInfo.bppc = 2 ∧ ¬d.cuMemsetD16Async) ∨ (fmtInfo.bppc ≠ 1 ∧ fmtInfo.bppc ≠ 2) then
      some (false, d)
    else
      let requiredBytes := requiredScratchBytes img
      let reserved := if requiredBytes ≠ 0 then
          ensureSecurityClearResourcesLocked cuda requiredBytes d
        else (true, d)
      let cleared := if reserved.1 then
          clearPlanesGpu cuda img (List.range fmtInfo.numPlanes) reserved.2
        else some (false, reserved.2)
      cleared.map fun (cleared, d) => drainSecurityClear cuda cleared d

/-! ## Both paths -/

/-- The loop of the host path over the planes. -/
def clearPlanesHost (cuda : Cuda) (mallocs : Nat → Nat → Bool) (staging : Nat → Nat → UInt8)
    (img : BackingImage) : List Nat → NVDriver → Option (Bool × NVDriver)
  | [], d => some (true, d)
  | plane :: planes, d =>
    if d.cudaWorkUnsafe then some (false, d)
    else
      (clearBackingImagePlaneHost cuda (mallocs plane) (staging plane) img plane d).bind
        fun (cleared, d) =>
          if cleared then clearPlanesHost cuda mallocs staging img planes d else some (false, d)

/-- `clearBackingImage`. -/
def clearBackingImage (cuda : Cuda) (mallocs : Nat → Nat → Bool)
    (staging : Nat → Nat → UInt8) (img : BackingImage) (d : NVDriver) :
    Option (Bool × NVDriver) :=
  (clearBackingImageGpu cuda img d).bind fun (cleared, d) =>
    if cleared then some (true, d)
    else clearPlanesHost cuda mallocs staging img
      (List.range (formatsInfo img.format).numPlanes) d

end SecurityClear
end NvidiaVaapi
