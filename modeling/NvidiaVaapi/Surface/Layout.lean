import NvidiaVaapi.Surface.Images

/-!
# Layouts of the direct backend

The block-linear layouts of `direct/nv-driver.c` and the allocation of backing images of
`direct/direct-export-buf.c`.
-/

namespace NvidiaVaapi
namespace Surface

def uint32Max : Nat := 2 ^ 32 - 1
def int32Max : Nat := 2 ^ 31 - 1
def uint64Max : Nat := 2 ^ 64 - 1
def gobWidthInBytes : Nat := 64
def gobHeightInBytes : Nat := 8
def singleBufferPlaneAlignment : Nat := 65536

/-- `ROUND_UP`. -/
def roundUp (n s : Nat) : Nat :=
  (n + s - 1) / s * s

/-- The first loop of `calculate_log2_gobs_per_block_y`, from a block height down. -/
def capBlockHeight (heightAndOneHalf : Nat) : Nat → Nat
  | 0 => 0
  | log2 + 1 =>
    if gobHeightInBytes * 2 ^ (log2 + 1) > heightAndOneHalf then
      capBlockHeight heightAndOneHalf log2
    else log2 + 1

/-- Its second loop: the block height and the proposed block size. -/
def shrinkBlockHeight (height : Nat) : Nat → Nat → Nat
  | 0, _ => 0
  | log2 + 1, proposedBlockSize =>
    if proposedBlockSize ≥ height then shrinkBlockHeight height log2 (proposedBlockSize / 2)
    else log2 + 1

def calculateLog2GobsPerBlockY (height : Nat) : Nat :=
  let log2GobsPerBlockY := capBlockHeight (height + height / 2) 4
  shrinkBlockHeight height log2GobsPerBlockY (gobHeightInBytes * 2 ^ (log2GobsPerBlockY - 1))

/-- `DRM_FORMAT_MOD_NVIDIA_BLOCK_LINEAR_2D(0, s, g, k, h)`. -/
def blockLinear2D (s g k h : Nat) : Nat :=
  3 * 2 ^ 56 + (0x10 ||| (h &&& 0xf) ||| ((k &&& 0xff) <<< 12) ||| ((g &&& 0x3) <<< 20) |||
    ((s &&& 0x1) <<< 22))

/-- The modifier of a block height on this GPU. -/
def NVDriverContext.modifier (context : NVDriverContext) (log2GobsPerBlockY : Nat) : Nat :=
  blockLinear2D context.sectorLayout context.pageKindGeneration context.genericPageKind
    log2GobsPerBlockY

/-- `NVDriverImage`, without its descriptors. -/
structure NVDriverImage where
  width : Nat := 0
  height : Nat := 0
  mods : Nat := 0
  memorySize : Nat := 0
  offset : Nat := 0
  pitch : Nat := 0
  deriving DecidableEq, Repr, Inhabited

/-- One plane of `calculate_unified_image_layout` at an offset, with the offset behind it. -/
def layoutPlane (context : NVDriverContext) (width height bppc : Nat) (plane : NVFormatPlane)
    (log2GobsPerBlockY offset : Nat) : Option (NVDriverImage × Nat) :=
  let planeWidth := nvPlaneExtent width plane.ssX
  let planeHeight := nvPlaneExtent height plane.ssY
  let bytesPerPixel := plane.channelCount * bppc
  let widthInBytes := roundUp (planeWidth * bytesPerPixel) gobWidthInBytes
  let alignedHeight := roundUp planeHeight (gobHeightInBytes * 2 ^ log2GobsPerBlockY)
  if widthInBytes > int32Max ∨ alignedHeight > uint32Max ∨ offset > int32Max ∨
      widthInBytes * alignedHeight > uint32Max then none
  else
    let image : NVDriverImage :=
      { width := planeWidth, height := planeHeight, mods := context.modifier log2GobsPerBlockY,
        memorySize := widthInBytes * alignedHeight, offset, pitch := widthInBytes }
    let next := roundUp (offset + image.memorySize) singleBufferPlaneAlignment
    if next > uint32Max then none else some (image, next)

/-- The loop over the planes: their block heights, and the offset so far. -/
def layoutPlanes (context : NVDriverContext) (width height bppc : Nat) :
    List (NVFormatPlane × Nat) → Nat → Option (List NVDriverImage × Nat)
  | [], offset => some ([], offset)
  | (plane, log2GobsPerBlockY) :: rest, offset => do
    let (image, next) ← layoutPlane context width height bppc plane log2GobsPerBlockY offset
    let (images, totalSize) ← layoutPlanes context width height bppc rest next
    pure (image :: images, totalSize)

/-- The natural block height of a plane. -/
def planeLog2Y (height : Nat) (plane : NVFormatPlane) : Nat :=
  calculateLog2GobsPerBlockY (nvPlaneExtent height plane.ssY)

/-- The largest block height of the planes. -/
def unifiedLog2Y (height : Nat) (planes : List NVFormatPlane) : Nat :=
  (planes.map (planeLog2Y height)).foldl max 0

/-- `calculate_unified_image_layout`: the planes and the size of all of them together. -/
def calculateUnifiedImageLayout (context : NVDriverContext) (width height : Nat)
    (info : NVFormatInfo) (unifyBlockHeight : Bool) : Option (List NVDriverImage × Nat) :=
  if width = 0 ∨ height = 0 ∨ info.bppc = 0 ∨ info.bppc > 2 ∨ info.numPlanes = 0 ∨
      info.numPlanes > 3 ∨ info.plane.any (fun plane =>
        plane.ssX > 1 || plane.ssY > 1 || plane.channelCount = 0 || plane.channelCount > 4) then
    none
  else
    layoutPlanes context width height info.bppc
      (info.plane.map fun plane =>
        (plane, if unifyBlockHeight then unifiedLog2Y height info.plane
          else planeLog2Y height plane)) 0

/-- What is allocated for a layout: its size rounded up to 64 KiB, as in `alloc_buffer` and
in `alloc_image`. -/
def allocationSize (size : Nat) : Option Nat :=
  if size = 0 ∨ roundUp size 65536 > uint32Max then none else some (roundUp size 65536)

/-- The layout of `alloc_image`. -/
def allocImageLayout (context : NVDriverContext) (width height channels bytesPerChannel : Nat) :
    Option NVDriverImage :=
  if width = 0 ∨ height = 0 ∨ channels = 0 ∨ channels > 4 ∨
      (bytesPerChannel ≠ 1 ∧ bytesPerChannel ≠ 2) then none
  else
    let log2GobsPerBlockY := calculateLog2GobsPerBlockY height
    let widthInBytes := roundUp (width * (channels * bytesPerChannel)) gobWidthInBytes
    let alignedHeight := roundUp height (gobHeightInBytes * 2 ^ log2GobsPerBlockY)
    if widthInBytes > int32Max ∨ alignedHeight > uint32Max ∨
        widthInBytes * alignedHeight > uint32Max then none
    else
      some { width, height, mods := context.modifier log2GobsPerBlockY,
             memorySize := widthInBytes * alignedHeight, offset := 0, pitch := widthInBytes }

/-- `nvFormatForSurface`. -/
def nvFormatForSurface (surface : NVSurface) : NVFormat :=
  if isRgbFourcc surface.fourcc then .argb
  else
    match surface.format with
    | .p016 =>
      if surface.bitDepth = 10 then .p010 else if surface.bitDepth = 12 then .p012 else .p016
    | .yuv444_16Bit => .q416
    | .yuv444 => .yuv444P
    | .nv12 => .nv12

/-- The dma-buf of an allocation becomes object `i` of an image. -/
def addObject (k : Kernel) (img : BackingImage) (i size : Nat) : Option (BackingImage × Kernel) := do
  let (drmFd, k) ← k.create dmaBufDev size size
  let img := { img with
    fds := Function.update img.fds i drmFd
    objectSize := Function.update img.objectSize i size }
  pure (cacheBackingImageFdStat k img i, k)

/-- The CUDA array of a plane. -/
def cudaArray (image : NVDriverImage) (info : NVFormatInfo) (i height offset : Nat) : CudaArray :=
  { offset, width := image.width, height,
    bytesPerPixel := (info.planeAt i).channelCount * info.bppc }

/-- A plane of an image that has an object of its own. -/
def addPlaneWithObject (info : NVFormatInfo) (img : BackingImage) (i : Nat) (image : NVDriverImage)
    (arrayHeight size : Nat) : BackingImage :=
  { img with
    arrays := Function.update img.arrays i (some (cudaArray image info i arrayHeight 0))
    strides := Function.update img.strides i image.pitch
    mods := Function.update img.mods i image.mods
    offsets := Function.update img.offsets i 0
    size := Function.update img.size i size
    planeObjectIndex := Function.update img.planeObjectIndex i i }

/-- The loop of `direct_allocateBackingImage_perPlane`. -/
def allocatePlanes (info : NVFormatInfo) (sharedModifier : Bool) :
    List NVDriverImage → Nat → BackingImage → Kernel → Option (BackingImage × Kernel)
  | [], _, img, k => some (img, k)
  | image :: rest, i, img, k => do
    let size ← allocationSize image.memorySize
    let (img, k) ← addObject k img i size
    let arrayHeight :=
      if sharedModifier ∧ image.pitch ≠ 0 then image.memorySize / image.pitch else image.height
    allocatePlanes info sharedModifier rest (i + 1)
      (addPlaneWithObject info img i image arrayHeight size) k

/-- `direct_allocateBackingImage_perPlane`, where the GPU does its part. -/
def directAllocateBackingImagePerPlane (context : NVDriverContext) (k : Kernel)
    (surface : NVSurface) (sharedModifier : Bool) : Option (BackingImage × Kernel) := do
  let format := nvFormatForSurface surface
  let info := formatsInfo format
  let (images, _) ←
    calculateUnifiedImageLayout context surface.width surface.height info sharedModifier
  let img : BackingImage :=
    { isSingleBuffer := false, format, numObjects := info.numPlanes, numPlanes := info.numPlanes }
  let (img, k) ← allocatePlanes info sharedModifier images 0 img k
  pure ({ img with width := surface.width, height := surface.height, fourcc := info.fourcc }, k)

/-- A plane of an image whose planes share an object. -/
def addPackedPlane (info : NVFormatInfo) (img : BackingImage) (i : Nat) (image : NVDriverImage) :
    BackingImage :=
  let alignedHeight := if image.pitch ≠ 0 then image.memorySize / image.pitch else image.height
  { img with
    arrays := Function.update img.arrays i (some (cudaArray image info i alignedHeight image.offset))
    strides := Function.update img.strides i image.pitch
    mods := Function.update img.mods i image.mods
    offsets := Function.update img.offsets i image.offset
    size := Function.update img.size i image.memorySize }

/-- The loop over the planes of `direct_allocateBackingImage_single`. -/
def addPackedPlanes (info : NVFormatInfo) : List NVDriverImage → Nat → BackingImage → BackingImage
  | [], _, img => img
  | image :: rest, i, img => addPackedPlanes info rest (i + 1) (addPackedPlane info img i image)

/-- `direct_allocateBackingImage_single`, where the GPU does its part. -/
def directAllocateBackingImageSingle (context : NVDriverContext) (k : Kernel)
    (surface : NVSurface) : Option (BackingImage × Kernel) := do
  let format := nvFormatForSurface surface
  let info := formatsInfo format
  let (images, layoutSize) ←
    calculateUnifiedImageLayout context surface.width surface.height info true
  let size ← allocationSize layoutSize
  let img : BackingImage :=
    { isSingleBuffer := true, format, numObjects := 1, numPlanes := info.numPlanes
      width := surface.width, height := surface.height, fourcc := info.fourcc, totalSize := size }
  let (img, k) ← addObject k img 0 size
  pure (addPackedPlanes info images 0 img, k)

/-- The part of `direct_allocateBackingImageImpl` for RGB surfaces, whose format has one
plane, where the GPU does its part. -/
def directAllocateBackingImageRgb (context : NVDriverContext) (k : Kernel)
    (surface : NVSurface) : Option (BackingImage × Kernel) := do
  let format := nvFormatForSurface surface
  let info := formatsInfo format
  let p := info.planeAt 0
  let image ← allocImageLayout context (nvPlaneExtent surface.width p.ssX)
    (nvPlaneExtent surface.height p.ssY) p.channelCount info.bppc
  let size ← allocationSize image.memorySize
  let img : BackingImage :=
    { format, fourcc := surface.fourcc, numObjects := info.numPlanes, numPlanes := info.numPlanes
      width := surface.width, height := surface.height }
  let (img, k) ← addObject k img 0 size
  pure (addPlaneWithObject info img 0 image image.height size, k)

/-- `direct_allocateBackingImageImpl`, where the GPU does its part. -/
def directAllocateBackingImageImpl (d : NVDriver) (surface : NVSurface) :
    Option (BackingImage × Kernel) :=
  if d.cudaWorkUnsafe then none
  else if isRgbFourcc surface.fourcc then
    directAllocateBackingImageRgb d.driverContext d.kernel surface
  else
    match d.exportLayout with
    | .packed => directAllocateBackingImageSingle d.driverContext d.kernel surface
    | .perPlaneSharedModifier =>
      directAllocateBackingImagePerPlane d.driverContext d.kernel surface true
    | .perPlaneNatural =>
      directAllocateBackingImagePerPlane d.driverContext d.kernel surface false

end Surface
end NvidiaVaapi
