import NvidiaVaapi.Direct.Buffers

/-!
# Allocation of backing images

The allocation paths of `direct/direct-export-buf.c`: a buffer for each plane, one buffer for
all planes, and the images of RGB surfaces.  An array that is the level of a mipmapped array
goes with it, and is no resource of its own.
-/

namespace NvidiaVaapi
namespace Direct

open ResourceProgram
open Surface (NVDriverContext NVDriverImage NVDExportLayout NVFormatInfo NVFormatPlane NVSurface
  addPackedPlanes addPlaneWithObject calculateUnifiedImageLayout formatsInfo isRgbFourcc
  nvFormatForSurface nvPlaneExtent)

/-! ## Backing images -/

structure NVCudaImage where
  extMem : Option Nat := none
  mipmapArray : Option Nat := none
  deriving DecidableEq, Repr

/-- A `BackingImage` with the handles of what it owns.  `mappings` and `devicePtrs` are the
addresses in `externalMappings` and `externalDevicePtrs`. -/
structure BackingImage extends Surface.BackingImage where
  cudaImages : Nat → NVCudaImage := fun _ => {}
  extMem : Option Nat := none
  mappings : Nat → Option Nat := fun _ => none
  devicePtrs : Nat → Option Nat := fun _ => none
  externalObjectMems : Nat → Option Nat := fun _ => none

/-- The fields of a backing image that own something, with their numbers in the arrays. -/
inductive Slot
  | fd (i : Fin 4)
  | mapping (i : Fin 4)
  | devicePtr (i : Fin 4)
  | objectMem (i : Fin 4)
  | mipmapArray (i : Fin 3)
  | cudaExtMem (i : Fin 3)
  | extMem
  deriving DecidableEq, Repr

/-- A descriptor in a variable that is negative while there is none. -/
def descriptorIn (fd : Int) : Option Resource :=
  if fd ≥ 0 then some (.descriptor fd) else none

/-- What a field of a backing image owns. -/
def BackingImage.field (img : BackingImage) : Slot → Option Resource
  | .fd i => descriptorIn (img.fds i)
  | .mapping i => (img.mappings i).map .mapping
  | .devicePtr i => (img.devicePtrs i).map .mappedBuffer
  | .objectMem i => (img.externalObjectMems i).map .externalMemory
  | .mipmapArray i => (img.cudaImages i).mipmapArray.map .mipmappedArray
  | .cudaExtMem i => (img.cudaImages i).extMem.map .externalMemory
  | .extMem => img.extMem.map .externalMemory

/-- `cudaImages[i].extMem = extMem`. -/
def BackingImage.withCudaExtMem (img : BackingImage) (i extMem : Nat) : BackingImage :=
  { img with cudaImages :=
      Function.update img.cudaImages i { img.cudaImages i with extMem := some extMem } }

/-- `cudaImages[i].mipmapArray = mipmapArray`. -/
def BackingImage.withMipmapArray (img : BackingImage) (i mipmapArray : Nat) : BackingImage :=
  { img with cudaImages :=
      Function.update img.cudaImages i { img.cudaImages i with mipmapArray := some mipmapArray } }

/-- `fds[i] = fd`. -/
def BackingImage.withFd (img : BackingImage) (i : Nat) (fd : Int) : BackingImage :=
  { img with fds := Function.update img.fds i fd }

/-- A plane of an image that has an object of its own, of some size. -/
def BackingImage.withPlane (img : BackingImage) (info : NVFormatInfo) (i : Nat)
    (image : NVDriverImage) (arrayHeight size : Nat) : BackingImage :=
  { img with toBackingImage :=
      { addPlaneWithObject info img.toBackingImage i image arrayHeight size with
        objectSize := Function.update img.objectSize i size } }

/-! ## Destruction -/

/-- The numbers below a count of planes. -/
def planesBelow (numPlanes : Nat) : List (Fin 3) :=
  (List.finRange 3).filter fun i => i.val < numPlanes

/-- The fields that `destroyBackingImage` releases, in its order.  The arrays of these images are
levels, so that none is destroyed by itself. -/
def BackingImage.destroySlots (img : BackingImage) : List Slot :=
  let numPlanes := (formatsInfo img.format).numPlanes
  (List.finRange 4).flatMap (fun i => [.mapping i, .devicePtr i, .objectMem i]) ++
    (List.finRange 4).map .fd ++
    if img.borrowedCudaResources then []
    else
      (planesBelow numPlanes).map .mipmapArray ++
        if img.isSingleBuffer then [.extMem] else (planesBelow numPlanes).map .cudaExtMem

/-- The fields that `nvDestroyImportedBackingImage` releases, in its order. -/
def BackingImage.importedSlots (img : BackingImage) : List Slot :=
  (if img.borrowedCudaResources ∨ img.extMem = none then []
    else (List.finRange 3).map .mipmapArray ++ [.extMem]) ++
    (List.finRange 4).flatMap fun i => [.mapping i, .devicePtr i, .objectMem i, .fd i]

/-- `nvDestroyImportedBackingImage`. -/
def nvDestroyImportedBackingImage (img : BackingImage) : Program Unit := do
  if ← succeeds .cudaWorkUnsafe then return ()
  releaseFields img.field img.importedSlots

def destroyBackingImage (img : BackingImage) : Program Unit := do
  if ← succeeds .cudaWorkUnsafe then return ()
  if img.isExternalBuffer then return ← nvDestroyImportedBackingImage img
  releaseFields img.field img.destroySlots

/-- The label `fail` of an allocation that owns nothing outside of its image. -/
def destroyFailed (img : BackingImage) : Program (Option BackingImage) := do
  destroyBackingImage img
  return none

/-! ## A buffer for each plane -/

/-- The loop of `direct_allocateBackingImage_perPlane` from plane `i` on; `false` where it goes
to `fail`. -/
def allocatePlanes (info : NVFormatInfo) (sharedModifier : Bool) :
    List NVDriverImage → Nat → BackingImage → Program (Bool × BackingImage)
  | [], _, img => return (true, img)
  | image :: rest, i, img => do
    match ← allocBuffer image.memorySize with
    | none => return (false, img)
    | some (fds, size) =>
      match ← cuImportExternalMemory fds.nvFd with
      | none =>
        close fds.nvFd
        close fds.nvFd2
        close fds.drmFd
        return (false, img)
      | some extMem =>
        close fds.nvFd2
        let img := (img.withCudaExtMem i extMem).withFd i fds.drmFd
        match ← acquired .mipmappedArray with
        | none => return (false, img)
        | some mipmapArray =>
          let img := img.withMipmapArray i mipmapArray
          if ¬ (← succeeds .cuMipmappedArrayGetLevel) then return (false, img)
          let arrayHeight :=
            if sharedModifier ∧ image.pitch ≠ 0 then image.memorySize / image.pitch
            else image.height
          allocatePlanes info sharedModifier rest (i + 1)
            (img.withPlane info i image arrayHeight size)

/-- `direct_allocateBackingImage_perPlane`. -/
def directAllocateBackingImagePerPlane (context : NVDriverContext) (surface : NVSurface)
    (sharedModifier : Bool) : Program (Option BackingImage) := do
  if ¬ (← succeeds .calloc) then return none
  if ¬ (← succeeds .initBackingImageSync) then return none
  let format := nvFormatForSurface surface
  let info := formatsInfo format
  let img : BackingImage := { isSingleBuffer := false, format }
  match calculateUnifiedImageLayout context surface.width surface.height info sharedModifier with
  | none => destroyFailed img
  | some (images, _) =>
    let img := { img with numObjects := info.numPlanes, numPlanes := info.numPlanes }
    match ← allocatePlanes info sharedModifier images 0 img with
    | (false, img) => destroyFailed img
    | (true, img) =>
      let img := { img with
        width := surface.width, height := surface.height, fourcc := info.fourcc }
      if ¬ (← succeeds .clearBackingImage) then return ← destroyFailed img
      return some img

/-! ## One buffer for all planes -/

/-- The descriptors in variables of a function. -/
inductive FdSlot
  | nvFd
  | nvFd2
  | drmFd
  deriving DecidableEq, Repr

def Descriptors.field (fds : Descriptors) : FdSlot → Option Resource
  | .nvFd => descriptorIn fds.nvFd
  | .nvFd2 => descriptorIn fds.nvFd2
  | .drmFd => descriptorIn fds.drmFd

/-- The label `fail` of `direct_allocateBackingImage_single`. -/
def failSingle (fds : Descriptors) (img : BackingImage) : Program (Option BackingImage) := do
  releaseFields fds.field [.nvFd, .nvFd2, .drmFd]
  destroyFailed img

/-- The loop over the planes of an imported buffer from plane `i` on; `false` where an array is
refused. -/
def mapPlanes : List NVDriverImage → Nat → BackingImage → Program (Bool × BackingImage)
  | [], _, img => return (true, img)
  | _ :: rest, i, img => do
    match ← acquired .mipmappedArray with
    | none => return (false, img)
    | some mipmapArray =>
      let img := img.withMipmapArray i mipmapArray
      if ¬ (← succeeds .cuMipmappedArrayGetLevel) then return (false, img)
      mapPlanes rest (i + 1) img

/-- `direct_allocateBackingImage_single`. -/
def directAllocateBackingImageSingle (context : NVDriverContext) (surface : NVSurface) :
    Program (Option BackingImage) := do
  if ¬ (← succeeds .calloc) then return none
  if ¬ (← succeeds .initBackingImageSync) then return none
  let format := nvFormatForSurface surface
  let info := formatsInfo format
  let img : BackingImage := { isSingleBuffer := true, format }
  match calculateUnifiedImageLayout context surface.width surface.height info true with
  | none => failSingle {} img
  | some (images, layoutSize) =>
    let img := { img with totalSize := layoutSize, numObjects := 1, numPlanes := info.numPlanes }
    match ← allocBuffer layoutSize with
    | none => failSingle {} img
    | some (fds, size) =>
      match ← cuImportExternalMemory fds.nvFd with
      | none => failSingle fds img
      | some extMem =>
        close fds.nvFd2
        let fds := { fds with nvFd := -1, nvFd2 := -1 }
        match ← mapPlanes images 0 { img with extMem := some extMem } with
        | (false, img) => failSingle fds img
        | (true, img) =>
          let img := { img with
            width := surface.width, height := surface.height, fourcc := info.fourcc
            totalSize := size, objectSize := Function.update img.objectSize 0 size }.withFd 0
              fds.drmFd
          let fds := { fds with drmFd := -1 }
          let img := { img with
            toBackingImage := addPackedPlanes info images 0 img.toBackingImage }
          if ¬ (← succeeds .clearBackingImage) then return ← failSingle fds img
          return some img

/-! ## Images of RGB surfaces -/

/-- The loop over `alloc_image`, behind images that it has allocated. -/
def allocImages (context : NVDriverContext) (surface : NVSurface) (bppc : Nat) :
    List NVFormatPlane → List DriverImage → Program (Bool × List DriverImage)
  | [], driverImages => return (true, driverImages)
  | p :: rest, driverImages => do
    match ← allocImage context (nvPlaneExtent surface.width p.ssX)
        (nvPlaneExtent surface.height p.ssY) p.channelCount bppc with
    | none => return (false, driverImages)
    | some image => allocImages context surface bppc rest (driverImages ++ [image])

/-- `import_to_cuda`, for plane `i` of an image. -/
def importToCuda (image : DriverImage) (i : Nat) (img : BackingImage) :
    Program (Bool × DriverImage × BackingImage) := do
  match ← cuImportExternalMemory image.nvFd with
  | none => return (false, image, img)
  | some extMem =>
    close image.nvFd2
    let image := { image with nvFd := -1, nvFd2 := -1 }
    let img := img.withCudaExtMem i extMem
    match ← acquired .mipmappedArray with
    | none => return (false, image, img)
    | some mipmapArray =>
      let level ← succeeds .cuMipmappedArrayGetLevel
      return (level, image, img.withMipmapArray i mipmapArray)

/-- The loop over `import_to_cuda`, behind images that it has imported. -/
def importImages : List DriverImage → List DriverImage → BackingImage →
    Program (Bool × List DriverImage × BackingImage)
  | [], driverImages, img => return (true, driverImages, img)
  | image :: rest, driverImages, img => do
    match ← importToCuda image driverImages.length img with
    | (false, image, img) => return (false, driverImages ++ image :: rest, img)
    | (true, image, img) => importImages rest (driverImages ++ [image]) img

/-- The descriptors of images. -/
def imagesField (driverImages : List DriverImage) (slot : Nat × FdSlot) : Option Resource :=
  (driverImages.getD slot.1 {}).toDescriptors.field slot.2

/-- The order in which `bail` closes them. -/
def imageSlots (count : Nat) : List (Nat × FdSlot) :=
  (List.range count).flatMap fun i => [(i, .nvFd), (i, .nvFd2), (i, .drmFd)]

/-- The label `bail` of `direct_allocateBackingImageImpl`; the images behind those that were
allocated have no descriptors. -/
def bail (driverImages : List DriverImage) (img : BackingImage) :
    Program (Option BackingImage) := do
  releaseFields (imagesField driverImages) (imageSlots driverImages.length)
  destroyFailed img

/-- The loop that puts the dma-bufs into the image, from plane `i` on. -/
def addImages (info : NVFormatInfo) : List DriverImage → Nat → BackingImage → BackingImage
  | [], _, img => img
  | image :: rest, i, img =>
    addImages info rest (i + 1) ((img.withFd i image.drmFd).withPlane info i
      image.toNVDriverImage image.height image.allocationSize)

/-- The part of `direct_allocateBackingImageImpl` for RGB surfaces. -/
def directAllocateBackingImageRgb (context : NVDriverContext) (surface : NVSurface) :
    Program (Option BackingImage) := do
  if ¬ (← succeeds .calloc) then return none
  if ¬ (← succeeds .initBackingImageSync) then return none
  let format := nvFormatForSurface surface
  let info := formatsInfo format
  let img : BackingImage :=
    { format, fourcc := surface.fourcc, numObjects := info.numPlanes, numPlanes := info.numPlanes }
  match ← allocImages context surface info.bppc info.plane [] with
  | (false, driverImages) => bail driverImages img
  | (true, driverImages) =>
    match ← importImages driverImages [] img with
    | (false, driverImages, img) => bail driverImages img
    | (true, driverImages, img) =>
      return some (addImages info driverImages 0 { img with
        width := surface.width, height := surface.height })

/-- `direct_allocateBackingImageImpl`. -/
def directAllocateBackingImageImpl (context : NVDriverContext) (layout : NVDExportLayout)
    (surface : NVSurface) : Program (Option BackingImage) := do
  if ← succeeds .cudaWorkUnsafe then return none
  if isRgbFourcc surface.fourcc then return ← directAllocateBackingImageRgb context surface
  match layout with
  | .packed => directAllocateBackingImageSingle context surface
  | .perPlaneSharedModifier => directAllocateBackingImagePerPlane context surface true
  | .perPlaneNatural => directAllocateBackingImagePerPlane context surface false

end Direct
end NvidiaVaapi
