import NvidiaVaapi.Direct.Allocation
import NvidiaVaapi.Surface.Import

/-!
# Creation of imported backing images

`createImportedBackingImageImpl` of `vabackend.c` and the import of the direct backend, with
the descriptors, mappings and objects of CUDA that they make.
-/

namespace NvidiaVaapi
namespace Direct

open ResourceProgram
open Surface (ImageId ImportedSurface NVDriverContext NVDriverImage borrowBackingImage
  calculateUnifiedImageLayout formatsInfo importPlanes importedObjectSize importedObjectsAreLinear
  nvFormatFromSurfaceFourcc recoverModifier uint64Max validateImportedLayout withImportedObject)

/-! ## Fields -/

/-- `externalMappings[i] = address`. -/
def BackingImage.withMapping (img : BackingImage) (i address : Nat) : BackingImage :=
  { img with mappings := Function.update img.mappings i (some address) }

/-- `externalDevicePtrs[i] = pointer`. -/
def BackingImage.withDevicePtr (img : BackingImage) (i pointer : Nat) : BackingImage :=
  { img with devicePtrs := Function.update img.devicePtrs i (some pointer) }

/-- `externalObjectMems[i] = extMem`. -/
def BackingImage.withObjectMem (img : BackingImage) (i extMem : Nat) : BackingImage :=
  { img with externalObjectMems := Function.update img.externalObjectMems i (some extMem) }

/-- The numbers of the objects of an image. -/
def BackingImage.objects (img : BackingImage) : List (Fin 4) :=
  (List.finRange 4).filter fun i => i.val < img.numObjects

/-! ## Buffers of CUDA -/

/-- `releaseExternalCudaBuffers`. -/
def releaseExternalCudaBuffers (img : BackingImage) : Program BackingImage := do
  releaseFields img.field (img.objects.flatMap fun i => [.devicePtr i, .objectMem i])
  return { img with
    devicePtrs := fun i => if i < img.numObjects then none else img.devicePtrs i
    externalObjectMems := fun i => if i < img.numObjects then none else img.externalObjectMems i }

/-- The loop of `importExternalBuffersToCuda`; `false` where it goes to `fail`. -/
def importCudaBuffers : List Nat → BackingImage → Program (Bool × BackingImage)
  | [], img => return (true, img)
  | i :: rest, img => do
    if img.fds i < 0 ∨ img.objectSize i = 0 then return (false, img)
    let importFd ← opened
    if importFd < 0 then return (false, img)
    match ← cuImportExternalMemory importFd with
    | none =>
      close importFd
      return (false, img)
    | some extMem =>
      let img := img.withObjectMem i extMem
      match ← acquired .mappedBuffer with
      | none => return (false, img)
      | some pointer => importCudaBuffers rest (img.withDevicePtr i pointer)

/-- `importExternalBuffersToCuda`. -/
def importExternalBuffersToCuda (img : BackingImage) : Program (Bool × BackingImage) := do
  if ¬ importedObjectsAreLinear img.toBackingImage then return (false, img)
  if ¬ (← succeeds .mappedBufferAvailable) then return (false, img)
  match ← importCudaBuffers (List.range img.numObjects) img with
  | (true, img) => return (true, img)
  | (false, img) =>
    let img ← releaseExternalCudaBuffers img
    return (false, img)

/-! ## Mappings -/

/-- The loop of `mapExternalBacking`; `false` where it goes to `fail`.  No size of 64 bits is
above `SIZE_MAX`. -/
def mapObjects : List Nat → BackingImage → Program (Bool × BackingImage)
  | [], img => return (true, img)
  | i :: rest, img => do
    if img.fds i < 0 ∨ img.objectSize i = 0 then return (false, img)
    match ← acquired .mapping with
    | none => return (false, img)
    | some address => mapObjects rest (img.withMapping i address)

/-- `mapExternalBacking`. -/
def mapExternalBacking (img : BackingImage) : Program (Bool × BackingImage) := do
  if ¬ importedObjectsAreLinear img.toBackingImage then return (false, img)
  match ← mapObjects (List.range img.numObjects) img with
  | (true, img) => return (true, img)
  | (false, img) =>
    releaseFields img.field (img.objects.map .mapping)
    return (false, { img with
      mappings := fun i => if i < img.numObjects then none else img.mappings i })

/-! ## Import by the direct backend -/

/-- `direct_importBackingImage`. -/
def directImportBackingImage (context : NVDriverContext) (img : BackingImage)
    (legacyPrime : Bool) : Program (Bool × BackingImage) := do
  let info := formatsInfo img.format
  match calculateUnifiedImageLayout context img.width img.height info true with
  | none => return (false, img)
  | some (planes, size) =>
    let planeAt (i : Nat) : NVDriverImage := planes.getD i {}
    if img.numObjects ≠ 1 ∨ img.objectSize 0 ≠ size ∨
        (¬ legacyPrime ∧ img.mods 0 ≠ (planeAt 0).mods) then return (false, img)
    if ¬ (List.range info.numPlanes).all fun i =>
        img.planeObjectIndex i = 0 && img.offsets i = (planeAt i).offset &&
        img.strides i = (planeAt i).pitch then return (false, img)
    let fd ← exportDmabufMemory
    if fd < 0 then return (false, img)
    match ← cuImportExternalMemory fd with
    | none =>
      close fd
      return (false, img)
    | some extMem =>
      match ← mapPlanes planes 0 { img with extMem := some extMem } with
      | (true, img) =>
        return (true, { img with mods := Function.update img.mods 0 (planeAt 0).mods })
      | (false, img) =>
        releaseFields img.field ((planesBelow info.numPlanes).map .mipmapArray ++ [.extMem])
        return (false, { img with
          extMem := none
          cudaImages := fun i =>
            if i < info.numPlanes then { img.cudaImages i with mipmapArray := none }
            else img.cudaImages i })

/-! ## Creation -/

/-- The label `fail` of `createImportedBackingImageImpl`. -/
def failImport (img : BackingImage) : Program (Option BackingImage) := do
  let img ← releaseExternalCudaBuffers img
  releaseFields img.field ((List.finRange 4).flatMap fun i => [.mapping i, .fd i])
  return none

/-- The loop over the objects; `false` where it goes to `fail`. -/
def importObjects (imported : ImportedSurface) :
    List Nat → BackingImage → Program (Bool × BackingImage)
  | [], img => return (true, img)
  | i :: rest, img => do
    let fd ← opened
    let img := img.withFd i fd
    if fd < 0 then return (false, img)
    let actualSize ← asked .importedFdSize
    let actualSize := actualSize.getD 0
    let objectSize := importedObjectSize (imported.objects i) actualSize
    if objectSize = 0 ∨ (actualSize ≠ 0 ∧ objectSize > actualSize) ∨
        uint64Max - img.totalSize < objectSize then return (false, img)
    importObjects imported rest { img with
      toBackingImage := withImportedObject img.toBackingImage i objectSize
        (imported.objects i).modifier }

/-- The three ways to reach the memory of an image that borrows no other. -/
def importMemory (context : NVDriverContext) (img : BackingImage) (legacyPrime : Bool) :
    Program (Option BackingImage) := do
  match ← directImportBackingImage context img legacyPrime with
  | (true, img) => return some img
  | (false, img) =>
    match ← importExternalBuffersToCuda img with
    | (true, img) => return some img
    | (false, img) =>
      match ← mapExternalBacking img with
      | (true, img) => return some img
      | (false, img) => failImport img

/-- `createImportedBackingImageImpl`, with what the search of `retainBackingImageByFd` finds. -/
def createImportedBackingImageImpl (context : NVDriverContext)
    (existing : Option (ImageId × Surface.BackingImage)) (imported : ImportedSurface)
    (width height : Nat) : Program (Option BackingImage) := do
  let format := nvFormatFromSurfaceFourcc imported.pixelFormat
  if format = .none ∨ imported.numPlanes = 0 ∨ imported.numObjects = 0 ∨
      (imported.objects 0).fd < 0 then return none
  if ¬ (← succeeds .calloc) then return none
  let img : BackingImage :=
    { isExternalBuffer := true, format, width, height, fourcc := imported.pixelFormat
      numObjects := imported.numObjects, numPlanes := imported.numPlanes
      isSingleBuffer := imported.numObjects = 1 }
  match ← importObjects imported (List.range imported.numObjects) img with
  | (false, img) => failImport img
  | (true, img) =>
    match importPlanes imported (List.range imported.numPlanes) img.toBackingImage with
    | none => failImport img
    | some toBackingImage =>
      let img := { img with toBackingImage }
      if ¬ validateImportedLayout img.toBackingImage then failImport img
      else
        match existing with
        | none => importMemory context img imported.legacyPrime
        | some (id, existing) =>
          let img := { img with
            toBackingImage := recoverModifier imported.legacyPrime existing img.toBackingImage }
          if ← succeeds .backingImageMatchesImportedLayout then
            return some { img with
              toBackingImage := borrowBackingImage id existing img.toBackingImage }
          else importMemory context img imported.legacyPrime

end Direct
end NvidiaVaapi
