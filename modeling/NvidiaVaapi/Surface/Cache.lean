import NvidiaVaapi.Surface.Import

/-!
# The caches of the two backends

How `direct/direct-export-buf.c` and `export-buf.c` attach backing images to surfaces, detach
them into the cache, prune the cache and take images out of it again.  What the GPU and the
system answer is a parameter.
-/

namespace NvidiaVaapi
namespace Surface

namespace NVDriver

variable (d : NVDriver)

/-! ## The direct backend -/

/-- `backingImageMemorySize`. -/
def backingImageMemorySize (img : BackingImage) : Nat :=
  if img.totalSize ≠ 0 then img.totalSize
  else ((List.range (formatsInfo img.format).numPlanes).map img.size).sum

/-- `backingImageCanPrune`. -/
def backingImageCanPrune (id : ImageId) : Bool :=
  (d.heap.get id).any fun img => img.surface.isNone && img.borrowCount = 0

/-- `destroyBackingImage`. -/
def destroyBackingImage (id : ImageId) : NVDriver :=
  if d.cudaWorkUnsafe then d
  else
    match d.heap.get id with
    | none => d
    | some img =>
      if img.isExternalBuffer then d.nvDestroyImportedBackingImage id
      else ((d.forgetSurface img).nvReleaseBackingImageBorrow id).freeImage id

/-- `linkDetachedBackingImageLocked`. -/
def linkDetachedBackingImage (id : ImageId) (img : BackingImage) : NVDriver :=
  { d with
    detached := d.detached ++ [id]
    detachedBackingImageBytes := d.detachedBackingImageBytes + backingImageMemorySize img
    detachedBackingImageCount := d.detachedBackingImageCount + 1 }

/-- `unlinkDetachedBackingImageLocked`. -/
def unlinkDetachedBackingImage (id : ImageId) (img : BackingImage) : NVDriver :=
  { d with
    detached := d.detached.erase id
    detachedBackingImageBytes := d.detachedBackingImageBytes - backingImageMemorySize img
    detachedBackingImageCount := d.detachedBackingImageCount - 1 }.modifyImage id fun img =>
      { img with detachedSerial := 0 }

/-- `detachedBackingImagesOverLimit`, which `eglDetachedCacheOverLimit` repeats. -/
def detachedBackingImagesOverLimit : Bool :=
  if d.detachedBackingImageCount = 0 then false
  else if d.maxDetachedBackingImages = 0 ∨ d.maxDetachedBackingImageBytes = 0 then true
  else
    d.detachedBackingImageCount > d.maxDetachedBackingImages ||
    d.detachedBackingImageBytes > d.maxDetachedBackingImageBytes ||
    (d.memoryBudgetBytes ≠ 0 &&
      (d.detachedBackingImageBytes > d.memoryBudgetBytes ||
        d.scratch > d.memoryBudgetBytes - d.detachedBackingImageBytes))

/-- The image leaves the array `images` to be freed. -/
def removeImage (id : ImageId) : NVDriver :=
  { d with images := d.images.erase id }.note
    (.pruned id (((d.heap.get id).map BackingImage.borrowCount).getD 0))

/-- `pruneOldestDetachedBackingImageLocked`; `none` is the answer `false`. -/
def pruneOldestDetachedBackingImage : Option NVDriver :=
  match d.detached.find? d.backingImageCanPrune with
  | none => none
  | some id =>
    if id ∈ d.images then
      match d.heap.get id with
      | none => none
      | some img =>
        some (((d.unlinkDetachedBackingImage id img).removeImage id).destroyBackingImage id)
    else none

/-- Prune while there is a reason to; a list of `rounds` detached images has no more than
`rounds` images to prune. -/
def pruneWhile (reason : NVDriver → Bool) : Nat → NVDriver → NVDriver
  | 0, d => d
  | rounds + 1, d =>
    if reason d then
      match d.pruneOldestDetachedBackingImage with
      | some d => pruneWhile reason rounds d
      | none => d
    else d

/-- `pruneDetachedBackingImagesToLimits`. -/
def pruneDetachedBackingImagesToLimits : NVDriver :=
  pruneWhile detachedBackingImagesOverLimit d.detached.length d

/-- `direct_pruneToMemoryBudget`, without its answer. -/
def directPruneToMemoryBudget (extraGpuBytes : Nat) : NVDriver :=
  if d.memoryBudgetBytes = 0 then d
  else
    pruneWhile (fun d => extraGpuBytes > d.memoryBudgetBytes ||
      d.detachedBackingImageBytes + d.scratch > d.memoryBudgetBytes - extraGpuBytes)
      d.detached.length d

/-- `direct_detachBackingImageFromSurface`. -/
def directDetachBackingImageFromSurface (s : SurfaceId) : NVDriver :=
  match (d.surfaces.get s).bind NVSurface.backingImage with
  | none => d
  | some id =>
    match d.heap.get id with
    | none => d
    | some img =>
      if img.isExternalBuffer ∨ img.borrowedCudaResources then
        (d.destroyBackingImage id).clearBackingImage s
      else
        let serial := d.detachedBackingImageSerial + 1
        let d := { d with detachedBackingImageSerial := serial }.modifyImage id fun img =>
          { img with surface := none, detachedSerial := serial }
        ((d.linkDetachedBackingImage id img).clearBackingImage s).pruneDetachedBackingImagesToLimits

/-- What the GPU does with one attempt to allocate an image: it fails, it is lost while the
image is cleared, or it does its part. -/
inductive GpuAnswer where
  | failed | lost | done
  deriving DecidableEq, Repr, Inhabited

/-- `direct_allocateBackingImage`: a GPU that is lost leaves the image behind, unreachable. -/
def directAllocateBackingImage (surface : NVSurface) (answer : GpuAnswer) :
    Option BackingImage × NVDriver :=
  match directAllocateBackingImageImpl d surface, answer with
  | some (img, k), .done => (some img, { d with kernel := k })
  | some (img, k), .lost =>
    (none, { d with kernel := k, heap := d.heap.push img, cudaWorkUnsafe := true })
  | _, _ => (none, d)

/-- The loop of `direct_realiseSurface`: attempts, and the prunings between them. -/
def directAllocateWithPruning (surface : NVSurface) (answers : Nat → GpuAnswer) :
    Nat → NVDriver → Option BackingImage × NVDriver
  | 0, d => d.directAllocateBackingImage surface (answers 0)
  | rounds + 1, d =>
    match d.directAllocateBackingImage surface (answers (rounds + 1)) with
    | (some img, d) => (some img, d)
    | (none, d) =>
      match d.pruneOldestDetachedBackingImage with
      | some d => directAllocateWithPruning surface answers rounds d
      | none => (none, d)

/-- Attach an image that has just been allocated, and put it into the array `images`;
`false` where the array cannot grow. -/
def attachNewImage (s : SurfaceId) (img : BackingImage) : ImageId × NVDriver :=
  let id := d.heap.length
  (id, ({ d with
    heap := d.heap.push { img with surface := some s, detachedSerial := 0 } }.modifySurface s
      fun surface => { surface with backingImage := some id }).note
        (.attached id s img.borrowCount))

/-- `direct_realiseSurface`. -/
def directRealiseSurface (s : SurfaceId) (answers : Nat → GpuAnswer) (added : Bool) :
    Bool × NVDriver :=
  match d.surfaces.get s with
  | none => (false, d)
  | some surface =>
    if surface.backingImage.isSome then (true, d)
    else
      match d.directAllocateWithPruning surface answers d.detached.length with
      | (none, d) => (false, d)
      | (some img, d) =>
        let (id, d) := d.attachNewImage s img
        if added then (true, { d with images := d.images ++ [id] })
        else
          (false, ((d.clearBackingImage s).modifyImage id fun img =>
            { img with surface := none }).destroyBackingImage id)

/-! ## The EGL backend -/

/-- `egl_destroyBackingImage`. -/
def eglDestroyBackingImage (id : ImageId) : NVDriver :=
  match d.heap.get id with
  | none => d
  | some img =>
    if img.isExternalBuffer then d.nvDestroyImportedBackingImage id
    else (d.forgetSurface img).freeImage id

/-- `eglBackingImageMemorySize`. -/
def eglBackingImageMemorySize (img : BackingImage) : Nat :=
  if img.totalSize ≠ 0 then img.totalSize else ((List.range img.numPlanes).map img.size).sum

/-- One round of the search of `eglPruneDetachedBackingImages`, for the oldest image. -/
def olderVictim (victim : Option (ImageId × BackingImage)) (candidate : ImageId) :
    Option (ImageId × BackingImage) :=
  match d.heap.get candidate with
  | none => victim
  | some img =>
    if img.surface = none ∧ img.borrowCount = 0 ∧
        victim.all fun victim => img.detachedSerial < victim.2.detachedSerial then
      some (candidate, img)
    else victim

/-- The image that `eglPruneDetachedBackingImages` takes next. -/
def eglVictim : Option (ImageId × BackingImage) :=
  d.images.foldl d.olderVictim none

/-- Take the victim out of the array and free it. -/
def eglPrune (id : ImageId) (img : BackingImage) : NVDriver :=
  ({ d with
    detachedBackingImageBytes := d.detachedBackingImageBytes - eglBackingImageMemorySize img
    detachedBackingImageCount := d.detachedBackingImageCount - 1 }.removeImage
      id).eglDestroyBackingImage id

/-- `eglPruneDetachedBackingImages`; an array of `rounds` images has no more victims. -/
def eglPruneDetachedBackingImages : Nat → NVDriver → NVDriver
  | 0, d => d
  | rounds + 1, d =>
    if d.detachedBackingImagesOverLimit then
      match d.eglVictim with
      | none => d
      | some (id, img) => eglPruneDetachedBackingImages rounds (d.eglPrune id img)
    else d

/-- The loop of `egl_detachBackingImageFromSurface` over the images. -/
def eglDetachOwned (s : SurfaceId) : NVDriver :=
  match d.images.find? fun id => (d.heap.get id).any fun img => img.surface = some s with
  | none => d
  | some id =>
    match d.heap.get id with
    | none => d
    | some img =>
      let serial := d.detachedBackingImageSerial + 1
      { d with
        detachedBackingImageSerial := serial
        detachedBackingImageCount := d.detachedBackingImageCount + 1
        detachedBackingImageBytes :=
          d.detachedBackingImageBytes + eglBackingImageMemorySize img }.modifyImage id fun img =>
            { img with surface := none, detachedSerial := serial }

/-- `egl_detachBackingImageFromSurface`. -/
def eglDetachBackingImageFromSurface (s : SurfaceId) : NVDriver :=
  match (d.surfaces.get s).bind NVSurface.backingImage with
  | none => d
  | some id =>
    match d.heap.get id with
    | none => d
    | some img =>
      let d :=
        -- An image that is destroyed here stays in the array `images`.
        if img.isExternalBuffer ∨ img.fourcc = drmFormatNV21 then d.eglDestroyBackingImage id
        else d.eglDetachOwned s
      let d := d.clearBackingImage s
      eglPruneDetachedBackingImages d.images.length d

/-- `eglFormatForSurface`. -/
def eglFormatForSurface (surface : NVSurface) : NVFormat :=
  match surface.format with
  | .nv12 => .nv12
  | .p016 =>
    if surface.bitDepth = 10 then .p010 else if surface.bitDepth = 12 then .p012 else .p016
  | _ => .none

/-- The image that `findFreeBackingImage` takes for a surface. -/
def freeBackingImageFor (surface : NVSurface) : Option ImageId :=
  d.images.find? fun id => (d.heap.get id).any fun img =>
    img.surface.isNone && img.width = surface.width && img.height = surface.height &&
    img.format = eglFormatForSurface surface && img.numPlanes = 2

/-- `findFreeBackingImage`; `none` is the answer `NULL`. -/
def findFreeBackingImage (s : SurfaceId) (surface : NVSurface) : Option NVDriver :=
  match d.freeBackingImageFor surface with
  | none => none
  | some id =>
    match d.heap.get id with
    | none => none
    | some img =>
      let d := { d with
        detachedBackingImageBytes := d.detachedBackingImageBytes - eglBackingImageMemorySize img
        detachedBackingImageCount := d.detachedBackingImageCount - 1 }
      some (((d.modifyImage id fun img =>
        { img with surface := some s, detachedSerial := 0 }).modifySurface s fun surface =>
          { surface with backingImage := some id }).note (.attached id s img.borrowCount))

/-- The file behind the descriptor of a plane that EGL exports: there is no descriptor, it is
a new file, or it is that of an earlier plane. -/
inductive EglFile where
  | none
  | new (size : Int)
  | same (earlier : Nat)
  deriving DecidableEq, Repr, Inhabited

/-- A plane that EGL exports. -/
structure EglPlane where
  file : EglFile := .none
  stride : Int := 0
  offset : Int := 0
  modifier : Nat := 0
  deriving DecidableEq, Repr, Inhabited

/-- What EGL answers to one attempt to allocate an image. -/
structure EglExport where
  fourcc : Nat := drmFormatNV12
  planes : List EglPlane := []
  deriving DecidableEq, Repr, Inhabited

/-- The object of a plane is one that there is, with the modifier of the plane. -/
def placePlane (img : BackingImage) (plane object modifier : Nat) : Option BackingImage :=
  if img.mods object ≠ modifier then none
  else some { img with planeObjectIndex := Function.update img.planeObjectIndex plane object }

/-- A new object of an image that EGL exports, for a new file. -/
def addExportedObject (k : Kernel) (img : BackingImage) (modifier : Nat) (size : Int) :
    Option (BackingImage × Kernel) := do
  let (fd, k) ← k.create dmaBufDev size size
  let object := img.numObjects
  let img := { img with
    numObjects := img.numObjects + 1
    fds := Function.update img.fds object fd
    mods := Function.update img.mods object modifier
    objectSize :=
      if size > 0 then Function.update img.objectSize object size.toNat else img.objectSize }
  pure (cacheBackingImageFdStat k img object, k)

/-- One round of the loop of `exportBackingImage`. -/
def exportPlane (img : BackingImage) (k : Kernel) (plane : Nat) (exported : EglPlane) :
    Option (BackingImage × Kernel) :=
  if exported.stride ≤ 0 ∨ exported.offset < 0 then none
  else
    let img := { img with
      strides := Function.update img.strides plane exported.stride
      offsets := Function.update img.offsets plane exported.offset }
    match exported.file with
    | .none =>
      -- A later plane may share the dma-buf of the one before it.
      if plane = 0 then none
      else do
        let img ← placePlane img plane (img.planeObjectIndex (plane - 1)) exported.modifier
        pure (img, k)
    | .same earlier =>
      if earlier < plane then do
        let img ← placePlane img plane (img.planeObjectIndex earlier) exported.modifier
        pure (img, k)
      else none
    | .new size => do
      let object := img.numObjects
      let (img, k) ← addExportedObject k img exported.modifier size
      let img ← placePlane img plane object exported.modifier
      pure (img, k)

/-- The loop of `exportBackingImage`. -/
def exportPlanes : List EglPlane → Nat → BackingImage × Kernel → Option (BackingImage × Kernel)
  | [], _, exported => some exported
  | plane :: rest, i, (img, k) => do
    let exported ← exportPlane img k i plane
    exportPlanes rest (i + 1) exported

/-- The image that `egl_allocateBackingImage` begins with, and its two arrays. -/
def eglImage (surface : NVSurface) (fourcc : Nat) : BackingImage :=
  let bpp := if surface.format = .p016 then 2 else 1
  { width := surface.width, height := surface.height, fourcc
    arrays := fun i =>
      if i = 0 then some ⟨0, surface.width, surface.height, bpp⟩
      else if i = 1 then
        some ⟨0, nvPlaneExtent surface.width 1, nvPlaneExtent surface.height 1, 2 * bpp⟩
      else none }

/-- `egl_allocateBackingImage`; `none` stands for every failure of CUDA and of EGL. -/
def eglAllocateBackingImage (surface : NVSurface) (answer : Option EglExport) :
    Option BackingImage × NVDriver :=
  match answer with
  | none => (none, d)
  | some exported =>
    if (surface.format = .p016 ∧ surface.bitDepth ≠ 10 ∧ surface.bitDepth ≠ 12) ∨
        exported.planes.length = 0 ∨ exported.planes.length > 4 then (none, d)
    else
      let visibleBytes := surface.width * surface.height *
        (if surface.format = .nv12 then 3 else 6) / 2
      match exportPlanes exported.planes 0 (eglImage surface exported.fourcc, d.kernel) with
      | none => (none, d)
      | some (img, k) =>
        (some { img with
          format := eglFormatForSurface surface, numPlanes := 2
          totalSize := min visibleBytes uint32Max }, { d with kernel := k })

/-- Allocate an image, once more in the other colour format where the first one came out as
NV21. -/
def eglAllocateWithWorkaround (surface : NVSurface) (answers : Nat → Option EglExport) :
    Option BackingImage × NVDriver :=
  match d.eglAllocateBackingImage surface (answers 0) with
  | (none, d) => (none, d)
  | (some img, d) =>
    if img.fourcc = drmFormatNV21 then
      let d := { d with
        kernel := d.kernel.closeFds img, useCorrectNV12Format := !d.useCorrectNV12Format }
      d.eglAllocateBackingImage surface (answers 1)
    else (some img, d)

/-- `egl_realiseSurface`. -/
def eglRealiseSurface (s : SurfaceId) (answers : Nat → Option EglExport) (added : Bool) :
    Bool × NVDriver :=
  match d.surfaces.get s with
  | none => (false, d)
  | some surface =>
    if surface.backingImage.isSome then (true, d)
    else
      match d.findFreeBackingImage s surface with
      | some d => (true, d)
      | none =>
        match d.eglAllocateWithWorkaround surface answers with
        | (none, d) => (false, d)
        | (some img, d) =>
          let (id, d) := d.attachNewImage s img
          if added then (true, { d with images := d.images ++ [id] })
          else
            (false, ((d.clearBackingImage s).modifyImage id fun img =>
              { img with surface := none }).eglDestroyBackingImage id)

end NVDriver

end Surface
end NvidiaVaapi
