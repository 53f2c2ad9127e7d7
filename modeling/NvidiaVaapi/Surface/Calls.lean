import NvidiaVaapi.Surface.Cache

/-!
# The calls on surfaces

Creation, export and release of surfaces in `vabackend.c`, and the runs of a driver in which
an application makes these calls, decodes into its surfaces and uses its own descriptors.
-/

namespace NvidiaVaapi
namespace Surface

inductive VAStatus where
  | success | invalidParameter | unsupportedRtFormat | allocationFailed | operationFailed
  | invalidSurface
  deriving DecidableEq, Repr

/-- The render target formats, with the names of `VA_RT_FORMAT_YUV420` and so on. -/
inductive RTFormat where
  | yuv420 | yuv420_10 | yuv420_12 | yuv444 | yuv444_10 | yuv444_12 | rgb32 | other
  deriving DecidableEq, Repr, Inhabited

/-- The first switch of `nvCreateSurfaces2`. -/
def RTFormat.surfaceFormat : RTFormat → Option (CudaSurfaceFormat × CudaChromaFormat × Nat)
  | .yuv420 => some (.nv12, .chroma420, 8)
  | .yuv420_10 => some (.p016, .chroma420, 10)
  | .yuv420_12 => some (.p016, .chroma420, 12)
  | .yuv444 => some (.yuv444, .chroma444, 8)
  | .yuv444_10 => some (.yuv444_16Bit, .chroma444, 10)
  | .yuv444_12 => some (.yuv444_16Bit, .chroma444, 12)
  | .rgb32 => some (.nv12, .chroma444, 8)
  | .other => none

def uint16Max : Nat := 65535

/-- `visibleBytes` of `nvCreateSurfaces2`. -/
def visibleBytes (format : RTFormat) (chromaFormat : CudaChromaFormat)
    (bitDepth width height : Nat) : Nat :=
  let pixels := width * height
  let bytesPerComponent := if bitDepth > 8 then 2 else 1
  if format = .rgb32 then pixels * 4
  else if chromaFormat = .chroma444 then pixels * 3 * bytesPerComponent
  else pixels * 3 * bytesPerComponent / 2

/-- A call that comes past a check does not fail it. -/
theorem ok_of_guard {ε α : Type} {p : Prop} [Decidable p] {error : ε} {rest : Except ε α} {a : α}
    (h : (if p then .error error else rest) = .ok a) : ¬p ∧ rest = .ok a := by
  by_cases hp : p
  · rw [if_pos hp] at h
    cases h
  · rw [if_neg hp] at h
    exact ⟨hp, h⟩

namespace NVDriver

variable (d : NVDriver)

/-- `detachBackingImageFromSurface` of the backend. -/
def detachBackingImageFromSurface (s : SurfaceId) : NVDriver :=
  match d.backend with
  | .direct => d.directDetachBackingImageFromSurface s
  | .egl => d.eglDetachBackingImageFromSurface s

/-- Release a surface that is already out of the object table: its image is detached, and it
is freed. -/
def releaseSurface (s : SurfaceId) : NVDriver :=
  let d :=
    if ((d.surfaces.get s).bind NVSurface.backingImage).isSome then
      d.detachBackingImageFromSurface s
    else d
  { d with surfaces := d.surfaces.clear s }

/-- Release the surfaces of a list in turn, as the end of `nvDestroySurfaces` and every
rollback of `nvCreateSurfaces2` do. -/
def releaseSurfaces (list : List SurfaceId) : NVDriver :=
  list.foldl releaseSurface d

/-- What the system answers while one surface is created. -/
structure SurfaceAnswer where
  allocateObject : Bool := true
  synchronization : Bool := true
  importing : ImportAnswer := {}
  deriving DecidableEq, Repr, Inhabited

/-- Attach the imported image to the surface for which it was created. -/
def attachImported (s : SurfaceId) (id : ImageId) : NVDriver :=
  ((d.modifySurface s fun surface => { surface with backingImage := some id }).modifyImage id
    fun img => { img with surface := some s }).note
      (.attached id s (((d.heap.get id).map BackingImage.borrowCount).getD 0))

/-- One round of the loop of `nvCreateSurfaces2`, for an import (the one selected for this
surface) or not: the new surface, or `none` where everything has to be rolled back, with the
surfaces to release. -/
def createSurface (surface : NVSurface) (importSurface : Bool)
    (selected : Option ImportedSurface) (answer : SurfaceAnswer) :
    Option SurfaceId × List SurfaceId × NVDriver :=
  if ¬ answer.allocateObject then (none, [], d)
  else
    let s := d.surfaces.length
    let d := { d with surfaces := d.surfaces.push surface }
    if ¬ answer.synchronization then (none, [], { d with surfaces := d.surfaces.clear s })
    else if ¬ importSurface then (some s, [], d)
    else
      match selected with
      | none => (none, [s], d)
      | some imported =>
        match d.createImportedBackingImageImpl imported surface.width surface.height
            answer.importing with
        | (some id, d) => (some s, [], d.attachImported s id)
        | (none, d) => (none, [s], d)

/-- The loop of `nvCreateSurfaces2` from surface `i` on; the surfaces created so far. -/
def createSurfacesLoop (surface : NVSurface) (imported : ImportedSurface) (numSurfaces : Nat)
    (answers : Nat → SurfaceAnswer) :
    Nat → List SurfaceId → NVDriver → Option (List SurfaceId) × NVDriver
  | 0, created, d => (some created, d)
  | rest + 1, created, d =>
    let i := numSurfaces - (rest + 1)
    let selected := importedSurfaceSelectIndex imported i numSurfaces
    match d.createSurface surface imported.valid selected (answers i) with
    | (some s, _, d) =>
      createSurfacesLoop surface imported numSurfaces answers rest (created ++ [s]) d
    | (none, last, d) => (none, d.releaseSurfaces (created ++ last))

/-- What the system answers to a call of `nvCreateSurfaces2`. -/
structure CreateAnswer where
  pushCurrent : Bool := true
  surfaces : Nat → SurfaceAnswer := fun _ => {}
  popCurrent : Bool := true
  deriving Inhabited

/-- The part of `nvCreateSurfaces2` before anything is allocated: the new surface and the
import. -/
def checkSurfaces (format : RTFormat) (width height numSurfaces : Nat)
    (attribList : List VASurfaceAttrib) : Except VAStatus (NVSurface × ImportedSurface) :=
  if width = 0 ∨ height = 0 ∨ width > uint16Max ∨ height > uint16Max ∨ numSurfaces = 0 then
    .error .invalidParameter
  else
    let imported := parseSurfaceImportAttributes attribList
    if imported.requested ∧ ¬ imported.valid then .error .invalidParameter
    else if imported.valid ∧ imported.legacyPrime ∧ imported.numLegacyBuffers ≠ numSurfaces then
      .error .invalidParameter
    else if imported.valid ∧ ¬ imported.legacyPrime ∧ numSurfaces ≠ 1 then
      .error .invalidParameter
    else if ¬ imported.valid ∧ format = .rgb32 ∧ imported.pixelFormat ≠ 0 ∧
        ¬ isRgbFourcc imported.pixelFormat then .error .invalidParameter
    else
      let surfaceFourcc :=
        if imported.valid then imported.pixelFormat
        else if format = .rgb32 then imported.pixelFormat else 0
      match format.surfaceFormat with
      | none => .error .unsupportedRtFormat
      | some (nvFormat, chromaFormat, bitDepth) =>
        let width := if chromaFormat = .chroma420 then roundUp width 2 else width
        let height := if chromaFormat = .chroma420 then roundUp height 2 else height
        let bytes := visibleBytes format chromaFormat bitDepth width height
        if bytes = 0 ∨ bytes > uint32Max then .error .invalidParameter
        else if imported.valid ∧ (imported.width ≠ width ∨ imported.height ≠ height) then
          .error .invalidParameter
        else
          .ok ({ width, height, format := nvFormat, chromaFormat, bitDepth
                 fourcc :=
                   if surfaceFourcc ≠ 0 then surfaceFourcc
                   else if format = .rgb32 then vaFourccARGB else 0 }, imported)

/-- `nvCreateSurfaces2`: the surfaces, or the error. -/
def nvCreateSurfaces2 (format : RTFormat) (width height numSurfaces : Nat)
    (attribList : List VASurfaceAttrib) (answer : CreateAnswer) :
    Except VAStatus (List SurfaceId) × NVDriver :=
  match checkSurfaces format width height numSurfaces attribList with
  | .error status => (.error status, d)
  | .ok (surface, imported) =>
    if ¬ answer.pushCurrent then (.error .operationFailed, d)
    else
      match createSurfacesLoop surface imported numSurfaces answer.surfaces numSurfaces [] d with
      | (none, d) => (.error .allocationFailed, d)
      | (some created, d) =>
        if ¬ answer.popCurrent then (.error .operationFailed, d.releaseSurfaces created)
        else (.ok created, d)

/-- `nvDestroySurfaces`, where CUDA and `calloc` answer. -/
def nvDestroySurfaces (list : List SurfaceId) : Except VAStatus Unit × NVDriver :=
  if ¬ list.Nodup ∨ list.any fun s => (d.surfaces.get s).isNone then (.error .invalidSurface, d)
  else (.ok (), d.releaseSurfaces list)

/-- What the GPU answers while a surface gets its image. -/
structure RealiseAnswer where
  gpu : Nat → GpuAnswer := fun _ => .done
  egl : Nat → Option EglExport := fun _ => none
  added : Bool := true
  deriving Inhabited

/-- `realiseSurface` of the backend. -/
def realiseSurface (s : SurfaceId) (answer : RealiseAnswer) : Bool × NVDriver :=
  match d.backend with
  | .direct => d.directRealiseSurface s answer.gpu answer.added
  | .egl => d.eglRealiseSurface s answer.egl answer.added

/-- The checks of `direct_fillExportDescriptor`. -/
def directExportable (img : BackingImage) : Bool :=
  !d.cudaWorkUnsafe && img.numObjects ≠ 0 && img.numObjects ≤ 4 &&
  img.numPlanes = (formatsInfo img.format).numPlanes &&
  (List.range img.numObjects).all (fun i =>
    img.objectSize i ≠ 0 && img.objectSize i ≤ uint32Max) &&
  (List.range img.numPlanes).all fun i =>
    img.planeObjectIndex i < img.numObjects && 0 ≤ img.offsets i && 0 < img.strides i

/-- The loop of an export over the objects: a descriptor of its own for each, with the size
that is exported; `false` where it fails. -/
def exportObjects (img : BackingImage) (objectSize : Nat → Nat) :
    List Nat → VADRMPRIMESurfaceDescriptor × Kernel →
      Bool × VADRMPRIMESurfaceDescriptor × Kernel
  | [], (desc, k) => (true, desc, k)
  | i :: rest, (desc, k) =>
    match k.nvDupFdCloexec (img.fds i) with
    | none => (false, desc, k)
    | some (fd, k) =>
      exportObjects img objectSize rest ({ desc with
        objects := Function.update desc.objects i ⟨fd, objectSize i % 2 ^ 32, img.mods i⟩ }, k)

/-- A layer of an export: one plane with the DRM format given. -/
def exportLayer (img : BackingImage) (drmFormat i : Nat) : PrimeLayer :=
  { drmFormat
    numPlanes := 1
    objectIndex := fun j => if j = 0 then img.planeObjectIndex i else 0
    offset := fun j => if j = 0 then (img.offsets i).toNat else 0
    pitch := fun j => if j = 0 then (img.strides i).toNat else 0 }

/-- Duplicate the descriptors for an export and write its layers.  Where a duplication
fails, the descriptors made so far are closed. -/
def exportImage (desc : VADRMPRIMESurfaceDescriptor) (img : BackingImage)
    (objectSize drmFormat : Nat → Nat) : Option VADRMPRIMESurfaceDescriptor × NVDriver :=
  match exportObjects img objectSize (List.range img.numObjects) (desc, d.kernel) with
  | (false, _, _) => (none, d)
  | (true, desc, k) =>
    (some { desc with
      layers := fun i => if i < img.numPlanes then exportLayer img (drmFormat i) i else {} },
      { d with kernel := k })

/-- `direct_fillExportDescriptor`; `none` is the answer `false`. -/
def directFillExportDescriptor (surface : NVSurface) (img : BackingImage) :
    Option VADRMPRIMESurfaceDescriptor × NVDriver :=
  if ¬ d.directExportable img then (none, d)
  else
    let info := formatsInfo img.format
    d.exportImage
      { fourcc := img.fourcc, width := surface.width, height := surface.height
        numLayers := info.numPlanes, numObjects := img.numObjects }
      img img.objectSize fun i =>
        if img.format = .argb then rgbDrmFormat img.fourcc else (info.planeAt i).fourcc

/-- One round of the first loop of `egl_fillExportDescriptor`: the object of the plane and
how far the plane reaches. -/
def eglPlaneEnd (img : BackingImage) (plane : Nat) : Option (Nat × Nat) :=
  let bpp := if img.fourcc = drmFormatNV12 then 1 else 2
  let rows := if plane = 0 then img.height else nvPlaneExtent img.height 1
  let rowBytes := mul64 img.width bpp
  if img.planeObjectIndex plane ≥ img.numObjects ∨ img.offsets plane < 0 ∨
      img.strides plane ≤ 0 ∨ rowBytes > toUInt64 (img.strides plane) ∨ rows = 0 then none
  else
    (planeEnd (toUInt64 (img.offsets plane)) (toUInt64 (img.strides plane)) rowBytes rows).map
      fun planeEnd => (img.planeObjectIndex plane, planeEnd)

/-- `requiredObjectSize` of `egl_fillExportDescriptor`. -/
def eglRequiredObjectSize (ends : List (Nat × Nat)) (object : Nat) : Nat :=
  ((ends.filter fun planeEnd => planeEnd.1 = object).map Prod.snd).foldl max 0

/-- The size of an object that `egl_fillExportDescriptor` writes. -/
def eglObjectSize (img : BackingImage) (ends : List (Nat × Nat)) (object : Nat) : Nat :=
  if img.objectSize object ≠ 0 then img.objectSize object
  else
    match d.kernel.fileAt (img.fds object) with
    | some file => if file.size > 0 then file.size.toNat else eglRequiredObjectSize ends object
    | none => eglRequiredObjectSize ends object

/-- `egl_fillExportDescriptor`; `none` is the answer `false`. -/
def eglFillExportDescriptor (img : BackingImage) :
    Option VADRMPRIMESurfaceDescriptor × NVDriver :=
  if img.numPlanes ≠ 2 ∨ img.numObjects = 0 ∨ img.numObjects > 4 then (none, d)
  else
    match (List.range 2).mapM (eglPlaneEnd img) with
    | none => (none, d)
    | some ends =>
      if (List.range img.numObjects).any fun object =>
          d.eglObjectSize img ends object < eglRequiredObjectSize ends object ||
          d.eglObjectSize img ends object > uint32Max then (none, d)
      else
        d.exportImage
          { fourcc := img.fourcc, width := img.width, height := img.height
            numLayers := 2, numObjects := img.numObjects }
          img (d.eglObjectSize img ends) fun i =>
            if i = 0 then (if img.fourcc = drmFormatNV12 then drmFormatR8 else drmFormatR16)
            else if img.fourcc = drmFormatNV12 then drmFormatRG88 else drmFormatRG1616

/-- `fillExportDescriptor` of the backend. -/
def fillExportDescriptor (surface : NVSurface) (img : BackingImage) :
    Option VADRMPRIMESurfaceDescriptor × NVDriver :=
  match d.backend with
  | .direct => d.directFillExportDescriptor surface img
  | .egl => d.eglFillExportDescriptor img

/-- The image of a surface. -/
def surfaceImage (s : SurfaceId) : Option (NVSurface × BackingImage) := do
  let surface ← d.surfaces.get s
  let id ← surface.backingImage
  let img ← d.heap.get id
  pure (surface, img)

/-- `nvExportSurfaceHandle`, where CUDA answers. -/
def nvExportSurfaceHandle (s : SurfaceId) (answer : RealiseAnswer) :
    Except VAStatus VADRMPRIMESurfaceDescriptor × NVDriver :=
  match d.surfaces.get s with
  | none => (.error .invalidSurface, d)
  | some _ =>
    match d.realiseSurface s answer with
    | (false, d) => (.error .allocationFailed, d)
    | (true, d) =>
      match d.surfaceImage s with
      | none => (.error .operationFailed, d)
      | some (surface, img) =>
        match d.fillExportDescriptor surface img with
        | (none, d) => (.error .operationFailed, d)
        | (some desc, d) => (.ok desc, d)

/-- `pruneToMemoryBudget` of the backend, which EGL does not have. -/
def pruneToMemoryBudget (extraGpuBytes : Nat) : NVDriver :=
  match d.backend with
  | .direct => d.directPruneToMemoryBudget extraGpuBytes
  | .egl => d

/-- The application closes a descriptor of its own, which is none of an image. -/
def closeOwn (fd : Int) : NVDriver :=
  if d.heap.any fun slot => slot.any fun img => (List.range 4).any fun i => img.fds i = fd then d
  else { d with kernel := d.kernel.close fd }

end NVDriver

/-- What an application, the decoder and the GPU can do while the driver has not terminated.
A picture that is decoded into a surface, and VideoProc, realise the surface; VideoProc also
prunes the cache for its scratch buffers and sizes these anew. -/
inductive Label where
  | createSurfaces (format : RTFormat) (width height numSurfaces : Nat)
      (attribList : List VASurfaceAttrib) (answer : NVDriver.CreateAnswer)
  | realiseSurface (s : SurfaceId) (answer : NVDriver.RealiseAnswer)
  | exportSurfaceHandle (s : SurfaceId) (answer : NVDriver.RealiseAnswer)
  | destroySurfaces (list : List SurfaceId)
  | pruneToMemoryBudget (extraGpuBytes : Nat)
  | resizeScratch (y uv argb : Nat)
  | loseGpu
  | openFile (dev : Nat) (size seekEnd : Int)
  | duplicateFile (fd : Int)
  | closeFile (fd : Int)

/-- One step of the driver and its application. -/
def step (d : NVDriver) : Label → NVDriver
  | .createSurfaces format width height numSurfaces attribList answer =>
    (d.nvCreateSurfaces2 format width height numSurfaces attribList answer).2
  | .realiseSurface s answer => (d.realiseSurface s answer).2
  | .exportSurfaceHandle s answer => (d.nvExportSurfaceHandle s answer).2
  | .destroySurfaces list => (d.nvDestroySurfaces list).2
  | .pruneToMemoryBudget extraGpuBytes => d.pruneToMemoryBudget extraGpuBytes
  | .resizeScratch y uv argb =>
    { d with videoProcYBufferSize := y, videoProcUVBufferSize := uv, videoProcArgbBufferSize := argb }
  | .loseGpu => { d with cudaWorkUnsafe := true }
  | .openFile dev size seekEnd =>
    { d with kernel := ((d.kernel.create dev size seekEnd).map Prod.snd).getD d.kernel }
  | .duplicateFile fd =>
    { d with kernel := ((d.kernel.nvDupFdCloexec fd).map Prod.snd).getD d.kernel }
  | .closeFile fd => d.closeOwn fd

/-- A driver that has just been initialised, with any settings and any open files; its
descriptors are numbered by `int`s. -/
structure Initial (d : NVDriver) : Prop where
  heap : d.heap = []
  surfaces : d.surfaces = []
  images : d.images = []
  detached : d.detached = []
  log : d.log = []
  limit : d.kernel.limit ≤ 2 ^ 31
  bounded : d.kernel.files.length ≤ d.kernel.limit
  inodes : ∀ fd file, d.kernel.files.get fd = some file → file.ino < d.kernel.nextIno

end Surface
end NvidiaVaapi
