import NvidiaVaapi.Surface.Layout

/-!
# Import of surfaces

The descriptors an application hands over, their parsing in `surface-import.c`, and the
creation of an imported backing image in `vabackend.c`.
-/

namespace NvidiaVaapi
namespace Surface

def maxImportedObjects : Nat := 4
def maxImportedPlanes : Nat := 4
def maxLegacySurfaceBuffers : Nat := 1024
def intMax : Nat := 2 ^ 31 - 1

/-- The operations of the 64-bit unsigned integers. -/
def add64 (a b : Nat) : Nat := (a + b) % 2 ^ 64
def sub64 (a b : Nat) : Nat := (a + (2 ^ 64 - b % 2 ^ 64)) % 2 ^ 64
def mul64 (a b : Nat) : Nat := a * b % 2 ^ 64

/-- A conversion to a 64-bit unsigned integer. -/
def toUInt64 (n : Int) : Nat := (n % 2 ^ 64).toNat

/-- An object of `VADRMPRIMESurfaceDescriptor`. -/
structure PrimeObject where
  fd : Int := 0
  size : Nat := 0
  drmFormatModifier : Nat := 0
  deriving DecidableEq, Repr, Inhabited

/-- A layer of `VADRMPRIMESurfaceDescriptor`. -/
structure PrimeLayer where
  drmFormat : Nat := 0
  numPlanes : Nat := 0
  objectIndex : Nat → Nat := fun _ => 0
  offset : Nat → Nat := fun _ => 0
  pitch : Nat → Nat := fun _ => 0
  deriving Inhabited

/-- `VADRMPRIMESurfaceDescriptor`. -/
structure VADRMPRIMESurfaceDescriptor where
  fourcc : Nat := 0
  width : Nat := 0
  height : Nat := 0
  numObjects : Nat := 0
  objects : Nat → PrimeObject := fun _ => {}
  numLayers : Nat := 0
  layers : Nat → PrimeLayer := fun _ => {}
  deriving Inhabited

/-- `VASurfaceAttribExternalBuffers`; `buffers` is `none` for a null pointer, and
`enableTiling` the flag of that name. -/
structure VASurfaceAttribExternalBuffers where
  pixelFormat : Nat := 0
  width : Nat := 0
  height : Nat := 0
  dataSize : Nat := 0
  numPlanes : Nat := 0
  pitches : Nat → Nat := fun _ => 0
  offsets : Nat → Nat := fun _ => 0
  buffers : Option (Nat → Nat) := none
  numBuffers : Nat := 0
  enableTiling : Bool := false
  deriving Inhabited

/-- The memory behind the pointer of an attribute, as it reads as either structure. -/
structure ExternalDescriptor where
  prime : VASurfaceAttribExternalBuffers := {}
  prime2 : VADRMPRIMESurfaceDescriptor := {}
  deriving Inhabited

/-- `VAGenericValue`. -/
inductive VAGenericValue where
  | integer (i : Int)
  | pointer (p : Option ExternalDescriptor)
  | other

inductive VASurfaceAttribType where
  | memoryType | externalBufferDescriptor | pixelFormat | other
  deriving DecidableEq, Repr

structure VASurfaceAttrib where
  type : VASurfaceAttribType
  value : VAGenericValue

def memTypeDrmPrime : Nat := 0x20000000
def memTypeDrmPrime2 : Nat := 0x40000000

structure ImportedObject where
  fd : Int := -1
  size : Nat := 0
  modifier : Nat := drmFormatModInvalid
  deriving DecidableEq, Repr, Inhabited

structure ImportedPlane where
  objectIndex : Nat := 0
  offset : Nat := 0
  pitch : Nat := 0
  deriving DecidableEq, Repr, Inhabited

/-- `ImportedSurface`, as `importedSurfaceInit` leaves it. -/
structure ImportedSurface where
  requested : Bool := false
  valid : Bool := false
  legacyPrime : Bool := false
  memoryType : Nat := 0
  pixelFormat : Nat := 0
  width : Nat := 0
  height : Nat := 0
  dataSize : Nat := 0
  numObjects : Nat := 0
  numPlanes : Nat := 0
  legacyBuffers : Nat → Nat := fun _ => 0
  numLegacyBuffers : Nat := 0
  objects : Nat → ImportedObject := fun _ => {}
  planes : Nat → ImportedPlane := fun _ => {}
  deriving Inhabited

/-- `parsePrimeDescriptor`. -/
def parsePrimeDescriptor (ext : VASurfaceAttribExternalBuffers) (imported : ImportedSurface) :
    ImportedSurface :=
  let imported := { imported with
    pixelFormat := if ext.pixelFormat ≠ 0 then ext.pixelFormat else imported.pixelFormat
    width := ext.width
    height := ext.height
    dataSize := ext.dataSize
    numPlanes := ext.numPlanes
    numObjects := 1
    legacyPrime := true
    legacyBuffers := ext.buffers.getD fun _ => 0
    numLegacyBuffers := ext.numBuffers }
  if imported.numPlanes = 0 ∨ imported.numPlanes > maxImportedPlanes ∨
      imported.numLegacyBuffers = 0 ∨ imported.numLegacyBuffers > maxLegacySurfaceBuffers ∨
      ext.buffers = none ∨ ext.enableTiling then imported
  else if (List.range imported.numLegacyBuffers).any fun i => imported.legacyBuffers i > intMax then
    imported
  else
    { imported with
      -- An old descriptor has one pitched object and no modifier.
      objects := Function.update imported.objects 0
        ⟨imported.legacyBuffers 0, ext.dataSize, drmFormatModLinear⟩
      planes := fun i =>
        if i < imported.numPlanes then ⟨0, ext.offsets i, ext.pitches i⟩ else imported.planes i
      valid := true }

/-- The loop of `parsePrime2Descriptor` over the objects; `false` where it returns early. -/
def parseObjects (desc : VADRMPRIMESurfaceDescriptor) :
    List Nat → ImportedSurface → Bool × ImportedSurface
  | [], imported => (true, imported)
  | i :: rest, imported =>
    let object := desc.objects i
    if object.fd < 0 ∨ uint64Max - imported.dataSize < object.size then (false, imported)
    else
      parseObjects desc rest { imported with
        dataSize := imported.dataSize + object.size
        objects := Function.update imported.objects i
          ⟨object.fd, object.size, object.drmFormatModifier⟩ }

/-- The loop over the planes of a layer, from plane `planeIndex` of the surface on. -/
def parsePlanes (layer : PrimeLayer) : List Nat → Nat × ImportedSurface →
    Bool × Nat × ImportedSurface
  | [], parsed => (true, parsed)
  | plane :: rest, (planeIndex, imported) =>
    if planeIndex ≥ maxImportedPlanes ∨ layer.objectIndex plane ≥ imported.numObjects then
      (false, planeIndex, imported)
    else
      parsePlanes layer rest (planeIndex + 1, { imported with
        planes := Function.update imported.planes planeIndex
          ⟨layer.objectIndex plane, layer.offset plane, layer.pitch plane⟩ })

/-- The loop over the layers. -/
def parseLayers (desc : VADRMPRIMESurfaceDescriptor) : List Nat → Nat × ImportedSurface →
    Bool × Nat × ImportedSurface
  | [], parsed => (true, parsed)
  | layer :: rest, parsed =>
    let numPlanes := (desc.layers layer).numPlanes
    if numPlanes = 0 ∨ numPlanes > 4 then (false, parsed)
    else
      match parsePlanes (desc.layers layer) (List.range numPlanes) parsed with
      | (true, parsed) => parseLayers desc rest parsed
      | (false, parsed) => (false, parsed)

/-- `parsePrime2Descriptor`. -/
def parsePrime2Descriptor (desc : VADRMPRIMESurfaceDescriptor) (imported : ImportedSurface) :
    ImportedSurface :=
  let imported := { imported with
    pixelFormat := desc.fourcc
    width := desc.width
    height := desc.height
    numObjects := desc.numObjects }
  if desc.numLayers = 0 ∨ desc.numLayers > 4 ∨ imported.numObjects = 0 ∨
      imported.numObjects > maxImportedObjects then imported
  else
    match parseObjects desc (List.range imported.numObjects) imported with
    | (false, imported) => imported
    | (true, imported) =>
      match parseLayers desc (List.range desc.numLayers) (0, imported) with
      | (false, _, imported) => imported
      | (true, planeIndex, imported) =>
        { imported with numPlanes := planeIndex, valid := planeIndex > 0 }

/-- One round of the loop of `parseSurfaceImportAttributes`: the surface and the external
descriptor so far. -/
def parseAttribute (parsed : ImportedSurface × Option ExternalDescriptor)
    (attrib : VASurfaceAttrib) : ImportedSurface × Option ExternalDescriptor :=
  match attrib.type, attrib.value with
  | .memoryType, .integer i => ({ parsed.1 with memoryType := (i % 2 ^ 32).toNat }, parsed.2)
  | .externalBufferDescriptor, .pointer p => (parsed.1, p)
  | .pixelFormat, .integer i => ({ parsed.1 with pixelFormat := (i % 2 ^ 32).toNat }, parsed.2)
  | _, _ => parsed

/-- `parseSurfaceImportAttributes`. -/
def parseSurfaceImportAttributes (attribList : List VASurfaceAttrib) : ImportedSurface :=
  match attribList.foldl parseAttribute ({}, none) with
  | (imported, none) => imported
  | (imported, some descriptor) =>
    let imported := { imported with requested := true }
    if imported.memoryType &&& memTypeDrmPrime2 ≠ 0 then
      parsePrime2Descriptor descriptor.prime2 imported
    else if imported.memoryType &&& memTypeDrmPrime ≠ 0 then
      parsePrimeDescriptor descriptor.prime imported
    else imported

/-- `importedSurfaceSelectIndex`; `none` is the answer `false`. -/
def importedSurfaceSelectIndex (imported : ImportedSurface) (surfaceIndex numSurfaces : Nat) :
    Option ImportedSurface :=
  if ¬ imported.valid ∨ surfaceIndex ≥ numSurfaces then none
  else if ¬ imported.legacyPrime then (if numSurfaces = 1 then some imported else none)
  else if imported.numLegacyBuffers ≠ numSurfaces ∨
      imported.legacyBuffers surfaceIndex > intMax then none
  else
    some { imported with
      objects := Function.update imported.objects 0
        { imported.objects 0 with fd := imported.legacyBuffers surfaceIndex } }

/-- `importedFdSize`. -/
def importedFdSize (k : Kernel) (fd : Int) : Nat :=
  match k.fileAt fd with
  | none => 0
  | some file =>
    if file.size > 0 then file.size.toNat
    else if file.seekEnd > 0 then file.seekEnd.toNat else 0

/-- `(uint64_t) nvPlaneExtent(width, plane->ss.x) * fmtInfo->bppc * plane->channelCount`. -/
def planeWidthBytes (info : NVFormatInfo) (i width : Nat) : Nat :=
  mul64 (mul64 (nvPlaneExtent width (info.planeAt i).ssX) info.bppc) (info.planeAt i).channelCount

/-- The offset behind the last row of a plane; `none` where the code sees that the numbers
would not fit into 64 bits. -/
def planeEnd (offset stride widthBytes height : Nat) : Option Nat :=
  let lastRow := sub64 height 1
  if lastRow > sub64 (sub64 uint64Max offset) widthBytes / stride then none
  else some (add64 (add64 offset (mul64 lastRow stride)) widthBytes)

/-- One round of the loop of `validateImportedLayout`. -/
def importedPlaneValid (img : BackingImage) (i : Nat) : Bool :=
  let info := formatsInfo img.format
  let objectIndex := img.planeObjectIndex i
  let widthBytes := planeWidthBytes info i img.width
  let height := nvPlaneExtent img.height (info.planeAt i).ssY
  if objectIndex ≥ img.numObjects ∨ img.objectSize objectIndex = 0 ∨ img.strides i ≤ 0 ∨
      toUInt64 (img.strides i) < widthBytes ∨ height = 0 then false
  else
    match planeEnd (toUInt64 (img.offsets i)) (toUInt64 (img.strides i)) widthBytes height with
    | none => false
    | some planeEnd => planeEnd ≤ img.objectSize objectIndex

/-- `validateImportedLayout`. -/
def validateImportedLayout (img : BackingImage) : Bool :=
  if img.format = .none ∨ img.numObjects = 0 ∨ img.numObjects > maxImportedObjects ∨
      img.numPlanes ≠ (formatsInfo img.format).numPlanes then false
  else (List.range img.numPlanes).all (importedPlaneValid img)

/-- The size of an imported object: the one that the descriptor declares, or that of the
file. -/
def importedObjectSize (object : ImportedObject) (actualSize : Nat) : Nat :=
  if object.size ≠ 0 then object.size else actualSize

/-- An imported image with the size and the modifier of an object. -/
def withImportedObject (img : BackingImage) (i objectSize modifier : Nat) : BackingImage :=
  { img with
    objectSize := Function.update img.objectSize i objectSize
    totalSize := img.totalSize + objectSize
    mods := Function.update img.mods i modifier }

/-- The loop of `createImportedBackingImageImpl` over the objects; `false` where it goes to
`fail`. -/
def importObjects (imported : ImportedSurface) :
    List Nat → BackingImage × Kernel → Bool × BackingImage × Kernel
  | [], (img, k) => (true, img, k)
  | i :: rest, (img, k) =>
    match k.nvDupFdCloexec (imported.objects i).fd with
    | none => (false, img, k)
    | some (fd, k) =>
      let img := cacheBackingImageFdStat k { img with fds := Function.update img.fds i fd } i
      let actualSize := importedFdSize k fd
      let objectSize := importedObjectSize (imported.objects i) actualSize
      if objectSize = 0 ∨ (actualSize ≠ 0 ∧ objectSize > actualSize) ∨
          uint64Max - img.totalSize < objectSize then (false, img, k)
      else
        importObjects imported rest
          (withImportedObject img i objectSize (imported.objects i).modifier, k)

/-- An imported image with the layout of a plane. -/
def withImportedPlane (img : BackingImage) (i : Nat) (plane : ImportedPlane) : BackingImage :=
  { img with
    planeObjectIndex := Function.update img.planeObjectIndex i plane.objectIndex
    strides := Function.update img.strides i plane.pitch
    offsets := Function.update img.offsets i plane.offset
    size := Function.update img.size i (min (img.objectSize plane.objectIndex) uint32Max) }

/-- The loop over the planes; `none` where it goes to `fail`. -/
def importPlanes (imported : ImportedSurface) : List Nat → BackingImage → Option BackingImage
  | [], img => some img
  | i :: rest, img =>
    let plane := imported.planes i
    if plane.objectIndex ≥ img.numObjects ∨ plane.pitch > intMax ∨ plane.offset > intMax then none
    else importPlanes imported rest (withImportedPlane img i plane)

/-- `backingImageMatchesImport`. -/
def backingImageMatchesImport (img : BackingImage) (fdStat : OpenFile) (format : NVFormat)
    (width height : Nat) : Bool :=
  !(img.isExternalBuffer || img.borrowedCudaResources) && img.format = format &&
  img.width = width && img.height = height &&
  (List.range 4).any (backingImageFdMatchesStat img fdStat)

/-- The search of `retainBackingImageByFd`. -/
def NVDriver.findBackingImageByFd (d : NVDriver) (fd : Int) (format : NVFormat)
    (width height : Nat) : Option ImageId :=
  match d.kernel.fileAt fd with
  | none => none
  | some fdStat =>
    d.images.find? fun id =>
      (d.heap.get id).any fun img => backingImageMatchesImport img fdStat format width height

/-- One round of the loop of `backingImageMatchesImportedLayout`. -/
def planeMatchesImport (k : Kernel) (existing imported : BackingImage) (plane : Nat) : Bool :=
  let importedObject := imported.planeObjectIndex plane
  let existingObject := if existing.isSingleBuffer then 0 else plane
  importedObject < imported.numObjects &&
  (k.fileAt (imported.fds importedObject)).any (fun importedStat =>
    backingImageFdMatchesStat existing importedStat existingObject) &&
  imported.offsets plane = existing.offsets plane &&
  imported.strides plane = existing.strides plane &&
  imported.mods importedObject = existing.mods existingObject

/-- `backingImageMatchesImportedLayout`. -/
def backingImageMatchesImportedLayout (k : Kernel) (existing imported : BackingImage) : Bool :=
  let info := formatsInfo existing.format
  let expectedObjects := if existing.isSingleBuffer then 1 else info.numPlanes
  existing.format = imported.format && imported.numObjects = expectedObjects &&
  imported.numPlanes = info.numPlanes &&
  (List.range info.numPlanes).all (planeMatchesImport k existing imported)

/-- The imported image that borrows an existing one. -/
def borrowBackingImage (id : ImageId) (existing img : BackingImage) : BackingImage :=
  let numPlanes := (formatsInfo img.format).numPlanes
  { img with
    arrays := fun i => if i < numPlanes then existing.arrays i else img.arrays i
    strides := fun i => if i < numPlanes then existing.strides i else img.strides i
    offsets := fun i => if i < numPlanes then existing.offsets i else img.offsets i
    size := fun i => if i < numPlanes then existing.size i else img.size i
    totalSize := if existing.totalSize ≠ 0 then existing.totalSize else existing.size 0
    borrowedCudaResources := true
    borrowedBackingImage := some id }

/-- What the system answers to the creation of one imported image. -/
structure ImportAnswer where
  calloc : Bool := true
  nativeImport : Bool := false
  cudaMapping : Bool := false
  hostMapping : Bool := true
  deriving DecidableEq, Repr, Inhabited

/-- `direct_importBackingImage`; the answer is that of the kernel, which is asked whether
the buffer is storage of its own, and of CUDA. -/
def directImportBackingImage (context : NVDriverContext) (img : BackingImage) (legacyPrime : Bool)
    (answer : Bool) : Option BackingImage :=
  let info := formatsInfo img.format
  match calculateUnifiedImageLayout context img.width img.height info true with
  | none => none
  | some (planes, size) =>
    let planeAt (i : Nat) : NVDriverImage := planes.getD i {}
    if img.numObjects ≠ 1 ∨ img.objectSize 0 ≠ size ∨
        (¬ legacyPrime ∧ img.mods 0 ≠ (planeAt 0).mods) then none
    else if ¬ (List.range info.numPlanes).all fun i =>
        img.planeObjectIndex i = 0 && img.offsets i = (planeAt i).offset &&
        img.strides i = (planeAt i).pitch then none
    else if ¬ answer then none
    else
      some { img with
        arrays := fun i =>
          if i < info.numPlanes then
            some (cudaArray (planeAt i) info i ((planeAt i).memorySize / (planeAt i).pitch)
              (planeAt i).offset)
          else img.arrays i
        mods := Function.update img.mods 0 (planeAt 0).mods }

/-- `importedObjectsAreLinear`. -/
def importedObjectsAreLinear (img : BackingImage) : Bool :=
  img.numObjects ≠ 0 && (List.range img.numObjects).all fun i => img.mods i = drmFormatModLinear

/-- `importExternalBuffersToCuda`. -/
def importExternalBuffersToCuda (img : BackingImage) (answer : Bool) : Option BackingImage :=
  if ¬ importedObjectsAreLinear img ∨ ¬ answer ∨
      (List.range img.numObjects).any (fun i => img.fds i < 0 || img.objectSize i = 0) then none
  else
    some { img with
      externalDevicePtrs := fun i => if i < img.numObjects then true else img.externalDevicePtrs i
      externalDeviceSize := fun i =>
        if i < img.numObjects then img.objectSize i else img.externalDeviceSize i }

/-- `mapExternalBacking`. -/
def mapExternalBacking (img : BackingImage) (answer : Bool) : Option BackingImage :=
  if ¬ importedObjectsAreLinear img ∨ ¬ answer ∨
      (List.range img.numObjects).any (fun i => img.fds i < 0 || img.objectSize i = 0) then none
  else
    some { img with
      externalMappings := fun i => if i < img.numObjects then true else img.externalMappings i
      externalMappingSize := fun i =>
        if i < img.numObjects then img.objectSize i else img.externalMappingSize i }

/-- The imported image so far, before the search for one that it can borrow: the copies of
the descriptors and the layout, checked.  The descriptors are closed where it fails. -/
def importedImage (k : Kernel) (imported : ImportedSurface) (width height : Nat) :
    Option BackingImage × Kernel :=
  let img : BackingImage :=
    { isExternalBuffer := true, format := nvFormatFromSurfaceFourcc imported.pixelFormat
      width, height, fourcc := imported.pixelFormat, numObjects := imported.numObjects
      numPlanes := imported.numPlanes, isSingleBuffer := imported.numObjects = 1 }
  match importObjects imported (List.range imported.numObjects) (img, k) with
  | (false, img, k) => (none, k.closeFds img)
  | (true, img, k) =>
    match importPlanes imported (List.range imported.numPlanes) img with
    | none => (none, k.closeFds img)
    | some img => if validateImportedLayout img then (some img, k) else (none, k.closeFds img)

/-- The three ways to reach the memory of an image that borrows no other. -/
def importMemory (d : NVDriver) (img : BackingImage) (legacyPrime : Bool) (answer : ImportAnswer) :
    Option BackingImage :=
  let native :=
    match d.backend with
    | .direct =>
      directImportBackingImage d.driverContext img legacyPrime answer.nativeImport
    | .egl => none
  native.orElse fun _ => (importExternalBuffersToCuda img answer.cudaMapping).orElse fun _ =>
    mapExternalBacking img answer.hostMapping

/-- An image that the search found is retained at once, and let go if its layout is not that
of the import. -/
def NVDriver.retainBackingImage (d : NVDriver) (id : ImageId) : NVDriver :=
  d.modifyImage id fun img => { img with borrowCount := (img.borrowCount + 1) % 2 ^ 32 }

def NVDriver.dropBackingImage (d : NVDriver) (id : ImageId) : NVDriver :=
  d.modifyImage id fun img => { img with borrowCount := (img.borrowCount + 2 ^ 32 - 1) % 2 ^ 32 }

/-- The modifier of a legacy import is recovered from the image that was found. -/
def recoverModifier (legacyPrime : Bool) (existing img : BackingImage) : BackingImage :=
  if legacyPrime ∧ existing.numObjects = 1 then
    { img with mods := Function.update img.mods 0 (existing.mods 0) }
  else img

/-- The image found by `retainBackingImageByFd`, if its layout is the imported one, and the
imported image with its modifier. -/
def NVDriver.borrowExisting (d : NVDriver) (found : Option ImageId) (legacyPrime : Bool)
    (img : BackingImage) : Option (ImageId × BackingImage) × BackingImage × NVDriver :=
  match found with
  | none => (none, img, d)
  | some id =>
    let d := d.retainBackingImage id
    match d.heap.get id with
    | none => (none, img, d)
    | some existing =>
      let img := recoverModifier legacyPrime existing img
      if backingImageMatchesImportedLayout d.kernel existing img then
        (some (id, existing), img, d)
      else (none, img, d.dropBackingImage id)

/-- `createImportedBackingImageImpl`. -/
def NVDriver.createImportedBackingImageImpl (d : NVDriver) (imported : ImportedSurface)
    (width height : Nat) (answer : ImportAnswer) : Option ImageId × NVDriver :=
  let format := nvFormatFromSurfaceFourcc imported.pixelFormat
  if format = .none ∨ imported.numPlanes = 0 ∨ imported.numObjects = 0 ∨
      (imported.objects 0).fd < 0 ∨ ¬ answer.calloc then (none, d)
  else
    match importedImage d.kernel imported width height with
    | (none, k) => (none, { d with kernel := k })
    | (some img, k) =>
      let d := { d with kernel := k }
      let found := d.findBackingImageByFd (imported.objects 0).fd format width height
      match d.borrowExisting found imported.legacyPrime img with
      | (some (id, existing), img, d) =>
        (some d.heap.length, { d with heap := d.heap.push (borrowBackingImage id existing img) })
      | (none, img, d) =>
        match importMemory d img imported.legacyPrime answer with
        | some img => (some d.heap.length, { d with heap := d.heap.push img })
        | none => (none, { d with kernel := d.kernel.closeFds img })

end Surface
end NvidiaVaapi
