import NvidiaVaapi.Lib.SlotTable
import NvidiaVaapi.Surface.Formats
import Mathlib.Logic.Function.Basic

/-!
# Surfaces, backing images and descriptors

The records of `vabackend.h` that creation, import, export and release of surfaces read and
write, and the table of file descriptors of the process.  A pointer to a surface or to a
backing image is the number of its slot; an address is never used twice, so that a pointer
that is left over leads to an empty slot.
-/

namespace NvidiaVaapi
namespace Surface

/-- An open file: what identifies it (`st_dev`, `st_ino`), its `st_size` and where
`lseek(fd, 0, SEEK_END)` leads. -/
structure OpenFile where
  dev : Nat
  ino : Nat
  size : Int := 0
  seekEnd : Int := 0
  deriving DecidableEq, Repr, Inhabited

/-- The descriptors of the process.  Every file that is made has an inode number of its
own; another descriptor for a file comes by duplication only. -/
structure Kernel where
  files : SlotTable OpenFile := []
  nextIno : Nat := 1
  limit : Nat := 0
  deriving DecidableEq, Repr, Inhabited

/-- The file behind a descriptor. -/
def Kernel.fileAt (k : Kernel) (fd : Int) : Option OpenFile :=
  if fd < 0 then none else k.files.get fd.toNat

/-- Give a file the lowest descriptor that is free. -/
def Kernel.install (k : Kernel) (file : OpenFile) : Option (Int × Kernel) :=
  if k.files.firstFree < k.limit then
    some (k.files.firstFree, { k with files := k.files.install file })
  else none

/-- `nvDupFdCloexec`; `none` is the answer `-1`. -/
def Kernel.nvDupFdCloexec (k : Kernel) (fd : Int) : Option (Int × Kernel) :=
  (k.fileAt fd).bind k.install

/-- Make a new file. -/
def Kernel.create (k : Kernel) (dev : Nat) (size seekEnd : Int) : Option (Int × Kernel) :=
  { k with nextIno := k.nextIno + 1 }.install ⟨dev, k.nextIno, size, seekEnd⟩

/-- `close`. -/
def Kernel.close (k : Kernel) (fd : Int) : Kernel :=
  if fd < 0 then k else { k with files := k.files.clear fd.toNat }

/-- The device number of the files that dma-bufs are. -/
def dmaBufDev : Nat := 0

abbrev ImageId := Nat
abbrev SurfaceId := Nat

/-- `cudaVideoSurfaceFormat`. -/
inductive CudaSurfaceFormat where
  | nv12 | p016 | yuv444 | yuv444_16Bit
  deriving DecidableEq, Repr, Inhabited

/-- `cudaVideoChromaFormat`. -/
inductive CudaChromaFormat where
  | chroma420 | chroma444
  deriving DecidableEq, Repr, Inhabited

structure NVSurface where
  width : Nat := 0
  height : Nat := 0
  format : CudaSurfaceFormat := .nv12
  chromaFormat : CudaChromaFormat := .chroma420
  bitDepth : Nat := 8
  fourcc : Nat := 0
  backingImage : Option ImageId := none
  deriving DecidableEq, Repr, Inhabited

/-- A CUDA array over memory that was imported at an offset. -/
structure CudaArray where
  offset : Nat := 0
  width : Nat := 0
  height : Nat := 0
  bytesPerPixel : Nat := 0
  deriving DecidableEq, Repr, Inhabited

/-- `BackingImage`.  Of a mapping only the size and that it is there are kept. -/
structure BackingImage where
  surface : Option SurfaceId := none
  arrays : Nat → Option CudaArray := fun _ => none
  width : Nat := 0
  height : Nat := 0
  fourcc : Nat := 0
  fds : Nat → Int := fun _ => -1
  stDev : Nat → Nat := fun _ => 0
  stIno : Nat → Nat := fun _ => 0
  offsets : Nat → Int := fun _ => 0
  strides : Nat → Int := fun _ => 0
  mods : Nat → Nat := fun _ => 0
  size : Nat → Nat := fun _ => 0
  objectSize : Nat → Nat := fun _ => 0
  planeObjectIndex : Nat → Nat := fun _ => 0
  numObjects : Nat := 0
  numPlanes : Nat := 0
  format : NVFormat := .none
  totalSize : Nat := 0
  isSingleBuffer : Bool := false
  isExternalBuffer : Bool := false
  borrowedCudaResources : Bool := false
  borrowedBackingImage : Option ImageId := none
  borrowCount : Nat := 0
  externalMappings : Nat → Bool := fun _ => false
  externalMappingSize : Nat → Nat := fun _ => 0
  externalDevicePtrs : Nat → Bool := fun _ => false
  externalDeviceSize : Nat → Nat := fun _ => 0
  detachedSerial : Nat := 0
  deriving Inhabited

/-- `cacheBackingImageFdStat`. -/
def cacheBackingImageFdStat (k : Kernel) (img : BackingImage) (index : Nat) : BackingImage :=
  match k.fileAt (img.fds index) with
  | none => img
  | some file =>
    { img with
      stDev := Function.update img.stDev index file.dev
      stIno := Function.update img.stIno index file.ino }

/-- `backingImageFdMatchesStat`. -/
def backingImageFdMatchesStat (img : BackingImage) (fdStat : OpenFile) (index : Nat) : Bool :=
  0 ≤ img.fds index && img.stDev index = fdStat.dev && img.stIno index = fdStat.ino

/-- Close the descriptors of an image. -/
def Kernel.closeFds (k : Kernel) (img : BackingImage) : Kernel :=
  (List.range 4).foldl (fun k i => k.close (img.fds i)) k

/-- What happens to backing images: an image is freed, taken out of the cache to be freed,
or gets an owner; with its borrow count at that moment. -/
inductive CacheEvent where
  | destroyed (image : ImageId) (borrowCount : Nat)
  | pruned (image : ImageId) (borrowCount : Nat)
  | attached (image : ImageId) (surface : SurfaceId) (borrowCount : Nat)
  deriving DecidableEq, Repr

/-- The borrow count of an event. -/
def CacheEvent.borrowCount : CacheEvent → Nat
  | .destroyed _ count => count
  | .pruned _ count => count
  | .attached _ _ count => count

inductive Backend where
  | egl | direct
  deriving DecidableEq, Repr, Inhabited

/-- `NVDExportLayout`. -/
inductive NVDExportLayout where
  | perPlaneNatural | perPlaneSharedModifier | packed
  deriving DecidableEq, Repr, Inhabited

/-- The part of `NVDriverContext` that the layouts of images depend on. -/
structure NVDriverContext where
  genericPageKind : Nat := 0
  pageKindGeneration : Nat := 0
  sectorLayout : Nat := 0
  deriving DecidableEq, Repr, Inhabited

/-- The driver: its backend and settings, the descriptors of the process, the backing
images and surfaces in memory, the array `images`, the list of the detached images of the
direct backend, and what has happened to images so far. -/
structure NVDriver where
  backend : Backend := .direct
  exportLayout : NVDExportLayout := .perPlaneNatural
  driverContext : NVDriverContext := {}
  kernel : Kernel := {}
  heap : SlotTable BackingImage := []
  surfaces : SlotTable NVSurface := []
  images : List ImageId := []
  detached : List ImageId := []
  detachedBackingImageSerial : Nat := 0
  detachedBackingImageBytes : Nat := 0
  detachedBackingImageCount : Nat := 0
  maxDetachedBackingImages : Nat := 16
  maxDetachedBackingImageBytes : Nat := 0
  memoryBudgetBytes : Nat := 0
  videoProcYBufferSize : Nat := 0
  videoProcUVBufferSize : Nat := 0
  videoProcArgbBufferSize : Nat := 0
  useCorrectNV12Format : Bool := false
  cudaWorkUnsafe : Bool := false
  log : List CacheEvent := []
  deriving Inhabited

namespace NVDriver

variable (d : NVDriver)

/-- Write through a pointer to a backing image. -/
def modifyImage (id : ImageId) (f : BackingImage → BackingImage) : NVDriver :=
  match d.heap.get id with
  | some img => { d with heap := d.heap.put id (f img) }
  | none => d

/-- Write through a pointer to a surface. -/
def modifySurface (id : SurfaceId) (f : NVSurface → NVSurface) : NVDriver :=
  match d.surfaces.get id with
  | some surface => { d with surfaces := d.surfaces.put id (f surface) }
  | none => d

/-- Note an event. -/
def note (event : CacheEvent) : NVDriver :=
  { d with log := d.log ++ [event] }

/-- `videoProcYBufferSize + videoProcUVBufferSize + videoProcArgbBufferSize`. -/
def scratch : Nat :=
  d.videoProcYBufferSize + d.videoProcUVBufferSize + d.videoProcArgbBufferSize

/-- `img->surface->backingImage = NULL` where the image has a surface. -/
def forgetSurface (img : BackingImage) : NVDriver :=
  match img.surface with
  | some s => d.modifySurface s fun surface => { surface with backingImage := none }
  | none => d

/-- `surface->backingImage = NULL`. -/
def clearBackingImage (s : SurfaceId) : NVDriver :=
  d.modifySurface s fun surface => { surface with backingImage := none }

/-- Close the descriptors of an image and free it. -/
def freeImage (id : ImageId) : NVDriver :=
  match d.heap.get id with
  | some img =>
    { d with kernel := d.kernel.closeFds img, heap := d.heap.clear id }.note
      (.destroyed id img.borrowCount)
  | none => d

/-- `nvReleaseBackingImageBorrow`. -/
def nvReleaseBackingImageBorrow (id : ImageId) : NVDriver :=
  match d.heap.get id with
  | some img =>
    match img.borrowedBackingImage with
    | some borrowed =>
      -- The exchange leaves a count of zero as it is.
      (d.modifyImage borrowed fun lender =>
        { lender with borrowCount := lender.borrowCount - 1 }).modifyImage id fun img =>
          { img with borrowedBackingImage := none }
    | none => d
  | none => d

/-- `nvDestroyImportedBackingImage`. -/
def nvDestroyImportedBackingImage (id : ImageId) : NVDriver :=
  if d.cudaWorkUnsafe then d
  else
    match d.heap.get id with
    | some img => ((d.forgetSurface img).nvReleaseBackingImageBorrow id).freeImage id
    | none => d

end NVDriver

/-- How many live images borrow an image. -/
def NVDriver.borrowers (d : NVDriver) (id : ImageId) : Nat :=
  d.heap.count fun img => img.borrowedBackingImage = some id

end Surface
end NvidiaVaapi
