import NvidiaVaapi.Conversion.Pixel
import NvidiaVaapi.Lib.PtxLaunch

/-!
# Paths of the conversion

`convertNV12ToARGB` of `vabackend.c` with the three ways of it: the kernel that reads the arrays
of the source, the kernels that read copies of its planes, and the loop of the CPU.  Calls of CUDA
may fail; work that was queued when a later call fails may have been done in part.
-/

namespace NvidiaVaapi
namespace Conversion

open Overwrites Ptx
open Surface (NVFormat nvPlaneExtent)

/-! ## Images -/

/-- The bytes of a plane, by row and place in the row. -/
abbrev Plane := Nat → Nat → BitVec 8

/-- Where the planes of an image lie: in CUDA arrays or in memory of an importer. -/
inductive Storage
  | arrays | externalHost | externalDevice
  deriving DecidableEq, Repr

structure SourceImage where
  format : NVFormat
  width : Nat
  height : Nat
  storage : Storage
  luma : Plane
  chroma : Plane

/-- The plane of an RGB image: `arrays[0]`, `nvBackingImageDevicePlane` or
`nvBackingImageHostPlane` with the stride. -/
inductive Destination
  | array (handle : BitVec 64)
  | externalDevice (address : BitVec 64) (stride : Nat)
  | externalHost (stride : Nat)
  deriving DecidableEq, Repr

/-- The arguments of `convertNV12ToARGB`. -/
structure Request where
  source : SourceImage
  destination : Destination
  fourcc : Nat
  width : Nat
  height : Nat
  matrix : ColorMatrix
  sampleInfo : VideoProcSampleInfo

/-- How `copySurfaceBackingImage` calls it; width and height are those of a `VARectangle`. -/
def videoProcRequest (source : SourceImage) (destination : Destination) (fourcc : Nat)
    (src : SurfaceColors) (pipeline : PipelineColors) (width height : BitVec 16) : Request :=
  let colorStandard := effectiveSurfaceColorStandard src pipeline
  let fullRange := effectiveSurfaceColorRangeFull src pipeline
  { source, destination, fourcc
    width := width.toNat
    height := height.toNat
    matrix := colorMatrixForStandard colorStandard width.toNat fullRange
    sampleInfo := videoProcSampleInfoForFormat source.format fullRange }

/-- A byte of the host: of the scratch buffers, or of the plane of a destination there. -/
inductive HostCell
  | y (i : Nat)
  | uv (i : Nat)
  | argb (i : Nat)
  | destination (i : Nat)
  deriving DecidableEq, Repr

structure Memories where
  device : Contents
  host : HostCell → BitVec 8

/-- What the driver has on the device: `videoProcYBuffer`, `videoProcUVBuffer`,
`videoProcArgbBuffer`, and the texture objects of the source. -/
structure DeviceObjects where
  yBuffer : BitVec 64
  uvBuffer : BitVec 64
  argbBuffer : BitVec 64
  yTexture : BitVec 64
  uvTexture : BitVec 64
  deriving DecidableEq, Repr

/-! ## Samples -/

/-- The `i`-th sample of a row or of a buffer. -/
def sampleAt (is16Bit : Bool) (bytes : Nat → BitVec 8) (i : Nat) : Nat :=
  if is16Bit then (bytes (2 * i + 1) ++ bytes (2 * i)).toNat else (bytes i).toNat

/-- `CU_TR_ADDRESS_MODE_CLAMP`. -/
def clampIndex (x : BitVec 32) (extent : Nat) : Nat :=
  if x.toInt < 0 then 0 else min x.toNat (extent - 1)

namespace SourceImage

variable (img : SourceImage)

def is16Bit : Bool := img.format = .p010 ∨ img.format = .p012

/-- The textures over the two arrays, without normalisation; a channel that an array does not have
reads as zero. -/
def texture (objects : DeviceObjects) (handle : BitVec 64) (x y : BitVec 32) (channel : Nat) :
    BitVec 32 :=
  if handle = objects.yTexture then
    if channel < 1 then
      let row := img.luma (clampIndex y img.height)
      BitVec.ofNat 32 (sampleAt img.is16Bit row (clampIndex x img.width))
    else 0
  else if handle = objects.uvTexture then
    if channel < 2 then
      let row := img.chroma (clampIndex y (nvPlaneExtent img.height 1))
      BitVec.ofNat 32 (sampleAt img.is16Bit row
        (2 * clampIndex x (nvPlaneExtent img.width 1) + channel))
    else 0
  else 0

end SourceImage

/-! ## Copies -/

/-- `CUDA_MEMCPY2D` and rows of `memcpy`: the bytes that are named are copied. -/
def copy2D {Cell : Type} [DecidableEq Cell] (source : Plane) (target : Nat → Nat → Cell)
    (work : List (Nat × Nat)) (contents : Cell → BitVec 8) : Cell → BitVec 8 :=
  overwriteAll (fun (place : Nat × Nat) c =>
    if c = target place.1 place.2 then some (source place.1 place.2) else none) work contents

/-- The bytes of a copy with a `WidthInBytes` and a `Height`, row by row. -/
def bytesOf (widthInBytes height : Nat) : List (Nat × Nat) :=
  (List.range height).flatMap fun y => (List.range widthInBytes).map fun j => (y, j)

/-- A byte of global memory behind a base. -/
def globalCell (base : BitVec 64) (pitch row byte : Nat) : Cell :=
  .global (base + BitVec.ofNat 64 (row * pitch + byte))

namespace Request

variable (request : Request) (objects : DeviceObjects)

def bpp : Nat := if request.source.is16Bit then 2 else 1

def uvHeight : Nat := (request.height + 1) / 2

/-- `(width + 15) / 16` by `(height + 15) / 16` blocks of 16 by 16 threads. -/
def grid : Grid := ⟨(request.width + 15) / 16, (request.height + 15) / 16, 16, 16⟩

/-! ## The kernel over arrays -/

/-- A 32-bit argument. -/
def word (n : Int) : BitVec 64 := (BitVec.ofInt 32 n).setWidth 64

/-- The arguments that every kernel has after `order`. -/
def matrixArguments : List (BitVec 64) :=
  [ word request.matrix.vToR, word request.matrix.uToG, word request.matrix.vToG,
    word request.matrix.uToB ]

def order : BitVec 64 := (rgbOrderForFourcc request.fourcc).setWidth 64

/-- `dstHandle`, `dstIsSurface` and `dstPitch`. -/
def arrayTarget : Triple (BitVec 64) :=
  match request.destination with
  | .array handle => ⟨handle, word 1, word 0⟩
  | .externalDevice address stride => ⟨address, word 0, word stride⟩
  | .externalHost _ => ⟨0, 0, 0⟩

def arrayArguments : List (BitVec 64) :=
  let target := request.arrayTarget
  [ objects.yTexture, objects.uvTexture, target.first, target.second, word request.width,
    word request.height, target.third, request.order ] ++ request.matrixArguments ++
  [ word request.sampleInfo.yScale, word request.sampleInfo.sampleShift,
    word request.sampleInfo.yOffset, word request.sampleInfo.uvOffset,
    word request.sampleInfo.rounding, word request.sampleInfo.valueShift ]

end Request

/-- Arguments are bound to the parameters of an entry by their place. -/
def bindArguments (entry : List KernelParam) (arguments : List (BitVec 64)) (p : KernelParam) :
    BitVec 64 :=
  ((entry.zip arguments).lookup p).getD 0

/-- How the calls of `convertNV12ArrayToARGBCudaLocked` end: whether the stream, the kernel and
the objects are there, whether the launch is accepted, the threads that ran in their order, and
whether the event is reached. -/
structure ArrayAttempt where
  prepared : Bool
  launched : Bool
  places : List Place
  finished : Bool
  deriving DecidableEq, Repr

def arrayLaunch (request : Request) (objects : DeviceObjects) : Launch KernelParam where
  grid := request.grid
  param := bindArguments arrayEntry (request.arrayArguments objects)
  texture := request.source.texture objects

def convertNV12ArrayToARGBCudaLocked (request : Request) (objects : DeviceObjects)
    (attempt : ArrayAttempt) (contents : Contents) : Option (Bool × Contents) :=
  if request.source.storage ≠ .arrays ∨ attempt.prepared = false then some (false, contents)
  else match request.destination with
    | .externalHost _ => some (false, contents)
    | _ =>
      if attempt.launched = false then some (false, contents)
      else ((arrayLaunch request objects).runThreads arrayToArgb attempt.places contents).map
        fun after => (attempt.finished, after)

/-! ## The kernels over copies -/

namespace Request

variable (request : Request) (objects : DeviceObjects)

/-- `dstDevice` and `dstPitch`. -/
def stagedTarget : BitVec 64 × Nat :=
  match request.destination with
  | .externalDevice address stride => (address, stride)
  | _ => (objects.argbBuffer, request.width * 4)

def nv12Args : List (BitVec 64) :=
  let target := request.stagedTarget objects
  let pitch := word (request.width * request.bpp : Nat)
  [ objects.yBuffer, objects.uvBuffer, target.1, word request.width, word request.height, pitch,
    pitch, word target.2, request.order ] ++ request.matrixArguments ++
  [ word request.sampleInfo.yScale, word request.sampleInfo.yOffset,
    word request.sampleInfo.uvOffset, word request.sampleInfo.rounding,
    word request.sampleInfo.valueShift ]

def p010Args : List (BitVec 64) :=
  let target := request.stagedTarget objects
  let pitch := word (request.width * request.bpp : Nat)
  [ objects.yBuffer, objects.uvBuffer, target.1, word request.width, word request.height, pitch,
    pitch, word target.2, request.order ] ++ request.matrixArguments ++
  [ word request.sampleInfo.yScale, word request.sampleInfo.sampleShift,
    word request.sampleInfo.yOffset, word request.sampleInfo.uvOffset,
    word request.sampleInfo.rounding, word request.sampleInfo.valueShift ]

def stagedKernel : Kernel := if request.source.is16Bit then p010ToArgb else nv12ToArgb

end Request

/-- The kernels over copies have no textures. -/
def nv12Launch (request : Request) (objects : DeviceObjects) : Launch KernelParam where
  grid := request.grid
  param := bindArguments nv12Entry (request.nv12Args objects)
  texture _ _ _ _ := 0

def p010Launch (request : Request) (objects : DeviceObjects) : Launch KernelParam where
  grid := request.grid
  param := bindArguments p010Entry (request.p010Args objects)
  texture _ _ _ _ := 0

def stagedLaunch (request : Request) (objects : DeviceObjects) : Launch KernelParam :=
  if request.source.is16Bit then p010Launch request objects else nv12Launch request objects

/-- How the calls of `convertNV12ToARGBCuda` end, with the bytes and the threads that are done. -/
structure StagedAttempt where
  prepared : Bool
  luma : List (Nat × Nat)
  lumaQueued : Bool
  chroma : List (Nat × Nat)
  chromaQueued : Bool
  launched : Bool
  places : List Place
  output : List (Nat × Nat)
  outputQueued : Bool
  finished : Bool
  deriving DecidableEq, Repr

/-- The fallback of `convertNV12ToARGBCuda`. -/
def convertStaged (request : Request) (objects : DeviceObjects) (attempt : StagedAttempt)
    (contents : Contents) : Option (Bool × Contents) :=
  if attempt.prepared = false then some (false, contents)
  else
    let pitch := request.width * request.bpp
    let contents :=
      copy2D request.source.luma (globalCell objects.yBuffer pitch) attempt.luma contents
    if attempt.lumaQueued = false then some (false, contents)
    else
      let contents :=
        copy2D request.source.chroma (globalCell objects.uvBuffer pitch) attempt.chroma contents
      if attempt.chromaQueued = false then some (false, contents)
      else if attempt.launched = false then some (false, contents)
      else ((stagedLaunch request objects).runThreads request.stagedKernel attempt.places
          contents).map fun contents =>
        match request.destination with
        | .array handle =>
          let argb : Plane := fun y j =>
            contents (globalCell objects.argbBuffer (request.width * 4) y j)
          let contents := copy2D argb (.surface handle) attempt.output contents
          (attempt.outputQueued && attempt.finished, contents)
        | _ => (attempt.finished, contents)

def convertNV12ToARGBCuda (request : Request) (objects : DeviceObjects) (direct : ArrayAttempt)
    (staged : StagedAttempt) (contents : Contents) : Option (Bool × Contents) :=
  if request.source.storage ≠ .arrays then some (false, contents)
  else (convertNV12ArrayToARGBCudaLocked request objects direct contents).bind fun result =>
    if result.1 then some result else convertStaged request objects staged result.2

/-! ## The CPU -/

/-- The pixel of the loop, from buffers without gaps between their rows. -/
def cpuPixel (request : Request) (yPlane uvPlane : Nat → BitVec 8) (y x : Nat) :
    List (BitVec 8) :=
  let info := request.sampleInfo
  let is16Bit := request.source.is16Bit
  let shifted := fun sample : Nat => if is16Bit then sample >>> info.sampleShift else sample
  let uvIndex := y / 2 * request.width + (x - x % 2)
  let yy := shifted (sampleAt is16Bit yPlane (y * request.width + x))
  let u := shifted (sampleAt is16Bit uvPlane uvIndex)
  let v := shifted (sampleAt is16Bit uvPlane (uvIndex + 1))
  writeRgbPixel request.fourcc (convertPixel request.matrix info yy u v)

/-- The bytes of a pixel behind a row. -/
def pixelWrites {Cell : Type} [DecidableEq Cell] (target : Nat → Nat → Cell)
    (bytes : Nat → Nat → List (BitVec 8)) (pixel : Nat × Nat) (c : Cell) : Option (BitVec 8) :=
  (List.range 4).findSome? fun i =>
    if c = target pixel.1 (4 * pixel.2 + i) then some ((bytes pixel.1 pixel.2).getD i 0) else none

/-- How the calls of the CPU path end: access to memory of an importer, the scratch buffers, the
copies of the planes and of the result with the bytes that they did, and the end of the access. -/
structure CpuAttempt where
  accessStarted : Bool
  buffers : Bool
  luma : List (Nat × Nat)
  lumaCopied : Bool
  chroma : List (Nat × Nat)
  chromaCopied : Bool
  output : List (Nat × Nat)
  outputCopied : Bool
  accessEnded : Bool
  deriving DecidableEq, Repr

/-- `row` of the loop: where the bytes of a row are written. -/
def Request.hostRow (request : Request) : Nat → Nat → HostCell :=
  match request.destination with
  | .externalHost stride => fun y j => .destination (y * stride + j)
  | _ => fun y j => .argb (y * (request.width * 4) + j)

def convertCpu (request : Request) (attempt : CpuAttempt) (memories : Memories) :
    Bool × Memories :=
  if attempt.accessStarted = false ∨ attempt.buffers = false then (false, memories)
  else
    let pitch := request.width * request.bpp
    let host :=
      copy2D request.source.luma (fun y j => .y (y * pitch + j)) attempt.luma memories.host
    if attempt.lumaCopied = false then (false, { memories with host })
    else
      let host := copy2D request.source.chroma (fun y j => .uv (y * pitch + j)) attempt.chroma host
      if attempt.chromaCopied = false then (false, { memories with host })
      else
        let pixel := cpuPixel request (fun i => host (.y i)) (fun i => host (.uv i))
        let host := overwriteAll (pixelWrites request.hostRow pixel)
          (bytesOf request.width request.height) host
        match request.destination with
        | .externalHost _ => (attempt.accessEnded, { memories with host })
        | .array handle =>
          let argb : Plane := fun y j => host (.argb (y * (request.width * 4) + j))
          let device := copy2D argb (.surface handle) attempt.output memories.device
          (attempt.outputCopied && attempt.accessEnded, ⟨device, host⟩)
        | .externalDevice _ _ => (false, { memories with host })

/-! ## All of it -/

/-- How the calls of one conversion end. -/
structure Attempts where
  direct : ArrayAttempt
  staged : StagedAttempt
  cpu : CpuAttempt
  deriving DecidableEq, Repr

def convertNV12ToARGB (request : Request) (objects : DeviceObjects) (attempts : Attempts)
    (memories : Memories) : Option (Bool × Memories) :=
  match request.destination with
  | .externalHost _ => some (convertCpu request attempts.cpu memories)
  | _ =>
    (convertNV12ToARGBCuda request objects attempts.direct attempts.staged memories.device).map
      fun result =>
        if result.1 then (true, { memories with device := result.2 })
        else convertCpu request attempts.cpu { memories with device := result.2 }

end Conversion
end NvidiaVaapi
