import Mathlib.Algebra.GroupWithZero.Nat
import NvidiaVaapi.Lib.LabelledSystem

/-!
# The scratch memory of video processing

Video processing keeps three buffers of device memory and three of host memory, which grow
when a frame needs more and are trimmed when they idle.  The device memory shares a budget
with the cache of detached images, the oldest of which make room for it.
-/

namespace NvidiaVaapi
namespace VideoProc

/-! ## State -/

/-- The three buffers of a kind of memory. -/
inductive Plane
  | y
  | uv
  | argb
  deriving DecidableEq, Repr

/-- A scratch buffer with its recorded size; `0` is a null pointer. -/
structure Scratch where
  ptr : Nat := 0
  size : Nat := 0
  deriving DecidableEq, Repr

/-- What of a detached `BackingImage` the pruning reads: `backingImageMemorySize`, whether
it has a surface, who borrows it, and whether `drv->images` has it. -/
structure BackingImage where
  memorySize : Nat
  hasSurface : Bool := false
  borrowCount : Nat := 0
  listed : Bool := true
  deriving DecidableEq, Repr

/-- The part of an `NVDriver` that accounts for scratch memory, with the memory behind it:
the blocks that the device and the C library have given out, with their sizes.  `gpu` and
`cpu` are the buffers, `gpuStat` and `cpuStat` the counters of their bytes. -/
structure NVDriver where
  videoProcScratchMaxBytes : Nat
  memoryBudgetBytes : Nat
  statsEnabled : Bool
  gpu : Plane → Scratch := fun _ => {}
  cpu : Plane → Scratch := fun _ => {}
  gpuStat : Nat := 0
  cpuStat : Nat := 0
  detached : List BackingImage := []
  detachedBackingImageBytes : Nat := 0
  gpuHeap : Nat → Option Nat := fun _ => none
  cpuHeap : Nat → Option Nat := fun _ => none

/-- `roundVideoProcBufferSize`. -/
def roundVideoProcBufferSize (requiredSize : Nat) : Nat :=
  let blockSize := 1024 * 1024
  if requiredSize > 2 ^ 64 - 1 - (blockSize - 1) then requiredSize
  else (requiredSize + blockSize - 1) / blockSize * blockSize

/-- The bytes of three buffers, as 64 bits add them up. -/
def scratchBytes (buffers : Plane → Scratch) : Nat :=
  ((buffers .y).size + (buffers .uv).size + (buffers .argb).size) % 2 ^ 64

/-- `updateVideoProcScratchStats`. -/
def updateVideoProcScratchStats (d : NVDriver) : NVDriver :=
  if d.statsEnabled then
    { d with gpuStat := scratchBytes d.gpu, cpuStat := scratchBytes d.cpu }
  else d

/-! ## The cache of detached images -/

/-- `backingImageCanPrune`. -/
def BackingImage.canPrune (img : BackingImage) : Bool :=
  !img.hasSurface && img.borrowCount == 0

/-- `linkDetachedBackingImageLocked`. -/
def linkDetachedBackingImageLocked (img : BackingImage) (d : NVDriver) : NVDriver :=
  { d with
    detached := d.detached ++ [img]
    detachedBackingImageBytes := (d.detachedBackingImageBytes + img.memorySize) % 2 ^ 64 }

/-- `unlinkDetachedBackingImageLocked` for the image at an index of the list. -/
def unlinkDetachedBackingImageLocked (i : Nat) (d : NVDriver) : NVDriver :=
  match d.detached[i]? with
  | none => d
  | some img =>
    { d with
      detached := d.detached.eraseIdx i
      detachedBackingImageBytes :=
        if d.detachedBackingImageBytes ≥ img.memorySize then
          d.detachedBackingImageBytes - img.memorySize
        else 0 }

/-- `pruneOldestDetachedBackingImageLocked`; `none` where nothing was pruned. -/
def pruneOldestDetachedBackingImageLocked (d : NVDriver) : Option NVDriver :=
  match d.detached.findIdx? BackingImage.canPrune with
  | none => none
  | some i =>
    if (d.detached[i]?.map BackingImage.listed).getD false then
      some (unlinkDetachedBackingImageLocked i d)
    else none

/-- The cache and the scratch memory do not leave room for more bytes in the budget. -/
def overBudget (extraGpuBytes : Nat) (d : NVDriver) : Bool :=
  extraGpuBytes > d.memoryBudgetBytes ||
    (d.detachedBackingImageBytes + scratchBytes d.gpu) % 2 ^ 64 >
      d.memoryBudgetBytes - extraGpuBytes

/-- The turns of the loop of `direct_pruneToMemoryBudget`, at most as many as are given. -/
def pruneTurns (extraGpuBytes : Nat) : Nat → NVDriver → NVDriver
  | 0, d => d
  | turns + 1, d =>
    if overBudget extraGpuBytes d then
      match pruneOldestDetachedBackingImageLocked d with
      | some d => pruneTurns extraGpuBytes turns d
      | none => d
    else d

/-- `direct_pruneToMemoryBudget`: every turn takes an image out of the list. -/
def pruneToMemoryBudget (extraGpuBytes : Nat) (d : NVDriver) : Bool × NVDriver :=
  if d.memoryBudgetBytes = 0 then (true, d)
  else
    let d := pruneTurns extraGpuBytes d.detached.length d
    (!overBudget extraGpuBytes d, d)

/-! ## Buffers -/

/-- The buffer is there and large enough. -/
def Scratch.suffices (buffer : Scratch) (requiredSize : Nat) : Bool :=
  buffer.size ≥ requiredSize && buffer.ptr != 0

/-- The bytes of a buffer in place of another one are over the maximum. -/
def NVDriver.overMaximum (d : NVDriver) (buffers : Plane → Scratch) (plane : Plane)
    (allocSize : Nat) : Bool :=
  allocSize > d.videoProcScratchMaxBytes ||
    (scratchBytes buffers + (2 ^ 64 - (buffers plane).size)) % 2 ^ 64 >
      d.videoProcScratchMaxBytes - allocSize

/-- The new buffer of a plane takes the place of the old one, which is freed, unless this
fails; then the new one is freed, unless this fails too. -/
def NVDriver.replaceGpu (plane : Plane) (newBuffer allocSize : Nat) (freed freedNew : Bool)
    (d : NVDriver) : Bool × NVDriver :=
  let old := (d.gpu plane).ptr
  let d := { d with gpuHeap := Function.update d.gpuHeap newBuffer (some allocSize) }
  if old ≠ 0 ∧ ¬freed then
    (false, if freedNew then { d with gpuHeap := Function.update d.gpuHeap newBuffer none } else d)
  else
    let d := if old ≠ 0 then { d with gpuHeap := Function.update d.gpuHeap old none } else d
    let d := { d with gpu := Function.update d.gpu plane { ptr := newBuffer, size := allocSize } }
    (true, updateVideoProcScratchStats d)

/-- `ensureVideoProcBuffer`: the answer of `cuMemAlloc`, and whether `cuMemFree` frees the
old buffer and, should it not, the new one. -/
def ensureVideoProcBuffer (plane : Plane) (requiredSize : Nat) (memory : Option Nat)
    (freed freedNew : Bool) (d : NVDriver) : Bool × NVDriver :=
  let buffer := d.gpu plane
  if buffer.suffices requiredSize then (true, d)
  else
    let allocSize := roundVideoProcBufferSize requiredSize
    let additionalBytes := if allocSize > buffer.size then allocSize - buffer.size else 0
    let (fits, d) := pruneToMemoryBudget additionalBytes d
    if ¬fits then (false, d)
    else if d.overMaximum d.gpu plane allocSize then (false, d)
    else
      match memory with
      | none => (false, d)
      | some newBuffer => d.replaceGpu plane newBuffer allocSize freed freedNew

/-- `ensureCpuVideoProcBuffer`; `memory` is the answer of `realloc`. -/
def ensureCpuVideoProcBuffer (plane : Plane) (requiredSize : Nat) (memory : Option Nat)
    (d : NVDriver) : Bool × NVDriver :=
  let buffer := d.cpu plane
  if buffer.suffices requiredSize then (true, d)
  else
    let allocSize := roundVideoProcBufferSize requiredSize
    if d.overMaximum d.cpu plane allocSize then (false, d)
    else
      match memory with
      | none => (false, d)
      | some newBuffer =>
        let heap := Function.update d.cpuHeap buffer.ptr none
        (true, updateVideoProcScratchStats { d with
          cpuHeap := Function.update heap newBuffer (some allocSize)
          cpu := Function.update d.cpu plane { ptr := newBuffer, size := allocSize } })

/-- A buffer of device memory is trimmed, where it is freed. -/
def trimGpu (freed : Plane → Bool) (d : NVDriver) (plane : Plane) : NVDriver :=
  if (d.gpu plane).ptr ≠ 0 ∧ freed plane then
    { d with
      gpuHeap := Function.update d.gpuHeap (d.gpu plane).ptr none
      gpu := Function.update d.gpu plane {} }
  else d

/-- A buffer of host memory is trimmed. -/
def trimCpu (d : NVDriver) (plane : Plane) : NVDriver :=
  { d with
    cpuHeap := Function.update d.cpuHeap (d.cpu plane).ptr none
    cpu := Function.update d.cpu plane {} }

/-- `trimVideoProcScratchLocked`; `freed` is which calls of `cuMemFree` succeed. -/
def trimVideoProcScratchLocked (gpu cpu : Bool) (freed : Plane → Bool) (d : NVDriver) :
    NVDriver :=
  let d := if gpu then [Plane.y, .uv, .argb].foldl (trimGpu freed) d else d
  let d := if cpu then [Plane.y, .uv, .argb].foldl trimCpu d else d
  updateVideoProcScratchStats d

/-! ## Calls -/

/-- What happens to the scratch memory and to the cache, with the answers of the device and
the C library.  `useDetached` is that a detached image is borrowed, returned, attached, or
taken out of the list of images. -/
inductive Call
  | ensureGpu (plane : Plane) (requiredSize : Nat) (memory : Option Nat) (freed freedNew : Bool)
  | ensureCpu (plane : Plane) (requiredSize : Nat) (memory : Option Nat)
  | trim (gpu cpu : Bool) (freed : Plane → Bool)
  | linkDetached (img : BackingImage)
  | unlinkDetached (i : Nat)
  | useDetached (i : Nat) (hasSurface : Bool) (borrowCount : Nat) (listed : Bool)

/-- The driver after a call. -/
def NVDriver.after (d : NVDriver) : Call → NVDriver
  | .ensureGpu plane requiredSize memory freed freedNew =>
    (ensureVideoProcBuffer plane requiredSize memory freed freedNew d).2
  | .ensureCpu plane requiredSize memory => (ensureCpuVideoProcBuffer plane requiredSize memory d).2
  | .trim gpu cpu freed => trimVideoProcScratchLocked gpu cpu freed d
  | .linkDetached img => linkDetachedBackingImageLocked img d
  | .unlinkDetached i => unlinkDetachedBackingImageLocked i d
  | .useDetached i hasSurface borrowCount listed =>
    { d with detached := d.detached.modify i fun img =>
        { img with hasSurface := hasSurface, borrowCount := borrowCount, listed := listed } }

/-- The bytes of the images of the cache. -/
def cacheBytes (d : NVDriver) : Nat :=
  (d.detached.map BackingImage.memorySize).sum

/-- The bytes of three buffers. -/
def totalBytes (buffers : Plane → Scratch) : Nat :=
  (buffers .y).size + (buffers .uv).size + (buffers .argb).size

/-- The answers that come with a call are possible ones: memory that is given out is not
null and not in use, where `realloc` may stay in place, and what of the device is in use at
a time has fewer than `2 ^ 64` bytes. -/
def Answered (d : NVDriver) (call : Call) : Prop :=
  (match call with
    | .ensureGpu _ _ memory _ _ => ∀ address ∈ memory, address ≠ 0 ∧ d.gpuHeap address = none
    | .ensureCpu plane _ memory => ∀ address ∈ memory,
        address ≠ 0 ∧ (address = (d.cpu plane).ptr ∨ d.cpuHeap address = none)
    | _ => True) ∧
  cacheBytes (d.after call) + totalBytes (d.after call).gpu < 2 ^ 64

/-- The driver without scratch memory and with an empty cache, and its calls. -/
def scratchSystem (maxBytes budget : Nat) (statsEnabled : Bool) :
    LabelledSystem NVDriver Call where
  init :=
    { videoProcScratchMaxBytes := maxBytes, memoryBudgetBytes := budget,
      statsEnabled := statsEnabled }
  step d call := some (d.after call)

end VideoProc
end NvidiaVaapi
