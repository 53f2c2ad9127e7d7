import Mathlib.Data.FinEnum
import Mathlib.Logic.Function.Basic
import NvidiaVaapi.Surface.Formats

/-!
# Statistics of backing images

The notifications of `stats.c` that a backing image is created, becomes active or detached, or
is destroyed.  Each image remembers with which size and kind it was counted, so that a
notification that comes twice is ignored.  The counters are numbers of 64 bits.
-/

namespace NvidiaVaapi
namespace Stats

open Surface (NVFormat formatsInfo)

/-- The address of an image; zero is `NULL`. -/
abbrev ImagePtr := UInt64

/-- The counters that the notifications and `nvStatsUpdateMemoryEstimates` use. -/
inductive NVStatCounter where
  | activeBackingImages | detachedBackingImages | borrowedBackingImages | externalBackingImages
  | activeBackingBytes | detachedBackingBytes
  | activeBackingBytesPeak | detachedBackingBytesPeak | totalBackingBytesPeak
  | uniqueOwnedBackingBytes | uniqueOwnedBackingBytesPeak
  | borrowedViewBytes | externalImportBytes
  | videoprocGpuScratchBytes | videoprocCpuScratchBytes
  | securityClearScratchBytes | securityClearHostBytes
  | bufferLiveCapacityBytes | bufferPoolRetainedBytes | contextHostBufferBytes
  | ownedGpuBytes | ownedGpuBytesPeak | trackedGpuBytes | trackedGpuBytesPeak
  | trackedHostBytes | trackedHostBytesPeak
  deriving DecidableEq, Repr

/-- The fields of `BackingImage` that are read when it is counted. -/
structure ImageFields where
  totalSize : UInt64 := 0
  format : NVFormat := .none
  size : Nat → UInt32 := fun _ => 0
  isExternalBuffer : Bool := false
  borrowedCudaResources : Bool := false
  borrowedBackingImage : ImagePtr := 0

/-- The fields of `BackingImage` that belong to the statistics. -/
structure ImageStats where
  statsBytes : UInt64 := 0
  statsTracked : Bool := false
  statsActive : Bool := false
  statsBorrowed : Bool := false
  statsExternal : Bool := false
  deriving DecidableEq, Repr

/-- The part of `NVDriver` and of its images; `underflowed` notes that a counter was less than
what was subtracted from it. -/
structure NVDriver where
  statsEnabled : Bool := true
  stats : NVStatCounter → UInt64 := fun _ => 0
  images : ImagePtr → ImageStats := fun _ => {}
  underflowed : Bool := false

/-- `backingImageStatsSize`. -/
def backingImageStatsSize (img : ImageFields) : UInt64 :=
  if img.totalSize ≠ 0 then img.totalSize
  else (List.range (formatsInfo img.format).numPlanes).foldl
    (fun size i => size + (img.size i).toUInt64) 0

namespace NVDriver

variable (drv : NVDriver)

def setCounter (counter : NVStatCounter) (value : UInt64) : NVDriver :=
  { drv with stats := Function.update drv.stats counter value }

def setImage (ptr : ImagePtr) (img : ImageStats) : NVDriver :=
  { drv with images := Function.update drv.images ptr img }

/-- `atomic_fetch_sub`. -/
def fetchSub (counter : NVStatCounter) (value : UInt64) : NVDriver :=
  { drv.setCounter counter (drv.stats counter - value) with
    underflowed := drv.underflowed || drv.stats counter < value }

def nvStatsAdd (counter : NVStatCounter) (value : UInt64) : NVDriver :=
  if !drv.statsEnabled || value = 0 then drv
  else drv.setCounter counter (drv.stats counter + value)

def nvStatsSubtract (counter : NVStatCounter) (value : UInt64) : NVDriver :=
  if drv.statsEnabled && value ≠ 0 then drv.fetchSub counter value else drv

def nvStatsSet (counter : NVStatCounter) (value : UInt64) : NVDriver :=
  if !drv.statsEnabled then drv else drv.setCounter counter value

/-- `nvStatsSetMax`; its exchange finds the value that was read. -/
def nvStatsSetMax (counter : NVStatCounter) (value : UInt64) : NVDriver :=
  if !drv.statsEnabled then drv
  else if drv.stats counter < value then drv.setCounter counter value else drv

def nvStatsUpdateMemoryEstimates : NVDriver :=
  if !drv.statsEnabled then drv
  else
    let gpuBytes := drv.stats .activeBackingBytes + drv.stats .detachedBackingBytes +
      drv.stats .videoprocGpuScratchBytes
    let ownedGpuBytes := drv.stats .uniqueOwnedBackingBytes +
      drv.stats .videoprocGpuScratchBytes + drv.stats .securityClearScratchBytes
    let hostBytes := drv.stats .videoprocCpuScratchBytes + drv.stats .bufferLiveCapacityBytes +
      drv.stats .bufferPoolRetainedBytes + drv.stats .contextHostBufferBytes +
      drv.stats .securityClearHostBytes
    let drv := (drv.nvStatsSet .ownedGpuBytes ownedGpuBytes).nvStatsSetMax .ownedGpuBytesPeak
      ownedGpuBytes
    let drv := (drv.nvStatsSet .trackedGpuBytes gpuBytes).nvStatsSetMax .trackedGpuBytesPeak
      gpuBytes
    (drv.nvStatsSet .trackedHostBytes hostBytes).nvStatsSetMax .trackedHostBytesPeak hostBytes

def updateBackingPeaks : NVDriver :=
  let active := drv.stats .activeBackingBytes
  let detached := drv.stats .detachedBackingBytes
  let drv := drv.nvStatsSetMax .activeBackingBytesPeak active
  let drv := drv.nvStatsSetMax .detachedBackingBytesPeak detached
  let drv := drv.nvStatsSetMax .totalBackingBytesPeak (active + detached)
  drv.nvStatsUpdateMemoryEstimates

end NVDriver

/-- The counters of images and of bytes for the active or the detached images. -/
def imageCounter (active : Bool) : NVStatCounter :=
  if active then .activeBackingImages else .detachedBackingImages

def byteCounter (active : Bool) : NVStatCounter :=
  if active then .activeBackingBytes else .detachedBackingBytes

/-- The counter of bytes for a kind of images. -/
def kindCounter (borrowed isExternal : Bool) : NVStatCounter :=
  if borrowed then .borrowedViewBytes
  else if isExternal then .externalImportBytes
  else .uniqueOwnedBackingBytes

/-- `nvStatsBackingImageCreated`, with the fields that the image has at that time. -/
def nvStatsBackingImageCreated (drv : NVDriver) (ptr : ImagePtr) (img : ImageFields)
    (active : Bool) : NVDriver :=
  if !drv.statsEnabled || ptr = 0 || (drv.images ptr).statsTracked then drv
  else
    let statsBytes := backingImageStatsSize img
    let drv := drv.nvStatsAdd (imageCounter active) 1
    let drv := drv.nvStatsAdd (byteCounter active) statsBytes
    let statsBorrowed := img.borrowedCudaResources || img.borrowedBackingImage ≠ 0
    let statsExternal := img.isExternalBuffer
    let drv := drv.setImage ptr
      { statsBytes, statsTracked := true, statsActive := active, statsBorrowed, statsExternal }
    let drv := drv.nvStatsAdd (kindCounter statsBorrowed statsExternal) statsBytes
    let drv := drv.nvStatsSetMax .uniqueOwnedBackingBytesPeak (drv.stats .uniqueOwnedBackingBytes)
    let drv := if statsBorrowed then drv.nvStatsAdd .borrowedBackingImages 1 else drv
    let drv := if statsExternal then drv.nvStatsAdd .externalBackingImages 1 else drv
    drv.updateBackingPeaks

/-- `nvStatsBackingImageSetActive`. -/
def nvStatsBackingImageSetActive (drv : NVDriver) (ptr : ImagePtr) (active : Bool) : NVDriver :=
  let img := drv.images ptr
  if !drv.statsEnabled || ptr = 0 || !img.statsTracked || img.statsActive = active then drv
  else
    let drv := drv.fetchSub (imageCounter img.statsActive) 1
    let drv := drv.fetchSub (byteCounter img.statsActive) img.statsBytes
    let drv := drv.nvStatsAdd (imageCounter active) 1
    let drv := drv.nvStatsAdd (byteCounter active) img.statsBytes
    let drv := drv.setImage ptr { img with statsActive := active }
    drv.updateBackingPeaks

/-- `nvStatsBackingImageDestroyed`. -/
def nvStatsBackingImageDestroyed (drv : NVDriver) (ptr : ImagePtr) : NVDriver :=
  let img := drv.images ptr
  if !drv.statsEnabled || ptr = 0 || !img.statsTracked then drv
  else
    let drv := drv.fetchSub (imageCounter img.statsActive) 1
    let drv := drv.fetchSub (byteCounter img.statsActive) img.statsBytes
    let drv := if img.statsBorrowed then drv.fetchSub .borrowedBackingImages 1 else drv
    let drv := if img.statsExternal then drv.fetchSub .externalBackingImages 1 else drv
    let drv := drv.nvStatsSubtract (kindCounter img.statsBorrowed img.statsExternal)
      img.statsBytes
    let drv := drv.setImage ptr
      { img with
        statsTracked := false
        statsBytes := 0
        statsBorrowed := false
        statsExternal := false }
    drv.nvStatsUpdateMemoryEstimates

/-- The notifications about images. -/
inductive Notification where
  | created (ptr : ImagePtr) (img : ImageFields) (active : Bool)
  | setActive (ptr : ImagePtr) (active : Bool)
  | destroyed (ptr : ImagePtr)

def notify (drv : NVDriver) : Notification → NVDriver
  | .created ptr img active => nvStatsBackingImageCreated drv ptr img active
  | .setActive ptr active => nvStatsBackingImageSetActive drv ptr active
  | .destroyed ptr => nvStatsBackingImageDestroyed drv ptr

/-- A driver without images; the counters that the other parts of the driver write have any
value. -/
def startDriver (statsEnabled : Bool) (other : NVStatCounter → UInt64) : NVDriver where
  statsEnabled := statsEnabled
  stats
    | .videoprocGpuScratchBytes => other .videoprocGpuScratchBytes
    | .videoprocCpuScratchBytes => other .videoprocCpuScratchBytes
    | .securityClearScratchBytes => other .securityClearScratchBytes
    | .securityClearHostBytes => other .securityClearHostBytes
    | .bufferLiveCapacityBytes => other .bufferLiveCapacityBytes
    | .bufferPoolRetainedBytes => other .bufferPoolRetainedBytes
    | .contextHostBufferBytes => other .contextHostBufferBytes
    | _ => 0

def notifyAll (drv : NVDriver) (notifications : List Notification) : NVDriver :=
  notifications.foldl notify drv

end Stats
end NvidiaVaapi
