import NvidiaVaapi.Lib.Tally
import NvidiaVaapi.Stats.BackingImages

/-!
# The totals of the backing images

What the counters say about the images that are tracked.  An image is tracked from the
notification that it is created until the one that it is destroyed, with the size and the kind
it has when it is created.  Every counter is the sum over the tracked images modulo `2 ^ 64`;
as long as their bytes fit 64 bits the sums are exact, the marks are never below them, and
nothing is subtracted that was not added before.
-/

namespace NvidiaVaapi
namespace Stats

open Tally

/-- An image as it was counted. -/
structure TrackedImage where
  bytes : UInt64
  active : Bool
  borrowed : Bool
  isExternal : Bool
  deriving DecidableEq, Repr

/-- The images that are tracked. -/
abbrev TrackedImages := ImagePtr → Option TrackedImage

/-- How an image is counted when it is created. -/
def countedAs (img : ImageFields) (active : Bool) : TrackedImage where
  bytes := backingImageStatsSize img
  active := active
  borrowed := img.borrowedCudaResources || img.borrowedBackingImage ≠ 0
  isExternal := img.isExternalBuffer

/-- The tracked images after one more notification; a notification that does not fit the state
of the image changes nothing. -/
def trackStep (statsEnabled : Bool) (tracked : TrackedImages) : Notification → TrackedImages
  | .created ptr img active =>
    if statsEnabled = true ∧ ptr ≠ 0 ∧ tracked ptr = none then
      Function.update tracked ptr (some (countedAs img active))
    else tracked
  | .setActive ptr active =>
    Function.update tracked ptr ((tracked ptr).map fun img => { img with active })
  | .destroyed ptr => Function.update tracked ptr none

def trackAll (statsEnabled : Bool) (notifications : List Notification) : TrackedImages :=
  notifications.foldl (trackStep statsEnabled) fun _ => none

/-- What a tracked image counts for in each of the current totals. -/
def weight : NVStatCounter → TrackedImage → Nat
  | .activeBackingImages, img => if img.active then 1 else 0
  | .detachedBackingImages, img => if img.active then 0 else 1
  | .borrowedBackingImages, img => if img.borrowed then 1 else 0
  | .externalBackingImages, img => if img.isExternal then 1 else 0
  | .activeBackingBytes, img => if img.active then img.bytes.toNat else 0
  | .detachedBackingBytes, img => if img.active then 0 else img.bytes.toNat
  | .borrowedViewBytes, img => if img.borrowed then img.bytes.toNat else 0
  | .externalImportBytes, img =>
    if !img.borrowed && img.isExternal then img.bytes.toNat else 0
  | .uniqueOwnedBackingBytes, img =>
    if !img.borrowed && !img.isExternal then img.bytes.toNat else 0
  | _, _ => 0

/-- The counters of the current totals. -/
def currentTotals : List NVStatCounter :=
  [.activeBackingImages, .detachedBackingImages, .borrowedBackingImages, .externalBackingImages,
    .activeBackingBytes, .detachedBackingBytes, .borrowedViewBytes, .externalImportBytes,
    .uniqueOwnedBackingBytes]

/-- The bytes of all tracked images. -/
def trackedBytes (tracked : TrackedImages) : Nat :=
  total (fun img => img.bytes.toNat) tracked

/-- What a tracked image counts for in the total of which a high-water mark remembers the largest
value. -/
def markWeight : NVStatCounter → TrackedImage → Nat
  | .activeBackingBytesPeak => weight .activeBackingBytes
  | .detachedBackingBytesPeak => weight .detachedBackingBytes
  | .totalBackingBytesPeak => fun img => img.bytes.toNat
  | .uniqueOwnedBackingBytesPeak => weight .uniqueOwnedBackingBytes
  | _ => fun _ => 0

/-- The high-water marks of the totals. -/
def highWaterMarks : List NVStatCounter :=
  [.activeBackingBytesPeak, .detachedBackingBytesPeak, .totalBackingBytesPeak,
    .uniqueOwnedBackingBytesPeak]

/-- The statistics after some notifications are those of the tracked images. -/
structure Accounted (statsEnabled : Bool) (drv : NVDriver) (notifications : List Notification) :
    Prop where
  totals : ∀ counter ∈ currentTotals, (drv.stats counter).toNat =
    total (weight counter) (trackAll statsEnabled notifications)
  marks : ∀ past, past <+: notifications → ∀ mark ∈ highWaterMarks,
    total (markWeight mark) (trackAll statsEnabled past) ≤ (drv.stats mark).toNat
  noUnderflow : drv.underflowed = false

/-! ## The operations on counters -/

namespace NVDriver

variable (drv : NVDriver)

@[simp] theorem setCounter_images (k : NVStatCounter) (v : UInt64) :
    (drv.setCounter k v).images = drv.images := rfl

@[simp] theorem setCounter_statsEnabled (k : NVStatCounter) (v : UInt64) :
    (drv.setCounter k v).statsEnabled = drv.statsEnabled := rfl

@[simp] theorem setCounter_underflowed (k : NVStatCounter) (v : UInt64) :
    (drv.setCounter k v).underflowed = drv.underflowed := rfl

@[simp] theorem setImage_stats (ptr : ImagePtr) (img : ImageStats) :
    (drv.setImage ptr img).stats = drv.stats := rfl

@[simp] theorem setImage_statsEnabled (ptr : ImagePtr) (img : ImageStats) :
    (drv.setImage ptr img).statsEnabled = drv.statsEnabled := rfl

@[simp] theorem setImage_underflowed (ptr : ImagePtr) (img : ImageStats) :
    (drv.setImage ptr img).underflowed = drv.underflowed := rfl

@[simp] theorem setImage_images (ptr : ImagePtr) (img : ImageStats) :
    (drv.setImage ptr img).images = Function.update drv.images ptr img := rfl

@[simp] theorem fetchSub_images (k : NVStatCounter) (v : UInt64) :
    (drv.fetchSub k v).images = drv.images := rfl

@[simp] theorem fetchSub_statsEnabled (k : NVStatCounter) (v : UInt64) :
    (drv.fetchSub k v).statsEnabled = drv.statsEnabled := rfl

theorem fetchSub_stats (k : NVStatCounter) (v : UInt64) (c : NVStatCounter) :
    (drv.fetchSub k v).stats c = drv.stats c - if c = k then v else 0 := by
  show Function.update drv.stats k (drv.stats k - v) c = _
  by_cases hsame : c = k
  · rw [hsame, Function.update_self, if_pos rfl]
  · rw [Function.update_of_ne hsame, if_neg hsame, UInt64.sub_zero]

/-- The parts that no write to a counter changes. -/
structure SameImages (drv drv' : NVDriver) : Prop where
  images : drv'.images = drv.images
  statsEnabled : drv'.statsEnabled = drv.statsEnabled
  underflowed : drv'.underflowed = drv.underflowed

variable {drv}

theorem SameImages.refl (drv : NVDriver) : SameImages drv drv :=
  ⟨rfl, rfl, rfl⟩

theorem SameImages.trans {drv' drv'' : NVDriver} (h : SameImages drv drv')
    (h' : SameImages drv' drv'') : SameImages drv drv'' :=
  ⟨h'.images.trans h.images, h'.statsEnabled.trans h.statsEnabled,
    h'.underflowed.trans h.underflowed⟩

/-- An addition, while statistics are kept. -/
theorem nvStatsAdd_spec (henabled : drv.statsEnabled = true) (k : NVStatCounter) (v : UInt64) :
    SameImages drv (drv.nvStatsAdd k v) ∧
      ∀ c, (drv.nvStatsAdd k v).stats c = drv.stats c + if c = k then v else 0 := by
  unfold nvStatsAdd
  rw [henabled]
  by_cases hzero : v = 0
  · subst hzero
    refine ⟨.refl drv, fun c => ?_⟩
    simp
  · simp only [Bool.not_true, Bool.false_or, decide_eq_true_eq, if_neg hzero]
    refine ⟨⟨rfl, rfl, rfl⟩, fun c => ?_⟩
    show Function.update drv.stats k (drv.stats k + v) c = _
    by_cases hsame : c = k
    · rw [hsame, Function.update_self, if_pos rfl]
    · rw [Function.update_of_ne hsame, if_neg hsame, UInt64.add_zero]

/-- A maximum raises its counter to the value at least, and lowers none. -/
theorem nvStatsSetMax_spec (henabled : drv.statsEnabled = true) (k : NVStatCounter) (v : UInt64) :
    SameImages drv (drv.nvStatsSetMax k v) ∧ v ≤ (drv.nvStatsSetMax k v).stats k ∧
      drv.stats k ≤ (drv.nvStatsSetMax k v).stats k ∧
      ∀ c, c ≠ k → (drv.nvStatsSetMax k v).stats c = drv.stats c := by
  unfold nvStatsSetMax
  rw [henabled]
  simp only [Bool.not_true, Bool.false_eq_true, if_false]
  split
  · rename_i hless
    refine ⟨⟨rfl, rfl, rfl⟩, ?_, ?_, fun c hc => ?_⟩
    · show v ≤ Function.update drv.stats k v k
      rw [Function.update_self]
      exact UInt64.le_refl v
    · show drv.stats k ≤ Function.update drv.stats k v k
      rw [Function.update_self]
      exact UInt64.le_of_lt hless
    · exact Function.update_of_ne hc _ _
  · rename_i hless
    exact ⟨.refl drv, UInt64.not_lt.mp hless, UInt64.le_refl _, fun _ _ => rfl⟩

theorem nvStatsSet_spec (henabled : drv.statsEnabled = true) (k : NVStatCounter) (v : UInt64) :
    SameImages drv (drv.nvStatsSet k v) ∧
      ∀ c, c ≠ k → (drv.nvStatsSet k v).stats c = drv.stats c := by
  unfold nvStatsSet
  rw [henabled]
  exact ⟨⟨rfl, rfl, rfl⟩, fun c hc => Function.update_of_ne hc _ _⟩

/-- The counters that `nvStatsUpdateMemoryEstimates` writes. -/
def estimates : List NVStatCounter :=
  [.ownedGpuBytes, .ownedGpuBytesPeak, .trackedGpuBytes, .trackedGpuBytesPeak, .trackedHostBytes,
    .trackedHostBytesPeak]

/-- A value and its maximum, as the estimates are kept. -/
theorem setBoth_spec (henabled : drv.statsEnabled = true) (k peak : NVStatCounter) (v : UInt64) :
    SameImages drv ((drv.nvStatsSet k v).nvStatsSetMax peak v) ∧
      ∀ c, c ≠ k → c ≠ peak → ((drv.nvStatsSet k v).nvStatsSetMax peak v).stats c =
        drv.stats c := by
  obtain ⟨hset, hsetOther⟩ := nvStatsSet_spec henabled k v
  obtain ⟨hmax, -, -, hmaxOther⟩ := nvStatsSetMax_spec (hset.statsEnabled.trans henabled) peak v
  exact ⟨hset.trans hmax, fun c hk hpeak => (hmaxOther c hpeak).trans (hsetOther c hk)⟩

theorem nvStatsUpdateMemoryEstimates_spec (henabled : drv.statsEnabled = true) :
    SameImages drv drv.nvStatsUpdateMemoryEstimates ∧
      ∀ c, c ∉ estimates → drv.nvStatsUpdateMemoryEstimates.stats c = drv.stats c := by
  unfold nvStatsUpdateMemoryEstimates
  rw [henabled]
  simp only [Bool.not_true, Bool.false_eq_true, if_false]
  obtain ⟨howned, hownedOther⟩ := setBoth_spec henabled .ownedGpuBytes .ownedGpuBytesPeak
    (drv.stats .uniqueOwnedBackingBytes + drv.stats .videoprocGpuScratchBytes +
      drv.stats .securityClearScratchBytes)
  obtain ⟨hgpu, hgpuOther⟩ := setBoth_spec (howned.statsEnabled.trans henabled) .trackedGpuBytes
    .trackedGpuBytesPeak (drv.stats .activeBackingBytes + drv.stats .detachedBackingBytes +
      drv.stats .videoprocGpuScratchBytes)
  obtain ⟨hhost, hhostOther⟩ := setBoth_spec
    (hgpu.statsEnabled.trans (howned.statsEnabled.trans henabled)) .trackedHostBytes
    .trackedHostBytesPeak (drv.stats .videoprocCpuScratchBytes +
      drv.stats .bufferLiveCapacityBytes + drv.stats .bufferPoolRetainedBytes +
      drv.stats .contextHostBufferBytes + drv.stats .securityClearHostBytes)
  refine ⟨(howned.trans hgpu).trans hhost, fun c hc => ?_⟩
  simp only [estimates, List.mem_cons, List.not_mem_nil, or_false, not_or] at hc
  obtain ⟨h1, h2, h3, h4, h5, h6⟩ := hc
  exact ((hhostOther c h5 h6).trans (hgpuOther c h3 h4)).trans (hownedOther c h1 h2)

end NVDriver

/-! ## What a notification does -/

namespace NVDriver

variable {drv : NVDriver}

/-- The tracked images, as the images themselves remember it. -/
def tracked (drv : NVDriver) : TrackedImages := fun ptr =>
  if (drv.images ptr).statsTracked then
    some ⟨(drv.images ptr).statsBytes, (drv.images ptr).statsActive,
      (drv.images ptr).statsBorrowed, (drv.images ptr).statsExternal⟩
  else none

/-- The value that is compared with a high-water mark. -/
def markedValue (drv : NVDriver) : NVStatCounter → UInt64
  | .activeBackingBytesPeak => drv.stats .activeBackingBytes
  | .detachedBackingBytesPeak => drv.stats .detachedBackingBytes
  | .totalBackingBytesPeak => drv.stats .activeBackingBytes + drv.stats .detachedBackingBytes
  | .uniqueOwnedBackingBytesPeak => drv.stats .uniqueOwnedBackingBytes
  | _ => 0

theorem markedValue_congr {drv' : NVDriver}
    (hstats : ∀ c ∈ currentTotals, drv'.stats c = drv.stats c) (mark : NVStatCounter) :
    drv'.markedValue mark = drv.markedValue mark := by
  cases mark <;> first
    | rfl
    | exact hstats _ (by decide)
    | exact congrArg₂ (· + ·) (hstats .activeBackingBytes (by decide))
        (hstats .detachedBackingBytes (by decide))

theorem SameImages.tracked {drv' : NVDriver} (h : SameImages drv drv') :
    drv'.tracked = drv.tracked := by
  unfold NVDriver.tracked
  rw [h.images]

/-- `updateBackingPeaks` leaves the totals, and raises the marks of three of them. -/
theorem updateBackingPeaks_spec (henabled : drv.statsEnabled = true) :
    SameImages drv drv.updateBackingPeaks ∧
      (∀ c ∈ currentTotals, drv.updateBackingPeaks.stats c = drv.stats c) ∧
      (∀ mark ∈ highWaterMarks, drv.stats mark ≤ drv.updateBackingPeaks.stats mark) ∧
      (∀ mark ∈ highWaterMarks, mark ≠ .uniqueOwnedBackingBytesPeak →
        drv.markedValue mark ≤ drv.updateBackingPeaks.stats mark) := by
  obtain ⟨hactive, hactiveMark, hactiveUp, hactiveOther⟩ :=
    nvStatsSetMax_spec henabled .activeBackingBytesPeak (drv.stats .activeBackingBytes)
  obtain ⟨hdetached, hdetachedMark, hdetachedUp, hdetachedOther⟩ :=
    nvStatsSetMax_spec (hactive.statsEnabled.trans henabled) .detachedBackingBytesPeak
      (drv.stats .detachedBackingBytes)
  obtain ⟨htotal, htotalMark, htotalUp, htotalOther⟩ :=
    nvStatsSetMax_spec ((hactive.trans hdetached).statsEnabled.trans henabled)
      .totalBackingBytesPeak (drv.stats .activeBackingBytes + drv.stats .detachedBackingBytes)
  obtain ⟨hestimates, hestimatesOther⟩ := nvStatsUpdateMemoryEstimates_spec
    (((hactive.trans hdetached).trans htotal).statsEnabled.trans henabled)
  have hmark : ∀ mark ∈ highWaterMarks, mark ∉ estimates := by decide
  -- the later maxima are of other marks
  have hactiveLast : drv.updateBackingPeaks.stats .activeBackingBytesPeak =
      (drv.nvStatsSetMax .activeBackingBytesPeak (drv.stats .activeBackingBytes)).stats
        .activeBackingBytesPeak :=
    ((hestimatesOther .activeBackingBytesPeak (by decide)).trans
      (htotalOther .activeBackingBytesPeak (by decide))).trans
        (hdetachedOther .activeBackingBytesPeak (by decide))
  have hdetachedLast : drv.updateBackingPeaks.stats .detachedBackingBytesPeak =
      ((drv.nvStatsSetMax .activeBackingBytesPeak (drv.stats .activeBackingBytes)).nvStatsSetMax
        .detachedBackingBytesPeak (drv.stats .detachedBackingBytes)).stats
          .detachedBackingBytesPeak :=
    (hestimatesOther .detachedBackingBytesPeak (by decide)).trans
      (htotalOther .detachedBackingBytesPeak (by decide))
  have htotalLast : drv.updateBackingPeaks.stats .totalBackingBytesPeak = _ :=
    hestimatesOther .totalBackingBytesPeak (by decide)
  rw [hactiveOther .detachedBackingBytesPeak (by decide)] at hdetachedUp
  rw [hdetachedOther .totalBackingBytesPeak (by decide),
    hactiveOther .totalBackingBytesPeak (by decide)] at htotalUp
  refine ⟨((hactive.trans hdetached).trans htotal).trans hestimates, ?_, ?_, ?_⟩
  · intro c hc
    have hestimate : c ∉ estimates := by revert c; decide
    have hmarks : c ∉ highWaterMarks := by revert c; decide
    simp only [highWaterMarks, List.mem_cons, List.not_mem_nil, or_false, not_or] at hmarks
    exact (((hestimatesOther c hestimate).trans (htotalOther c hmarks.2.2.1)).trans
      (hdetachedOther c hmarks.2.1)).trans (hactiveOther c hmarks.1)
  · intro mark hmem
    simp only [highWaterMarks, List.mem_cons, List.not_mem_nil, or_false] at hmem
    rcases hmem with rfl | rfl | rfl | rfl
    · rw [hactiveLast]
      exact hactiveUp
    · rw [hdetachedLast]
      exact hdetachedUp
    · rw [htotalLast]
      exact htotalUp
    · have hsame := (((hestimatesOther .uniqueOwnedBackingBytesPeak (by decide)).trans
        (htotalOther .uniqueOwnedBackingBytesPeak (by decide))).trans
          (hdetachedOther .uniqueOwnedBackingBytesPeak (by decide))).trans
            (hactiveOther .uniqueOwnedBackingBytesPeak (by decide))
      exact UInt64.le_of_eq hsame.symm
  · intro mark hmem howned
    simp only [highWaterMarks, List.mem_cons, List.not_mem_nil, or_false] at hmem
    rcases hmem with rfl | rfl | rfl | rfl
    · rw [hactiveLast]
      exact hactiveMark
    · rw [hdetachedLast]
      exact hdetachedMark
    · rw [htotalLast]
      exact htotalMark
    · exact absurd rfl howned

end NVDriver

namespace NVDriver

variable {drv : NVDriver}

/-- To add nothing, and to subtract nothing. -/
theorem nvStatsAdd_zero (drv : NVDriver) (k : NVStatCounter) : drv.nvStatsAdd k 0 = drv := by
  simp [nvStatsAdd]

theorem fetchSub_zero (drv : NVDriver) (k : NVStatCounter) : drv.fetchSub k 0 = drv := by
  simp [fetchSub, setCounter]

theorem ite_nvStatsAdd (drv : NVDriver) (k : NVStatCounter) (flag : Bool) :
    (if flag then drv.nvStatsAdd k 1 else drv) = drv.nvStatsAdd k (if flag then 1 else 0) := by
  cases flag
  · exact (nvStatsAdd_zero drv k).symm
  · rfl

theorem ite_fetchSub (drv : NVDriver) (k : NVStatCounter) (flag : Bool) :
    (if flag then drv.fetchSub k 1 else drv) = drv.fetchSub k (if flag then 1 else 0) := by
  cases flag
  · exact (fetchSub_zero drv k).symm
  · rfl

theorem nvStatsSubtract_eq (henabled : drv.statsEnabled = true) (k : NVStatCounter)
    (v : UInt64) : drv.nvStatsSubtract k v = drv.fetchSub k v := by
  unfold nvStatsSubtract
  by_cases hzero : v = 0
  · rw [hzero, fetchSub_zero]
    simp
  · simp [henabled, hzero]

theorem fetchSub_underflowed (drv : NVDriver) (k : NVStatCounter) (v : UInt64) :
    (drv.fetchSub k v).underflowed = (drv.underflowed || decide (drv.stats k < v)) := rfl

theorem tracked_setImage (drv : NVDriver) (ptr : ImagePtr) (img : ImageStats) :
    (drv.setImage ptr img).tracked = Function.update drv.tracked ptr
      (if img.statsTracked then
        some ⟨img.statsBytes, img.statsActive, img.statsBorrowed, img.statsExternal⟩
      else none) := by
  ext1 other
  unfold tracked
  rw [setImage_images]
  rcases eq_or_ne other ptr with rfl | hother
  · rw [Function.update_self, Function.update_self]
  · rw [Function.update_of_ne hother, Function.update_of_ne hother]

end NVDriver

/-- A notification replaces what is tracked of one image. -/
structure Replaced (drv drv' : NVDriver) (ptr : ImagePtr) (next : Option TrackedImage) :
    Prop where
  statsEnabled : drv'.statsEnabled = drv.statsEnabled
  tracked : drv'.tracked = Function.update drv.tracked ptr next
  totals : ∀ c ∈ currentTotals,
    drv'.stats c + UInt64.ofNat ((drv.tracked ptr).elim 0 (weight c)) =
      drv.stats c + UInt64.ofNat (next.elim 0 (weight c))
  marks : ∀ mark ∈ highWaterMarks, drv.stats mark ≤ drv'.stats mark
  raised : ∀ mark ∈ highWaterMarks, drv'.markedValue mark ≤ drv'.stats mark ∨
    next.elim 0 (markWeight mark) ≤ (drv.tracked ptr).elim 0 (markWeight mark)
  noUnderflow : (∀ c ∈ currentTotals,
    (drv.tracked ptr).elim 0 (weight c) ≤ (drv.stats c).toNat) →
      drv'.underflowed = drv.underflowed

/-- An image is counted. -/
theorem nvStatsBackingImageCreated_spec {drv : NVDriver} {ptr : ImagePtr}
    (henabled : drv.statsEnabled = true) (hptr : ptr ≠ 0) (hnew : drv.tracked ptr = none)
    (img : ImageFields) (active : Bool) :
    Replaced drv (nvStatsBackingImageCreated drv ptr img active) ptr
      (some (countedAs img active)) := by
  have htracked : (drv.images ptr).statsTracked = false := by
    unfold NVDriver.tracked at hnew
    split at hnew
    · cases hnew
    · rename_i huntracked
      simpa using huntracked
  unfold nvStatsBackingImageCreated
  simp only [henabled, htracked, decide_eq_false hptr, Bool.not_true, Bool.or_false,
    Bool.false_eq_true, if_false, NVDriver.ite_nvStatsAdd]
  generalize hbytes : backingImageStatsSize img = bytes
  generalize hborrowed : (img.borrowedCudaResources || decide (img.borrowedBackingImage ≠ 0)) =
    borrowed
  generalize hexternal : img.isExternalBuffer = isExternal
  have hcounted : countedAs img active = ⟨bytes, active, borrowed, isExternal⟩ := by
    rw [countedAs, hbytes, hborrowed, hexternal]
  obtain ⟨himage, hstats1⟩ := NVDriver.nvStatsAdd_spec henabled (imageCounter active) 1
  generalize drv.nvStatsAdd (imageCounter active) 1 = drv1 at *
  obtain ⟨hbyte, hstats2⟩ := NVDriver.nvStatsAdd_spec (himage.statsEnabled.trans henabled)
    (byteCounter active) bytes
  generalize drv1.nvStatsAdd (byteCounter active) bytes = drv2 at *
  have hsame2 := himage.trans hbyte
  have htracked3 := NVDriver.tracked_setImage drv2 ptr
    { statsBytes := bytes, statsTracked := true, statsActive := active,
      statsBorrowed := borrowed, statsExternal := isExternal }
  have hset := NVDriver.setImage_statsEnabled drv2 ptr
    { statsBytes := bytes, statsTracked := true, statsActive := active,
      statsBorrowed := borrowed, statsExternal := isExternal }
  have hstats3 := NVDriver.setImage_stats drv2 ptr
    { statsBytes := bytes, statsTracked := true, statsActive := active,
      statsBorrowed := borrowed, statsExternal := isExternal }
  have hunder3 := NVDriver.setImage_underflowed drv2 ptr
    { statsBytes := bytes, statsTracked := true, statsActive := active,
      statsBorrowed := borrowed, statsExternal := isExternal }
  generalize drv2.setImage ptr
    { statsBytes := bytes, statsTracked := true, statsActive := active,
      statsBorrowed := borrowed, statsExternal := isExternal } = drv3 at *
  have henabled3 := (hset.trans hsame2.statsEnabled).trans henabled
  obtain ⟨hkind, hstats4⟩ := NVDriver.nvStatsAdd_spec henabled3
    (kindCounter borrowed isExternal) bytes
  generalize drv3.nvStatsAdd (kindCounter borrowed isExternal) bytes = drv4 at *
  obtain ⟨hmax, hmaxValue, hmaxUp, hmaxOther⟩ := NVDriver.nvStatsSetMax_spec
    (hkind.statsEnabled.trans henabled3) .uniqueOwnedBackingBytesPeak
    (drv4.stats .uniqueOwnedBackingBytes)
  generalize drv4.nvStatsSetMax .uniqueOwnedBackingBytesPeak
    (drv4.stats .uniqueOwnedBackingBytes) = drv5 at *
  obtain ⟨hborrow, hstats6⟩ := NVDriver.nvStatsAdd_spec
    ((hkind.trans hmax).statsEnabled.trans henabled3) .borrowedBackingImages
    (if borrowed = true then 1 else 0)
  generalize drv5.nvStatsAdd .borrowedBackingImages (if borrowed = true then 1 else 0) = drv6 at *
  obtain ⟨hforeign, hstats7⟩ := NVDriver.nvStatsAdd_spec
    (((hkind.trans hmax).trans hborrow).statsEnabled.trans henabled3) .externalBackingImages
    (if isExternal = true then 1 else 0)
  generalize drv6.nvStatsAdd .externalBackingImages (if isExternal = true then 1 else 0) = drv7
    at *
  have hsame7 := ((hkind.trans hmax).trans hborrow).trans hforeign
  obtain ⟨hpeaks, hstats8, hpeaksUp, hpeaksValue⟩ :=
    NVDriver.updateBackingPeaks_spec (hsame7.statsEnabled.trans henabled3)
  -- every counter of the totals goes up by what the image counts for in it
  have htotals : ∀ c ∈ currentTotals, drv7.updateBackingPeaks.stats c =
      drv.stats c + UInt64.ofNat (weight c ⟨bytes, active, borrowed, isExternal⟩) := by
    intro c hc
    have hmark : c ≠ .uniqueOwnedBackingBytesPeak := by revert c; decide
    rw [hstats8 c hc, hstats7, hstats6, hmaxOther c hmark, hstats4, hstats3, hstats2, hstats1]
    simp only [currentTotals, List.mem_cons, List.not_mem_nil, or_false] at hc
    cases active <;> cases borrowed <;> cases isExternal <;>
      rcases hc with rfl | rfl | rfl | rfl | rfl | rfl | rfl | rfl | rfl <;>
      simp [weight, imageCounter, byteCounter, kindCounter]
  have hbefore : ∀ mark ∈ highWaterMarks, drv4.stats mark = drv.stats mark := by
    intro mark hmark
    rw [hstats4, hstats3, hstats2, hstats1]
    simp only [highWaterMarks, List.mem_cons, List.not_mem_nil, or_false] at hmark
    cases active <;> cases borrowed <;> cases isExternal <;>
      rcases hmark with rfl | rfl | rfl | rfl <;>
      simp [imageCounter, byteCounter, kindCounter]
  have hbehind : ∀ mark ∈ highWaterMarks, drv7.stats mark = drv5.stats mark := by
    intro mark hmark
    rw [hstats7, hstats6]
    simp only [highWaterMarks, List.mem_cons, List.not_mem_nil, or_false] at hmark
    rcases hmark with rfl | rfl | rfl | rfl <;> simp
  rw [hcounted]
  refine ⟨?_, ?_, ?_, ?_, ?_, fun _ => ?_⟩
  · exact hpeaks.statsEnabled.trans (hsame7.statsEnabled.trans (hset.trans hsame2.statsEnabled))
  · rw [hpeaks.tracked, hsame7.tracked, htracked3, hsame2.tracked]
    rfl
  · intro c hc
    rw [hnew, htotals c hc]
    exact UInt64.add_zero _
  · intro mark hmark
    refine UInt64.le_trans ?_ (hpeaksUp mark hmark)
    rw [hbehind mark hmark, ← hbefore mark hmark]
    rcases eq_or_ne mark .uniqueOwnedBackingBytesPeak with rfl | hother
    · exact hmaxUp
    · rw [hmaxOther mark hother]
      exact UInt64.le_refl _
  · intro mark hmark
    refine .inl ?_
    rw [NVDriver.markedValue_congr hstats8]
    rcases eq_or_ne mark .uniqueOwnedBackingBytesPeak with rfl | hother
    · have howned : drv7.stats .uniqueOwnedBackingBytes = drv4.stats .uniqueOwnedBackingBytes := by
        rw [hstats7, hstats6, hmaxOther .uniqueOwnedBackingBytes (by decide)]
        simp
      refine UInt64.le_trans ?_ (hpeaksUp _ hmark)
      show drv7.stats .uniqueOwnedBackingBytes ≤ _
      rw [howned, hbehind _ hmark]
      exact hmaxValue
    · exact hpeaksValue mark hmark hother
  · exact hpeaks.underflowed.trans
      (hsame7.underflowed.trans (hunder3.trans hsame2.underflowed))

/-- What an image remembers of how it is tracked. -/
theorem NVDriver.images_of_tracked {drv : NVDriver} {ptr : ImagePtr} {img : TrackedImage}
    (htracked : drv.tracked ptr = some img) :
    drv.images ptr = ⟨img.bytes, true, img.active, img.borrowed, img.isExternal⟩ := by
  unfold NVDriver.tracked at htracked
  split at htracked
  · rename_i hflag
    obtain rfl := Option.some.inj htracked
    rw [← hflag]
  · cases htracked

/-- A counter that holds at least a weight is not less than it. -/
theorem not_lt_of_weight {counter v : UInt64} (hle : v.toNat ≤ counter.toNat) :
    decide (counter < v) = false := by
  rw [decide_eq_false_iff_not, UInt64.lt_iff_toNat_lt]
  omega

/-- The images and the bytes of an active or a detached image are counted. -/
theorem weight_counters (img : TrackedImage) :
    weight (imageCounter img.active) img = 1 ∧
      weight (byteCounter img.active) img = img.bytes.toNat ∧
      imageCounter img.active ∈ currentTotals ∧ byteCounter img.active ∈ currentTotals := by
  cases hactive : img.active <;> simp [weight, imageCounter, byteCounter, currentTotals, hactive]

/-- An image moves from the active to the detached images, or back. -/
theorem nvStatsBackingImageSetActive_spec {drv : NVDriver} {ptr : ImagePtr}
    (henabled : drv.statsEnabled = true) (hptr : ptr ≠ 0) {img : TrackedImage}
    (htracked : drv.tracked ptr = some img) {active : Bool} (hmoves : img.active ≠ active) :
    Replaced drv (nvStatsBackingImageSetActive drv ptr active) ptr (some { img with active }) := by
  obtain ⟨himageWeight, hbyteWeight, himageMem, hbyteMem⟩ := weight_counters img
  unfold nvStatsBackingImageSetActive
  simp only [NVDriver.images_of_tracked htracked, henabled, decide_eq_false hptr, Bool.not_true,
    Bool.or_false, decide_eq_false hmoves, Bool.false_eq_true, if_false]
  have hstats1 := NVDriver.fetchSub_stats drv (imageCounter img.active) 1
  have henabled1 := NVDriver.fetchSub_statsEnabled drv (imageCounter img.active) 1
  have himages1 := NVDriver.fetchSub_images drv (imageCounter img.active) 1
  have hunder1 := NVDriver.fetchSub_underflowed drv (imageCounter img.active) 1
  generalize drv.fetchSub (imageCounter img.active) 1 = drv1 at *
  have hstats2 := NVDriver.fetchSub_stats drv1 (byteCounter img.active) img.bytes
  have henabled2 := NVDriver.fetchSub_statsEnabled drv1 (byteCounter img.active) img.bytes
  have himages2 := NVDriver.fetchSub_images drv1 (byteCounter img.active) img.bytes
  have hunder2 := NVDriver.fetchSub_underflowed drv1 (byteCounter img.active) img.bytes
  generalize drv1.fetchSub (byteCounter img.active) img.bytes = drv2 at *
  rw [henabled1] at henabled2
  obtain ⟨himage, hstats3⟩ := NVDriver.nvStatsAdd_spec (henabled2.trans henabled)
    (imageCounter active) 1
  generalize drv2.nvStatsAdd (imageCounter active) 1 = drv3 at *
  obtain ⟨hbyte, hstats4⟩ := NVDriver.nvStatsAdd_spec
    (himage.statsEnabled.trans (henabled2.trans henabled)) (byteCounter active) img.bytes
  generalize drv3.nvStatsAdd (byteCounter active) img.bytes = drv4 at *
  have hsame4 := himage.trans hbyte
  have htracked4 : drv4.tracked = drv.tracked := by
    unfold NVDriver.tracked
    rw [hsame4.images, himages2, himages1]
  have htracked5 := NVDriver.tracked_setImage drv4 ptr
    ⟨img.bytes, true, active, img.borrowed, img.isExternal⟩
  have hset := NVDriver.setImage_statsEnabled drv4 ptr
    ⟨img.bytes, true, active, img.borrowed, img.isExternal⟩
  have hstats5 := NVDriver.setImage_stats drv4 ptr
    ⟨img.bytes, true, active, img.borrowed, img.isExternal⟩
  have hunder5 := NVDriver.setImage_underflowed drv4 ptr
    ⟨img.bytes, true, active, img.borrowed, img.isExternal⟩
  generalize drv4.setImage ptr ⟨img.bytes, true, active, img.borrowed, img.isExternal⟩ = drv5
    at *
  have henabled5 := hset.trans (hsame4.statsEnabled.trans henabled2)
  obtain ⟨hpeaks, hstats6, hpeaksUp, hpeaksValue⟩ :=
    NVDriver.updateBackingPeaks_spec (henabled5.trans henabled)
  have hstats : ∀ c, drv5.stats c = drv.stats c - (if c = imageCounter img.active then 1 else 0) -
      (if c = byteCounter img.active then img.bytes else 0) +
      (if c = imageCounter active then 1 else 0) +
      (if c = byteCounter active then img.bytes else 0) := by
    intro c
    rw [hstats5, hstats4, hstats3, hstats2, hstats1]
  refine ⟨hpeaks.statsEnabled.trans henabled5, ?_, ?_, ?_, ?_, ?_⟩
  · rw [hpeaks.tracked, htracked5, htracked4]
    rfl
  · intro c hc
    rw [hstats6 c hc, hstats c, htracked]
    simp only [currentTotals, List.mem_cons, List.not_mem_nil, or_false] at hc
    obtain ⟨bytes, old, borrowed, isExternal⟩ := img
    cases old <;> cases active <;> first
      | exact absurd rfl hmoves
      | rcases hc with rfl | rfl | rfl | rfl | rfl | rfl | rfl | rfl | rfl <;>
          simp [weight, imageCounter, byteCounter]
  · intro mark hmark
    refine UInt64.le_trans ?_ (hpeaksUp mark hmark)
    have hkept : drv5.stats mark = drv.stats mark := by
      rw [hstats]
      simp only [highWaterMarks, List.mem_cons, List.not_mem_nil, or_false] at hmark
      cases img.active <;> cases active <;> rcases hmark with rfl | rfl | rfl | rfl <;>
        simp [imageCounter, byteCounter]
    exact UInt64.le_of_eq hkept.symm
  · intro mark hmark
    rcases eq_or_ne mark .uniqueOwnedBackingBytesPeak with rfl | hother
    · rw [htracked]
      exact .inr (Nat.le_refl _)
    · refine .inl ?_
      rw [NVDriver.markedValue_congr hstats6]
      exact hpeaksValue mark hmark hother
  · intro hfits
    have himageFits := hfits _ himageMem
    have hbyteFits := hfits _ hbyteMem
    rw [htracked, Option.elim_some] at himageFits hbyteFits
    have hbyteKept : drv1.stats (byteCounter img.active) = drv.stats (byteCounter img.active) := by
      rw [hstats1]
      cases img.active <;> simp [imageCounter, byteCounter]
    rw [hpeaks.underflowed, hunder5, hsame4.underflowed, hunder2, hunder1, hbyteKept,
      not_lt_of_weight (by rw [himageWeight] at himageFits; exact himageFits),
      not_lt_of_weight (by rw [hbyteWeight] at hbyteFits; exact hbyteFits), Bool.or_false,
      Bool.or_false]

/-- A write to an estimate does not change a total or a mark. -/
theorem not_mem_estimates {c : NVStatCounter} (hc : c ∈ currentTotals ∨ c ∈ highWaterMarks) :
    c ∉ NVDriver.estimates := by
  rcases hc with hc | hc <;> revert hc <;> cases c <;> decide

/-- An image is no longer tracked. -/
theorem nvStatsBackingImageDestroyed_spec {drv : NVDriver} {ptr : ImagePtr}
    (henabled : drv.statsEnabled = true) (hptr : ptr ≠ 0) {img : TrackedImage}
    (htracked : drv.tracked ptr = some img) :
    Replaced drv (nvStatsBackingImageDestroyed drv ptr) ptr none := by
  obtain ⟨himageWeight, hbyteWeight, himageMem, hbyteMem⟩ := weight_counters img
  unfold nvStatsBackingImageDestroyed
  simp only [NVDriver.images_of_tracked htracked, henabled, decide_eq_false hptr, Bool.not_true,
    Bool.or_false, Bool.false_eq_true, if_false, NVDriver.ite_fetchSub]
  rw [NVDriver.nvStatsSubtract_eq (by exact henabled)]
  generalize hborrowed : (if img.borrowed = true then (1 : UInt64) else 0) = borrowed
  generalize hexternal : (if img.isExternal = true then (1 : UInt64) else 0) = isExternal
  generalize hlast : ((((drv.fetchSub (imageCounter img.active) 1).fetchSub
    (byteCounter img.active) img.bytes).fetchSub .borrowedBackingImages borrowed).fetchSub
      .externalBackingImages isExternal).fetchSub (kindCounter img.borrowed img.isExternal)
        img.bytes = drv5
  have hstats : ∀ c, drv5.stats c = drv.stats c - (if c = imageCounter img.active then 1 else 0) -
      (if c = byteCounter img.active then img.bytes else 0) -
      (if c = .borrowedBackingImages then borrowed else 0) -
      (if c = .externalBackingImages then isExternal else 0) -
      (if c = kindCounter img.borrowed img.isExternal then img.bytes else 0) := by
    intro c
    rw [← hlast]
    simp only [NVDriver.fetchSub_stats]
  have hestimates : drv5.statsEnabled = drv.statsEnabled := by
    rw [← hlast]
    rfl
  have htracked5 : drv5.tracked = drv.tracked := by
    rw [← hlast]
    rfl
  obtain ⟨hsame, hother⟩ := @NVDriver.nvStatsUpdateMemoryEstimates_spec
    (drv5.setImage ptr ⟨0, false, img.active, false, false⟩) (hestimates.trans henabled)
  refine ⟨hsame.statsEnabled.trans hestimates, ?_, ?_, ?_, ?_, ?_⟩
  · rw [hsame.tracked, NVDriver.tracked_setImage, htracked5]
    rfl
  · intro c hc
    rw [hother c (not_mem_estimates (.inl hc)), NVDriver.setImage_stats, hstats c, htracked,
      ← hborrowed, ← hexternal]
    simp only [currentTotals, List.mem_cons, List.not_mem_nil, or_false] at hc
    obtain ⟨bytes, active, borrowed, isExternal⟩ := img
    cases active <;> cases borrowed <;> cases isExternal <;>
      rcases hc with rfl | rfl | rfl | rfl | rfl | rfl | rfl | rfl | rfl <;>
      simp [weight, imageCounter, byteCounter, kindCounter]
  · intro mark hmark
    rw [hother mark (not_mem_estimates (.inr hmark)), NVDriver.setImage_stats, hstats mark]
    simp only [highWaterMarks, List.mem_cons, List.not_mem_nil, or_false] at hmark
    apply UInt64.le_of_eq
    cases img.active <;> cases img.borrowed <;> cases img.isExternal <;>
      rcases hmark with rfl | rfl | rfl | rfl <;>
      simp [imageCounter, byteCounter, kindCounter]
  · exact fun mark _ => .inr (Nat.zero_le _)
  · intro hfits
    rw [htracked] at hfits
    have hfit : ∀ c ∈ currentTotals, ∀ v : UInt64, v.toNat = weight c img →
        decide (drv.stats c < v) = false := by
      intro c hc v hv
      exact not_lt_of_weight (hv ▸ hfits c hc)
    have himage := hfit _ himageMem 1 himageWeight.symm
    have hbyte := hfit _ hbyteMem img.bytes hbyteWeight.symm
    have hborrow := hfit .borrowedBackingImages (by decide) borrowed
      (by rw [← hborrowed, weight]; split <;> rfl)
    have hforeign := hfit .externalBackingImages (by decide) isExternal
      (by rw [← hexternal, weight]; split <;> rfl)
    have hkind := hfit (kindCounter img.borrowed img.isExternal)
      (by cases img.borrowed <;> cases img.isExternal <;> decide) img.bytes
      (by cases hb : img.borrowed <;> cases he : img.isExternal <;>
        simp [weight, kindCounter, hb, he])
    -- the five counters differ, so that each of them still has its value
    have hkindNe : kindCounter img.borrowed img.isExternal ∉ [imageCounter img.active,
        byteCounter img.active, .borrowedBackingImages, .externalBackingImages] := by
      cases img.active <;> cases img.borrowed <;> cases img.isExternal <;> decide
    have hforeignNe : .externalBackingImages ∉ [imageCounter img.active, byteCounter img.active,
        .borrowedBackingImages] := by
      cases img.active <;> decide
    have hborrowNe : .borrowedBackingImages ∉ [imageCounter img.active,
        byteCounter img.active] := by
      cases img.active <;> decide
    have hbyteNe : byteCounter img.active ≠ imageCounter img.active := by
      cases img.active <;> decide
    simp only [List.mem_cons, List.not_mem_nil, or_false, not_or] at hkindNe hforeignNe hborrowNe
    obtain ⟨hkind1, hkind2, hkind3, hkind4⟩ := hkindNe
    obtain ⟨hforeign1, hforeign2, hforeign3⟩ := hforeignNe
    obtain ⟨hborrow1, hborrow2⟩ := hborrowNe
    rw [hsame.underflowed, NVDriver.setImage_underflowed, ← hlast]
    simp only [NVDriver.fetchSub_underflowed, NVDriver.fetchSub_stats, if_neg hkind1,
      if_neg hkind2, if_neg hkind3, if_neg hkind4, if_neg hforeign1, if_neg hforeign2,
      if_neg hforeign3, if_neg hborrow1, if_neg hborrow2, if_neg hbyteNe, UInt64.sub_zero, himage,
      hbyte, hborrow, hforeign, hkind, Bool.or_false]

/-! ## The run -/

/-- Every counter is the sum over the tracked images, modulo `2 ^ 64`. -/
structure Tallied (drv : NVDriver) : Prop where
  null : drv.tracked 0 = none
  disabled : drv.statsEnabled = false → drv.tracked = fun _ => none
  totals : ∀ c ∈ currentTotals, drv.stats c = UInt64.ofNat (total (weight c) drv.tracked)

/-- A notification changes nothing, or replaces what is tracked of its image. -/
theorem notify_spec {drv : NVDriver} (h : Tallied drv) (notification : Notification) :
    (notify drv notification = drv ∧
      trackStep drv.statsEnabled drv.tracked notification = drv.tracked) ∨
    ∃ ptr next, ptr ≠ 0 ∧ drv.statsEnabled = true ∧
      Replaced drv (notify drv notification) ptr next ∧
      trackStep drv.statsEnabled drv.tracked notification =
        Function.update drv.tracked ptr next := by
  cases henabled : drv.statsEnabled with
  | false =>
      have hnone := h.disabled henabled
      refine .inl ⟨?_, ?_⟩
      · cases notification <;>
          simp [notify, nvStatsBackingImageCreated, nvStatsBackingImageSetActive,
            nvStatsBackingImageDestroyed, henabled]
      · rw [hnone]
        cases notification with
        | created ptr img active => simp [trackStep]
        | setActive ptr active => exact Function.update_eq_self ptr _
        | destroyed ptr => exact Function.update_eq_self ptr _
  | true =>
      have huntracked {ptr : ImagePtr} (hnone : drv.tracked ptr = none) :
          (drv.images ptr).statsTracked = false := by
        unfold NVDriver.tracked at hnone
        split at hnone
        · cases hnone
        · rename_i hflag
          simpa using hflag
      cases notification with
      | created ptr img active =>
          by_cases hcounted : ptr ≠ 0 ∧ drv.tracked ptr = none
          · exact .inr ⟨ptr, _, hcounted.1, rfl,
              nvStatsBackingImageCreated_spec henabled hcounted.1 hcounted.2 img active,
              if_pos ⟨rfl, hcounted⟩⟩
          · refine .inl ⟨?_, if_neg fun hall => hcounted hall.2⟩
            show nvStatsBackingImageCreated drv ptr img active = drv
            unfold nvStatsBackingImageCreated
            rw [if_pos]
            by_cases hnull : ptr = 0
            · simp [hnull]
            · cases htracked : drv.tracked ptr with
              | none => exact absurd ⟨hnull, htracked⟩ hcounted
              | some old => simp [NVDriver.images_of_tracked htracked]
      | setActive ptr active =>
          cases htracked : drv.tracked ptr with
          | none =>
              refine .inl ⟨?_, ?_⟩
              · unfold notify nvStatsBackingImageSetActive
                simp [huntracked htracked]
              · rw [trackStep, htracked, Option.map_none, ← htracked, Function.update_eq_self]
          | some img =>
              have hptr : ptr ≠ 0 := by
                rintro rfl
                rw [h.null] at htracked
                cases htracked
              by_cases hsame : img.active = active
              · refine .inl ⟨?_, ?_⟩
                · unfold notify nvStatsBackingImageSetActive
                  simp [NVDriver.images_of_tracked htracked, hsame]
                · rw [trackStep, htracked, Option.map_some, ← hsame, ← htracked,
                    Function.update_eq_self]
              · refine .inr ⟨ptr, some { img with active }, hptr, rfl,
                  nvStatsBackingImageSetActive_spec henabled hptr htracked hsame, ?_⟩
                rw [trackStep, htracked, Option.map_some]
      | destroyed ptr =>
          cases htracked : drv.tracked ptr with
          | none =>
              refine .inl ⟨?_, ?_⟩
              · unfold notify nvStatsBackingImageDestroyed
                simp [huntracked htracked]
              · rw [trackStep, ← htracked, Function.update_eq_self]
          | some img =>
              have hptr : ptr ≠ 0 := by
                rintro rfl
                rw [h.null] at htracked
                cases htracked
              exact .inr ⟨ptr, none, hptr, rfl,
                nvStatsBackingImageDestroyed_spec henabled hptr htracked, rfl⟩

/-- What is replaced keeps every counter the sum. -/
theorem Replaced.tallied {drv drv' : NVDriver} {ptr : ImagePtr} {next : Option TrackedImage}
    (h : Replaced drv drv' ptr next) (hptr : ptr ≠ 0) (henabled : drv.statsEnabled = true)
    (htallied : Tallied drv) : Tallied drv' where
  null := by
    rw [h.tracked, Function.update_of_ne hptr.symm]
    exact htallied.null
  disabled hdisabled := by
    rw [h.statsEnabled, henabled] at hdisabled
    cases hdisabled
  totals := by
    intro c hc
    have hupdate := congrArg UInt64.ofNat (total_update (weight c) drv.tracked ptr next)
    rw [UInt64.ofNat_add, UInt64.ofNat_add, ← htallied.totals c hc, ← h.totals c hc] at hupdate
    rw [h.tracked]
    exact (UInt64.add_left_inj _).mp hupdate.symm

/-- An image counts for one, or for its bytes at most. -/
theorem weight_le_one_or {c : NVStatCounter} (hc : c ∈ currentTotals) :
    (∀ img, weight c img ≤ 1) ∨ ∀ img : TrackedImage, weight c img ≤ img.bytes.toNat := by
  simp only [currentTotals, List.mem_cons, List.not_mem_nil, or_false] at hc
  rcases hc with rfl | rfl | rfl | rfl | rfl | rfl | rfl | rfl | rfl <;> simp only [weight]
  case inl | inr.inl | inr.inr.inl | inr.inr.inr.inl =>
    refine .inl fun img => ?_
    split <;> omega
  all_goals
    refine .inr fun img => ?_
    split <;> omega

/-- As long as the bytes fit, the sums are exact. -/
theorem Tallied.exact {drv : NVDriver} (h : Tallied drv)
    (hfits : trackedBytes drv.tracked < 2 ^ 64) {c : NVStatCounter} (hc : c ∈ currentTotals) :
    (drv.stats c).toNat = total (weight c) drv.tracked := by
  have hsmall : total (weight c) drv.tracked < 2 ^ 64 := by
    rcases weight_le_one_or hc with hone | hbytes
    · have hcard := total_lt_card hone h.null
      rw [← FinEnum.card_eq_fintypeCard, FinEnum.card_UInt64] at hcard
      exact hcard
    · exact Nat.lt_of_le_of_lt (total_mono hbytes drv.tracked) hfits
  rw [h.totals c hc, UInt64.toNat_ofNat']
  exact Nat.mod_eq_of_lt hsmall

/-- The value that is compared with a mark is its total. -/
theorem Tallied.markedValue {drv : NVDriver} (h : Tallied drv)
    (hfits : trackedBytes drv.tracked < 2 ^ 64) {mark : NVStatCounter}
    (hmark : mark ∈ highWaterMarks) :
    (drv.markedValue mark).toNat = total (markWeight mark) drv.tracked := by
  simp only [highWaterMarks, List.mem_cons, List.not_mem_nil, or_false] at hmark
  rcases hmark with rfl | rfl | rfl | rfl
  · exact h.exact hfits (by decide)
  · exact h.exact hfits (by decide)
  · have hboth : total (weight .activeBackingBytes) drv.tracked +
        total (weight .detachedBackingBytes) drv.tracked = trackedBytes drv.tracked := by
      rw [← total_add]
      unfold trackedBytes
      congr 1
      ext img
      cases hactive : img.active <;> simp [weight, hactive]
    show (drv.stats .activeBackingBytes + drv.stats .detachedBackingBytes).toNat =
      trackedBytes drv.tracked
    rw [UInt64.toNat_add, h.exact hfits (by decide), h.exact hfits (by decide), hboth]
    exact Nat.mod_eq_of_lt hfits
  · exact h.exact hfits (by decide)

/-- A mark that was high enough is high enough afterwards. -/
theorem Replaced.marked {drv drv' : NVDriver} {ptr : ImagePtr} {next : Option TrackedImage}
    (h : Replaced drv drv' ptr next) (htallied : Tallied drv')
    (hfits : trackedBytes drv'.tracked < 2 ^ 64) {mark : NVStatCounter}
    (hmark : mark ∈ highWaterMarks)
    (hmarked : total (markWeight mark) drv.tracked ≤ (drv.stats mark).toNat) :
    total (markWeight mark) drv'.tracked ≤ (drv'.stats mark).toNat := by
  rcases h.raised mark hmark with hvalue | hless
  · rw [← htallied.markedValue hfits hmark]
    exact UInt64.le_iff_toNat_le.mp hvalue
  · have hupdate := total_update (markWeight mark) drv.tracked ptr next
    have hup := UInt64.le_iff_toNat_le.mp (h.marks mark hmark)
    rw [h.tracked]
    omega

/-- What is subtracted was added before. -/
theorem Replaced.quiet {drv drv' : NVDriver} {ptr : ImagePtr} {next : Option TrackedImage}
    (h : Replaced drv drv' ptr next) (htallied : Tallied drv)
    (hfits : trackedBytes drv.tracked < 2 ^ 64) : drv'.underflowed = drv.underflowed := by
  apply h.noUnderflow
  intro c hc
  rw [htallied.exact hfits hc]
  cases htracked : drv.tracked ptr with
  | none => exact Nat.zero_le _
  | some img => exact weight_le (weight c) htracked

/-- The bytes of the images that are tracked at the same time fit 64 bits, after every one of the
notifications. -/
def BytesFit (statsEnabled : Bool) (notifications : List Notification) : Prop :=
  ∀ past, past <+: notifications → trackedBytes (trackAll statsEnabled past) < 2 ^ 64

/-- The driver after some notifications. -/
structure Follows (statsEnabled : Bool) (drv : NVDriver) (notifications : List Notification) :
    Prop where
  enabled : drv.statsEnabled = statsEnabled
  tracked : drv.tracked = trackAll statsEnabled notifications
  tallied : Tallied drv
  marks : BytesFit statsEnabled notifications → ∀ past, past <+: notifications →
    ∀ mark ∈ highWaterMarks,
      total (markWeight mark) (trackAll statsEnabled past) ≤ (drv.stats mark).toNat
  noUnderflow : BytesFit statsEnabled notifications → drv.underflowed = false

theorem Follows.start (statsEnabled : Bool) (other : NVStatCounter → UInt64) :
    Follows statsEnabled (startDriver statsEnabled other) [] where
  enabled := rfl
  tracked := rfl
  tallied :=
    { null := rfl
      disabled := fun _ => rfl
      totals := by
        intro c hc
        have hnothing : (startDriver statsEnabled other).tracked = fun _ => none := rfl
        rw [hnothing, total_none]
        simp only [currentTotals, List.mem_cons, List.not_mem_nil, or_false] at hc
        rcases hc with rfl | rfl | rfl | rfl | rfl | rfl | rfl | rfl | rfl <;> rfl }
  marks := by
    intro _ past hpast mark _
    obtain rfl := List.prefix_nil.mp hpast
    have hnothing : total (markWeight mark) (trackAll statsEnabled []) = 0 := total_none _
    omega
  noUnderflow _ := rfl

/-- One more notification. -/
theorem Follows.notify {statsEnabled : Bool} {drv : NVDriver} {notifications : List Notification}
    (h : Follows statsEnabled drv notifications) (notification : Notification) :
    Follows statsEnabled (notify drv notification) (notifications ++ [notification]) := by
  have htrack : trackAll statsEnabled (notifications ++ [notification]) =
      trackStep drv.statsEnabled drv.tracked notification := by
    rw [trackAll, List.foldl_append, h.enabled, h.tracked]
    rfl
  have hfewer (hfits : BytesFit statsEnabled (notifications ++ [notification])) :
      BytesFit statsEnabled notifications :=
    fun past hpast => hfits past (hpast.trans (List.prefix_append _ _))
  rcases notify_spec h.tallied notification with ⟨hsame, hkept⟩ | ⟨ptr, next, hptr, henabled,
    hreplaced, hstep⟩
  · rw [hsame]
    rw [hkept, h.tracked] at htrack
    refine ⟨h.enabled, h.tracked.trans htrack.symm, h.tallied, ?_,
      fun hfits => h.noUnderflow (hfewer hfits)⟩
    intro hfits past hpast mark hmark
    rcases List.prefix_concat_iff.mp hpast with rfl | hpast
    · rw [htrack]
      exact h.marks (hfewer hfits) notifications List.prefix_rfl mark hmark
    · exact h.marks (hfewer hfits) past hpast mark hmark
  · have htracked := hreplaced.tracked.trans (hstep.symm.trans htrack.symm)
    have htallied := hreplaced.tallied hptr henabled h.tallied
    refine ⟨hreplaced.statsEnabled.trans h.enabled, htracked, htallied, ?_, ?_⟩
    · intro hfits past hpast mark hmark
      have hold := h.marks (hfewer hfits)
      rcases List.prefix_concat_iff.mp hpast with rfl | hpast
      · rw [← htracked]
        refine hreplaced.marked htallied ?_ hmark ?_
        · rw [htracked]
          exact hfits _ List.prefix_rfl
        · rw [h.tracked]
          exact hold notifications List.prefix_rfl mark hmark
      · exact Nat.le_trans (hold past hpast mark hmark)
          (UInt64.le_iff_toNat_le.mp (hreplaced.marks mark hmark))
    · intro hfits
      have hbytes := hfewer hfits notifications List.prefix_rfl
      rw [← h.tracked] at hbytes
      exact (hreplaced.quiet h.tallied hbytes).trans (h.noUnderflow (hfewer hfits))

theorem notifyAll_follows (statsEnabled : Bool) (other : NVStatCounter → UInt64)
    (notifications : List Notification) :
    Follows statsEnabled (notifyAll (startDriver statsEnabled other) notifications)
      notifications := by
  induction notifications using List.reverseRecOn with
  | nil => exact .start statsEnabled other
  | append_singleton past notification ih =>
      have hnext := ih.notify notification
      rw [notifyAll, List.foldl_append]
      exact hnext

/-- The counters are sums modulo `2 ^ 64` after any notifications; as long as the bytes of the
tracked images fit, they are the sums, no mark is below a total that it has seen, and no counter
underflows. -/
theorem backingTotals (statsEnabled : Bool) (other : NVStatCounter → UInt64)
    (notifications : List Notification) :
    (∀ c ∈ currentTotals,
      ((notifyAll (startDriver statsEnabled other) notifications).stats c).toNat =
        total (weight c) (trackAll statsEnabled notifications) % 2 ^ 64) ∧
    (BytesFit statsEnabled notifications →
      Accounted statsEnabled (notifyAll (startDriver statsEnabled other) notifications)
        notifications) := by
  have h := notifyAll_follows statsEnabled other notifications
  constructor
  · intro c hc
    rw [h.tallied.totals c hc, UInt64.toNat_ofNat', h.tracked]
  · intro hfits
    refine ⟨fun c hc => ?_, h.marks hfits, h.noUnderflow hfits⟩
    have hbytes := hfits notifications List.prefix_rfl
    rw [← h.tracked] at hbytes ⊢
    exact h.tallied.exact hbytes hc

/-- Half of what a counter holds. -/
def largeImage : ImageFields where
  totalSize := 0x8000000000000000

/-- Two images of `2 ^ 63` bytes. -/
def largeImages : List Notification :=
  [.created 1 largeImage true, .created 2 largeImage true]

/-- The active bytes of the two images have no room in a counter. -/
theorem backingTotals_wrapped :
    ¬ ∀ (statsEnabled : Bool) (other : NVStatCounter → UInt64)
      (notifications : List Notification),
        Accounted statsEnabled (notifyAll (startDriver statsEnabled other) notifications)
          notifications := by
  intro hclaim
  have htotal := (hclaim true (fun _ => 0) largeImages).totals .activeBackingBytes (by decide)
  have hcounter : (notifyAll (startDriver true fun _ => 0) largeImages).stats
      .activeBackingBytes = 0 := by
    decide +kernel
  have hfirst : trackAll true (largeImages.take 1) =
      Function.update (fun _ => none) 1 (some (countedAs largeImage true)) := by
    rfl
  have habsent : trackAll true (largeImages.take 1) 2 = none := by
    rw [hfirst]
    decide +kernel
  have hsecond : trackAll true largeImages = Function.update (trackAll true (largeImages.take 1)) 2
      (some (countedAs largeImage true)) := by
    have hstep : trackAll true largeImages = trackStep true (trackAll true (largeImages.take 1))
        (.created 2 largeImage true) := rfl
    rw [hstep, trackStep, if_pos ⟨rfl, by decide +kernel, habsent⟩]
  have hweight : weight .activeBackingBytes (countedAs largeImage true) = 2 ^ 63 := by
    decide +kernel
  rw [hcounter, hsecond, total_insert _ habsent, hweight] at htotal
  have hzero : (0 : UInt64).toNat = 0 := rfl
  omega

/-! ## When the bytes fit -/

/-- The bytes that a notification may add. -/
def createdBytes : Notification → Nat
  | .created _ img _ => (backingImageStatsSize img).toNat
  | .setActive _ _ | .destroyed _ => 0

theorem trackedBytes_step (statsEnabled : Bool) (tracked : TrackedImages)
    (notification : Notification) :
    trackedBytes (trackStep statsEnabled tracked notification) ≤
      trackedBytes tracked + createdBytes notification := by
  cases notification with
  | created ptr img active =>
      rw [trackStep]
      split
      · rename_i hnew
        obtain ⟨-, -, habsent⟩ := hnew
        exact Nat.le_of_eq (total_insert _ habsent _)
      · exact Nat.le_add_right _ _
  | setActive ptr active =>
      have hupdate := total_update (fun img : TrackedImage => img.bytes.toNat) tracked ptr
        ((tracked ptr).map fun img => { img with active })
      have hsame : ((tracked ptr).map fun img => { img with active }).elim 0
          (fun img : TrackedImage => img.bytes.toNat) =
          (tracked ptr).elim 0 fun img => img.bytes.toNat := by
        cases tracked ptr <;> rfl
      rw [hsame] at hupdate
      have hkept := Nat.add_right_cancel hupdate
      show trackedBytes (Function.update tracked ptr _) ≤ trackedBytes tracked + 0
      unfold trackedBytes
      omega
  | destroyed ptr =>
      have hupdate := total_update (fun img : TrackedImage => img.bytes.toNat) tracked ptr none
      rw [Option.elim_none] at hupdate
      show trackedBytes (Function.update tracked ptr none) ≤ trackedBytes tracked + 0
      unfold trackedBytes
      omega

/-- No more bytes are tracked than were ever created. -/
theorem trackedBytes_le (statsEnabled : Bool) (notifications : List Notification) :
    trackedBytes (trackAll statsEnabled notifications) ≤
      (notifications.map createdBytes).sum := by
  induction notifications using List.reverseRecOn with
  | nil => exact Nat.le_of_eq (total_none _)
  | append_singleton past notification ih =>
      have hstep := trackedBytes_step statsEnabled (trackAll statsEnabled past) notification
      rw [trackAll, List.foldl_append, List.map_append, List.sum_append, List.map_singleton,
        List.sum_singleton]
      exact Nat.le_trans hstep (Nat.add_le_add_right ih _)

/-- If all images that are created fit, the tracked ones always do. -/
theorem bytesFit_of_created {statsEnabled : Bool} {notifications : List Notification}
    (hfits : (notifications.map createdBytes).sum < 2 ^ 64) :
    BytesFit statsEnabled notifications := by
  rintro past ⟨rest, rfl⟩
  rw [List.map_append, List.sum_append] at hfits
  have hpast := trackedBytes_le statsEnabled past
  omega

/-- An owner with a borrowed view of it and an imported image; the owner is created again. -/
example : BytesFit true
    [.created 1 { totalSize := 4096 } true,
      .created 2 { totalSize := 4096, borrowedBackingImage := 1 } true,
      .created 3 { totalSize := 8192, isExternalBuffer := true } true,
      .created 1 { totalSize := 4096 } true, .setActive 1 false, .destroyed 2] :=
  bytesFit_of_created (by decide)

end Stats
end NvidiaVaapi
