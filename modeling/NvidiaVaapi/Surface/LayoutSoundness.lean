import Mathlib.Order.CompletePartialOrder
import Mathlib.Order.Interval.Set.Disjoint
import NvidiaVaapi.Surface.Import

/-!
# Soundness of the unified layout

`calculate_unified_image_layout` computes in 32 and 64 bits.  `calculateUnifiedImageLayout64`
reduces every operation as the code's types do.  On every size that fits into 32 bits it is
`calculateUnifiedImageLayout`, whose numbers are exact, so nothing wraps; and a layout that it
answers places the planes behind each other, each of them large enough for its rows.
-/

namespace NvidiaVaapi
namespace Surface

/-! ## Rounding up -/

theorem dvd_roundUp (n s : Nat) : s ∣ roundUp n s :=
  Nat.dvd_mul_left s _

theorem le_roundUp (n : Nat) {s : Nat} (hs : 0 < s) : n ≤ roundUp n s := by
  have hmod := Nat.div_add_mod' (n + s - 1) s
  have hlt := Nat.mod_lt (n + s - 1) hs
  unfold roundUp
  omega

theorem roundUp_lt (n : Nat) {s : Nat} (hs : 0 < s) : roundUp n s < n + s := by
  have hle := Nat.div_mul_le_self (n + s - 1) s
  unfold roundUp
  omega

/-- It is the least multiple above. -/
theorem roundUp_le {n m s : Nat} (hs : 0 < s) (hm : s ∣ m) (hle : n ≤ m) : roundUp n s ≤ m := by
  obtain ⟨c, rfl⟩ := hm
  have hdiv : (n + s - 1) / s < c + 1 := by
    rw [Nat.div_lt_iff_lt_mul hs]
    have hmul : (c + 1) * s = s * c + s := by rw [Nat.succ_mul, Nat.mul_comm]
    omega
  calc roundUp n s ≤ c * s := Nat.mul_le_mul_right s (by omega)
    _ = s * c := Nat.mul_comm c s

theorem roundUp_eq_self {n s : Nat} (hs : 0 < s) (hn : s ∣ n) : roundUp n s = n :=
  Nat.le_antisymm (roundUp_le hs hn (Nat.le_refl n)) (le_roundUp n hs)

theorem roundUp_eq_iff {n s : Nat} (hs : 0 < s) : roundUp n s = n ↔ s ∣ n := by
  constructor
  · intro heq
    have hdvd := dvd_roundUp n s
    rwa [heq] at hdvd
  · exact roundUp_eq_self hs

/-! ## The code's arithmetic -/

/-- `ROUND_UP` on 64-bit numbers. -/
def roundUp64 (n s : Nat) : Nat :=
  mul64 (sub64 (add64 n s) 1 / s) s

/-- `nvPlaneExtent`, of 32 bits. -/
def nvPlaneExtent32 (value subsamplingShift : Nat) : Nat :=
  nvPlaneExtent value subsamplingShift % 2 ^ 32

/-- `calculate_log2_gobs_per_block_y`; one and a half times the height is taken in 64 bits. -/
def calculateLog2GobsPerBlockY64 (height : Nat) : Nat :=
  let log2GobsPerBlockY := capBlockHeight (add64 height (height / 2)) 4
  shrinkBlockHeight height log2GobsPerBlockY
    (gobHeightInBytes * 2 ^ (log2GobsPerBlockY - 1) % 2 ^ 32)

/-- A round of the last loop of `calculate_unified_image_layout`. -/
def layoutPlane64 (context : NVDriverContext) (width height bppc : Nat) (plane : NVFormatPlane)
    (log2GobsPerBlockY offset : Nat) : Option (NVDriverImage × Nat) :=
  let planeWidth := nvPlaneExtent32 width plane.ssX
  let planeHeight := nvPlaneExtent32 height plane.ssY
  let bytesPerPixel := plane.channelCount * bppc % 2 ^ 32
  let widthInBytes := roundUp64 (mul64 planeWidth bytesPerPixel) gobWidthInBytes
  let alignedHeight := roundUp64 planeHeight (gobHeightInBytes * 2 ^ log2GobsPerBlockY)
  if widthInBytes > int32Max ∨ alignedHeight > uint32Max ∨ offset > int32Max ∨
      mul64 widthInBytes alignedHeight > uint32Max then none
  else
    let image : NVDriverImage :=
      { width := planeWidth, height := planeHeight, mods := context.modifier log2GobsPerBlockY,
        memorySize := mul64 widthInBytes alignedHeight % 2 ^ 32, offset := offset % 2 ^ 32,
        pitch := widthInBytes % 2 ^ 32 }
    let next := roundUp64 (add64 offset image.memorySize) singleBufferPlaneAlignment
    if next > uint32Max then none else some (image, next)

/-- That loop. -/
def layoutPlanes64 (context : NVDriverContext) (width height bppc : Nat) :
    List (NVFormatPlane × Nat) → Nat → Option (List NVDriverImage × Nat)
  | [], offset => some ([], offset % 2 ^ 32)
  | (plane, log2GobsPerBlockY) :: rest, offset => do
    let (image, next) ← layoutPlane64 context width height bppc plane log2GobsPerBlockY offset
    let (images, totalSize) ← layoutPlanes64 context width height bppc rest next
    pure (image :: images, totalSize)

/-- The loop before it: the natural block heights. -/
def planeLog2Y64 (height : Nat) (plane : NVFormatPlane) : Nat :=
  calculateLog2GobsPerBlockY64 (nvPlaneExtent32 height plane.ssY)

/-- `calculate_unified_image_layout` on a list of planes, with its 32- and 64-bit numbers. -/
def calculateUnifiedImageLayout64 (context : NVDriverContext) (width height bppc : Nat)
    (planes : List NVFormatPlane) (unifyBlockHeight : Bool) : Option (List NVDriverImage × Nat) :=
  if width = 0 ∨ height = 0 ∨ bppc = 0 ∨ bppc > 2 ∨ planes.length = 0 ∨ planes.length > 3 ∨
      planes.any (fun plane =>
        plane.ssX > 1 || plane.ssY > 1 || plane.channelCount = 0 || plane.channelCount > 4) then
    none
  else
    layoutPlanes64 context width height bppc
      (planes.map fun plane =>
        (plane, if unifyBlockHeight then (planes.map (planeLog2Y64 height)).foldl max 0
          else planeLog2Y64 height plane)) 0

/-! ## Nothing wraps -/

theorem roundUp64_eq {n s : Nat} (hs : 0 < s) (hn : n + s < 2 ^ 64) :
    roundUp64 n s = roundUp n s := by
  have hlt := roundUp_lt n hs
  have hsub : sub64 (add64 n s) 1 = n + s - 1 := by
    unfold sub64 add64
    omega
  unfold roundUp64 mul64
  rw [hsub]
  exact Nat.mod_eq_of_lt (show roundUp n s < 2 ^ 64 by omega)

theorem nvPlaneExtent32_eq {value shift : Nat} (hvalue : value < 2 ^ 32) (hshift : shift ≤ 1) :
    nvPlaneExtent32 value shift = nvPlaneExtent value shift :=
  Nat.mod_eq_of_lt (Nat.lt_of_le_of_lt (nvPlaneExtent_le hshift).1 hvalue)

theorem capBlockHeight_le (heightAndOneHalf log2 : Nat) :
    capBlockHeight heightAndOneHalf log2 ≤ log2 := by
  induction log2 with
  | zero => exact Nat.le_refl 0
  | succ log2 ih =>
    unfold capBlockHeight
    split <;> omega

theorem shrinkBlockHeight_le (height log2 size : Nat) : shrinkBlockHeight height log2 size ≤ log2 := by
  induction log2 generalizing size with
  | zero => exact Nat.le_refl 0
  | succ log2 ih =>
    unfold shrinkBlockHeight
    have hih := ih (size / 2)
    split <;> omega

/-- A block has at most 16 gobs. -/
theorem calculateLog2GobsPerBlockY_le (height : Nat) : calculateLog2GobsPerBlockY height ≤ 4 :=
  Nat.le_trans (shrinkBlockHeight_le _ _ _) (capBlockHeight_le _ 4)

theorem planeLog2Y_le (height : Nat) (plane : NVFormatPlane) : planeLog2Y height plane ≤ 4 :=
  calculateLog2GobsPerBlockY_le _

theorem two_pow_log2_le {log2 : Nat} (hlog2 : log2 ≤ 4) : 2 ^ log2 ≤ 16 :=
  Nat.pow_le_pow_right (n := 2) (by omega) hlog2

theorem calculateLog2GobsPerBlockY64_eq {height : Nat} (hheight : height < 2 ^ 32) :
    calculateLog2GobsPerBlockY64 height = calculateLog2GobsPerBlockY height := by
  have hadd : add64 height (height / 2) = height + height / 2 := by
    unfold add64
    omega
  have hcap := capBlockHeight_le (height + height / 2) 4
  have hpow := two_pow_log2_le (Nat.le_trans (Nat.sub_le _ 1) hcap)
  unfold calculateLog2GobsPerBlockY64 calculateLog2GobsPerBlockY
  simp only [hadd]
  rw [Nat.mod_eq_of_lt]
  unfold gobHeightInBytes
  omega

theorem planeLog2Y64_eq {height : Nat} (hheight : height < 2 ^ 32) {plane : NVFormatPlane}
    (hplane : plane.ssY ≤ 1) : planeLog2Y64 height plane = planeLog2Y height plane := by
  unfold planeLog2Y64 planeLog2Y
  rw [nvPlaneExtent32_eq hheight hplane]
  exact calculateLog2GobsPerBlockY64_eq
    (Nat.lt_of_le_of_lt (nvPlaneExtent_le hplane).1 hheight)

/-- The largest block height is that of one of the planes, and no plane has a larger one. -/
theorem unifiedLog2Y_spec (height : Nat) {planes : List NVFormatPlane} (hplanes : planes ≠ []) :
    (∃ plane ∈ planes, planeLog2Y height plane = unifiedLog2Y height planes) ∧
      ∀ plane ∈ planes, planeLog2Y height plane ≤ unifiedLog2Y height planes := by
  have hmax (heights : List Nat) (start : Nat) :
      (heights.foldl max start = start ∨ heights.foldl max start ∈ heights) ∧
        start ≤ heights.foldl max start ∧ ∀ h ∈ heights, h ≤ heights.foldl max start := by
    induction heights generalizing start with
    | nil => simp
    | cons h rest ih =>
      obtain ⟨hattained, hstart, hrest⟩ := ih (max start h)
      refine ⟨?_, by simp only [List.foldl_cons]; omega, ?_⟩
      · rcases hattained with heq | hmem
        · simp only [List.foldl_cons, heq, List.mem_cons]
          omega
        · exact Or.inr (List.mem_cons_of_mem _ hmem)
      · intro h' hh'
        rcases List.mem_cons.mp hh' with rfl | hh'
        · simp only [List.foldl_cons]
          omega
        · exact hrest h' hh'
  obtain ⟨hattained, -, hle⟩ := hmax (planes.map (planeLog2Y height)) 0
  refine ⟨?_, fun plane hplane => hle _ (List.mem_map_of_mem hplane)⟩
  rcases hattained with hzero | hmem
  · obtain ⟨plane, hplane⟩ := List.exists_mem_of_ne_nil planes hplanes
    have hplaneLe := hle _ (List.mem_map_of_mem hplane)
    exact ⟨plane, hplane, by unfold unifiedLog2Y; omega⟩
  · obtain ⟨plane, hplane, heq⟩ := List.mem_map.mp hmem
    exact ⟨plane, hplane, heq⟩

/-- A plane that the first loop of the code lets pass. -/
def AllowedPlane (plane : NVFormatPlane) : Prop :=
  plane.ssX ≤ 1 ∧ plane.ssY ≤ 1 ∧ 0 < plane.channelCount ∧ plane.channelCount ≤ 4

section Machine

variable {context : NVDriverContext} {width height bppc : Nat}

theorem layoutPlane64_eq (hwidth : width < 2 ^ 32) (hheight : height < 2 ^ 32) (hbppc : bppc ≤ 2)
    {plane : NVFormatPlane} (hplane : AllowedPlane plane) {log2 : Nat} (hlog2 : log2 ≤ 4)
    (offset : Nat) :
    layoutPlane64 context width height bppc plane log2 offset =
      layoutPlane context width height bppc plane log2 offset := by
  obtain ⟨hssX, hssY, -, hchannels⟩ := hplane
  have hextentX : nvPlaneExtent width plane.ssX < 2 ^ 32 :=
    Nat.lt_of_le_of_lt (nvPlaneExtent_le hssX).1 hwidth
  have hextentY : nvPlaneExtent height plane.ssY < 2 ^ 32 :=
    Nat.lt_of_le_of_lt (nvPlaneExtent_le hssY).1 hheight
  have hpixel : plane.channelCount * bppc ≤ 4 * 2 := Nat.mul_le_mul hchannels hbppc
  have hrow : nvPlaneExtent width plane.ssX * (plane.channelCount * bppc) ≤ 2 ^ 32 * 8 :=
    Nat.mul_le_mul (Nat.le_of_lt hextentX) hpixel
  have hpow := two_pow_log2_le hlog2
  have hpowPos := Nat.two_pow_pos log2
  have hbytes : plane.channelCount * bppc % 2 ^ 32 = plane.channelCount * bppc :=
    Nat.mod_eq_of_lt (by omega)
  have hmul : mul64 (nvPlaneExtent width plane.ssX) (plane.channelCount * bppc) =
      nvPlaneExtent width plane.ssX * (plane.channelCount * bppc) :=
    Nat.mod_eq_of_lt (by omega)
  have hwidthInBytes := roundUp64_eq (n := nvPlaneExtent width plane.ssX *
    (plane.channelCount * bppc)) (s := gobWidthInBytes) (by decide) (by
      unfold gobWidthInBytes
      omega)
  have halignedHeight := roundUp64_eq (n := nvPlaneExtent height plane.ssY)
    (s := gobHeightInBytes * 2 ^ log2) (by unfold gobHeightInBytes; omega) (by
      unfold gobHeightInBytes
      omega)
  unfold layoutPlane64 layoutPlane
  simp only [nvPlaneExtent32_eq hwidth hssX, nvPlaneExtent32_eq hheight hssY, hbytes, hmul,
    hwidthInBytes, halignedHeight]
  generalize roundUp (nvPlaneExtent width plane.ssX * (plane.channelCount * bppc))
    gobWidthInBytes = widthInBytes
  generalize roundUp (nvPlaneExtent height plane.ssY) (gobHeightInBytes * 2 ^ log2) =
    alignedHeight
  by_cases hfactors : widthInBytes ≤ int32Max ∧ alignedHeight ≤ uint32Max ∧ offset ≤ int32Max
  · -- Both factors are bounded, so the product is exact.
    obtain ⟨hw, ha, ho⟩ := hfactors
    have hproduct : widthInBytes * alignedHeight ≤ int32Max * uint32Max := Nat.mul_le_mul hw ha
    have hexact : mul64 widthInBytes alignedHeight = widthInBytes * alignedHeight :=
      Nat.mod_eq_of_lt (Nat.lt_of_le_of_lt hproduct (by decide))
    rw [hexact]
    by_cases hsize : widthInBytes * alignedHeight > uint32Max
    · simp [hsize]
    · have hsize' : widthInBytes * alignedHeight < 2 ^ 32 := by
        unfold uint32Max at hsize
        omega
      have hw' : widthInBytes < 2 ^ 32 := by
        unfold int32Max at hw
        omega
      have ho' : offset < 2 ^ 32 := by
        unfold int32Max at ho
        omega
      have hadd : add64 offset (widthInBytes * alignedHeight) =
          offset + widthInBytes * alignedHeight := Nat.mod_eq_of_lt (by omega)
      have hnext := roundUp64_eq (n := offset + widthInBytes * alignedHeight)
        (s := singleBufferPlaneAlignment) (by decide) (by
          unfold singleBufferPlaneAlignment
          omega)
      simp only [Nat.mod_eq_of_lt hsize', Nat.mod_eq_of_lt hw', Nat.mod_eq_of_lt ho', hadd, hnext]
  · have hfail (product : Nat) : widthInBytes > int32Max ∨ alignedHeight > uint32Max ∨
        offset > int32Max ∨ product > uint32Max := by omega
    simp only [hfail, if_true]

theorem layoutPlane_next_le {plane : NVFormatPlane} {log2 offset next : Nat}
    {image : NVDriverImage}
    (h : layoutPlane context width height bppc plane log2 offset = some (image, next)) :
    next ≤ uint32Max := by
  unfold layoutPlane at h
  simp only [] at h
  split at h
  · cases h
  · split at h
    · cases h
    · rename_i hnext
      obtain ⟨-, rfl⟩ := Prod.mk.injEq .. ▸ Option.some.inj h
      omega

/-- The loop over the planes computes the exact numbers. -/
theorem layoutPlanes64_eq (hwidth : width < 2 ^ 32) (hheight : height < 2 ^ 32) (hbppc : bppc ≤ 2)
    {planned : List (NVFormatPlane × Nat)}
    (hplanned : ∀ p ∈ planned, AllowedPlane p.1 ∧ p.2 ≤ 4)
    {offset : Nat} (hoffset : offset ≤ uint32Max) :
    layoutPlanes64 context width height bppc planned offset =
      layoutPlanes context width height bppc planned offset := by
  induction planned generalizing offset with
  | nil =>
    have hlt : offset < 2 ^ 32 := by
      unfold uint32Max at hoffset
      omega
    simp only [layoutPlanes64, layoutPlanes, Nat.mod_eq_of_lt hlt]
  | cons p rest ih =>
    obtain ⟨plane, log2⟩ := p
    obtain ⟨hplane, hlog2⟩ := hplanned _ List.mem_cons_self
    unfold layoutPlanes64 layoutPlanes
    rw [layoutPlane64_eq hwidth hheight hbppc hplane hlog2 offset]
    cases hlayout : layoutPlane context width height bppc plane log2 offset with
    | none => rfl
    | some laid =>
      obtain ⟨image, next⟩ := laid
      have hnext := layoutPlane_next_le hlayout
      simp only [Option.bind_eq_bind, Option.bind_some]
      rw [ih (fun p hp => hplanned p (List.mem_cons_of_mem _ hp)) hnext]

/-- What the checks of the code say: at most three planes, and each of them allowed. -/
theorem unified_allowed {planes : List NVFormatPlane}
    (hchecked : ¬ (width = 0 ∨ height = 0 ∨ bppc = 0 ∨ bppc > 2 ∨ planes.length = 0 ∨
      planes.length > 3 ∨ planes.any (fun plane =>
        plane.ssX > 1 || plane.ssY > 1 || plane.channelCount = 0 || plane.channelCount > 4))) :
    bppc ≤ 2 ∧ planes ≠ [] ∧ ∀ plane ∈ planes, AllowedPlane plane := by
  simp only [not_or, List.any_eq_true, not_exists, not_and, Bool.or_eq_true,
    decide_eq_true_eq] at hchecked
  obtain ⟨-, -, -, hbppc, hlength, -, hplanes⟩ := hchecked
  refine ⟨by omega, fun hnil => hlength (by rw [hnil]; rfl), fun plane hplane => ?_⟩
  have hallowed := hplanes plane hplane
  unfold AllowedPlane
  omega

/-- The planes and the block heights that the last loop starts from. -/
def plannedPlanes (height : Nat) (planes : List NVFormatPlane) (unifyBlockHeight : Bool) :
    List (NVFormatPlane × Nat) :=
  planes.map fun plane =>
    (plane, if unifyBlockHeight then unifiedLog2Y height planes else planeLog2Y height plane)

theorem plannedPlanes_allowed {planes : List NVFormatPlane} (hne : planes ≠ [])
    (hplanes : ∀ plane ∈ planes, AllowedPlane plane) (unifyBlockHeight : Bool) :
    ∀ p ∈ plannedPlanes height planes unifyBlockHeight, AllowedPlane p.1 ∧ p.2 ≤ 4 := by
  intro p hp
  obtain ⟨plane, hplane, rfl⟩ := List.mem_map.mp hp
  refine ⟨hplanes plane hplane, ?_⟩
  obtain ⟨largest, -, heq⟩ := (unifiedLog2Y_spec height hne).1
  have hlargest := planeLog2Y_le height largest
  have hnatural := planeLog2Y_le height plane
  show (if unifyBlockHeight then unifiedLog2Y height planes else planeLog2Y height plane) ≤ 4
  split <;> omega

/-- On every size of 32 bits the code computes the exact layout, also where it answers that
there is none. -/
theorem unifiedLayout64_eq (hwidth : width < 2 ^ 32) (hheight : height < 2 ^ 32)
    (planes : List NVFormatPlane) (unifyBlockHeight : Bool) :
    calculateUnifiedImageLayout64 context width height bppc planes unifyBlockHeight =
      calculateUnifiedImageLayout context width height
        { bppc, numPlanes := planes.length, plane := planes } unifyBlockHeight := by
  unfold calculateUnifiedImageLayout64 calculateUnifiedImageLayout
  split
  · rfl
  · rename_i hchecked
    obtain ⟨hbppc, hne, hplanes⟩ := unified_allowed hchecked
    have hheights : planes.map (planeLog2Y64 height) = planes.map (planeLog2Y height) :=
      List.map_congr_left fun plane hplane => planeLog2Y64_eq hheight (hplanes plane hplane).2.1
    have hplanned : (planes.map fun plane =>
          (plane, if unifyBlockHeight then (planes.map (planeLog2Y64 height)).foldl max 0
            else planeLog2Y64 height plane)) =
        plannedPlanes height planes unifyBlockHeight := by
      rw [hheights]
      apply List.map_congr_left
      intro plane hplane
      rw [planeLog2Y64_eq hheight (hplanes plane hplane).2.1]
      rfl
    rw [hplanned]
    exact layoutPlanes64_eq hwidth hheight hbppc
      (plannedPlanes_allowed hne hplanes unifyBlockHeight) (Nat.zero_le _)

end Machine

/-! ## Where the planes are -/

/-- The bytes of a plane. -/
def NVDriverImage.bytes (image : NVDriverImage) : Set Nat :=
  Set.Ico image.offset (image.offset + image.memorySize)

/-- A plane as it should be laid out, in blocks of `2 ^ planned.2` gobs. -/
structure LaidOut (context : NVDriverContext) (width height bppc : Nat)
    (planned : NVFormatPlane × Nat) (image : NVDriverImage) : Prop where
  width_eq : image.width = nvPlaneExtent width planned.1.ssX
  height_eq : image.height = nvPlaneExtent height planned.1.ssY
  mods_eq : image.mods = context.modifier planned.2
  offset_aligned : singleBufferPlaneAlignment ∣ image.offset
  offset_le : image.offset ≤ int32Max
  pitch_aligned : gobWidthInBytes ∣ image.pitch
  row_le : image.width * (planned.1.channelCount * bppc) ≤ image.pitch
  memorySize_eq :
    image.memorySize = image.pitch * roundUp image.height (gobHeightInBytes * 2 ^ planned.2)
  covers : ∀ row < image.height,
    row * image.pitch + image.width * (planned.1.channelCount * bppc) ≤ image.memorySize

section Placement

variable {context : NVDriverContext} {width height bppc : Nat}

theorem layoutPlane_spec {planned : NVFormatPlane × Nat} {offset next : Nat}
    {image : NVDriverImage} (hoffset : singleBufferPlaneAlignment ∣ offset)
    (h : layoutPlane context width height bppc planned.1 planned.2 offset = some (image, next)) :
    LaidOut context width height bppc planned image ∧ image.offset = offset ∧
      offset + image.memorySize ≤ next ∧ singleBufferPlaneAlignment ∣ next ∧
      next ≤ uint32Max := by
  have hnextLe := layoutPlane_next_le h
  unfold layoutPlane at h
  simp only [] at h
  split at h
  · cases h
  · rename_i hbounds
    split at h
    · cases h
    · obtain ⟨rfl, rfl⟩ := Prod.mk.injEq .. ▸ Option.some.inj h
      have hrow : nvPlaneExtent width planned.1.ssX * (planned.1.channelCount * bppc) ≤
          roundUp (nvPlaneExtent width planned.1.ssX * (planned.1.channelCount * bppc))
            gobWidthInBytes := le_roundUp _ (by decide)
      have hblock : 0 < gobHeightInBytes * 2 ^ planned.2 :=
        Nat.mul_pos (by decide) (Nat.two_pow_pos _)
      have hlines := le_roundUp (nvPlaneExtent height planned.1.ssY) hblock
      refine ⟨⟨rfl, rfl, rfl, hoffset, by dsimp only; omega, dvd_roundUp _ _, hrow, rfl, ?_⟩,
        rfl, le_roundUp _ (by decide), dvd_roundUp _ _, hnextLe⟩
      intro row hrowLt
      dsimp only at hrowLt ⊢
      -- The row after this one still lies in the plane.
      calc row * _ + _ ≤ row * _ + _ := Nat.add_le_add_left hrow _
        _ = (row + 1) * _ := (Nat.succ_mul row _).symm
        _ ≤ _ := by
          rw [Nat.mul_comm]
          exact Nat.mul_le_mul_left _ (by omega)

/-- The loop places each plane behind the one before it. -/
theorem layoutPlanes_spec {planned : List (NVFormatPlane × Nat)} {offset totalSize : Nat}
    {images : List NVDriverImage} (hoffset : singleBufferPlaneAlignment ∣ offset)
    (hoffsetLe : offset ≤ uint32Max)
    (h : layoutPlanes context width height bppc planned offset = some (images, totalSize)) :
    List.Forall₂ (LaidOut context width height bppc) planned images ∧
      (∀ image ∈ images, offset ≤ image.offset ∧ image.offset + image.memorySize ≤ totalSize) ∧
      images.Pairwise (fun a b => a.offset + a.memorySize ≤ b.offset) ∧
      singleBufferPlaneAlignment ∣ totalSize ∧ offset ≤ totalSize ∧ totalSize ≤ uint32Max := by
  induction planned generalizing offset images with
  | nil =>
    obtain ⟨rfl, rfl⟩ := Prod.mk.injEq .. ▸ Option.some.inj h
    exact ⟨.nil, by simp, .nil, hoffset, Nat.le_refl _, hoffsetLe⟩
  | cons p rest ih =>
    unfold layoutPlanes at h
    simp only [Option.bind_eq_bind, Option.bind_eq_some_iff, Option.pure_def,
      Option.some.injEq, Prod.exists, Prod.mk.injEq] at h
    obtain ⟨image, next, hlayout, others, total, hrest, rfl, rfl⟩ := h
    obtain ⟨hlaid, hat, hbehind, hnext, hnextLe⟩ := layoutPlane_spec hoffset hlayout
    obtain ⟨hothers, hinside, hpairwise, htotal, hle, hmax⟩ := ih hnext hnextLe hrest
    refine ⟨.cons hlaid hothers, ?_, ?_, htotal, by omega, hmax⟩
    · intro other hother
      rcases List.mem_cons.mp hother with rfl | hother
      · omega
      · have hin := hinside other hother
        omega
    · refine List.pairwise_cons.mpr ⟨fun other hother => ?_, hpairwise⟩
      have hin := hinside other hother
      omega

/-- The sums and products that the code forms for a plane fit into their types: the bytes of a
pixel and the size into 32 bits, what is rounded up into 64. -/
structure Unwrapped (bppc : Nat) (planned : NVFormatPlane × Nat) (image : NVDriverImage) : Prop where
  bytesPerPixel : planned.1.channelCount * bppc < 2 ^ 32
  widthInBytes : image.width * (planned.1.channelCount * bppc) + gobWidthInBytes < 2 ^ 64
  alignedHeight : image.height + gobHeightInBytes * 2 ^ planned.2 < 2 ^ 64
  memorySize : image.pitch * roundUp image.height (gobHeightInBytes * 2 ^ planned.2) < 2 ^ 32
  next : image.offset + image.memorySize + singleBufferPlaneAlignment < 2 ^ 64

theorem LaidOut.unwrapped {planned : NVFormatPlane × Nat} {image : NVDriverImage}
    (hlaid : LaidOut context width height bppc planned image)
    (hwidth : width < 2 ^ 32) (hheight : height < 2 ^ 32) (hbppc : bppc ≤ 2)
    (hallowed : AllowedPlane planned.1 ∧ planned.2 ≤ 4)
    (hend : image.offset + image.memorySize ≤ uint32Max) : Unwrapped bppc planned image := by
  obtain ⟨⟨hssX, hssY, -, hchannels⟩, hlog2⟩ := hallowed
  have hpixel : planned.1.channelCount * bppc ≤ 4 * 2 := Nat.mul_le_mul hchannels hbppc
  have himageWidth : image.width < 2 ^ 32 :=
    hlaid.width_eq ▸ Nat.lt_of_le_of_lt (nvPlaneExtent_le hssX).1 hwidth
  have himageHeight : image.height < 2 ^ 32 :=
    hlaid.height_eq ▸ Nat.lt_of_le_of_lt (nvPlaneExtent_le hssY).1 hheight
  have hrow : image.width * (planned.1.channelCount * bppc) ≤ 2 ^ 32 * 8 :=
    Nat.mul_le_mul (Nat.le_of_lt himageWidth) hpixel
  have hpow := two_pow_log2_le hlog2
  have hsize := hlaid.memorySize_eq
  refine ⟨by omega, ?_, ?_, ?_, ?_⟩
  · unfold gobWidthInBytes
    omega
  · unfold gobHeightInBytes
    omega
  · unfold uint32Max at hend
    omega
  · unfold uint32Max at hend
    unfold singleBufferPlaneAlignment
    omega

/-- A sound layout of the planes of a surface. -/
structure SoundLayout (context : NVDriverContext) (width height bppc : Nat)
    (planes : List NVFormatPlane) (unifyBlockHeight : Bool) (images : List NVDriverImage)
    (totalSize : Nat) : Prop where
  laidOut :
    List.Forall₂ (LaidOut context width height bppc) (plannedPlanes height planes unifyBlockHeight)
      images
  unwrapped : List.Forall₂ (Unwrapped bppc) (plannedPlanes height planes unifyBlockHeight) images
  disjoint : images.Pairwise fun a b => Disjoint a.bytes b.bytes
  inside : ∀ image ∈ images, image.bytes ⊆ Set.Ico 0 totalSize
  total_le : totalSize ≤ uint32Max
  /-- With one modifier, there is one block height: the largest of the natural ones. -/
  unified : unifyBlockHeight = true → ∃ log2,
    (∃ plane ∈ planes, planeLog2Y height plane = log2) ∧
    (∀ plane ∈ planes, planeLog2Y height plane ≤ log2) ∧
    (∀ planned ∈ plannedPlanes height planes unifyBlockHeight, planned.2 = log2) ∧
    ∀ image ∈ images, image.mods = context.modifier log2

theorem layoutPlanes_sound {planes : List NVFormatPlane} {unifyBlockHeight : Bool}
    {images : List NVDriverImage} {totalSize : Nat}
    (hwidth : width < 2 ^ 32) (hheight : height < 2 ^ 32) (hbppc : bppc ≤ 2) (hne : planes ≠ [])
    (hplanes : ∀ plane ∈ planes, AllowedPlane plane)
    (h : layoutPlanes context width height bppc (plannedPlanes height planes unifyBlockHeight) 0 =
      some (images, totalSize)) :
    SoundLayout context width height bppc planes unifyBlockHeight images totalSize := by
  obtain ⟨hlaid, hinside, hpairwise, -, -, htotal⟩ :=
    layoutPlanes_spec (Nat.dvd_zero _) (Nat.zero_le _) h
  have hallowed : ∀ p ∈ plannedPlanes height planes unifyBlockHeight,
      AllowedPlane p.1 ∧ p.2 ≤ 4 := plannedPlanes_allowed hne hplanes unifyBlockHeight
  refine ⟨hlaid, ?_, ?_, ?_, htotal, ?_⟩
  · -- Each pair is allowed and ends inside the total size.
    have hmem := List.forall₂_iff_get.mp hlaid
    refine List.forall₂_iff_get.mpr ⟨hmem.1, fun i hi hi' => ?_⟩
    have hend := (hinside _ (List.get_mem images ⟨i, hi'⟩)).2
    exact (hmem.2 i hi hi').unwrapped hwidth hheight hbppc (hallowed _ (List.get_mem _ ⟨i, hi⟩))
      (by omega)
  · apply hpairwise.imp
    intro a b hab
    exact Set.Ico_disjoint_Ico.mpr (by
      show min _ _ ≤ max _ _
      omega)
  · intro image himage
    have hin := (hinside image himage).2
    exact Set.Ico_subset_Ico (Nat.zero_le _) hin
  · rintro rfl
    have hspec := unifiedLog2Y_spec height hne
    have hone : ∀ planned ∈ plannedPlanes height planes true,
        planned.2 = unifiedLog2Y height planes := by
      intro planned hplanned
      obtain ⟨plane, -, rfl⟩ := List.mem_map.mp hplanned
      rfl
    refine ⟨unifiedLog2Y height planes, hspec.1, hspec.2, hone, fun image himage => ?_⟩
    obtain ⟨i, rfl⟩ := List.mem_iff_get.mp himage
    have hmem := List.forall₂_iff_get.mp hlaid
    have hlength : i.1 < (plannedPlanes height planes true).length := by
      rw [hmem.1]
      exact i.2
    rw [(hmem.2 i.1 hlength i.2).mods_eq, hone _ (List.get_mem _ _)]

end Placement

/-- A layout that `calculate_unified_image_layout` answers for a size of 32 bits is sound, and
its numbers are those of the exact computation. -/
theorem calculateUnifiedImageLayout64_sound {context : NVDriverContext} {width height bppc : Nat}
    {planes : List NVFormatPlane} {unifyBlockHeight : Bool} {images : List NVDriverImage}
    {totalSize : Nat} (hwidth : width < 2 ^ 32) (hheight : height < 2 ^ 32)
    (h : calculateUnifiedImageLayout64 context width height bppc planes unifyBlockHeight =
      some (images, totalSize)) :
    SoundLayout context width height bppc planes unifyBlockHeight images totalSize ∧
      calculateUnifiedImageLayout context width height
        { bppc, numPlanes := planes.length, plane := planes } unifyBlockHeight =
        some (images, totalSize) := by
  have hexact : calculateUnifiedImageLayout64 context width height bppc planes unifyBlockHeight =
      calculateUnifiedImageLayout context width height
        { bppc, numPlanes := planes.length, plane := planes } unifyBlockHeight :=
    unifiedLayout64_eq hwidth hheight planes unifyBlockHeight
  rw [h] at hexact
  refine ⟨?_, hexact.symm⟩
  have hlayout := hexact.symm
  unfold calculateUnifiedImageLayout at hlayout
  split at hlayout
  · cases hlayout
  · rename_i hchecked
    obtain ⟨hbppc, hne, hplanes⟩ := unified_allowed hchecked
    exact layoutPlanes_sound hwidth hheight hbppc hne hplanes hlayout

/-- The two planes of a video of 168 by 96 pixels: its chroma plane alone would get smaller
blocks. -/
theorem calculateUnifiedImageLayout64_sound_nv12 :
    SoundLayout {} 168 96 1 (formatsInfo .nv12).plane true
      [{ width := 168, height := 96, mods := NVDriverContext.modifier {} 4, memorySize := 24576,
         offset := 0, pitch := 192 },
       { width := 84, height := 48, mods := NVDriverContext.modifier {} 4, memorySize := 24576,
         offset := 65536, pitch := 192 }] 131072 :=
  (calculateUnifiedImageLayout64_sound (by decide) (by decide) (by decide)).1

end Surface
end NvidiaVaapi
