import Mathlib.Tactic.Positivity
import Mathlib.Tactic.Ring
import NvidiaVaapi.Conversion.Threads

/-!
# Samples of the conversion

Facts about the arithmetic of a pixel that hold for every matrix and format that the driver
selects: it fits in `int`, it does not depend on the depth of the samples, and grey stays grey.
-/

namespace NvidiaVaapi
namespace Conversion

open Ptx Request
open Surface (NVFormat)

/-! ## Depth -/

/-- The scale of the samples of a format over those of 8 bits. -/
def depthScale : NVFormat → Nat
  | .p010 => 2
  | .p012 => 4
  | _ => 0

/-- The parameters of a deeper format are those of 8 bits, scaled. -/
theorem videoProcSampleInfoForFormat_scaled (format : NVFormat) (fullRange : Bool) :
    let info := videoProcSampleInfoForFormat format fullRange
    let base := videoProcSampleInfoForFormat .nv12 fullRange
    info.yScale = base.yScale ∧ info.yOffset = 2 ^ depthScale format * base.yOffset ∧
      info.uvOffset = 2 ^ depthScale format * base.uvOffset ∧
      info.rounding = 2 ^ depthScale format * base.rounding ∧
      info.valueShift = base.valueShift + depthScale format := by
  cases format <;> cases fullRange <;> decide

/-- A scaled sum, shifted by as much more. -/
theorem shiftRight_scaled (n : Int) (shift scale : Nat) :
    (2 ^ scale * n) >>> (shift + scale) = n >>> shift := by
  rw [Int.shiftRight_eq_div_pow, Int.shiftRight_eq_div_pow, Nat.pow_add, Nat.mul_comm]
  push_cast
  exact Int.mul_ediv_mul_of_pos _ _ (by positivity)

theorem channelSums_scaled (matrix : ColorMatrix) {info base : VideoProcSampleInfo} {k : Int}
    (hk : 0 < k) (hyScale : info.yScale = base.yScale) (hyOffset : info.yOffset = k * base.yOffset)
    (huvOffset : info.uvOffset = k * base.uvOffset) (hrounding : info.rounding = k * base.rounding)
    (yy u v : Int) :
    channelSums matrix info (k * yy) (k * u) (k * v) =
      (channelSums matrix base yy u v).map (k * ·) := by
  have hc : (if k * yy > k * base.yOffset then k * yy - k * base.yOffset else 0) =
      k * (if yy > base.yOffset then yy - base.yOffset else 0) := by
    by_cases habove : yy > base.yOffset
    · rw [if_pos habove, if_pos (Int.mul_lt_mul_of_pos_left habove hk), Int.mul_sub]
    · rw [if_neg habove, if_neg (mt (Int.lt_of_mul_lt_mul_left · hk.le) habove), Int.mul_zero]
  unfold channelSums Triple.map
  rw [hyScale, hyOffset, huvOffset, hrounding, hc]
  simp only [Triple.mk.injEq]
  exact ⟨by ring, by ring, by ring⟩

/-- A pixel does not depend on the depth of its samples. -/
theorem convertPixel_scaled (matrix : ColorMatrix) (format : NVFormat) (fullRange : Bool)
    (yy u v : Int) :
    convertPixel matrix (videoProcSampleInfoForFormat format fullRange)
        (2 ^ depthScale format * yy) (2 ^ depthScale format * u) (2 ^ depthScale format * v) =
      convertPixel matrix (videoProcSampleInfoForFormat .nv12 fullRange) yy u v := by
  obtain ⟨hyScale, hyOffset, huvOffset, hrounding, hvalueShift⟩ :=
    videoProcSampleInfoForFormat_scaled format fullRange
  have hsums := channelSums_scaled matrix (by positivity) hyScale hyOffset huvOffset
    hrounding yy u v
  unfold convertPixel
  simp only
  rw [hsums, hvalueShift]
  unfold Triple.map
  rw [shiftRight_scaled, shiftRight_scaled, shiftRight_scaled]

/-- The image of 8 bits with its samples in the high bytes of samples of 16 bits. -/
def widened (img : SourceImage) (format : NVFormat) : SourceImage :=
  let plane (bytes : Plane) : Plane := fun y j => if j % 2 = 1 then bytes y (j / 2) else 0
  { img with format, luma := plane img.luma, chroma := plane img.chroma }

theorem sampleAt_widened (bytes : Nat → BitVec 8) {format : NVFormat}
    (hformat : format = .p010 ∨ format = .p012) (fullRange : Bool) (i : Nat) :
    sampleAt true (fun j => if j % 2 = 1 then bytes (j / 2) else 0) i >>>
        (videoProcSampleInfoForFormat format fullRange).sampleShift =
      2 ^ depthScale format * sampleAt false bytes i := by
  have hhigh : (2 * i + 1) % 2 = 1 := by omega
  have hlow : ¬(2 * i) % 2 = 1 := by omega
  have hhalf : (2 * i + 1) / 2 = i := by omega
  unfold sampleAt
  simp only [if_true, Bool.false_eq_true, if_false, if_pos hhigh, if_neg hlow, hhalf]
  have happend : (bytes i ++ (0 : BitVec 8)).toNat = (bytes i).toNat * 256 := by
    rw [BitVec.toNat_append, Nat.shiftLeft_eq]
    exact Nat.or_zero _
  rw [happend, Nat.shiftRight_eq_div_pow]
  rcases hformat with rfl | rfl
  · show (bytes i).toNat * 256 / 2 ^ 6 = 2 ^ 2 * (bytes i).toNat
    omega
  · show (bytes i).toNat * 256 / 2 ^ 4 = 2 ^ 4 * (bytes i).toNat
    omega

/-- A picture of 8 bits converts to the same bytes when it is given with 10 or 12 bits. -/
theorem pictureBytes_widened (source : SourceImage) (destination : Destination) (fourcc : Nat)
    (src : SurfaceColors) (pipeline : PipelineColors) (width height : BitVec 16)
    (h8Bit : source.format = .nv12) {format : NVFormat}
    (hformat : format = .p010 ∨ format = .p012) (y x : Nat) :
    pictureBytes (videoProcRequest (widened source format) destination fourcc src pipeline width
        height) y x =
      pictureBytes (videoProcRequest source destination fourcc src pipeline width height) y x := by
  obtain ⟨_, imageWidth, imageHeight, storage, luma, chroma⟩ := source
  cases h8Bit
  let source : SourceImage := ⟨.nv12, imageWidth, imageHeight, storage, luma, chroma⟩
  let fullRange := effectiveSurfaceColorRangeFull src pipeline
  have hdeep : (videoProcRequest (widened source format) destination fourcc src pipeline width
      height).source.is16Bit = true := decide_eq_true hformat
  have hsample : ∀ (plane : Plane) (row i : Nat),
      ((sampleAt true (fun j => if j % 2 = 1 then plane row (j / 2) else 0) i >>>
        (videoProcSampleInfoForFormat format fullRange).sampleShift : Nat) : Int) =
      2 ^ depthScale format * ((sampleAt false (plane row) i : Nat) : Int) := by
    intro plane row i
    rw [sampleAt_widened (plane row) hformat fullRange i]
    push_cast
    rfl
  have hpixel := convertPixel_scaled (colorMatrixForStandard (effectiveSurfaceColorStandard src
    pipeline) width.toNat fullRange) format fullRange (sampleAt false (luma y) x)
    (sampleAt false (chroma (y / 2)) (x - x % 2)) (sampleAt false (chroma (y / 2)) (x - x % 2 + 1))
  rw [← hsample, ← hsample, ← hsample] at hpixel
  unfold pictureBytes
  rw [hdeep]
  exact congrArg (writeRgbPixel fourcc) hpixel

/-- A bright line of 8 bits. -/
def brightSource : SourceImage where
  format := .nv12
  width := 2
  height := 1
  storage := .arrays
  luma _ j := if j = 0 then 180 else 200
  chroma _ j := if j = 0 then 90 else 160

theorem pictureBytes_widened_bright :
    pictureBytes (videoProcRequest (widened brightSource .p010) (.array 7) 0 {} {} 2 1) 0 1 =
      [138, 203, 255, 255] :=
  (pictureBytes_widened brightSource (.array 7) 0 {} {} 2 1 rfl (.inl rfl) 0 1).trans (by decide)

/-! ## Range -/

/-- No `int` of the loop overflows, whatever the buffers hold. -/
theorem cpuPixel_inInt32 (source : SourceImage) (destination : Destination) (fourcc : Nat)
    (src : SurfaceColors) (pipeline : PipelineColors) (width height : BitVec 16)
    (yPlane uvPlane : Nat → BitVec 8) (y x : Nat) :
    let request := videoProcRequest source destination fourcc src pipeline width height
    let uvIndex := y / 2 * request.width + (x - x % 2)
    ∀ n ∈ intermediates request.matrix request.sampleInfo
      (shiftedSample request yPlane (y * request.width + x))
      (shiftedSample request uvPlane uvIndex) (shiftedSample request uvPlane (uvIndex + 1)),
      InInt32 n := by
  intro request uvIndex
  have hselected : request.Selected := videoProcRequest_selected ..
  have hsample : ∀ (buffer : Nat → BitVec 8) (i : Nat),
      IsSample (shiftedSample request buffer i : Nat) := fun buffer i =>
    ⟨Int.natCast_nonneg _, Int.ofNat_lt.mpr (shiftedSample_lt request buffer i)⟩
  exact intermediates_inInt32 hselected.moderate (hsample _ _) (hsample _ _) (hsample _ _)

/-! ## Grey -/

/-- The channels of a pixel without chrominance. -/
def greyOf (info : VideoProcSampleInfo) (yy : Int) : BitVec 8 :=
  clampU8 ((info.yScale * max (yy - info.yOffset) 0 + info.rounding) >>> info.valueShift)

/-- The brightest luminance of a range. -/
def whiteLevel (format : NVFormat) (fullRange : Bool) : Int :=
  2 ^ depthScale format * if fullRange then 255 else 235

theorem clampU8_mono {m n : Int} (hmn : m ≤ n) : (clampU8 m).toNat ≤ (clampU8 n).toNat := by
  have hvalue : ∀ k : Int, (clampU8 k).toNat = (min (max k 0) 255).toNat := by
    intro k
    have hk := toInt_clampU8 k
    have hsmall : ((clampU8 k).setWidth 32).toInt = (clampU8 k).toNat := by
      rw [BitVec.toInt_eq_toNat_of_lt, BitVec.toNat_setWidth]
      · have hbyte := (clampU8 k).isLt
        omega
      · have hbyte := (clampU8 k).isLt
        rw [BitVec.toNat_setWidth]
        omega
    omega
  rw [hvalue, hvalue]
  omega

/-- Without chrominance a pixel is grey for every matrix: black and white are those of the range,
and a brighter sample is not darker. -/
theorem convertPixel_grey (matrix : ColorMatrix) (format : NVFormat) (fullRange : Bool) :
    let info := videoProcSampleInfoForFormat format fullRange
    (∀ yy, convertPixel matrix info yy info.uvOffset info.uvOffset =
      ⟨greyOf info yy, greyOf info yy, greyOf info yy⟩) ∧
      (∀ yy yy', yy ≤ yy' → (greyOf info yy).toNat ≤ (greyOf info yy').toNat) ∧
      greyOf info info.yOffset = 0 ∧ greyOf info (whiteLevel format fullRange) = 255 := by
  intro info
  refine ⟨fun yy => ?_, fun yy yy' hle => ?_, ?_, ?_⟩
  · unfold convertPixel channelSums greyOf
    simp only [offset_eq_max, Int.sub_self, Int.mul_zero, Int.add_zero, Int.sub_zero]
  · have hscale : 0 ≤ info.yScale := by
      cases format <;> cases fullRange <;> decide
    apply clampU8_mono
    rw [Int.shiftRight_eq_div_pow, Int.shiftRight_eq_div_pow]
    apply Int.ediv_le_ediv (by positivity)
    have hproduct : info.yScale * max (yy - info.yOffset) 0 ≤
        info.yScale * max (yy' - info.yOffset) 0 :=
      Int.mul_le_mul_of_nonneg_left (by omega) hscale
    omega
  · cases format <;> cases fullRange <;> decide
  · cases format <;> cases fullRange <;> decide

end Conversion
end NvidiaVaapi
