import Mathlib.Algebra.Group.Nat.Defs
import Mathlib.Data.List.Basic
import Mathlib.Data.Nat.Basic
import Mathlib.Tactic.IntervalCases

/-!
# Formats of surfaces

The formats of `vabackend.h`, the table `formatsInfo` of `vabackend.c` with the codes of the
VA and the DRM headers, and the extents of subsampled planes of `common.h`.
-/

namespace NvidiaVaapi
namespace Surface

/-- `VA_FOURCC` and `fourcc_code`: four characters, the first in the lowest byte. -/
def fourcc (a b c d : Char) : Nat :=
  a.toNat + 256 * b.toNat + 65536 * c.toNat + 16777216 * d.toNat

def vaFourccNV12 : Nat := fourcc 'N' 'V' '1' '2'
def vaFourccP010 : Nat := fourcc 'P' '0' '1' '0'
def vaFourccP012 : Nat := fourcc 'P' '0' '1' '2'
def vaFourccP016 : Nat := fourcc 'P' '0' '1' '6'
def vaFourcc444P : Nat := fourcc '4' '4' '4' 'P'
def vaFourccQ416 : Nat := fourcc 'Q' '4' '1' '6'
def vaFourccARGB : Nat := fourcc 'A' 'R' 'G' 'B'
def vaFourccXRGB : Nat := fourcc 'X' 'R' 'G' 'B'
def vaFourccABGR : Nat := fourcc 'A' 'B' 'G' 'R'
def vaFourccXBGR : Nat := fourcc 'X' 'B' 'G' 'R'
def vaFourccRGBA : Nat := fourcc 'R' 'G' 'B' 'A'
def vaFourccRGBX : Nat := fourcc 'R' 'G' 'B' 'X'
def vaFourccBGRA : Nat := fourcc 'B' 'G' 'R' 'A'
def vaFourccBGRX : Nat := fourcc 'B' 'G' 'R' 'X'

def drmFormatInvalid : Nat := 0
def drmFormatNV12 : Nat := fourcc 'N' 'V' '1' '2'
def drmFormatNV21 : Nat := fourcc 'N' 'V' '2' '1'
def drmFormatP010 : Nat := fourcc 'P' '0' '1' '0'
def drmFormatP012 : Nat := fourcc 'P' '0' '1' '2'
def drmFormatP016 : Nat := fourcc 'P' '0' '1' '6'
def drmFormatYUV444 : Nat := fourcc 'Y' 'U' '2' '4'
def drmFormatR8 : Nat := fourcc 'R' '8' ' ' ' '
def drmFormatRG88 : Nat := fourcc 'R' 'G' '8' '8'
def drmFormatR16 : Nat := fourcc 'R' '1' '6' ' '
def drmFormatRG1616 : Nat := fourcc 'R' 'G' '3' '2'
def drmFormatARGB8888 : Nat := fourcc 'A' 'R' '2' '4'
def drmFormatXRGB8888 : Nat := fourcc 'X' 'R' '2' '4'
def drmFormatABGR8888 : Nat := fourcc 'A' 'B' '2' '4'
def drmFormatXBGR8888 : Nat := fourcc 'X' 'B' '2' '4'
def drmFormatRGBA8888 : Nat := fourcc 'R' 'A' '2' '4'
def drmFormatRGBX8888 : Nat := fourcc 'R' 'X' '2' '4'
def drmFormatBGRA8888 : Nat := fourcc 'B' 'A' '2' '4'
def drmFormatBGRX8888 : Nat := fourcc 'B' 'X' '2' '4'

def drmFormatModLinear : Nat := 0
def drmFormatModInvalid : Nat := 0x00ffffffffffffff

/-- The formats; the code's names are `NV_FORMAT_NONE`, `NV_FORMAT_NV12` and so on. -/
inductive NVFormat where
  | none | nv12 | p010 | p012 | p016 | yuv444P | q416 | argb
  deriving DecidableEq, Repr, Inhabited

/-- A plane of a format; `ss` is the pair of shifts by which it is subsampled. -/
structure NVFormatPlane where
  channelCount : Nat := 0
  fourcc : Nat := 0
  ssX : Nat := 0
  ssY : Nat := 0
  deriving DecidableEq, Repr, Inhabited

/-- What the driver knows of a format. -/
structure NVFormatInfo where
  bppc : Nat := 0
  numPlanes : Nat := 0
  fourcc : Nat := 0
  plane : List NVFormatPlane := []
  vaFourcc : Nat := 0
  deriving DecidableEq, Repr, Inhabited

/-- The `i`-th plane. -/
def NVFormatInfo.planeAt (info : NVFormatInfo) (i : Nat) : NVFormatPlane :=
  info.plane.getD i {}

/-- `formatsInfo`. -/
def formatsInfo : NVFormat → NVFormatInfo
  | .none => {}
  | .nv12 =>
    ⟨1, 2, drmFormatNV12, [⟨1, drmFormatR8, 0, 0⟩, ⟨2, drmFormatRG88, 1, 1⟩], vaFourccNV12⟩
  | .p010 =>
    ⟨2, 2, drmFormatP010, [⟨1, drmFormatR16, 0, 0⟩, ⟨2, drmFormatRG1616, 1, 1⟩], vaFourccP010⟩
  | .p012 =>
    ⟨2, 2, drmFormatP012, [⟨1, drmFormatR16, 0, 0⟩, ⟨2, drmFormatRG1616, 1, 1⟩], vaFourccP012⟩
  | .p016 =>
    ⟨2, 2, drmFormatP016, [⟨1, drmFormatR16, 0, 0⟩, ⟨2, drmFormatRG1616, 1, 1⟩], vaFourccP016⟩
  | .yuv444P =>
    ⟨1, 3, drmFormatYUV444,
      [⟨1, drmFormatR8, 0, 0⟩, ⟨1, drmFormatR8, 0, 0⟩, ⟨1, drmFormatR8, 0, 0⟩], vaFourcc444P⟩
  | .q416 =>
    ⟨2, 3, drmFormatInvalid,
      [⟨1, drmFormatR16, 0, 0⟩, ⟨1, drmFormatR16, 0, 0⟩, ⟨1, drmFormatR16, 0, 0⟩], vaFourccQ416⟩
  | .argb => ⟨1, 1, vaFourccARGB, [⟨4, drmFormatARGB8888, 0, 0⟩], vaFourccARGB⟩

/-- The order in which `nvFormatFromVaFormat` goes through the table. -/
def formatOrder : List NVFormat :=
  [.nv12, .p010, .p012, .p016, .yuv444P, .q416, .argb]

def nvFormatFromVaFormat (code : Nat) : NVFormat :=
  (formatOrder.find? fun format => (formatsInfo format).vaFourcc = code).getD .none

def isRgbFourcc (code : Nat) : Bool :=
  code = vaFourccARGB || code = vaFourccXRGB || code = vaFourccABGR || code = vaFourccXBGR ||
  code = vaFourccRGBA || code = vaFourccRGBX || code = vaFourccBGRA || code = vaFourccBGRX

def nvFormatFromSurfaceFourcc (code : Nat) : NVFormat :=
  if isRgbFourcc code then .argb else nvFormatFromVaFormat code

/-- `rgbDrmFormat`: VA names describe byte order, DRM names little-endian words. -/
def rgbDrmFormat (code : Nat) : Nat :=
  if code = vaFourccARGB then drmFormatBGRA8888
  else if code = vaFourccXRGB then drmFormatBGRX8888
  else if code = vaFourccABGR then drmFormatRGBA8888
  else if code = vaFourccXBGR then drmFormatRGBX8888
  else if code = vaFourccRGBA then drmFormatABGR8888
  else if code = vaFourccRGBX then drmFormatXBGR8888
  else if code = vaFourccBGRA then drmFormatARGB8888
  else if code = vaFourccBGRX then drmFormatXRGB8888
  else 0

/-- `nvPlaneExtent`: a subsampled extent, rounded up. -/
def nvPlaneExtent (value subsamplingShift : Nat) : Nat :=
  if subsamplingShift = 0 then value
  else if 32 ≤ subsamplingShift then (if value ≠ 0 then 1 else 0)
  else value / 2 ^ subsamplingShift + (if value % 2 ^ subsamplingShift ≠ 0 then 1 else 0)

/-- `nvPlaneCoordinate`: a subsampled coordinate, rounded down. -/
def nvPlaneCoordinate (value subsamplingShift : Nat) : Nat :=
  if subsamplingShift < 32 then value / 2 ^ subsamplingShift else 0

/-- The table has as many planes as it says, subsampled by at most one bit. -/
theorem formatsInfo_planes (format : NVFormat) :
    (formatsInfo format).plane.length = (formatsInfo format).numPlanes ∧
    (formatsInfo format).numPlanes ≤ 3 ∧
    (∀ plane ∈ (formatsInfo format).plane, plane.ssX ≤ 1 ∧ plane.ssY ≤ 1 ∧
      0 < plane.channelCount ∧ plane.channelCount ≤ 4) := by
  cases format <;> decide

/-- Every format but `none` has planes and samples of one or two bytes. -/
theorem formatsInfo_bppc {format : NVFormat} (hformat : format ≠ .none) :
    0 < (formatsInfo format).numPlanes ∧ 0 < (formatsInfo format).bppc ∧
    (formatsInfo format).bppc ≤ 2 := by
  cases format <;> first | exact absurd rfl hformat | decide

theorem planeAt_mem {format : NVFormat} {i : Nat} (hi : i < (formatsInfo format).numPlanes) :
    (formatsInfo format).planeAt i ∈ (formatsInfo format).plane := by
  have hlt : i < (formatsInfo format).plane.length := by
    rw [(formatsInfo_planes format).1]
    exact hi
  rw [NVFormatInfo.planeAt, List.getD_eq_getElem?_getD, List.getElem?_eq_getElem hlt]
  exact List.getElem_mem hlt

/-- What is known of each plane of a format. -/
theorem planeAt_spec {format : NVFormat} {i : Nat} (hi : i < (formatsInfo format).numPlanes) :
    ((formatsInfo format).planeAt i).ssX ≤ 1 ∧ ((formatsInfo format).planeAt i).ssY ≤ 1 ∧
    0 < ((formatsInfo format).planeAt i).channelCount ∧
    ((formatsInfo format).planeAt i).channelCount ≤ 4 :=
  (formatsInfo_planes format).2.2 _ (planeAt_mem hi)

theorem nvPlaneExtent_zero (value : Nat) : nvPlaneExtent value 0 = value := by
  simp [nvPlaneExtent]

theorem nvPlaneExtent_one (value : Nat) : nvPlaneExtent value 1 = (value + 1) / 2 := by
  have hparity := Nat.mod_two_eq_zero_or_one value
  rcases hparity with heven | hodd
  · simp [nvPlaneExtent, heven]
    omega
  · simp [nvPlaneExtent, hodd]
    omega

theorem nvPlaneCoordinate_zero (value : Nat) : nvPlaneCoordinate value 0 = value := by
  simp [nvPlaneCoordinate]

theorem nvPlaneCoordinate_one (value : Nat) : nvPlaneCoordinate value 1 = value / 2 := by
  simp [nvPlaneCoordinate]

/-- An extent of a plane is at most that of the surface, and nonzero with it. -/
theorem nvPlaneExtent_le {value shift : Nat} (hshift : shift ≤ 1) :
    nvPlaneExtent value shift ≤ value ∧ (0 < value → 0 < nvPlaneExtent value shift) := by
  interval_cases shift
  · rw [nvPlaneExtent_zero]
    exact ⟨Nat.le_refl _, id⟩
  · rw [nvPlaneExtent_one]
    omega

/-- A larger surface has larger planes. -/
theorem nvPlaneExtent_mono {value value' shift : Nat} (hshift : shift ≤ 1)
    (hle : value ≤ value') : nvPlaneExtent value shift ≤ nvPlaneExtent value' shift := by
  interval_cases shift
  · rwa [nvPlaneExtent_zero, nvPlaneExtent_zero]
  · rw [nvPlaneExtent_one, nvPlaneExtent_one]
    omega

/-- A region of a surface lies in every plane of the surface, also where an odd coordinate
is rounded down and an odd extent is rounded up. -/
theorem nvPlaneCoordinate_extent {x width whole shift : Nat} (hshift : shift ≤ 1)
    (hinside : x + width ≤ whole) :
    nvPlaneCoordinate x shift + nvPlaneExtent width shift ≤ nvPlaneExtent whole shift := by
  interval_cases shift
  · rwa [nvPlaneCoordinate_zero, nvPlaneExtent_zero, nvPlaneExtent_zero]
  · rw [nvPlaneCoordinate_one, nvPlaneExtent_one, nvPlaneExtent_one]
    omega

end Surface
end NvidiaVaapi
