import NvidiaVaapi.Conversion.KernelRuns
import NvidiaVaapi.Surface.Formats

/-!
# Pixels

The arithmetic of the RGB conversion of `vabackend.c` as the CPU path does it: the colour
matrices, the sample formats, the conversion of one pixel and its bytes.  The kernels compute
the same bytes.
-/

namespace NvidiaVaapi
namespace Conversion

open Ptx
open Surface (NVFormat vaFourccARGB vaFourccXRGB vaFourccABGR vaFourccXBGR vaFourccRGBA
  vaFourccRGBX vaFourccBGRA vaFourccBGRX)

/-! ## Colours -/

structure ColorMatrix where
  vToR : Int
  uToG : Int
  vToG : Int
  uToB : Int
  deriving DecidableEq, Repr

structure VideoProcSampleInfo where
  sampleShift : Nat
  yScale : Int
  yOffset : Int
  uvOffset : Int
  rounding : Int
  valueShift : Nat
  deriving DecidableEq, Repr

inductive VAProcColorStandardType
  | none | bt601 | bt709 | bt470M | bt470BG | smpte170M | smpte240M | genericFilm | sRGB | stRGB
  | xvYCC601 | xvYCC709 | bt2020 | explicit
  deriving DecidableEq, Repr

/-- `kLimitedRangeColorMatrices` and `kFullRangeColorMatrices`: of BT.601, BT.709 and BT.2020. -/
def colorMatrices (fullRange : Bool) : Triple ColorMatrix :=
  if fullRange then ⟨⟨359, 88, 183, 454⟩, ⟨403, 48, 120, 475⟩, ⟨377, 42, 146, 482⟩⟩
  else ⟨⟨409, 100, 208, 516⟩, ⟨459, 55, 136, 541⟩, ⟨430, 48, 167, 548⟩⟩

def colorMatrixForStandard (colorStandard : VAProcColorStandardType) (width : Nat)
    (fullRange : Bool) : ColorMatrix :=
  let matrices := colorMatrices fullRange
  match colorStandard with
  | .bt601 | .smpte170M | .bt470M | .bt470BG => matrices.first
  | .bt709 | .smpte240M => matrices.second
  | .bt2020 => matrices.third
  | _ => if width ≥ 1280 then matrices.second else matrices.first

def nvColorStandardFromMatrixCoefficients (matrixCoefficients : Nat) : VAProcColorStandardType :=
  match matrixCoefficients with
  | 1 => .bt709
  | 4 => .bt470M
  | 5 => .bt470BG
  | 6 => .smpte170M
  | 7 => .smpte240M
  | 9 => .bt2020
  | _ => .none

/-- What a pipeline buffer says about colours: `surface_color_standard`, and the matrix
coefficients and the range of `input_color_properties`. -/
structure PipelineColors where
  surfaceColorStandard : VAProcColorStandardType := .none
  matrixCoefficients : Nat := 0
  colorRange : Nat := 0
  deriving DecidableEq, Repr

/-- What a surface knows about its colours. -/
structure SurfaceColors where
  colorStandard : VAProcColorStandardType := .none
  colorRangeFull : Bool := false
  deriving DecidableEq, Repr

def effectiveSurfaceColorStandard (src : SurfaceColors) (pipeline : PipelineColors) :
    VAProcColorStandardType :=
  if pipeline.surfaceColorStandard = .explicit then
    nvColorStandardFromMatrixCoefficients pipeline.matrixCoefficients
  else if pipeline.surfaceColorStandard ≠ .none then pipeline.surfaceColorStandard
  else if src.colorStandard ≠ .none then src.colorStandard
  else .none

/-- `VA_SOURCE_RANGE_REDUCED` and `VA_SOURCE_RANGE_FULL`. -/
def vaSourceRangeReduced : Nat := 1
def vaSourceRangeFull : Nat := 2

def effectiveSurfaceColorRangeFull (src : SurfaceColors) (pipeline : PipelineColors) : Bool :=
  if pipeline.colorRange = vaSourceRangeFull then true
  else if pipeline.colorRange = vaSourceRangeReduced then false
  else src.colorRangeFull

def videoProcSampleInfoForFormat (format : NVFormat) (fullRange : Bool) : VideoProcSampleInfo :=
  let yScale := if fullRange then 256 else 298
  match format with
  | .p010 => ⟨6, yScale, if fullRange then 0 else 64, 512, 512, 10⟩
  | .p012 => ⟨4, yScale, if fullRange then 0 else 256, 2048, 2048, 12⟩
  | _ => ⟨0, yScale, if fullRange then 0 else 16, 128, 128, 8⟩

/-! ## The CPU path -/

def clampU8 (value : Int) : BitVec 8 :=
  if value < 0 then 0 else if value > 255 then 255 else BitVec.ofInt 8 value

section Pixel

variable (matrix : ColorMatrix) (info : VideoProcSampleInfo)

/-- The sums of `convertNV12ToARGB` before they are shifted and clamped. -/
def channelSums (yy u v : Int) : Triple Int :=
  let c := if yy > info.yOffset then yy - info.yOffset else 0
  let d := u - info.uvOffset
  let e := v - info.uvOffset
  { first := info.yScale * c + matrix.vToR * e + info.rounding
    second := info.yScale * c - matrix.uToG * d - matrix.vToG * e + info.rounding
    third := info.yScale * c + matrix.uToB * d + info.rounding }

/-- Red, green and blue of three samples. -/
def convertPixel (yy u v : Int) : Triple (BitVec 8) :=
  let sums := channelSums matrix info yy u v
  { first := clampU8 (sums.first >>> info.valueShift)
    second := clampU8 (sums.second >>> info.valueShift)
    third := clampU8 (sums.third >>> info.valueShift) }

end Pixel

/-- `writeRgbPixel`: the four bytes of a pixel. -/
def writeRgbPixel (fourcc : Nat) (rgb : Triple (BitVec 8)) : List (BitVec 8) :=
  if fourcc = vaFourccRGBA ∨ fourcc = vaFourccRGBX then [rgb.first, rgb.second, rgb.third, 255]
  else if fourcc = vaFourccBGRA ∨ fourcc = vaFourccBGRX then
    [rgb.third, rgb.second, rgb.first, 255]
  else if fourcc = vaFourccARGB ∨ fourcc = vaFourccXRGB then
    [255, rgb.first, rgb.second, rgb.third]
  else if fourcc = vaFourccABGR ∨ fourcc = vaFourccXBGR then
    [255, rgb.third, rgb.second, rgb.first]
  else [rgb.third, rgb.second, rgb.first, 255]

/-- `rgbOrderForFourcc`: how the kernels are told the same. -/
def rgbOrderForFourcc (fourcc : Nat) : BitVec 32 :=
  if fourcc = vaFourccRGBA ∨ fourcc = vaFourccRGBX then 1
  else if fourcc = vaFourccARGB ∨ fourcc = vaFourccXRGB then 2
  else if fourcc = vaFourccABGR ∨ fourcc = vaFourccXBGR then 3
  else 0

end Conversion
end NvidiaVaapi
