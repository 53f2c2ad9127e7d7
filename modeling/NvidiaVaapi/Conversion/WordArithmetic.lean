import NvidiaVaapi.Conversion.Pixel
import NvidiaVaapi.Lib.PtxLaunch

/-!
# Words and ints of a pixel

The kernels compute in words of 32 bits what the CPU path computes in `int`s: no sum of the
conversion leaves the range of `int`, whatever the samples of 16 bits are.
-/

namespace NvidiaVaapi
namespace Conversion

open Ptx
open Surface (NVFormat vaFourccARGB vaFourccXRGB vaFourccABGR vaFourccXBGR vaFourccRGBA
  vaFourccRGBX vaFourccBGRA vaFourccBGRX)

/-- The parameters of a matrix and of a sample format are small. -/
structure Moderate (matrix : ColorMatrix) (info : VideoProcSampleInfo) : Prop where
  vToR : 0 ≤ matrix.vToR ∧ matrix.vToR < 1024
  uToG : 0 ≤ matrix.uToG ∧ matrix.uToG < 1024
  vToG : 0 ≤ matrix.vToG ∧ matrix.vToG < 1024
  uToB : 0 ≤ matrix.uToB ∧ matrix.uToB < 1024
  yScale : 0 ≤ info.yScale ∧ info.yScale < 1024
  yOffset : 0 ≤ info.yOffset ∧ info.yOffset < 4096
  uvOffset : 0 ≤ info.uvOffset ∧ info.uvOffset < 4096
  rounding : 0 ≤ info.rounding ∧ info.rounding < 4096
  valueShift : info.valueShift < 32
  sampleShift : info.sampleShift < 16

theorem colorMatrixForStandard_mem (colorStandard : VAProcColorStandardType) (width : Nat)
    (fullRange : Bool) :
    let matrix := colorMatrixForStandard colorStandard width fullRange
    matrix = (colorMatrices fullRange).first ∨ matrix = (colorMatrices fullRange).second ∨
      matrix = (colorMatrices fullRange).third := by
  unfold colorMatrixForStandard
  cases colorStandard <;> first | exact .inl rfl | exact .inr (.inl rfl) | exact .inr (.inr rfl) |
    (by_cases hwide : width ≥ 1280
     · exact .inr (.inl (if_pos hwide))
     · exact .inl (if_neg hwide))

/-- Every matrix and every sample format that the driver selects is. -/
theorem selected_moderate (colorStandard : VAProcColorStandardType) (width : Nat)
    (fullRange : Bool) (format : NVFormat) :
    Moderate (colorMatrixForStandard colorStandard width fullRange)
      (videoProcSampleInfoForFormat format fullRange) := by
  have hmatrix : ∀ matrix, matrix = (colorMatrices fullRange).first ∨
      matrix = (colorMatrices fullRange).second ∨ matrix = (colorMatrices fullRange).third →
      Moderate matrix (videoProcSampleInfoForFormat format fullRange) := by
    rintro matrix (rfl | rfl | rfl) <;> cases fullRange <;> cases format <;>
      exact ⟨by decide, by decide, by decide, by decide, by decide, by decide, by decide,
        by decide, by decide, by decide⟩
  exact hmatrix _ (colorMatrixForStandard_mem colorStandard width fullRange)

/-- A sample: a number of 16 bits. -/
def IsSample (n : Int) : Prop := 0 ≤ n ∧ n < 65536

/-- What the CPU path computes before the shifts, in the order of its expressions. -/
def intermediates (matrix : ColorMatrix) (info : VideoProcSampleInfo) (yy u v : Int) : List Int :=
  let c := if yy > info.yOffset then yy - info.yOffset else 0
  let d := u - info.uvOffset
  let e := v - info.uvOffset
  [ c, d, e,
    info.yScale * c, matrix.vToR * e, info.yScale * c + matrix.vToR * e,
    info.yScale * c + matrix.vToR * e + info.rounding,
    matrix.uToG * d, info.yScale * c - matrix.uToG * d, matrix.vToG * e,
    info.yScale * c - matrix.uToG * d - matrix.vToG * e,
    info.yScale * c - matrix.uToG * d - matrix.vToG * e + info.rounding,
    matrix.uToB * d, info.yScale * c + matrix.uToB * d,
    info.yScale * c + matrix.uToB * d + info.rounding ]

/-- A coefficient times a centred sample. -/
theorem product_bounds {a b : Int} (ha : 0 ≤ a ∧ a < 1024) (hb : -65536 < b ∧ b < 65536) :
    -67108864 < a * b ∧ a * b < 67108864 := by
  obtain ⟨hapos, ha⟩ := ha
  obtain ⟨hlow, hhigh⟩ := hb
  constructor
  · have hle : a * (-65535) ≤ a * b := Int.mul_le_mul_of_nonneg_left (by omega) hapos
    omega
  · have hle : a * b ≤ a * 65535 := Int.mul_le_mul_of_nonneg_left (by omega) hapos
    omega

section Bounds

variable {matrix : ColorMatrix} {info : VideoProcSampleInfo} {yy u v : Int}

/-- The luminance above its offset. -/
theorem scaled_bounds (h : Moderate matrix info) (hy : IsSample yy) :
    0 ≤ max (yy - info.yOffset) 0 ∧ max (yy - info.yOffset) 0 < 65536 := by
  have hoffset := h.yOffset
  unfold IsSample at hy
  omega

theorem offset_eq_max (info : VideoProcSampleInfo) (yy : Int) :
    (if yy > info.yOffset then yy - info.yOffset else 0) = max (yy - info.yOffset) 0 := by
  split
  · omega
  · omega

theorem centred_bounds (h : Moderate matrix info) (hu : IsSample u) :
    -65536 < u - info.uvOffset ∧ u - info.uvOffset < 65536 := by
  have hoffset := h.uvOffset
  unfold IsSample at hu
  omega

/-- Nothing that the CPU path computes overflows. -/
theorem intermediates_inInt32 (h : Moderate matrix info) (hy : IsSample yy) (hu : IsSample u)
    (hv : IsSample v) : ∀ n ∈ intermediates matrix info yy u v, InInt32 n := by
  have hc := scaled_bounds h hy
  have hd := centred_bounds h hu
  have he := centred_bounds h hv
  have hrounding := h.rounding
  have hy' := product_bounds h.yScale ⟨by omega, hc.2⟩
  have hr := product_bounds h.vToR he
  have hg := product_bounds h.uToG hd
  have hg' := product_bounds h.vToG he
  have hb := product_bounds h.uToB hd
  intro n hn
  unfold intermediates at hn
  rw [offset_eq_max] at hn
  simp only [List.mem_cons, List.not_mem_nil, or_false] at hn
  unfold InInt32
  rcases hn with rfl | rfl | rfl | rfl | rfl | rfl | rfl | rfl | rfl | rfl | rfl | rfl | rfl | rfl |
    rfl <;> omega

end Bounds

/-! ## The same in words -/

/-- The parameters as the launch passes them, cast to `uint32_t`. -/
def wordInfo (matrix : ColorMatrix) (info : VideoProcSampleInfo) : WordInfo where
  vToR := BitVec.ofInt 32 matrix.vToR
  uToG := BitVec.ofInt 32 matrix.uToG
  vToG := BitVec.ofInt 32 matrix.vToG
  uToB := BitVec.ofInt 32 matrix.uToB
  yScale := BitVec.ofInt 32 info.yScale
  yOffset := BitVec.ofInt 32 info.yOffset
  uvOffset := BitVec.ofInt 32 info.uvOffset
  rounding := BitVec.ofInt 32 info.rounding
  valueShift := BitVec.ofNat 32 info.valueShift

def Triple.map {α β : Type} (f : α → β) (t : Triple α) : Triple β :=
  ⟨f t.first, f t.second, f t.third⟩

theorem toInt_clampWord {w : BitVec 32} {n : Int} (hw : w.toInt = n) :
    (clampWord w).toInt = min (max n 0) 255 := by
  unfold clampWord
  exact toInt_minS32 (toInt_maxS32 hw (by decide)) (by decide)

theorem toInt_clampU8 (n : Int) : ((clampU8 n).setWidth 32).toInt = min (max n 0) 255 := by
  unfold clampU8
  split
  · rw [show ((0 : BitVec 8).setWidth 32).toInt = 0 from by decide]
    omega
  split
  · rw [show ((255 : BitVec 8).setWidth 32).toInt = 255 from by decide]
    omega
  · rename_i hlow hhigh
    obtain ⟨k, rfl⟩ := Int.eq_ofNat_of_zero_le (by omega : 0 ≤ n)
    have hk : k < 256 := by omega
    rw [BitVec.ofInt_natCast, BitVec.toInt_eq_toNat_of_msb]
    · rw [BitVec.toNat_setWidth, BitVec.toNat_ofNat]
      omega
    · rw [BitVec.msb_setWidth]
      simp

section Words

variable {matrix : ColorMatrix} {info : VideoProcSampleInfo} {yy u v : Int}

theorem toInt_rounded (h : Moderate matrix info) {sum : BitVec 32} {n : Int}
    (hsum : sum.toInt = n) (hrange : InInt32 (n + info.rounding)) :
    ((wordInfo matrix info).rounded sum).toInt =
      min (max ((n + info.rounding) >>> info.valueShift) 0) 255 := by
  have hrounding : InInt32 info.rounding := by
    have := h.rounding
    unfold InInt32
    omega
  have hshift : (BitVec.ofNat 32 info.valueShift).toNat = info.valueShift := by
    have := h.valueShift
    rw [BitVec.toNat_ofNat]
    omega
  unfold WordInfo.rounded
  exact toInt_clampWord (toInt_shrS32 (toInt_addS32 hsum (toInt_ofInt_inInt32 hrounding) hrange)
    hshift)

theorem toInt_ofInt_moderate {n bound : Int} (hn : 0 ≤ n ∧ n < bound) (hbound : bound ≤ 4096) :
    (BitVec.ofInt 32 n).toInt = n :=
  toInt_ofInt_inInt32 ⟨by omega, by omega⟩

theorem toInt_scaled (h : Moderate matrix info) (hy : IsSample yy) {y : BitVec 32}
    (hyword : y.toInt = yy) :
    ((wordInfo matrix info).scaled y).toInt =
      info.yScale * max (yy - info.yOffset) 0 := by
  have hc := scaled_bounds h hy
  have hproduct := product_bounds h.yScale ⟨by omega, hc.2⟩
  have hrange : InInt32 (yy - info.yOffset) := by
    have hoffset := h.yOffset
    unfold IsSample at hy
    unfold InInt32
    omega
  unfold WordInfo.scaled
  rw [Int.mul_comm info.yScale] at hproduct ⊢
  refine toInt_mulLoS32 (toInt_maxS32 (toInt_subS32 hyword ?_ hrange) (by decide)) ?_ ?_
  · exact toInt_ofInt_moderate h.yOffset (by decide)
  · exact toInt_ofInt_moderate h.yScale (by decide)
  · unfold InInt32
    omega

theorem toInt_weighted (h : Moderate matrix info) {coefficient : Int}
    (hcoefficient : 0 ≤ coefficient ∧ coefficient < 1024) (hu : IsSample u) {c : BitVec 32}
    (hcword : c.toInt = u) :
    ((wordInfo matrix info).weighted (BitVec.ofInt 32 coefficient) c).toInt =
      coefficient * (u - info.uvOffset) := by
  have hd := centred_bounds h hu
  have hproduct := product_bounds hcoefficient hd
  have hrange : InInt32 (u - info.uvOffset) := by
    unfold InInt32
    omega
  unfold WordInfo.weighted
  rw [Int.mul_comm coefficient] at hproduct ⊢
  refine toInt_mulLoS32 (toInt_subS32 hcword ?_ hrange) ?_ ?_
  · exact toInt_ofInt_moderate h.uvOffset (by decide)
  · exact toInt_ofInt_moderate hcoefficient (by decide)
  · unfold InInt32
    omega

/-- A kernel computes the channels of the CPU path. -/
theorem channels_eq (h : Moderate matrix info) (hy : IsSample yy) (hu : IsSample u)
    (hv : IsSample v) {y cb cr : BitVec 32} (hyword : y.toInt = yy) (huword : cb.toInt = u)
    (hvword : cr.toInt = v) :
    (wordInfo matrix info).channels y cb cr =
      (convertPixel matrix info yy u v).map (BitVec.setWidth 32) := by
  have hscaled := toInt_scaled h hy hyword
  have hr := toInt_weighted h h.vToR hv hvword
  have hg := toInt_weighted h h.uToG hu huword
  have hg' := toInt_weighted h h.vToG hv hvword
  have hb := toInt_weighted h h.uToB hu huword
  have hrange := intermediates_inInt32 h hy hu hv
  unfold intermediates at hrange
  rw [offset_eq_max] at hrange
  simp only [List.forall_mem_cons] at hrange
  obtain ⟨-, -, -, -, -, hred, hred', -, hgreen, -, hgreen', hgreen'', -, hblue, hblue', -⟩ :=
    hrange
  unfold WordInfo.channels convertPixel channelSums Triple.map
  rw [offset_eq_max]
  congr 1
  · apply BitVec.eq_of_toInt_eq
    exact (toInt_rounded h (toInt_addS32 hscaled hr hred) hred').trans (toInt_clampU8 _).symm
  · apply BitVec.eq_of_toInt_eq
    have hsum := toInt_subS32 (toInt_subS32 hscaled hg hgreen) hg' hgreen'
    exact (toInt_rounded h hsum hgreen'').trans (toInt_clampU8 _).symm
  · apply BitVec.eq_of_toInt_eq
    exact (toInt_rounded h (toInt_addS32 hscaled hb hblue) hblue').trans (toInt_clampU8 _).symm

end Words

/-! ## Bytes -/

theorem wordOfBytes_eq (b₀ b₁ b₂ b₃ : BitVec 8) :
    wordOfBytes (b₀.setWidth 32) (b₁.setWidth 32) (b₂.setWidth 32) (b₃.setWidth 32) =
      b₃ ++ b₂ ++ b₁ ++ b₀ := by
  unfold wordOfBytes Alu.eval
  show b₀.setWidth 32 ||| b₁.setWidth 32 <<< 8 ||| b₂.setWidth 32 <<< 16 |||
    b₃.setWidth 32 <<< 24 = _
  ext i hi
  simp only [BitVec.getElem_or, BitVec.getElem_shiftLeft, BitVec.getElem_setWidth]
  grind

/-- Packed bytes come back in their order. -/
theorem byteOf_wordOfBytes (b₀ b₁ b₂ b₃ : BitVec 8) {i : Nat} (hi : i < 4) :
    byteOf (wordOfBytes (b₀.setWidth 32) (b₁.setWidth 32) (b₂.setWidth 32) (b₃.setWidth 32)) i =
      [b₀, b₁, b₂, b₃].getD i 0 := by
  rw [wordOfBytes_eq]
  unfold byteOf
  ext j hj
  rw [BitVec.getElem_extractLsb']
  interval_cases i
  · show BitVec.getLsbD _ _ = b₀[j]
    grind
  · show BitVec.getLsbD _ _ = b₁[j]
    grind
  · show BitVec.getLsbD _ _ = b₂[j]
    grind
  · show BitVec.getLsbD _ _ = b₃[j]
    grind

/-- The word that a kernel stores has the bytes that the CPU path writes. -/
theorem byteOf_packed (fourcc : Nat) (rgb : Triple (BitVec 8)) {i : Nat} (hi : i < 4) :
    byteOf (packed (rgbOrderForFourcc fourcc) (rgb.map (BitVec.setWidth 32)) 255) i =
      (writeRgbPixel fourcc rgb).getD i 0 := by
  obtain ⟨red, green, blue⟩ := rgb
  have heq : ∀ order value : BitVec 32,
      Compare.eqU32.eval order value = decide (order = value) := by
    intro order value
    unfold Compare.eval
    rfl
  unfold rgbOrderForFourcc writeRgbPixel packed
  simp only [heq]
  by_cases hrgba : fourcc = vaFourccRGBA ∨ fourcc = vaFourccRGBX
  · simp only [if_pos hrgba]
    exact byteOf_wordOfBytes red green blue 255 hi
  by_cases hargb : fourcc = vaFourccARGB ∨ fourcc = vaFourccXRGB
  · have hbgra : ¬(fourcc = vaFourccBGRA ∨ fourcc = vaFourccBGRX) := by
      rcases hargb with rfl | rfl <;> decide
    simp only [if_neg hrgba, if_pos hargb, if_neg hbgra]
    exact byteOf_wordOfBytes 255 red green blue hi
  by_cases habgr : fourcc = vaFourccABGR ∨ fourcc = vaFourccXBGR
  · have hbgra : ¬(fourcc = vaFourccBGRA ∨ fourcc = vaFourccBGRX) := by
      rcases habgr with rfl | rfl <;> decide
    simp only [if_neg hrgba, if_neg hargb, if_pos habgr, if_neg hbgra]
    exact byteOf_wordOfBytes 255 blue green red hi
  · simp only [if_neg hrgba, if_neg hargb, if_neg habgr, ite_self]
    exact byteOf_wordOfBytes blue green red 255 hi

end Conversion
end NvidiaVaapi
