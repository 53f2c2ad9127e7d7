import NvidiaVaapi.Av1.PictureParameters
import Mathlib.Order.Lattice

/-!
# Lossless pictures

`coded_lossless` of `copyAV1PicParam` against `CodedLossless` of the AV1 specification.
The code neither looks at `segmentation_enabled` nor clips the quantiser index of a
segment.
-/

namespace NvidiaVaapi
namespace Av1

namespace VADecPictureParameterBufferAV1

variable (buf : VADecPictureParameterBufferAV1)

/-- `SEG_LVL_ALT_Q` is on in the feature mask of the segment. -/
def altersQindex (i : Fin 8) : Prop :=
  buf.segInfo.featureMask.get i &&& 1 ≠ 0

instance (i : Fin 8) : Decidable (buf.altersQindex i) :=
  inferInstanceAs (Decidable (_ ≠ _))

/-- The data of `SEG_LVL_ALT_Q`. -/
def qindexData (i : Fin 8) : Int :=
  (buf.segInfo.featureData.get i).get segLvlAltQ

/-- `get_qidx` of the specification, without the deltas of blocks. -/
def effectiveQindex (i : Fin 8) : Int :=
  if buf.segInfo.enabled ≠ 0 ∧ buf.altersQindex i then
    max 0 (min 255 (buf.baseQindex + buf.qindexData i))
  else buf.baseQindex

/-- None of the five deltas is coded. -/
def undelta : Prop :=
  buf.yDcDeltaQ = 0 ∧ buf.uDcDeltaQ = 0 ∧ buf.vDcDeltaQ = 0 ∧ buf.uAcDeltaQ = 0 ∧
    buf.vAcDeltaQ = 0

/-- `CodedLossless`: every entry of `LosslessArray` is one. -/
def specCodedLossless : Prop :=
  buf.undelta ∧ ∀ i, buf.effectiveQindex i = 0

/-- No index is coded, and no segment has data to alter it. -/
def plainQindex : Prop :=
  buf.baseQindex = 0 ∧ ∀ i, buf.altersQindex i → buf.qindexData i = 0

instance : Decidable buf.undelta :=
  inferInstanceAs (Decidable (_ ∧ _))

instance : Decidable buf.specCodedLossless :=
  inferInstanceAs (Decidable (_ ∧ _))

instance : Decidable buf.plainQindex :=
  inferInstanceAs (Decidable (_ ∧ _))

end VADecPictureParameterBufferAV1

variable {buf : VADecPictureParameterBufferAV1}

/-- What the code computes. -/
theorem codedLossless_eq_one_iff {pps : CUVIDAV1PICPARAMS}
    (hbase : pps.baseQindex = buf.baseQindex)
    (hmask : pps.segmentationFeatureMask = buf.segInfo.featureMask)
    (hdata : pps.segmentationFeatureData = buf.segInfo.featureData) :
    codedLossless buf pps = 1 ↔ buf.undelta ∧ buf.plainQindex := by
  unfold codedLossless
  rw [hbase, hmask, hdata]
  split
  · rename_i hdelta
    constructor
    · intro hone
      cases hone
    · rintro ⟨⟨hy, hu, hv, hua, hva⟩, -⟩
      simp [hy, hu, hv, hua, hva] at hdelta
  · rename_i hdelta
    have hundelta : buf.undelta := by
      simpa [VADecPictureParameterBufferAV1.undelta] using hdelta
    split
    · rename_i hany
      constructor
      · intro hone
        cases hone
      · rintro ⟨-, hzero, hplain⟩
        obtain ⟨i, -, hi⟩ := List.any_eq_true.mp hany
        rcases decide_eq_true_eq.mp hi with ⟨halters, hdata⟩ | hbase
        · have hnone : (buf.segInfo.featureData.get i).get 0 = 0 := hplain i halters
          rw [hzero, hnone] at hdata
          exact absurd rfl hdata
        · exact absurd hzero hbase
    · rename_i hnone
      refine iff_of_true rfl ⟨hundelta, ?_⟩
      simp only [List.any_eq_true, List.mem_finRange, true_and, decide_eq_true_eq, not_exists,
        not_or, not_and, not_not] at hnone
      have hzero : buf.baseQindex = 0 := (hnone 0).2
      refine ⟨hzero, fun i halters => ?_⟩
      have hsum := (hnone i).1 halters
      rw [hzero] at hsum
      exact (Int.zero_add _).symm.trans hsum

/-- Without a coded index and data to alter it, every segment is lossless. -/
theorem effectiveQindex_of_plain (hplain : buf.plainQindex) (i : Fin 8) :
    buf.effectiveQindex i = 0 := by
  obtain ⟨hbase, hdata⟩ := hplain
  unfold VADecPictureParameterBufferAV1.effectiveQindex
  split
  · rename_i halters
    rw [hbase, hdata i halters.2]
    rfl
  · rw [hbase]
    rfl

theorem copyGrainArrays_codedLossless (buf : VADecPictureParameterBufferAV1)
    (pps : CUVIDAV1PICPARAMS) : (copyGrainArrays buf pps).codedLossless = pps.codedLossless := by
  unfold copyGrainArrays
  simp only
  split <;> rfl

theorem copyTileSizes_baseQindex (buf : VADecPictureParameterBufferAV1)
    (pps : CUVIDAV1PICPARAMS) : (copyTileSizes buf pps).baseQindex = pps.baseQindex := by
  unfold copyTileSizes
  split <;> rfl

/-- The flag is computed from the index and the segments of the buffer. -/
theorem fillAV1PicParams_codedLossless (width height : Nat) (enableRestoration : Bool)
    (surfaces : Surfaces) (renderTarget : RenderTarget) (buf : VADecPictureParameterBufferAV1)
    (picParams : CUVIDPICPARAMS) :
    ∃ pps, (fillAV1PicParams width height enableRestoration surfaces renderTarget buf
        picParams).av1.codedLossless = codedLossless buf pps ∧
      pps.baseQindex = buf.baseQindex ∧
      pps.segmentationFeatureMask = buf.segInfo.featureMask ∧
      pps.segmentationFeatureData = buf.segInfo.featureData := by
  refine ⟨_, copyGrainArrays_codedLossless buf _, ?_, rfl, rfl⟩
  refine (copyTileSizes_baseQindex buf _).trans ?_
  split <;> rfl

/-- The flag is right if and only if a delta is coded, a segment has an effective index
other than zero, or neither `base_qindex` nor the data of a segment with the feature in its
mask is other than zero. -/
theorem codedLossless_spec_iff (width height : Nat) (enableRestoration : Bool)
    (surfaces : Surfaces) (renderTarget : RenderTarget) (buf : VADecPictureParameterBufferAV1)
    (picParams : CUVIDPICPARAMS) :
    ((fillAV1PicParams width height enableRestoration surfaces renderTarget buf
        picParams).av1.codedLossless = 1 ↔ buf.specCodedLossless) ↔
      (¬buf.undelta ∨ (∃ i, buf.effectiveQindex i ≠ 0) ∨ buf.plainQindex) := by
  have hcode : (fillAV1PicParams width height enableRestoration surfaces renderTarget buf
      picParams).av1.codedLossless = 1 ↔ buf.undelta ∧ buf.plainQindex := by
    obtain ⟨pps, hflag, hbase, hmask, hdata⟩ := fillAV1PicParams_codedLossless width height
      enableRestoration surfaces renderTarget buf picParams
    rw [hflag]
    exact codedLossless_eq_one_iff hbase hmask hdata
  rw [hcode]
  unfold VADecPictureParameterBufferAV1.specCodedLossless
  constructor
  · rintro ⟨-, hright⟩
    by_contra hwrong
    simp only [not_or, not_not, not_exists] at hwrong
    obtain ⟨hundelta, hzero, hplain⟩ := hwrong
    exact hplain (hright ⟨hundelta, hzero⟩).2
  · intro hcondition
    refine ⟨fun h => ⟨h.1, effectiveQindex_of_plain h.2⟩, fun h => ⟨h.1, ?_⟩⟩
    rcases hcondition with hdelta | ⟨i, hi⟩ | hplain
    · exact absurd h.1 hdelta
    · exact absurd (h.2 i) hi
    · exact hplain

/-- A picture with a segment whose index is altered to one below zero. -/
def negativeQindexBuffer : VADecPictureParameterBufferAV1 where
  tileCols := 1
  tileRows := 1
  segInfo :=
    { enabled := 1
      featureMask := #v[1, 0, 0, 0, 0, 0, 0, 0]
      featureData := (Vector.replicate 8 (.replicate 8 0)).set 0 (.replicate 8 (-4)) }

/-- The effective index is zero in every segment, and the flag is not set. -/
theorem codedLossless_wrong :
    ¬∀ (width height : Nat) (enableRestoration : Bool) (surfaces : Surfaces)
      (renderTarget : RenderTarget) (buf : VADecPictureParameterBufferAV1)
      (picParams : CUVIDPICPARAMS), validateAV1PictureParams buf = true →
      ((fillAV1PicParams width height enableRestoration surfaces renderTarget buf
        picParams).av1.codedLossless = 1 ↔ buf.specCodedLossless) := by
  intro hclaim
  have hflag := (hclaim 64 64 false ⟨fun _ => none, fun _ => -1⟩ {} negativeQindexBuffer {}
    (by decide)).mpr (by decide)
  exact absurd hflag (by decide)

end Av1
end NvidiaVaapi
