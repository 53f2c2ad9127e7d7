import NvidiaVaapi.Configs.DecodeFormats

/-!
# Surface attributes

`nvQuerySurfaceAttributes`, which an application calls twice: once for the number of
attributes, once with an array of that capacity.  The number and the entries come from
different code.
-/

namespace NvidiaVaapi
namespace Configs

open Surface (CudaSurfaceFormat CudaChromaFormat NVFormat formatsInfo nvFormatFromSurfaceFourcc
  vaFourccNV12 vaFourccP010 vaFourccP012 vaFourccP016 vaFourcc444P vaFourccQ416 vaFourccARGB
  vaFourccXRGB vaFourccABGR vaFourccXBGR vaFourccRGBA vaFourccRGBX vaFourccBGRA vaFourccBGRX)

inductive VASurfaceAttribType
  | minWidth | minHeight | maxWidth | maxHeight | pixelFormat | memoryType
  deriving DecidableEq, Repr

/-- `VASurfaceAttrib`, whose value is always an integer here. -/
structure VASurfaceAttrib where
  type : VASurfaceAttribType
  flags : Nat := 0
  value : Nat
  deriving DecidableEq, Repr

def vaSurfaceAttribGettable : Nat := 0x00000001
def vaSurfaceAttribSettable : Nat := 0x00000002
def vaSurfaceAttribMemTypeVA : Nat := 0x00000001
def vaSurfaceAttribMemTypeDrmPrime : Nat := 0x20000000
def vaSurfaceAttribMemTypeDrmPrime2 : Nat := 0x40000000

/-- The last attribute of every list. -/
def memoryTypeAttrib : VASurfaceAttrib where
  type := .memoryType
  flags := vaSurfaceAttribGettable ||| vaSurfaceAttribSettable
  value := vaSurfaceAttribMemTypeVA ||| vaSurfaceAttribMemTypeDrmPrime |||
    vaSurfaceAttribMemTypeDrmPrime2

def pixelFormatAttrib (code : Nat) : VASurfaceAttrib where
  type := .pixelFormat
  value := code

def rgbFormats : List Nat :=
  [vaFourccARGB, vaFourccXRGB, vaFourccABGR, vaFourccXBGR, vaFourccRGBA, vaFourccRGBX,
    vaFourccBGRA, vaFourccBGRX]

/-- The status, what `*num_attribs` holds after the call where it was written, and what was
written into the array from its start. -/
structure AttributesReply where
  status : VAStatus
  numAttribs : Option Nat := none
  written : List VASurfaceAttrib := []
  deriving DecidableEq, Repr

section Calls

variable (drv : NVDriver)

/-- The attributes for video processing. -/
def videoProcAttributes : List VASurfaceAttrib :=
  [⟨.minWidth, 0, 1⟩, ⟨.minHeight, 0, 1⟩, ⟨.maxWidth, 0, 16384⟩, ⟨.maxHeight, 0, 16384⟩,
    pixelFormatAttrib vaFourccNV12] ++
  (if drv.supports16BitSurface then [pixelFormatAttrib vaFourccP010] else []) ++
  rgbFormats.map pixelFormatAttrib ++ [memoryTypeAttrib]

/-- The attributes for decoding. -/
def decodeAttributes (cfg : NVConfig) (videoDecodeCaps : DecodeCaps) : List VASurfaceAttrib :=
  [⟨.minWidth, 0, videoDecodeCaps.nMinWidth⟩, ⟨.minHeight, 0, videoDecodeCaps.nMinHeight⟩,
    ⟨.maxWidth, 0, videoDecodeCaps.nMaxWidth⟩, ⟨.maxHeight, 0, videoDecodeCaps.nMaxHeight⟩] ++
  (if cfg.chromaFormat = .chroma444 then
    [pixelFormatAttrib vaFourcc444P, pixelFormatAttrib vaFourccQ416]
  else
    pixelFormatAttrib vaFourccNV12 ::
      (if drv.supports16BitSurface then
        [pixelFormatAttrib vaFourccP010, pixelFormatAttrib vaFourccP012,
          pixelFormatAttrib vaFourccP016]
      else [])) ++
  [memoryTypeAttrib]

/-- The count that is told for decoding. -/
def requiredAttributes (cfg : NVConfig) : Nat :=
  let required := 5
  if cfg.chromaFormat = .chroma444 then required + 1 + 1
  else
    let required := required + 1
    if drv.supports16BitSurface then required + 3 else required

/-- `capacity` is what `*num_attribs` holds before the call, `attrib_list` whether there is an
array. -/
def nvQuerySurfaceAttributes (answer : CudaAnswer) (config : Option NVConfig)
    (capacity : Nat) (attrib_list : Bool) : AttributesReply :=
  match config with
  | none => { status := .invalidConfig }
  | some cfg =>
    if cfg.entrypoint = .videoProc then
      let required := if drv.supports16BitSurface then 15 else 14
      if attrib_list = false then { status := .success, numAttribs := some required }
      else if capacity < required then
        { status := .maxNumExceeded, numAttribs := some required }
      else
        { status := .success, numAttribs := some required, written := videoProcAttributes drv }
    else if (cfg.chromaFormat = .chroma444 ∨ cfg.surfaceFormat = .yuv444_16Bit) ∧
        drv.supports444Surface = false then { status := .invalidConfig }
    else if cfg.surfaceFormat = .p016 ∧ drv.supports16BitSurface = false then
      { status := .invalidConfig }
    else
      let required := requiredAttributes drv cfg
      if attrib_list = false then { status := .success, numAttribs := some required }
      else if capacity < required then
        { status := .maxNumExceeded, numAttribs := some required }
      else if answer.pushed = false then
        { status := .operationFailed, numAttribs := some required }
      else match drv.gpu cfg.cudaCodec cfg.bitDepth cfg.chromaFormat with
        | none => { status := .operationFailed, numAttribs := some required }
        | some videoDecodeCaps =>
          if answer.popped = false then
            { status := .operationFailed, numAttribs := some required }
          else
            { status := .success, numAttribs := some required
              written := decodeAttributes drv cfg videoDecodeCaps }

end Calls

section Drivers

variable {drv : NVDriver}

/-! ## Counts -/

/-- The count that is told is the number of entries that are written. -/
theorem decodeAttributes_length (cfg : NVConfig) (videoDecodeCaps : DecodeCaps) :
    (decodeAttributes drv cfg videoDecodeCaps).length = requiredAttributes drv cfg := by
  unfold decodeAttributes requiredAttributes
  by_cases hchroma : cfg.chromaFormat = .chroma444
  · simp [hchroma]
  · by_cases h16 : drv.supports16BitSurface = true
    · simp [hchroma, h16]
    · simp [hchroma, h16]

theorem videoProcAttributes_length :
    (videoProcAttributes drv).length = if drv.supports16BitSurface then 15 else 14 := by
  unfold videoProcAttributes
  by_cases h16 : drv.supports16BitSurface = true
  · simp [h16, rgbFormats]
  · simp [h16, rgbFormats]

/-- The count of a config. -/
def attributeCount (drv : NVDriver) (cfg : NVConfig) : Nat :=
  if cfg.entrypoint = .videoProc then (if drv.supports16BitSurface then 15 else 14)
  else requiredAttributes drv cfg

/-! ## The entries -/

/-- A pixel format that surfaces of the driver can have. -/
def Creatable (drv : NVDriver) (code : Nat) : Prop :=
  nvFormatFromSurfaceFourcc code ≠ .none ∧
    ((formatsInfo (nvFormatFromSurfaceFourcc code)).bppc = 2 → drv.supports16BitSurface = true) ∧
    ((formatsInfo (nvFormatFromSurfaceFourcc code)).numPlanes = 3 → drv.supports444Surface = true)

theorem creatable_8Bit {code : Nat} (hformat : nvFormatFromSurfaceFourcc code = .nv12 ∨
    nvFormatFromSurfaceFourcc code = .argb) : Creatable drv code := by
  rcases hformat with hformat | hformat <;> rw [Creatable, hformat] <;>
    exact ⟨by decide, fun h => absurd h (by decide), fun h => absurd h (by decide)⟩

theorem creatable_16Bit {code : Nat} (hformat : nvFormatFromSurfaceFourcc code = .p010 ∨
    nvFormatFromSurfaceFourcc code = .p012 ∨ nvFormatFromSurfaceFourcc code = .p016)
    (h16 : drv.supports16BitSurface = true) : Creatable drv code := by
  rcases hformat with hformat | hformat | hformat <;> rw [Creatable, hformat] <;>
    exact ⟨by decide, fun _ => h16, fun h => absurd h (by decide)⟩

theorem creatable_444 {code : Nat} (hformat : nvFormatFromSurfaceFourcc code = .yuv444P ∨
    nvFormatFromSurfaceFourcc code = .q416) (h16 : drv.supports16BitSurface = true)
    (h444 : drv.supports444Surface = true) : Creatable drv code := by
  rcases hformat with hformat | hformat <;> rw [Creatable, hformat] <;>
    exact ⟨by decide, fun _ => h16, fun _ => h444⟩

theorem videoProcAttributes_creatable {attrib : VASurfaceAttrib}
    (hattrib : attrib ∈ videoProcAttributes drv) (htype : attrib.type = .pixelFormat) :
    Creatable drv attrib.value := by
  unfold videoProcAttributes at hattrib
  rw [List.append_assoc, List.append_assoc, List.mem_append, List.mem_append, List.mem_append]
    at hattrib
  rcases hattrib with hattrib | hattrib | hattrib | hattrib
  · have hvalue : attrib = pixelFormatAttrib vaFourccNV12 := by
      simp at hattrib
      rcases hattrib with rfl | rfl | rfl | rfl | rfl <;> simp_all
    rw [hvalue]
    exact creatable_8Bit (Or.inl (by decide))
  · by_cases h16 : drv.supports16BitSurface = true
    · rw [if_pos h16, List.mem_singleton] at hattrib
      rw [hattrib]
      exact creatable_16Bit (Or.inl (by decide)) h16
    · rw [if_neg h16] at hattrib
      cases hattrib
  · obtain ⟨code, hcode, rfl⟩ := List.mem_map.mp hattrib
    have hrgb : ∀ code ∈ rgbFormats, nvFormatFromSurfaceFourcc code = .argb := by decide
    exact creatable_8Bit (Or.inr (hrgb code hcode))
  · rw [List.mem_singleton] at hattrib
    rw [hattrib] at htype
    cases htype

theorem decodeAttributes_creatable (hdrv : Initialised drv) {cfg : NVConfig}
    (hcfg : cfg.WellFormed drv) (videoDecodeCaps : DecodeCaps) {attrib : VASurfaceAttrib}
    (hattrib : attrib ∈ decodeAttributes drv cfg videoDecodeCaps)
    (htype : attrib.type = .pixelFormat) : Creatable drv attrib.value := by
  unfold decodeAttributes at hattrib
  rw [List.append_assoc, List.mem_append, List.mem_append] at hattrib
  rcases hattrib with hattrib | hattrib | hattrib
  · simp at hattrib
    rcases hattrib with rfl | rfl | rfl | rfl <;> cases htype
  · by_cases hchroma : cfg.chromaFormat = .chroma444
    · have h444 := hcfg.held.2 hchroma
      have h16 := hdrv.surfaces h444
      rw [if_pos hchroma] at hattrib
      simp only [List.mem_cons, List.not_mem_nil, or_false] at hattrib
      rcases hattrib with rfl | rfl
      · exact creatable_444 (Or.inl (by decide)) h16 h444
      · exact creatable_444 (Or.inr (by decide)) h16 h444
    · rw [if_neg hchroma, List.mem_cons] at hattrib
      rcases hattrib with rfl | hattrib
      · exact creatable_8Bit (Or.inl (by decide))
      · by_cases h16 : drv.supports16BitSurface = true
        · rw [if_pos h16] at hattrib
          simp only [List.mem_cons, List.not_mem_nil, or_false] at hattrib
          rcases hattrib with rfl | rfl | rfl
          · exact creatable_16Bit (Or.inl (by decide)) h16
          · exact creatable_16Bit (Or.inr (Or.inl (by decide))) h16
          · exact creatable_16Bit (Or.inr (Or.inr (by decide))) h16
        · rw [if_neg h16] at hattrib
          cases hattrib
  · rw [List.mem_singleton] at hattrib
    rw [hattrib] at htype
    cases htype

/-! ## Two calls -/

/-- The query never finds a config invalid whose formats the driver holds. -/
theorem surfaces_held {cfg : NVConfig} (hcfg : cfg.WellFormed drv) :
    ¬((cfg.chromaFormat = .chroma444 ∨ cfg.surfaceFormat = .yuv444_16Bit) ∧
      drv.supports444Surface = false) ∧
    ¬(cfg.surfaceFormat = .p016 ∧ drv.supports16BitSurface = false) := by
  have h444 : ¬((cfg.chromaFormat = .chroma444 ∨ cfg.surfaceFormat = .yuv444_16Bit) ∧
      drv.supports444Surface = false) := by
    rintro ⟨hformat, hnot⟩
    have hchroma : cfg.chromaFormat = .chroma444 := by
      rcases hformat with hchroma | hsurface
      · exact hchroma
      · rw [hcfg.surfaceFormat] at hsurface
        cases hchroma : cfg.chromaFormat with
        | chroma444 => rfl
        | chroma420 =>
          rw [hchroma, surfaceFormatOf] at hsurface
          split_ifs at hsurface
    rw [hcfg.held.2 hchroma] at hnot
    cases hnot
  have h16 : ¬(cfg.surfaceFormat = .p016 ∧ drv.supports16BitSurface = false) := by
    rintro ⟨hsurface, hnot⟩
    have hdepth : 8 < cfg.bitDepth := by
      rcases hcfg.depth with hdepth | hdepth | hdepth
      · rw [hcfg.surfaceFormat, hdepth] at hsurface
        cases hchroma : cfg.chromaFormat <;> rw [hchroma] at hsurface <;> cases hsurface
      · omega
      · omega
    rw [hcfg.held.1 hdepth] at hnot
    cases hnot
  exact ⟨h444, h16⟩

/-- What an application gets that asks for the count first: the same count at every call, an
array that is too small is left alone, and one that is large enough is filled up to the count
or left alone.  Every pixel format in it is one that a surface of the driver can have. -/
theorem nvQuerySurfaceAttributes_contract (hdrv : Initialised drv) {allocated : Bool}
    {profile : VAProfile} {entrypoint : VAEntrypoint} {attrib_list : List VAConfigAttrib}
    {cfg : NVConfig}
    (hcfg : nvCreateConfig drv allocated profile entrypoint attrib_list = .ok cfg) :
    ∃ count, ∀ answer capacity,
      nvQuerySurfaceAttributes drv answer (some cfg) capacity false =
        { status := .success, numAttribs := some count } ∧
      (capacity < count → nvQuerySurfaceAttributes drv answer (some cfg) capacity true =
        { status := .maxNumExceeded, numAttribs := some count }) ∧
      (count ≤ capacity →
        let reply := nvQuerySurfaceAttributes drv answer (some cfg) capacity true
        reply.numAttribs = some count ∧
        (reply.status = .success ∧ reply.written.length = count ∨
          reply.status = .operationFailed ∧ reply.written = []) ∧
        ∀ attrib ∈ reply.written, attrib.type = .pixelFormat → Creatable drv attrib.value) := by
  refine ⟨attributeCount drv cfg, fun answer capacity => ?_⟩
  rcases nvCreateConfig_ok hdrv hcfg with ⟨rfl, rfl, rfl⟩ | ⟨rfl, -, rfl⟩
  · refine ⟨rfl, fun hsmall => ?_, fun henough => ?_⟩
    · simp only [attributeCount, if_true] at hsmall ⊢
      simp [nvQuerySurfaceAttributes, hsmall]
    · simp only [attributeCount, if_true] at henough ⊢
      simp only [nvQuerySurfaceAttributes, if_true, if_false, Bool.true_eq_false,
        if_neg (not_lt.mpr henough)]
      exact ⟨trivial, Or.inl ⟨trivial, videoProcAttributes_length⟩,
        fun attrib hattrib htype => videoProcAttributes_creatable hattrib htype⟩
  · have hformed := decodeConfig_wellFormed drv profile (requestedRTFormat attrib_list)
    have hentry := (decodeConfig_keeps drv profile (requestedRTFormat attrib_list)).2.1
    generalize decodeConfig drv profile (requestedRTFormat attrib_list) = cfg at *
    have hcount : attributeCount drv cfg = requiredAttributes drv cfg := by
      rw [attributeCount, if_neg (by rw [hentry]; decide)]
    obtain ⟨h444, h16⟩ := surfaces_held hformed
    have hvld : cfg.entrypoint ≠ .videoProc := by
      rw [hentry]
      decide
    unfold nvQuerySurfaceAttributes
    simp only [hcount, if_neg hvld, if_neg h444, if_neg h16]
    refine ⟨rfl, fun hsmall => ?_, fun henough => ?_⟩
    · simp [hsmall]
    · simp only [Bool.true_eq_false, if_false, if_neg (not_lt.mpr henough)]
      cases answer.pushed with
      | false => simp
      | true =>
        cases hgpu : drv.gpu cfg.cudaCodec cfg.bitDepth cfg.chromaFormat with
        | none => simp
        | some videoDecodeCaps =>
          cases answer.popped with
          | false => simp
          | true =>
            refine ⟨rfl, Or.inl ⟨rfl, decodeAttributes_length cfg videoDecodeCaps⟩, ?_⟩
            exact fun attrib hattrib htype =>
              decodeAttributes_creatable hdrv hformed videoDecodeCaps hattrib htype

theorem nvQuerySurfaceAttributes_contract_hevc :
    (nvQuerySurfaceAttributes initialisedDriver {}
      (some (decodeConfig initialisedDriver .hevcMain10 0)) 8 true).written = [] := by
  have hcfg : nvCreateConfig initialisedDriver true .hevcMain10 .vld [] =
      .ok (decodeConfig initialisedDriver .hevcMain10 0) := by decide
  obtain ⟨count, hcontract⟩ :=
    nvQuerySurfaceAttributes_contract initialisedDriver_initialised hcfg
  have hcount : some 9 = some count := congrArg AttributesReply.numAttribs (hcontract {} 0).1
  cases hcount
  rw [(hcontract {} 8).2.1 (by decide)]

/-- For a config that decodes to what the GPU confirmed, the largest pictures told of the
profile are those told of the surfaces of the config, and the call that tells them succeeds. -/
theorem nvQuerySurfaceAttributes_sizes (hdrv : Initialised drv) {allocated : Bool}
    {profile : VAProfile} {attrib_list : List VAConfigAttrib} {cfg : NVConfig}
    (hcfg : nvCreateConfig drv allocated profile .vld attrib_list = .ok cfg)
    (hchoice : requestedRTFormat attrib_list = 0 ∨ choosesFormat profile = false)
    {capacity : Nat} (hcapacity : attributeCount drv cfg ≤ capacity) :
    ∃ caps : DecodeCaps, caps.bIsSupported = true ∧
      (∀ width height : BitVec 32,
        nvGetConfigAttributes drv {} profile .vld
            [⟨.maxPictureWidth, width⟩, ⟨.maxPictureHeight, height⟩] =
          (.success, [⟨.maxPictureWidth, BitVec.ofNat 32 caps.nMaxWidth⟩,
            ⟨.maxPictureHeight, BitVec.ofNat 32 caps.nMaxHeight⟩])) ∧
      nvQuerySurfaceAttributes drv {} (some cfg) capacity true =
        { status := .success, numAttribs := some (attributeCount drv cfg)
          written := decodeAttributes drv cfg caps } := by
  obtain ⟨htuple, hconfirmed⟩ := nvCreateConfig_confirmed hdrv hcfg hchoice
  rcases nvCreateConfig_ok hdrv hcfg with ⟨habsurd, -, -⟩ | ⟨-, hoffered, hcfg⟩
  · cases habsurd
  have hformed := decodeConfig_wellFormed drv profile (requestedRTFormat attrib_list)
  obtain ⟨-, hentry, hcodec⟩ := decodeConfig_keeps drv profile
    (requestedRTFormat attrib_list)
  rw [← hcfg] at hformed hentry hcodec
  have hcount : attributeCount drv cfg = requiredAttributes drv cfg := by
    rw [attributeCount, if_neg (by rw [hentry]; decide)]
  unfold doesGPUSupportCodec at hconfirmed
  cases hgpu : drv.gpu cfg.cudaCodec cfg.bitDepth cfg.chromaFormat with
  | none =>
    rw [hgpu] at hconfirmed
    cases hconfirmed
  | some caps =>
    rw [hgpu] at hconfirmed
    refine ⟨caps, hconfirmed, ?_, ?_⟩
    · intro width height
      have hcaps : queryProfileDecodeCaps drv true true profile = .ok caps := by
        unfold queryProfileDecodeCaps
        rw [htuple]
        simp only [← hcodec, hgpu]
        simp [hconfirmed]
      have hlisted := (hdrv.driverSupportsProfile_iff profile).mpr (Or.inr hoffered)
      simp [nvGetConfigAttributes, hlisted, hoffered.known, getDecodeAttributes, capsOf, hcaps]
    · obtain ⟨h444, h16⟩ := surfaces_held hformed
      unfold nvQuerySurfaceAttributes
      rw [hcount] at hcapacity ⊢
      simp [hentry, h444, h16, not_lt.mpr hcapacity, hgpu]

theorem nvQuerySurfaceAttributes_sizes_hevc :
    (nvQuerySurfaceAttributes initialisedDriver {}
      (some (decodeConfig initialisedDriver .hevcMain10 0)) 16 true).status = .success := by
  have hcfg : nvCreateConfig initialisedDriver true .hevcMain10 .vld [] =
      .ok (decodeConfig initialisedDriver .hevcMain10 0) := by decide
  obtain ⟨caps, -, -, hreply⟩ := nvQuerySurfaceAttributes_sizes initialisedDriver_initialised
    hcfg (Or.inl rfl)
    (show attributeCount initialisedDriver (decodeConfig initialisedDriver .hevcMain10 0) ≤ 16
      by decide)
  rw [hreply]

end Drivers

end Configs
end NvidiaVaapi
