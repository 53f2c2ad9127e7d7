import NvidiaVaapi.Configs.Created

/-!
# The formats of configs and contexts

The depth, the chroma format and the surface format of a config belong together, the surfaces
of the driver hold them, and they are among the RT formats that the driver tells of the config.
A context that is created for the config decodes to them.
-/

namespace NvidiaVaapi
namespace Configs

open Surface (CudaSurfaceFormat CudaChromaFormat NVSurface RTFormat)

/-- The surface format of pictures of a depth and a chroma format. -/
def surfaceFormatOf (bitDepth : Nat) (chromaFormat : CudaChromaFormat) : CudaSurfaceFormat :=
  match chromaFormat with
  | .chroma420 => if bitDepth = 8 then .nv12 else .p016
  | .chroma444 => if bitDepth = 8 then .yuv444 else .yuv444_16Bit

/-- The formats of a config belong together, and the surfaces of the driver hold them. -/
structure NVConfig.WellFormed (drv : NVDriver) (cfg : NVConfig) : Prop where
  depth : cfg.bitDepth = 8 ∨ cfg.bitDepth = 10 ∨ cfg.bitDepth = 12
  surfaceFormat : cfg.surfaceFormat = surfaceFormatOf cfg.bitDepth cfg.chromaFormat
  held : Holds drv cfg.bitDepth cfg.chromaFormat

/-- The profiles for which an RT format of the application chooses among several. -/
def choosesFormat (profile : VAProfile) : Bool :=
  profile = .vp9Profile2 || profile = .vp9Profile3 || profile = .av1Profile0 ||
    profile = .av1Profile1

section Drivers

variable {drv : NVDriver}

/-! ## The switches -/

theorem holds_420_16 (h16 : drv.supports16BitSurface = true) (bitDepth : Nat) :
    Holds drv bitDepth .chroma420 :=
  ⟨fun _ => h16, fun h => nomatch h⟩

theorem holds_444_8 (h444 : drv.supports444Surface = true) : Holds drv 8 .chroma444 :=
  ⟨fun h => absurd h (by omega), fun _ => h444⟩

theorem holds_444_16 (h16 : drv.supports16BitSurface = true)
    (h444 : drv.supports444Surface = true) (bitDepth : Nat) : Holds drv bitDepth .chroma444 :=
  ⟨fun _ => h16, fun _ => h444⟩

/-- The first switch moves a config of 8 bits to one of 10 or 12. -/
theorem select16Bit_wellFormed (h16 : drv.supports16BitSurface = true) (rtFormat : BitVec 32)
    {cfg : NVConfig} (hcfg : cfg.WellFormed drv) (hchroma : cfg.chromaFormat = .chroma420) :
    (select16Bit rtFormat cfg).WellFormed drv := by
  have h10 : NVConfig.WellFormed drv { cfg with surfaceFormat := .p016, bitDepth := 10 } :=
    ⟨Or.inr (Or.inl rfl), by rw [hchroma]; rfl, by rw [hchroma]; exact holds_420_16 h16 10⟩
  have h12 : NVConfig.WellFormed drv { cfg with surfaceFormat := .p016, bitDepth := 12 } :=
    ⟨Or.inr (Or.inr rfl), by rw [hchroma]; rfl, by rw [hchroma]; exact holds_420_16 h16 12⟩
  unfold select16Bit
  split <;> (try split_ifs) <;> assumption

theorem select444_wellFormed (h444 : drv.supports444Surface = true) {cfg : NVConfig}
    (hcfg : cfg.WellFormed drv) : (select444 cfg).WellFormed drv := by
  unfold select444
  split
  iterate 3 exact ⟨Or.inl rfl, rfl, holds_444_8 h444⟩
  exact hcfg

theorem select444_16Bit_wellFormed (h16 : drv.supports16BitSurface = true)
    (h444 : drv.supports444Surface = true) (rtFormat : BitVec 32) {cfg : NVConfig}
    (hcfg : cfg.WellFormed drv) : (select444_16Bit rtFormat cfg).WellFormed drv := by
  have h8 : NVConfig.WellFormed drv
      { cfg with surfaceFormat := .yuv444, chromaFormat := .chroma444, bitDepth := 8 } :=
    ⟨Or.inl rfl, rfl, holds_444_8 h444⟩
  have h10 : NVConfig.WellFormed drv
      { cfg with surfaceFormat := .yuv444_16Bit, chromaFormat := .chroma444, bitDepth := 10 } :=
    ⟨Or.inr (Or.inl rfl), rfl, holds_444_16 h16 h444 10⟩
  have h12 : NVConfig.WellFormed drv
      { cfg with surfaceFormat := .yuv444_16Bit, chromaFormat := .chroma444, bitDepth := 12 } :=
    ⟨Or.inr (Or.inr rfl), rfl, holds_444_16 h16 h444 12⟩
  unfold select444_16Bit
  split <;> (try split_ifs) <;> assumption

/-- Whatever the application asks for, the config of a profile is well formed. -/
theorem decodeConfig_wellFormed (drv : NVDriver) (profile : VAProfile) (rtFormat : BitVec 32) :
    (decodeConfig drv profile rtFormat).WellFormed drv := by
  have hstart : NVConfig.WellFormed drv
      { profile := profile, entrypoint := .vld, cudaCodec := vaToCuCodec drv.codecs profile } :=
    ⟨Or.inl rfl, rfl, fun h => absurd h (Nat.lt_irrefl 8), fun h => nomatch h⟩
  unfold decodeConfig
  by_cases h16 : drv.supports16BitSurface = true
  · have hfirst := select16Bit_wellFormed h16 rtFormat hstart rfl
    by_cases h444 : drv.supports444Surface = true
    · have hsecond := select444_wellFormed h444 hfirst
      simpa [h16, h444] using select444_16Bit_wellFormed h16 h444 rtFormat hsecond
    · simpa [h16, h444] using hfirst
  · by_cases h444 : drv.supports444Surface = true
    · simpa [h16, h444] using select444_wellFormed h444 hstart
    · simpa [h16, h444] using hstart

/-- Unless the application chooses, a config decodes to what the GPU was asked for when its
profile was listed. -/
theorem decodeConfig_tuple {profile : VAProfile} (hoffered : Offered drv profile)
    {rtFormat : BitVec 32} (hchoice : rtFormat = 0 ∨ choosesFormat profile = false) :
    ((decodeConfig drv profile rtFormat).bitDepth,
      (decodeConfig drv profile rtFormat).chromaFormat) = profileDecodeFormat profile := by
  have hheld := hoffered.held
  unfold decodeConfig
  cases profile <;> simp [choosesFormat] at hchoice <;>
    simp_all [Holds, profileDecodeFormat, select16Bit, select444, select444_16Bit]

/-! ## What the application was told -/

/-- The bit of an RT format. -/
def rtFormatBit : RTFormat → BitVec 32
  | .yuv420 => vaRtFormatYUV420
  | .yuv420_10 => vaRtFormatYUV420_10
  | .yuv420_12 => vaRtFormatYUV420_12
  | .yuv444 => vaRtFormatYUV444
  | .yuv444_10 => vaRtFormatYUV444_10
  | .yuv444_12 => vaRtFormatYUV444_12
  | .rgb32 => vaRtFormatRGB32
  | .other => 0

/-- The RT format of a depth and a chroma format. -/
def rtFormatOf (bitDepth : Nat) (chromaFormat : CudaChromaFormat) : RTFormat :=
  match chromaFormat with
  | .chroma420 => if bitDepth = 8 then .yuv420 else if bitDepth = 10 then .yuv420_10 else .yuv420_12
  | .chroma444 => if bitDepth = 8 then .yuv444 else if bitDepth = 10 then .yuv444_10 else .yuv444_12

/-- Surfaces that are created in the RT format of a config have the formats of the config. -/
theorem NVConfig.WellFormed.surfaces {cfg : NVConfig} (hcfg : cfg.WellFormed drv) :
    (rtFormatOf cfg.bitDepth cfg.chromaFormat).surfaceFormat =
      some (cfg.surfaceFormat, cfg.chromaFormat, cfg.bitDepth) := by
  rw [hcfg.surfaceFormat]
  rcases hcfg.depth with hdepth | hdepth | hdepth <;> rw [hdepth] <;>
    cases cfg.chromaFormat <;> rfl

theorem yuv420_told (profile : VAProfile) :
    vaRtFormatYUV420 &&& supportedRTFormat drv profile ≠ 0 := by
  unfold supportedRTFormat
  by_cases h16 : drv.supports16BitSurface = true <;>
    by_cases h444 : drv.supports444Surface = true <;> simp only [h16, h444] <;>
    cases profile <;> first | decide | (simp only [profileRTFormat]; decide)

/-- A format that an application asks for among those it was told is one of these. -/
theorem told_of_requested {rtFormat told bit : BitVec 32} (hrequest : rtFormat &&& told = rtFormat)
    (hbit : rtFormat &&& bit ≠ 0) : bit &&& told ≠ 0 := by
  intro hzero
  apply hbit
  rw [← hrequest, BitVec.and_assoc, BitVec.and_comm told bit, hzero]
  exact BitVec.and_zero

/-- The formats of a config are told of a profile. -/
def NVConfig.Told (drv : NVDriver) (profile : VAProfile) (cfg : NVConfig) : Prop :=
  rtFormatBit (rtFormatOf cfg.bitDepth cfg.chromaFormat) &&& supportedRTFormat drv profile ≠ 0

/-- The first switch follows the request, or takes a depth that the profile always has. -/
theorem select16Bit_told (h16 : drv.supports16BitSurface = true) {profile : VAProfile}
    {rtFormat : BitVec 32} (hrequest : rtFormat &&& supportedRTFormat drv profile = rtFormat)
    {cfg : NVConfig} (hprofile : cfg.profile = profile) (hchroma : cfg.chromaFormat = .chroma420)
    (hcfg : cfg.Told drv profile) : (select16Bit rtFormat cfg).Told drv profile := by
  have h10 : vaRtFormatYUV420_10 &&& supportedRTFormat drv profile ≠ 0 →
      NVConfig.Told drv profile { cfg with surfaceFormat := .p016, bitDepth := 10 } := by
    intro h
    rw [NVConfig.Told, hchroma]
    exact h
  have h12 : vaRtFormatYUV420_12 &&& supportedRTFormat drv profile ≠ 0 →
      NVConfig.Told drv profile { cfg with surfaceFormat := .p016, bitDepth := 12 } := by
    intro h
    rw [NVConfig.Told, hchroma]
    exact h
  unfold select16Bit
  split
  case h_1 hmain =>
    obtain rfl := hprofile.symm.trans hmain
    apply h10
    rw [supportedRTFormat, if_pos h16]
    split_ifs <;> decide
  case h_2 hmain =>
    obtain rfl := hprofile.symm.trans hmain
    apply h12
    rw [supportedRTFormat, if_pos h16]
    split_ifs <;> decide
  case h_3 hmain =>
    split_ifs with hasked hbit12 hbit10
    · exact h12 (told_of_requested hrequest hbit12)
    · exact h10 (told_of_requested hrequest hbit10)
    · exact hcfg
    · obtain rfl := hprofile.symm.trans hmain
      apply h10
      rw [supportedRTFormat, if_pos h16]
      split_ifs <;> decide
  case h_4 hmain =>
    split_ifs with hasked hbit12 hbit10 hvp9
    · exact h12 (told_of_requested hrequest hbit12)
    · exact h10 (told_of_requested hrequest hbit10)
    · exact hcfg
    · exact absurd (hmain.symm.trans hvp9) (by decide)
    · exact hcfg
  case h_5 => exact hcfg

theorem select444_told (h444 : drv.supports444Surface = true) {profile : VAProfile}
    {cfg : NVConfig} (hprofile : cfg.profile = profile) (hcfg : cfg.Told drv profile) :
    (select444 cfg).Told drv profile := by
  unfold select444
  split
  case h_4 => exact hcfg
  all_goals
    rename_i hmain
    obtain rfl := hprofile.symm.trans hmain
    show vaRtFormatYUV444 &&& supportedRTFormat drv _ ≠ 0
    rw [supportedRTFormat, if_pos h444]
    split_ifs <;> decide

/-- The last switch follows the request too. -/
theorem select444_16Bit_told (h16 : drv.supports16BitSurface = true)
    (h444 : drv.supports444Surface = true) {profile : VAProfile} {rtFormat : BitVec 32}
    (hrequest : rtFormat &&& supportedRTFormat drv profile = rtFormat) {cfg : NVConfig}
    (hprofile : cfg.profile = profile) (hcfg : cfg.Told drv profile) :
    (select444_16Bit rtFormat cfg).Told drv profile := by
  have hasks : ∀ bit : BitVec 32, rtFormat &&& bit ≠ 0 →
      bit &&& supportedRTFormat drv profile ≠ 0 :=
    fun bit hbit => told_of_requested hrequest hbit
  unfold select444_16Bit
  split
  case h_1 hmain =>
    obtain rfl := hprofile.symm.trans hmain
    show vaRtFormatYUV444_10 &&& supportedRTFormat drv _ ≠ 0
    rw [supportedRTFormat, if_pos h16, if_pos h444]
    decide
  case h_2 hmain =>
    obtain rfl := hprofile.symm.trans hmain
    show vaRtFormatYUV444_12 &&& supportedRTFormat drv _ ≠ 0
    rw [supportedRTFormat, if_pos h16, if_pos h444]
    decide
  case h_3 hmain =>
    split_ifs with hasked hbit12 hbit10 hbit8
    · exact hasks _ hbit12
    · exact hasks _ hbit10
    · exact hasks _ hbit8
    · exact hcfg
    · obtain rfl := hprofile.symm.trans hmain
      show vaRtFormatYUV444_10 &&& supportedRTFormat drv _ ≠ 0
      rw [supportedRTFormat, if_pos h16, if_pos h444]
      decide
  case h_4 hmain =>
    split_ifs with hasked hbit12 hbit10 hbit8 hvp9
    · exact hasks _ hbit12
    · exact hasks _ hbit10
    · exact hasks _ hbit8
    · exact hcfg
    · exact absurd (hmain.symm.trans hvp9) (by decide)
    · exact hcfg
  case h_5 => exact hcfg

/-- As long as the application asks for formats that it was told, its config decodes to one of
them. -/
theorem decodeConfig_told (drv : NVDriver) (profile : VAProfile) {rtFormat : BitVec 32}
    (hrequest : rtFormat &&& supportedRTFormat drv profile = rtFormat) :
    (decodeConfig drv profile rtFormat).Told drv profile := by
  have hstart : NVConfig.Told drv profile
      { profile := profile, entrypoint := .vld, cudaCodec := vaToCuCodec drv.codecs profile } :=
    yuv420_told profile
  unfold decodeConfig
  by_cases h16 : drv.supports16BitSurface = true
  · have hfirst := select16Bit_told h16 hrequest rfl rfl hstart
    have hkept := (select16Bit_keeps rtFormat
      { profile := profile, entrypoint := .vld, cudaCodec := vaToCuCodec drv.codecs profile }).1
    by_cases h444 : drv.supports444Surface = true
    · have hsecond := select444_told h444 hkept hfirst
      have hthird := select444_16Bit_told h16 h444 hrequest
        ((select444_keeps _).1.trans hkept) hsecond
      simpa [h16, h444] using hthird
    · simpa [h16, h444] using hfirst
  · by_cases h444 : drv.supports444Surface = true
    · simpa [h16, h444] using select444_told h444 rfl hstart
    · simpa [h16, h444] using hstart

/-! ## Configs and contexts -/

/-- Render targets as `nvCreateSurfaces2` makes them in one RT format and one extent. -/
structure Targets (format : RTFormat) (width height : Nat) (targets : List NVSurface) : Prop where
  formats : ∀ surface ∈ targets,
    format.surfaceFormat = some (surface.format, surface.chromaFormat, surface.bitDepth)
  extent : ∀ surface ∈ targets, surface.width = width ∧ surface.height = height

theorem Targets.of_subset {format : RTFormat} {width height : Nat}
    {targets targets' : List NVSurface} (htargets : Targets format width height targets)
    (hsubset : targets' ⊆ targets) : Targets format width height targets' where
  formats := fun surface hsurface => htargets.formats surface (hsubset hsurface)
  extent := fun surface hsurface => htargets.extent surface (hsubset hsurface)

/-- Targets that agree with the first one pass the loop. -/
theorem checkTargets_true {format : RTFormat} {width height : Nat} {first : NVSurface}
    {rest : List NVSurface} (htargets : Targets format width height (first :: rest))
    {picture_width picture_height : Int} (hwidth : picture_width ≤ width)
    (hheight : picture_height ≤ height) :
    checkTargets first picture_width picture_height (rest.map some) = true := by
  obtain ⟨hfirstWidth, hfirstHeight⟩ := htargets.extent first List.mem_cons_self
  have hfirst := htargets.formats first List.mem_cons_self
  induction rest with
  | nil => rfl
  | cons surface rest ih =>
    have hmem : surface ∈ first :: surface :: rest := by simp
    obtain ⟨hsurfaceWidth, hsurfaceHeight⟩ := htargets.extent surface hmem
    have hsurface := htargets.formats surface hmem
    rw [hfirst] at hsurface
    obtain ⟨hformat, hchroma, hdepth⟩ : first.format = surface.format ∧
        first.chromaFormat = surface.chromaFormat ∧ first.bitDepth = surface.bitDepth := by
      simpa using hsurface
    have hsame : sameTarget first surface = true := by
      simp [sameTarget, hformat, hchroma, hdepth, hfirstWidth, hfirstHeight, hsurfaceWidth,
        hsurfaceHeight]
    have hrest : Targets format width height (first :: rest) := htargets.of_subset (by simp)
    rw [List.map_cons, checkTargets, if_neg (by omega), if_pos hsame]
    exact ih hrest

/-- Surfaces in the RT format of a config select the formats of the config, as no surfaces at
all do. -/
theorem selectFormats_targets {cfg : NVConfig} (hcfg : cfg.WellFormed drv) {width height : Nat}
    {targets : List NVSurface}
    (htargets : Targets (rtFormatOf cfg.bitDepth cfg.chromaFormat) width height targets)
    {picture_width picture_height : Int} (hwidth : 0 < picture_width ∧ picture_width ≤ width)
    (hheight : 0 < picture_height ∧ picture_height ≤ height) :
    selectFormats cfg picture_width picture_height (targets.map some) =
      some (cfg.surfaceFormat, cfg.chromaFormat, cfg.bitDepth) := by
  cases targets with
  | nil => rfl
  | cons first rest =>
    obtain ⟨hfirstWidth, hfirstHeight⟩ := htargets.extent first List.mem_cons_self
    have hfirst := htargets.formats first List.mem_cons_self
    rw [hcfg.surfaces] at hfirst
    rw [List.map_cons, selectFormats, if_neg (by omega),
      if_pos (checkTargets_true htargets hwidth.2 hheight.2), hfirst]

/-- A config that is made for decoding serves: its formats are ones that the driver tells of
it, as long as the application asked for such, and a context for it finds the codec that the
config was made by, and decodes to the formats of the config, without render targets as well
as with ones in its RT format. -/
theorem nvCreateConfig_serves (hdrv : Initialised drv) {allocated : Bool} {profile : VAProfile}
    {attrib_list : List VAConfigAttrib} {cfg : NVConfig}
    (hcfg : nvCreateConfig drv allocated profile .vld attrib_list = .ok cfg)
    (hrequest : requestedRTFormat attrib_list &&& supportedRTFormat drv profile =
      requestedRTFormat attrib_list) :
    (∃ attrib ∈ (nvQueryConfigAttributes drv cfg).2.2, attrib.type = .rtFormat ∧
      rtFormatBit (rtFormatOf cfg.bitDepth cfg.chromaFormat) &&& attrib.value ≠ 0) ∧
    ∀ (width height : Nat) (targets : List NVSurface) (picture_width picture_height : Int),
      Targets (rtFormatOf cfg.bitDepth cfg.chromaFormat) width height targets →
      0 < picture_width → picture_width ≤ 65535 → 0 < picture_height → picture_height ≤ 65535 →
      (targets ≠ [] → picture_width ≤ width ∧ picture_height ≤ height) →
      ∃ c ∈ drv.codecs, profile ∈ c.supportedProfiles ∧
        c.computeCudaCodec profile = cfg.cudaCodec ∧
        nvCreateContext drv {} (some cfg) picture_width picture_height (targets.map some) = .ok
          { profile := profile, entrypoint := .vld, width := picture_width
            height := picture_height, codec := some c, cudaCodec := some cfg.cudaCodec
            decoderSurfaceFormat := cfg.surfaceFormat
            decoderChromaFormat := some cfg.chromaFormat, decoderBitDepth := cfg.bitDepth
            clientRenderTargetCount := targets.length } := by
  rcases nvCreateConfig_ok hdrv hcfg with ⟨habsurd, -, -⟩ | ⟨-, hoffered, rfl⟩
  · cases habsurd
  obtain ⟨hprofile, hentry, hcodec⟩ := decodeConfig_keeps drv profile
    (requestedRTFormat attrib_list)
  have hformed := decodeConfig_wellFormed drv profile (requestedRTFormat attrib_list)
  have htold := decodeConfig_told drv profile hrequest
  generalize decodeConfig drv profile (requestedRTFormat attrib_list) = cfg at *
  constructor
  · refine ⟨⟨.rtFormat, supportedRTFormat drv profile⟩, ?_, rfl, htold⟩
    simp [nvQueryConfigAttributes, hprofile, hentry]
  · intro width height targets picture_width picture_height htargets hwidth hwidthMax hheight
      hheightMax hextent
    obtain ⟨c, hc, hlisted, hselected, hcomputes⟩ :=
      hdrv.registry.exists_codec hoffered.known
    refine ⟨c, hc, hlisted, hcomputes.trans hcodec.symm, ?_⟩
    have hformats : selectFormats cfg picture_width picture_height (targets.map some) =
        some (cfg.surfaceFormat, cfg.chromaFormat, cfg.bitDepth) := by
      by_cases hnil : targets = []
      · rw [hnil]
        rfl
      · obtain ⟨hfitsWidth, hfitsHeight⟩ := hextent hnil
        exact selectFormats_targets hformed htargets ⟨hwidth, hfitsWidth⟩ ⟨hheight, hfitsHeight⟩
    unfold nvCreateContext
    simp only
    rw [if_neg (by omega), if_neg (by rw [hentry]; decide), hprofile, hselected]
    simp only [hformats]
    simp [hentry]

theorem nvCreateConfig_serves_hevc :
    (nvCreateContext initialisedDriver {}
      (some (decodeConfig initialisedDriver .hevcMain10 0)) 64 48 []).toOption.map
        NVContext.decoderBitDepth = some 10 := by
  have hcfg : nvCreateConfig initialisedDriver true .hevcMain10 .vld [] =
      .ok (decodeConfig initialisedDriver .hevcMain10 0) := by decide
  have hnone : Targets .yuv420_10 0 0 [] :=
    ⟨fun _ h => absurd h List.not_mem_nil, fun _ h => absurd h List.not_mem_nil⟩
  obtain ⟨c, -, -, -, hcontext⟩ := (nvCreateConfig_serves initialisedDriver_initialised hcfg
    (by decide)).2 0 0 [] 64 48 hnone (by decide) (by decide) (by decide) (by decide)
    (fun h => absurd rfl h)
  rw [List.map_nil] at hcontext
  rw [hcontext]
  rfl

/-- A config that is made without an RT format decodes to what the GPU confirmed when the
profile was listed, and so does every config of a profile with one format only. -/
theorem nvCreateConfig_confirmed (hdrv : Initialised drv) {allocated : Bool}
    {profile : VAProfile} {attrib_list : List VAConfigAttrib} {cfg : NVConfig}
    (hcfg : nvCreateConfig drv allocated profile .vld attrib_list = .ok cfg)
    (hchoice : requestedRTFormat attrib_list = 0 ∨ choosesFormat profile = false) :
    profileDecodeTuple drv profile = some (cfg.bitDepth, cfg.chromaFormat) ∧
      doesGPUSupportCodec drv.gpu cfg.cudaCodec cfg.bitDepth cfg.chromaFormat = true := by
  rcases nvCreateConfig_ok hdrv hcfg with ⟨habsurd, -, -⟩ | ⟨-, hoffered, rfl⟩
  · cases habsurd
  have htuple := decodeConfig_tuple hoffered hchoice
  have hcodec := (decodeConfig_keeps drv profile (requestedRTFormat attrib_list)).2.2
  have hconfirmed := hoffered.confirmed
  rw [← htuple] at hconfirmed
  constructor
  · rw [profileDecodeTuple, if_pos hoffered.known, htuple]
  · rw [hcodec]
    exact hconfirmed

end Drivers

end Configs
end NvidiaVaapi
