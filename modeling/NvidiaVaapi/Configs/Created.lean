import NvidiaVaapi.Configs.ProfileList
import NvidiaVaapi.Surface.Calls

/-!
# Configs of an initialised driver

What the calls for configs answer once `__vaDriverInit_1_0` has filled the list of profiles:
the calls agree about what is supported, and a config names formats that belong together.
-/

namespace NvidiaVaapi
namespace Configs

open Surface (CudaSurfaceFormat CudaChromaFormat NVSurface RTFormat)

/-- A driver as `__vaDriverInit_1_0` leaves it.  The linker may have put the codecs in any
order; both backends report surfaces that are not subsampled only along with surfaces of 16
bits. -/
structure Initialised (drv : NVDriver) : Prop where
  codecs : ∃ vp9, drv.codecs.Perm (nvdCodecs vp9)
  profiles : nvQueryConfigProfiles2 drv true true = .ok drv.profiles
  surfaces : drv.supports444Surface = true → drv.supports16BitSurface = true

/-- A driver with everything, after its list is filled. -/
def initialisedDriver : NVDriver :=
  { capableDriver with profiles := keptProfiles capableDriver ++ [.none] }

theorem initialisedDriver_initialised : Initialised initialisedDriver where
  codecs := ⟨true, List.Perm.refl _⟩
  profiles := nvQueryConfigProfiles2_ok initialisedDriver
  surfaces := fun _ => rfl

section Drivers

variable {drv : NVDriver}

/-! ## What is supported -/

/-- The entrypoints of the driver: video processing without a profile, decoding for the
profiles it offers. -/
def Supports (drv : NVDriver) (profile : VAProfile) (entrypoint : VAEntrypoint) : Prop :=
  (entrypoint = .videoProc ∧ profile = .none) ∨ (entrypoint = .vld ∧ Offered drv profile)

theorem Initialised.registry (hdrv : Initialised drv) : Registry drv.codecs := by
  obtain ⟨vp9, hperm⟩ := hdrv.codecs
  exact (nvdCodecs_registry vp9).perm hperm

theorem Initialised.driverSupportsProfile_iff (hdrv : Initialised drv) (profile : VAProfile) :
    driverSupportsProfile drv profile = true ↔ profile = .none ∨ Offered drv profile := by
  obtain ⟨vp9, hperm⟩ := hdrv.codecs
  rw [driverSupportsProfile, decide_eq_true_iff]
  exact (nvQueryConfigProfiles2_offers hperm hdrv.profiles).1 profile

/-- No codec decodes the profile of video processing. -/
theorem Initialised.vaToCuCodec_none (hdrv : Initialised drv) :
    vaToCuCodec drv.codecs .none = .none := by
  obtain ⟨vp9, hperm⟩ := hdrv.codecs
  rw [(nvdCodecs_registry vp9).vaToCuCodec_perm hperm, vaToCuCodec_nvdCodecs]

theorem Initialised.not_offered_none (hdrv : Initialised drv) : ¬ Offered drv .none :=
  fun hoffered => hoffered.known hdrv.vaToCuCodec_none

/-- A profile is that of video processing, which is listed without a codec; or it is offered; or
it is not listed. -/
theorem Initialised.profile_cases (hdrv : Initialised drv) (profile : VAProfile) :
    (profile = .none ∧ driverSupportsProfile drv profile = true ∧
        vaToCuCodec drv.codecs profile = .none ∧ ¬Offered drv profile) ∨
      (profile ≠ .none ∧ driverSupportsProfile drv profile = true ∧
        vaToCuCodec drv.codecs profile ≠ .none ∧ Offered drv profile) ∨
      (profile ≠ .none ∧ driverSupportsProfile drv profile = false ∧ ¬Offered drv profile) := by
  have hlisted := hdrv.driverSupportsProfile_iff profile
  by_cases hnone : profile = .none
  · subst hnone
    exact Or.inl ⟨rfl, hlisted.mpr (Or.inl rfl), hdrv.vaToCuCodec_none, hdrv.not_offered_none⟩
  · by_cases hoffered : Offered drv profile
    · exact Or.inr (Or.inl ⟨hnone, hlisted.mpr (Or.inr hoffered), hoffered.known, hoffered⟩)
    · have hnot : ¬driverSupportsProfile drv profile = true :=
        fun h => (hlisted.mp h).elim hnone hoffered
      exact Or.inr (Or.inr ⟨hnone, by simpa using hnot, hoffered⟩)

/-- `nvQueryConfigEntrypoints` lists what is supported. -/
theorem nvQueryConfigEntrypoints_iff (hdrv : Initialised drv) (profile : VAProfile)
    (entrypoint : VAEntrypoint) :
    (∃ entrypoint_list, nvQueryConfigEntrypoints drv profile = .ok entrypoint_list ∧
      entrypoint ∈ entrypoint_list) ↔ Supports drv profile entrypoint := by
  unfold nvQueryConfigEntrypoints Supports
  rcases hdrv.profile_cases profile with
    ⟨rfl, hlisted, -, hoffered⟩ | ⟨hnone, hlisted, -, hoffered⟩ | ⟨hnone, hlisted, hoffered⟩
  · simp [hlisted, hoffered]
  · simp [hnone, hlisted, hoffered]
  · simp [hnone, hlisted, hoffered]

/-- What is supported gets a config, and nothing else does. -/
theorem nvCreateConfig_iff (hdrv : Initialised drv) (profile : VAProfile)
    (entrypoint : VAEntrypoint) (attrib_list : List VAConfigAttrib) :
    (∃ cfg, nvCreateConfig drv true profile entrypoint attrib_list = .ok cfg) ↔
      Supports drv profile entrypoint := by
  unfold nvCreateConfig Supports
  by_cases hvpp : entrypoint = .videoProc ∧ profile = .none
  · simp [hvpp]
  · simp only [if_neg hvpp]
    rw [or_iff_right hvpp]
    rcases hdrv.profile_cases profile with
      ⟨-, hlisted, hcodec, hoffered⟩ | ⟨-, hlisted, hcodec, hoffered⟩ | ⟨-, hlisted, hoffered⟩
    · simp [hlisted, hcodec, hoffered]
    · by_cases hvld : entrypoint = .vld
      · simp [hlisted, hcodec, hvld, hoffered]
      · simp [hlisted, hcodec, hvld]
    · simp [hlisted, hoffered]

/-! ## Attributes -/

/-- The GPU confirmed an offered profile, so that its capabilities are there. -/
theorem Offered.capsOf (hoffered : Offered drv profile) (profileCaps : Option DecodeCaps) :
    ∃ caps, Configs.capsOf drv {} profile profileCaps = .ok caps := by
  cases profileCaps with
  | some caps => exact ⟨caps, rfl⟩
  | none =>
    have hconfirmed := hoffered.confirmed
    unfold doesGPUSupportCodec at hconfirmed
    show ∃ caps, queryProfileDecodeCaps drv true true profile = .ok caps
    unfold queryProfileDecodeCaps
    rw [profileDecodeTuple, if_pos hoffered.known]
    simp only
    cases hgpu : drv.gpu (vaToCuCodec drv.codecs profile) (profileDecodeFormat profile).1
        (profileDecodeFormat profile).2 with
    | none => simp [hgpu] at hconfirmed
    | some caps =>
      rw [hgpu] at hconfirmed
      exact ⟨caps, by simp [hconfirmed]⟩

/-- One round of the loop over the attributes of an offered profile. -/
theorem getDecodeAttributes_cons (hoffered : Offered drv profile)
    (profileCaps : Option DecodeCaps) (attrib : VAConfigAttrib) (rest : List VAConfigAttrib) :
    ∃ profileCaps' value, getDecodeAttributes drv {} profile profileCaps (attrib :: rest) =
        ((getDecodeAttributes drv {} profile profileCaps' rest).1,
          ⟨attrib.type, value⟩ :: (getDecodeAttributes drv {} profile profileCaps' rest).2) ∧
      (attrib.type = .rtFormat → value = supportedRTFormat drv profile) := by
  obtain ⟨caps, hcaps⟩ := hoffered.capsOf profileCaps
  obtain ⟨type, value⟩ := attrib
  rw [getDecodeAttributes]
  cases type with
  | rtFormat => exact ⟨profileCaps, _, rfl, fun _ => rfl⟩
  | maxPictureWidth =>
    simp only [hcaps]
    exact ⟨some caps, _, rfl, fun h => nomatch h⟩
  | maxPictureHeight =>
    simp only [hcaps]
    exact ⟨some caps, _, rfl, fun h => nomatch h⟩
  | other code => exact ⟨profileCaps, value, rfl, fun h => nomatch h⟩

/-- The loop comes to its end, and an RT format that it writes is the one of the profile. -/
theorem getDecodeAttributes_success (hoffered : Offered drv profile)
    (profileCaps : Option DecodeCaps) (attrib_list : List VAConfigAttrib) :
    (getDecodeAttributes drv {} profile profileCaps attrib_list).1 = .success ∧
      ∀ attrib ∈ (getDecodeAttributes drv {} profile profileCaps attrib_list).2,
        attrib.type = .rtFormat → attrib.value = supportedRTFormat drv profile := by
  induction attrib_list generalizing profileCaps with
  | nil => exact ⟨rfl, fun attrib hattrib => nomatch hattrib⟩
  | cons head rest ih =>
    obtain ⟨profileCaps', value, hround, hvalue⟩ := getDecodeAttributes_cons hoffered profileCaps
      head rest
    rw [hround]
    refine ⟨(ih profileCaps').1, fun attrib hattrib hrt => ?_⟩
    rcases List.mem_cons.mp hattrib with rfl | hattrib
    · exact hvalue hrt
    · exact (ih profileCaps').2 attrib hattrib hrt

/-- Attributes are told for what is supported, and for nothing else. -/
theorem nvGetConfigAttributes_iff (hdrv : Initialised drv) (profile : VAProfile)
    (entrypoint : VAEntrypoint) (attrib_list : List VAConfigAttrib) :
    (nvGetConfigAttributes drv {} profile entrypoint attrib_list).1 = .success ↔
      Supports drv profile entrypoint := by
  unfold nvGetConfigAttributes Supports
  by_cases hvpp : entrypoint = .videoProc ∧ profile = .none
  · simp [hvpp]
  · simp only [if_neg hvpp]
    rw [or_iff_right hvpp]
    by_cases hvld : entrypoint = .vld
    · rcases hdrv.profile_cases profile with
        ⟨-, -, hcodec, hoffered⟩ | ⟨-, hlisted, hcodec, hoffered⟩ | ⟨-, hlisted, hoffered⟩
      · simp [hvld, hcodec, hoffered]
      · have hloop := (getDecodeAttributes_success hoffered none attrib_list).1
        simp [hvld, hlisted, hcodec, hloop, hoffered]
      · simp [hvld, hlisted, hoffered]
    · simp [hvld]

/-! ## Configs -/

/-- The switches over profiles write the formats and nothing else. -/
theorem select16Bit_keeps (rtFormat : BitVec 32) (cfg : NVConfig) :
    (select16Bit rtFormat cfg).profile = cfg.profile ∧
      (select16Bit rtFormat cfg).entrypoint = cfg.entrypoint ∧
      (select16Bit rtFormat cfg).cudaCodec = cfg.cudaCodec ∧
      (select16Bit rtFormat cfg).chromaFormat = cfg.chromaFormat := by
  unfold select16Bit
  split <;> (try split_ifs) <;> exact ⟨rfl, rfl, rfl, rfl⟩

theorem select444_keeps (cfg : NVConfig) :
    (select444 cfg).profile = cfg.profile ∧ (select444 cfg).entrypoint = cfg.entrypoint ∧
      (select444 cfg).cudaCodec = cfg.cudaCodec := by
  unfold select444
  split <;> exact ⟨rfl, rfl, rfl⟩

theorem select444_16Bit_keeps (rtFormat : BitVec 32) (cfg : NVConfig) :
    (select444_16Bit rtFormat cfg).profile = cfg.profile ∧
      (select444_16Bit rtFormat cfg).entrypoint = cfg.entrypoint ∧
      (select444_16Bit rtFormat cfg).cudaCodec = cfg.cudaCodec := by
  unfold select444_16Bit
  split <;> (try split_ifs) <;> exact ⟨rfl, rfl, rfl⟩

theorem decodeConfig_keeps (drv : NVDriver) (profile : VAProfile) (rtFormat : BitVec 32) :
    (decodeConfig drv profile rtFormat).profile = profile ∧
      (decodeConfig drv profile rtFormat).entrypoint = .vld ∧
      (decodeConfig drv profile rtFormat).cudaCodec = vaToCuCodec drv.codecs profile := by
  unfold decodeConfig
  split_ifs <;> simp [select16Bit_keeps, select444_keeps, select444_16Bit_keeps]

/-- The configs that are made: one kind for video processing, the others for decoding an
offered profile. -/
theorem nvCreateConfig_ok (hdrv : Initialised drv) {allocated : Bool} {profile : VAProfile}
    {entrypoint : VAEntrypoint} {attrib_list : List VAConfigAttrib} {cfg : NVConfig}
    (hcfg : nvCreateConfig drv allocated profile entrypoint attrib_list = .ok cfg) :
    (entrypoint = .videoProc ∧ profile = .none ∧
        cfg = { profile := .none, entrypoint := .videoProc, cudaCodec := .none }) ∨
      (entrypoint = .vld ∧ Offered drv profile ∧
        cfg = decodeConfig drv profile (requestedRTFormat attrib_list)) := by
  have hallocated : allocated = true := by
    cases allocated with
    | true => rfl
    | false =>
      simp only [nvCreateConfig, if_true] at hcfg
      split_ifs at hcfg
  subst hallocated
  have hsupports := (nvCreateConfig_iff hdrv profile entrypoint attrib_list).mp ⟨cfg, hcfg⟩
  unfold nvCreateConfig at hcfg
  rcases hsupports with ⟨rfl, rfl⟩ | ⟨rfl, hoffered⟩
  · left
    rw [if_pos ⟨rfl, rfl⟩] at hcfg
    cases hcfg
    exact ⟨rfl, rfl, rfl⟩
  · right
    have hlisted := (hdrv.driverSupportsProfile_iff profile).mpr (Or.inr hoffered)
    simp [hlisted, hoffered.known] at hcfg
    exact ⟨rfl, hoffered, hcfg.symm⟩

/-- The four calls agree: a config is made, and attributes are told, for an entrypoint if and
only if it is listed for the profile; and the RT formats told before the config is made are
those told of the config. -/
theorem configCalls_agree (hdrv : Initialised drv) (profile : VAProfile)
    (entrypoint : VAEntrypoint) (attrib_list : List VAConfigAttrib) :
    ((∃ cfg, nvCreateConfig drv true profile entrypoint attrib_list = .ok cfg) ↔
      ∃ entrypoint_list, nvQueryConfigEntrypoints drv profile = .ok entrypoint_list ∧
        entrypoint ∈ entrypoint_list) ∧
    ((nvGetConfigAttributes drv {} profile entrypoint attrib_list).1 = .success ↔
      ∃ entrypoint_list, nvQueryConfigEntrypoints drv profile = .ok entrypoint_list ∧
        entrypoint ∈ entrypoint_list) ∧
    ∀ cfg, nvCreateConfig drv true profile entrypoint attrib_list = .ok cfg →
      (nvQueryConfigAttributes drv cfg).1 = profile ∧
      (nvQueryConfigAttributes drv cfg).2.1 = entrypoint ∧
      ∀ attrib ∈ (nvGetConfigAttributes drv {} profile entrypoint attrib_list).2,
        attrib.type = .rtFormat → attrib ∈ (nvQueryConfigAttributes drv cfg).2.2 := by
  have hentrypoints := nvQueryConfigEntrypoints_iff hdrv profile entrypoint
  refine ⟨(nvCreateConfig_iff hdrv ..).trans hentrypoints.symm,
    (nvGetConfigAttributes_iff hdrv ..).trans hentrypoints.symm, ?_⟩
  intro cfg hcfg
  rcases nvCreateConfig_ok hdrv hcfg with ⟨rfl, rfl, rfl⟩ | ⟨rfl, hoffered, rfl⟩
  · refine ⟨rfl, rfl, ?_⟩
    intro attrib hattrib hrt
    obtain ⟨before, _, rfl⟩ := List.mem_map.mp hattrib
    by_cases hbefore : before.type = .rtFormat
    · simp [nvQueryConfigAttributes, hbefore]
    · simp [hbefore] at hrt
  · obtain ⟨hprofile, hentry, -⟩ := decodeConfig_keeps drv profile
      (requestedRTFormat attrib_list)
    have hquery : nvQueryConfigAttributes drv
        (decodeConfig drv profile (requestedRTFormat attrib_list)) =
          (profile, .vld, [⟨.rtFormat, supportedRTFormat drv profile⟩]) := by
      simp [nvQueryConfigAttributes, hprofile, hentry]
    rw [hquery]
    refine ⟨rfl, rfl, ?_⟩
    intro attrib hattrib hrt
    have hloop : (nvGetConfigAttributes drv {} profile .vld attrib_list).2 =
        (getDecodeAttributes drv {} profile none attrib_list).2 := by
      have hlisted := (hdrv.driverSupportsProfile_iff profile).mpr (Or.inr hoffered)
      simp [nvGetConfigAttributes, hlisted, hoffered.known]
    rw [hloop] at hattrib
    have hvalue := (getDecodeAttributes_success hoffered none attrib_list).2 attrib hattrib hrt
    cases attrib
    simp only at hrt hvalue
    rw [hrt, hvalue]
    exact List.mem_singleton_self _

theorem configCalls_agree_hevc :
    (nvGetConfigAttributes initialisedDriver {} .hevcMain10 .vld
      [⟨.maxPictureWidth, 0⟩, ⟨.rtFormat, 0⟩]).1 = .success ∧
    (nvGetConfigAttributes initialisedDriver {} .h264Main .videoProc []).1 ≠ .success := by
  have hten := configCalls_agree initialisedDriver_initialised .hevcMain10 .vld
    [⟨.maxPictureWidth, 0⟩, ⟨.rtFormat, 0⟩]
  have hvpp := configCalls_agree initialisedDriver_initialised .h264Main .videoProc []
  constructor
  · exact hten.2.1.mpr ⟨[.vld], by decide, by decide⟩
  · intro hsuccess
    obtain ⟨entrypoint_list, hlist, hmem⟩ := hvpp.2.1.mp hsuccess
    have heq : nvQueryConfigEntrypoints initialisedDriver .h264Main = .ok [.vld] := by decide
    rw [heq] at hlist
    cases hlist
    revert hmem
    decide

/-! ## The order in which the codecs were linked -/

/-- Another order of the codecs changes no answer: not the list of profiles, not an attribute,
a config or a context. -/
theorem linkOrder_irrelevant {vp9 : Bool} (hcodecs : drv.codecs.Perm (nvdCodecs vp9))
    {codecs : List NVCodec} (hperm : codecs.Perm drv.codecs) :
    let drv' := { drv with codecs := codecs }
    (∀ pushed popped,
      nvQueryConfigProfiles2 drv' pushed popped = nvQueryConfigProfiles2 drv pushed popped) ∧
    (∀ answer profile entrypoint attrib_list,
      nvGetConfigAttributes drv' answer profile entrypoint attrib_list =
        nvGetConfigAttributes drv answer profile entrypoint attrib_list) ∧
    (∀ allocated profile entrypoint attrib_list,
      nvCreateConfig drv' allocated profile entrypoint attrib_list =
        nvCreateConfig drv allocated profile entrypoint attrib_list) ∧
    ∀ answer config picture_width picture_height render_targets,
      nvCreateContext drv' answer config picture_width picture_height render_targets =
        nvCreateContext drv answer config picture_width picture_height render_targets := by
  have hregistry : Registry drv.codecs := (nvdCodecs_registry vp9).perm hcodecs
  have hknown : vaToCuCodec codecs = vaToCuCodec drv.codecs :=
    funext fun profile => hregistry.vaToCuCodec_perm hperm profile
  have hselected : selectCodec codecs = selectCodec drv.codecs :=
    funext fun profile => hregistry.selectCodec_perm hperm profile
  intro drv'
  have hcaps : capsOf drv' = capsOf drv := by
    funext answer profile profileCaps
    simp only [capsOf, queryProfileDecodeCaps, profileDecodeTuple, drv', hknown]
  refine ⟨?_, ?_, ?_, ?_⟩
  · intro pushed popped
    simp only [nvQueryConfigProfiles2, removeWithoutCodec_eq, drv', hknown]
    rfl
  · intro answer profile entrypoint attrib_list
    have hloop : ∀ profileCaps, getDecodeAttributes drv' answer profile profileCaps attrib_list =
        getDecodeAttributes drv answer profile profileCaps attrib_list := by
      induction attrib_list with
      | nil => exact fun _ => rfl
      | cons attrib rest ih =>
        intro profileCaps
        rw [getDecodeAttributes, getDecodeAttributes]
        simp only [hcaps, ih]
        rfl
    simp only [nvGetConfigAttributes, hloop]
    simp only [drv', hknown]
    rfl
  · intro allocated profile entrypoint attrib_list
    simp only [nvCreateConfig, decodeConfig, drv', hknown]
    rfl
  · intro answer config picture_width picture_height render_targets
    simp only [nvCreateContext, drv', hselected]

theorem linkOrder_irrelevant_reversed :
    nvCreateConfig { initialisedDriver with codecs := initialisedDriver.codecs.reverse } true
      .av1Profile0 .vld [] = nvCreateConfig initialisedDriver true .av1Profile0 .vld [] := by
  have hcodecs : initialisedDriver.codecs.Perm (nvdCodecs true) := List.Perm.refl _
  exact (linkOrder_irrelevant hcodecs (List.reverse_perm _)).2.2.1 true .av1Profile0 .vld []

end Drivers

end Configs
end NvidiaVaapi
