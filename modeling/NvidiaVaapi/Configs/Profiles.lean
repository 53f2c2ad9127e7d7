import NvidiaVaapi.Surface.Images
import Mathlib.Tactic.Tauto

/-!
# Profiles

The profiles that the driver offers: `nvQueryConfigProfiles2` asks the GPU once, `vaToCuCodec`
asks the codecs of the section `nvd_codecs`, in the order in which they were linked.
-/

namespace NvidiaVaapi
namespace Configs

open Surface (CudaSurfaceFormat CudaChromaFormat)

/-- `VA_STATUS_SUCCESS` and the errors of the calls for configs. -/
inductive VAStatus
  | success | operationFailed | allocationFailed | invalidConfig | invalidParameter
  | unsupportedProfile | unsupportedEntrypoint | maxNumExceeded
  deriving DecidableEq, Repr

/-- `VAProfile`; a number that the driver does not know is `other`. -/
inductive VAProfile
  | none | mpeg2Simple | mpeg2Main | mpeg4Simple | mpeg4AdvancedSimple | mpeg4Main | h263Baseline
  | vc1Simple | vc1Main | vc1Advanced | h264ConstrainedBaseline | h264Main | h264High
  | h264StereoHigh | h264MultiviewHigh | jpegBaseline | vp8Version0_3 | hevcMain | hevcMain10
  | hevcMain12 | hevcMain444 | hevcMain444_10 | hevcMain444_12 | vp9Profile0 | vp9Profile1
  | vp9Profile2 | vp9Profile3 | av1Profile0 | av1Profile1 | other (value : Nat)
  deriving DecidableEq, Repr

inductive VAEntrypoint
  | vld | videoProc | other (value : Nat)
  deriving DecidableEq, Repr

/-- `cudaVideoCodec` with the `cudaVideoCodec_NONE` of the driver. -/
inductive CudaVideoCodec
  | none | mpeg2 | mpeg4 | vc1 | h264 | jpeg | h264SVC | h264MVC | hevc | vp8 | vp9 | av1
  deriving DecidableEq, Repr

/-! ## Codecs -/

/-- What a codec says about profiles. -/
structure NVCodec where
  computeCudaCodec : VAProfile → CudaVideoCodec
  supportedProfiles : List VAProfile

def mpeg2Codec : NVCodec where
  computeCudaCodec
    | .mpeg2Main | .mpeg2Simple => .mpeg2
    | _ => .none
  supportedProfiles := [.mpeg2Main, .mpeg2Simple]

def vc1Codec : NVCodec where
  computeCudaCodec
    | .vc1Advanced | .vc1Main | .vc1Simple => .vc1
    | _ => .none
  supportedProfiles := [.vc1Simple, .vc1Main, .vc1Advanced]

def h264Codec : NVCodec where
  computeCudaCodec
    | .h264ConstrainedBaseline | .h264Main | .h264High => .h264
    | _ => .none
  supportedProfiles := [.h264ConstrainedBaseline, .h264Main, .h264High]

def hevcCodec : NVCodec where
  computeCudaCodec
    | .hevcMain | .hevcMain10 | .hevcMain12 | .hevcMain444 | .hevcMain444_10 | .hevcMain444_12 =>
      .hevc
    | _ => .none
  supportedProfiles :=
    [.hevcMain, .hevcMain10, .hevcMain12, .hevcMain444, .hevcMain444_10, .hevcMain444_12]

def jpegCodec : NVCodec where
  computeCudaCodec
    | .jpegBaseline => .jpeg
    | _ => .none
  supportedProfiles := [.jpegBaseline]

def vp8Codec : NVCodec where
  computeCudaCodec
    | .vp8Version0_3 => .vp8
    | _ => .none
  supportedProfiles := [.vp8Version0_3]

def vp9Codec : NVCodec where
  computeCudaCodec
    | .vp9Profile0 | .vp9Profile1 | .vp9Profile2 | .vp9Profile3 => .vp9
    | _ => .none
  supportedProfiles := [.vp9Profile0, .vp9Profile1, .vp9Profile2, .vp9Profile3]

def av1Codec : NVCodec where
  computeCudaCodec
    | .av1Profile0 | .av1Profile1 => .av1
    | _ => .none
  supportedProfiles := [.av1Profile0, .av1Profile1]

/-- The codecs that are built; VP9 needs a parser that may be missing, and MPEG-4 is not
declared. -/
def nvdCodecs (vp9 : Bool) : List NVCodec :=
  [mpeg2Codec, vc1Codec, h264Codec, hevcCodec, jpegCodec, vp8Codec] ++
    (if vp9 then [vp9Codec] else []) ++ [av1Codec]

/-- The first codec that knows the profile decides. -/
def vaToCuCodec (codecs : List NVCodec) (profile : VAProfile) : CudaVideoCodec :=
  match codecs with
  | [] => .none
  | c :: rest =>
    let cvc := c.computeCudaCodec profile
    if cvc ≠ .none then cvc else vaToCuCodec rest profile

/-- The loop of `nvCreateContext`, which goes on after a codec is found. -/
def selectCodec (codecs : List NVCodec) (profile : VAProfile) : Option NVCodec :=
  codecs.foldl (fun selectedCodec c =>
    if profile ∈ c.supportedProfiles then some c else selectedCodec) none

/-! ## The GPU -/

/-- What `cuvidGetDecoderCaps` tells. -/
structure DecodeCaps where
  bIsSupported : Bool
  nMinWidth : Nat
  nMinHeight : Nat
  nMaxWidth : Nat
  nMaxHeight : Nat
  deriving DecidableEq, Repr

/-- The answer of the GPU to a codec, a bit depth and a chroma format; none is an error. -/
abbrev Gpu := CudaVideoCodec → Nat → CudaChromaFormat → Option DecodeCaps

def doesGPUSupportCodec (gpu : Gpu) (codec : CudaVideoCodec) (bitDepth : Nat)
    (chromaFormat : CudaChromaFormat) : Bool :=
  match gpu codec bitDepth chromaFormat with
  | none => false
  | some videoDecodeCaps => videoDecodeCaps.bIsSupported

/-- The driver, as far as configs depend on it: `profiles` are the first `profileCount`. -/
structure NVDriver where
  codecs : List NVCodec
  gpu : Gpu
  supports16BitSurface : Bool
  supports444Surface : Bool
  profiles : List VAProfile := []

/-- `MAX_PROFILES`. -/
def maxProfiles : Nat := 32

section Profiles

variable (drv : NVDriver)

/-- Profiles that are written when the GPU supports a codec. -/
def listed (codec : CudaVideoCodec) (bitDepth : Nat) (chromaFormat : CudaChromaFormat)
    (profiles : List VAProfile) : List VAProfile :=
  if doesGPUSupportCodec drv.gpu codec bitDepth chromaFormat then profiles else []

/-- The profiles that `nvQueryConfigProfiles2` writes before it filters them. -/
def gpuProfiles : List VAProfile :=
  listed drv .mpeg2 8 .chroma420 [.mpeg2Simple, .mpeg2Main] ++
  listed drv .mpeg4 8 .chroma420 [.mpeg4Simple, .mpeg4AdvancedSimple, .mpeg4Main] ++
  listed drv .vc1 8 .chroma420 [.vc1Simple, .vc1Main, .vc1Advanced] ++
  listed drv .h264 8 .chroma420 [.h264Main, .h264High, .h264ConstrainedBaseline] ++
  listed drv .jpeg 8 .chroma420 [.jpegBaseline] ++
  listed drv .h264SVC 8 .chroma420 [.h264StereoHigh] ++
  listed drv .h264MVC 8 .chroma420 [.h264MultiviewHigh] ++
  listed drv .hevc 8 .chroma420 [.hevcMain] ++
  listed drv .vp8 8 .chroma420 [.vp8Version0_3] ++
  listed drv .vp9 8 .chroma420 [.vp9Profile0] ++
  listed drv .av1 8 .chroma420 [.av1Profile0] ++
  (if drv.supports16BitSurface then
    listed drv .hevc 10 .chroma420 [.hevcMain10] ++
    listed drv .hevc 12 .chroma420 [.hevcMain12] ++
    listed drv .vp9 10 .chroma420 [.vp9Profile2]
  else []) ++
  (if drv.supports444Surface then
    listed drv .hevc 8 .chroma444 [.hevcMain444] ++
    listed drv .vp9 8 .chroma444 [.vp9Profile1] ++
    listed drv .av1 8 .chroma444 [.av1Profile1] ++
    (if drv.supports16BitSurface then
      listed drv .hevc 10 .chroma444 [.hevcMain444_10] ++
      listed drv .hevc 12 .chroma444 [.hevcMain444_12] ++
      listed drv .vp9 10 .chroma444 [.vp9Profile3]
    else [])
  else [])

/-- The loop that takes out profiles without a codec, each by moving the rest down. -/
def removeWithoutCodec (codecs : List NVCodec) (i : Nat) (profile_list : List VAProfile) :
    List VAProfile :=
  if h : i < profile_list.length then
    if vaToCuCodec codecs profile_list[i] = .none then
      removeWithoutCodec codecs i (profile_list.eraseIdx i)
    else removeWithoutCodec codecs (i + 1) profile_list
  else profile_list
termination_by profile_list.length - i
decreasing_by
  · rw [List.length_eraseIdx_of_lt h]
    omega
  · omega

/-- `pushed` and `popped` are the calls for the CUDA context. -/
def nvQueryConfigProfiles2 (pushed popped : Bool) : Except VAStatus (List VAProfile) :=
  if pushed = false then .error .operationFailed
  else
    let profile_list := removeWithoutCodec drv.codecs 0 (gpuProfiles drv) ++ [.none]
    if popped = false then .error .operationFailed else .ok profile_list

def driverSupportsProfile (profile : VAProfile) : Bool := profile ∈ drv.profiles

/-- The bit depth and the chroma format by which `profileDecodeTuple` asks the GPU. -/
def profileDecodeFormat (profile : VAProfile) : Nat × CudaChromaFormat :=
  match profile with
  | .hevcMain10 | .vp9Profile2 => (10, .chroma420)
  | .hevcMain12 => (12, .chroma420)
  | .hevcMain444 | .vp9Profile1 | .av1Profile1 => (8, .chroma444)
  | .hevcMain444_10 | .vp9Profile3 => (10, .chroma444)
  | .hevcMain444_12 => (12, .chroma444)
  | _ => (8, .chroma420)

/-- `profileDecodeTuple`: no result is a profile without a codec. -/
def profileDecodeTuple (profile : VAProfile) : Option (Nat × CudaChromaFormat) :=
  if vaToCuCodec drv.codecs profile ≠ .none then some (profileDecodeFormat profile) else none

def queryProfileDecodeCaps (pushed popped : Bool) (profile : VAProfile) :
    Except VAStatus DecodeCaps :=
  match profileDecodeTuple drv profile with
  | none => .error .unsupportedProfile
  | some (bitDepth, chromaFormat) =>
    if pushed = false then .error .operationFailed
    else match drv.gpu (vaToCuCodec drv.codecs profile) bitDepth chromaFormat with
      | none => .error .operationFailed
      | some caps =>
        if popped = false then .error .operationFailed
        else if caps.bIsSupported then .ok caps else .error .unsupportedProfile

end Profiles

/-! ## The order of the codecs -/

/-- Codecs of which each answers for the profiles that it lists, and no profile is listed
twice. -/
structure Registry (codecs : List NVCodec) : Prop where
  consistent : ∀ c ∈ codecs, ∀ profile,
    c.computeCudaCodec profile ≠ .none ↔ profile ∈ c.supportedProfiles
  nodup : (codecs.flatMap NVCodec.supportedProfiles).Nodup

/-- The order in which the codecs were linked does not matter. -/
theorem Registry.perm {codecs codecs' : List NVCodec} (h : Registry codecs)
    (hperm : codecs'.Perm codecs) : Registry codecs' where
  consistent := fun c hc => h.consistent c (hperm.mem_iff.mp hc)
  nodup := (hperm.flatMap_right _).nodup_iff.mpr h.nodup

namespace Registry

variable {codecs : List NVCodec}

theorem tail {c : NVCodec} (h : Registry (c :: codecs)) : Registry codecs where
  consistent := fun c' hc' => h.consistent c' (List.mem_cons_of_mem c hc')
  nodup := (List.nodup_append.mp h.nodup).2.1

/-- A profile that the head lists is listed by no codec after it. -/
theorem not_mem_tail {c : NVCodec} (h : Registry (c :: codecs)) {profile : VAProfile}
    (hprofile : profile ∈ c.supportedProfiles) {c' : NVCodec} (hc' : c' ∈ codecs) :
    profile ∉ c'.supportedProfiles := by
  intro hmem
  have hapart := (List.nodup_append.mp h.nodup).2.2
  exact hapart profile hprofile profile (List.mem_flatMap.mpr ⟨c', hc', hmem⟩) rfl

/-- The codec of a profile decides, wherever it stands. -/
theorem vaToCuCodec_eq (h : Registry codecs) {c : NVCodec} (hc : c ∈ codecs)
    {profile : VAProfile} (hprofile : profile ∈ c.supportedProfiles) :
    vaToCuCodec codecs profile = c.computeCudaCodec profile := by
  induction codecs with
  | nil => cases hc
  | cons head codecs ih =>
    rw [vaToCuCodec]
    rcases List.mem_cons.mp hc with rfl | hc
    · rw [if_pos ((h.consistent c List.mem_cons_self profile).mpr hprofile)]
    · have hhead : head.computeCudaCodec profile = .none := by
        by_contra hne
        have hlisted := (h.consistent head List.mem_cons_self profile).mp hne
        exact h.not_mem_tail hlisted hc hprofile
      rw [if_neg (not_not_intro hhead)]
      exact ih h.tail hc

/-- Without a codec that lists the profile there is no answer. -/
theorem vaToCuCodec_eq_none (h : Registry codecs) {profile : VAProfile}
    (hprofile : ∀ c ∈ codecs, profile ∉ c.supportedProfiles) :
    vaToCuCodec codecs profile = .none := by
  induction codecs with
  | nil => rfl
  | cons head codecs ih =>
    have hhead : ¬ head.computeCudaCodec profile ≠ .none := fun hne =>
      hprofile head List.mem_cons_self ((h.consistent head List.mem_cons_self profile).mp hne)
    rw [vaToCuCodec, if_neg hhead]
    exact ih h.tail fun c hc => hprofile c (List.mem_cons_of_mem head hc)

/-- The loop that keeps the last codec finds the same one. -/
theorem selectCodec_eq (h : Registry codecs) {c : NVCodec} (hc : c ∈ codecs)
    {profile : VAProfile} (hprofile : profile ∈ c.supportedProfiles) :
    selectCodec codecs profile = some c := by
  -- What is found before the codec is overwritten, what comes after it lists other profiles.
  obtain ⟨before, after, rfl⟩ := List.append_of_mem hc
  have hafter : ∀ c' ∈ after, profile ∉ c'.supportedProfiles := by
    have htail : Registry (c :: after) := by
      clear hc
      induction before with
      | nil => exact h
      | cons head before ih => exact ih h.tail
    exact fun c' hc' => htail.not_mem_tail hprofile hc'
  rw [selectCodec, List.foldl_append, List.foldl_cons, if_pos hprofile]
  clear h hc
  induction after with
  | nil => rfl
  | cons head after ih =>
    rw [List.foldl_cons, if_neg (hafter head List.mem_cons_self)]
    exact ih fun c' hc' => hafter c' (List.mem_cons_of_mem head hc')

theorem selectCodec_eq_none {profile : VAProfile}
    (hprofile : ∀ c ∈ codecs, profile ∉ c.supportedProfiles) :
    selectCodec codecs profile = none := by
  rw [selectCodec]
  induction codecs with
  | nil => rfl
  | cons head codecs ih =>
    rw [List.foldl_cons, if_neg (hprofile head List.mem_cons_self)]
    exact ih fun c hc => hprofile c (List.mem_cons_of_mem head hc)

/-- Another order of the codecs gives every profile the same codec. -/
theorem vaToCuCodec_perm {codecs' : List NVCodec} (h : Registry codecs)
    (hperm : codecs'.Perm codecs) (profile : VAProfile) :
    vaToCuCodec codecs' profile = vaToCuCodec codecs profile := by
  by_cases hknown : ∃ c ∈ codecs, profile ∈ c.supportedProfiles
  · obtain ⟨c, hc, hprofile⟩ := hknown
    rw [h.vaToCuCodec_eq hc hprofile,
      (h.perm hperm).vaToCuCodec_eq (hperm.mem_iff.mpr hc) hprofile]
  · have hnone : ∀ c ∈ codecs, profile ∉ c.supportedProfiles :=
      fun c hc hprofile => hknown ⟨c, hc, hprofile⟩
    rw [h.vaToCuCodec_eq_none hnone,
      (h.perm hperm).vaToCuCodec_eq_none fun c hc => hnone c (hperm.mem_iff.mp hc)]

theorem selectCodec_perm {codecs' : List NVCodec} (h : Registry codecs)
    (hperm : codecs'.Perm codecs) (profile : VAProfile) :
    selectCodec codecs' profile = selectCodec codecs profile := by
  by_cases hknown : ∃ c ∈ codecs, profile ∈ c.supportedProfiles
  · obtain ⟨c, hc, hprofile⟩ := hknown
    rw [h.selectCodec_eq hc hprofile,
      (h.perm hperm).selectCodec_eq (hperm.mem_iff.mpr hc) hprofile]
  · have hnone : ∀ c ∈ codecs, profile ∉ c.supportedProfiles :=
      fun c hc hprofile => hknown ⟨c, hc, hprofile⟩
    rw [selectCodec_eq_none hnone,
      selectCodec_eq_none fun c hc => hnone c (hperm.mem_iff.mp hc)]

/-- A profile that `vaToCuCodec` knows is one for which a context finds its codec. -/
theorem exists_codec (h : Registry codecs) {profile : VAProfile}
    (hknown : vaToCuCodec codecs profile ≠ .none) :
    ∃ c ∈ codecs, profile ∈ c.supportedProfiles ∧ selectCodec codecs profile = some c ∧
      c.computeCudaCodec profile = vaToCuCodec codecs profile := by
  by_contra hnot
  refine hknown (h.vaToCuCodec_eq_none fun c hc hprofile => hnot ?_)
  exact ⟨c, hc, hprofile, h.selectCodec_eq hc hprofile, (h.vaToCuCodec_eq hc hprofile).symm⟩

end Registry

/-- The codecs of the driver are a registry. -/
theorem nvdCodecs_registry (vp9 : Bool) : Registry (nvdCodecs vp9) where
  consistent := by
    intro c hc profile
    have hmem : c = mpeg2Codec ∨ c = vc1Codec ∨ c = h264Codec ∨ c = hevcCodec ∨ c = jpegCodec ∨
        c = vp8Codec ∨ c = vp9Codec ∨ c = av1Codec := by
      cases vp9 <;> simp [nvdCodecs] at hc <;> tauto
    rcases hmem with rfl | rfl | rfl | rfl | rfl | rfl | rfl | rfl <;> cases profile <;>
      simp [mpeg2Codec, vc1Codec, h264Codec, hevcCodec, jpegCodec, vp8Codec, vp9Codec, av1Codec]
  nodup := by
    cases vp9 <;> decide

end Configs
end NvidiaVaapi
