import NvidiaVaapi.Configs.Calls

/-!
# The list of profiles

Which profiles `nvQueryConfigProfiles2` leaves in the list of the driver.  What the GPU says is
asked for each codec and depth in turn, what the codecs say only afterwards, when the list is
filtered in place.
-/

namespace NvidiaVaapi
namespace Configs

open Surface (CudaSurfaceFormat CudaChromaFormat)

/-! ## The filter -/

/-- The loop keeps what stands before its index and filters the rest. -/
theorem removeWithoutCodec_eq (codecs : List NVCodec) (i : Nat) (profile_list : List VAProfile) :
    removeWithoutCodec codecs i profile_list =
      profile_list.take i ++
        (profile_list.drop i).filter fun profile => vaToCuCodec codecs profile ≠ .none := by
  induction i, profile_list using removeWithoutCodec.induct codecs with
  | case1 i profile_list hi hnone ih =>
    -- The entry is taken out, and the index stays.
    rw [removeWithoutCodec, dif_pos hi, if_pos hnone, ih, List.drop_eq_getElem_cons hi,
      List.filter_cons_of_neg (by simpa using hnone),
      List.take_eraseIdx_eq_take_of_le _ _ _ (le_refl i)]
    have hdrop : (profile_list.eraseIdx i).drop i = profile_list.drop (i + 1) := by
      rw [List.eraseIdx_eq_take_drop_succ, List.drop_append_of_le_length]
      · simp
      · simp
        omega
    rw [hdrop]
  | case2 i profile_list hi hsome ih =>
    rw [removeWithoutCodec, dif_pos hi, if_neg hsome, ih, List.drop_eq_getElem_cons hi,
      List.filter_cons_of_pos (by simpa using hsome), List.take_succ_eq_append_getElem hi,
      List.append_assoc, List.singleton_append]
  | case3 i profile_list hi =>
    rw [removeWithoutCodec, dif_neg hi, List.take_of_length_le (by omega),
      List.drop_eq_nil_of_le (by omega), List.filter_nil, List.append_nil]

section Drivers

variable {drv : NVDriver}

/-! ## What is written -/

/-- A driver with everything that the profiles ask for. -/
def capableDriver : NVDriver where
  codecs := nvdCodecs true
  gpu := fun _ _ _ => some ⟨true, 48, 16, 4096, 4096⟩
  supports16BitSurface := true
  supports444Surface := true

/-- Every profile that `nvQueryConfigProfiles2` may write, in the order in which it does. -/
def allProfiles : List VAProfile := gpuProfiles capableDriver

theorem listed_sublist (codec : CudaVideoCodec) (bitDepth : Nat)
    (chromaFormat : CudaChromaFormat) (profiles : List VAProfile) :
    (listed drv codec bitDepth chromaFormat profiles).Sublist
      (listed capableDriver codec bitDepth chromaFormat profiles) := by
  show (if _ then profiles else []).Sublist profiles
  split
  · exact List.Sublist.refl profiles
  · exact List.nil_sublist profiles

theorem ite_sublist {p : Prop} [Decidable p] {written profiles : List VAProfile}
    (h : written.Sublist profiles) :
    (if p then written else []).Sublist (if true = true then profiles else []) := by
  rw [if_pos rfl]
  split
  · exact h
  · exact List.nil_sublist profiles

/-- The list is written in one order, with gaps. -/
theorem gpuProfiles_sublist : (gpuProfiles drv).Sublist allProfiles := by
  unfold allProfiles gpuProfiles
  repeat' first
    | apply listed_sublist
    | apply ite_sublist
    | apply List.Sublist.append

theorem allProfiles_nodup : allProfiles.Nodup := by decide

theorem none_not_mem_allProfiles : VAProfile.none ∉ allProfiles := by decide

/-! ## What the driver offers -/

/-- Whether the surfaces of the driver hold pictures of a depth and a chroma format. -/
def Holds (drv : NVDriver) (bitDepth : Nat) (chromaFormat : CudaChromaFormat) : Prop :=
  (8 < bitDepth → drv.supports16BitSurface = true) ∧
    (chromaFormat = .chroma444 → drv.supports444Surface = true)

/-- What a profile has to meet to be offered for decoding: a codec for it is linked, the
surfaces hold what it decodes to, and the GPU decodes that. -/
structure Offered (drv : NVDriver) (profile : VAProfile) : Prop where
  known : vaToCuCodec drv.codecs profile ≠ .none
  held : Holds drv (profileDecodeFormat profile).1 (profileDecodeFormat profile).2
  confirmed : doesGPUSupportCodec drv.gpu (vaToCuCodec drv.codecs profile)
    (profileDecodeFormat profile).1 (profileDecodeFormat profile).2 = true

theorem mem_listed {codec : CudaVideoCodec} {bitDepth : Nat} {chromaFormat : CudaChromaFormat}
    {profiles : List VAProfile} {profile : VAProfile} :
    profile ∈ listed drv codec bitDepth chromaFormat profiles ↔
      doesGPUSupportCodec drv.gpu codec bitDepth chromaFormat = true ∧ profile ∈ profiles := by
  unfold listed
  split
  · simp [*]
  · simp [*]

theorem mem_ite_nil {p : Prop} [Decidable p] {profiles : List VAProfile} {profile : VAProfile} :
    profile ∈ (if p then profiles else []) ↔ p ∧ profile ∈ profiles := by
  split
  · simp [*]
  · simp [*]

/-- The codec that the linked codecs give each profile. -/
theorem vaToCuCodec_nvdCodecs (vp9 : Bool) (profile : VAProfile) :
    vaToCuCodec (nvdCodecs vp9) profile = (match profile with
      | .mpeg2Simple | .mpeg2Main => .mpeg2
      | .vc1Simple | .vc1Main | .vc1Advanced => .vc1
      | .h264ConstrainedBaseline | .h264Main | .h264High => .h264
      | .jpegBaseline => .jpeg
      | .vp8Version0_3 => .vp8
      | .hevcMain | .hevcMain10 | .hevcMain12 | .hevcMain444 | .hevcMain444_10
      | .hevcMain444_12 => .hevc
      | .vp9Profile0 | .vp9Profile1 | .vp9Profile2 | .vp9Profile3 =>
        if vp9 then .vp9 else .none
      | .av1Profile0 | .av1Profile1 => .av1
      | _ => .none) := by
  cases vp9 <;> cases profile <;> rfl

/-- The codec that decodes a profile when all of them are linked. -/
theorem vaToCuCodec_of_known {vp9 : Bool} (hcodecs : drv.codecs.Perm (nvdCodecs vp9))
    {profile : VAProfile} (hknown : vaToCuCodec drv.codecs profile ≠ .none) :
    vaToCuCodec drv.codecs profile = vaToCuCodec (nvdCodecs true) profile := by
  rw [(nvdCodecs_registry vp9).vaToCuCodec_perm hcodecs] at hknown ⊢
  cases vp9 with
  | true => rfl
  | false =>
    rw [vaToCuCodec_nvdCodecs] at hknown
    rw [vaToCuCodec_nvdCodecs, vaToCuCodec_nvdCodecs]
    cases profile <;> first | rfl | exact absurd rfl hknown

/-- A profile that a codec decodes is written if and only if the GPU and the surfaces allow
what the profile decodes to. -/
theorem mem_gpuProfiles {vp9 : Bool} (hcodecs : drv.codecs.Perm (nvdCodecs vp9))
    {profile : VAProfile} (hknown : vaToCuCodec drv.codecs profile ≠ .none) :
    profile ∈ gpuProfiles drv ↔ Offered drv profile := by
  have hcodec := vaToCuCodec_of_known hcodecs hknown
  have hoffered : Offered drv profile ↔
      Holds drv (profileDecodeFormat profile).1 (profileDecodeFormat profile).2 ∧
        doesGPUSupportCodec drv.gpu (vaToCuCodec (nvdCodecs true) profile)
          (profileDecodeFormat profile).1 (profileDecodeFormat profile).2 = true := by
    rw [← hcodec]
    exact ⟨fun h => ⟨h.held, h.confirmed⟩, fun h => ⟨hknown, h.1, h.2⟩⟩
  rw [hoffered]
  rw [hcodec] at hknown
  clear hoffered hcodec hcodecs
  simp only [gpuProfiles, List.mem_append, mem_listed, mem_ite_nil]
  cases profile <;>
    first
    | exact absurd rfl hknown
    | simp [Holds, profileDecodeFormat, vaToCuCodec_nvdCodecs, and_assoc, and_left_comm]

/-- The list that is left, without the profile of video processing. -/
def keptProfiles (drv : NVDriver) : List VAProfile :=
  (gpuProfiles drv).filter fun profile => vaToCuCodec drv.codecs profile ≠ .none

theorem nvQueryConfigProfiles2_ok (drv : NVDriver) :
    nvQueryConfigProfiles2 drv true true = .ok (keptProfiles drv ++ [.none]) := by
  show Except.ok (removeWithoutCodec drv.codecs 0 (gpuProfiles drv) ++ [VAProfile.none]) = _
  rw [removeWithoutCodec_eq, List.take_zero, List.drop_zero, List.nil_append]
  rfl

/-- A call that succeeds leaves that list. -/
theorem nvQueryConfigProfiles2_eq {pushed popped : Bool} {profile_list : List VAProfile}
    (hlist : nvQueryConfigProfiles2 drv pushed popped = .ok profile_list) :
    profile_list = keptProfiles drv ++ [.none] := by
  cases pushed with
  | false => cases hlist
  | true =>
    cases popped with
    | false => cases hlist
    | true =>
      rw [nvQueryConfigProfiles2_ok] at hlist
      cases hlist
      rfl

/-- The profiles of an initialised driver: the ones that a codec, the surfaces and the GPU
allow, each once, and the one for video processing at the end.  The array of the driver has
room for them, also before the filter takes any of them out. -/
theorem nvQueryConfigProfiles2_offers {vp9 : Bool} (hcodecs : drv.codecs.Perm (nvdCodecs vp9))
    {pushed popped : Bool} {profile_list : List VAProfile}
    (hlist : nvQueryConfigProfiles2 drv pushed popped = .ok profile_list) :
    (∀ profile, profile ∈ profile_list ↔ profile = .none ∨ Offered drv profile) ∧
      profile_list.Nodup ∧ profile_list.getLast? = some .none ∧
      (gpuProfiles drv).length < maxProfiles ∧ profile_list.length ≤ maxProfiles := by
  have heq := nvQueryConfigProfiles2_eq hlist
  have hfilter : (keptProfiles drv).Sublist allProfiles :=
    List.filter_sublist.trans gpuProfiles_sublist
  have hall : allProfiles.length < maxProfiles := by decide
  refine ⟨fun profile => ?_, ?_, ?_, ?_, ?_⟩
  · rw [heq, List.mem_append, List.mem_singleton, keptProfiles, List.mem_filter, or_comm]
    apply or_congr_right
    constructor
    · rintro ⟨hmem, hknown⟩
      have hknown : vaToCuCodec drv.codecs profile ≠ .none := by simpa using hknown
      exact (mem_gpuProfiles hcodecs hknown).mp hmem
    · intro hoffered
      exact ⟨(mem_gpuProfiles hcodecs hoffered.known).mpr hoffered,
        by simpa using hoffered.known⟩
  · rw [heq, List.nodup_append]
    refine ⟨hfilter.nodup allProfiles_nodup, List.nodup_singleton _, ?_⟩
    intro profile hprofile none' hnone hsame
    rw [List.mem_singleton] at hnone
    rw [hsame, hnone] at hprofile
    exact none_not_mem_allProfiles (hfilter.subset hprofile)
  · rw [heq, List.getLast?_concat]
  · exact lt_of_le_of_lt gpuProfiles_sublist.length_le hall
  · have hlength := hfilter.length_le
    rw [heq, List.length_append, List.length_singleton]
    omega

theorem nvQueryConfigProfiles2_offers_capable :
    VAProfile.h264Main ∈ keptProfiles capableDriver ++ [.none] := by
  have hcodecs : capableDriver.codecs.Perm (nvdCodecs true) := List.Perm.refl _
  have h := (nvQueryConfigProfiles2_offers hcodecs
    (nvQueryConfigProfiles2_ok capableDriver)).1 .h264Main
  exact h.mpr (Or.inr ⟨by decide, ⟨fun h => absurd h (by decide), fun h => nomatch h⟩, rfl⟩)

end Drivers

end Configs
end NvidiaVaapi
