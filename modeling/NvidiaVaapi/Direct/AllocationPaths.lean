import NvidiaVaapi.Direct.AllocationOwnership
import NvidiaVaapi.Surface.Allocation

/-!
# The ways to allocate a backing image

Each of the three ways leaves nothing where it fails, and an image that owns what is left
where it succeeds.
-/

namespace NvidiaVaapi
namespace Direct

open ResourceProgram
open Surface (NVDriverContext NVDriverImage NVDExportLayout NVFormatInfo NVFormatPlane NVSurface
  addPackedPlane addPackedPlanes calculateUnifiedImageLayout formatsInfo formatsInfo_planes
  nvFormatForSurface
  unifiedLayout_length)

variable {held : Set Resource} {img : BackingImage}

/-! ## Images that can be released -/

section Releasable

variable {i : Nat}

theorem Releasable.withFd (h : Releasable img) (fd : Int) : Releasable (img.withFd i fd) :=
  ⟨h.owned, h.resources, h.planes, h.single, h.separate⟩

theorem Releasable.withPlane (h : Releasable img) (info : NVFormatInfo) (image : NVDriverImage)
    (arrayHeight size : Nat) : Releasable (img.withPlane info i image arrayHeight size) :=
  ⟨h.owned, h.resources, h.planes, h.single, h.separate⟩

theorem Releasable.withCudaExtMem (h : Releasable img)
    (hi : i < (formatsInfo img.format).numPlanes) (hseparate : img.isSingleBuffer = false)
    (extMem : Nat) : Releasable (img.withCudaExtMem i extMem) where
  owned := h.owned
  resources := h.resources
  planes j hj := by
    have hne : j ≠ i := by
      rintro rfl
      exact absurd hi (Nat.not_lt.mpr hj)
    change Function.update img.cudaImages i _ j = {}
    rw [Function.update_of_ne hne]
    exact h.planes j hj
  single hsingle := by
    change img.isSingleBuffer = true at hsingle
    rw [hseparate] at hsingle
    cases hsingle
  separate := h.separate

theorem Releasable.withMipmapArray (h : Releasable img)
    (hi : i < (formatsInfo img.format).numPlanes) (mipmapArray : Nat) :
    Releasable (img.withMipmapArray i mipmapArray) where
  owned := h.owned
  resources := h.resources
  planes j hj := by
    have hne : j ≠ i := by
      rintro rfl
      exact absurd hi (Nat.not_lt.mpr hj)
    change Function.update img.cudaImages i _ j = {}
    rw [Function.update_of_ne hne]
    exact h.planes j hj
  single hsingle j := by
    have hold := h.single hsingle
    change (Function.update img.cudaImages i _ j).extMem = none
    by_cases hj : j = i
    · rw [hj, Function.update_self]
      exact hold i
    · rw [Function.update_of_ne hj]
      exact hold j
  separate := h.separate

end Releasable

/-- An image whose planes from `i` on own nothing yet. -/
structure Filled (img : BackingImage) (i : Nat) : Prop where
  releasable : Releasable img
  fds : ∀ j, i ≤ j → img.fds j = -1
  cudaImages : ∀ j, i ≤ j → img.cudaImages j = {}

theorem Filled.fd_none {i : Nat} (h : Filled img i) (hi : i < 4) :
    img.field (.fd ⟨i, hi⟩) = none := by
  change descriptorIn (img.fds i) = none
  rw [h.fds i (Nat.le_refl i)]
  rfl

theorem Filled.cudaExtMem_none {i : Nat} (h : Filled img i) (hi : i < 3) :
    img.field (.cudaExtMem ⟨i, hi⟩) = none := by
  change ((img.cudaImages i).extMem).map _ = none
  rw [h.cudaImages i (Nat.le_refl i)]
  rfl

theorem Filled.mipmapArray_none {i : Nat} (h : Filled img i) (hi : i < 3) :
    img.field (.mipmapArray ⟨i, hi⟩) = none := by
  change ((img.cudaImages i).mipmapArray).map _ = none
  rw [h.cudaImages i (Nat.le_refl i)]
  rfl

/-! ## A buffer for each plane -/

theorem owning_allocatePlanes (info : NVFormatInfo) (sharedModifier : Bool)
    {images : List NVDriverImage} {i : Nat} (howns : Owns img.field held) (hfilled : Filled img i)
    (hseparate : img.isSingleBuffer = false)
    (hcount : i + images.length ≤ (formatsInfo img.format).numPlanes) :
    Owning (allocatePlanes info sharedModifier images i img) held fun result held' =>
      Owns result.2.field held' ∧ Releasable result.2 := by
  induction images generalizing i img held with
  | nil => exact ensures_pure ⟨howns, hfilled.releasable⟩
  | cons image rest ih =>
      have hi : i < (formatsInfo img.format).numPlanes := by
        rw [List.length_cons] at hcount
        omega
      have hi3 : i < 3 := Nat.lt_of_lt_of_le hi (formatsInfo_planes _).2.1
      unfold allocatePlanes
      refine ensures_bind (owning_allocBuffer _) ?_
      rintro _ _ (⟨rfl, rfl⟩ | ⟨fds, size, rfl, hopened⟩)
      · exact ensures_pure ⟨howns, hfilled.releasable⟩
      have hopen := hopened.open
      have hbuffer := hopened.beside howns
      refine owning_importInto hbuffer (.inr .nvFd) (.inl (.cudaExtMem ⟨i, hi3⟩))
        (descriptorIn_of_nonneg hopen.nvFd) (hfilled.cudaExtMem_none hi3) ?_
        fun extMem _ himported => ?_
      · refine owning_closeFrom hbuffer (.inr .nvFd) (descriptorIn_of_nonneg hopen.nvFd)
          fun _ hfirst => ?_
        rw [Sum.update_elim_inr, ← Descriptors.field_nvFd] at hfirst
        refine owning_closeFrom hfirst (.inr .nvFd2) (descriptorIn_of_nonneg hopen.nvFd2)
          fun _ hsecond => ?_
        rw [Sum.update_elim_inr, ← Descriptors.field_nvFd2] at hsecond
        refine owning_closeFrom hsecond (.inr .drmFd) (descriptorIn_of_nonneg hopen.drmFd)
          fun _ hthird => ?_
        rw [Sum.update_elim_inr, ← Descriptors.field_drmFd] at hthird
        exact ensures_pure ⟨hthird.left Descriptors.field_none, hfilled.releasable⟩
      rw [Sum.update_elim_inr, Sum.update_elim_inl, ← Descriptors.field_nvFd,
        ← withCudaExtMem_field hi3] at himported
      refine owning_closeFrom himported (.inr .nvFd2) (descriptorIn_of_nonneg hopen.nvFd2)
        fun _ hclosed => ?_
      rw [Sum.update_elim_inr, ← Descriptors.field_nvFd2] at hclosed
      -- The dma-buf goes from its variable into the image.
      have hmoved := hclosed.moveTo (.inr .drmFd) (.inl (.fd ⟨i, by omega⟩))
        (descriptorIn_of_nonneg hopen.drmFd) (hfilled.fd_none _)
      rw [Sum.update_elim_inr, Sum.update_elim_inl, ← Descriptors.field_drmFd,
        ← withFd_field _ hopen.drmFd] at hmoved
      have hplane := hmoved.left Descriptors.field_none
      have hrel := (hfilled.releasable.withCudaExtMem hi hseparate extMem).withFd (i := i) fds.drmFd
      refine ensures_acquiredInto hplane (.mipmapArray ⟨i, hi3⟩) ?_
        (ensures_pure ⟨hplane, hrel⟩) fun mipmapArray _ harray => ?_
      · change ((Function.update img.cudaImages i _ i).mipmapArray).map _ = none
        rw [Function.update_self]
        exact hfilled.mipmapArray_none hi3
      rw [← withMipmapArray_field hi3] at harray
      have hrel := hrel.withMipmapArray hi mipmapArray
      refine owning_succeeds fun level => ?_
      split
      · exact ensures_pure ⟨harray, hrel⟩
      refine ih harray ⟨hrel.withPlane info image _ size, ?_, ?_⟩ hseparate ?_
      · intro j hj
        change Function.update img.fds i _ j = -1
        rw [Function.update_of_ne (by omega)]
        exact hfilled.fds j (by omega)
      · intro j hj
        change Function.update (Function.update img.cudaImages i _) i _ j = {}
        rw [Function.update_of_ne (by omega), Function.update_of_ne (by omega)]
        exact hfilled.cudaImages j (by omega)
      · change i + 1 + rest.length ≤ (formatsInfo img.format).numPlanes
        rw [List.length_cons] at hcount
        omega

/-- An image without handles owns nothing. -/
theorem owns_new (toBackingImage : Surface.BackingImage) (hfds : toBackingImage.fds = fun _ => -1) :
    Owns (BackingImage.field { toBackingImage }) ∅ := by
  refine Owns.empty fun slot => ?_
  cases slot with
  | fd i =>
      change descriptorIn (toBackingImage.fds i) = none
      rw [hfds]
      rfl
  | _ => rfl

theorem releasable_new (toBackingImage : Surface.BackingImage)
    (howned : toBackingImage.isExternalBuffer = false)
    (hresources : toBackingImage.borrowedCudaResources = false) : Releasable { toBackingImage } :=
  ⟨howned, hresources, fun _ _ => rfl, fun _ _ => rfl, fun _ => rfl⟩

theorem owning_directAllocateBackingImagePerPlane (context : NVDriverContext) (surface : NVSurface)
    (sharedModifier : Bool) :
    Owning (directAllocateBackingImagePerPlane context surface sharedModifier) ∅ Settled := by
  unfold directAllocateBackingImagePerPlane
  refine owning_succeeds fun allocated => ?_
  split
  · exact ensures_pure .failed
  refine owning_succeeds fun initialized => ?_
  split
  · exact ensures_pure .failed
  have hnew := owns_new { isSingleBuffer := false, format := nvFormatForSurface surface } rfl
  dsimp only
  split
  · exact owning_destroyFailed hnew (releasable_new _ rfl rfl).disposable
  · rename_i images total hlayout
    have hlength := unifiedLayout_length hlayout
    have hplanes := (formatsInfo_planes (nvFormatForSurface surface)).1
    refine ensures_bind (owning_allocatePlanes _ sharedModifier (i := 0) hnew
      ⟨releasable_new _ rfl rfl, fun _ _ => rfl, fun _ _ => rfl⟩ rfl ?_) ?_
    · change 0 + images.length ≤ (formatsInfo (nvFormatForSurface surface)).numPlanes
      omega
    rintro ⟨_ | _, img⟩ held' ⟨howns, hrel⟩
    · exact owning_destroyFailed howns hrel.disposable
    · dsimp only
      have hdisposable : Disposable { img with
          width := surface.width, height := surface.height
          fourcc := (formatsInfo (nvFormatForSurface surface)).fourcc } :=
        Releasable.disposable ⟨hrel.owned, hrel.resources, hrel.planes, hrel.single, hrel.separate⟩
      refine owning_succeeds fun cleared => ?_
      split
      · exact owning_destroyFailed howns hdisposable
      · exact ensures_pure (.owned howns hdisposable)

/-! ## One buffer for all planes -/

section Single

variable {T : Type} [DecidableEq T] {extra : T → Option Resource} {img' : BackingImage}
  {fds : Descriptors}

/-- Images that differ in the arrays of the planes of their format only. -/
structure Mapped (img img' : BackingImage) : Prop where
  same : img' = { img with cudaImages := img'.cudaImages }
  extMems : ∀ j, (img'.cudaImages j).extMem = (img.cudaImages j).extMem
  planes : ∀ j, (formatsInfo img.format).numPlanes ≤ j → img'.cudaImages j = img.cudaImages j

theorem Mapped.refl (img : BackingImage) : Mapped img img :=
  ⟨rfl, fun _ => rfl, fun _ _ => rfl⟩

theorem Mapped.trans {img'' : BackingImage} (h : Mapped img img') (h' : Mapped img' img'') :
    Mapped img img'' where
  same := by
    rw [h'.same, h.same]
  extMems j := (h'.extMems j).trans (h.extMems j)
  planes j hj := by
    have hformat : img'.format = img.format := by rw [h.same]
    rw [h'.planes j (by rw [hformat]; exact hj), h.planes j hj]

theorem Mapped.withMipmapArray {i : Nat} (hi : i < (formatsInfo img.format).numPlanes)
    (mipmapArray : Nat) : Mapped img (img.withMipmapArray i mipmapArray) where
  same := rfl
  extMems j := by
    change (Function.update img.cudaImages i _ j).extMem = _
    by_cases hj : j = i
    · rw [hj, Function.update_self]
    · rw [Function.update_of_ne hj]
  planes j hj := by
    change Function.update img.cudaImages i _ j = _
    rw [Function.update_of_ne (by omega)]

theorem Releasable.mapped (h : Releasable img) (hmapped : Mapped img img') : Releasable img' := by
  rw [hmapped.same]
  refine ⟨h.owned, h.resources, fun j hj => ?_, fun hsingle j => ?_, h.separate⟩
  · change img'.cudaImages j = {}
    rw [hmapped.planes j hj]
    exact h.planes j hj
  · change (img'.cudaImages j).extMem = none
    rw [hmapped.extMems j]
    exact h.single hsingle j

theorem owning_mapPlanes {images : List NVDriverImage} {i : Nat}
    (howns : Owns (Sum.elim img.field extra) held)
    (hempty : ∀ j, i ≤ j → (img.cudaImages j).mipmapArray = none)
    (hcount : i + images.length ≤ (formatsInfo img.format).numPlanes) :
    Owning (mapPlanes images i img) held fun result held' =>
      Owns (Sum.elim result.2.field extra) held' ∧ Mapped img result.2 := by
  induction images generalizing i img held with
  | nil => exact ensures_pure ⟨howns, .refl img⟩
  | cons image rest ih =>
      rw [List.length_cons] at hcount
      have hi : i < (formatsInfo img.format).numPlanes := by omega
      have hi3 : i < 3 := Nat.lt_of_lt_of_le hi (formatsInfo_planes _).2.1
      unfold mapPlanes
      refine ensures_acquiredInto howns (.inl (.mipmapArray ⟨i, hi3⟩)) ?_
        (ensures_pure ⟨howns, .refl img⟩) fun mipmapArray _ harray => ?_
      · change ((img.cudaImages i).mipmapArray).map _ = none
        rw [hempty i (Nat.le_refl i)]
        rfl
      rw [Sum.update_elim_inl, ← withMipmapArray_field hi3] at harray
      have hmapped := Mapped.withMipmapArray hi mipmapArray
      refine owning_succeeds fun level => ?_
      split
      · exact ensures_pure ⟨harray, hmapped⟩
      refine (ih harray ?_ ?_).mono fun _ _ hrest => ⟨hrest.1, hmapped.trans hrest.2⟩
      · intro j hj
        change (Function.update img.cudaImages i _ j).mipmapArray = none
        rw [Function.update_of_ne (by omega)]
        exact hempty j (by omega)
      · change i + 1 + rest.length ≤ (formatsInfo img.format).numPlanes
        omega

theorem owning_failSingle (howns : Owns (Sum.elim img.field fds.field) held)
    (hdisposable : Disposable img) : Owning (failSingle fds img) held Settled := by
  refine ensures_bind (ensures_releaseBeside (by decide) ?_ howns)
    fun _ _ hleft => owning_destroyFailed hleft hdisposable
  intro slot r _
  cases slot <;> decide

/-- The layout of packed planes has no descriptor or handle in it. -/
theorem addPackedPlanes_owned (info : NVFormatInfo) (images : List NVDriverImage) (i : Nat)
    (img : BackingImage) (hrel : Releasable img) :
    BackingImage.field { img with
      toBackingImage := addPackedPlanes info images i img.toBackingImage } = img.field ∧
    Releasable { img with
      toBackingImage := addPackedPlanes info images i img.toBackingImage } := by
  induction images generalizing i img with
  | nil => exact ⟨rfl, hrel⟩
  | cons image rest ih =>
      exact ih (i + 1) { img with
        toBackingImage := addPackedPlane info img.toBackingImage i image }
        ⟨hrel.owned, hrel.resources, hrel.planes, hrel.single, hrel.separate⟩

theorem owning_directAllocateBackingImageSingle (context : NVDriverContext)
    (surface : NVSurface) :
    Owning (directAllocateBackingImageSingle context surface) ∅ Settled := by
  unfold directAllocateBackingImageSingle
  refine owning_succeeds fun allocated => ?_
  split
  · exact ensures_pure .failed
  refine owning_succeeds fun initialized => ?_
  split
  · exact ensures_pure .failed
  have hnew := owns_new { isSingleBuffer := true, format := nvFormatForSurface surface } rfl
  dsimp only
  split
  · exact owning_failSingle (hnew.beside Descriptors.field_none)
      (releasable_new _ rfl rfl).disposable
  rename_i images layoutSize hlayout
  have hlength := unifiedLayout_length hlayout
  have hplanes := (formatsInfo_planes (nvFormatForSurface surface)).1
  refine ensures_bind (owning_allocBuffer _) ?_
  rintro _ _ (⟨rfl, rfl⟩ | ⟨fds, size, rfl, hopened⟩)
  · exact owning_failSingle (hnew.beside Descriptors.field_none)
      (releasable_new _ rfl rfl).disposable
  have hopen := hopened.open
  have hbuffer := hopened.beside hnew
  refine owning_importInto hbuffer (.inr .nvFd) (.inl .extMem)
    (descriptorIn_of_nonneg hopen.nvFd) rfl ?_ fun extMem _ himported => ?_
  · exact owning_failSingle hbuffer (releasable_new _ rfl rfl).disposable
  rw [Sum.update_elim_inr, Sum.update_elim_inl, ← Descriptors.field_nvFd,
    ← withExtMem_field] at himported
  refine owning_closeFrom himported (.inr .nvFd2) (descriptorIn_of_nonneg hopen.nvFd2)
    fun _ hclosed => ?_
  rw [Sum.update_elim_inr, ← Descriptors.field_nvFd2] at hclosed
  refine ensures_bind (owning_mapPlanes (i := 0) hclosed ?_ ?_) ?_
  · exact fun _ _ => rfl
  · change 0 + images.length ≤ (formatsInfo (nvFormatForSurface surface)).numPlanes
    omega
  rintro ⟨mapped, img⟩ held' ⟨howns, hmapped⟩
  have hrel : Releasable img := by
    refine Releasable.mapped ⟨rfl, rfl, fun _ _ => rfl, fun _ _ => rfl, fun hseparate => ?_⟩ hmapped
    cases hseparate
  cases mapped with
  | false => exact owning_failSingle howns hrel.disposable
  | true =>
      have hfirst : img.field (.fd ⟨0, by decide⟩) = none := by
        have hsame : img.fds = _ := congrArg (fun img => img.fds) hmapped.same
        change descriptorIn (img.fds 0) = none
        rw [hsame]
        rfl
      have hmoved := howns.moveTo (.inr .drmFd) (.inl (.fd ⟨0, by decide⟩))
        (descriptorIn_of_nonneg hopen.drmFd) hfirst
      rw [Sum.update_elim_inr, Sum.update_elim_inl, ← Descriptors.field_drmFd] at hmoved
      have hpacked := addPackedPlanes_owned (formatsInfo (nvFormatForSurface surface)) images 0
        ({ img with
          width := surface.width, height := surface.height
          fourcc := (formatsInfo (nvFormatForSurface surface)).fourcc
          totalSize := size, objectSize := Function.update img.objectSize 0 size }.withFd 0
            fds.drmFd)
        ⟨hrel.owned, hrel.resources, hrel.planes, hrel.single, hrel.separate⟩
      have howned := hmoved.left Descriptors.field_none
      rw [← show _ = Function.update img.field _ _ from
        hpacked.1.trans (withFd_field (by decide) hopen.drmFd)] at howned
      dsimp only
      refine owning_succeeds fun cleared => ?_
      split
      · exact owning_failSingle (howned.beside Descriptors.field_none) hpacked.2.disposable
      · exact ensures_pure (.owned howned hpacked.2.disposable)

end Single

end Direct
end NvidiaVaapi
