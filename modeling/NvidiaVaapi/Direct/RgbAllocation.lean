import NvidiaVaapi.Direct.AllocationPaths

/-!
# Allocation of images of RGB surfaces

The descriptors stay in the driver images until all planes are imported; what has not been
handed over then is closed by the label `bail`.
-/

namespace NvidiaVaapi
namespace Direct

open ResourceProgram
open Surface (NVDriverContext NVDExportLayout NVFormatInfo NVFormatPlane NVSurface formatsInfo
  formatsInfo_planes isRgbFourcc nvFormatForSurface)

variable {held : Set Resource} {img : BackingImage} {image : DriverImage}
  {driverImages images before rest : List DriverImage}

/-! ## The descriptors of images -/

theorem imagesField_at (slot : FdSlot) :
    imagesField (before ++ image :: rest) (before.length, slot) =
      image.toDescriptors.field slot := by
  unfold imagesField
  rw [List.getD_eq_getElem?_getD, List.getElem?_append_right (Nat.le_refl _), Nat.sub_self]
  rfl

theorem imagesField_past {n : Nat} (hn : driverImages.length ≤ n) (slot : FdSlot) :
    imagesField driverImages (n, slot) = none := by
  unfold imagesField
  rw [List.getD_eq_getElem?_getD, List.getElem?_eq_none hn]
  exact Descriptors.field_none slot

/-- A descriptor of one image changes. -/
theorem imagesField_replace {slot : FdSlot} {r : Option Resource} (before rest : List DriverImage)
    (image image' : DriverImage)
    (hfield : image'.toDescriptors.field = Function.update image.toDescriptors.field slot r) :
    imagesField (before ++ image' :: rest) =
      Function.update (imagesField (before ++ image :: rest)) (before.length, slot) r := by
  have hset : before ++ image' :: rest = (before ++ image :: rest).set before.length image' := by
    simp
  funext ⟨n, other⟩
  by_cases hn : n = before.length
  · subst hn
    rw [imagesField_at, hfield]
    by_cases hslot : other = slot
    · rw [hslot, Function.update_self, Function.update_self]
    · have hne : (before.length, other) ≠ (before.length, slot) :=
        fun heq => hslot (congrArg Prod.snd heq)
      rw [Function.update_of_ne hslot, Function.update_of_ne hne, imagesField_at]
  · rw [Function.update_of_ne fun heq => hn (congrArg Prod.fst heq)]
    unfold imagesField
    rw [hset, List.getD_eq_getElem?_getD, List.getElem?_set_ne (Ne.symm hn),
      ← List.getD_eq_getElem?_getD]

theorem mem_imageSlots {count n : Nat} {slot : FdSlot} :
    (n, slot) ∈ imageSlots count ↔ n < count := by
  unfold imageSlots
  rw [List.mem_flatMap]
  constructor
  · rintro ⟨i, hi, hslot⟩
    have hn : n = i := by
      simp only [List.mem_cons, Prod.mk.injEq, List.not_mem_nil, or_false] at hslot
      omega
    rw [hn]
    exact List.mem_range.mp hi
  · intro hn
    refine ⟨n, List.mem_range.mpr hn, ?_⟩
    cases slot <;> simp

theorem imageSlots_nodup (count : Nat) : (imageSlots count).Nodup := by
  unfold imageSlots
  rw [List.nodup_flatMap]
  refine ⟨fun i _ => by simp, List.nodup_range.imp fun hne slot hfirst hsecond => hne ?_⟩
  simp only [List.mem_cons, List.not_mem_nil, or_false] at hfirst hsecond
  rcases hfirst with rfl | rfl | rfl <;>
    rcases hsecond with h | h | h <;> exact congrArg Prod.fst h

theorem owning_bail (howns : Owns (Sum.elim img.field (imagesField driverImages)) held)
    (hdisposable : Disposable img) : Owning (bail driverImages img) held Settled := by
  refine ensures_bind (ensures_releaseBeside (imageSlots_nodup _) ?_ howns)
    fun _ _ hleft => owning_destroyFailed hleft hdisposable
  rintro ⟨n, slot⟩ r hslot
  rw [mem_imageSlots]
  by_contra hn
  rw [imagesField_past (Nat.le_of_not_lt hn)] at hslot
  cases hslot

/-! ## Allocation -/

/-- The descriptors of one more image. -/
theorem OpenedBuffer.append {held' : Set Resource}
    (h : OpenedBuffer held image.toDescriptors held')
    (howns : Owns (Sum.elim img.field (imagesField driverImages)) held) :
    Owns (Sum.elim img.field (imagesField (driverImages ++ [image]))) held' := by
  refine h.owns howns (fun slot => .inr (driverImages.length, slot)) ?_ ?_ ?_ ?_
  · intro slot slot' heq
    exact congrArg Prod.snd (Sum.inr.inj heq)
  · exact imagesField_past (Nat.le_refl _)
  · exact imagesField_at
  · rintro (slot | ⟨n, slot⟩) hother
    · rfl
    · have hn : n ≠ driverImages.length := fun heq => hother slot (by rw [heq])
      change imagesField _ (n, slot) = imagesField _ (n, slot)
      unfold imagesField
      rw [List.getD_eq_getElem?_getD, List.getD_eq_getElem?_getD]
      by_cases hin : n < driverImages.length
      · rw [List.getElem?_append_left hin]
      · rw [List.getElem?_append_right (by omega), List.getElem?_eq_none (l := driverImages)
          (by omega), List.getElem?_eq_none]
        change 1 ≤ n - driverImages.length
        omega

theorem owning_allocImages (context : NVDriverContext) (surface : NVSurface) (bppc : Nat)
    {planes : List NVFormatPlane} (howns : Owns (Sum.elim img.field (imagesField before)) held)
    (hopen : ∀ image ∈ before, image.toDescriptors.Open) :
    Owning (allocImages context surface bppc planes before) held fun result held' =>
      Owns (Sum.elim img.field (imagesField result.2)) held' ∧
      (∀ image ∈ result.2, image.toDescriptors.Open) ∧
      (result.1 = true → result.2.length = before.length + planes.length) := by
  induction planes generalizing before held with
  | nil => exact ensures_pure ⟨howns, hopen, fun _ => rfl⟩
  | cons plane planes ih =>
      unfold allocImages
      refine ensures_bind (owning_allocImage context _ _ _ _) ?_
      rintro _ _ (⟨rfl, rfl⟩ | ⟨image, rfl, hopened⟩)
      · exact ensures_pure ⟨howns, hopen, nofun⟩
      refine (ih (hopened.append howns) ?_).mono fun _ _ hrest => ⟨hrest.1, hrest.2.1, ?_⟩
      · intro other hother
        rcases List.mem_append.mp hother with hold | hnew
        · exact hopen other hold
        · rw [List.mem_singleton.mp hnew]
          exact hopened.open
      · intro hok
        rw [hrest.2.2 hok, List.length_append, List.length_cons, List.length_cons, List.length_nil]
        omega

/-! ## Import -/

/-- Only the dma-buf of an image is left in it. -/
structure DriverImage.Exported (image : DriverImage) : Prop where
  fds : image.toDescriptors = { drmFd := image.drmFd }
  drmFd : 0 ≤ image.drmFd

/-- Plane `i` is imported. -/
theorem Filled.imported {i : Nat} (h : Filled img i) (hi : i < (formatsInfo img.format).numPlanes)
    (hseparate : img.isSingleBuffer = false) (extMem mipmapArray : Nat) :
    Filled ((img.withCudaExtMem i extMem).withMipmapArray i mipmapArray) (i + 1) where
  releasable := (h.releasable.withCudaExtMem hi hseparate extMem).withMipmapArray hi mipmapArray
  fds j hj := h.fds j (by omega)
  cudaImages j hj := by
    change Function.update (Function.update img.cudaImages i _) i _ j = {}
    rw [Function.update_of_ne (by omega), Function.update_of_ne (by omega)]
    exact h.cudaImages j (by omega)

theorem owning_importToCuda
    (howns : Owns (Sum.elim img.field (imagesField (before ++ image :: rest))) held)
    (hopen : image.toDescriptors.Open) (hfilled : Filled img before.length)
    (hseparate : img.isSingleBuffer = false)
    (hi : before.length < (formatsInfo img.format).numPlanes) :
    Owning (importToCuda image before.length img) held fun result held' =>
      Owns (Sum.elim result.2.2.field (imagesField (before ++ result.2.1 :: rest))) held' ∧
      Releasable result.2.2 ∧
      (result.1 = true → result.2.1.Exported ∧ ∃ extMem mipmapArray, result.2.2 =
        (img.withCudaExtMem before.length extMem).withMipmapArray before.length mipmapArray) := by
  have hi3 : before.length < 3 := Nat.lt_of_lt_of_le hi (formatsInfo_planes _).2.1
  unfold importToCuda
  refine owning_importInto howns (.inr (before.length, .nvFd))
    (.inl (.cudaExtMem ⟨before.length, hi3⟩)) ?_ (hfilled.cudaExtMem_none hi3) ?_
    fun extMem _ himported => ?_
  · exact (imagesField_at .nvFd).trans (descriptorIn_of_nonneg hopen.nvFd)
  · exact ensures_pure ⟨howns, hfilled.releasable, nofun⟩
  rw [Sum.update_elim_inr, Sum.update_elim_inl, ← withCudaExtMem_field hi3,
    ← imagesField_replace before rest image { image with nvFd := -1 }
      (Descriptors.field_nvFd _)] at himported
  refine owning_closeFrom himported (.inr (before.length, .nvFd2)) ?_ fun _ hclosed => ?_
  · exact (imagesField_at .nvFd2).trans (descriptorIn_of_nonneg hopen.nvFd2)
  rw [Sum.update_elim_inr, ← imagesField_replace before rest { image with nvFd := -1 }
    { image with nvFd := -1, nvFd2 := -1 }
    (Descriptors.field_nvFd2 { image.toDescriptors with nvFd := -1 })] at hclosed
  have hrel := hfilled.releasable.withCudaExtMem hi hseparate extMem
  refine ensures_acquiredInto hclosed (.inl (.mipmapArray ⟨before.length, hi3⟩)) ?_
    (ensures_pure ⟨hclosed, hrel, nofun⟩) fun mipmapArray _ harray => ?_
  · change ((Function.update img.cudaImages before.length _ before.length).mipmapArray).map _ = none
    rw [Function.update_self]
    exact hfilled.mipmapArray_none hi3
  rw [Sum.update_elim_inl, ← withMipmapArray_field hi3] at harray
  refine owning_succeeds fun level => ensures_pure ⟨harray, hrel.withMipmapArray hi mipmapArray, ?_⟩
  exact fun _ => ⟨⟨rfl, hopen.drmFd⟩, extMem, mipmapArray, rfl⟩

theorem owning_importImages
    (howns : Owns (Sum.elim img.field (imagesField (before ++ images))) held)
    (hbefore : ∀ image ∈ before, image.Exported)
    (hopen : ∀ image ∈ images, image.toDescriptors.Open) (hfilled : Filled img before.length)
    (hfds : img.fds = fun _ => -1) (hseparate : img.isSingleBuffer = false)
    (hcount : before.length + images.length ≤ (formatsInfo img.format).numPlanes) :
    Owning (importImages images before img) held fun result held' =>
      Owns (Sum.elim result.2.2.field (imagesField result.2.1)) held' ∧ Releasable result.2.2 ∧
      (result.1 = true → (∀ image ∈ result.2.1, image.Exported) ∧
        result.2.2.fds = (fun _ => -1) ∧ result.2.1.length = before.length + images.length) := by
  induction images generalizing before img held with
  | nil =>
      rw [List.append_nil] at howns
      exact ensures_pure ⟨howns, hfilled.releasable, fun _ => ⟨hbefore, hfds, rfl⟩⟩
  | cons image rest ih =>
      rw [List.length_cons] at hcount
      have hi : before.length < (formatsInfo img.format).numPlanes := by omega
      unfold importImages
      refine ensures_bind (owning_importToCuda howns (hopen image List.mem_cons_self) hfilled
        hseparate hi) ?_
      rintro ⟨_ | _, image', img'⟩ held' ⟨himported, hrel, hexported⟩
      · exact ensures_pure ⟨himported, hrel, nofun⟩
      obtain ⟨hexported, extMem, mipmapArray, rfl⟩ := hexported rfl
      have hlength : (before ++ [image']).length = before.length + 1 := by
        rw [List.length_append, List.length_singleton]
      rw [List.append_cons] at himported
      refine (ih himported ?_ ?_ ?_ hfds hseparate ?_).mono fun _ _ hrest =>
        ⟨hrest.1, hrest.2.1, fun hok => ?_⟩
      · intro other hother
        rcases List.mem_append.mp hother with hold | hnew
        · exact hbefore other hold
        · rw [List.mem_singleton.mp hnew]
          exact hexported
      · exact fun other hother => hopen other (List.mem_cons_of_mem _ hother)
      · rw [hlength]
        exact hfilled.imported hi hseparate extMem mipmapArray
      · rw [hlength]
        change before.length + 1 + rest.length ≤ (formatsInfo img.format).numPlanes
        omega
      · obtain ⟨hall, hkept, hcounted⟩ := hrest.2.2 hok
        refine ⟨hall, hkept, ?_⟩
        rw [hcounted, hlength, List.length_cons]
        omega

/-! ## The dma-bufs go into the image -/

theorem imagesField_blank (hblank : ∀ image ∈ driverImages, image.toDescriptors = {})
    (slot : Nat × FdSlot) : imagesField driverImages slot = none := by
  obtain ⟨n, slot⟩ := slot
  by_cases hn : n < driverImages.length
  · unfold imagesField
    rw [List.getD_eq_getElem?_getD, List.getElem?_eq_getElem hn, Option.getD_some,
      hblank _ (List.getElem_mem hn)]
    exact Descriptors.field_none slot
  · exact imagesField_past (Nat.le_of_not_lt hn) slot

theorem addImages_owned (info : NVFormatInfo)
    (howns : Owns (Sum.elim img.field (imagesField (before ++ images))) held)
    (hbefore : ∀ image ∈ before, image.toDescriptors = {})
    (hexported : ∀ image ∈ images, image.Exported)
    (hfds : ∀ j, before.length ≤ j → img.fds j = -1) (hcount : before.length + images.length ≤ 4)
    (hrel : Releasable img) :
    Owns (addImages info images before.length img).field held ∧
      Releasable (addImages info images before.length img) := by
  induction images generalizing before img with
  | nil =>
      rw [List.append_nil] at howns
      exact ⟨howns.left (imagesField_blank hbefore), hrel⟩
  | cons image rest ih =>
      rw [List.length_cons] at hcount
      have himage := hexported image List.mem_cons_self
      have hmoved := howns.moveTo (.inr (before.length, .drmFd))
        (.inl (.fd ⟨before.length, by omega⟩))
        ((imagesField_at .drmFd).trans (descriptorIn_of_nonneg himage.drmFd)) ?_
      · rw [Sum.update_elim_inr, Sum.update_elim_inl, ← withFd_field _ himage.drmFd,
          ← imagesField_replace before rest image { image with drmFd := -1 }
            (Descriptors.field_drmFd _), List.append_cons] at hmoved
        have hlength : (before ++ [{ image with drmFd := -1 }]).length = before.length + 1 := by
          rw [List.length_append, List.length_singleton]
        change Owns (addImages info rest (before.length + 1) _).field held ∧
          Releasable (addImages info rest (before.length + 1) _)
        rw [← hlength]
        refine ih hmoved ?_ ?_ ?_ ?_ (hrel.withFd _ |>.withPlane info _ _ _)
        · intro other hother
          rcases List.mem_append.mp hother with hold | hnew
          · exact hbefore other hold
          · rw [List.mem_singleton.mp hnew]
            change { image.toDescriptors with drmFd := -1 } = ({} : Descriptors)
            rw [himage.fds]
        · exact fun other hother => hexported other (List.mem_cons_of_mem _ hother)
        · intro j hj
          rw [hlength] at hj
          change Function.update img.fds before.length _ j = -1
          rw [Function.update_of_ne (by omega)]
          exact hfds j (by omega)
        · rw [hlength]
          omega
      · change descriptorIn (img.fds before.length) = none
        rw [hfds _ (Nat.le_refl _)]
        rfl

theorem owning_directAllocateBackingImageRgb (context : NVDriverContext) (surface : NVSurface) :
    Owning (directAllocateBackingImageRgb context surface) ∅ Settled := by
  unfold directAllocateBackingImageRgb
  refine owning_succeeds fun allocated => ?_
  split
  · exact ensures_pure .failed
  refine owning_succeeds fun initialized => ?_
  split
  · exact ensures_pure .failed
  dsimp only
  have hplanes := formatsInfo_planes (nvFormatForSurface surface)
  have hnew := owns_new
    { format := nvFormatForSurface surface, fourcc := surface.fourcc
      numObjects := (formatsInfo (nvFormatForSurface surface)).numPlanes
      numPlanes := (formatsInfo (nvFormatForSurface surface)).numPlanes } rfl
  have hnone : ∀ image ∈ ([] : List DriverImage), image.toDescriptors.Open := nofun
  refine ensures_bind (owning_allocImages context surface _
    (hnew.beside (imagesField_past (Nat.zero_le _) ·.2)) hnone) ?_
  rintro ⟨_ | _, driverImages⟩ held' ⟨howns, hopen, hlength⟩
  · exact owning_bail howns (releasable_new _ rfl rfl).disposable
  have hcount : 0 + driverImages.length ≤ (formatsInfo (nvFormatForSurface surface)).numPlanes := by
    rw [hlength rfl, hplanes.1]
    exact Nat.le_of_eq (Nat.zero_add _ ▸ Nat.zero_add _)
  refine ensures_bind (owning_importImages howns nofun hopen
    ⟨releasable_new _ rfl rfl, fun _ _ => rfl, fun _ _ => rfl⟩ rfl rfl hcount) ?_
  rintro ⟨_ | _, driverImages', img⟩ held'' ⟨himported, hrel, hexported⟩
  · exact owning_bail himported hrel.disposable
  obtain ⟨hexported, hfds, hlength'⟩ := hexported rfl
  have hadded : Owns (addImages (formatsInfo (nvFormatForSurface surface)) driverImages'
      ([] : List DriverImage).length { img with
        width := surface.width, height := surface.height }).field held'' ∧
      Releasable (addImages (formatsInfo (nvFormatForSurface surface)) driverImages'
        ([] : List DriverImage).length { img with
          width := surface.width, height := surface.height }) := by
    refine addImages_owned _ himported nofun hexported (fun j _ => congrFun hfds j) ?_
      ⟨hrel.owned, hrel.resources, hrel.planes, hrel.single, hrel.separate⟩
    change 0 + driverImages'.length ≤ 4
    rw [hlength']
    change 0 + (0 + driverImages.length) ≤ 4
    omega
  exact ensures_pure (.owned hadded.1 hadded.2.disposable)

theorem owning_directAllocateBackingImageImpl (context : NVDriverContext)
    (layout : NVDExportLayout) (surface : NVSurface) :
    Owning (directAllocateBackingImageImpl context layout surface) ∅ Settled := by
  unfold directAllocateBackingImageImpl
  refine owning_safe ?_
  rw [if_neg Bool.false_ne_true]
  split
  · exact owning_directAllocateBackingImageRgb context surface
  · cases layout with
    | packed => exact owning_directAllocateBackingImageSingle context surface
    | perPlaneSharedModifier => exact owning_directAllocateBackingImagePerPlane context surface true
    | perPlaneNatural => exact owning_directAllocateBackingImagePerPlane context surface false

end Direct
end NvidiaVaapi
