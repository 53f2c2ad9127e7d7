import NvidiaVaapi.Direct.ImportedImages
import NvidiaVaapi.Direct.RgbAllocation
import NvidiaVaapi.Surface.ImportBounds

/-!
# Ownership in the creation of imported images

Every step of the creation that fails gives back what it has made, so that the label `fail`
finds an image with nothing but its descriptors.
-/

namespace NvidiaVaapi
namespace Direct

open ResourceProgram
open Surface (ImageId ImportedSurface NVDriverContext NVDriverImage borrowBackingImage formatsInfo
  formatsInfo_planes importPlanes recoverModifier unifiedLayout_length withImportedObject)

variable {held : Set Resource} {img : BackingImage} {list : List Nat}

/-! ## Fields -/

theorem withMapping_field {i : Nat} (hi : i < 4) (address : Nat) :
    (img.withMapping i address).field =
      Function.update img.field (.mapping ⟨i, hi⟩) (some (.mapping address)) := by
  funext slot
  by_cases hslot : slot = .mapping ⟨i, hi⟩
  · subst hslot
    rw [Function.update_self]
    change (Function.update img.mappings i _ i).map _ = _
    rw [Function.update_self]
    rfl
  · rw [Function.update_of_ne hslot]
    cases slot with
    | mapping j =>
        have hne : j.val ≠ i := fun h => hslot (congrArg Slot.mapping (Fin.ext h))
        change (Function.update img.mappings i _ j).map _ = (img.mappings j).map _
        rw [Function.update_of_ne hne]
    | _ => rfl

theorem withDevicePtr_field {i : Nat} (hi : i < 4) (pointer : Nat) :
    (img.withDevicePtr i pointer).field =
      Function.update img.field (.devicePtr ⟨i, hi⟩) (some (.mappedBuffer pointer)) := by
  funext slot
  by_cases hslot : slot = .devicePtr ⟨i, hi⟩
  · subst hslot
    rw [Function.update_self]
    change (Function.update img.devicePtrs i _ i).map _ = _
    rw [Function.update_self]
    rfl
  · rw [Function.update_of_ne hslot]
    cases slot with
    | devicePtr j =>
        have hne : j.val ≠ i := fun h => hslot (congrArg Slot.devicePtr (Fin.ext h))
        change (Function.update img.devicePtrs i _ j).map _ = (img.devicePtrs j).map _
        rw [Function.update_of_ne hne]
    | _ => rfl

theorem withObjectMem_field {i : Nat} (hi : i < 4) (extMem : Nat) :
    (img.withObjectMem i extMem).field =
      Function.update img.field (.objectMem ⟨i, hi⟩) (some (.externalMemory extMem)) := by
  funext slot
  by_cases hslot : slot = .objectMem ⟨i, hi⟩
  · subst hslot
    rw [Function.update_self]
    change (Function.update img.externalObjectMems i _ i).map _ = _
    rw [Function.update_self]
    rfl
  · rw [Function.update_of_ne hslot]
    cases slot with
    | objectMem j =>
        have hne : j.val ≠ i := fun h => hslot (congrArg Slot.objectMem (Fin.ext h))
        change (Function.update img.externalObjectMems i _ j).map _ =
          (img.externalObjectMems j).map _
        rw [Function.update_of_ne hne]
    | _ => rfl

/-! ## Imported images -/

/-- An imported image that has its own arrays only with the memory that they are on. -/
structure Imported (img : BackingImage) : Prop where
  external : img.isExternalBuffer = true
  cudaExtMem : ∀ j, (img.cudaImages j).extMem = none
  none : img.borrowedCudaResources = true ∨ img.extMem = .none →
    img.extMem = .none ∧ ∀ j, (img.cudaImages j).mipmapArray = .none

theorem importedSlots_nodup (img : BackingImage) : img.importedSlots.Nodup := by
  unfold BackingImage.importedSlots
  split <;> decide

/-- Every field that owns something is released. -/
theorem Imported.mem_importedSlots (h : Imported img) {slot : Slot} {r : Resource}
    (hslot : img.field slot = some r) : slot ∈ img.importedSlots := by
  unfold BackingImage.importedSlots
  rw [List.mem_append]
  cases slot with
  | fd i => exact .inr (List.mem_flatMap.mpr ⟨i, List.mem_finRange i, by simp⟩)
  | mapping i => exact .inr (List.mem_flatMap.mpr ⟨i, List.mem_finRange i, by simp⟩)
  | devicePtr i => exact .inr (List.mem_flatMap.mpr ⟨i, List.mem_finRange i, by simp⟩)
  | objectMem i => exact .inr (List.mem_flatMap.mpr ⟨i, List.mem_finRange i, by simp⟩)
  | cudaExtMem i =>
      change ((img.cudaImages i).extMem).map _ = some r at hslot
      rw [h.cudaExtMem i] at hslot
      cases hslot
  | mipmapArray i =>
      refine .inl ?_
      split
      · rename_i hnone
        change ((img.cudaImages i).mipmapArray).map _ = some r at hslot
        rw [(h.none hnone).2 i] at hslot
        cases hslot
      · exact List.mem_append_left _ (List.mem_map_of_mem (List.mem_finRange i))
  | extMem =>
      refine .inl ?_
      split
      · rename_i hnone
        change img.extMem.map _ = some r at hslot
        rw [(h.none hnone).1] at hslot
        cases hslot
      · exact List.mem_append_right _ List.mem_cons_self

theorem Imported.disposable (himported : Imported img) : Disposable img := by
  intro held howns
  unfold destroyBackingImage nvDestroyImportedBackingImage
  refine owning_safe ?_
  rw [if_neg Bool.false_ne_true, if_pos himported.external]
  refine owning_safe ?_
  rw [if_neg Bool.false_ne_true]
  exact ensures_releaseAll (importedSlots_nodup img) howns fun _ _ => himported.mem_importedSlots

/-- An imported image with nothing but its descriptors. -/
structure Blank (img : BackingImage) : Prop where
  external : img.isExternalBuffer = true
  borrowed : img.borrowedCudaResources = false
  few : img.numObjects ≤ 4
  cudaImages : ∀ j, img.cudaImages j = {}
  extMem : img.extMem = none
  mappings : ∀ j, img.mappings j = none
  devicePtrs : ∀ j, img.devicePtrs j = none
  objectMems : ∀ j, img.externalObjectMems j = none

theorem Blank.imported (h : Blank img) : Imported img where
  external := h.external
  cudaExtMem j := by rw [h.cudaImages j]
  none _ := ⟨h.extMem, fun j => by rw [h.cudaImages j]⟩

theorem Blank.withFd (h : Blank img) (i : Nat) (fd : Int) : Blank (img.withFd i fd) :=
  ⟨h.external, h.borrowed, h.few, h.cudaImages, h.extMem, h.mappings, h.devicePtrs, h.objectMems⟩

/-! ## Giving back -/

theorem mem_objects {i : Fin 4} : i ∈ img.objects ↔ i.val < img.numObjects := by
  unfold BackingImage.objects
  rw [List.mem_filter, decide_eq_true_iff]
  exact and_iff_right (List.mem_finRange i)

theorem objects_nodup (img : BackingImage) : img.objects.Nodup :=
  (List.nodup_finRange 4).filter _

theorem owning_releaseExternalCudaBuffers (howns : Owns img.field held) :
    Owning (releaseExternalCudaBuffers img) held fun img' held' => Owns img'.field held' ∧
      img' = { img with
        devicePtrs := fun i => if i < img.numObjects then none else img.devicePtrs i
        externalObjectMems := fun i =>
          if i < img.numObjects then none else img.externalObjectMems i } := by
  have hnodup : (img.objects.flatMap fun i => [Slot.devicePtr i, .objectMem i]).Nodup := by
    rw [List.nodup_flatMap]
    refine ⟨fun i _ => by simp, (objects_nodup img).imp fun hne slot hfirst hsecond => hne ?_⟩
    simp only [List.mem_cons, List.not_mem_nil, or_false] at hfirst hsecond
    rcases hfirst with rfl | rfl <;> rcases hsecond with h | h <;> cases h <;> rfl
  refine ensures_bind (ensures_cleared hnodup howns ?_ ?_) fun _ _ hleft =>
    ensures_pure ⟨hleft, rfl⟩
  · intro slot hslot
    obtain ⟨i, hi, hslot⟩ := List.mem_flatMap.mp hslot
    rw [mem_objects] at hi
    simp only [List.mem_cons, List.not_mem_nil, or_false] at hslot
    rcases hslot with rfl | rfl
    · change (if i.val < img.numObjects then none else img.devicePtrs i).map _ = none
      rw [if_pos hi]
      rfl
    · change (if i.val < img.numObjects then none else img.externalObjectMems i).map _ = none
      rw [if_pos hi]
      rfl
  · intro slot hslot
    have hpast : ∀ i : Fin 4, slot = .devicePtr i ∨ slot = .objectMem i →
        ¬i.val < img.numObjects := by
      intro i heq hi
      refine hslot (List.mem_flatMap.mpr ⟨i, mem_objects.mpr hi, ?_⟩)
      rcases heq with rfl | rfl <;> simp
    cases slot with
    | devicePtr i =>
        change (if i.val < img.numObjects then none else img.devicePtrs i).map _ = _
        rw [if_neg (hpast i (.inl rfl))]
        rfl
    | objectMem i =>
        change (if i.val < img.numObjects then none else img.externalObjectMems i).map _ = _
        rw [if_neg (hpast i (.inr rfl))]
        rfl
    | _ => rfl

/-- The label `fail` closes all that an image without memory has. -/
theorem owning_failImport (howns : Owns img.field held) (hblank : Blank img) :
    Owning (failImport img) held Settled := by
  refine ensures_bind (owning_releaseExternalCudaBuffers howns) ?_
  rintro img' held' ⟨hleft, rfl⟩
  refine ensures_bind (ensures_releaseAll (by decide) hleft ?_) ?_
  · intro slot r hslot
    cases slot with
    | fd i => exact List.mem_flatMap.mpr ⟨i, List.mem_finRange i, by simp⟩
    | mapping i => exact List.mem_flatMap.mpr ⟨i, List.mem_finRange i, by simp⟩
    | devicePtr i =>
        change (if i.val < img.numObjects then none else img.devicePtrs i).map _ = some r at hslot
        rw [hblank.devicePtrs i, ite_self] at hslot
        cases hslot
    | objectMem i =>
        change (if i.val < img.numObjects then none else img.externalObjectMems i).map _ =
          some r at hslot
        rw [hblank.objectMems i, ite_self] at hslot
        cases hslot
    | mipmapArray i =>
        change ((img.cudaImages i).mipmapArray).map _ = some r at hslot
        rw [hblank.cudaImages i] at hslot
        cases hslot
    | cudaExtMem i =>
        change ((img.cudaImages i).extMem).map _ = some r at hslot
        rw [hblank.cudaImages i] at hslot
        cases hslot
    | extMem =>
        change img.extMem.map _ = some r at hslot
        rw [hblank.extMem] at hslot
        cases hslot
  · rintro _ _ rfl
    exact ensures_pure .failed

/-! ## Descriptors -/

theorem owning_importObjects (imported : ImportedSurface) (howns : Owns img.field held)
    (hblank : Blank img) (hnodup : list.Nodup) (hbound : ∀ j ∈ list, j < 4)
    (hempty : ∀ j ∈ list, img.fds j = -1) :
    Owning (importObjects imported list img) held fun result held' =>
      Owns result.2.field held' ∧ Blank result.2 := by
  induction list generalizing img held with
  | nil => exact ensures_pure ⟨howns, hblank⟩
  | cons i rest ih =>
      obtain ⟨hnot, hrest⟩ := List.nodup_cons.mp hnodup
      have hi : i < 4 := hbound i List.mem_cons_self
      have hfd : img.fds i = -1 := hempty i List.mem_cons_self
      unfold importObjects
      refine owning_opened ?_ fun fd hfd0 hnew => ?_
      · have hsame : (img.withFd i (-1)).field = img.field :=
          field_congr (Function.update_eq_self_iff.mpr hfd.symm) rfl rfl rfl rfl rfl
        dsimp only
        rw [if_pos (by decide)]
        exact ensures_pure ⟨hsame ▸ howns, hblank.withFd i _⟩
      have hopened : Owns (img.withFd i fd).field (insert (.descriptor fd) held) := by
        rw [withFd_field hi hfd0]
        refine howns.insert ?_ hnew
        change descriptorIn (img.fds i) = none
        rw [hfd]
        rfl
      dsimp only
      rw [if_neg (by omega)]
      refine ensures_asked fun answer _ => ?_
      split
      · exact ensures_pure ⟨hopened, hblank.withFd i fd⟩
      refine ih hopened ?_ hrest (fun j hj => hbound j (List.mem_cons_of_mem _ hj)) fun j hj => ?_
      · exact ⟨hblank.external, hblank.borrowed, hblank.few, hblank.cudaImages, hblank.extMem,
          hblank.mappings, hblank.devicePtrs, hblank.objectMems⟩
      · have hne : j ≠ i := by
          rintro rfl
          exact hnot hj
        change Function.update img.fds i fd j = -1
        rw [Function.update_of_ne hne]
        exact hempty j (List.mem_cons_of_mem _ hj)

/-! ## Ways to the memory -/

/-- What a way to the memory leaves: an image that has it, or one that is blank again. -/
def Reached (result : Bool × BackingImage) (held : Set Resource) : Prop :=
  Owns result.2.field held ∧ bif result.1 then Imported result.2 else Blank result.2

theorem owning_importCudaBuffers (howns : Owns img.field held) (hnodup : list.Nodup)
    (hbound : ∀ j ∈ list, j < 4) (hptrs : ∀ j ∈ list, img.devicePtrs j = none)
    (hmems : ∀ j ∈ list, img.externalObjectMems j = none) :
    Owning (importCudaBuffers list img) held fun result held' =>
      Owns result.2.field held' ∧ ∃ ptrs mems,
        result.2 = { img with devicePtrs := ptrs, externalObjectMems := mems } ∧
        ∀ j, j ∉ list → ptrs j = img.devicePtrs j ∧ mems j = img.externalObjectMems j := by
  induction list generalizing img held with
  | nil => exact ensures_pure ⟨howns, _, _, rfl, fun _ _ => ⟨rfl, rfl⟩⟩
  | cons i rest ih =>
      obtain ⟨hnot, hrest⟩ := List.nodup_cons.mp hnodup
      have hi : i < 4 := hbound i List.mem_cons_self
      have hsame : ∃ ptrs mems, img = { img with devicePtrs := ptrs, externalObjectMems := mems } ∧
          ∀ j, j ∉ i :: rest → ptrs j = img.devicePtrs j ∧ mems j = img.externalObjectMems j :=
        ⟨_, _, rfl, fun _ _ => ⟨rfl, rfl⟩⟩
      unfold importCudaBuffers
      split
      · exact ensures_pure ⟨howns, hsame⟩
      refine owning_opened ?_ fun fd hfd0 hnew => ?_
      · rw [if_pos (by decide)]
        exact ensures_pure ⟨howns, hsame⟩
      rw [if_neg (by omega)]
      have hbeside := howns.besideNew hnew
      refine owning_importInto hbeside (.inr ()) (.inl (.objectMem ⟨i, hi⟩)) rfl ?_ ?_
        fun extMem _ himported => ?_
      · change (img.externalObjectMems i).map _ = none
        rw [hmems i List.mem_cons_self]
        rfl
      · refine owning_closeFrom hbeside (.inr ()) rfl fun _ hclosed => ?_
        rw [Sum.update_elim_inr] at hclosed
        exact ensures_pure ⟨hclosed.left fun _ => Function.update_self .., hsame⟩
      rw [Sum.update_elim_inr, Sum.update_elim_inl, ← withObjectMem_field hi] at himported
      have hmem := himported.left fun _ => Function.update_self ..
      refine ensures_acquiredInto hmem (.devicePtr ⟨i, hi⟩) ?_ (ensures_pure ⟨hmem, ?_⟩)
        fun pointer _ hpointer => ?_
      · change (img.devicePtrs i).map _ = none
        rw [hptrs i List.mem_cons_self]
        rfl
      · refine ⟨img.devicePtrs, _, rfl, fun j hj => ⟨rfl, Function.update_of_ne ?_ _ _⟩⟩
        rintro rfl
        exact hj List.mem_cons_self
      rw [← withDevicePtr_field hi] at hpointer
      have hne : ∀ j, j ∈ rest → j ≠ i := by
        rintro j hj rfl
        exact hnot hj
      refine (ih hpointer hrest (fun j hj => hbound j (List.mem_cons_of_mem _ hj)) ?_ ?_).mono ?_
      · intro j hj
        change Function.update img.devicePtrs i _ j = none
        rw [Function.update_of_ne (hne j hj)]
        exact hptrs j (List.mem_cons_of_mem _ hj)
      · intro j hj
        change Function.update img.externalObjectMems i _ j = none
        rw [Function.update_of_ne (hne j hj)]
        exact hmems j (List.mem_cons_of_mem _ hj)
      · rintro result held' ⟨hafter, ptrs, mems, heq, hkept⟩
        refine ⟨hafter, ptrs, mems, heq, fun j hj => ?_⟩
        rw [List.mem_cons, not_or] at hj
        obtain ⟨hj, hout⟩ := hj
        obtain ⟨hptr, hmem⟩ := hkept j hout
        exact ⟨hptr.trans (Function.update_of_ne hj _ _), hmem.trans (Function.update_of_ne hj _ _)⟩

theorem owning_importExternalBuffersToCuda (howns : Owns img.field held) (hblank : Blank img) :
    Owning (importExternalBuffersToCuda img) held Reached := by
  unfold importExternalBuffersToCuda
  split
  · exact ensures_pure ⟨howns, hblank⟩
  refine owning_succeeds fun available => ?_
  split
  · exact ensures_pure ⟨howns, hblank⟩
  have hbound : ∀ j ∈ List.range img.numObjects, j < 4 := fun j hj =>
    Nat.lt_of_lt_of_le (List.mem_range.mp hj) hblank.few
  refine ensures_bind (owning_importCudaBuffers howns List.nodup_range hbound
    (fun j _ => hblank.devicePtrs j) fun j _ => hblank.objectMems j) ?_
  rintro ⟨_ | _, img'⟩ held' ⟨hafter, ptrs, mems, rfl, hkept⟩
  · refine ensures_bind (owning_releaseExternalCudaBuffers hafter) ?_
    rintro _ _ ⟨hleft, rfl⟩
    have hpast : ∀ j, ¬j < img.numObjects → ptrs j = none ∧ mems j = none := by
      intro j hj
      obtain ⟨hptr, hmem⟩ := hkept j fun hin => hj (List.mem_range.mp hin)
      exact ⟨hptr.trans (hblank.devicePtrs j), hmem.trans (hblank.objectMems j)⟩
    refine ensures_pure ⟨hleft, hblank.external, hblank.borrowed, hblank.few, hblank.cudaImages,
      hblank.extMem, hblank.mappings, fun j => ?_, fun j => ?_⟩
    · change (if j < img.numObjects then none else ptrs j) = none
      split
      · rfl
      · rename_i hj
        exact (hpast j hj).1
    · change (if j < img.numObjects then none else mems j) = none
      split
      · rfl
      · rename_i hj
        exact (hpast j hj).2
  · exact ensures_pure ⟨hafter, hblank.imported.external, hblank.imported.cudaExtMem,
      hblank.imported.none⟩

theorem owning_mapObjects (howns : Owns img.field held) (hnodup : list.Nodup)
    (hbound : ∀ j ∈ list, j < 4) (hempty : ∀ j ∈ list, img.mappings j = none) :
    Owning (mapObjects list img) held fun result held' =>
      Owns result.2.field held' ∧ ∃ mappings, result.2 = { img with mappings } ∧
        ∀ j, j ∉ list → mappings j = img.mappings j := by
  induction list generalizing img held with
  | nil => exact ensures_pure ⟨howns, _, rfl, fun _ _ => rfl⟩
  | cons i rest ih =>
      obtain ⟨hnot, hrest⟩ := List.nodup_cons.mp hnodup
      have hi : i < 4 := hbound i List.mem_cons_self
      unfold mapObjects
      split
      · exact ensures_pure ⟨howns, _, rfl, fun _ _ => rfl⟩
      refine ensures_acquiredInto howns (.mapping ⟨i, hi⟩) ?_
        (ensures_pure ⟨howns, _, rfl, fun _ _ => rfl⟩) fun address _ hmapped => ?_
      · change (img.mappings i).map _ = none
        rw [hempty i List.mem_cons_self]
        rfl
      rw [← withMapping_field hi] at hmapped
      refine (ih hmapped hrest (fun j hj => hbound j (List.mem_cons_of_mem _ hj)) ?_).mono ?_
      · intro j hj
        have hne : j ≠ i := by
          rintro rfl
          exact hnot hj
        change Function.update img.mappings i _ j = none
        rw [Function.update_of_ne hne]
        exact hempty j (List.mem_cons_of_mem _ hj)
      · rintro result held' ⟨hafter, mappings, heq, hkept⟩
        refine ⟨hafter, mappings, heq, fun j hj => ?_⟩
        rw [List.mem_cons, not_or] at hj
        obtain ⟨hj, hout⟩ := hj
        exact (hkept j hout).trans (Function.update_of_ne hj _ _)

theorem owning_mapExternalBacking (howns : Owns img.field held) (hblank : Blank img) :
    Owning (mapExternalBacking img) held Reached := by
  unfold mapExternalBacking
  split
  · exact ensures_pure ⟨howns, hblank⟩
  have hbound : ∀ j ∈ List.range img.numObjects, j < 4 := fun j hj =>
    Nat.lt_of_lt_of_le (List.mem_range.mp hj) hblank.few
  refine ensures_bind (owning_mapObjects howns List.nodup_range hbound
    fun j _ => hblank.mappings j) ?_
  rintro ⟨_ | _, img'⟩ held' ⟨hafter, mappings, rfl, hkept⟩
  · have hnodup : (img.objects.map Slot.mapping).Nodup :=
      List.pairwise_map.mpr ((objects_nodup img).imp fun hne heq => hne (Slot.mapping.inj heq))
    refine ensures_bind (ensures_cleared hnodup hafter ?_ ?_) fun _ _ hleft =>
      ensures_pure ⟨hleft, hblank.external, hblank.borrowed, hblank.few, hblank.cudaImages,
        hblank.extMem, fun j => ?_, hblank.devicePtrs, hblank.objectMems⟩
    · intro slot hslot
      obtain ⟨i, hi, rfl⟩ := List.mem_map.mp hslot
      change (if i.val < img.numObjects then none else mappings i).map _ = none
      rw [if_pos (mem_objects.mp hi)]
      rfl
    · intro slot hslot
      cases slot with
      | mapping i =>
          have hi : ¬i.val < img.numObjects := fun hi =>
            hslot (List.mem_map_of_mem (mem_objects.mpr hi))
          change (if i.val < img.numObjects then none else mappings i).map _ = _
          rw [if_neg hi]
          rfl
      | _ => rfl
    · change (if j < img.numObjects then none else mappings j) = none
      split
      · rfl
      · rename_i hj
        exact (hkept j fun hin => hj (List.mem_range.mp hin)).trans (hblank.mappings j)
  · exact ensures_pure ⟨hafter, hblank.imported.external, hblank.imported.cudaExtMem,
      hblank.imported.none⟩

theorem owning_directImportBackingImage (context : NVDriverContext) (legacyPrime : Bool)
    (howns : Owns img.field held) (hblank : Blank img) :
    Owning (directImportBackingImage context img legacyPrime) held Reached := by
  unfold directImportBackingImage
  dsimp only
  split
  · exact ensures_pure ⟨howns, hblank⟩
  rename_i planes size hlayout
  split
  · exact ensures_pure ⟨howns, hblank⟩
  split
  · exact ensures_pure ⟨howns, hblank⟩
  have hcount : 0 + planes.length ≤ (formatsInfo img.format).numPlanes := by
    rw [unifiedLayout_length hlayout, (formatsInfo_planes img.format).1, Nat.zero_add]
  refine ensures_bind owning_exportDmabufMemory ?_
  rintro fd _ (⟨hfd, rfl⟩ | ⟨hfd, hnew, rfl⟩)
  · rw [if_pos hfd]
    exact ensures_pure ⟨howns, hblank⟩
  rw [if_neg (by omega)]
  have hbeside := howns.besideNew hnew
  refine owning_importInto hbeside (.inr ()) (.inl .extMem) rfl ?_ ?_ fun extMem _ himported => ?_
  · change img.extMem.map _ = none
    rw [hblank.extMem]
    rfl
  · refine owning_closeFrom hbeside (.inr ()) rfl fun _ hclosed => ?_
    rw [Sum.update_elim_inr] at hclosed
    exact ensures_pure ⟨hclosed.left fun _ => Function.update_self .., hblank⟩
  rw [Sum.update_elim_inr, Sum.update_elim_inl, ← withExtMem_field] at himported
  refine ensures_bind (owning_mapPlanes himported (fun j _ => ?_) hcount) ?_
  · change (img.cudaImages j).mipmapArray = none
    rw [hblank.cudaImages j]
  rintro ⟨mapped, img'⟩ held' ⟨hafter, hmapped⟩
  have hafter := hafter.left fun _ => Function.update_self ..
  have hmems : ∀ j, (img'.cudaImages j).extMem = none := by
    intro j
    rw [hmapped.extMems j]
    change (img.cudaImages j).extMem = none
    rw [hblank.cudaImages j]
  have hpast : ∀ j, (formatsInfo img.format).numPlanes ≤ j → img'.cudaImages j = {} :=
    fun j hj => (hmapped.planes j hj).trans (hblank.cudaImages j)
  have hsame := hmapped.same
  generalize img'.cudaImages = cudaImages at hmems hpast hsame
  subst hsame
  cases mapped with
  | true =>
      refine ensures_pure ⟨hafter, hblank.external, hmems, fun hnone => ?_⟩
      rcases hnone with hborrowed | hnone
      · cases hborrowed.symm.trans hblank.borrowed
      · cases hnone
  | false =>
      have hnodup : ((planesBelow (formatsInfo img.format).numPlanes).map Slot.mipmapArray ++
          [Slot.extMem]).Nodup := by
        generalize img.format = format
        cases format <;> decide
      refine ensures_bind (ensures_cleared hnodup hafter ?_ ?_) fun _ _ hleft =>
        ensures_pure ⟨hleft, hblank.external, hblank.borrowed, hblank.few, fun j => ?_, rfl,
          hblank.mappings, hblank.devicePtrs, hblank.objectMems⟩
      · intro slot hslot
        rcases List.mem_append.mp hslot with harray | hmem
        · obtain ⟨i, hi, rfl⟩ := List.mem_map.mp harray
          change (ite _ _ (cudaImages i)).mipmapArray.map _ = none
          rw [if_pos (mem_planesBelow.mp hi)]
          rfl
        · rw [List.mem_singleton.mp hmem]
          rfl
      · intro slot hslot
        rw [List.mem_append, List.mem_singleton, not_or] at hslot
        cases slot with
        | mipmapArray i =>
            have hi : ¬i.val < (formatsInfo img.format).numPlanes := fun hi =>
              hslot.1 (List.mem_map_of_mem (mem_planesBelow.mpr hi))
            change (ite _ _ (cudaImages i)).mipmapArray.map _ = _
            rw [if_neg hi]
            rfl
        | cudaExtMem i =>
            change (ite _ _ (cudaImages i)).extMem.map _ = (cudaImages i).extMem.map _
            split <;> rfl
        | extMem => exact absurd rfl hslot.2
        | _ => rfl
      · change ite _ _ (cudaImages j) = {}
        split
        · change NVCudaImage.mk (cudaImages j).extMem none = {}
          rw [hmems j]
        · rename_i hj
          exact hpast j (Nat.le_of_not_lt hj)

theorem owning_importMemory (context : NVDriverContext) (legacyPrime : Bool)
    (howns : Owns img.field held) (hblank : Blank img) :
    Owning (importMemory context img legacyPrime) held Settled := by
  unfold importMemory
  refine ensures_bind (owning_directImportBackingImage context legacyPrime howns hblank) ?_
  rintro ⟨_ | _, img⟩ held' ⟨howns, hreached⟩
  · refine ensures_bind (owning_importExternalBuffersToCuda howns hreached) ?_
    rintro ⟨_ | _, img⟩ held' ⟨howns, hreached⟩
    · refine ensures_bind (owning_mapExternalBacking howns hreached) ?_
      rintro ⟨_ | _, img⟩ held' ⟨howns, hreached⟩
      · exact owning_failImport howns hreached
      · exact ensures_pure (.owned howns (Imported.disposable hreached))
    · exact ensures_pure (.owned howns (Imported.disposable hreached))
  · exact ensures_pure (.owned howns (Imported.disposable hreached))

/-! ## Creation -/

/-- The layout of the planes leaves the handles of an image and what it is. -/
theorem importPlanes_kept {imported : ImportedSurface} {img img' : Surface.BackingImage}
    (himport : importPlanes imported list img = some img') :
    img'.isExternalBuffer = img.isExternalBuffer ∧
      img'.borrowedCudaResources = img.borrowedCudaResources ∧
      img'.numObjects = img.numObjects ∧ img'.fds = img.fds := by
  induction list generalizing img with
  | nil =>
      cases himport
      exact ⟨rfl, rfl, rfl, rfl⟩
  | cons i rest ih =>
      unfold importPlanes at himport
      dsimp only at himport
      split at himport
      · cases himport
      · have hrest := ih himport
        exact hrest

theorem recoverModifier_kept (legacyPrime : Bool) (existing img : Surface.BackingImage) :
    ∃ mods, recoverModifier legacyPrime existing img = { img with mods } := by
  unfold recoverModifier
  split
  · exact ⟨_, rfl⟩
  · exact ⟨_, rfl⟩

theorem owning_createImportedBackingImageImpl (context : NVDriverContext)
    (existing : Option (ImageId × Surface.BackingImage)) {imported : ImportedSurface}
    (hbounded : imported.Bounded) (width height : Nat) :
    Owning (createImportedBackingImageImpl context existing imported width height) ∅ Settled := by
  unfold createImportedBackingImageImpl
  dsimp only
  split
  · exact ensures_pure .failed
  refine owning_succeeds fun allocated => ?_
  split
  · exact ensures_pure .failed
  have hbound : ∀ j ∈ List.range imported.numObjects, j < 4 := fun j hj =>
    Nat.lt_of_lt_of_le (List.mem_range.mp hj) hbounded.1
  refine ensures_bind (owning_importObjects imported (owns_new _ rfl)
    ⟨rfl, rfl, hbounded.1, fun _ => rfl, rfl, fun _ => rfl, fun _ => rfl, fun _ => rfl⟩
    List.nodup_range hbound fun _ _ => rfl) ?_
  rintro ⟨_ | _, img⟩ held ⟨howns, hblank⟩
  · exact owning_failImport howns hblank
  dsimp only
  split
  · exact owning_failImport howns hblank
  rename_i toBackingImage hplanes
  obtain ⟨hexternal, hborrowed, hobjects, hfds⟩ := importPlanes_kept hplanes
  have hfield : BackingImage.field { img with toBackingImage } = img.field :=
    field_congr hfds rfl rfl rfl rfl rfl
  have howns' : Owns (BackingImage.field { img with toBackingImage }) held := by
    rw [hfield]
    exact howns
  have hblank' : Blank { img with toBackingImage } :=
    ⟨hexternal.trans hblank.external, hborrowed.trans hblank.borrowed, by
      change toBackingImage.numObjects ≤ 4
      rw [hobjects]
      exact hblank.few, hblank.cudaImages, hblank.extMem, hblank.mappings, hblank.devicePtrs,
      hblank.objectMems⟩
  split
  · exact owning_failImport howns' hblank'
  cases existing with
  | none => exact owning_importMemory context _ howns' hblank'
  | some found =>
      obtain ⟨id, existing⟩ := found
      obtain ⟨mods, hmods⟩ := recoverModifier_kept imported.legacyPrime existing toBackingImage
      have hblank' : Blank { img with toBackingImage := { toBackingImage with mods } } :=
        ⟨hblank'.external, hblank'.borrowed, hblank'.few, hblank'.cudaImages, hblank'.extMem,
          hblank'.mappings, hblank'.devicePtrs, hblank'.objectMems⟩
      dsimp only
      rw [hmods]
      refine owning_succeeds fun matching => ?_
      split
      · -- A borrowed image has descriptors only, as it had before.
        refine ensures_pure (.owned howns' (Imported.disposable ⟨hblank'.external, ?_, ?_⟩))
        · exact hblank'.imported.cudaExtMem
        · exact fun _ => hblank'.imported.none (.inr hblank'.extMem)
      · exact owning_importMemory context _ howns' hblank'

end Direct
end NvidiaVaapi
