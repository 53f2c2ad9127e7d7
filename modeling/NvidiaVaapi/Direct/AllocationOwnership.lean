import NvidiaVaapi.Direct.Allocation

/-!
# Ownership in the allocation of backing images

Wherever an allocation fails, every descriptor that it has opened and every object of CUDA that
it has created is closed or destroyed once; where it succeeds, each belongs to one field of the
image.
-/

namespace NvidiaVaapi
namespace Direct

open ResourceProgram
open Surface (NVDriverContext NVDriverImage NVDExportLayout NVFormatInfo NVFormatPlane NVSurface
  calculateUnifiedImageLayout formatsInfo nvFormatForSurface)

variable {held : Set Resource} {img img' : BackingImage}

/-! ## Fields -/

theorem descriptorIn_of_nonneg {fd : Int} (hfd : 0 ≤ fd) :
    descriptorIn fd = some (.descriptor fd) :=
  if_pos hfd

/-- The fields depend on the descriptors and the handles. -/
theorem field_congr (hfds : img'.fds = img.fds) (hmappings : img'.mappings = img.mappings)
    (hptrs : img'.devicePtrs = img.devicePtrs)
    (hmems : img'.externalObjectMems = img.externalObjectMems)
    (himages : img'.cudaImages = img.cudaImages) (hextMem : img'.extMem = img.extMem) :
    img'.field = img.field := by
  funext slot
  unfold BackingImage.field
  rw [hfds, hmappings, hptrs, hmems, himages, hextMem]

theorem withFd_field {i : Nat} {fd : Int} (hi : i < 4) (hfd : 0 ≤ fd) :
    (img.withFd i fd).field =
      Function.update img.field (.fd ⟨i, hi⟩) (some (.descriptor fd)) := by
  funext slot
  by_cases hslot : slot = .fd ⟨i, hi⟩
  · subst hslot
    rw [Function.update_self]
    change descriptorIn (Function.update img.fds i fd i) = _
    rw [Function.update_self, descriptorIn_of_nonneg hfd]
  · rw [Function.update_of_ne hslot]
    cases slot with
    | fd j =>
        have hne : j.val ≠ i := fun h => hslot (congrArg Slot.fd (Fin.ext h))
        change descriptorIn (Function.update img.fds i fd j) = descriptorIn (img.fds j)
        rw [Function.update_of_ne hne]
    | _ => rfl

theorem withCudaExtMem_field {i extMem : Nat} (hi : i < 3) :
    (img.withCudaExtMem i extMem).field =
      Function.update img.field (.cudaExtMem ⟨i, hi⟩) (some (.externalMemory extMem)) := by
  funext slot
  by_cases hslot : slot = .cudaExtMem ⟨i, hi⟩
  · subst hslot
    rw [Function.update_self]
    change ((Function.update img.cudaImages i _ i).extMem).map _ = _
    rw [Function.update_self]
    rfl
  · rw [Function.update_of_ne hslot]
    cases slot with
    | cudaExtMem j =>
        have hne : j.val ≠ i := fun h => hslot (congrArg Slot.cudaExtMem (Fin.ext h))
        change ((Function.update img.cudaImages i _ j).extMem).map _ = _
        rw [Function.update_of_ne hne]
        rfl
    | mipmapArray j =>
        change ((Function.update img.cudaImages i _ j).mipmapArray).map _ =
          ((img.cudaImages j).mipmapArray).map _
        by_cases hne : j.val = i
        · rw [hne, Function.update_self]
        · rw [Function.update_of_ne hne]
    | _ => rfl

theorem withMipmapArray_field {i mipmapArray : Nat} (hi : i < 3) :
    (img.withMipmapArray i mipmapArray).field =
      Function.update img.field (.mipmapArray ⟨i, hi⟩) (some (.mipmappedArray mipmapArray)) := by
  funext slot
  by_cases hslot : slot = .mipmapArray ⟨i, hi⟩
  · subst hslot
    rw [Function.update_self]
    change ((Function.update img.cudaImages i _ i).mipmapArray).map _ = _
    rw [Function.update_self]
    rfl
  · rw [Function.update_of_ne hslot]
    cases slot with
    | mipmapArray j =>
        have hne : j.val ≠ i := fun h => hslot (congrArg Slot.mipmapArray (Fin.ext h))
        change ((Function.update img.cudaImages i _ j).mipmapArray).map _ = _
        rw [Function.update_of_ne hne]
        rfl
    | cudaExtMem j =>
        change ((Function.update img.cudaImages i _ j).extMem).map _ =
          ((img.cudaImages j).extMem).map _
        by_cases hne : j.val = i
        · rw [hne, Function.update_self]
        · rw [Function.update_of_ne hne]
    | _ => rfl

theorem withExtMem_field (extMem : Nat) :
    BackingImage.field { img with extMem := some extMem } =
      Function.update img.field .extMem (some (.externalMemory extMem)) := by
  funext slot
  by_cases hslot : slot = .extMem
  · subst hslot
    rw [Function.update_self]
    rfl
  · rw [Function.update_of_ne hslot]
    cases slot with
    | extMem => exact absurd rfl hslot
    | _ => rfl

/-! ## Destruction -/

/-- With the flag clear a test of it is failed. -/
theorem owning_safe {α : Type} {f : Bool → Program α} {P : α → Set Resource → Prop}
    (hf : Owning (f false) held P) : Owning (succeeds .cudaWorkUnsafe >>= f) held P := by
  refine ensures_bind (P := fun raised held' => raised = false ∧ held' = held) ?_ ?_
  · refine ensures_asked fun answer hanswer => ensures_pure ⟨?_, rfl⟩
    rw [hanswer rfl]
    rfl
  · rintro _ _ ⟨rfl, rfl⟩
    exact hf

/-- No field is released twice. -/
theorem destroySlots_nodup (img : BackingImage) : img.destroySlots.Nodup := by
  unfold BackingImage.destroySlots
  generalize img.format = format, img.borrowedCudaResources = borrowed,
    img.isSingleBuffer = single
  revert format borrowed single
  intro format borrowed single
  cases format <;> cases borrowed <;> cases single <;> decide

/-- An image of the direct backend, all of whose planes are planes of its format. -/
structure Releasable (img : BackingImage) : Prop where
  owned : img.isExternalBuffer = false
  resources : img.borrowedCudaResources = false
  planes : ∀ j, (formatsInfo img.format).numPlanes ≤ j → img.cudaImages j = {}
  single : img.isSingleBuffer = true → ∀ j, (img.cudaImages j).extMem = none
  separate : img.isSingleBuffer = false → img.extMem = none

theorem mem_planesBelow {numPlanes : Nat} {i : Fin 3} :
    i ∈ planesBelow numPlanes ↔ i.val < numPlanes := by
  unfold planesBelow
  rw [List.mem_filter, decide_eq_true_iff]
  exact and_iff_right (List.mem_finRange i)

/-- Every field that owns something is released. -/
theorem Releasable.mem_destroySlots (h : Releasable img) {slot : Slot} {r : Resource}
    (hslot : img.field slot = some r) : slot ∈ img.destroySlots := by
  have hplane : ∀ i : Fin 3, img.cudaImages i ≠ {} →
      i ∈ planesBelow (formatsInfo img.format).numPlanes := by
    intro i hi
    rw [mem_planesBelow]
    by_contra hpast
    exact hi (h.planes i (Nat.le_of_not_lt hpast))
  unfold BackingImage.destroySlots
  rw [h.resources]
  simp only [Bool.false_eq_true, if_false]
  simp only [List.mem_append, List.mem_flatMap, List.mem_map, List.mem_finRange, true_and]
  cases slot with
  | fd i => exact .inl (.inr ⟨i, rfl⟩)
  | mapping i => exact .inl (.inl ⟨i, List.mem_cons_self⟩)
  | devicePtr i => exact .inl (.inl ⟨i, List.mem_cons_of_mem _ List.mem_cons_self⟩)
  | objectMem i =>
      exact .inl (.inl ⟨i, List.mem_cons_of_mem _ (List.mem_cons_of_mem _ List.mem_cons_self)⟩)
  | mipmapArray i =>
      refine .inr (.inl ⟨i, hplane i fun hempty => ?_, rfl⟩)
      change ((img.cudaImages i).mipmapArray).map _ = some r at hslot
      rw [hempty] at hslot
      cases hslot
  | cudaExtMem i =>
      change ((img.cudaImages i).extMem).map _ = some r at hslot
      cases hsingle : img.isSingleBuffer with
      | true =>
          rw [h.single hsingle i] at hslot
          cases hslot
      | false =>
          refine .inr (.inr ?_)
          rw [if_neg Bool.false_ne_true, List.mem_map]
          refine ⟨i, hplane i fun hempty => ?_, rfl⟩
          rw [hempty] at hslot
          cases hslot
  | extMem =>
      change img.extMem.map _ = some r at hslot
      cases hsingle : img.isSingleBuffer with
      | true =>
          refine .inr (.inr ?_)
          rw [if_pos rfl]
          exact List.mem_cons_self
      | false =>
          rw [h.separate hsingle] at hslot
          cases hslot

/-- Whoever destroys an image releases all that it owns. -/
def Disposable (img : BackingImage) : Prop :=
  ∀ held, Owns img.field held → Owning (destroyBackingImage img) held fun _ held' => held' = ∅

theorem Releasable.disposable (hrel : Releasable img) : Disposable img := by
  intro held howns
  unfold destroyBackingImage
  refine owning_safe ?_
  rw [if_neg Bool.false_ne_true, hrel.owned, if_neg Bool.false_ne_true]
  exact ensures_releaseAll (destroySlots_nodup img) howns fun _ _ => hrel.mem_destroySlots

/-- What an allocation or an import leaves: nothing, or an image that owns it and releases it. -/
inductive Settled : Option BackingImage → Set Resource → Prop
  | failed : Settled none ∅
  | owned {img : BackingImage} {held : Set Resource} (howns : Owns img.field held)
      (hdisposable : Disposable img) : Settled (some img) held

theorem owning_destroyFailed (howns : Owns img.field held) (hdisposable : Disposable img) :
    Owning (destroyFailed img) held Settled := by
  refine ensures_bind (hdisposable held howns) ?_
  rintro _ _ rfl
  exact ensures_pure .failed

/-! ## Descriptors in variables -/

section Variables

variable {α S : Type} [DecidableEq S] {P : α → Set Resource → Prop}
  {field field' : S → Option Resource} {fds : Descriptors}

theorem Descriptors.field_none (slot : FdSlot) : ({} : Descriptors).field slot = none := by
  cases slot <;> rfl

theorem Descriptors.field_nvFd (fds : Descriptors) :
    Descriptors.field { fds with nvFd := -1 } = Function.update fds.field .nvFd none := by
  funext slot
  cases slot <;> rfl

theorem Descriptors.field_nvFd2 (fds : Descriptors) :
    Descriptors.field { fds with nvFd2 := -1 } = Function.update fds.field .nvFd2 none := by
  funext slot
  cases slot <;> rfl

theorem Descriptors.field_drmFd (fds : Descriptors) :
    Descriptors.field { fds with drmFd := -1 } = Function.update fds.field .drmFd none := by
  funext slot
  cases slot <;> rfl

/-- All three descriptors are open. -/
structure Descriptors.Open (fds : Descriptors) : Prop where
  nvFd : 0 ≤ fds.nvFd
  nvFd2 : 0 ≤ fds.nvFd2
  drmFd : 0 ≤ fds.drmFd

theorem OpenedBuffer.open {held' : Set Resource} (h : OpenedBuffer held fds held') : fds.Open :=
  ⟨h.nvFd_open, h.exported.first_open, h.exported.second_open⟩

/-- The descriptors of a buffer are put into three empty fields. -/
theorem OpenedBuffer.owns {held' : Set Resource} (h : OpenedBuffer held fds held')
    (howns : Owns field held) (slot : FdSlot → S) (hslot : Function.Injective slot)
    (hempty : ∀ s, field (slot s) = none) (hopened : ∀ s, field' (slot s) = fds.field s)
    (hsame : ∀ t, (∀ s, t ≠ slot s) → field' t = field t) : Owns field' held' := by
  have hne : ∀ s s', s ≠ s' → slot s ≠ slot s' := fun s s' => hslot.ne
  have hfirst := howns.insert (hempty .nvFd) h.nvFd_new
  have hsecond := hfirst.insert (s := slot .nvFd2)
    (by rw [Function.update_of_ne (hne .nvFd2 .nvFd nofun), hempty]) h.exported.first_new
  have hthird := hsecond.insert (s := slot .drmFd)
    (by rw [Function.update_of_ne (hne .drmFd .nvFd2 nofun),
          Function.update_of_ne (hne .drmFd .nvFd nofun), hempty])
    h.exported.second_new
  rw [h.exported.after]
  convert hthird using 1
  funext t
  by_cases hdrm : t = slot .drmFd
  · rw [hdrm, Function.update_self, hopened]
    exact descriptorIn_of_nonneg h.exported.second_open
  rw [Function.update_of_ne hdrm]
  by_cases hnv2 : t = slot .nvFd2
  · rw [hnv2, Function.update_self, hopened]
    exact descriptorIn_of_nonneg h.exported.first_open
  rw [Function.update_of_ne hnv2]
  by_cases hnv : t = slot .nvFd
  · rw [hnv, Function.update_self, hopened]
    exact descriptorIn_of_nonneg h.nvFd_open
  rw [Function.update_of_ne hnv]
  refine hsame t fun s => ?_
  cases s with
  | nvFd => exact hnv
  | nvFd2 => exact hnv2
  | drmFd => exact hdrm

/-- The variables of a buffer stand beside the fields. -/
theorem OpenedBuffer.beside {held' : Set Resource} (h : OpenedBuffer held fds held')
    (howns : Owns field held) : Owns (Sum.elim field fds.field) held' := by
  refine h.owns (howns.beside Descriptors.field_none) Sum.inr
    (fun _ _ heq => Sum.inr.inj heq) Descriptors.field_none (fun _ => rfl) ?_
  rintro (s | s) hs
  · rfl
  · exact absurd rfl (hs s)

/-- A descriptor is closed out of its field. -/
theorem owning_closeFrom {f : Unit → Program α} {fd : Int} (howns : Owns field held) (s : S)
    (hs : field s = some (.descriptor fd))
    (hf : ∀ held', Owns (Function.update field s none) held' → Owning (f ()) held' P) :
    Owning (close fd >>= f) held P :=
  ensures_releasedFrom howns s hs hf

/-- CUDA takes the descriptor of a field over and gives the memory to another field. -/
theorem owning_importInto {f : Option Nat → Program α} {fd : Int}
    (howns : Owns field held) (s t : S) (hs : field s = some (.descriptor fd)) (ht : field t = none)
    (hrefused : Owning (f none) held P)
    (himported : ∀ extMem held', Owns (Function.update (Function.update field s none) t
      (some (.externalMemory extMem))) held' → Owning (f (some extMem)) held' P) :
    Owning (cuImportExternalMemory fd >>= f) held P := by
  have hne : t ≠ s := by
    rintro rfl
    rw [ht] at hs
    cases hs
  refine owning_cuImportExternalMemory ((howns.mem _).mpr ⟨s, hs⟩) hrefused fun extMem hnew => ?_
  refine himported extMem _ ((howns.erase hs).insert ?_ fun hmem => hnew hmem.1)
  rw [Function.update_of_ne hne]
  exact ht

end Variables

end Direct
end NvidiaVaapi
