import NvidiaVaapi.Surface.CacheWrites

/-!
# What the caches leave alone

Destroying, pruning and detaching images leaves the surfaces that do not own them as they
are, and the layout of the images that stay.
-/

namespace NvidiaVaapi
namespace Surface

/-- The images in memory were there before, with the layout they have. -/
def Survivors (d d' : NVDriver) : Prop :=
  ∀ id x, d'.heap.get id = some x → ∃ y, d.heap.get id = some y ∧ SameLayout y x

namespace Survivors

variable {d d' d'' : NVDriver}

theorem of_eq (hheap : d'.heap = d.heap) : Survivors d d' := by
  intro id x hx
  rw [hheap] at hx
  exact ⟨x, hx, SameLayout.refl x⟩

theorem trans (h : Survivors d d') (h' : Survivors d' d'') : Survivors d d'' := by
  intro id z hz
  obtain ⟨y, hy, hyz⟩ := h' id z hz
  obtain ⟨x, hx, hxy⟩ := h id y hy
  exact ⟨x, hx, hxy.trans hyz⟩

theorem modifyImage (d : NVDriver) (id : ImageId) {f : BackingImage → BackingImage}
    (hlayout : ∀ img, SameLayout img (f img)) : Survivors d (d.modifyImage id f) := by
  intro other x hx
  rw [get_modifyImage] at hx
  split at hx
  · rename_i heq
    subst heq
    obtain ⟨y, hy, rfl⟩ := Option.map_eq_some_iff.mp hx
    exact ⟨y, hy, hlayout y⟩
  · exact ⟨x, hx, SameLayout.refl x⟩

theorem freeImage (d : NVDriver) (id : ImageId) : Survivors d (d.freeImage id) := by
  unfold NVDriver.freeImage
  split
  · intro other x hx
    change (d.heap.clear id).get other = some x at hx
    by_cases hne : other = id
    · subst hne
      rw [SlotTable.get_clear] at hx
      cases hx
    · rw [SlotTable.get_clear_of_ne hne] at hx
      exact ⟨x, hx, SameLayout.refl x⟩
  · exact of_eq rfl

theorem release (d : NVDriver) (id : ImageId) :
    Survivors d (d.nvReleaseBackingImageBorrow id) := by
  unfold NVDriver.nvReleaseBackingImageBorrow
  split
  · split
    · refine Survivors.trans ?_ (modifyImage _ id fun _ => ⟨_, _, _, _, rfl⟩)
      exact modifyImage d _ fun _ => ⟨_, _, _, _, rfl⟩
    · exact of_eq rfl
  · exact of_eq rfl

theorem forgetSurface (d : NVDriver) (img : BackingImage) : Survivors d (d.forgetSurface img) :=
  of_eq (forgetSurface_heap d img)

theorem clearBackingImage (d : NVDriver) (s : SurfaceId) : Survivors d (d.clearBackingImage s) :=
  of_eq (modifySurface_heap d s _)

theorem destroyImported (d : NVDriver) (id : ImageId) :
    Survivors d (d.nvDestroyImportedBackingImage id) := by
  unfold NVDriver.nvDestroyImportedBackingImage
  split
  · exact of_eq rfl
  · split
    · rename_i img _
      exact ((forgetSurface d img).trans (release _ id)).trans (freeImage _ id)
    · exact of_eq rfl

theorem destroyBackingImage (d : NVDriver) (id : ImageId) :
    Survivors d (d.destroyBackingImage id) := by
  unfold NVDriver.destroyBackingImage
  split
  · exact of_eq rfl
  · split
    · exact of_eq rfl
    · rename_i img _
      split
      · exact destroyImported d id
      · exact ((forgetSurface d img).trans (release _ id)).trans (freeImage _ id)

theorem eglDestroyBackingImage (d : NVDriver) (id : ImageId) :
    Survivors d (d.eglDestroyBackingImage id) := by
  unfold NVDriver.eglDestroyBackingImage
  split
  · exact of_eq rfl
  · rename_i img _
    split
    · exact destroyImported d id
    · exact (forgetSurface d img).trans (freeImage _ id)

end Survivors

/-! ## Surfaces -/

theorem forgetSurface_of_none {d : NVDriver} {img : BackingImage} (hnone : img.surface = none) :
    d.forgetSurface img = d := by
  unfold NVDriver.forgetSurface
  rw [hnone]

/-- A surface that has forgotten its image has none. -/
theorem backingImage_of_forget {d : NVDriver} {img : BackingImage} {s : SurfaceId}
    {surface : NVSurface} (hs : img.surface = some s)
    (hget : (d.forgetSurface img).surfaces.get s = some surface) :
    surface.backingImage = none := by
  unfold NVDriver.forgetSurface at hget
  rw [hs] at hget
  exact backingImage_of_clear hget

/-- What destroying an image does to surfaces: its own one forgets it, unless the GPU is lost. -/
theorem destroyImported_surfaces {d : NVDriver} {id : ImageId} {img : BackingImage}
    (hget : d.heap.get id = some img) :
    (d.nvDestroyImportedBackingImage id).surfaces = (d.forgetSurface img).surfaces ∨
    d.cudaWorkUnsafe = true ∧ d.nvDestroyImportedBackingImage id = d := by
  unfold NVDriver.nvDestroyImportedBackingImage
  split
  · rename_i hlost
    exact .inr ⟨hlost, rfl⟩
  · rw [hget]
    simp only
    rw [freeImage_surfaces, release_surfaces]
    exact .inl rfl

theorem destroyBackingImage_surfaces {d : NVDriver} {id : ImageId} {img : BackingImage}
    (hget : d.heap.get id = some img) :
    (d.destroyBackingImage id).surfaces = (d.forgetSurface img).surfaces ∨
    d.cudaWorkUnsafe = true ∧ d.destroyBackingImage id = d := by
  unfold NVDriver.destroyBackingImage
  split
  · rename_i hlost
    exact .inr ⟨hlost, rfl⟩
  · rw [hget]
    simp only
    split
    · exact destroyImported_surfaces hget
    · rw [freeImage_surfaces, release_surfaces]
      exact .inl rfl

theorem eglDestroyBackingImage_surfaces {d : NVDriver} {id : ImageId} {img : BackingImage}
    (hget : d.heap.get id = some img) :
    (d.eglDestroyBackingImage id).surfaces = (d.forgetSurface img).surfaces ∨
    d.cudaWorkUnsafe = true ∧ d.eglDestroyBackingImage id = d := by
  unfold NVDriver.eglDestroyBackingImage
  rw [hget]
  simp only
  split
  · exact destroyImported_surfaces hget
  · rw [freeImage_surfaces]
    exact .inl rfl

/-! ## Pruning -/

/-- The image that `pruneOldestDetachedBackingImageLocked` takes. -/
theorem pruneOldest_eq {d d' : NVDriver} (hprune : d.pruneOldestDetachedBackingImage = some d') :
    ∃ id img, id ∈ d.images ∧ d.heap.get id = some img ∧ img.surface = none ∧
      img.borrowCount = 0 ∧
      d' = ((d.unlinkDetachedBackingImage id img).removeImage id).destroyBackingImage id := by
  unfold NVDriver.pruneOldestDetachedBackingImage at hprune
  split at hprune
  · cases hprune
  · rename_i id hfind
    have hcan := List.find?_some hfind
    split at hprune
    · rename_i hmem
      split at hprune
      · cases hprune
      · rename_i img hget
        unfold NVDriver.backingImageCanPrune at hcan
        rw [hget] at hcan
        obtain ⟨hsurface, hzero⟩ := Bool.and_eq_true_iff.mp hcan
        cases hprune
        exact ⟨id, img, hmem, hget, Option.isNone_iff_eq_none.mp hsurface,
          of_decide_eq_true hzero, rfl⟩
    · cases hprune

/-- The image that is unlinked from the detached ones. -/
theorem get_unlink {d : NVDriver} {id : ImageId} {img : BackingImage}
    (hget : d.heap.get id = some img) :
    (d.unlinkDetachedBackingImage id img).heap.get id = some { img with detachedSerial := 0 } := by
  unfold NVDriver.unlinkDetachedBackingImage
  rw [get_modifyImage, if_pos rfl]
  show (d.heap.get id).map _ = _
  rw [hget]
  rfl

theorem pruneOldest_frame {d d' : NVDriver}
    (hprune : d.pruneOldestDetachedBackingImage = some d') :
    d'.surfaces = d.surfaces ∧ Survivors d d' := by
  obtain ⟨id, img, -, hget, hnone, -, rfl⟩ := pruneOldest_eq hprune
  have hgetRemoved : ((d.unlinkDetachedBackingImage id img).removeImage id).heap.get id =
      some { img with detachedSerial := 0 } := get_unlink hget
  have hsame : ((d.unlinkDetachedBackingImage id img).removeImage id).surfaces = d.surfaces :=
    modifyImage_surfaces _ id _
  constructor
  · rcases destroyBackingImage_surfaces hgetRemoved with hforget | ⟨-, hkept⟩
    · have hno : ({ img with detachedSerial := 0 } : BackingImage).surface = none := hnone
      rw [hforget, forgetSurface_of_none hno]
      exact hsame
    · rw [hkept]
      exact hsame
  · have hunlinked : Survivors d ((d.unlinkDetachedBackingImage id img).removeImage id) := by
      have hmodified : Survivors { d with
          detached := d.detached.erase id
          detachedBackingImageBytes :=
            d.detachedBackingImageBytes - NVDriver.backingImageMemorySize img
          detachedBackingImageCount := d.detachedBackingImageCount - 1 }
          (d.unlinkDetachedBackingImage id img) :=
        Survivors.modifyImage _ id fun _ => ⟨_, _, _, _, rfl⟩
      exact hmodified
    exact hunlinked.trans (Survivors.destroyBackingImage _ id)

theorem pruneWhile_frame (reason : NVDriver → Bool) (rounds : Nat) (d : NVDriver) :
    (NVDriver.pruneWhile reason rounds d).surfaces = d.surfaces ∧
    Survivors d (NVDriver.pruneWhile reason rounds d) := by
  induction rounds generalizing d with
  | zero => exact ⟨rfl, Survivors.of_eq rfl⟩
  | succ rounds ih =>
      unfold NVDriver.pruneWhile
      split
      · split
        · rename_i d' hprune
          obtain ⟨hsurfaces, hsurvivors⟩ := pruneOldest_frame hprune
          exact ⟨(ih d').1.trans hsurfaces, hsurvivors.trans (ih d').2⟩
        · exact ⟨rfl, Survivors.of_eq rfl⟩
      · exact ⟨rfl, Survivors.of_eq rfl⟩

/-- The victim of a pruning is a cached image without a surface that nobody borrows. -/
theorem eglVictim_spec {d : NVDriver} {id : ImageId} {img : BackingImage}
    (hvictim : d.eglVictim = some (id, img)) :
    id ∈ d.images ∧ d.heap.get id = some img ∧ img.surface = none ∧ img.borrowCount = 0 := by
  have hloop : ∀ (list : List ImageId) (victim : Option (ImageId × BackingImage)),
      (∀ v ∈ list, v ∈ d.images) →
      (∀ v, victim = some v → v.1 ∈ d.images ∧ d.heap.get v.1 = some v.2 ∧
        v.2.surface = none ∧ v.2.borrowCount = 0) →
      ∀ v, list.foldl d.olderVictim victim = some v →
        v.1 ∈ d.images ∧ d.heap.get v.1 = some v.2 ∧ v.2.surface = none ∧ v.2.borrowCount = 0 := by
    intro list
    induction list with
    | nil => exact fun victim _ hold v hv => hold v hv
    | cons candidate rest ih =>
        intro victim hmem hold
        refine ih _ (fun v hv => hmem v (List.mem_cons_of_mem _ hv)) ?_
        intro v hv
        unfold NVDriver.olderVictim at hv
        split at hv
        · exact hold v hv
        · rename_i x hx
          split at hv
          · rename_i hfree
            cases hv
            exact ⟨hmem candidate List.mem_cons_self, hx, hfree.1, hfree.2.1⟩
          · exact hold v hv
  exact hloop d.images none (fun _ hmem => hmem) nofun (id, img) hvictim

theorem eglPrune_frame {d : NVDriver} {id : ImageId} {img : BackingImage}
    (hvictim : d.eglVictim = some (id, img)) :
    (d.eglPrune id img).surfaces = d.surfaces ∧ Survivors d (d.eglPrune id img) := by
  obtain ⟨-, hget, hnone, -⟩ := eglVictim_spec hvictim
  constructor
  · unfold NVDriver.eglPrune
    rcases eglDestroyBackingImage_surfaces (d := { d with
        detachedBackingImageBytes :=
          d.detachedBackingImageBytes - NVDriver.eglBackingImageMemorySize img
        detachedBackingImageCount := d.detachedBackingImageCount - 1 }.removeImage id)
      hget with hforget | ⟨-, hkept⟩
    · rw [hforget, forgetSurface_of_none hnone]
      rfl
    · rw [hkept]
      rfl
  · have hdestroyed := Survivors.eglDestroyBackingImage ({ d with
      detachedBackingImageBytes :=
        d.detachedBackingImageBytes - NVDriver.eglBackingImageMemorySize img
      detachedBackingImageCount := d.detachedBackingImageCount - 1 }.removeImage id) id
    exact hdestroyed

theorem eglPruneDetached_frame (rounds : Nat) (d : NVDriver) :
    (NVDriver.eglPruneDetachedBackingImages rounds d).surfaces = d.surfaces ∧
    Survivors d (NVDriver.eglPruneDetachedBackingImages rounds d) := by
  induction rounds generalizing d with
  | zero => exact ⟨rfl, Survivors.of_eq rfl⟩
  | succ rounds ih =>
      unfold NVDriver.eglPruneDetachedBackingImages
      split
      · split
        · exact ⟨rfl, Survivors.of_eq rfl⟩
        · rename_i id img hvictim
          obtain ⟨hsurfaces, hsurvivors⟩ := eglPrune_frame hvictim
          exact ⟨(ih _).1.trans hsurfaces, hsurvivors.trans (ih _).2⟩
      · exact ⟨rfl, Survivors.of_eq rfl⟩

end Surface
end NvidiaVaapi
