import NvidiaVaapi.Surface.CacheRuns
import NvidiaVaapi.Surface.ImportRanges

/-!
# Calls that put no image on a surface

Detaching, pruning, releasing and exporting leave the surfaces and images there are where they
lie: an image may be freed and a surface may lose its image, but nothing moves.
-/

namespace NvidiaVaapi
namespace Surface

/-- No surface gets an image or another size, no image another layout, and no slot of an image
is used again. -/
structure Steady (d d' : NVDriver) : Prop where
  slots : d.heap.length ≤ d'.heap.length
  images : Survivors d d'
  surfaces : ∀ s after, d'.surfaces.get s = some after → ∃ before, d.surfaces.get s = some before ∧
    after.width = before.width ∧ after.height = before.height ∧
    (after.backingImage = before.backingImage ∨ after.backingImage = none)

namespace Steady

variable {d d' d'' : NVDriver}

theorem of_surfaces (hslots : d.heap.length ≤ d'.heap.length) (himages : Survivors d d')
    (hsurfaces : d'.surfaces = d.surfaces) : Steady d d' := by
  refine ⟨hslots, himages, fun s after hafter => ⟨after, ?_, rfl, rfl, .inl rfl⟩⟩
  rw [← hsurfaces]
  exact hafter

theorem of_eq (hheap : d'.heap = d.heap) (hsurfaces : d'.surfaces = d.surfaces) :
    Steady d d' :=
  of_surfaces (Nat.le_of_eq (congrArg List.length hheap.symm)) (Survivors.of_eq hheap) hsurfaces

theorem refl (d : NVDriver) : Steady d d := of_eq rfl rfl

theorem trans (h : Steady d d') (h' : Steady d' d'') : Steady d d'' := by
  refine ⟨Nat.le_trans h.slots h'.slots, h.images.trans h'.images, fun s after hafter => ?_⟩
  obtain ⟨middle, hmiddle, hwidth, hheight, himage⟩ := h'.surfaces s after hafter
  obtain ⟨before, hbefore, hwidth', hheight', himage'⟩ := h.surfaces s middle hmiddle
  refine ⟨before, hbefore, hwidth.trans hwidth', hheight.trans hheight', ?_⟩
  rcases himage with hsame | hnone
  · rw [hsame]
    exact himage'
  · exact .inr hnone

/-! ## Writes -/

theorem modifyImage (d : NVDriver) (id : ImageId) {f : BackingImage → BackingImage}
    (hlayout : ∀ img, SameLayout img (f img)) : Steady d (d.modifyImage id f) := by
  refine of_surfaces ?_ (Survivors.modifyImage d id hlayout) (modifyImage_surfaces ..)
  unfold NVDriver.modifyImage
  split
  · exact Nat.le_of_eq SlotTable.length_put.symm
  · exact Nat.le_refl _

theorem freeImage (d : NVDriver) (id : ImageId) : Steady d (d.freeImage id) := by
  refine of_surfaces ?_ (Survivors.freeImage d id) ?_
  · unfold NVDriver.freeImage
    split
    · exact Nat.le_of_eq SlotTable.length_clear.symm
    · exact Nat.le_refl _
  · unfold NVDriver.freeImage
    split <;> rfl

theorem clearBackingImage (d : NVDriver) (s : SurfaceId) : Steady d (d.clearBackingImage s) := by
  have hheap : (d.clearBackingImage s).heap = d.heap := modifySurface_heap ..
  refine ⟨Nat.le_of_eq (congrArg List.length hheap.symm), Survivors.of_eq hheap,
    fun other after hafter => ?_⟩
  unfold NVDriver.clearBackingImage at hafter
  rw [get_modifySurface] at hafter
  split at hafter
  · rename_i heq
    obtain ⟨before, hbefore, rfl⟩ := Option.map_eq_some_iff.mp hafter
    exact ⟨before, heq ▸ hbefore, rfl, rfl, .inr rfl⟩
  · exact ⟨after, hafter, rfl, rfl, .inl rfl⟩

theorem forgetSurface (d : NVDriver) (img : BackingImage) : Steady d (d.forgetSurface img) := by
  unfold NVDriver.forgetSurface
  split
  · rename_i s _
    have hclear := clearBackingImage d s
    exact hclear
  · exact refl d

theorem clearSurface (d : NVDriver) (s : SurfaceId) :
    Steady d { d with surfaces := d.surfaces.clear s } := by
  refine ⟨Nat.le_refl _, Survivors.of_eq rfl, fun other after hafter => ?_⟩
  change (d.surfaces.clear s).get other = some after at hafter
  by_cases hne : other = s
  · rw [hne, SlotTable.get_clear] at hafter
    cases hafter
  · rw [SlotTable.get_clear_of_ne hne] at hafter
    exact ⟨after, hafter, rfl, rfl, .inl rfl⟩

/-! ## Destroying images -/

theorem release (d : NVDriver) (id : ImageId) :
    Steady d (d.nvReleaseBackingImageBorrow id) := by
  unfold NVDriver.nvReleaseBackingImageBorrow
  split
  · split
    · exact (modifyImage d _ fun _ => ⟨_, _, _, _, rfl⟩).trans
        (modifyImage _ id fun _ => ⟨_, _, _, _, rfl⟩)
    · exact refl d
  · exact refl d

theorem destroyImported (d : NVDriver) (id : ImageId) :
    Steady d (d.nvDestroyImportedBackingImage id) := by
  unfold NVDriver.nvDestroyImportedBackingImage
  split
  · exact refl d
  · split
    · rename_i img _
      exact ((forgetSurface d img).trans (release _ id)).trans (freeImage _ id)
    · exact refl d

theorem destroyBackingImage (d : NVDriver) (id : ImageId) :
    Steady d (d.destroyBackingImage id) := by
  unfold NVDriver.destroyBackingImage
  split
  · exact refl d
  · split
    · exact refl d
    · rename_i img _
      split
      · exact destroyImported d id
      · exact ((forgetSurface d img).trans (release _ id)).trans (freeImage _ id)

theorem eglDestroyBackingImage (d : NVDriver) (id : ImageId) :
    Steady d (d.eglDestroyBackingImage id) := by
  unfold NVDriver.eglDestroyBackingImage
  split
  · exact refl d
  · rename_i img _
    split
    · exact destroyImported d id
    · exact (forgetSurface d img).trans (freeImage _ id)

/-! ## Pruning -/

theorem pruneOldest (hprune : d.pruneOldestDetachedBackingImage = some d') : Steady d d' := by
  obtain ⟨id, img, -, -, -, -, rfl⟩ := pruneOldest_eq hprune
  have hunlinked : Steady d ((d.unlinkDetachedBackingImage id img).removeImage id) := by
    have hmodified : Steady { d with
        detached := d.detached.erase id
        detachedBackingImageBytes :=
          d.detachedBackingImageBytes - NVDriver.backingImageMemorySize img
        detachedBackingImageCount := d.detachedBackingImageCount - 1 }
        (d.unlinkDetachedBackingImage id img) := modifyImage _ id fun _ => ⟨_, _, _, _, rfl⟩
    exact Steady.trans ⟨hmodified.slots, hmodified.images, hmodified.surfaces⟩ (of_eq rfl rfl)
  exact hunlinked.trans (destroyBackingImage _ id)

theorem pruneWhile (reason : NVDriver → Bool) (rounds : Nat) (d : NVDriver) :
    Steady d (NVDriver.pruneWhile reason rounds d) := by
  induction rounds generalizing d with
  | zero => exact refl d
  | succ rounds ih =>
      unfold NVDriver.pruneWhile
      split
      · split
        · rename_i d' hprune
          exact (pruneOldest hprune).trans (ih d')
        · exact refl d
      · exact refl d

theorem eglPrune (d : NVDriver) (id : ImageId) (img : BackingImage) :
    Steady d (d.eglPrune id img) := by
  have hremoved : Steady d ({ d with
      detachedBackingImageBytes :=
        d.detachedBackingImageBytes - NVDriver.eglBackingImageMemorySize img
      detachedBackingImageCount := d.detachedBackingImageCount - 1 }.removeImage id) := of_eq rfl rfl
  exact hremoved.trans (eglDestroyBackingImage _ id)

theorem eglPruneDetached (rounds : Nat) (d : NVDriver) :
    Steady d (NVDriver.eglPruneDetachedBackingImages rounds d) := by
  induction rounds generalizing d with
  | zero => exact refl d
  | succ rounds ih =>
      unfold NVDriver.eglPruneDetachedBackingImages
      split
      · split
        · exact refl d
        · rename_i id img _
          exact (eglPrune d id img).trans (ih _)
      · exact refl d

theorem pruneToMemoryBudget (d : NVDriver) (extraGpuBytes : Nat) :
    Steady d (d.pruneToMemoryBudget extraGpuBytes) := by
  unfold NVDriver.pruneToMemoryBudget
  split
  · unfold NVDriver.directPruneToMemoryBudget
    split
    · exact refl d
    · exact pruneWhile _ _ d
  · exact refl d

/-! ## Detaching and releasing -/

theorem directDetach (d : NVDriver) (s : SurfaceId) :
    Steady d (d.directDetachBackingImageFromSurface s) := by
  unfold NVDriver.directDetachBackingImageFromSurface
  split
  · exact refl d
  · rename_i id _
    split
    · exact refl d
    · rename_i img _
      split
      · exact (destroyBackingImage d id).trans (clearBackingImage _ s)
      · have hdetached := modifyImage
          { d with detachedBackingImageSerial := d.detachedBackingImageSerial + 1 } id
          (f := fun img => { img with
            surface := none, detachedSerial := d.detachedBackingImageSerial + 1 })
          fun _ => ⟨_, _, _, _, rfl⟩
        have hlinked : Steady d ((NVDriver.modifyImage
            { d with detachedBackingImageSerial := d.detachedBackingImageSerial + 1 } id
            fun img => { img with
              surface := none, detachedSerial := d.detachedBackingImageSerial + 1 }
            ).linkDetachedBackingImage id img) :=
          ⟨hdetached.slots, hdetached.images, hdetached.surfaces⟩
        exact (hlinked.trans (clearBackingImage _ s)).trans (pruneWhile _ _ _)

theorem eglDetachOwned (d : NVDriver) (s : SurfaceId) : Steady d (d.eglDetachOwned s) := by
  unfold NVDriver.eglDetachOwned
  split
  · exact refl d
  · rename_i id _
    split
    · exact refl d
    · rename_i img _
      have hdetached := modifyImage { d with
        detachedBackingImageSerial := d.detachedBackingImageSerial + 1
        detachedBackingImageCount := d.detachedBackingImageCount + 1
        detachedBackingImageBytes :=
          d.detachedBackingImageBytes + NVDriver.eglBackingImageMemorySize img } id
        (f := fun img => { img with
          surface := none, detachedSerial := d.detachedBackingImageSerial + 1 })
        fun _ => ⟨_, _, _, _, rfl⟩
      exact ⟨hdetached.slots, hdetached.images, hdetached.surfaces⟩

theorem eglDetach (d : NVDriver) (s : SurfaceId) :
    Steady d (d.eglDetachBackingImageFromSurface s) := by
  unfold NVDriver.eglDetachBackingImageFromSurface
  split
  · exact refl d
  · rename_i id _
    split
    · exact refl d
    · simp only
      split
      · exact ((eglDestroyBackingImage d id).trans (clearBackingImage _ s)).trans
          (eglPruneDetached _ _)
      · exact ((eglDetachOwned d s).trans (clearBackingImage _ s)).trans (eglPruneDetached _ _)

theorem releaseSurface (d : NVDriver) (s : SurfaceId) : Steady d (d.releaseSurface s) := by
  unfold NVDriver.releaseSurface
  simp only
  split
  · refine Steady.trans ?_ (clearSurface _ s)
    unfold NVDriver.detachBackingImageFromSurface
    split
    · exact directDetach d s
    · exact eglDetach d s
  · exact clearSurface d s

theorem releaseSurfaces (list : List SurfaceId) (d : NVDriver) :
    Steady d (d.releaseSurfaces list) := by
  induction list generalizing d with
  | nil => exact refl d
  | cons s rest ih => exact (releaseSurface d s).trans (ih _)

theorem nvDestroySurfaces (d : NVDriver) (list : List SurfaceId) :
    Steady d (d.nvDestroySurfaces list).2 := by
  unfold NVDriver.nvDestroySurfaces
  split
  · exact refl d
  · exact releaseSurfaces list d

/-! ## Exports -/

theorem exportImage (d : NVDriver) (desc : VADRMPRIMESurfaceDescriptor) (img : BackingImage)
    (objectSize drmFormat : Nat → Nat) :
    Steady d (d.exportImage desc img objectSize drmFormat).2 := by
  unfold NVDriver.exportImage
  split
  · exact refl d
  · exact of_eq rfl rfl

theorem fillExportDescriptor (d : NVDriver) (surface : NVSurface) (img : BackingImage) :
    Steady d (d.fillExportDescriptor surface img).2 := by
  unfold NVDriver.fillExportDescriptor
  split
  · unfold NVDriver.directFillExportDescriptor
    split
    · exact refl d
    · exact exportImage d _ _ _ _
  · unfold NVDriver.eglFillExportDescriptor
    split
    · exact refl d
    · split
      · exact refl d
      · split
        · exact refl d
        · exact exportImage d _ _ _ _

end Steady

end Surface
end NvidiaVaapi
