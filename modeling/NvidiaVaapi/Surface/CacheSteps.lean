import NvidiaVaapi.Surface.CacheFrames

/-!
# The caches keep the invariant

The operations of the two backends on their caches: destroying and pruning images, taking
them off their surfaces, and giving a surface an image.
-/

namespace NvidiaVaapi
namespace Surface

/-- Writes to a surface and to an image commute. -/
theorem modifySurface_modifyImage (d : NVDriver) (s : SurfaceId) (id : ImageId)
    (f : BackingImage → BackingImage) (g : NVSurface → NVSurface) :
    (d.modifySurface s g).modifyImage id f = (d.modifyImage id f).modifySurface s g := by
  unfold NVDriver.modifySurface NVDriver.modifyImage
  cases hsurface : d.surfaces.get s with
  | none =>
      cases hget : d.heap.get id with
      | none => simp only [hsurface]
      | some img => simp only [hsurface]
  | some surface =>
      cases hget : d.heap.get id with
      | none => simp only [hsurface]
      | some img => simp only [hsurface]

/-- An image that has given back its borrow has none. -/
theorem release_borrowed {d : NVDriver} {id : ImageId} {img : BackingImage}
    (hget : (d.nvReleaseBackingImageBorrow id).heap.get id = some img) :
    img.borrowedBackingImage = none := by
  unfold NVDriver.nvReleaseBackingImageBorrow at hget
  split at hget
  · rename_i x hx
    split at hget
    · rename_i lender hlender
      rw [get_modifyImage, if_pos rfl] at hget
      obtain ⟨y, -, rfl⟩ := Option.map_eq_some_iff.mp hget
      rfl
    · rename_i hnone
      rw [hx] at hget
      cases hget
      exact hnone
  · rename_i hnone
    rw [hnone] at hget
    cases hget

/-- `direct_detachBackingImageFromSurface` of an image of the driver, before it prunes. -/
def NVDriver.directDetachOwned (d : NVDriver) (s : SurfaceId) (id : ImageId)
    (img : BackingImage) : NVDriver :=
  (({ d with detachedBackingImageSerial := d.detachedBackingImageSerial + 1 }.modifyImage id
    fun img => { img with
      surface := none, detachedSerial := d.detachedBackingImageSerial + 1 }).linkDetachedBackingImage
        id img).clearBackingImage s

namespace CacheInv

variable {w : Watch} {loose : Option SurfaceId} {spare : Option ImageId} {d d' : NVDriver}
  {id : ImageId} {s : SurfaceId} {img : BackingImage} {surface : NVSurface} {k : Kernel}

/-! ## Destroying images -/

/-- An image on its way out of memory is forgotten by its surface, and no surface leads to it
any more. -/
theorem forgetSurface (h : CacheInv w none spare d) (hget : d.heap.get id = some img)
    (hspare : spare = none ∨ spare = some id) (hback : spare = none ∨ img.surface = none) :
    CacheInv w none (some id) (d.forgetSurface img) ∧
    ∀ s surface, (d.forgetSurface img).surfaces.get s = some surface →
      surface.backingImage ≠ some id := by
  have hsome : CacheInv w none (some id) d := by
    rcases hspare with rfl | rfl
    · exact h.setSpare (some id)
    · exact h
  have htied : ∀ s surface, d.surfaces.get s = some surface → surface.backingImage = some id →
      img.surface = some s := by
    intro s surface hsurface hbacking
    obtain ⟨x, hx, hxback, -⟩ := h.tied s surface id nofun hsurface hbacking
    rw [hget] at hx
    cases hx
    exact hxback
  unfold NVDriver.forgetSurface
  split
  · rename_i s hs
    have hnone : spare = none := by
      rcases hback with hnone | hno
      · exact hnone
      · rw [hs] at hno
        cases hno
    subst hnone
    refine ⟨hsome.clearBackingImage (s := s) (.inl rfl) ?_, ?_⟩
    · intro hsafe other x hne hx hxback
      obtain ⟨surface, hsurface, hbacking⟩ := (h.listed hsafe).back other x s nofun hx hxback
      obtain ⟨surface', hsurface', hbacking'⟩ := (h.listed hsafe).back id img s nofun hget hs
      rw [hsurface] at hsurface'
      cases hsurface'
      rw [hbacking] at hbacking'
      exact hne hbacking'.symm
    · intro s' surface' hget' hbacking
      by_cases hne : s' = s
      · subst hne
        rw [backingImage_of_clear hget'] at hbacking
        cases hbacking
      · rw [get_modifySurface, if_neg hne] at hget'
        have hs' := htied s' surface' hget' hbacking
        rw [hs] at hs'
        exact hne (Option.some.inj hs').symm
  · rename_i hs
    refine ⟨hsome, fun s surface hsurface hbacking => ?_⟩
    rw [htied s surface hsurface hbacking] at hs
    cases hs

/-- An image that is not in the array is destroyed. -/
theorem destroy (hfit : Fitting w) (h : CacheInv w none spare d)
    (hget : d.heap.get id = some img) (hspare : spare = none ∨ spare = some id)
    (hback : spare = none ∨ img.surface = none) (hnot : id ∉ d.images) :
    CacheInv w none none
      (((d.forgetSurface img).nvReleaseBackingImageBorrow id).freeImage id) := by
  obtain ⟨hforget, hnone⟩ := h.forgetSurface hget hspare hback
  refine (hforget.release hfit).free hfit (.inr rfl) ?_ ?_ ?_
  · rw [release_images, forgetSurface_images]
    exact hnot
  · intro x hx
    exact release_borrowed hx
  · rw [release_surfaces]
    exact hnone

/-- An imported image is not in the array. -/
theorem not_mem_images (h : CacheInv w loose spare d) (hget : d.heap.get id = some img)
    (hexternal : img.isExternalBuffer = true) : id ∉ d.images := by
  intro hmem
  obtain ⟨x, hx, howned, -⟩ := h.borrowing.cached id hmem
  rw [hget] at hx
  cases hx
  rw [hexternal] at howned
  cases howned

/-- An owned image borrows nothing. -/
theorem borrowed_of_owned (h : CacheInv w loose spare d) (hget : d.heap.get id = some img)
    (howned : img.isExternalBuffer = false) : img.borrowedBackingImage = none := by
  cases hborrowed : img.borrowedBackingImage with
  | none => rfl
  | some lender =>
      have hexternal := (h.borrowing.lender id img lender hget hborrowed).1
      rw [howned] at hexternal
      cases hexternal

/-- Nothing is spare that is not in memory. -/
theorem unspare_of_none (h : CacheInv w loose spare d) (hspare : spare = none ∨ spare = some id)
    (hget : d.heap.get id = none) : CacheInv w loose none d := by
  refine ⟨h.backend, h.borrowing, h.tied, fun hsafe => ?_, h.log⟩
  have hlive : ∀ other x, d.heap.get other = some x → spare ≠ some other := by
    rintro other x hx rfl
    rcases hspare with hnone | hsame
    · cases hnone
    · cases hsame
      rw [hget] at hx
      cases hx
  refine ⟨fun other x _ hx => ?_, fun other x s _ hx => ?_⟩
  · exact (h.listed hsafe).listed other x (hlive other x hx) hx
  · exact (h.listed hsafe).back other x s (hlive other x hx) hx

theorem destroyImported (hfit : Fitting w) (h : CacheInv w none spare d)
    (hspare : spare = none ∨ spare = some id)
    (hback : ∀ img, d.heap.get id = some img → spare = none ∨ img.surface = none)
    (hnot : id ∉ d.images) : CacheInv w none none (d.nvDestroyImportedBackingImage id) := by
  unfold NVDriver.nvDestroyImportedBackingImage
  split
  · rename_i hlost
    exact h.unspare hlost
  · split
    · rename_i img hget
      exact h.destroy hfit hget hspare (hback img hget) hnot
    · rename_i hget
      exact h.unspare_of_none hspare hget

/-- `destroyBackingImage` of the direct backend. -/
theorem destroyBackingImage (hfit : Fitting w) (h : CacheInv w none spare d)
    (hspare : spare = none ∨ spare = some id)
    (hback : ∀ img, d.heap.get id = some img → spare = none ∨ img.surface = none)
    (hnot : id ∉ d.images) : CacheInv w none none (d.destroyBackingImage id) := by
  unfold NVDriver.destroyBackingImage
  split
  · rename_i hlost
    exact h.unspare hlost
  · split
    · rename_i hget
      exact h.unspare_of_none hspare hget
    · rename_i img hget
      split
      · exact h.destroyImported hfit hspare hback hnot
      · exact h.destroy hfit hget hspare (hback img hget) hnot

/-- `egl_destroyBackingImage`. -/
theorem eglDestroy (hfit : Fitting w) (h : CacheInv w none spare d)
    (hspare : spare = none ∨ spare = some id)
    (hback : ∀ img, d.heap.get id = some img → spare = none ∨ img.surface = none)
    (hnot : id ∉ d.images) : CacheInv w none none (d.eglDestroyBackingImage id) := by
  unfold NVDriver.eglDestroyBackingImage
  split
  · rename_i hget
    exact h.unspare_of_none hspare hget
  · rename_i img hget
    split
    · exact h.destroyImported hfit hspare hback hnot
    · rename_i howned
      obtain ⟨hforget, hnone⟩ := h.forgetSurface hget hspare (hback img hget)
      refine hforget.free hfit (.inr rfl) ?_ ?_ hnone
      · rw [forgetSurface_images]
        exact hnot
      · intro x hx
        rw [forgetSurface_heap, hget] at hx
        cases hx
        exact h.borrowed_of_owned hget (by simpa using howned)

/-! ## The direct backend -/

/-- `pruneOldestDetachedBackingImageLocked` takes an image that nobody borrows. -/
theorem pruneOldest (hfit : Fitting w) (h : CacheInv w none none d)
    (hprune : d.pruneOldestDetachedBackingImage = some d') : CacheInv w none none d' := by
  obtain ⟨id, img, -, hget, hnone, hzero, rfl⟩ := pruneOldest_eq hprune
  have hunlinked : CacheInv w none none (d.unlinkDetachedBackingImage id img) := by
    unfold NVDriver.unlinkDetachedBackingImage
    refine CacheInv.modifyImage hfit ?_ ?_ ?_ fun _ => rfl
    · exact h.congr rfl rfl rfl rfl rfl rfl rfl
    · exact fun _ => ⟨⟨rfl, rfl, rfl⟩, rfl, rfl, rfl, rfl⟩
    · exact fun _ => ⟨_, _, _, _, rfl⟩
  obtain ⟨hremoved, hnot⟩ := hunlinked.removeImage hfit (get_unlink hget) hzero
  refine hremoved.destroyBackingImage hfit (.inr rfl) (fun x hx => .inr ?_) hnot
  rw [show ((d.unlinkDetachedBackingImage id img).removeImage id).heap.get id =
    some { img with detachedSerial := 0 } from get_unlink hget] at hx
  cases hx
  exact hnone

theorem pruneWhile (hfit : Fitting w) (reason : NVDriver → Bool) (rounds : Nat)
    (h : CacheInv w none none d) :
    CacheInv w none none (NVDriver.pruneWhile reason rounds d) := by
  induction rounds generalizing d with
  | zero => exact h
  | succ rounds ih =>
      unfold NVDriver.pruneWhile
      split
      · split
        · rename_i d' hprune
          exact ih (h.pruneOldest hfit hprune)
        · exact h
      · exact h

theorem pruneToMemoryBudget (hfit : Fitting w) (h : CacheInv w none none d)
    (extraGpuBytes : Nat) : CacheInv w none none (d.pruneToMemoryBudget extraGpuBytes) := by
  unfold NVDriver.pruneToMemoryBudget
  split
  · unfold NVDriver.directPruneToMemoryBudget
    split
    · exact h
    · exact h.pruneWhile hfit _ _
  · exact h

/-- The image of a surface leads back to it. -/
theorem image_surface (h : CacheInv w none spare d)
    (hbacking : (d.surfaces.get s).bind NVSurface.backingImage = some id)
    (hget : d.heap.get id = some img) : img.surface = some s := by
  obtain ⟨surface, hsurface, himage⟩ := Option.bind_eq_some_iff.mp hbacking
  obtain ⟨x, hx, hback, -⟩ := h.tied s surface id nofun hsurface himage
  rw [hget] at hx
  cases hx
  exact hback

/-- A surface leads to nothing but the one image that leads to it. -/
theorem only_image (h : CacheInv w none none d) (hsafe : d.cudaWorkUnsafe = false)
    (hbacking : (d.surfaces.get s).bind NVSurface.backingImage = some id) {other : ImageId}
    (hget : d.heap.get other = some img) (hback : img.surface = some s) : other = id := by
  obtain ⟨surface, hsurface, himage⟩ := Option.bind_eq_some_iff.mp hbacking
  obtain ⟨surface', hsurface', himage'⟩ := (h.listed hsafe).back other img s nofun hget hback
  rw [hsurface] at hsurface'
  cases hsurface'
  rw [himage] at himage'
  exact (Option.some.inj himage').symm

/-- After an image was taken off its surface no other image leads there. -/
theorem free_of_detached (h : CacheInv w none none d) {f : BackingImage → BackingImage}
    (hnone : ∀ img, (f img).surface = none)
    (hbacking : (d.surfaces.get s).bind NVSurface.backingImage = some id)
    (hsafe : d.cudaWorkUnsafe = false) (other : ImageId) (x : BackingImage)
    (hx : (d.modifyImage id f).heap.get other = some x) : x.surface ≠ some s := by
  intro hback
  rw [get_modifyImage] at hx
  split at hx
  · obtain ⟨y, -, rfl⟩ := Option.map_eq_some_iff.mp hx
    rw [hnone y] at hback
    cases hback
  · rename_i hne
    exact hne (h.only_image hsafe hbacking hx hback)

/-- The surface of an image that is destroyed is cleared once more. -/
theorem clear_destroyed (h : CacheInv w none none d')
    (hs : img.surface = some s)
    (hsurfaces : d'.surfaces = (d.forgetSurface img).surfaces ∨ d'.cudaWorkUnsafe = true) :
    CacheInv w none none (d'.clearBackingImage s) := by
  refine h.clearBackingImage (.inl rfl) fun hsafe => (h.listed hsafe).surface_ne ?_
  intro surface hget
  rcases hsurfaces with hforget | hlost
  · rw [hforget] at hget
    exact backingImage_of_forget hs hget
  · rw [hsafe] at hlost
    cases hlost

/-- An image of the driver is taken off its surface and linked into the cache. -/
theorem directDetachOwned (h : CacheInv w none none d)
    (hbacking : (d.surfaces.get s).bind NVSurface.backingImage = some id)
    (hget : d.heap.get id = some img) : CacheInv w none none (d.directDetachOwned s id img) := by
  have hback := h.image_surface hbacking hget
  have hserial : CacheInv w none none { d with
      detachedBackingImageSerial := d.detachedBackingImageSerial + 1 } :=
    h.congr rfl rfl rfl rfl rfl rfl rfl
  have hloose : CacheInv w (some s) none ({ d with
      detachedBackingImageSerial := d.detachedBackingImageSerial + 1 }.modifyImage id
        fun img => { img with
          surface := none, detachedSerial := d.detachedBackingImageSerial + 1 }) := by
    refine hserial.loosen (fun _ => ⟨⟨rfl, rfl, rfl⟩, rfl, rfl, rfl, rfl⟩) (fun _ => rfl) ?_
    intro x hx
    change d.heap.get id = some x at hx
    rw [hget] at hx
    cases hx
    exact hback
  refine CacheInv.clearBackingImage ?_ (.inr rfl) ?_
  · exact hloose.congr rfl rfl rfl rfl rfl rfl rfl
  · intro hsafe other x _ hx
    refine hserial.free_of_detached (f := fun img => { img with
      surface := none, detachedSerial := d.detachedBackingImageSerial + 1 })
      (fun _ => rfl) hbacking ?_ other x hx
    exact (modifyImage_lost ..).symm.trans hsafe

/-- `direct_detachBackingImageFromSurface`. -/
theorem directDetach (hfit : Fitting w) (h : CacheInv w none none d) :
    CacheInv w none none (d.directDetachBackingImageFromSurface s) := by
  unfold NVDriver.directDetachBackingImageFromSurface
  split
  · exact h
  · rename_i id hbacking
    split
    · exact h
    · rename_i img hget
      have hback := h.image_surface hbacking hget
      split
      · rename_i huse
        have hnot : id ∉ d.images := by
          intro hmem
          obtain ⟨x, hx, howned, -, hresources⟩ := h.borrowing.cached id hmem
          rw [hget] at hx
          cases hx
          rw [howned, hresources] at huse
          simp at huse
        have hdestroyed := h.destroyBackingImage hfit (.inl rfl) (fun _ _ => .inl rfl) hnot
        refine hdestroyed.clear_destroyed (d := d) hback ?_
        rcases destroyBackingImage_surfaces hget with hforget | ⟨hlost, hkept⟩
        · exact .inl hforget
        · rw [hkept]
          exact .inr hlost
      · exact CacheInv.pruneWhile hfit _ _ (h.directDetachOwned hbacking hget)

end CacheInv

end Surface
end NvidiaVaapi
