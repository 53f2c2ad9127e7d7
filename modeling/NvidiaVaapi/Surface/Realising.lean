import NvidiaVaapi.Surface.CacheSteps

/-!
# Surfaces get images

The allocation of an image with the prunings between the attempts, the image that the EGL
backend takes out of its cache again, and the other steps of that cache.
-/

namespace NvidiaVaapi
namespace Surface

/-- What an attempt to allocate an image for a surface comes to: nothing, or an image that is
not in memory yet. -/
inductive Provided (w : Watch) (surface : NVSurface) (d : NVDriver) :
    Option BackingImage × NVDriver → Prop where
  | failed {d' : NVDriver} (inv : CacheInv w none none d') (kept : d'.surfaces = d.surfaces) :
      Provided w surface d (none, d')
  | done {d' : NVDriver} {img : BackingImage} {k : Kernel} (inv : CacheInv w none none d')
      (kept : d'.surfaces = d.surfaces) (allocated : Allocated d'.kernel k img)
      (fits : w.Fits k surface img) : Provided w surface d (some img, { d' with kernel := k })

/-- What was kept before an attempt is kept after it. -/
theorem Provided.after {w : Watch} {surface : NVSurface} {d d' : NVDriver}
    {result : Option BackingImage × NVDriver} (hkept : d'.surfaces = d.surfaces)
    (h : Provided w surface d' result) : Provided w surface d result := by
  cases h with
  | failed inv kept => exact .failed inv (kept.trans hkept)
  | done inv kept allocated fits => exact .done inv (kept.trans hkept) allocated fits

namespace CacheInv

variable {w : Watch} {loose : Option SurfaceId} {spare : Option ImageId} {d d' : NVDriver}
  {id : ImageId} {s : SurfaceId} {img : BackingImage} {surface : NVSurface} {k : Kernel}

/-- An image that has just been allocated is attached: it joins the array, or is taken off
again where the array cannot grow. -/
theorem attachNew (hfit : Fitting w) (h : CacheInv w none none d)
    (hallocated : Allocated d.kernel k img) (hsurface : d.surfaces.get s = some surface)
    (hnone : surface.backingImage = none) (hfits : w.Fits k surface img)
    {id : ImageId} (hattach : ({ d with kernel := k }).attachNewImage s img = (id, d')) :
    CacheInv w none none { d' with images := d'.images ++ [id] } ∧
    CacheInv w none (some id) ((d'.clearBackingImage s).modifyImage id fun img =>
      { img with surface := none }) ∧
    id ∉ d'.images := by
  unfold NVDriver.attachNewImage at hattach
  simp only [Prod.mk.injEq] at hattach
  obtain ⟨rfl, rfl⟩ := hattach
  have hnot : d.heap.length ∉ d.images := by
    intro hmem
    obtain ⟨x, hx, -⟩ := h.borrowing.cached _ hmem
    exact absurd (SlotTable.lt_of_get hx) (Nat.lt_irrefl _)
  have honly : ∀ surface', d.surfaces.get s = some surface' → surface' = surface := by
    intro surface' hsurface'
    rw [hsurface] at hsurface'
    exact (Option.some.inj hsurface').symm
  have hpushed := h.push hfit hallocated (some s) 0
  have hget : (d.heap.push { img with surface := some s, detachedSerial := 0 }).get
      d.heap.length = some { img with surface := some s, detachedSerial := 0 } :=
    SlotTable.get_push_length
  have hpointed := hpushed.point hget rfl
    (fun surface' hsurface' => honly surface' hsurface' ▸ hnone)
    fun surface' hsurface' => by
      rw [honly surface' hsurface']
      exact hfit.frame hfits ⟨some s, img.borrowedBackingImage, img.borrowCount, 0, rfl⟩
        (KeepsFiles.refl _ _)
  have hevent : (CacheEvent.attached d.heap.length s img.borrowCount).borrowCount = 0 :=
    hallocated.unused.unborrowed
  have hnoted := hpointed.note hfit hevent
  refine ⟨⟨hnoted.backend, ?_, hnoted.tied, ?_, hnoted.log⟩, ?_, ?_⟩
  · refine hnoted.borrowing.join
      (?_ : _ = some { img with surface := some s, detachedSerial := 0 }) hallocated.unused.owned
      hallocated.unused.borrowsNone hallocated.unused.ownResources ?_
    · unfold NVDriver.note
      rw [modifySurface_heap]
      exact hget
    · unfold NVDriver.note
      rw [modifySurface_images]
      exact hnot
  · intro hsafe
    refine (hnoted.listed hsafe).join
      (?_ : _ = some { img with surface := some s, detachedSerial := 0 }) ?_
    · unfold NVDriver.note
      rw [modifySurface_heap]
      exact hget
    · rintro s' ⟨⟩
      refine ⟨{ surface with backingImage := some d.heap.length }, ?_, rfl⟩
      unfold NVDriver.note
      rw [get_modifySurface, if_pos rfl]
      show (d.surfaces.get s).map _ = _
      rw [hsurface]
      rfl
  · unfold NVDriver.clearBackingImage
    rw [modifySurface_modifyImage]
    refine CacheInv.clearBackingImage ?_ (.inr rfl) ?_
    · refine hnoted.loosen (fun _ => ⟨⟨rfl, rfl, rfl⟩, rfl, rfl, rfl, rfl⟩) (fun _ => rfl) ?_
      intro x hx
      unfold NVDriver.note at hx
      rw [modifySurface_heap, hget] at hx
      cases hx
      rfl
    · -- No image that there was before leads to the surface.
      intro hsafe other x hne hx hback
      have hother : other ≠ d.heap.length := fun heq => hne (congrArg some heq.symm)
      rw [get_modifyImage, if_neg hother] at hx
      unfold NVDriver.note at hx
      rw [modifySurface_heap] at hx
      change (d.heap.push _).get other = some x at hx
      rw [SlotTable.get_push_of_ne hother] at hx
      have hsafe' : d.cudaWorkUnsafe = false := by
        rw [modifyImage_lost] at hsafe
        change (NVDriver.modifySurface _ s _).cudaWorkUnsafe = false at hsafe
        rw [modifySurface_lost] at hsafe
        exact hsafe
      refine (h.listed hsafe').surface_ne (s := s) ?_ other x nofun hx hback
      exact fun surface' hsurface' => honly surface' hsurface' ▸ hnone
  · unfold NVDriver.note
    rw [modifySurface_images]
    exact hnot

/-- A surface for which an image was provided is attached to it. -/
theorem attachProvided (hfit : Fitting w) (hsurface : d.surfaces.get s = some surface)
    (hnone : surface.backingImage = none) {result : BackingImage}
    (hprovided : Provided w surface d (some result, d')) {id : ImageId} {d'' : NVDriver}
    (hattach : d'.attachNewImage s result = (id, d'')) :
    CacheInv w none none { d'' with images := d''.images ++ [id] } ∧
    CacheInv w none (some id) ((d''.clearBackingImage s).modifyImage id fun img =>
      { img with surface := none }) ∧
    id ∉ d''.images := by
  cases hprovided with
  | done inv kept allocated fits =>
      exact inv.attachNew hfit allocated (kept ▸ hsurface) hnone fits hattach

/-- The image that was taken off again has no surface. -/
theorem surface_of_takenOff {d : NVDriver} {x : BackingImage}
    (hx : ((d.clearBackingImage s).modifyImage id fun img =>
      { img with surface := none }).heap.get id = some x) : x.surface = none := by
  rw [get_modifyImage, if_pos rfl] at hx
  obtain ⟨y, -, rfl⟩ := Option.map_eq_some_iff.mp hx
  rfl

/-! ## The direct backend -/

/-- `direct_allocateBackingImage`. -/
theorem directAllocate (hfit : Fitting w) (h : CacheInv w none none d)
    (hdirect : w.backend = .direct) (surface : NVSurface) (answer : NVDriver.GpuAnswer) :
    Provided w surface d (d.directAllocateBackingImage surface answer) := by
  unfold NVDriver.directAllocateBackingImage
  split
  · rename_i img k halloc
    exact .done h rfl (directAllocate_allocated halloc) (hfit.allocated hdirect halloc)
  · rename_i img k halloc
    have hpushed := h.push hfit (directAllocate_allocated halloc) img.surface img.detachedSerial
    exact .failed (hpushed.lose none) rfl
  · exact .failed h rfl

/-- The loop of `direct_realiseSurface`. -/
theorem directAllocateWithPruning (hfit : Fitting w) (h : CacheInv w none none d)
    (hdirect : w.backend = .direct) (surface : NVSurface) (answers : Nat → NVDriver.GpuAnswer)
    (rounds : Nat) :
    Provided w surface d (NVDriver.directAllocateWithPruning surface answers rounds d) := by
  induction rounds generalizing d with
  | zero => exact h.directAllocate hfit hdirect surface (answers 0)
  | succ rounds ih =>
      unfold NVDriver.directAllocateWithPruning
      have hattempt := h.directAllocate hfit hdirect surface (answers (rounds + 1))
      revert hattempt
      cases d.directAllocateBackingImage surface (answers (rounds + 1)) with
      | mk result d1 =>
          intro hattempt
          cases hattempt with
          | done inv kept allocated fits => exact .done inv kept allocated fits
          | failed inv kept =>
              simp only
              split
              · rename_i d2 hprune
                exact (ih (inv.pruneOldest hfit hprune)).after
                  ((pruneOldest_frame hprune).1.trans kept)
              · exact .failed inv kept

/-- `direct_realiseSurface`. -/
theorem directRealise (hfit : Fitting w) (h : CacheInv w none none d)
    (hdirect : w.backend = .direct) (answers : Nat → NVDriver.GpuAnswer) (added : Bool) :
    CacheInv w none none (d.directRealiseSurface s answers added).2 := by
  unfold NVDriver.directRealiseSurface
  split
  · exact h
  · rename_i surface hsurface
    split
    · exact h
    · rename_i hnot
      have hnone : surface.backingImage = none := by simpa using hnot
      have hprovided := h.directAllocateWithPruning hfit hdirect surface answers d.detached.length
      revert hprovided
      cases NVDriver.directAllocateWithPruning surface answers d.detached.length d with
      | mk result d1 =>
          intro hprovided
          cases result with
          | none =>
              cases hprovided with
              | failed inv kept => exact inv
          | some img =>
              simp only
              cases hattach : d1.attachNewImage s img with
              | mk id d2 =>
                  obtain ⟨hadded, hremoved, hfresh⟩ :=
                    attachProvided hfit hsurface hnone hprovided hattach
                  simp only
                  split
                  · exact hadded
                  · refine hremoved.destroyBackingImage hfit (.inr rfl)
                      (fun x hx => .inr (surface_of_takenOff hx)) ?_
                    rw [modifyImage_images]
                    exact (modifySurface_images d2 s _).symm ▸ hfresh

/-! ## The EGL backend -/

/-- The victim leaves the array and is freed. -/
theorem eglPrune (hfit : Fitting w) (h : CacheInv w none none d)
    (hvictim : d.eglVictim = some (id, img)) : CacheInv w none none (d.eglPrune id img) := by
  obtain ⟨-, hget, hnone, hzero⟩ := eglVictim_spec hvictim
  have hcounted : CacheInv w none none { d with
      detachedBackingImageBytes :=
        d.detachedBackingImageBytes - NVDriver.eglBackingImageMemorySize img
      detachedBackingImageCount := d.detachedBackingImageCount - 1 } :=
    h.congr rfl rfl rfl rfl rfl rfl rfl
  obtain ⟨hremoved, hnot⟩ := hcounted.removeImage hfit hget hzero
  refine hremoved.eglDestroy hfit (.inr rfl) (fun x hx => .inr ?_) hnot
  change d.heap.get id = some x at hx
  rw [hget] at hx
  cases hx
  exact hnone

/-- `eglPruneDetachedBackingImages`. -/
theorem eglPruneDetached (hfit : Fitting w) (rounds : Nat) (h : CacheInv w none none d) :
    CacheInv w none none (NVDriver.eglPruneDetachedBackingImages rounds d) := by
  induction rounds generalizing d with
  | zero => exact h
  | succ rounds ih =>
      unfold NVDriver.eglPruneDetachedBackingImages
      split
      · split
        · exact h
        · rename_i id img hvictim
          exact ih (h.eglPrune hfit hvictim)
      · exact h

/-- The loop of the detach takes the image of the surface off it. -/
theorem eglDetachOwned (h : CacheInv w none none d)
    (hbacking : (d.surfaces.get s).bind NVSurface.backingImage = some id)
    (hget : d.heap.get id = some img) (howned : img.isExternalBuffer = false) :
    CacheInv w none none ((d.eglDetachOwned s).clearBackingImage s) := by
  have hback := h.image_surface hbacking hget
  unfold NVDriver.eglDetachOwned
  split
  · rename_i hfind
    refine h.clearBackingImage (.inl rfl) fun hsafe => ?_
    -- The image is in the array as long as the GPU works.
    have hmem := (h.listed hsafe).listed id img nofun hget howned
    have hmissed := List.find?_eq_none.mp hfind id hmem
    rw [hget] at hmissed
    simp [hback] at hmissed
  · rename_i other hfind
    have hfound := List.find?_some hfind
    split
    · rename_i hnone
      rw [hnone] at hfound
      cases hfound
    · rename_i x hx
      rw [hx] at hfound
      have hxback : x.surface = some s := of_decide_eq_true hfound
      have hcounted : CacheInv w none none { d with
          detachedBackingImageSerial := d.detachedBackingImageSerial + 1
          detachedBackingImageCount := d.detachedBackingImageCount + 1
          detachedBackingImageBytes :=
            d.detachedBackingImageBytes + NVDriver.eglBackingImageMemorySize x } :=
        h.congr rfl rfl rfl rfl rfl rfl rfl
      refine CacheInv.clearBackingImage (?_ : CacheInv w (some s) none _) (.inr rfl) ?_
      · refine hcounted.loosen (fun _ => ⟨⟨rfl, rfl, rfl⟩, rfl, rfl, rfl, rfl⟩) (fun _ => rfl) ?_
        intro y hy
        change d.heap.get other = some y at hy
        rw [hx] at hy
        cases hy
        exact hxback
      · intro hsafe another y _ hy
        have hsafe' : d.cudaWorkUnsafe = false := by
          simp only [modifyImage_lost] at hsafe
          exact hsafe
        have hsame := h.only_image hsafe' hbacking hx hxback
        subst hsame
        exact hcounted.free_of_detached (f := fun img => { img with
          surface := none, detachedSerial := d.detachedBackingImageSerial + 1 })
          (fun _ => rfl) hbacking hsafe' another y hy

/-- `egl_detachBackingImageFromSurface`, where the image is not one of the NV21 images that it
destroys. -/
theorem eglDetach (hfit : Fitting w) (h : CacheInv w none none d)
    (hnv21 : ∀ surface img, d.surfaceImage s = some (surface, img) →
      img.isExternalBuffer = false → img.fourcc ≠ drmFormatNV21) :
    CacheInv w none none (d.eglDetachBackingImageFromSurface s) := by
  unfold NVDriver.eglDetachBackingImageFromSurface
  split
  · exact h
  · rename_i id hbacking
    split
    · exact h
    · rename_i img hget
      refine CacheInv.eglPruneDetached hfit _ ?_
      split
      · rename_i huse
        have hexternal : img.isExternalBuffer = true := by
          obtain ⟨surface, hsurface, himage⟩ := Option.bind_eq_some_iff.mp hbacking
          have hpair : d.surfaceImage s = some (surface, img) :=
            surfaceImage_eq.mpr ⟨hsurface, id, himage, hget⟩
          rcases huse with hexternal | hnv
          · exact hexternal
          · by_contra howned
            exact hnv21 surface img hpair (by simpa using howned) hnv
        have hdestroyed := h.eglDestroy hfit (.inl rfl) (fun _ _ => .inl rfl)
          (h.not_mem_images hget hexternal)
        refine hdestroyed.clear_destroyed (d := d) (h.image_surface hbacking hget) ?_
        rcases eglDestroyBackingImage_surfaces hget with hforget | ⟨hlost, hkept⟩
        · exact .inl hforget
        · rw [hkept]
          exact .inr hlost
      · rename_i huse
        have howned : img.isExternalBuffer = false := by
          by_contra hexternal
          exact huse (.inl (by simpa using hexternal))
        exact h.eglDetachOwned hbacking hget howned

/-- `findFreeBackingImage`, where what happens to the image that it finds is allowed. -/
theorem findFree (hfit : Fitting w) (hegl : w.backend = .egl) (h : CacheInv w none none d)
    (hsurface : d.surfaces.get s = some surface) (hnone : surface.backingImage = none)
    (hallowed : ∀ id img, d.freeBackingImageFor surface = some id → d.heap.get id = some img →
      w.Allowed (.attached id s img.borrowCount))
    (hfound : d.findFreeBackingImage s surface = some d') : CacheInv w none none d' := by
  unfold NVDriver.findFreeBackingImage at hfound
  split at hfound
  · cases hfound
  · rename_i id hfind
    split at hfound
    · cases hfound
    · rename_i img hget
      cases hfound
      have hmem := List.mem_of_find?_eq_some hfind
      have hfree : img.surface = none := by
        have hmatch := List.find?_some hfind
        rw [hget] at hmatch
        simp only [Option.any_some, Bool.and_eq_true, Option.isNone_iff_eq_none] at hmatch
        exact hmatch.1.1.1.1
      have howned : img.isExternalBuffer = false := by
        obtain ⟨x, hx, howned, -⟩ := h.borrowing.cached id hmem
        rw [hget] at hx
        cases hx
        exact howned
      have htaken : CacheInv w none (some id) ({ d with
          detachedBackingImageBytes :=
            d.detachedBackingImageBytes - NVDriver.eglBackingImageMemorySize img
          detachedBackingImageCount := d.detachedBackingImageCount - 1 }.modifyImage id fun img =>
            { img with surface := some s, detachedSerial := 0 }) := by
        refine CacheInv.take ?_ (fun _ => ⟨⟨rfl, rfl, rfl⟩, rfl, rfl, rfl, rfl⟩) ?_
        · exact (h.setSpare (some id)).congr rfl rfl rfl rfl rfl rfl rfl
        · intro x hx
          change d.heap.get id = some x at hx
          rw [hget] at hx
          cases hx
          exact hfree
      have hgetTaken := @get_modifyImage { d with
          detachedBackingImageBytes :=
            d.detachedBackingImageBytes - NVDriver.eglBackingImageMemorySize img
          detachedBackingImageCount := d.detachedBackingImageCount - 1 } id id
        (fun img => { img with surface := some s, detachedSerial := 0 })
      rw [if_pos rfl] at hgetTaken
      change _ = (d.heap.get id).map _ at hgetTaken
      rw [hget, Option.map_some] at hgetTaken
      have hpointed := htaken.point hgetTaken rfl (fun surface' hsurface' => ?_)
        fun _ _ => hfit.egl hegl howned
      · refine CacheInv.noteAllowed ?_ (hallowed id img hfind hget)
        refine ⟨hpointed.backend, hpointed.borrowing, hpointed.tied, fun hsafe => ?_,
          hpointed.log⟩
        refine (hpointed.listed hsafe).settle (modifySurface_heap _ s _ ▸ hgetTaken) ?_ ?_
        · rw [modifySurface_images, modifyImage_images]
          exact hmem
        · rintro s' ⟨⟩
          refine ⟨{ surface with backingImage := some id }, ?_, rfl⟩
          rw [get_modifySurface, if_pos rfl, modifyImage_surfaces]
          show (d.surfaces.get s).map _ = _
          rw [hsurface]
          rfl
      · rw [modifyImage_surfaces] at hsurface'
        change d.surfaces.get s = some surface' at hsurface'
        rw [hsurface] at hsurface'
        cases hsurface'
        exact hnone

/-- `egl_allocateBackingImage`. -/
theorem eglAllocate (hfit : Fitting w) (hegl : w.backend = .egl) (h : CacheInv w none none d)
    (surface : NVSurface) (answer : Option NVDriver.EglExport) :
    Provided w surface d (d.eglAllocateBackingImage surface answer) := by
  have hcases := @eglAllocate_allocated d
  cases halloc : d.eglAllocateBackingImage surface answer with
  | mk result d1 =>
      rcases hcases halloc with ⟨rfl, rfl⟩ | ⟨img, k, rfl, rfl, hallocated⟩
      · exact .failed h rfl
      · exact .done h rfl hallocated (hfit.egl hegl hallocated.unused.owned)

/-- Where the first image came out as NV21, its descriptors are closed and another one is
allocated. -/
theorem eglAllocateWithWorkaround (hfit : Fitting w) (hegl : w.backend = .egl)
    (h : CacheInv w none none d) (surface : NVSurface)
    (answers : Nat → Option NVDriver.EglExport) :
    Provided w surface d (d.eglAllocateWithWorkaround surface answers) := by
  unfold NVDriver.eglAllocateWithWorkaround
  have hfirst := h.eglAllocate hfit hegl surface (answers 0)
  revert hfirst
  cases d.eglAllocateBackingImage surface (answers 0) with
  | mk result first =>
      intro hfirst
      cases hfirst with
      | failed inv kept => exact .failed inv kept
      | @done d1 img k inv kept allocated fits =>
          simp only
          split
          · have hflipped : CacheInv w none none { d1 with
                kernel := k.closeFds img
                useCorrectNV12Format := !d1.useCorrectNV12Format } :=
              (inv.abandon hfit allocated.own).congr rfl rfl rfl rfl rfl rfl rfl
            refine Provided.after ?_ (hflipped.eglAllocate hfit hegl surface (answers 1))
            exact kept
          · exact .done inv kept allocated fits

/-- `egl_realiseSurface`, where what happens to an image that it takes is allowed. -/
theorem eglRealise (hfit : Fitting w) (hegl : w.backend = .egl) (h : CacheInv w none none d)
    (hallowed : ∀ surface id img, d.surfaces.get s = some surface → surface.backingImage = none →
      d.freeBackingImageFor surface = some id → d.heap.get id = some img →
      w.Allowed (.attached id s img.borrowCount))
    (answers : Nat → Option NVDriver.EglExport) (added : Bool) :
    CacheInv w none none (d.eglRealiseSurface s answers added).2 := by
  unfold NVDriver.eglRealiseSurface
  split
  · exact h
  · rename_i surface hsurface
    split
    · exact h
    · rename_i hnot
      have hnone : surface.backingImage = none := by simpa using hnot
      split
      · rename_i d' hfound
        refine h.findFree hfit hegl hsurface hnone ?_ hfound
        intro id img
        exact hallowed surface id img hsurface hnone
      · have hprovided := h.eglAllocateWithWorkaround hfit hegl surface answers
        revert hprovided
        cases d.eglAllocateWithWorkaround surface answers with
        | mk result d1 =>
            intro hprovided
            cases result with
            | none =>
                cases hprovided with
                | failed inv kept => exact inv
            | some img =>
                simp only
                cases hattach : d1.attachNewImage s img with
                | mk id d2 =>
                    obtain ⟨hadded, hremoved, hfresh⟩ :=
                      attachProvided hfit hsurface hnone hprovided hattach
                    simp only
                    split
                    · exact hadded
                    · refine hremoved.eglDestroy hfit (.inr rfl)
                        (fun x hx => .inr (surface_of_takenOff hx)) ?_
                      rw [modifyImage_images]
                      exact (modifySurface_images d2 s _).symm ▸ hfresh

end CacheInv

end Surface
end NvidiaVaapi
