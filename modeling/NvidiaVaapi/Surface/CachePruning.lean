import NvidiaVaapi.Surface.DetachedSteps

/-!
# Pruning takes the oldest images first

What is pruned is older than all that could be pruned and stays; a pruning to a limit ends
below the limit or with nothing left that could be pruned.
-/

namespace NvidiaVaapi
namespace Surface

/-! ## What destroying an image does to the others -/

/-- The lender of an image that is freed is told so, no other image changes. -/
theorem get_freed {d : NVDriver} {id other : ImageId} {img : BackingImage}
    (hget : d.heap.get id = some img) (hne : other ≠ id) :
    (((d.forgetSurface img).nvReleaseBackingImageBorrow id).freeImage id).heap.get other =
      if img.borrowedBackingImage = some other then
        (d.heap.get other).map fun lender => { lender with borrowCount := lender.borrowCount - 1 }
      else d.heap.get other := by
  have hfree : ∀ d : NVDriver, (d.freeImage id).heap.get other = d.heap.get other := by
    intro d
    unfold NVDriver.freeImage
    split
    · exact SlotTable.get_clear_of_ne hne
    · rfl
  rw [hfree]
  unfold NVDriver.nvReleaseBackingImageBorrow
  rw [forgetSurface_heap, hget]
  simp only
  cases hborrowed : img.borrowedBackingImage with
  | none =>
      rw [if_neg (by simp), forgetSurface_heap]
  | some lender =>
      rw [get_modifyImage, if_neg hne, get_modifyImage, forgetSurface_heap]
      by_cases heq : other = lender
      · rw [if_pos heq, heq, if_pos rfl]
      · rw [if_neg heq, if_neg fun hsome => heq (Option.some.inj hsome).symm]

/-- The same for `destroyBackingImage`, which does nothing once the GPU is lost. -/
theorem get_destroyBackingImage {d : NVDriver} {id other : ImageId} {img : BackingImage}
    (hget : d.heap.get id = some img) (hne : other ≠ id) :
    (d.destroyBackingImage id).heap.get other =
      if d.cudaWorkUnsafe = false ∧ img.borrowedBackingImage = some other then
        (d.heap.get other).map fun lender => { lender with borrowCount := lender.borrowCount - 1 }
      else d.heap.get other := by
  unfold NVDriver.destroyBackingImage
  by_cases hlost : d.cudaWorkUnsafe = true
  · rw [if_pos hlost, if_neg fun hsafe => by simp [hlost] at hsafe]
  · have hsafe : d.cudaWorkUnsafe = false := by simpa using hlost
    rw [if_neg hlost, hget]
    unfold NVDriver.nvDestroyImportedBackingImage
    simp only [hlost, hsafe, hget, true_and, if_false, ite_self, Bool.false_eq_true]
    exact get_freed hget hne

/-! ## Pruning -/

/-- From one driver to another one images are only taken out of the cache, the oldest that can
be pruned first. -/
structure PrunesOldest (d d' : NVDriver) : Prop where
  subset : ∀ id ∈ d'.detached, id ∈ d.detached
  oldest : ∀ id ∈ d.detached, id ∉ d'.detached → d.backingImageCanPrune id = true ∧
    ∀ other ∈ d'.detached, d.backingImageCanPrune other = true →
      d.serialOf id < d.serialOf other

/-- The same, and the images that stay do not change. -/
structure Pruning (d d' : NVDriver) : Prop extends PrunesOldest d d' where
  kept : ∀ id ∈ d'.detached, d'.heap.get id = d.heap.get id

theorem canPrune_congr {d d' : NVDriver} {id : ImageId}
    (hheap : d'.heap.get id = d.heap.get id) :
    d'.backingImageCanPrune id = d.backingImageCanPrune id := by
  unfold NVDriver.backingImageCanPrune
  rw [hheap]

theorem serialOf_congr {d d' : NVDriver} {id : ImageId}
    (hheap : d'.heap.get id = d.heap.get id) : d'.serialOf id = d.serialOf id := by
  unfold NVDriver.serialOf
  rw [hheap]

namespace Pruning

variable {w : Watch} {d d' d'' : NVDriver} {id : ImageId} {s : SurfaceId} {img : BackingImage}
  {k : Kernel}

/-- Nothing is pruned. -/
theorem of_eq (hdetached : d'.detached = d.detached)
    (hheap : ∀ id ∈ d.detached, d'.heap.get id = d.heap.get id) : Pruning d d' where
  subset := fun id hmem => hdetached ▸ hmem
  oldest := fun id hmem hnot => absurd (hdetached ▸ hmem) hnot
  kept := fun id hmem => hheap id (hdetached ▸ hmem)

theorem refl (d : NVDriver) : Pruning d d :=
  of_eq rfl fun _ _ => rfl

theorem trans (h : Pruning d d') (h' : Pruning d' d'') : Pruning d d'' := by
  refine ⟨⟨fun id hmem => h.subset id (h'.subset id hmem), fun id hmem hnot => ?_⟩,
    fun id hmem => (h'.kept id hmem).trans (h.kept id (h'.subset id hmem))⟩
  by_cases hstays : id ∈ d'.detached
  · -- The image goes in the second part, for which nothing had changed.
    obtain ⟨hcan, hoder⟩ := h'.oldest id hstays hnot
    have hsame := h.kept id hstays
    refine ⟨canPrune_congr hsame ▸ hcan, fun other hother hcanOther => ?_⟩
    have hsameOther := h.kept other (h'.subset other hother)
    rw [← serialOf_congr hsame, ← serialOf_congr hsameOther]
    exact hoder other hother ((canPrune_congr hsameOther).trans hcanOther)
  · obtain ⟨hcan, hoder⟩ := h.oldest id hmem hstays
    exact ⟨hcan, fun other hother => hoder other (h'.subset other hother)⟩

/-- `pruneOldestDetachedBackingImageLocked`. -/
theorem pruneOldest (horder : CacheOrder d) (hinv : CacheInv w none none d)
    (hprune : d.pruneOldestDetachedBackingImage = some d') :
    Pruning d d' ∧ d'.detached.length + 1 = d.detached.length := by
  obtain ⟨id, img, hfind, hmem, hget, rfl⟩ := horder.pruneOldest_spec hprune
  have hlist : (((d.unlinkDetachedBackingImage id img).removeImage id).destroyBackingImage
      id).detached = d.detached.erase id :=
    (KeepsCache.destroyBackingImage _ (CacheOrder.not_mem_unlinked hinv.borrowing)).detached.trans
      (CacheOrder.unlinked_fields d id img).1
  have hheap : ∀ other ∈ d.detached.erase id,
      (((d.unlinkDetachedBackingImage id img).removeImage id).destroyBackingImage
        id).heap.get other = d.heap.get other := by
    intro other hother
    have hne := (horder.nodup.mem_erase_iff.mp hother).1
    have howned : img.borrowedBackingImage = none := by
      obtain ⟨x, hx, -, hnone, -⟩ := hinv.borrowing.cached id (horder.mem_images hmem)
      rw [hget] at hx
      cases hx
      exact hnone
    have hunlinked : ((d.unlinkDetachedBackingImage id img).removeImage id).heap.get id =
      some { img with detachedSerial := 0 } := get_unlink hget
    rw [get_destroyBackingImage hunlinked hne, if_neg, CacheOrder.get_unlinked_of_ne hne]
    rintro ⟨-, hborrowed⟩
    change img.borrowedBackingImage = some other at hborrowed
    rw [howned] at hborrowed
    cases hborrowed
  refine ⟨⟨⟨fun other hother => ?_, fun other hother hnot => ?_⟩, fun other hother => ?_⟩, ?_⟩
  · rw [hlist] at hother
    exact List.mem_of_mem_erase hother
  · -- Of the images that can be pruned the first in the list goes, and the list is ordered.
    rw [hlist] at hnot ⊢
    have heq : other = id := by
      by_contra hne
      exact hnot (horder.nodup.mem_erase_iff.mpr ⟨hne, hother⟩)
    subst heq
    obtain ⟨hcan, before, after, hsplit, hcannot⟩ := List.find?_eq_some_iff_append.mp hfind
    refine ⟨hcan, fun later hlater hcanLater => ?_⟩
    obtain ⟨hne, hlaterMem⟩ := horder.nodup.mem_erase_iff.mp hlater
    have hpairwise := horder.ordered
    rw [hsplit] at hpairwise hlaterMem
    rcases List.mem_append.mp hlaterMem with hbefore | hrest
    · have hno := hcannot later hbefore
      rw [hcanLater] at hno
      cases hno
    · rcases List.mem_cons.mp hrest with hsame | hafter
      · exact absurd hsame hne
      · exact List.rel_of_pairwise_cons (List.pairwise_append.mp hpairwise).2.1 hafter
  · rw [hlist] at hother
    exact hheap other hother
  · rw [hlist, List.length_erase_of_mem hmem]
    have hpos := List.length_pos_of_mem hmem
    omega

theorem pruneWhile (hfit : Fitting w) (reason : NVDriver → Bool) (rounds : Nat)
    (horder : CacheOrder d) (hinv : CacheInv w none none d) :
    Pruning d (NVDriver.pruneWhile reason rounds d) := by
  induction rounds generalizing d with
  | zero => exact refl d
  | succ rounds ih =>
      unfold NVDriver.pruneWhile
      split
      · split
        · rename_i d' hprune
          exact (pruneOldest horder hinv hprune).1.trans
            (ih (horder.pruneOldest hinv hprune) (hinv.pruneOldest hfit hprune))
        · exact refl d
      · exact refl d

/-- A pruning that may take all images ends where there is no more reason to prune, or nothing
left that could be pruned. -/
theorem pruneWhile_done (hfit : Fitting w) {reason : NVDriver → Bool} {rounds : Nat}
    (horder : CacheOrder d) (hinv : CacheInv w none none d)
    (hrounds : d.detached.length ≤ rounds)
    (hreason : reason (NVDriver.pruneWhile reason rounds d) = true) :
    ∀ id ∈ (NVDriver.pruneWhile reason rounds d).detached,
      (NVDriver.pruneWhile reason rounds d).backingImageCanPrune id = false := by
  induction rounds generalizing d with
  | zero =>
      have hnil : d.detached = [] := List.length_eq_zero_iff.mp (Nat.le_zero.mp hrounds)
      intro id hmem
      change id ∈ d.detached at hmem
      rw [hnil] at hmem
      cases hmem
  | succ rounds ih =>
      unfold NVDriver.pruneWhile at hreason ⊢
      by_cases hmore : reason d = true
      · rw [if_pos hmore] at hreason ⊢
        cases hprune : d.pruneOldestDetachedBackingImage with
        | none =>
            simp only
            exact horder.pruneOldest_none hprune
        | some d' =>
            rw [hprune] at hreason
            have hlength := (pruneOldest horder hinv hprune).2
            exact ih (horder.pruneOldest hinv hprune) (hinv.pruneOldest hfit hprune) (by omega)
              hreason
      · rw [if_neg hmore] at hreason
        exact absurd hreason hmore

/-! ## Realising -/

/-- A new image changes none of the cache. -/
theorem get_push (horder : CacheOrder d) (hinv : CacheInv w none none d) (img : BackingImage)
    (hmem : id ∈ d.detached) : (d.heap.push img).get id = d.heap.get id := by
  obtain ⟨x, hx⟩ := Option.isSome_iff_exists.mp (hinv.images_live (horder.mem_images hmem))
  exact SlotTable.get_push_of_ne (Nat.ne_of_lt (SlotTable.lt_of_get hx))

/-- What a new image that is attached changes of images and cache. -/
theorem attachNew_fields {d3 : NVDriver}
    (hattach : ({ d with kernel := k }).attachNewImage s img = (id, d3)) :
    d3.heap = d.heap.push { img with surface := some s, detachedSerial := 0 } ∧
    d3.detached = d.detached := by
  unfold NVDriver.attachNewImage NVDriver.note at hattach
  cases hattach
  refine ⟨modifySurface_heap _ _ _, ?_⟩
  unfold NVDriver.modifySurface
  split <;> rfl

theorem directAllocate (horder : CacheOrder d) (hinv : CacheInv w none none d)
    (surface : NVSurface) (answer : NVDriver.GpuAnswer) :
    Pruning d (d.directAllocateBackingImage surface answer).2 := by
  unfold NVDriver.directAllocateBackingImage
  split
  · exact of_eq rfl fun _ _ => rfl
  · exact of_eq rfl fun id hmem => get_push horder hinv _ hmem
  · exact refl d

theorem directAllocateWithPruning (hfit : Fitting w) (hdirect : w.backend = .direct)
    (surface : NVSurface) (answers : Nat → NVDriver.GpuAnswer) (rounds : Nat)
    (horder : CacheOrder d) (hinv : CacheInv w none none d) :
    Pruning d (NVDriver.directAllocateWithPruning surface answers rounds d).2 := by
  induction rounds generalizing d with
  | zero => exact directAllocate horder hinv surface (answers 0)
  | succ rounds ih =>
      unfold NVDriver.directAllocateWithPruning
      have hattempt := directAllocate horder hinv surface (answers (rounds + 1))
      have horder' := horder.directAllocate hinv surface (answers (rounds + 1))
      have hprovided := hinv.directAllocate hfit hdirect surface (answers (rounds + 1))
      revert hattempt horder' hprovided
      cases d.directAllocateBackingImage surface (answers (rounds + 1)) with
      | mk result d1 =>
          intro hattempt horder' hprovided
          cases hprovided with
          | done inv kept allocated fits => exact hattempt
          | failed inv kept =>
              simp only
              split
              · rename_i d2 hprune
                exact (hattempt.trans (pruneOldest horder' inv hprune).1).trans
                  (ih (horder'.pruneOldest inv hprune) (inv.pruneOldest hfit hprune))
              · exact hattempt

/-- `direct_realiseSurface` prunes between its attempts only. -/
theorem directRealise (hfit : Fitting w) (hdirect : w.backend = .direct) (horder : CacheOrder d)
    (hinv : CacheInv w none none d) (answers : Nat → NVDriver.GpuAnswer) (added : Bool) :
    Pruning d (d.directRealiseSurface s answers added).2 := by
  unfold NVDriver.directRealiseSurface
  split
  · exact refl d
  · rename_i surface hsurface
    split
    · exact refl d
    · have hloop :=
        directAllocateWithPruning hfit hdirect surface answers d.detached.length horder hinv
      have horder' :=
        horder.directAllocateWithPruning hfit hdirect surface answers d.detached.length hinv
      have hprovided :=
        hinv.directAllocateWithPruning hfit hdirect surface answers d.detached.length
      revert hloop horder' hprovided
      cases NVDriver.directAllocateWithPruning surface answers d.detached.length d with
      | mk result d1 =>
          intro hloop horder' hprovided
          cases hprovided with
          | failed inv kept => exact hloop
          | @done d2 img k inv kept allocated fits =>
              simp only
              cases hattach : ({ d2 with kernel := k }).attachNewImage s img with
              | mk id d3 =>
                  have hcache : CacheOrder d2 :=
                    horder'.keep (KeepsCache.of_eq rfl rfl rfl rfl rfl rfl rfl rfl)
                  have hsurface' : d2.surfaces.get s = some surface := kept ▸ hsurface
                  have htaken := CacheOrder.takenOff inv hsurface' hattach
                  have hid := CacheOrder.newImage_id hattach
                  obtain ⟨hheap, hdetached⟩ := attachNew_fields hattach
                  have hother : ∀ other ∈ d2.detached, d3.heap.get other = d2.heap.get other := by
                    intro other hmem
                    rw [hheap]
                    exact get_push hcache inv _ hmem
                  refine hloop.trans ?_
                  simp only
                  split
                  · exact of_eq hdetached hother
                  · refine of_eq ?_ fun other hmem => ?_
                    · have hnot := htaken.images ▸ hid ▸ inv.length_not_mem_images
                      exact (KeepsCache.destroyBackingImage _ hnot).detached.trans htaken.detached
                    · have hne : other ≠ id := by
                        rintro rfl
                        rw [hid] at hmem
                        exact inv.length_not_mem_images (hcache.mem_images hmem)
                      have hnew : ((d3.clearBackingImage s).modifyImage id fun img =>
                          { img with surface := none }).heap.get id =
                            some { img with surface := none, detachedSerial := 0 } := by
                        unfold NVDriver.clearBackingImage
                        rw [get_modifyImage, if_pos rfl, modifySurface_heap, hheap, hid]
                        exact congrArg _ SlotTable.get_push_length
                      rw [get_destroyBackingImage hnew hne, if_neg, get_modifyImage, if_neg hne]
                      · unfold NVDriver.clearBackingImage
                        rw [modifySurface_heap]
                        exact hother other hmem
                      · rintro ⟨-, hborrowed⟩
                        change img.borrowedBackingImage = some other at hborrowed
                        rw [allocated.unused.borrowsNone] at hborrowed
                        cases hborrowed

end Pruning

end Surface
end NvidiaVaapi
