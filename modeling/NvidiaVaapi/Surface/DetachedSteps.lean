import NvidiaVaapi.Surface.DetachedCache

/-!
# Every step keeps the cache in order

Imports, creations and the releases of surfaces without an image of the driver leave the cache
alone; an image comes to it where it is taken off its surface.
-/

namespace NvidiaVaapi
namespace Surface

namespace CacheInv

variable {w : Watch} {loose : Option SurfaceId} {spare : Option ImageId} {d : NVDriver}

/-- The images of the array are in memory. -/
theorem images_live (h : CacheInv w loose spare d) {id : ImageId} (hmem : id ∈ d.images) :
    (d.heap.get id).isSome = true := by
  obtain ⟨x, hx, -⟩ := h.borrowing.cached id hmem
  rw [hx]
  rfl

theorem length_not_mem_images (h : CacheInv w loose spare d) : d.heap.length ∉ d.images := by
  intro hmem
  obtain ⟨x, hx⟩ := Option.isSome_iff_exists.mp (h.images_live hmem)
  exact Nat.lt_irrefl _ (SlotTable.lt_of_get hx)

/-- No surface leads to an image that is yet to come. -/
theorem backingImage_ne_length (h : CacheInv w none spare d) (s : SurfaceId)
    (surface : NVSurface) (hsurface : d.surfaces.get s = some surface) :
    surface.backingImage ≠ some d.heap.length := by
  intro hbacking
  obtain ⟨x, hx, -⟩ := h.tied s surface _ nofun hsurface hbacking
  exact Nat.lt_irrefl _ (SlotTable.lt_of_get hx)

end CacheInv

namespace KeepsCache

variable {w : Watch} {d d' : NVDriver} {id : ImageId} {s : SurfaceId} {img : BackingImage}

theorem setKernel (d : NVDriver) (k : Kernel) : KeepsCache d { d with kernel := k } :=
  of_eq rfl rfl rfl rfl rfl rfl rfl rfl

/-! ## Imports -/

theorem borrowExisting {found : Option ImageId} {legacyPrime : Bool} {img' : BackingImage}
    {result : Option (ImageId × BackingImage)}
    (hborrow : d.borrowExisting found legacyPrime img = (result, img', d')) :
    KeepsCache d d' := by
  have hwrite : ∀ (d : NVDriver) (id : ImageId) (count : BackingImage → Nat),
      KeepsCache d (d.modifyImage id fun img => { img with borrowCount := count img }) :=
    fun d id _ => modifyImage d id (fun _ _ => rfl) fun _ => rfl
  unfold NVDriver.borrowExisting at hborrow
  split at hborrow
  · cases hborrow
    exact refl d
  · rename_i id
    have hretained : KeepsCache d (d.retainBackingImage id) := hwrite d id _
    simp only at hborrow
    split at hborrow
    · cases hborrow
      exact hretained
    · split at hborrow
      · cases hborrow
        exact hretained
      · cases hborrow
        exact hretained.trans (hwrite _ id _)

/-- A new image after the search for one to borrow. -/
theorem pushAfter {d1 : NVDriver} (h : CacheInv w none none d) (hkept : KeepsCache d d1)
    (hsurfaces : d1.surfaces = d.surfaces) (hextends : Extends d d1) (k : Kernel)
    (img : BackingImage) : KeepsCache d { d1 with kernel := k, heap := d1.heap.push img } := by
  refine hkept.trans (push d1 k img ?_ ?_)
  · intro id hmem
    rw [hkept.images] at hmem
    obtain ⟨x, hx, -⟩ := h.borrowing.cached id hmem
    obtain ⟨y, hy, -⟩ := hextends id x hx
    exact Option.isSome_iff_exists.mpr ⟨y, hy⟩
  · intro s surface hsurface hbacking
    rw [hsurfaces] at hsurface
    obtain ⟨x, hx, -⟩ := h.tied s surface _ nofun hsurface hbacking
    obtain ⟨y, hy, -⟩ := hextends _ x hx
    exact Nat.lt_irrefl _ (SlotTable.lt_of_get hy)

/-- `createImportedBackingImageImpl`. -/
theorem createImported (hfit : Fitting w) (h : CacheInv w none none d)
    {imported : ImportedSurface} {width height : Nat} {answer : ImportAnswer}
    {result : Option ImageId}
    (hcreate : d.createImportedBackingImageImpl imported width height answer = (result, d')) :
    KeepsCache d d' := by
  unfold NVDriver.createImportedBackingImageImpl at hcreate
  simp only at hcreate
  split at hcreate
  · cases hcreate
    exact refl d
  · split at hcreate
    · cases hcreate
      exact setKernel d _
    · rename_i img k himage
      cases hborrow : { d with kernel := k }.borrowExisting
          ({ d with kernel := k }.findBackingImageByFd (imported.objects 0).fd
            (nvFormatFromSurfaceFourcc imported.pixelFormat) width height)
          imported.legacyPrime img with
      | mk borrowed rest =>
          obtain ⟨img', d1⟩ := rest
          rw [hborrow] at hcreate
          have hkept : KeepsCache d d1 := (setKernel d k).trans (borrowExisting hborrow)
          have hfound : ∀ id, { d with kernel := k }.findBackingImageByFd (imported.objects 0).fd
              (nvFormatFromSurfaceFourcc imported.pixelFormat) width height = some id →
              id ∈ d.images := by
            intro id hfind
            have hmem := findBackingImageByFd_mem hfind
            exact hmem
          obtain ⟨-, d2, rfl, -, hsurfaces, hextends, -⟩ :=
            h.borrowExisting hfit hfound hborrow
          cases borrowed with
          | some lender =>
              cases hcreate
              exact pushAfter h hkept hsurfaces hextends k _
          | none =>
              simp only at hcreate
              split at hcreate
              · cases hcreate
                exact pushAfter h hkept hsurfaces hextends k _
              · cases hcreate
                exact hkept.trans (setKernel _ _)

/-- The imported image is attached to its surface. -/
theorem attachImported (h : CacheInv w none none d) (hget : d.heap.get id = some img)
    (hexternal : img.isExternalBuffer = true) (s : SurfaceId) :
    KeepsCache d (d.attachImported s id) := by
  have hpointed : KeepsCache d
      (d.modifySurface s fun surface => { surface with backingImage := some id }) := by
    unfold NVDriver.modifySurface
    split
    · rename_i surface hsurface
      refine setSurfaces d _ fun s' surface' id' x hsurface' hbacking hx howned => ?_
      by_cases heq : s' = s
      · subst heq
        rw [SlotTable.get_put (SlotTable.lt_of_get hsurface)] at hsurface'
        cases hsurface'
        cases hbacking
        rw [hget] at hx
        cases hx
        rw [hexternal] at howned
        cases howned
      · rw [SlotTable.get_put_of_ne heq] at hsurface'
        exact ⟨surface', hsurface', hbacking⟩
    · exact refl d
  have hnot : id ∉ d.images := h.not_mem_images hget hexternal
  have hwritten := hpointed.trans (modifyImage _ id (f := fun img => { img with surface := some s })
    (fun hmem => absurd (hpointed.images ▸ hmem) hnot) fun _ => rfl)
  exact hwritten.trans (of_eq rfl rfl rfl rfl rfl rfl rfl rfl)

/-! ## Surfaces without an image of the driver -/

/-- The release of a surface that has no image, or an imported one. -/
theorem releaseSurface (h : CacheInv w none none d) (hdirect : w.backend = .direct)
    (hfresh : ∀ id img, (d.surfaces.get s).bind NVSurface.backingImage = some id →
      d.heap.get id = some img → img.isExternalBuffer = true) :
    KeepsCache d (d.releaseSurface s) := by
  unfold NVDriver.releaseSurface
  simp only
  split
  · unfold NVDriver.detachBackingImageFromSurface
    rw [h.backend.trans hdirect]
    simp only
    have hdetached : KeepsCache d (d.directDetachBackingImageFromSurface s) := by
      unfold NVDriver.directDetachBackingImageFromSurface
      split
      · exact refl d
      · rename_i id hbacking
        split
        · exact refl d
        · rename_i img hget
          have hexternal := hfresh id img hbacking hget
          rw [if_pos (.inl hexternal)]
          exact (destroyBackingImage d (h.not_mem_images hget hexternal)).trans
            (clearBackingImage _ s)
    exact hdetached.trans (clearSurface _ s)
  · exact clearSurface d s

/-- One round of the loop of `nvCreateSurfaces2`. -/
theorem createSurface (hfit : Fitting w) (h : CacheInv w none none d) {surface : NVSurface}
    (hnone : surface.backingImage = none) {importSurface : Bool}
    {selected : Option ImportedSurface}
    (hbounded : ∀ imported, importSurface = true → selected = some imported → imported.Bounded)
    {answer : NVDriver.SurfaceAnswer} {result : Option SurfaceId} {last : List SurfaceId}
    (hcreate : d.createSurface surface importSurface selected answer = (result, last, d')) :
    KeepsCache d d' := by
  have hpushed := h.pushSurface hnone
  have hkept := pushSurface d hnone
  unfold NVDriver.createSurface at hcreate
  split at hcreate
  · cases hcreate
    exact refl d
  · simp only at hcreate
    split at hcreate
    · cases hcreate
      exact hkept.trans (clearSurface _ _)
    · split at hcreate
      · cases hcreate
        exact hkept
      · rename_i hvalid
        split at hcreate
        · cases hcreate
          exact hkept
        · rename_i imported
          have hbound := hbounded imported (not_not.mp hvalid) rfl
          split at hcreate
          · rename_i id d1 himport
            obtain ⟨hinv, -, -, himage⟩ := hpushed.createImported hfit hbound.1 himport
            obtain ⟨img, hget, -, -, hexternal⟩ := himage id rfl
            cases hcreate
            exact (hkept.trans (createImported hfit hpushed himport)).trans
              (attachImported hinv hget hexternal _)
          · rename_i d1 himport
            cases hcreate
            exact hkept.trans (createImported hfit hpushed himport)

end KeepsCache

namespace CacheOrder

variable {w : Watch} {d d' : NVDriver} {id : ImageId} {s : SurfaceId} {img : BackingImage}
  {surface : NVSurface} {k : Kernel}

/-! ## A surface gets a new image -/

/-- A new image takes the next slot. -/
theorem newImage_id (hattach : d.attachNewImage s img = (id, d')) : id = d.heap.length := by
  unfold NVDriver.attachNewImage at hattach
  exact (congrArg Prod.fst hattach).symm

/-- A new image that its surface leads to is put into the array. -/
theorem attachNew (h : CacheOrder d) (hinv : CacheInv w none none d)
    (hsurface : d.surfaces.get s = some surface)
    (hattach : ({ d with kernel := k }).attachNewImage s img = (id, d')) :
    CacheOrder { d' with images := d'.images ++ [id] } := by
  have hlt : ∀ id ∈ d.images, id < d.heap.length := by
    intro id hmem
    obtain ⟨x, hx, -⟩ := hinv.borrowing.cached id hmem
    exact SlotTable.lt_of_get hx
  unfold NVDriver.attachNewImage NVDriver.modifySurface at hattach
  simp only [hsurface] at hattach
  cases hattach
  have hheap : ∀ id ∈ d.images,
      (d.heap.push { img with surface := some s, detachedSerial := 0 }).get id =
        d.heap.get id := fun id hmem => SlotTable.get_push_of_ne (Nat.ne_of_lt (hlt id hmem))
  have hserialOf : ∀ id ∈ d.images, NVDriver.serialOf { d with
      heap := d.heap.push { img with surface := some s, detachedSerial := 0 } } id =
        d.serialOf id := fun id hmem =>
    congrArg (fun slot : Option BackingImage => (slot.map BackingImage.detachedSerial).getD 0)
      (hheap id hmem)
  have hsizeOf : ∀ id ∈ d.images, NVDriver.memorySizeOf { d with
      heap := d.heap.push { img with surface := some s, detachedSerial := 0 } } id =
        d.memorySizeOf id := fun id hmem =>
    congrArg (fun slot : Option BackingImage =>
      (slot.map NVDriver.backingImageMemorySize).getD 0) (hheap id hmem)
  constructor
  · exact h.nodup
  · refine h.ordered.imp_of_mem fun ha hb hserial => ?_
    exact ((hserialOf _ (h.mem_images ha)).trans_lt hserial).trans_eq
      (hserialOf _ (h.mem_images hb)).symm
  · intro id hmem
    exact (hserialOf id (h.mem_images hmem)).trans_le (h.bounded id hmem)
  · intro id
    refine (h.exact id).trans ?_
    constructor
    · rintro ⟨hmem, x, hx, hfree⟩
      exact ⟨List.mem_append_left _ hmem, x, (hheap id hmem).trans hx, hfree⟩
    · rintro ⟨hmem, x, hx, hfree⟩
      rcases List.mem_append.mp hmem with hold | hnew
      · exact ⟨hold, x, (hheap id hold).symm.trans hx, hfree⟩
      · -- The new image has a surface.
        cases List.mem_singleton.mp hnew
        change (d.heap.push _).get d.heap.length = some x at hx
        rw [SlotTable.get_push_length] at hx
        cases hx
        cases hfree
  · exact h.count
  · exact h.bytes.trans (congrArg List.sum
      (List.map_congr_left fun id hmem => (hsizeOf id (h.mem_images hmem)).symm))
  · intro s' surface' id x hsurface' hbacking hx howned
    change (d.surfaces.put s _).get s' = some surface' at hsurface'
    by_cases heq : s' = s
    · subst heq
      rw [SlotTable.get_put (SlotTable.lt_of_get hsurface)] at hsurface'
      cases hsurface'
      cases hbacking
      exact List.mem_append_right _ (List.mem_singleton_self _)
    · rw [SlotTable.get_put_of_ne heq] at hsurface'
      obtain ⟨y, hy, -⟩ := hinv.tied s' surface' id nofun hsurface' hbacking
      change (d.heap.push _).get id = some x at hx
      rw [SlotTable.get_push_of_ne (Nat.ne_of_lt (SlotTable.lt_of_get hy))] at hx
      exact List.mem_append_left _ (h.attached s' surface' id x hsurface' hbacking hx howned)

/-- A new image that is taken off its surface again has left the cache alone. -/
theorem takenOff (hinv : CacheInv w none none d) (hsurface : d.surfaces.get s = some surface)
    (hattach : ({ d with kernel := k }).attachNewImage s img = (id, d')) :
    KeepsCache d ((d'.clearBackingImage s).modifyImage id fun img =>
      { img with surface := none }) := by
  have hpushed := KeepsCache.push d k { img with surface := some s, detachedSerial := 0 }
    (fun _ => hinv.images_live) hinv.backingImage_ne_length
  unfold NVDriver.attachNewImage NVDriver.modifySurface at hattach
  simp only [hsurface] at hattach
  cases hattach
  have hput : (d.surfaces.put s { surface with backingImage := some d.heap.length }).get s =
      some { surface with backingImage := some d.heap.length } :=
    SlotTable.get_put (SlotTable.lt_of_get hsurface)
  -- What the surface leads to is written twice, and the second write counts.
  have hcleared : KeepsCache { d with
      kernel := k, heap := d.heap.push { img with surface := some s, detachedSerial := 0 } }
      { d with
        kernel := k, heap := d.heap.push { img with surface := some s, detachedSerial := 0 }
        surfaces := (d.surfaces.put s { surface with backingImage := some d.heap.length }).put s
          { surface with backingImage := none } } := by
    refine KeepsCache.setSurfaces { d with
      kernel := k, heap := d.heap.push { img with surface := some s, detachedSerial := 0 } } _
      fun s' surface' id x hsurface' hbacking _ _ => ?_
    by_cases heq : s' = s
    · subst heq
      rw [SlotTable.get_put (SlotTable.lt_of_get hput)] at hsurface'
      cases hsurface'
      cases hbacking
    · rw [SlotTable.get_put_of_ne heq, SlotTable.get_put_of_ne heq] at hsurface'
      exact ⟨surface', hsurface', hbacking⟩
  refine ((hpushed.trans hcleared).trans ?_).trans
    (KeepsCache.modifyImage _ _ (fun hmem => absurd ?_ hinv.length_not_mem_images) fun _ => rfl)
  · unfold NVDriver.clearBackingImage NVDriver.modifySurface NVDriver.note
    simp only [hput]
    exact KeepsCache.of_eq rfl rfl rfl rfl rfl rfl rfl rfl
  · unfold NVDriver.clearBackingImage at hmem
    rw [modifySurface_images] at hmem
    exact hmem

/-! ## Realising -/

/-- `direct_allocateBackingImage`. -/
theorem directAllocate (h : CacheOrder d) (hinv : CacheInv w none none d) (surface : NVSurface)
    (answer : NVDriver.GpuAnswer) :
    CacheOrder (d.directAllocateBackingImage surface answer).2 := by
  unfold NVDriver.directAllocateBackingImage
  split
  · exact h.keep (KeepsCache.setKernel d _)
  · rename_i img k _
    have hpushed := h.keep (KeepsCache.push d k img (fun _ => hinv.images_live)
      hinv.backingImage_ne_length)
    exact hpushed.keep (KeepsCache.of_eq rfl rfl rfl rfl rfl rfl rfl rfl)
  · exact h

/-- The loop of `direct_realiseSurface`. -/
theorem directAllocateWithPruning (hfit : Fitting w) (hdirect : w.backend = .direct)
    (surface : NVSurface) (answers : Nat → NVDriver.GpuAnswer) (rounds : Nat) (h : CacheOrder d)
    (hinv : CacheInv w none none d) :
    CacheOrder (NVDriver.directAllocateWithPruning surface answers rounds d).2 := by
  induction rounds generalizing d with
  | zero => exact h.directAllocate hinv surface (answers 0)
  | succ rounds ih =>
      unfold NVDriver.directAllocateWithPruning
      have hattempt := h.directAllocate hinv surface (answers (rounds + 1))
      have hprovided := hinv.directAllocate hfit hdirect surface (answers (rounds + 1))
      revert hattempt hprovided
      cases d.directAllocateBackingImage surface (answers (rounds + 1)) with
      | mk result d1 =>
          intro hattempt hprovided
          cases hprovided with
          | done inv kept allocated fits => exact hattempt
          | failed inv kept =>
              simp only
              split
              · rename_i d2 hprune
                exact ih (hattempt.pruneOldest inv hprune) (inv.pruneOldest hfit hprune)
              · exact hattempt

/-- `direct_realiseSurface`. -/
theorem directRealise (hfit : Fitting w) (hdirect : w.backend = .direct) (h : CacheOrder d)
    (hinv : CacheInv w none none d) (answers : Nat → NVDriver.GpuAnswer) (added : Bool) :
    CacheOrder (d.directRealiseSurface s answers added).2 := by
  unfold NVDriver.directRealiseSurface
  split
  · exact h
  · rename_i surface hsurface
    split
    · exact h
    · have hloop := h.directAllocateWithPruning hfit hdirect surface answers d.detached.length hinv
      have hprovided :=
        hinv.directAllocateWithPruning hfit hdirect surface answers d.detached.length
      revert hloop hprovided
      cases NVDriver.directAllocateWithPruning surface answers d.detached.length d with
      | mk result d1 =>
          intro hloop hprovided
          cases hprovided with
          | failed inv kept => exact hloop
          | @done d2 img k inv kept allocated fits =>
              simp only
              cases hattach : ({ d2 with kernel := k }).attachNewImage s img with
              | mk id d3 =>
                  have horder : CacheOrder d2 :=
                    hloop.keep (KeepsCache.of_eq rfl rfl rfl rfl rfl rfl rfl rfl)
                  have hsurface' : d2.surfaces.get s = some surface := kept ▸ hsurface
                  simp only
                  split
                  · exact horder.attachNew inv hsurface' hattach
                  · have htaken := takenOff inv hsurface' hattach
                    refine horder.keep (htaken.trans (KeepsCache.destroyBackingImage _ ?_))
                    rw [htaken.images, newImage_id hattach]
                    exact inv.length_not_mem_images

/-! ## Releasing -/

/-- An image of the driver comes into the cache as the latest one. -/
theorem directDetachOwned (h : CacheOrder d) (hinv : CacheInv w none none d)
    (hbacking : (d.surfaces.get s).bind NVSurface.backingImage = some id)
    (hget : d.heap.get id = some img) (howned : img.isExternalBuffer = false) :
    CacheOrder (d.directDetachOwned s id img) := by
  obtain ⟨surface, hsurface, himage⟩ := Option.bind_eq_some_iff.mp hbacking
  have hlisted : id ∈ d.images := h.attached s surface id img hsurface himage hget howned
  have hnew : ∀ other ∈ d.detached, other ≠ id := by
    rintro other hmem rfl
    obtain ⟨-, x, hx, hfree⟩ := (h.exact other).mp hmem
    have hback := hinv.image_surface hbacking hx
    rw [hfree] at hback
    cases hback
  have hlists : (d.directDetachOwned s id img).detached = d.detached ++ [id] ∧
      (d.directDetachOwned s id img).images = d.images ∧
      (d.directDetachOwned s id img).detachedBackingImageSerial =
        d.detachedBackingImageSerial + 1 ∧
      (d.directDetachOwned s id img).detachedBackingImageCount =
        d.detachedBackingImageCount + 1 ∧
      (d.directDetachOwned s id img).detachedBackingImageBytes =
        d.detachedBackingImageBytes + NVDriver.backingImageMemorySize img := by
    unfold NVDriver.directDetachOwned NVDriver.linkDetachedBackingImage
      NVDriver.clearBackingImage NVDriver.modifySurface NVDriver.modifyImage
    rw [hget]
    split <;> exact ⟨rfl, rfl, rfl, rfl, rfl⟩
  have hheap : ∀ other, (d.directDetachOwned s id img).heap.get other =
      if other = id then
        some { img with surface := none, detachedSerial := d.detachedBackingImageSerial + 1 }
      else d.heap.get other := by
    intro other
    unfold NVDriver.directDetachOwned NVDriver.clearBackingImage
    rw [modifySurface_heap]
    show (NVDriver.modifyImage _ id _).heap.get other = _
    rw [get_modifyImage]
    show (if other = id then (d.heap.get id).map _ else d.heap.get other) = _
    rw [hget]
    rfl
  have hsurfaces : ∀ s' surface', (d.directDetachOwned s id img).surfaces.get s' =
      some surface' → ∀ other, surface'.backingImage = some other →
      d.surfaces.get s' = some surface' ∧ other ≠ id := by
    intro s' surface' hsurface' other hother
    by_cases heq : s' = s
    · subst heq
      rw [backingImage_of_clear hsurface'] at hother
      cases hother
    · unfold NVDriver.directDetachOwned NVDriver.clearBackingImage at hsurface'
      rw [get_modifySurface, if_neg heq] at hsurface'
      change (NVDriver.modifyImage _ id _).surfaces.get s' = some surface' at hsurface'
      rw [modifyImage_surfaces] at hsurface'
      refine ⟨hsurface', ?_⟩
      rintro rfl
      -- The image leads back to one surface only.
      obtain ⟨x, hx, hback, -⟩ := hinv.tied s' surface' other nofun hsurface' hother
      have hback' := hinv.image_surface hbacking hx
      rw [hback] at hback'
      exact heq (Option.some.inj hback')
  generalize d.directDetachOwned s id img = d1 at hlists hheap hsurfaces
  obtain ⟨hdetached, himages, hserial, hcount, hbytes⟩ := hlists
  have hserialOf : ∀ other ∈ d.detached, d1.serialOf other = d.serialOf other := by
    intro other hmem
    rw [NVDriver.serialOf, hheap, if_neg (hnew other hmem), NVDriver.serialOf]
  have hsizeOf : ∀ other ∈ d.detached, d1.memorySizeOf other = d.memorySizeOf other := by
    intro other hmem
    rw [NVDriver.memorySizeOf, hheap, if_neg (hnew other hmem), NVDriver.memorySizeOf]
  have hlatest : d1.serialOf id = d.detachedBackingImageSerial + 1 := by
    rw [NVDriver.serialOf, hheap, if_pos rfl]
    rfl
  have hsize : d1.memorySizeOf id = NVDriver.backingImageMemorySize img := by
    rw [NVDriver.memorySizeOf, hheap, if_pos rfl]
    rfl
  constructor
  · rw [hdetached]
    exact h.nodup.append (List.nodup_singleton id)
      (List.disjoint_singleton.mpr fun hmem => hnew id hmem rfl)
  · rw [hdetached]
    refine List.pairwise_append.mpr ⟨?_, List.pairwise_singleton _ id, fun other hother b hb => ?_⟩
    · refine h.ordered.imp_of_mem fun ha hb hlt => ?_
      rw [hserialOf _ ha, hserialOf _ hb]
      exact hlt
    · cases List.mem_singleton.mp hb
      rw [hserialOf other hother, hlatest]
      exact Nat.lt_succ_of_le (h.bounded other hother)
  · rw [hdetached, hserial]
    intro other hother
    rcases List.mem_append.mp hother with hold | hlast
    · rw [hserialOf other hold]
      exact Nat.le_succ_of_le (h.bounded other hold)
    · cases List.mem_singleton.mp hlast
      exact Nat.le_of_eq hlatest
  · intro other
    rw [hdetached, himages, hheap]
    by_cases heq : other = id
    · subst heq
      rw [if_pos rfl]
      exact ⟨fun _ => ⟨hlisted, _, rfl, rfl⟩,
        fun _ => List.mem_append_right _ (List.mem_singleton_self _)⟩
    · rw [if_neg heq, ← h.exact other, List.mem_append, List.mem_singleton, or_iff_left heq]
  · rw [hdetached, hcount, List.length_append, h.count]
    rfl
  · rw [hdetached, hbytes, List.map_append, List.sum_append, h.bytes, List.map_singleton,
      List.sum_singleton, hsize]
    exact congrArg (· + _)
      (congrArg List.sum (List.map_congr_left fun other hmem => (hsizeOf other hmem).symm))
  · intro s' surface' other x hsurface' hother hx hxowned
    obtain ⟨hold, hne⟩ := hsurfaces s' surface' hsurface' other hother
    rw [hheap, if_neg hne] at hx
    rw [himages]
    exact h.attached s' surface' other x hold hother hx hxowned

/-- An image of the driver is no borrower. -/
theorem ownResources (h : CacheOrder d) (hinv : CacheInv w none none d)
    (hbacking : (d.surfaces.get s).bind NVSurface.backingImage = some id)
    (hget : d.heap.get id = some img) (howned : img.isExternalBuffer = false) :
    ¬(img.isExternalBuffer = true ∨ img.borrowedCudaResources = true) := by
  obtain ⟨surface, hsurface, himage⟩ := Option.bind_eq_some_iff.mp hbacking
  obtain ⟨x, hx, -, -, hresources⟩ :=
    hinv.borrowing.cached id (h.attached s surface id img hsurface himage hget howned)
  rw [hget] at hx
  cases hx
  rw [howned, hresources]
  simp

/-- `direct_detachBackingImageFromSurface` of an image of the driver. -/
theorem directDetach_owned (h : CacheOrder d) (hinv : CacheInv w none none d)
    (hbacking : (d.surfaces.get s).bind NVSurface.backingImage = some id)
    (hget : d.heap.get id = some img) (howned : img.isExternalBuffer = false) :
    d.directDetachBackingImageFromSurface s =
      (d.directDetachOwned s id img).pruneDetachedBackingImagesToLimits := by
  unfold NVDriver.directDetachBackingImageFromSurface
  rw [hbacking]
  simp only [hget]
  rw [if_neg (h.ownResources hinv hbacking hget howned)]
  rfl

/-- The release of a surface. -/
theorem releaseSurface (hfit : Fitting w) (hdirect : w.backend = .direct) (h : CacheOrder d)
    (hinv : CacheInv w none none d) : CacheOrder (d.releaseSurface s) := by
  by_cases hfresh : ∀ id img, (d.surfaces.get s).bind NVSurface.backingImage = some id →
      d.heap.get id = some img → img.isExternalBuffer = true
  · exact h.keep (KeepsCache.releaseSurface hinv hdirect hfresh)
  · simp only [not_forall] at hfresh
    obtain ⟨id, img, hbacking, hget, howned⟩ := hfresh
    have howned' : img.isExternalBuffer = false := by simpa using howned
    unfold NVDriver.releaseSurface NVDriver.detachBackingImageFromSurface
    rw [hbacking, hinv.backend.trans hdirect]
    simp only [Option.isSome_some, if_true]
    rw [h.directDetach_owned hinv hbacking hget howned']
    have hlinked := h.directDetachOwned hinv hbacking hget howned'
    have hpruned := hlinked.pruneWhile hfit NVDriver.detachedBackingImagesOverLimit
      (d.directDetachOwned s id img).detached.length (hinv.directDetachOwned hbacking hget)
    exact hpruned.keep (KeepsCache.clearSurface _ s)

end CacheOrder

end Surface
end NvidiaVaapi
