import NvidiaVaapi.Surface.CacheInvariant

/-!
# Single writes keep the invariant

What the operations on surfaces, images and descriptors are made of, each with what the
invariant needs of it.
-/

namespace NvidiaVaapi
namespace Surface

namespace CacheInv

variable {w : Watch} {loose : Option SurfaceId} {spare : Option ImageId} {d d' : NVDriver}
  {id : ImageId} {s : SurfaceId} {img : BackingImage} {k : Kernel}

/-- Nothing else of the driver matters. -/
theorem congr (h : CacheInv w loose spare d) (hbackend : d'.backend = d.backend)
    (hheap : d'.heap = d.heap) (hsurfaces : d'.surfaces = d.surfaces)
    (himages : d'.images = d.images) (hkernel : d'.kernel = d.kernel)
    (hlost : d'.cudaWorkUnsafe = d.cudaWorkUnsafe) (hlog : d'.log = d.log) :
    CacheInv w loose spare d' := by
  refine ⟨hbackend.trans h.backend, h.borrowing.congr hheap himages hkernel, ?_, ?_, ?_⟩
  · unfold Tied
    rw [hheap, hsurfaces, hkernel]
    exact h.tied
  · intro hsafe
    exact (h.listed (hlost ▸ hsafe)).congr hheap hsurfaces himages
  · rw [hlog]
    exact h.log

/-- Without the GPU nothing needs to be listed. -/
theorem lose (h : CacheInv w loose spare d) (spare' : Option ImageId) :
    CacheInv w loose spare' { d with cudaWorkUnsafe := true } :=
  ⟨h.backend, h.borrowing.congr rfl rfl rfl, h.tied, nofun, h.log⟩

/-- An image may be spare that need not be. -/
theorem setSpare (h : CacheInv w loose none d) (spare : Option ImageId) :
    CacheInv w loose spare d :=
  ⟨h.backend, h.borrowing, h.tied, fun hsafe => (h.listed hsafe).setSpare spare, h.log⟩

/-- While the GPU is lost, any image may be listed or not. -/
theorem unspare (h : CacheInv w loose spare d) (hlost : d.cudaWorkUnsafe = true) :
    CacheInv w loose none d := by
  refine ⟨h.backend, h.borrowing, h.tied, fun hsafe => ?_, h.log⟩
  rw [hlost] at hsafe
  cases hsafe

theorem note (hfit : Fitting w) (h : CacheInv w loose spare d) {event : CacheEvent}
    (hevent : event.borrowCount = 0) : CacheInv w loose spare (d.note event) := by
  refine ⟨h.backend, h.borrowing.congr rfl rfl rfl, h.tied,
    fun hsafe => (h.listed hsafe).congr rfl rfl rfl, ?_⟩
  intro e he
  rcases List.mem_append.mp he with hold | hnew
  · exact h.log e hold
  · rw [List.mem_singleton.mp hnew]
    exact hfit.quiet hevent

/-- An event that is allowed. -/
theorem noteAllowed (h : CacheInv w loose spare d) {event : CacheEvent}
    (hevent : w.Allowed event) : CacheInv w loose spare (d.note event) := by
  refine ⟨h.backend, h.borrowing.congr rfl rfl rfl, h.tied,
    fun hsafe => (h.listed hsafe).congr rfl rfl rfl, ?_⟩
  intro e he
  rcases List.mem_append.mp he with hold | hnew
  · exact h.log e hold
  · rw [List.mem_singleton.mp hnew]
    exact hevent

/-! ## Descriptors -/

theorem setKernel (hfit : Fitting w) (h : CacheInv w loose spare d)
    (hborrowing : Borrowing none { d with kernel := k })
    (hkeeps : ∀ id img, d.heap.get id = some img → KeepsFiles d.kernel k img) :
    CacheInv w loose spare { d with kernel := k } := by
  refine ⟨h.backend, hborrowing, ?_, fun hsafe => (h.listed hsafe).congr rfl rfl rfl, h.log⟩
  intro s surface id hloose hsurface hbacking
  obtain ⟨img, hget, hback, hfits⟩ := h.tied s surface id hloose hsurface hbacking
  exact ⟨img, hget, hback, hfit.frame hfits (SameLayout.refl img) (hkeeps id img hget)⟩

/-- Descriptors are opened. -/
theorem grow (hfit : Fitting w) (h : CacheInv w loose spare d) (hopens : Opens d.kernel k) :
    CacheInv w loose spare { d with kernel := k } :=
  h.setKernel hfit (h.borrowing.grow hopens) fun _ _ _ _ file _ hfile => hopens.keeps _ file hfile

/-- The descriptors of an image that could not be made are closed. -/
theorem abandon (hfit : Fitting w) (h : CacheInv w loose spare d)
    (hown : OwnFds d.kernel k img) :
    CacheInv w loose spare { d with kernel := k.closeFds img } :=
  h.setKernel hfit (h.borrowing.abandon hown) fun _ _ _ _ _ _ hfile => hown.keeps_closeFds hfile

/-! ## Writes to images -/

/-- A write to an image that leaves its role, its layout and its surface. -/
theorem modifyImage (hfit : Fitting w) (h : CacheInv w loose spare d)
    {f : BackingImage → BackingImage} (hrole : ∀ img, SameRole img (f img))
    (hlayout : ∀ img, SameLayout img (f img)) (hsurface : ∀ img, (f img).surface = img.surface) :
    CacheInv w loose spare (d.modifyImage id f) := by
  refine ⟨(modifyImage_backend ..).trans h.backend, h.borrowing.modifyImage hrole,
    h.tied.modifyImage hfit hlayout hsurface, ?_, (modifyImage_log d id f).symm ▸ h.log⟩
  rw [modifyImage_lost]
  exact fun hsafe => (h.listed hsafe).modifyImage (fun img => (hrole img).2.1)
    fun img => .inl (hsurface img)

/-- An image is taken off its surface, which is loose from then on. -/
theorem loosen (h : CacheInv w none spare d) {f : BackingImage → BackingImage}
    (hrole : ∀ img, SameRole img (f img)) (hnone : ∀ img, (f img).surface = none)
    (hget : ∀ img, d.heap.get id = some img → img.surface = some s) :
    CacheInv w (some s) spare (d.modifyImage id f) := by
  refine ⟨(modifyImage_backend ..).trans h.backend, h.borrowing.modifyImage hrole, ?_, ?_,
    (modifyImage_log d id f).symm ▸ h.log⟩
  · intro s' surface other hloose hsurfaceGet hbacking
    rw [modifyImage_surfaces] at hsurfaceGet
    obtain ⟨x, hx, hback, hfits⟩ := h.tied s' surface other nofun hsurfaceGet hbacking
    have hne : other ≠ id := by
      rintro rfl
      exact hloose ((hget x hx).symm.trans hback)
    rw [get_modifyImage, if_neg hne, modifyImage_kernel]
    exact ⟨x, hx, hback, hfits⟩
  · rw [modifyImage_lost]
    exact fun hsafe => (h.listed hsafe).modifyImage (fun img => (hrole img).2.1)
      fun img => .inr (hnone img)

/-- An image that no surface leads to gets a surface; it is spare until that leads back. -/
theorem take (h : CacheInv w loose (some id) d) {f : BackingImage → BackingImage}
    (hrole : ∀ img, SameRole img (f img))
    (hfree : ∀ img, d.heap.get id = some img → img.surface = none) :
    CacheInv w loose (some id) (d.modifyImage id f) := by
  refine ⟨(modifyImage_backend ..).trans h.backend, h.borrowing.modifyImage hrole, ?_, ?_,
    (modifyImage_log d id f).symm ▸ h.log⟩
  · intro s' surface' other hloose hsurface hbacking
    rw [modifyImage_surfaces] at hsurface
    obtain ⟨x, hx, hback, hfits⟩ := h.tied s' surface' other hloose hsurface hbacking
    have hne : other ≠ id := by
      rintro rfl
      rw [hfree x hx] at hback
      cases hback
    rw [get_modifyImage, if_neg hne, modifyImage_kernel]
    exact ⟨x, hx, hback, hfits⟩
  · rw [modifyImage_lost]
    exact fun hsafe => (h.listed hsafe).modifySpare f

/-! ## Writes to surfaces -/

/-- A surface that is cleared is loose no more.  No image leads to it by now, but for one that
is spare. -/
theorem clearBackingImage (h : CacheInv w loose spare d)
    (hloose : loose = none ∨ loose = some s)
    (hfree : d.cudaWorkUnsafe = false → ∀ id img, spare ≠ some id → d.heap.get id = some img →
      img.surface ≠ some s) :
    CacheInv w none spare (d.clearBackingImage s) := by
  have hbackend : (d.clearBackingImage s).backend = d.backend := by
    unfold NVDriver.clearBackingImage NVDriver.modifySurface
    split <;> rfl
  have hkernel : (d.clearBackingImage s).kernel = d.kernel := by
    unfold NVDriver.clearBackingImage NVDriver.modifySurface
    split <;> rfl
  have hlog : (d.clearBackingImage s).log = d.log := by
    unfold NVDriver.clearBackingImage NVDriver.modifySurface
    split <;> rfl
  refine ⟨hbackend.trans h.backend, h.borrowing.congr (modifySurface_heap d s _)
    (modifySurface_images d s _) hkernel, ?_, ?_, hlog.symm ▸ h.log⟩
  · intro s' surface' other _ hget' hbacking
    by_cases hne : s' = s
    · subst hne
      rw [backingImage_of_clear hget'] at hbacking
      cases hbacking
    · unfold NVDriver.clearBackingImage at hget' ⊢
      rw [get_modifySurface, if_neg hne] at hget'
      rw [modifySurface_heap, show (d.modifySurface s _).kernel = d.kernel from hkernel]
      refine h.tied s' surface' other ?_ hget' hbacking
      rcases hloose with rfl | rfl
      · nofun
      · exact fun heq => hne (Option.some.inj heq).symm
  · rw [show (d.clearBackingImage s).cudaWorkUnsafe = d.cudaWorkUnsafe from
      modifySurface_lost d s _]
    exact fun hsafe => (h.listed hsafe).clearBackingImage (hfree hsafe)

/-- A surface that leaves the table, when no image leads to it. -/
theorem clearSurface (h : CacheInv w none spare d)
    (hfree : d.cudaWorkUnsafe = false → ∀ id img, spare ≠ some id → d.heap.get id = some img →
      img.surface ≠ some s) :
    CacheInv w none spare { d with surfaces := d.surfaces.clear s } := by
  refine ⟨h.backend, h.borrowing.congr rfl rfl rfl, ?_, ?_, h.log⟩
  · intro s' surface' other hloose hget' hbacking
    by_cases hne : s' = s
    · subst hne
      rw [SlotTable.get_clear] at hget'
      cases hget'
    · rw [SlotTable.get_clear_of_ne hne] at hget'
      exact h.tied s' surface' other hloose hget' hbacking
  · intro hsafe
    exact (h.listed hsafe).setSurfaces (hfree hsafe) (d.surfaces.clear s)
      fun _ hne => SlotTable.get_clear_of_ne hne

/-- A new surface without an image. -/
theorem pushSurface (h : CacheInv w none spare d) {surface : NVSurface}
    (hnone : surface.backingImage = none) :
    CacheInv w none spare { d with surfaces := d.surfaces.push surface } := by
  refine ⟨h.backend, h.borrowing.congr rfl rfl rfl, ?_, ?_, h.log⟩
  · intro s' surface' other hloose hget' hbacking
    by_cases hne : s' = d.surfaces.length
    · subst hne
      rw [SlotTable.get_push_length] at hget'
      cases hget'
      rw [hnone] at hbacking
      cases hbacking
    · rw [SlotTable.get_push_of_ne hne] at hget'
      exact h.tied s' surface' other hloose hget' hbacking
  · intro hsafe
    refine ⟨(h.listed hsafe).listed, fun id img s hspare hget hback => ?_⟩
    obtain ⟨surface', hsurface, hbacking⟩ := (h.listed hsafe).back id img s hspare hget hback
    exact ⟨surface', SlotTable.get_push_of_get hsurface, hbacking⟩

/-- A surface without an image is led to one that leads to it. -/
theorem point (h : CacheInv w none spare d) (hget : d.heap.get id = some img)
    (hback : img.surface = some s)
    (hnone : ∀ surface, d.surfaces.get s = some surface → surface.backingImage = none)
    (hfits : ∀ surface, d.surfaces.get s = some surface →
      w.Fits d.kernel { surface with backingImage := some id } img) :
    CacheInv w none spare
      (d.modifySurface s fun surface => { surface with backingImage := some id }) := by
  refine ⟨?_, h.borrowing.congr (modifySurface_heap d s _) (modifySurface_images d s _) ?_,
    ?_, ?_, ?_⟩
  · unfold NVDriver.modifySurface
    split <;> exact h.backend
  · unfold NVDriver.modifySurface
    split <;> rfl
  · intro s' surface' other hloose hget' hbacking
    have hkernel : (d.modifySurface s fun surface =>
        { surface with backingImage := some id }).kernel = d.kernel := by
      unfold NVDriver.modifySurface
      split <;> rfl
    rw [modifySurface_heap, hkernel]
    rw [get_modifySurface] at hget'
    split at hget'
    · rename_i heq
      subst heq
      obtain ⟨surface, hsurface, rfl⟩ := Option.map_eq_some_iff.mp hget'
      cases hbacking
      exact ⟨img, hget, hback, hfits surface hsurface⟩
    · exact h.tied s' surface' other hloose hget' hbacking
  · rw [modifySurface_lost]
    exact fun hsafe => (h.listed hsafe).point hnone
  · unfold NVDriver.modifySurface
    split <;> exact h.log

/-! ## New images, and images that go -/

/-- A new image that an allocation made is spare, whether it has an owner already or not. -/
theorem push (hfit : Fitting w) (h : CacheInv w loose none d)
    (hallocated : Allocated d.kernel k img) (owner : Option SurfaceId) (serial : Nat) :
    CacheInv w loose (some d.heap.length) { d with
      kernel := k, heap := d.heap.push { img with surface := owner, detachedSerial := serial } } := by
  have howned := hallocated.unused.owned
  refine ⟨h.backend, h.borrowing.push (hallocated.own.congr ⟨rfl, rfl, rfl⟩)
    hallocated.unused.unborrowed ?_ (fun _ => hallocated.fresh) hallocated.unused.borrowsNone
    nofun, h.tied.push hfit hallocated.own.toOpens,
    fun hsafe => (h.listed hsafe).push k (.inl rfl), h.log⟩
  intro hexternal
  change img.isExternalBuffer = true at hexternal
  rw [howned] at hexternal
  cases hexternal

/-- An image that is not lent leaves the array to be freed. -/
theorem removeImage (hfit : Fitting w) (h : CacheInv w loose none d)
    (hget : d.heap.get id = some img) (hzero : img.borrowCount = 0) :
    CacheInv w loose (some id) (d.removeImage id) ∧ id ∉ (d.removeImage id).images := by
  have hremoved : CacheInv w loose (some id) { d with images := d.images.erase id } :=
    ⟨h.backend, h.borrowing.remove hget hzero, h.tied,
      fun hsafe => (h.listed hsafe).remove, h.log⟩
  refine ⟨hremoved.note hfit ?_, h.borrowing.nodup.not_mem_erase⟩
  show ((d.heap.get id).map BackingImage.borrowCount).getD 0 = 0
  rw [hget]
  exact hzero

/-- Giving back a borrow. -/
theorem release (hfit : Fitting w) (h : CacheInv w loose spare d) :
    CacheInv w loose spare (d.nvReleaseBackingImageBorrow id) := by
  refine ⟨?_, h.borrowing.release, ?_, ?_, ?_⟩ <;> unfold NVDriver.nvReleaseBackingImageBorrow
  · split
    · split
      · rw [modifyImage_backend, modifyImage_backend]
        exact h.backend
      · exact h.backend
    · exact h.backend
  · split
    · split
      · refine Tied.modifyImage hfit ?_ (fun _ => ⟨_, _, _, _, rfl⟩) fun _ => rfl
        exact Tied.modifyImage hfit h.tied (fun _ => ⟨_, _, _, _, rfl⟩) fun _ => rfl
      · exact h.tied
    · exact h.tied
  · split
    · split
      · rw [modifyImage_lost, modifyImage_lost]
        intro hsafe
        refine Listed.modifyImage ?_ (fun _ => rfl) fun _ => .inl rfl
        exact (h.listed hsafe).modifyImage (fun _ => rfl) fun _ => .inl rfl
      · exact h.listed
    · exact h.listed
  · split
    · split
      · rw [modifyImage_log, modifyImage_log]
        exact h.log
      · exact h.log
    · exact h.log

/-- An image that is not in the array and belongs to no surface is freed. -/
theorem free (hfit : Fitting w) (h : CacheInv w none spare d)
    (hspare : spare = none ∨ spare = some id) (hnot : id ∉ d.images)
    (hborrowed : ∀ img, d.heap.get id = some img → img.borrowedBackingImage = none)
    (hnone : ∀ s surface, d.surfaces.get s = some surface → surface.backingImage ≠ some id) :
    CacheInv w none none (d.freeImage id) := by
  refine ⟨?_, h.borrowing.free hnot hborrowed, h.tied.freeImage hfit h.borrowing hnone, ?_, ?_⟩
  · unfold NVDriver.freeImage
    split <;> exact h.backend
  · have hlost : (d.freeImage id).cudaWorkUnsafe = d.cudaWorkUnsafe := by
      unfold NVDriver.freeImage
      split <;> rfl
    rw [hlost]
    exact fun hsafe => (h.listed hsafe).freeImage hspare
  · unfold NVDriver.freeImage
    split
    · rename_i img hget
      intro e he
      rcases List.mem_append.mp he with hold | hnew
      · exact h.log e hold
      · rw [List.mem_singleton.mp hnew]
        exact hfit.quiet (h.borrowing.unlent hnot hget)
    · exact h.log

end CacheInv

end Surface
end NvidiaVaapi
