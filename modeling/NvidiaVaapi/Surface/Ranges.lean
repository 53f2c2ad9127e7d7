import NvidiaVaapi.Surface.RangeFrames

/-!
# External images and their surfaces

The external image of a surface has the size of the surface, and its planes lie in the objects of
the descriptor.  No write and no allocation of a backend changes that.
-/

namespace NvidiaVaapi
namespace Surface

/-- A surface of the sizes that `nvCreateSurfaces2` gives. -/
structure SmallSurface (surface : NVSurface) : Prop where
  width : surface.width ≤ 2 ^ 16
  positive : 0 < surface.height
  height : surface.height ≤ 2 ^ 16

/-- The external images fit, and belong to surfaces of their size. -/
structure Ranges (d : NVDriver) : Prop where
  fits : ∀ id img, d.heap.get id = some img → ImageFits img
  small : ∀ s surface, d.surfaces.get s = some surface → SmallSurface surface
  used : ∀ s surface id, d.surfaces.get s = some surface → surface.backingImage = some id →
    id < d.heap.length
  same : ∀ s surface id img, d.surfaces.get s = some surface → surface.backingImage = some id →
    d.heap.get id = some img → img.isExternalBuffer = true → SameSize surface img

namespace Ranges

variable {d d' : NVDriver} {s : SurfaceId} {id : ImageId} {img : BackingImage}
  {surface : NVSurface}

/-! ## Writes -/

theorem steady (h : Ranges d) (hsteady : Steady d d') : Ranges d' := by
  constructor
  case fits =>
    intro id img hget
    obtain ⟨before, hbefore, hlayout⟩ := hsteady.images id img hget
    exact (h.fits id before hbefore).congr hlayout.samePlanes
  case small =>
    intro s after hafter
    obtain ⟨before, hbefore, hwidth, hheight, -⟩ := hsteady.surfaces s after hafter
    obtain ⟨hsmall, hpositive, hsmall'⟩ := h.small s before hbefore
    exact ⟨hwidth ▸ hsmall, hheight ▸ hpositive, hheight ▸ hsmall'⟩
  case used =>
    intro s after id hafter himage
    obtain ⟨before, hbefore, -, -, hback⟩ := hsteady.surfaces s after hafter
    rcases hback with hsame | hnone
    · exact Nat.lt_of_lt_of_le (h.used s before id hbefore (hsame.symm.trans himage)) hsteady.slots
    · rw [hnone] at himage
      cases himage
  case same =>
    intro s after id img hafter himage hget hexternal
    obtain ⟨before, hbefore, hwidth, hheight, hback⟩ := hsteady.surfaces s after hafter
    obtain ⟨old, hold, hlayout⟩ := hsteady.images id img hget
    have hshape := hlayout.samePlanes.toSameShape
    rcases hback with hsame | hnone
    · obtain ⟨hw, hh⟩ := h.same s before id old hbefore (hsame.symm.trans himage) hold
        (hshape.isExternalBuffer.symm.trans hexternal)
      exact ⟨(hshape.width.trans hw).trans hwidth.symm, (hshape.height.trans hh).trans hheight.symm⟩
    · rw [hnone] at himage
      cases himage

/-- An image gets a slot of its own. -/
theorem pushImage (h : Ranges d) (hfits : ImageFits img) (k : Kernel) (lost : Bool) :
    Ranges { d with kernel := k, heap := d.heap.push img, cudaWorkUnsafe := lost } := by
  constructor
  case fits =>
    intro id x hget
    change (d.heap.push img).get id = some x at hget
    by_cases hne : id = d.heap.length
    · rw [hne, SlotTable.get_push_length] at hget
      cases hget
      exact hfits
    · rw [SlotTable.get_push_of_ne hne] at hget
      exact h.fits id x hget
  case small => exact h.small
  case used =>
    intro s surface id hsurface himage
    have hlt := h.used s surface id hsurface himage
    show id < (d.heap.push img).length
    rw [SlotTable.length_push]
    exact Nat.lt_succ_of_lt hlt
  case same =>
    intro s surface id x hsurface himage hget
    have hlt := h.used s surface id hsurface himage
    change (d.heap.push img).get id = some x at hget
    rw [SlotTable.get_push_of_ne (Nat.ne_of_lt hlt)] at hget
    exact h.same s surface id x hsurface himage hget

/-- A new surface has no image yet. -/
theorem pushSurface (h : Ranges d) (hsmall : SmallSurface surface)
    (hnone : surface.backingImage = none) :
    Ranges { d with surfaces := d.surfaces.push surface } := by
  have hcases : ∀ {s x}, (d.surfaces.push surface).get s = some x →
      x = surface ∨ d.surfaces.get s = some x := by
    intro s x hget
    by_cases hne : s = d.surfaces.length
    · rw [hne, SlotTable.get_push_length] at hget
      exact .inl (Option.some.inj hget).symm
    · rw [SlotTable.get_push_of_ne hne] at hget
      exact .inr hget
  refine ⟨h.fits, fun s x hx => ?_, fun s x id hx himage => ?_,
    fun s x id img hx himage hget hexternal => ?_⟩
  · rcases hcases hx with rfl | hold
    · exact hsmall
    · exact h.small s x hold
  · rcases hcases hx with rfl | hold
    · rw [hnone] at himage
      cases himage
    · exact h.used s x id hold himage
  · rcases hcases hx with rfl | hold
    · rw [hnone] at himage
      cases himage
    · exact h.same s x id img hold himage hget hexternal

/-- A surface gets an image, which has its size if it is external. -/
theorem attach (h : Ranges d) (hget : d.heap.get id = some img)
    (hsize : img.isExternalBuffer = true →
      ∀ surface, d.surfaces.get s = some surface → SameSize surface img) :
    Ranges (d.modifySurface s fun surface => { surface with backingImage := some id }) := by
  have hheap : (d.modifySurface s fun surface =>
      { surface with backingImage := some id }).heap = d.heap := modifySurface_heap ..
  have hcases : ∀ {other x}, (d.modifySurface s fun surface =>
      { surface with backingImage := some id }).surfaces.get other = some x →
      (other = s ∧ ∃ surface, d.surfaces.get s = some surface ∧
        x = { surface with backingImage := some id }) ∨ d.surfaces.get other = some x := by
    intro other x hx
    rw [get_modifySurface] at hx
    split at hx
    · rename_i heq
      obtain ⟨surface, hsurface, rfl⟩ := Option.map_eq_some_iff.mp hx
      exact .inl ⟨heq, surface, hsurface, rfl⟩
    · exact .inr hx
  constructor
  case fits =>
    rw [hheap]
    exact h.fits
  case small =>
    intro other x hx
    rcases hcases hx with ⟨-, surface, hsurface, rfl⟩ | hold
    · obtain ⟨hwidth, hpositive, hheight⟩ := h.small s surface hsurface
      exact ⟨hwidth, hpositive, hheight⟩
    · exact h.small other x hold
  case used =>
    intro other x id' hx himage
    rw [hheap]
    rcases hcases hx with ⟨-, surface, -, rfl⟩ | hold
    · cases himage
      exact SlotTable.lt_of_get hget
    · exact h.used other x id' hold himage
  case same =>
    intro other x id' img' hx himage hget' hexternal
    rw [hheap] at hget'
    rcases hcases hx with ⟨-, surface, hsurface, rfl⟩ | hold
    · cases himage
      rw [hget] at hget'
      cases hget'
      obtain ⟨hwidth, hheight⟩ := hsize hexternal surface hsurface
      exact ⟨hwidth, hheight⟩
    · exact h.same other x id' img' hold himage hget' hexternal

/-! ## Images that the backends allocate -/

theorem fits_of_owned (howned : img.isExternalBuffer = false) : ImageFits img := by
  intro hexternal
  rw [howned] at hexternal
  cases hexternal

/-- An image that has just been allocated is attached. -/
theorem attachNew (h : Ranges d) (howned : img.isExternalBuffer = false) (s : SurfaceId) :
    Ranges (d.attachNewImage s img).2 := by
  have hfits : ImageFits { img with surface := some s, detachedSerial := 0 } :=
    fits_of_owned howned
  have hpushed := h.pushImage hfits d.kernel d.cudaWorkUnsafe
  have hattached := hpushed.attach (s := s) SlotTable.get_push_length fun hexternal => by
    change img.isExternalBuffer = true at hexternal
    rw [howned] at hexternal
    cases hexternal
  exact hattached.steady (Steady.of_eq rfl rfl)

theorem directAllocate (h : Ranges d) (surface : NVSurface) (answer : NVDriver.GpuAnswer)
    {result : Option BackingImage}
    (halloc : d.directAllocateBackingImage surface answer = (result, d')) :
    Ranges d' ∧ ∀ img, result = some img → img.isExternalBuffer = false := by
  unfold NVDriver.directAllocateBackingImage at halloc
  split at halloc
  · rename_i img k himage
    cases halloc
    refine ⟨h.steady (Steady.of_eq rfl rfl), ?_⟩
    rintro _ ⟨⟩
    exact (directAllocate_allocated himage).unused.owned
  · rename_i img k himage
    cases halloc
    exact ⟨h.pushImage (fits_of_owned (directAllocate_allocated himage).unused.owned) k true, nofun⟩
  · cases halloc
    exact ⟨h, nofun⟩

theorem directAllocateWithPruning (surface : NVSurface) (answers : Nat → NVDriver.GpuAnswer)
    {rounds : Nat} {result : Option BackingImage} (h : Ranges d)
    (halloc : NVDriver.directAllocateWithPruning surface answers rounds d = (result, d')) :
    Ranges d' ∧ ∀ img, result = some img → img.isExternalBuffer = false := by
  induction rounds generalizing d with
  | zero => exact h.directAllocate surface (answers 0) halloc
  | succ rounds ih =>
      unfold NVDriver.directAllocateWithPruning at halloc
      cases htried : d.directAllocateBackingImage surface (answers (rounds + 1)) with
      | mk tried d1 =>
        obtain ⟨hranges, howned⟩ := h.directAllocate surface _ htried
        rw [htried] at halloc
        cases tried with
        | some img =>
            cases halloc
            exact ⟨hranges, howned⟩
        | none =>
            simp only at halloc
            split at halloc
            · rename_i d2 hprune
              exact ih (hranges.steady (Steady.pruneOldest hprune)) halloc
            · cases halloc
              exact ⟨hranges, nofun⟩

/-- Where the array of the images cannot grow, the image is taken off its surface again. -/
theorem takenOff (h : Ranges d) (s : SurfaceId) (id : ImageId) :
    Ranges ((d.clearBackingImage s).modifyImage id fun img => { img with surface := none }) :=
  (h.steady (Steady.clearBackingImage d s)).steady
    (Steady.modifyImage _ id fun _ => ⟨_, _, _, _, rfl⟩)

theorem directRealise (h : Ranges d) (s : SurfaceId) (answers : Nat → NVDriver.GpuAnswer)
    (added : Bool) : Ranges (d.directRealiseSurface s answers added).2 := by
  unfold NVDriver.directRealiseSurface
  split
  · exact h
  · rename_i surface _
    split
    · exact h
    · cases halloc : NVDriver.directAllocateWithPruning surface answers d.detached.length d with
      | mk result d1 =>
        obtain ⟨hranges, howned⟩ := directAllocateWithPruning surface answers h halloc
        cases result with
        | none => exact hranges
        | some img =>
            have hattached := hranges.attachNew (howned img rfl) s
            simp only
            split
            · exact hattached.steady (Steady.of_eq rfl rfl)
            · exact (hattached.takenOff s _).steady (Steady.destroyBackingImage _ _)

/-- An image of the cache that the EGL backend reuses has the size of the surface. -/
theorem findFree (h : Ranges d) (hsurface : d.surfaces.get s = some surface)
    (hfind : d.findFreeBackingImage s surface = some d') : Ranges d' := by
  unfold NVDriver.findFreeBackingImage at hfind
  split at hfind
  · cases hfind
  · rename_i id hfree
    split at hfind
    · cases hfind
    · rename_i img hget
      have hsuits := List.find?_some hfree
      rw [hget] at hsuits
      simp only [Option.any_some, Bool.and_eq_true, decide_eq_true_eq] at hsuits
      obtain ⟨⟨⟨⟨-, hwidth⟩, hheight⟩, -⟩, -⟩ := hsuits
      simp only at hfind
      generalize hcounted : ({ d with
        detachedBackingImageBytes :=
          d.detachedBackingImageBytes - NVDriver.eglBackingImageMemorySize img
        detachedBackingImageCount := d.detachedBackingImageCount - 1 } : NVDriver) = d1 at hfind
      have hsteady : Steady d d1 := by
        rw [← hcounted]
        exact Steady.of_eq rfl rfl
      have hget' : d1.heap.get id = some img := by
        rw [← hcounted]
        exact hget
      have hsurface' : d1.surfaces.get s = some surface := by
        rw [← hcounted]
        exact hsurface
      have htaken := (h.steady hsteady).steady (Steady.modifyImage d1 id
        (f := fun img => { img with surface := some s, detachedSerial := 0 })
        fun _ => ⟨_, _, _, _, rfl⟩)
      have hgetTaken : (d1.modifyImage id fun img =>
          { img with surface := some s, detachedSerial := 0 }).heap.get id =
          some { img with surface := some s, detachedSerial := 0 } := by
        rw [get_modifyImage, if_pos rfl, hget']
        rfl
      cases hfind
      refine (htaken.attach (s := s) hgetTaken fun _ x hx => ?_).steady (Steady.of_eq rfl rfl)
      rw [modifyImage_surfaces, hsurface'] at hx
      cases hx
      exact ⟨hwidth, hheight⟩

theorem eglAllocate (h : Ranges d) (surface : NVSurface) (answer : Option NVDriver.EglExport)
    {result : Option BackingImage}
    (halloc : d.eglAllocateBackingImage surface answer = (result, d')) :
    Ranges d' ∧ ∀ img, result = some img → img.isExternalBuffer = false := by
  rcases eglAllocate_allocated halloc with ⟨rfl, rfl⟩ | ⟨img, k, rfl, rfl, hallocated⟩
  · exact ⟨h, nofun⟩
  · refine ⟨h.steady (Steady.of_eq rfl rfl), ?_⟩
    rintro _ ⟨⟩
    exact hallocated.unused.owned

theorem eglAllocateWithWorkaround (h : Ranges d) (surface : NVSurface)
    (answers : Nat → Option NVDriver.EglExport) {result : Option BackingImage}
    (halloc : d.eglAllocateWithWorkaround surface answers = (result, d')) :
    Ranges d' ∧ ∀ img, result = some img → img.isExternalBuffer = false := by
  unfold NVDriver.eglAllocateWithWorkaround at halloc
  cases htried : d.eglAllocateBackingImage surface (answers 0) with
  | mk tried d1 =>
    obtain ⟨hranges, howned⟩ := h.eglAllocate surface _ htried
    rw [htried] at halloc
    cases tried with
    | none =>
        cases halloc
        exact ⟨hranges, nofun⟩
    | some img =>
        simp only at halloc
        split at halloc
        · have hclosed : Ranges { d1 with
              kernel := d1.kernel.closeFds img
              useCorrectNV12Format := !d1.useCorrectNV12Format } :=
            hranges.steady (Steady.of_eq rfl rfl)
          exact hclosed.eglAllocate surface _ halloc
        · cases halloc
          exact ⟨hranges, howned⟩

theorem eglRealise (h : Ranges d) (s : SurfaceId) (answers : Nat → Option NVDriver.EglExport)
    (added : Bool) : Ranges (d.eglRealiseSurface s answers added).2 := by
  unfold NVDriver.eglRealiseSurface
  split
  · exact h
  · rename_i surface hsurface
    split
    · exact h
    · split
      · rename_i d1 hfind
        exact h.findFree hsurface hfind
      · cases halloc : d.eglAllocateWithWorkaround surface answers with
        | mk result d1 =>
          obtain ⟨hranges, howned⟩ := h.eglAllocateWithWorkaround surface answers halloc
          cases result with
          | none => exact hranges
          | some img =>
              have hattached := hranges.attachNew (howned img rfl) s
              simp only
              split
              · exact hattached.steady (Steady.of_eq rfl rfl)
              · exact (hattached.takenOff s _).steady (Steady.eglDestroyBackingImage _ _)

theorem realiseSurface (h : Ranges d) (s : SurfaceId) (answer : NVDriver.RealiseAnswer) :
    Ranges (d.realiseSurface s answer).2 := by
  unfold NVDriver.realiseSurface
  split
  · exact h.directRealise s _ _
  · exact h.eglRealise s _ _

end Ranges

end Surface
end NvidiaVaapi
