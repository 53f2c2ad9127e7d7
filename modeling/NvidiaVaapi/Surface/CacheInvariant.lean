import NvidiaVaapi.Surface.Borrowing

/-!
# The invariant of surfaces and their images

A surface with a backing image leads to a live image that leads back to it, and the two fit
together in a way that nothing changes afterwards; while the GPU works, an image leads to a
surface only if that leads back, and the array `images` has all images that are not imported.
What fits, and which events are allowed, is a parameter: the steps that attach an image to a
surface have to establish it, no other step has to care.
-/

namespace NvidiaVaapi
namespace Surface

/-- Two images differ at most in who uses them. -/
def SameLayout (img img' : BackingImage) : Prop :=
  ∃ surface borrowed count serial, img' = { img with
    surface := surface, borrowedBackingImage := borrowed
    borrowCount := count, detachedSerial := serial }

/-- The descriptors of an image lead in one table where they lead in another one. -/
def KeepsFiles (k k' : Kernel) (img : BackingImage) : Prop :=
  ∀ i file, 0 ≤ img.fds i → k.fileAt (img.fds i) = some file →
    k'.fileAt (img.fds i) = some file

/-- What is watched along a run: the backend, a relation between a surface and its image, and
the events that may happen to images. -/
structure Watch where
  backend : Backend
  Fits : Kernel → NVSurface → BackingImage → Prop
  Allowed : CacheEvent → Prop

/-- The relation depends on the layout of the image and the files behind its descriptors
only, and attaching an image establishes it; what happens to an image that is not lent is
allowed. -/
structure Fitting (w : Watch) : Prop where
  frame : ∀ {k k' surface img img' backing}, w.Fits k surface img → SameLayout img img' →
    KeepsFiles k k' img → w.Fits k' { surface with backingImage := backing } img'
  allocated : ∀ {d : NVDriver} {surface img k}, w.backend = .direct →
    directAllocateBackingImageImpl d surface = some (img, k) → w.Fits k surface img
  egl : ∀ {k surface img}, w.backend = .egl → img.isExternalBuffer = false → w.Fits k surface img
  imported : ∀ {d d' : NVDriver} {imported surface answer id img},
    d.createImportedBackingImageImpl imported surface.width surface.height answer =
      (some id, d') →
      imported.numObjects ≤ 4 → imported.numPlanes ≤ 4 → Borrowing none d →
      d'.heap.get id = some img → w.Fits d'.kernel surface img
  quiet : ∀ {event : CacheEvent}, event.borrowCount = 0 → w.Allowed event

/-- Surfaces lead to live images that lead back and fit.  One surface may be loose while its
image is detached. -/
def Tied (Fits : Kernel → NVSurface → BackingImage → Prop) (loose : Option SurfaceId)
    (d : NVDriver) : Prop :=
  ∀ s surface id, loose ≠ some s → d.surfaces.get s = some surface →
    surface.backingImage = some id →
    ∃ img, d.heap.get id = some img ∧ img.surface = some s ∧ Fits d.kernel surface img

/-- The array has every image that is not imported, and images lead to surfaces that lead
back.  One image may be spare, on its way into the array or out of memory. -/
structure Listed (spare : Option ImageId) (d : NVDriver) : Prop where
  listed : ∀ id img, spare ≠ some id → d.heap.get id = some img →
    img.isExternalBuffer = false → id ∈ d.images
  back : ∀ id img s, spare ≠ some id → d.heap.get id = some img → img.surface = some s →
    ∃ surface, d.surfaces.get s = some surface ∧ surface.backingImage = some id

/-- The invariant. -/
structure CacheInv (w : Watch) (loose : Option SurfaceId) (spare : Option ImageId)
    (d : NVDriver) : Prop where
  backend : d.backend = w.backend
  borrowing : Borrowing none d
  tied : Tied w.Fits loose d
  listed : d.cudaWorkUnsafe = false → Listed spare d
  log : ∀ event ∈ d.log, w.Allowed event

/-! ## What the writes leave -/

section Writes

variable (d : NVDriver) (id : ImageId) (f : BackingImage → BackingImage) (s : SurfaceId)
  (g : NVSurface → NVSurface) (img : BackingImage)

@[simp] theorem modifyImage_backend : (d.modifyImage id f).backend = d.backend := by
  unfold NVDriver.modifyImage
  split <;> rfl

@[simp] theorem modifyImage_surfaces : (d.modifyImage id f).surfaces = d.surfaces := by
  unfold NVDriver.modifyImage
  split <;> rfl

@[simp] theorem modifyImage_images : (d.modifyImage id f).images = d.images := by
  unfold NVDriver.modifyImage
  split <;> rfl

@[simp] theorem modifyImage_kernel : (d.modifyImage id f).kernel = d.kernel := by
  unfold NVDriver.modifyImage
  split <;> rfl

@[simp] theorem modifyImage_lost :
    (d.modifyImage id f).cudaWorkUnsafe = d.cudaWorkUnsafe := by
  unfold NVDriver.modifyImage
  split <;> rfl

@[simp] theorem modifyImage_log : (d.modifyImage id f).log = d.log := by
  unfold NVDriver.modifyImage
  split <;> rfl

@[simp] theorem modifySurface_images : (d.modifySurface s g).images = d.images := by
  unfold NVDriver.modifySurface
  split <;> rfl

@[simp] theorem modifySurface_heap : (d.modifySurface s g).heap = d.heap := by
  unfold NVDriver.modifySurface
  split <;> rfl

@[simp] theorem modifySurface_lost :
    (d.modifySurface s g).cudaWorkUnsafe = d.cudaWorkUnsafe := by
  unfold NVDriver.modifySurface
  split <;> rfl

@[simp] theorem forgetSurface_heap : (d.forgetSurface img).heap = d.heap := by
  unfold NVDriver.forgetSurface
  split
  · exact modifySurface_heap d _ _
  · rfl

@[simp] theorem forgetSurface_images : (d.forgetSurface img).images = d.images := by
  unfold NVDriver.forgetSurface
  split
  · exact modifySurface_images d _ _
  · rfl

@[simp] theorem release_images : (d.nvReleaseBackingImageBorrow id).images = d.images := by
  unfold NVDriver.nvReleaseBackingImageBorrow
  split
  · split
    · rw [modifyImage_images, modifyImage_images]
    · rfl
  · rfl

@[simp] theorem release_surfaces : (d.nvReleaseBackingImageBorrow id).surfaces = d.surfaces := by
  unfold NVDriver.nvReleaseBackingImageBorrow
  split
  · split
    · rw [modifyImage_surfaces, modifyImage_surfaces]
    · rfl
  · rfl

@[simp] theorem freeImage_surfaces : (d.freeImage id).surfaces = d.surfaces := by
  unfold NVDriver.freeImage
  split <;> rfl

@[simp] theorem freeImage_images : (d.freeImage id).images = d.images := by
  unfold NVDriver.freeImage
  split <;> rfl

end Writes

/-- What a write does to the image it is for, and to no other one. -/
theorem get_modifyImage {d : NVDriver} {id other : ImageId} {f : BackingImage → BackingImage} :
    (d.modifyImage id f).heap.get other =
      if other = id then (d.heap.get id).map f else d.heap.get other := by
  unfold NVDriver.modifyImage
  cases hget : d.heap.get id with
  | none =>
      by_cases heq : other = id
      · subst heq
        rw [if_pos rfl]
        exact hget
      · rw [if_neg heq]
  | some img =>
      by_cases heq : other = id
      · subst heq
        rw [if_pos rfl]
        exact SlotTable.get_put (SlotTable.lt_of_get hget)
      · rw [if_neg heq]
        exact SlotTable.get_put_of_ne heq

/-- What a write does to the surface it is for, and to no other one. -/
theorem get_modifySurface {d : NVDriver} {s other : SurfaceId} {g : NVSurface → NVSurface} :
    (d.modifySurface s g).surfaces.get other =
      if other = s then (d.surfaces.get s).map g else d.surfaces.get other := by
  unfold NVDriver.modifySurface
  cases hget : d.surfaces.get s with
  | none =>
      by_cases heq : other = s
      · subst heq
        rw [if_pos rfl]
        exact hget
      · rw [if_neg heq]
  | some surface =>
      by_cases heq : other = s
      · subst heq
        rw [if_pos rfl]
        exact SlotTable.get_put (SlotTable.lt_of_get hget)
      · rw [if_neg heq]
        exact SlotTable.get_put_of_ne heq

/-- A surface that is cleared has no image. -/
theorem backingImage_of_clear {d : NVDriver} {s : SurfaceId} {surface : NVSurface}
    (hget : (d.clearBackingImage s).surfaces.get s = some surface) :
    surface.backingImage = none := by
  unfold NVDriver.clearBackingImage at hget
  rw [get_modifySurface, if_pos rfl] at hget
  obtain ⟨x, -, rfl⟩ := Option.map_eq_some_iff.mp hget
  rfl

theorem surfaceImage_eq {d : NVDriver} {s : SurfaceId} {surface : NVSurface}
    {img : BackingImage} : d.surfaceImage s = some (surface, img) ↔
      d.surfaces.get s = some surface ∧
        ∃ id, surface.backingImage = some id ∧ d.heap.get id = some img := by
  unfold NVDriver.surfaceImage
  constructor
  · intro hpair
    obtain ⟨_, hsurface, hpair⟩ := Option.bind_eq_some_iff.mp hpair
    obtain ⟨id, hbacking, hpair⟩ := Option.bind_eq_some_iff.mp hpair
    obtain ⟨_, hget, hpair⟩ := Option.bind_eq_some_iff.mp hpair
    cases hpair
    exact ⟨hsurface, id, hbacking, hget⟩
  · rintro ⟨hsurface, id, hbacking, hget⟩
    rw [hsurface, Option.bind_eq_bind, Option.bind_some, hbacking, Option.bind_eq_bind,
      Option.bind_some, hget]
    rfl

theorem SameLayout.refl (img : BackingImage) : SameLayout img img :=
  ⟨img.surface, img.borrowedBackingImage, img.borrowCount, img.detachedSerial, rfl⟩

theorem SameLayout.trans {a b c : BackingImage} (h : SameLayout a b) (h' : SameLayout b c) :
    SameLayout a c := by
  obtain ⟨_, _, _, _, rfl⟩ := h
  obtain ⟨surface, borrowed, count, serial, rfl⟩ := h'
  exact ⟨surface, borrowed, count, serial, rfl⟩

theorem KeepsFiles.refl (k : Kernel) (img : BackingImage) : KeepsFiles k k img :=
  fun _ _ _ hfile => hfile

/-! ## Surfaces lead to images -/

namespace Tied

variable {w : Watch} {loose : Option SurfaceId} {d : NVDriver} {id : ImageId}

/-- A write to an image that leaves its layout and its surface. -/
theorem modifyImage (hfit : Fitting w) (h : Tied w.Fits loose d)
    {f : BackingImage → BackingImage} (hlayout : ∀ img, SameLayout img (f img))
    (hsurface : ∀ img, (f img).surface = img.surface) :
    Tied w.Fits loose (d.modifyImage id f) := by
  intro s surface other hloose hsurfaceGet hbacking
  rw [modifyImage_surfaces] at hsurfaceGet
  obtain ⟨x, hx, hback, hfits⟩ := h s surface other hloose hsurfaceGet hbacking
  rw [get_modifyImage, modifyImage_kernel]
  split
  · rename_i heq
    subst heq
    exact ⟨f x, by rw [hx]; rfl, (hsurface x).trans hback,
      hfit.frame hfits (hlayout x) (KeepsFiles.refl _ _)⟩
  · exact ⟨x, hx, hback, hfits⟩

/-- An image that is freed where no surface leads to it. -/
theorem freeImage (hfit : Fitting w) (h : Tied w.Fits loose d) (hborrowing : Borrowing none d)
    (hnone : ∀ s surface, d.surfaces.get s = some surface → surface.backingImage ≠ some id) :
    Tied w.Fits loose (d.freeImage id) := by
  unfold NVDriver.freeImage
  split
  · rename_i img hget
    intro s surface other hloose hsurfaceGet hbacking
    obtain ⟨x, hx, hback, hfits⟩ := h s surface other hloose hsurfaceGet hbacking
    have hne : other ≠ id := fun heq => hnone s surface hsurfaceGet (heq ▸ hbacking)
    refine ⟨x, (SlotTable.get_clear_of_ne hne).trans hx, hback,
      hfit.frame hfits (SameLayout.refl x) ?_⟩
    intro i file hnonneg hfile
    change (d.kernel.closeFds img).fileAt (x.fds i) = some file
    rw [Kernel.fileAt_closeFds, hfile]
    intro j _ heq
    exact hne (hborrowing.distinct other id x img i j hx hget hnonneg heq.symm).1
  · exact h

/-- Surfaces lead to the images that there were when a new image comes. -/
theorem push (hfit : Fitting w) (h : Tied w.Fits loose d) {k : Kernel} {img : BackingImage}
    (hopens : Opens d.kernel k) :
    Tied w.Fits loose { d with kernel := k, heap := d.heap.push img } := by
  intro s surface id hloose hsurface hbacking
  obtain ⟨x, hget, hback, hfits⟩ := h s surface id hloose hsurface hbacking
  refine ⟨x, SlotTable.get_push_of_get hget, hback,
    hfit.frame hfits (SameLayout.refl x) ?_⟩
  exact fun i file _ hfile => hopens.keeps _ file hfile

end Tied

/-! ## Images lead to surfaces -/

namespace Listed

variable {spare : Option ImageId} {d d' : NVDriver} {id : ImageId} {s : SurfaceId}
  {img : BackingImage}

theorem congr (h : Listed spare d) (hheap : d'.heap = d.heap) (hsurfaces : d'.surfaces = d.surfaces)
    (himages : d'.images = d.images) : Listed spare d' := by
  constructor
  · rw [hheap, himages]
    exact h.listed
  · rw [hheap, hsurfaces]
    exact h.back

/-- An image may be spare that need not be. -/
theorem setSpare (h : Listed none d) (spare : Option ImageId) : Listed spare d :=
  ⟨fun id img _ => h.listed id img nofun, fun id img s _ => h.back id img s nofun⟩

/-- A write to an image that leaves it where it is, or takes it off its surface. -/
theorem modifyImage (h : Listed spare d) {f : BackingImage → BackingImage}
    (hexternal : ∀ img, (f img).isExternalBuffer = img.isExternalBuffer)
    (hsurface : ∀ img, (f img).surface = img.surface ∨ (f img).surface = none) :
    Listed spare (d.modifyImage id f) := by
  have hother : ∀ {other : ImageId} {x : BackingImage},
      (d.modifyImage id f).heap.get other = some x →
      ∃ y, d.heap.get other = some y ∧ x.isExternalBuffer = y.isExternalBuffer ∧
        (x.surface = y.surface ∨ x.surface = none) := by
    intro other x hx
    rw [get_modifyImage] at hx
    split at hx
    · rename_i heq
      subst heq
      obtain ⟨y, hy, rfl⟩ := Option.map_eq_some_iff.mp hx
      exact ⟨y, hy, hexternal y, hsurface y⟩
    · exact ⟨x, hx, rfl, .inl rfl⟩
  constructor
  · intro other x hspare hx howned
    obtain ⟨y, hy, hsame, -⟩ := hother hx
    rw [modifyImage_images]
    exact h.listed other y hspare hy (hsame ▸ howned)
  · intro other x s hspare hx hback
    obtain ⟨y, hy, -, hsame | hnone⟩ := hother hx
    · rw [modifyImage_surfaces]
      exact h.back other y s hspare hy (hsame ▸ hback)
    · rw [hnone] at hback
      cases hback

/-- A write to the image that is spare. -/
theorem modifySpare (h : Listed (some id) d) (f : BackingImage → BackingImage) :
    Listed (some id) (d.modifyImage id f) := by
  have hother : ∀ {other : ImageId} {x : BackingImage}, some id ≠ some other →
      (d.modifyImage id f).heap.get other = some x → d.heap.get other = some x := by
    intro other x hne hx
    rwa [get_modifyImage, if_neg fun heq => hne (congrArg some heq.symm)] at hx
  constructor
  · intro other x hspare hx howned
    rw [modifyImage_images]
    exact h.listed other x hspare (hother hspare hx) howned
  · intro other x s hspare hx
    rw [modifyImage_surfaces]
    exact h.back other x s hspare (hother hspare hx)

/-- No image leads to a surface that has none. -/
theorem surface_ne (h : Listed spare d)
    (hnone : ∀ surface, d.surfaces.get s = some surface → surface.backingImage = none) :
    ∀ id img, spare ≠ some id → d.heap.get id = some img → img.surface ≠ some s := by
  intro id img hspare hget hback
  obtain ⟨surface, hsurface, hbacking⟩ := h.back id img s hspare hget hback
  rw [hnone surface hsurface] at hbacking
  cases hbacking

/-- A surface that no image leads to may lose its image, or leave. -/
theorem setSurfaces (h : Listed spare d)
    (hfree : ∀ id img, spare ≠ some id → d.heap.get id = some img → img.surface ≠ some s)
    (surfaces : SlotTable NVSurface)
    (hother : ∀ other, other ≠ s → surfaces.get other = d.surfaces.get other) :
    Listed spare { d with surfaces := surfaces } := by
  refine ⟨h.listed, ?_⟩
  intro id img s' hspare hget hback
  have hne : s' ≠ s := by
    rintro rfl
    exact hfree id img hspare hget hback
  rw [hother s' hne]
  exact h.back id img s' hspare hget hback

theorem clearBackingImage (h : Listed spare d)
    (hfree : ∀ id img, spare ≠ some id → d.heap.get id = some img → img.surface ≠ some s) :
    Listed spare (d.clearBackingImage s) := by
  have hset := h.setSurfaces hfree (d.clearBackingImage s).surfaces ?_
  · refine hset.congr ?_ rfl ?_
    · exact modifySurface_heap d s _
    · exact modifySurface_images d s _
  · intro other hne
    unfold NVDriver.clearBackingImage
    rw [get_modifySurface, if_neg hne]

/-- The image that is freed is spare no more. -/
theorem freeImage (h : Listed spare d) (hspare : spare = none ∨ spare = some id) :
    Listed none (d.freeImage id) := by
  have hother : ∀ {other : ImageId} {x : BackingImage},
      (d.freeImage id).heap.get other = some x →
      spare ≠ some other ∧ d.heap.get other = some x := by
    intro other x hx
    have hne : other ≠ id := by
      rintro rfl
      unfold NVDriver.freeImage at hx
      split at hx
      · change (d.heap.clear other).get other = some x at hx
        rw [SlotTable.get_clear] at hx
        cases hx
      · rename_i hnone
        rw [hnone] at hx
        cases hx
    refine ⟨?_, ?_⟩
    · rcases hspare with rfl | rfl
      · nofun
      · exact fun heq => hne (Option.some.inj heq).symm
    · unfold NVDriver.freeImage at hx
      split at hx
      · change (d.heap.clear id).get other = some x at hx
        rwa [SlotTable.get_clear_of_ne hne] at hx
      · exact hx
  constructor
  · intro other x _ hx howned
    rw [freeImage_images]
    exact h.listed other x (hother hx).1 (hother hx).2 howned
  · intro other x s _ hx
    rw [freeImage_surfaces]
    exact h.back other x s (hother hx).1 (hother hx).2

/-- A new image is spare until it is in the array, unless it is imported and has no surface
yet. -/
theorem push (h : Listed none d) (k : Kernel)
    (hspare : spare = some d.heap.length ∨
      spare = none ∧ img.isExternalBuffer = true ∧ img.surface = none) :
    Listed spare { d with kernel := k, heap := d.heap.push img } := by
  have hcases : ∀ {other : ImageId} {x : BackingImage}, spare ≠ some other →
      (d.heap.push img).get other = some x →
      d.heap.get other = some x ∨ x.isExternalBuffer = true ∧ x.surface = none := by
    intro other x hne hx
    by_cases hnew : other = d.heap.length
    · subst hnew
      rw [SlotTable.get_push_length] at hx
      cases hx
      rcases hspare with rfl | ⟨-, huse⟩
      · exact absurd rfl hne
      · exact .inr huse
    · rw [SlotTable.get_push_of_ne hnew] at hx
      exact .inl hx
  constructor
  · intro other x hne hx howned
    rcases hcases hne hx with hold | ⟨hexternal, -⟩
    · exact h.listed other x nofun hold howned
    · rw [hexternal] at howned
      cases howned
  · intro other x s hne hx hback
    rcases hcases hne hx with hold | ⟨-, hnone⟩
    · exact h.back other x s nofun hold hback
    · rw [hnone] at hback
      cases hback

/-- A surface without an image is led to one. -/
theorem point (h : Listed spare d)
    (hnone : ∀ surface, d.surfaces.get s = some surface → surface.backingImage = none) :
    Listed spare (d.modifySurface s fun surface => { surface with backingImage := some id }) := by
  have hset := h.setSurfaces (h.surface_ne hnone)
    (d.modifySurface s fun surface => { surface with backingImage := some id }).surfaces ?_
  · exact hset.congr (modifySurface_heap d s _) rfl (modifySurface_images d s _)
  · intro other hne
    rw [get_modifySurface, if_neg hne]

/-- The spare image is in the array and leads to a surface that leads back. -/
theorem join (h : Listed (some id) d) (hget : d.heap.get id = some img)
    (hback : ∀ s, img.surface = some s →
      ∃ surface, d.surfaces.get s = some surface ∧ surface.backingImage = some id) :
    Listed none { d with images := d.images ++ [id] } := by
  constructor
  · intro other x _ hx howned
    by_cases hne : other = id
    · subst hne
      exact List.mem_append_right _ (List.mem_singleton_self _)
    · exact List.mem_append_left _
        (h.listed other x (fun heq => hne (Option.some.inj heq).symm) hx howned)
  · intro other x s _ hx hxback
    by_cases hne : other = id
    · subst hne
      rw [show d.heap.get other = some x from hx] at hget
      cases hget
      exact hback s hxback
    · exact h.back other x s (fun heq => hne (Option.some.inj heq).symm) hx hxback

/-- The spare image was in the array all the time, and leads to a surface that leads back. -/
theorem settle (h : Listed (some id) d) (hget : d.heap.get id = some img) (hmem : id ∈ d.images)
    (hback : ∀ s, img.surface = some s →
      ∃ surface, d.surfaces.get s = some surface ∧ surface.backingImage = some id) :
    Listed none d := by
  constructor
  · intro other x _ hx howned
    by_cases hne : other = id
    · rw [hne]
      exact hmem
    · exact h.listed other x (fun heq => hne (Option.some.inj heq).symm) hx howned
  · intro other x s _ hx hxback
    by_cases hne : other = id
    · subst hne
      rw [hx] at hget
      cases hget
      exact hback s hxback
    · exact h.back other x s (fun heq => hne (Option.some.inj heq).symm) hx hxback

/-- The image that leaves the array is spare. -/
theorem remove (h : Listed none d) : Listed (some id) { d with images := d.images.erase id } := by
  refine ⟨fun other x hne hx howned => ?_, fun other x s _ => h.back other x s nofun⟩
  exact (List.mem_erase_of_ne fun heq => hne (congrArg some heq.symm)).mpr
    (h.listed other x nofun hx howned)

end Listed

end Surface
end NvidiaVaapi
