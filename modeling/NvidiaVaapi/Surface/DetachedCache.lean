import NvidiaVaapi.Lib.LinkedList
import NvidiaVaapi.Surface.SurfaceRuns

/-!
# The cache of detached images

The direct backend keeps the images that have lost their surfaces in a list, the oldest first,
and counts them and their bytes.  Images come to the list where they are taken off a surface and
leave it where they are pruned; nothing else touches it.
-/

namespace NvidiaVaapi
namespace Surface

namespace NVDriver

variable (d : NVDriver)

/-- `detachedSerial` of an image. -/
def serialOf (id : ImageId) : Nat :=
  ((d.heap.get id).map BackingImage.detachedSerial).getD 0

/-- `backingImageMemorySize` of an image. -/
def memorySizeOf (id : ImageId) : Nat :=
  ((d.heap.get id).map backingImageMemorySize).getD 0

/-- `detachedBackingImageHead` and `detachedBackingImageTail`, and `detachedPrev` and
`detachedNext` of the images. -/
def detachedLinks : Links ImageId :=
  .ofList d.detached

end NVDriver

/-- The list is well linked, ordered by the serials and exact, and its count and its bytes are
those of its members.  The array `images` has all images of the driver while the GPU works. -/
structure DetachedCache (d : NVDriver) : Prop where
  nodup : d.detached.Nodup
  linked : d.detachedLinks.Joins d.detached
  ordered : d.detached.Pairwise fun id later => d.serialOf id < d.serialOf later
  exact : ∀ id, id ∈ d.detached ↔ id ∈ d.images ∧
    ∃ img, d.heap.get id = some img ∧ img.isExternalBuffer = false ∧ img.surface = none
  listed : d.cudaWorkUnsafe = false → ∀ id img, d.heap.get id = some img →
    img.isExternalBuffer = false → id ∈ d.images
  count : d.detachedBackingImageCount = d.detached.length
  bytes : d.detachedBackingImageBytes = (d.detached.map d.memorySizeOf).sum

/-! ## The list and its pointers -/

/-- `linkDetachedBackingImageLocked` moves the pointers as it does the list. -/
theorem linkDetached_links (d : NVDriver) (id : ImageId) (img : BackingImage) :
    (d.linkDetachedBackingImage id img).detachedLinks = d.detachedLinks.append id :=
  (Links.append_ofList d.detached id).symm

/-- `unlinkDetachedBackingImageLocked` does, too. -/
theorem unlinkDetached_links {d : NVDriver} {id : ImageId} (hnodup : d.detached.Nodup)
    (hmem : id ∈ d.detached) (img : BackingImage) :
    (d.unlinkDetachedBackingImage id img).detachedLinks = d.detachedLinks.unlink id := by
  have hlist : (d.unlinkDetachedBackingImage id img).detached = d.detached.erase id := by
    unfold NVDriver.unlinkDetachedBackingImage NVDriver.modifyImage
    split <;> rfl
  rw [NVDriver.detachedLinks, hlist]
  exact (Links.unlink_ofList hnodup hmem).symm

/-- The search of `pruneOldestDetachedBackingImageLocked` from the head on. -/
theorem prunable_from_head {d : NVDriver} (hcache : DetachedCache d) :
    d.detachedLinks.firstFrom d.backingImageCanPrune d.detached.length d.detachedLinks.head =
      d.detached.find? d.backingImageCanPrune :=
  Links.firstFrom_head hcache.linked hcache.nodup _

/-! ## What leaves the cache alone -/

/-- What the cache depends on in an image. -/
def cacheKey (img : BackingImage) : Option SurfaceId × Nat × Nat :=
  (img.surface, img.detachedSerial, NVDriver.backingImageMemorySize img)

/-- The cache stays as it is, and no surface gets an image of the driver. -/
structure KeepsCache (d d' : NVDriver) : Prop where
  images : d'.images = d.images
  detached : d'.detached = d.detached
  serial : d'.detachedBackingImageSerial = d.detachedBackingImageSerial
  count : d'.detachedBackingImageCount = d.detachedBackingImageCount
  bytes : d'.detachedBackingImageBytes = d.detachedBackingImageBytes
  overLimit : d'.detachedBackingImagesOverLimit = d.detachedBackingImagesOverLimit
  entries : ∀ id ∈ d.images, (d'.heap.get id).map cacheKey = (d.heap.get id).map cacheKey
  owned : ∀ s surface' id img', d'.surfaces.get s = some surface' →
    surface'.backingImage = some id → d'.heap.get id = some img' →
    img'.isExternalBuffer = false →
    ∃ surface img, d.surfaces.get s = some surface ∧ surface.backingImage = some id ∧
      d.heap.get id = some img ∧ img.isExternalBuffer = false

namespace KeepsCache

variable {d d' d'' : NVDriver} {id : ImageId} {s : SurfaceId}

theorem of_eq (hheap : d'.heap = d.heap) (hsurfaces : d'.surfaces = d.surfaces)
    (himages : d'.images = d.images) (hdetached : d'.detached = d.detached)
    (hserial : d'.detachedBackingImageSerial = d.detachedBackingImageSerial)
    (hcount : d'.detachedBackingImageCount = d.detachedBackingImageCount)
    (hbytes : d'.detachedBackingImageBytes = d.detachedBackingImageBytes)
    (hlimits : d'.detachedBackingImagesOverLimit = d.detachedBackingImagesOverLimit) :
    KeepsCache d d' := by
  refine ⟨himages, hdetached, hserial, hcount, hbytes, hlimits, fun id _ => by rw [hheap], ?_⟩
  intro s surface id img hsurface hbacking hget howned
  rw [hsurfaces] at hsurface
  rw [hheap] at hget
  exact ⟨surface, img, hsurface, hbacking, hget, howned⟩

theorem refl (d : NVDriver) : KeepsCache d d :=
  of_eq rfl rfl rfl rfl rfl rfl rfl rfl

theorem trans (h : KeepsCache d d') (h' : KeepsCache d' d'') : KeepsCache d d'' := by
  refine ⟨h'.images.trans h.images, h'.detached.trans h.detached, h'.serial.trans h.serial,
    h'.count.trans h.count, h'.bytes.trans h.bytes, h'.overLimit.trans h.overLimit,
    fun id hmem => ?_, ?_⟩
  · rw [h'.entries id (by rw [h.images]; exact hmem), h.entries id hmem]
  · intro s surface'' id img'' hsurface hbacking hget howned
    obtain ⟨surface', img', hsurface', hbacking', hget', howned'⟩ :=
      h'.owned s surface'' id img'' hsurface hbacking hget howned
    exact h.owned s surface' id img' hsurface' hbacking' hget' howned'

/-- A write to an image that the cache does not see. -/
theorem modifyImage (d : NVDriver) (id : ImageId) {f : BackingImage → BackingImage}
    (hkey : id ∈ d.images → ∀ img, cacheKey (f img) = cacheKey img)
    (hexternal : ∀ img, (f img).isExternalBuffer = img.isExternalBuffer) :
    KeepsCache d (d.modifyImage id f) := by
  have hfields : (d.modifyImage id f).detached = d.detached ∧
      (d.modifyImage id f).detachedBackingImageSerial = d.detachedBackingImageSerial ∧
      (d.modifyImage id f).detachedBackingImageCount = d.detachedBackingImageCount ∧
      (d.modifyImage id f).detachedBackingImageBytes = d.detachedBackingImageBytes ∧
      (d.modifyImage id f).detachedBackingImagesOverLimit =
        d.detachedBackingImagesOverLimit := by
    unfold NVDriver.modifyImage
    split <;> exact ⟨rfl, rfl, rfl, rfl, rfl⟩
  obtain ⟨hdetached, hserial, hcount, hbytes, hlimits⟩ := hfields
  refine ⟨modifyImage_images d id f, hdetached, hserial, hcount, hbytes, hlimits,
    fun other hmem => ?_, ?_⟩
  · rw [get_modifyImage]
    split
    · rename_i heq
      subst heq
      rw [Option.map_map]
      congr 1
      funext img
      exact hkey hmem img
    · rfl
  · intro s surface other img hsurface hbacking hget howned
    rw [modifyImage_surfaces] at hsurface
    rw [get_modifyImage] at hget
    split at hget
    · rename_i heq
      subst heq
      obtain ⟨x, hx, rfl⟩ := Option.map_eq_some_iff.mp hget
      exact ⟨surface, x, hsurface, hbacking, hx, (hexternal x).symm.trans howned⟩
    · exact ⟨surface, img, hsurface, hbacking, hget, howned⟩

/-- A surface changes that leads to no image of the driver afterwards. -/
theorem setSurfaces (d : NVDriver) (surfaces : SlotTable NVSurface)
    (hkept : ∀ s surface' id img, surfaces.get s = some surface' →
      surface'.backingImage = some id → d.heap.get id = some img → img.isExternalBuffer = false →
      ∃ surface, d.surfaces.get s = some surface ∧ surface.backingImage = some id) :
    KeepsCache d { d with surfaces := surfaces } := by
  refine ⟨rfl, rfl, rfl, rfl, rfl, rfl, fun _ _ => rfl, ?_⟩
  intro s surface' id img hsurface hbacking hget howned
  obtain ⟨surface, hold, holdBacking⟩ := hkept s surface' id img hsurface hbacking hget howned
  exact ⟨surface, img, hold, holdBacking, hget, howned⟩

theorem clearBackingImage (d : NVDriver) (s : SurfaceId) :
    KeepsCache d (d.clearBackingImage s) := by
  unfold NVDriver.clearBackingImage NVDriver.modifySurface
  split
  · rename_i surface hsurface
    refine setSurfaces d _ fun s' surface' id img hget hbacking _ _ => ?_
    by_cases heq : s' = s
    · subst heq
      rw [SlotTable.get_put (SlotTable.lt_of_get hsurface)] at hget
      cases hget
      cases hbacking
    · rw [SlotTable.get_put_of_ne heq] at hget
      exact ⟨surface', hget, hbacking⟩
  · exact refl d

theorem forgetSurface (d : NVDriver) (img : BackingImage) : KeepsCache d (d.forgetSurface img) := by
  unfold NVDriver.forgetSurface
  split
  · exact clearBackingImage d _
  · exact refl d

/-- A surface that leaves. -/
theorem clearSurface (d : NVDriver) (s : SurfaceId) :
    KeepsCache d { d with surfaces := d.surfaces.clear s } := by
  refine setSurfaces d _ fun s' surface id img hget hbacking _ _ => ?_
  by_cases heq : s' = s
  · subst heq
    rw [SlotTable.get_clear] at hget
    cases hget
  · rw [SlotTable.get_clear_of_ne heq] at hget
    exact ⟨surface, hget, hbacking⟩

/-- A surface that comes without an image. -/
theorem pushSurface (d : NVDriver) {surface : NVSurface} (hnone : surface.backingImage = none) :
    KeepsCache d { d with surfaces := d.surfaces.push surface } := by
  refine setSurfaces d _ fun s' surface' id img hget hbacking _ _ => ?_
  by_cases heq : s' = d.surfaces.length
  · subst heq
    rw [SlotTable.get_push_length] at hget
    cases hget
    rw [hnone] at hbacking
    cases hbacking
  · rw [SlotTable.get_push_of_ne heq] at hget
    exact ⟨surface', hget, hbacking⟩

theorem release (d : NVDriver) (id : ImageId) :
    KeepsCache d (d.nvReleaseBackingImageBorrow id) := by
  unfold NVDriver.nvReleaseBackingImageBorrow
  split
  · split
    · refine KeepsCache.trans ?_ (modifyImage _ id (fun _ _ => rfl) fun _ => rfl)
      exact modifyImage d _ (fun _ _ => rfl) fun _ => rfl
    · exact refl d
  · exact refl d

/-- An image that is freed is none of the array. -/
theorem freeImage (d : NVDriver) (hnot : id ∉ d.images) : KeepsCache d (d.freeImage id) := by
  unfold NVDriver.freeImage
  split
  · refine ⟨rfl, rfl, rfl, rfl, rfl, rfl, fun other hmem => ?_, ?_⟩
    · have hne : other ≠ id := fun heq => hnot (heq ▸ hmem)
      show ((d.heap.clear id).get other).map cacheKey = _
      rw [SlotTable.get_clear_of_ne hne]
    · intro s surface other img hsurface hbacking hget howned
      change (d.heap.clear id).get other = some img at hget
      by_cases heq : other = id
      · subst heq
        rw [SlotTable.get_clear] at hget
        cases hget
      · rw [SlotTable.get_clear_of_ne heq] at hget
        exact ⟨surface, img, hsurface, hbacking, hget, howned⟩
  · exact refl d

theorem destroyImported (d : NVDriver) (hnot : id ∉ d.images) :
    KeepsCache d (d.nvDestroyImportedBackingImage id) := by
  unfold NVDriver.nvDestroyImportedBackingImage
  split
  · exact refl d
  · split
    · rename_i img _
      have hreleased := (forgetSurface d img).trans (release _ id)
      refine hreleased.trans (freeImage _ ?_)
      rw [hreleased.images]
      exact hnot
    · exact refl d

/-- `destroyBackingImage` of an image that is none of the array. -/
theorem destroyBackingImage (d : NVDriver) (hnot : id ∉ d.images) :
    KeepsCache d (d.destroyBackingImage id) := by
  unfold NVDriver.destroyBackingImage
  split
  · exact refl d
  · split
    · exact refl d
    · rename_i img _
      split
      · exact destroyImported d hnot
      · have hreleased := (forgetSurface d img).trans (release _ id)
        refine hreleased.trans (freeImage _ ?_)
        rw [hreleased.images]
        exact hnot

/-- A new image, to which no surface leads. -/
theorem push (d : NVDriver) (k : Kernel) (img : BackingImage)
    (hlive : ∀ id ∈ d.images, (d.heap.get id).isSome = true)
    (hnone : ∀ s surface, d.surfaces.get s = some surface →
      surface.backingImage ≠ some d.heap.length) :
    KeepsCache d { d with kernel := k, heap := d.heap.push img } := by
  refine ⟨rfl, rfl, rfl, rfl, rfl, rfl, fun id hmem => ?_, ?_⟩
  · obtain ⟨x, hx⟩ := Option.isSome_iff_exists.mp (hlive id hmem)
    show ((d.heap.push img).get id).map cacheKey = _
    rw [SlotTable.get_push_of_get hx, hx]
  · intro s surface id x hsurface hbacking hget howned
    change (d.heap.push img).get id = some x at hget
    have hne : id ≠ d.heap.length := by
      rintro rfl
      exact hnone s surface hsurface hbacking
    rw [SlotTable.get_push_of_ne hne] at hget
    exact ⟨surface, x, hsurface, hbacking, hget, howned⟩

end KeepsCache

/-! ## The invariant -/

/-- The cache is in order, and the images of the driver that surfaces lead to are in the array. -/
structure CacheOrder (d : NVDriver) : Prop where
  nodup : d.detached.Nodup
  ordered : d.detached.Pairwise fun id later => d.serialOf id < d.serialOf later
  bounded : ∀ id ∈ d.detached, d.serialOf id ≤ d.detachedBackingImageSerial
  exact : ∀ id, id ∈ d.detached ↔
    id ∈ d.images ∧ ∃ img, d.heap.get id = some img ∧ img.surface = none
  count : d.detachedBackingImageCount = d.detached.length
  bytes : d.detachedBackingImageBytes = (d.detached.map d.memorySizeOf).sum
  attached : ∀ s surface id img, d.surfaces.get s = some surface →
    surface.backingImage = some id → d.heap.get id = some img → img.isExternalBuffer = false →
    id ∈ d.images

theorem KeepsCache.serialOf {d d' : NVDriver} (h : KeepsCache d d') {id : ImageId}
    (hmem : id ∈ d.images) : d'.serialOf id = d.serialOf id := by
  have hentry := congrArg (Option.map fun key : Option SurfaceId × Nat × Nat => key.2.1)
    (h.entries id hmem)
  rw [Option.map_map, Option.map_map] at hentry
  exact congrArg (fun serial : Option Nat => serial.getD 0) hentry

theorem KeepsCache.memorySizeOf {d d' : NVDriver} (h : KeepsCache d d') {id : ImageId}
    (hmem : id ∈ d.images) : d'.memorySizeOf id = d.memorySizeOf id := by
  have hentry := congrArg (Option.map fun key : Option SurfaceId × Nat × Nat => key.2.2)
    (h.entries id hmem)
  rw [Option.map_map, Option.map_map] at hentry
  exact congrArg (fun size : Option Nat => size.getD 0) hentry

namespace CacheOrder

variable {w : Watch} {d d' : NVDriver} {id : ImageId} {s : SurfaceId} {img : BackingImage}

theorem mem_images (h : CacheOrder d) (hmem : id ∈ d.detached) : id ∈ d.images :=
  ((h.exact id).mp hmem).1

/-- What leaves the cache alone keeps it in order. -/
theorem keep (h : CacheOrder d) (hkeeps : KeepsCache d d') : CacheOrder d' := by
  have hserial : ∀ id ∈ d.detached, d'.serialOf id = d.serialOf id :=
    fun id hmem => hkeeps.serialOf (h.mem_images hmem)
  constructor
  · rw [hkeeps.detached]
    exact h.nodup
  · rw [hkeeps.detached]
    refine h.ordered.imp_of_mem fun ha hb hlt => ?_
    rw [hserial _ ha, hserial _ hb]
    exact hlt
  · rw [hkeeps.detached, hkeeps.serial]
    intro id hmem
    rw [hserial id hmem]
    exact h.bounded id hmem
  · intro id
    rw [hkeeps.detached, hkeeps.images, h.exact]
    refine and_congr_right fun hmem => ?_
    have hentry := hkeeps.entries id hmem
    constructor
    · rintro ⟨x, hx, hnone⟩
      rw [hx, Option.map_some] at hentry
      obtain ⟨y, hy, hkey⟩ := Option.map_eq_some_iff.mp hentry
      exact ⟨y, hy, (congrArg Prod.fst hkey).trans hnone⟩
    · rintro ⟨x, hx, hnone⟩
      rw [hx, Option.map_some] at hentry
      obtain ⟨y, hy, hkey⟩ := Option.map_eq_some_iff.mp hentry.symm
      exact ⟨y, hy, (congrArg Prod.fst hkey).trans hnone⟩
  · rw [hkeeps.count, hkeeps.detached]
    exact h.count
  · rw [hkeeps.bytes, hkeeps.detached, h.bytes]
    congr 1
    exact List.map_congr_left fun id hmem => (hkeeps.memorySizeOf (h.mem_images hmem)).symm
  · intro s surface' id img' hsurface hbacking hget howned
    obtain ⟨surface, img, hold, holdBacking, hx, hxowned⟩ :=
      hkeeps.owned s surface' id img' hsurface hbacking hget howned
    rw [hkeeps.images]
    exact h.attached s surface id img hold holdBacking hx hxowned

/-- An ordered cache is what it should be. -/
theorem detachedCache (h : CacheOrder d) (hinv : CacheInv w none none d) : DetachedCache d where
  nodup := h.nodup
  linked := Links.joins_ofList h.nodup
  ordered := h.ordered
  exact := by
    intro id
    rw [h.exact]
    refine and_congr_right fun hmem => ?_
    obtain ⟨x, hx, howned, -⟩ := hinv.borrowing.cached id hmem
    constructor
    · rintro ⟨y, hy, hnone⟩
      rw [hx] at hy
      cases hy
      exact ⟨x, hx, howned, hnone⟩
    · rintro ⟨y, hy, -, hnone⟩
      exact ⟨y, hy, hnone⟩
  listed := fun hsafe id img hget howned => (hinv.listed hsafe).listed id img nofun hget howned
  count := h.count
  bytes := h.bytes

/-! ## Pruning -/

/-- The image that is pruned: the first one in the list that can be. -/
theorem pruneOldest_spec (h : CacheOrder d)
    (hprune : d.pruneOldestDetachedBackingImage = some d') :
    ∃ id img, d.detached.find? d.backingImageCanPrune = some id ∧ id ∈ d.detached ∧
      d.heap.get id = some img ∧
      d' = ((d.unlinkDetachedBackingImage id img).removeImage id).destroyBackingImage id := by
  unfold NVDriver.pruneOldestDetachedBackingImage at hprune
  split at hprune
  · cases hprune
  · rename_i id hfind
    split at hprune
    · split at hprune
      · cases hprune
      · rename_i img hget
        cases hprune
        exact ⟨id, img, hfind, List.mem_of_find?_eq_some hfind, hget, rfl⟩
    · cases hprune

/-- Where nothing is pruned, there is nothing that can be. -/
theorem pruneOldest_none (h : CacheOrder d) (hnone : d.pruneOldestDetachedBackingImage = none) :
    ∀ id ∈ d.detached, d.backingImageCanPrune id = false := by
  unfold NVDriver.pruneOldestDetachedBackingImage at hnone
  split at hnone
  · rename_i hfind
    intro id hmem
    have hcannot := List.find?_eq_none.mp hfind id hmem
    exact Bool.eq_false_iff.mpr hcannot
  · rename_i id hfind
    obtain ⟨hlisted, x, hx, -⟩ := (h.exact id).mp (List.mem_of_find?_eq_some hfind)
    rw [if_pos hlisted, hx] at hnone
    cases hnone

/-- What there is after an image has left the list and the array. -/
theorem unlinked_fields (d : NVDriver) (id : ImageId) (img : BackingImage) :
    ((d.unlinkDetachedBackingImage id img).removeImage id).detached = d.detached.erase id ∧
    ((d.unlinkDetachedBackingImage id img).removeImage id).images = d.images.erase id ∧
    ((d.unlinkDetachedBackingImage id img).removeImage id).surfaces = d.surfaces ∧
    ((d.unlinkDetachedBackingImage id img).removeImage id).detachedBackingImageSerial =
      d.detachedBackingImageSerial ∧
    ((d.unlinkDetachedBackingImage id img).removeImage id).detachedBackingImageCount =
      d.detachedBackingImageCount - 1 ∧
    ((d.unlinkDetachedBackingImage id img).removeImage id).detachedBackingImageBytes =
      d.detachedBackingImageBytes - NVDriver.backingImageMemorySize img := by
  unfold NVDriver.removeImage NVDriver.unlinkDetachedBackingImage NVDriver.modifyImage
    NVDriver.note
  split <;> exact ⟨rfl, rfl, rfl, rfl, rfl, rfl⟩

theorem get_unlinked_of_ne {other : ImageId} (hne : other ≠ id) :
    ((d.unlinkDetachedBackingImage id img).removeImage id).heap.get other =
      d.heap.get other := by
  show (NVDriver.modifyImage _ id _).heap.get other = _
  rw [get_modifyImage, if_neg hne]

/-- The image that has left is in neither. -/
theorem not_mem_unlinked (hborrowing : Borrowing none d) :
    id ∉ ((d.unlinkDetachedBackingImage id img).removeImage id).images := by
  rw [(unlinked_fields d id img).2.1, hborrowing.nodup.mem_erase_iff]
  exact fun hmem => hmem.1 rfl

/-- An image that leaves the list and the array. -/
theorem unlink (h : CacheOrder d) (hborrowing : Borrowing none d) (hmem : id ∈ d.detached)
    (hget : d.heap.get id = some img) (htied : ∀ s surface, d.surfaces.get s = some surface →
      surface.backingImage ≠ some id) :
    CacheOrder ((d.unlinkDetachedBackingImage id img).removeImage id) := by
  have hlists := unlinked_fields d id img
  have hheap : ∀ other, other ≠ id →
      ((d.unlinkDetachedBackingImage id img).removeImage id).heap.get other =
        d.heap.get other := fun other hne => get_unlinked_of_ne hne
  generalize (d.unlinkDetachedBackingImage id img).removeImage id = d1 at hlists hheap
  obtain ⟨hdetached, himages, hsurfaces, hserial, hcount, hbytes⟩ := hlists
  have hne : ∀ other ∈ d.detached.erase id, other ∈ d.detached ∧ other ≠ id := by
    intro other hother
    have hmemErase := (h.nodup.mem_erase_iff).mp hother
    exact ⟨hmemErase.2, hmemErase.1⟩
  have hserialOf : ∀ other, other ≠ id → d1.serialOf other = d.serialOf other := by
    intro other hother
    rw [NVDriver.serialOf, hheap other hother, NVDriver.serialOf]
  have hsizeOf : ∀ other, other ≠ id → d1.memorySizeOf other = d.memorySizeOf other := by
    intro other hother
    rw [NVDriver.memorySizeOf, hheap other hother, NVDriver.memorySizeOf]
  constructor
  · rw [hdetached]
    exact h.nodup.erase id
  · rw [hdetached]
    refine (h.ordered.sublist List.erase_sublist).imp_of_mem fun ha hb hlt => ?_
    rw [hserialOf _ (hne _ ha).2, hserialOf _ (hne _ hb).2]
    exact hlt
  · rw [hdetached, hserial]
    intro other hother
    rw [hserialOf _ (hne _ hother).2]
    exact h.bounded other (hne _ hother).1
  · intro other
    rw [hdetached, himages, h.nodup.mem_erase_iff, hborrowing.nodup.mem_erase_iff, h.exact,
      and_assoc]
    refine and_congr_right fun hother => ?_
    rw [hheap other hother]
  · rw [hdetached, hcount, List.length_erase_of_mem hmem, h.count]
  · have hperm := List.perm_cons_erase hmem
    have hsum : (d.detached.map d.memorySizeOf).sum =
        NVDriver.backingImageMemorySize img + ((d.detached.erase id).map d.memorySizeOf).sum := by
      rw [(hperm.map d.memorySizeOf).sum_nat, List.map_cons, List.sum_cons]
      congr 1
      rw [NVDriver.memorySizeOf, hget]
      rfl
    rw [hdetached, hbytes, h.bytes, hsum, Nat.add_sub_cancel_left]
    congr 1
    exact List.map_congr_left fun other hother => (hsizeOf _ (hne _ hother).2).symm
  · intro s surface other x hsurface hbacking hx howned
    rw [hsurfaces] at hsurface
    have hother : other ≠ id := by
      rintro rfl
      exact htied s surface hsurface hbacking
    rw [hheap other hother] at hx
    rw [himages, hborrowing.nodup.mem_erase_iff]
    exact ⟨hother, h.attached s surface other x hsurface hbacking hx howned⟩

/-- No surface leads to an image of the cache. -/
theorem unattached (h : CacheOrder d) (hinv : CacheInv w none none d) (hmem : id ∈ d.detached) :
    ∀ s surface, d.surfaces.get s = some surface → surface.backingImage ≠ some id := by
  intro s surface hsurface hbacking
  obtain ⟨-, x, hx, hnone⟩ := (h.exact id).mp hmem
  obtain ⟨y, hy, hback, -⟩ := hinv.tied s surface id nofun hsurface hbacking
  rw [hx] at hy
  cases hy
  rw [hnone] at hback
  cases hback

theorem pruneOldest (h : CacheOrder d) (hinv : CacheInv w none none d)
    (hprune : d.pruneOldestDetachedBackingImage = some d') : CacheOrder d' := by
  obtain ⟨id, img, -, hmem, hget, rfl⟩ := h.pruneOldest_spec hprune
  have hunlinked := h.unlink hinv.borrowing hmem hget (h.unattached hinv hmem)
  exact hunlinked.keep (KeepsCache.destroyBackingImage _ (not_mem_unlinked hinv.borrowing))

theorem pruneWhile (hfit : Fitting w) (reason : NVDriver → Bool) (rounds : Nat)
    (h : CacheOrder d) (hinv : CacheInv w none none d) :
    CacheOrder (NVDriver.pruneWhile reason rounds d) := by
  induction rounds generalizing d with
  | zero => exact h
  | succ rounds ih =>
      unfold NVDriver.pruneWhile
      split
      · split
        · rename_i d' hprune
          exact ih (h.pruneOldest hinv hprune) (hinv.pruneOldest hfit hprune)
        · exact h
      · exact h

end CacheOrder

end Surface
end NvidiaVaapi
