import NvidiaVaapi.Surface.CachePruning

/-!
# The limits of the cache

The release of a surface prunes the cache only where an image of the driver comes into it.  A
surface without an image leaves the cache as it is, and a surface with an imported one may give
back the last borrow of an image that is over the limit.
-/

namespace NvidiaVaapi
namespace Surface

namespace NVDriver

variable (d : NVDriver)

/-- If the cache exceeds a limit, nothing is left in it that could be pruned. -/
def Trimmed : Prop :=
  d.detachedBackingImagesOverLimit = true → ∀ id ∈ d.detached, d.backingImageCanPrune id = false

instance : Decidable d.Trimmed :=
  inferInstanceAs (Decidable (_ → _))

/-- The image of a surface borrows another one, and gives that back when it is freed. -/
def borrows (s : SurfaceId) (id : ImageId) : Bool :=
  !d.cudaWorkUnsafe && (d.surfaceImage s).any fun owned => owned.2.borrowedBackingImage = some id

/-- An image could be pruned but for a surface that may borrow it. -/
def prunableWithout (s : SurfaceId) (id : ImageId) : Bool :=
  (d.heap.get id).any fun img =>
    img.surface.isNone && img.borrowCount = if d.borrows s id then 1 else 0

/-- A surface has an image of the driver. -/
def ownsImage (s : SurfaceId) : Bool :=
  (d.surfaceImage s).any fun owned => !owned.2.isExternalBuffer

/-- The release of a surface brings an image into the cache, or leaves nothing over the limit
that could be pruned without the surface. -/
def Settled (s : SurfaceId) : Prop :=
  d.ownsImage s = true ∨
    (d.detachedBackingImagesOverLimit = true → ∀ id ∈ d.detached, d.prunableWithout s id = false)

instance (s : SurfaceId) : Decidable (d.Settled s) :=
  inferInstanceAs (Decidable (_ ∨ _))

/-- The driver after each release of a list of surfaces. -/
def releaseStates : NVDriver → List SurfaceId → List NVDriver
  | _, [] => []
  | d, s :: rest => d.releaseSurface s :: releaseStates (d.releaseSurface s) rest

/-- Each release of a list of surfaces is settled when its turn comes. -/
def SettledAlong : NVDriver → List SurfaceId → Prop
  | _, [] => True
  | d, s :: rest => d.Settled s ∧ SettledAlong (d.releaseSurface s) rest

instance decidableSettledAlong :
    ∀ (d : NVDriver) (list : List SurfaceId), Decidable (d.SettledAlong list)
  | _, [] => inferInstanceAs (Decidable True)
  | d, s :: rest =>
    have := decidableSettledAlong (d.releaseSurface s) rest
    inferInstanceAs (Decidable (_ ∧ _))

end NVDriver

/-! ## One release -/

/-- The direct backend frees no image of the array with a surface. -/
theorem freesListed_direct {d : NVDriver} (hdirect : d.backend = .direct) (s : SurfaceId) :
    d.freesListed s = false := by
  unfold NVDriver.freesListed
  rw [hdirect]
  simp

namespace CacheOrder

variable {w : Watch} {d d' : NVDriver} {id : ImageId} {s : SurfaceId} {img : BackingImage}

/-- A borrower is counted. -/
theorem borrowCount_pos (hinv : CacheInv w none none d) {lender : ImageId} {lent : BackingImage}
    (hget : d.heap.get id = some img) (hborrowed : img.borrowedBackingImage = some lender)
    (hlent : d.heap.get lender = some lent) : 0 < lent.borrowCount := by
  have hcount := hinv.borrowing.counted lender lent hlent
  have hpos : d.borrowers lender ≠ 0 := by
    intro hzero
    have hno := SlotTable.count_eq_zero.mp hzero id img hget
    rw [decide_eq_false_iff_not] at hno
    exact hno hborrowed
  omega

/-- The image that a surface leads to. -/
theorem surfaceImage_of_backing (hbacking : (d.surfaces.get s).bind NVSurface.backingImage = some id)
    (hget : d.heap.get id = some img) : ∃ surface, d.surfaceImage s = some (surface, img) := by
  obtain ⟨surface, hsurface, himage⟩ := Option.bind_eq_some_iff.mp hbacking
  exact ⟨surface, surfaceImage_eq.mpr ⟨hsurface, id, himage, hget⟩⟩

theorem surfaceImage_of_none (hnone : (d.surfaces.get s).bind NVSurface.backingImage = none) :
    d.surfaceImage s = none := by
  cases hpair : d.surfaceImage s with
  | none => rfl
  | some owned =>
      obtain ⟨surface, x⟩ := owned
      obtain ⟨hsurface, id, hbacking, -⟩ := surfaceImage_eq.mp hpair
      rw [hsurface] at hnone
      change surface.backingImage = none at hnone
      rw [hbacking] at hnone
      cases hnone

/-- A surface without an image of the driver has none, or an imported one. -/
theorem external_of_ownsImage (hnot : d.ownsImage s = false) (id : ImageId) (img : BackingImage)
    (hbacking : (d.surfaces.get s).bind NVSurface.backingImage = some id)
    (hget : d.heap.get id = some img) : img.isExternalBuffer = true := by
  obtain ⟨surface, hpair⟩ := surfaceImage_of_backing hbacking hget
  unfold NVDriver.ownsImage at hnot
  rw [hpair] at hnot
  simpa using hnot

theorem owned_of_ownsImage (howns : d.ownsImage s = true) :
    ∃ id img, (d.surfaces.get s).bind NVSurface.backingImage = some id ∧
      d.heap.get id = some img ∧ img.isExternalBuffer = false := by
  unfold NVDriver.ownsImage at howns
  cases hpair : d.surfaceImage s with
  | none =>
      rw [hpair] at howns
      cases howns
  | some owned =>
      obtain ⟨surface, img⟩ := owned
      obtain ⟨hsurface, id, hbacking, hget⟩ := surfaceImage_eq.mp hpair
      rw [hpair] at howns
      refine ⟨id, img, ?_, hget, by simpa using howns⟩
      rw [hsurface]
      exact hbacking

/-- The release of a surface with an imported image destroys the image. -/
theorem releaseSurface_heap (hinv : CacheInv w none none d) (hdirect : w.backend = .direct)
    (hbacking : (d.surfaces.get s).bind NVSurface.backingImage = some id)
    (hget : d.heap.get id = some img) (hexternal : img.isExternalBuffer = true) :
    (d.releaseSurface s).heap = (d.destroyBackingImage id).heap := by
  unfold NVDriver.releaseSurface NVDriver.detachBackingImageFromSurface
    NVDriver.directDetachBackingImageFromSurface NVDriver.clearBackingImage
  rw [hbacking, hinv.backend.trans hdirect]
  simp only [Option.isSome_some, if_true, hget, hexternal, true_or, modifySurface_heap]

/-- The images of the cache after the release of a surface without an image of the driver: the
last borrow may be gone. -/
theorem canPrune_released (h : CacheOrder d) (hinv : CacheInv w none none d)
    (hdirect : w.backend = .direct) (hnot : d.ownsImage s = false) (hmem : id ∈ d.detached) :
    (d.releaseSurface s).backingImageCanPrune id = d.prunableWithout s id := by
  cases hbacking : (d.surfaces.get s).bind NVSurface.backingImage with
  | none =>
      have hborrows : d.borrows s id = false := by
        unfold NVDriver.borrows
        rw [surfaceImage_of_none hbacking]
        simp
      unfold NVDriver.releaseSurface NVDriver.backingImageCanPrune NVDriver.prunableWithout
      rw [hbacking, hborrows]
      rfl
  | some other =>
      obtain ⟨surface, hsurface, himage⟩ := Option.bind_eq_some_iff.mp hbacking
      obtain ⟨img, hget, -⟩ := hinv.tied s surface other nofun hsurface himage
      have hexternal := external_of_ownsImage hnot other img hbacking hget
      have hne : id ≠ other := by
        rintro rfl
        exact hinv.not_mem_images hget hexternal (h.mem_images hmem)
      have hborrows : d.borrows s id = true ↔
          d.cudaWorkUnsafe = false ∧ img.borrowedBackingImage = some id := by
        obtain ⟨surface, hpair⟩ := surfaceImage_of_backing hbacking hget
        unfold NVDriver.borrows
        rw [hpair]
        simp
      obtain ⟨-, lent, hlent, -⟩ := (h.exact id).mp hmem
      unfold NVDriver.backingImageCanPrune NVDriver.prunableWithout
      rw [releaseSurface_heap hinv hdirect hbacking hget hexternal,
        get_destroyBackingImage hget hne, hlent]
      by_cases hgives : d.cudaWorkUnsafe = false ∧ img.borrowedBackingImage = some id
      · have hpos := borrowCount_pos hinv hget hgives.2 hlent
        have hlast : lent.borrowCount - 1 = 0 ↔ lent.borrowCount = 1 := by omega
        rw [if_pos hgives, hborrows.mpr hgives]
        simp only [Option.map_some, Option.any_some, if_true, hlast]
      · have hno : d.borrows s id = false := by
          rw [← Bool.not_eq_true, hborrows]
          exact hgives
        rw [if_neg hgives, hno]
        rfl

/-- The release of a surface leaves the cache trimmed exactly where it is settled. -/
theorem releaseSurface_trimmed (hfit : Fitting w) (hdirect : w.backend = .direct)
    (h : CacheOrder d) (hinv : CacheInv w none none d) :
    (d.releaseSurface s).Trimmed ↔ d.Settled s := by
  cases howns : d.ownsImage s with
  | true =>
      -- The image comes into the cache, which is pruned to its limits.
      refine iff_of_true ?_ (.inl howns)
      obtain ⟨id, img, hbacking, hget, howned⟩ := owned_of_ownsImage howns
      intro hover
      unfold NVDriver.releaseSurface NVDriver.detachBackingImageFromSurface at hover ⊢
      rw [hbacking, hinv.backend.trans hdirect] at hover ⊢
      simp only [Option.isSome_some, if_true, h.directDetach_owned hinv hbacking hget howned]
        at hover ⊢
      exact Pruning.pruneWhile_done hfit (h.directDetachOwned hinv hbacking hget howned)
        (hinv.directDetachOwned hbacking hget) (Nat.le_refl _) hover
  | false =>
      have hkept := KeepsCache.releaseSurface hinv hdirect (external_of_ownsImage howns)
      unfold NVDriver.Trimmed NVDriver.Settled
      rw [howns, hkept.overLimit, hkept.detached]
      simp only [Bool.false_eq_true, false_or]
      refine imp_congr_right fun _ => forall₂_congr fun id hmem => ?_
      rw [h.canPrune_released hinv hdirect howns hmem]

end CacheOrder

end Surface
end NvidiaVaapi
