import NvidiaVaapi.Surface.ImageList

/-!
# What is borrowed is protected

The borrow count of an image is the number of the live images that borrow it, and nothing
happens to an image that is lent, in every run in which the EGL backend takes no image out of
its cache that is lent: unlike the two prunings, its search for a free image does not look at
the borrow count.
-/

namespace NvidiaVaapi
namespace Surface

/-- Borrows are counted, lenders are alive, and no image was freed, pruned or attached while
it was lent. -/
structure BorrowsProtected (d : NVDriver) : Prop where
  counted : ∀ id img, d.heap.get id = some img → img.borrowCount = d.borrowers id
  lender : ∀ id img lender, d.heap.get id = some img → img.borrowedBackingImage = some lender →
    img.isExternalBuffer = true ∧
      ∃ lent, d.heap.get lender = some lent ∧ lent.isExternalBuffer = false
  log : ∀ event ∈ d.log, event.borrowCount = 0

/-- What happens to images is allowed while they are not lent. -/
def watchBorrows (backend : Backend) : Watch where
  backend := backend
  Fits := fun _ _ _ => True
  Allowed := fun event => event.borrowCount = 0

theorem fitting_watchBorrows (backend : Backend) : Fitting (watchBorrows backend) where
  frame := fun _ _ _ => trivial
  allocated := fun _ _ => trivial
  egl := fun _ _ => trivial
  imported := fun _ _ _ _ _ => trivial
  quiet := fun hzero => hzero

/-- The image that a surface would get from the array is lent. -/
def NVDriver.reusesLent (d : NVDriver) (s : SurfaceId) : Bool :=
  ((d.reused s).bind d.heap.get).any fun img => img.borrowCount ≠ 0

/-- A step takes no image out of the cache that is lent, and frees none of the array. -/
def NVDriver.KeepsLent (d : NVDriver) (a : Label) : Prop :=
  d.SparesListed a ∧ a.realises.all (fun s => !d.reusesLent s) = true

instance (d : NVDriver) (a : Label) : Decidable (d.KeepsLent a) :=
  inferInstanceAs (Decidable (_ ∧ _))

theorem NVDriver.KeepsLent.unlent {d : NVDriver} {a : Label} (h : d.KeepsLent a) {s : SurfaceId}
    {id : ImageId} {img : BackingImage} (hrealises : a.realises = some s)
    (hreused : d.reused s = some id) (hget : d.heap.get id = some img) : img.borrowCount = 0 := by
  have hkeeps := h.2
  rw [hrealises] at hkeeps
  have hnot : d.reusesLent s = false := by simpa using hkeeps
  unfold NVDriver.reusesLent at hnot
  rw [hreused, Option.bind_some, hget] at hnot
  simpa using hnot

/-- Borrowing protects in every state of a run whose steps keep lent images where they are. -/
theorem borrows_protected {initial d : NVDriver} (hinitial : Initial initial)
    (hreach : (surfaceDriver initial).ReachableUnder NVDriver.KeepsLent d) :
    BorrowsProtected d := by
  have hinv : CacheInv (watchBorrows initial.backend) none none d :=
    CacheInv.run (fitting_watchBorrows _) hinitial rfl
      (fun _ _ _ _ _ hkeeps hrealises hreused hget => hkeeps.unlent hrealises hreused hget)
      (fun _ _ hkeeps => hkeeps.1) hreach
  refine ⟨fun id img hget => ?_, fun id img lender hget hborrowed => ?_, hinv.log⟩
  · have hcount := hinv.borrowing.counted id img hget
    simpa using hcount
  · obtain ⟨hexternal, hmem⟩ := hinv.borrowing.lender id img lender hget hborrowed
    obtain ⟨lent, hlent, howned, -⟩ := hinv.borrowing.cached lender hmem
    exact ⟨hexternal, lent, hlent, howned⟩

/-- EGL exports a frame of 64 by 64 with a file for each of its planes. -/
def exportPlaneFiles : Option NVDriver.EglExport :=
  some { planes := [⟨.new 4096, 64, 0, 0⟩, ⟨.new 2048, 64, 0, 0⟩] }

/-- The descriptor of that frame, with two descriptors from `fd` on. -/
def frameDescriptor (fd : Nat) : VADRMPRIMESurfaceDescriptor :=
  { fourcc := drmFormatNV12, width := 64, height := 64, numObjects := 2
    objects := fun i => ⟨fd + i, if i = 0 then 4096 else 2048, 0⟩
    numLayers := 2
    layers := fun i => { numPlanes := 1, objectIndex := fun _ => i, pitch := fun _ => 64 } }

/-- The attributes that import the frame. -/
def frameAttributes (fd : Nat) : List VASurfaceAttrib :=
  [⟨.memoryType, .integer memTypeDrmPrime2⟩,
    ⟨.externalBufferDescriptor, .pointer (some { prime2 := frameDescriptor fd })⟩]

/-- Surface 0 is exported and imported again as surface 1, which borrows its image. -/
def borrowedRun : List Label :=
  [.createSurfaces .yuv420 64 64 1 [] {},
    .exportSurfaceHandle 0 { egl := fun _ => exportPlaneFiles },
    .createSurfaces .yuv420 64 64 1 (frameAttributes 2) {}]

/-- The owner of an image goes while another surface borrows it. -/
def ownerGoneScenario :
    (surfaceDriver eglDriver).Scenario NVDriver.KeepsLent fun d =>
      (d.heap.get 0).map BackingImage.borrowCount = some 1 ∧ d.surfaces.get 0 = none where
  labels := borrowedRun ++ [.destroySurfaces [0]]
  enabled := by decide +kernel
  ends := by decide +kernel

/-- The image is in the cache, and nothing has happened to it while it was lent. -/
theorem borrows_protected_ownerGone :
    BorrowsProtected ((surfaceDriver eglDriver).after ownerGoneScenario.labels) :=
  borrows_protected eglDriver_initial ownerGoneScenario.reachableUnder

/-- A third surface gets the image that surface 1 borrows. -/
def lentScenario :
    (surfaceDriver eglDriver).Scenario (fun _ _ => True) fun d =>
      .attached 0 2 1 ∈ d.log where
  labels := borrowedRun ++ [.destroySurfaces [0], .createSurfaces .yuv420 64 64 1 [] {},
    .realiseSurface 2 {}]
  enabled := by decide +kernel
  ends := by decide +kernel

/-- An image that is lent can be attached to another surface. -/
theorem borrows_unprotected :
    ¬∀ initial d : NVDriver, Initial initial → (surfaceDriver initial).Reachable d →
      BorrowsProtected d := by
  intro hclaim
  have hzero := (hclaim eglDriver _ eglDriver_initial lentScenario.reachable).log
    (.attached 0 2 1) lentScenario.ends
  exact absurd hzero (by decide)

end Surface
end NvidiaVaapi
