import NvidiaVaapi.Surface.CacheRuns

/-!
# Runs of a driver

Every step keeps the invariant, as long as the images that the EGL backend reuses are allowed
to be attached and no release frees a listed image; so does every run from a driver that has
just been initialised.
-/

namespace NvidiaVaapi
namespace Surface

/-- The image of the array `images` that a surface would get when it is realised. -/
def NVDriver.reused (d : NVDriver) (s : SurfaceId) : Option ImageId :=
  if d.backend = .egl then
    (d.surfaces.get s).bind fun surface =>
      if surface.backingImage.isSome then none else d.freeBackingImageFor surface
  else none

/-- The surface that a step realises. -/
def Label.realises : Label → Option SurfaceId
  | .realiseSurface s _ => some s
  | .exportSurfaceHandle s _ => some s
  | _ => none

/-- The surfaces that a step releases, unless it refuses to. -/
def Label.releases : Label → List SurfaceId
  | .destroySurfaces list => list
  | _ => []

/-- `nvDestroySurfaces` goes through with a list of surfaces. -/
def NVDriver.Releasable (d : NVDriver) (list : List SurfaceId) : Prop :=
  list.Nodup ∧ ∀ s ∈ list, (d.surfaces.get s).isSome = true

instance (d : NVDriver) (list : List SurfaceId) : Decidable (d.Releasable list) :=
  inferInstanceAs (Decidable (_ ∧ _))

/-- No release frees an image of the array `images`. -/
def NVDriver.SparesListed (d : NVDriver) (a : Label) : Prop :=
  d.Releasable a.releases → ∀ s ∈ a.releases, d.freesListed s = false

instance (d : NVDriver) (a : Label) : Decidable (d.SparesListed a) :=
  inferInstanceAs (Decidable (_ → _))

/-- The system that starts from a driver. -/
def surfaceDriver (initial : NVDriver) : LabelledSystem NVDriver Label :=
  ⟨initial, fun d a => some (step d a)⟩

/-- The descriptors of an export are opened. -/
theorem exportObjects_opens {img : BackingImage} {objectSize : Nat → Nat} {list : List Nat}
    {desc desc' : VADRMPRIMESurfaceDescriptor} {k k' : Kernel} {result : Bool}
    (hexport : NVDriver.exportObjects img objectSize list (desc, k) = (result, desc', k')) :
    Opens k k' := by
  induction list generalizing desc k with
  | nil =>
      cases hexport
      exact Opens.refl _
  | cons i rest ih =>
      unfold NVDriver.exportObjects at hexport
      split at hexport
      · cases hexport
        exact Opens.refl _
      · rename_i fd k1 hdup
        exact (Opens.dup hdup).trans (ih hexport)

namespace CacheInv

variable {w : Watch} {d : NVDriver} {s : SurfaceId}

theorem exportImage (hfit : Fitting w) (h : CacheInv w none none d)
    (desc : VADRMPRIMESurfaceDescriptor) (img : BackingImage) (objectSize drmFormat : Nat → Nat) :
    CacheInv w none none (d.exportImage desc img objectSize drmFormat).2 := by
  unfold NVDriver.exportImage
  split
  · exact h
  · rename_i desc' k hexport
    exact h.grow hfit (exportObjects_opens hexport)

theorem fillExportDescriptor (hfit : Fitting w) (h : CacheInv w none none d)
    (surface : NVSurface) (img : BackingImage) :
    CacheInv w none none (d.fillExportDescriptor surface img).2 := by
  unfold NVDriver.fillExportDescriptor
  split
  · unfold NVDriver.directFillExportDescriptor
    split
    · exact h
    · exact h.exportImage hfit _ _ _ _
  · unfold NVDriver.eglFillExportDescriptor
    split
    · exact h
    · split
      · exact h
      · split
        · exact h
        · exact h.exportImage hfit _ _ _ _

/-- `realiseSurface`, if the image that is reused may be attached. -/
theorem realiseSurface (hfit : Fitting w) (h : CacheInv w none none d)
    (hallowed : ∀ id img, d.reused s = some id → d.heap.get id = some img →
      w.Allowed (.attached id s img.borrowCount)) (answer : NVDriver.RealiseAnswer) :
    CacheInv w none none (d.realiseSurface s answer).2 := by
  unfold NVDriver.realiseSurface
  split
  · rename_i hdirect
    exact h.directRealise hfit (h.backend.symm.trans hdirect) _ _
  · rename_i hegl
    refine h.eglRealise hfit (h.backend.symm.trans hegl) ?_ _ _
    intro surface id img hsurface hnone hfree hget
    refine hallowed id img ?_ hget
    unfold NVDriver.reused
    rw [if_pos hegl, hsurface, Option.bind_some, hnone]
    exact hfree

theorem nvExportSurfaceHandle (hfit : Fitting w) (h : CacheInv w none none d)
    (hallowed : ∀ id img, d.reused s = some id → d.heap.get id = some img →
      w.Allowed (.attached id s img.borrowCount)) (answer : NVDriver.RealiseAnswer) :
    CacheInv w none none (d.nvExportSurfaceHandle s answer).2 := by
  unfold NVDriver.nvExportSurfaceHandle
  split
  · exact h
  · have hrealised := h.realiseSurface hfit hallowed answer
    revert hrealised
    cases d.realiseSurface s answer with
    | mk result d1 =>
      intro hrealised
      cases result with
      | false => exact hrealised
      | true =>
          simp only
          split
          · exact hrealised
          · rename_i surface img _
            have hfilled := hrealised.fillExportDescriptor hfit surface img
            revert hfilled
            cases d1.fillExportDescriptor surface img with
            | mk desc d2 =>
              intro hfilled
              cases desc <;> exact hfilled

theorem nvDestroySurfaces (hfit : Fitting w) (h : CacheInv w none none d) {list : List SurfaceId}
    (hspares : d.Releasable list → ∀ s ∈ list, d.freesListed s = false) :
    CacheInv w none none (d.nvDestroySurfaces list).2 := by
  unfold NVDriver.nvDestroySurfaces
  split
  · exact h
  · rename_i haccepted
    refine h.releaseSurfaces hfit list (hspares ⟨?_, fun s hs => ?_⟩)
    · exact not_not.mp fun hnot => haccepted (.inl hnot)
    · rw [← Option.not_isNone, Bool.not_eq_true', Bool.eq_false_iff]
      exact fun hnone => haccepted (.inr (List.any_eq_true.mpr ⟨s, hs, hnone⟩))

/-- The application closes a descriptor that is none of an image. -/
theorem closeOwn (hfit : Fitting w) (h : CacheInv w none none d) (fd : Int) :
    CacheInv w none none (d.closeOwn fd) := by
  unfold NVDriver.closeOwn
  split
  · exact h
  · rename_i hnone
    have hkeeps : ∀ id img i file, d.heap.get id = some img → 0 ≤ img.fds i →
        d.kernel.fileAt (img.fds i) = some file →
        (d.kernel.close fd).fileAt (img.fds i) = some file := by
      intro id img i file hget hnonneg hfile
      rw [Kernel.fileAt_close_of_ne, hfile]
      intro heq
      refine hnone (List.any_eq_true.mpr ⟨some img, ?_, ?_⟩)
      · exact List.mem_of_getElem? (SlotTable.get_eq_getElem?.mp hget)
      · refine List.any_eq_true.mpr ⟨i, List.mem_range.mpr ?_, decide_eq_true heq⟩
        by_contra hlarge
        rw [h.borrowing.slots id img i hget (Nat.le_of_not_lt hlarge)] at hnonneg
        omega
    refine h.setKernel hfit (h.borrowing.setHolding (h.borrowing.setKernel hkeeps ?_ ?_ ?_))
      fun id img hget i file => hkeeps id img i file hget
    · exact Kernel.close_limit
    · rw [Kernel.close_limit, Kernel.close_length]
      exact h.borrowing.bounded
    · exact h.borrowing.numbered.close

/-- The application opens a descriptor of its own, or cannot. -/
theorem openOwn (hfit : Fitting w) (h : CacheInv w none none d) {opened : Option (Int × Kernel)}
    (hopens : ∀ fd k, opened = some (fd, k) → Opens d.kernel k) :
    CacheInv w none none { d with kernel := (opened.map Prod.snd).getD d.kernel } := by
  cases opened with
  | none => exact h
  | some opened => exact h.grow hfit (hopens opened.1 opened.2 rfl)

/-- One step. -/
theorem step (hfit : Fitting w) (h : CacheInv w none none d) {a : Label}
    (hallowed : ∀ s id img, a.realises = some s → d.reused s = some id →
      d.heap.get id = some img → w.Allowed (.attached id s img.borrowCount))
    (hspares : d.SparesListed a) : CacheInv w none none (step d a) := by
  cases a with
  | createSurfaces format width height numSurfaces attribList answer =>
      exact h.nvCreateSurfaces2 hfit format width height numSurfaces attribList answer
  | realiseSurface s answer =>
      exact h.realiseSurface hfit (fun id img => hallowed s id img rfl) answer
  | exportSurfaceHandle s answer =>
      exact h.nvExportSurfaceHandle hfit (fun id img => hallowed s id img rfl) answer
  | destroySurfaces list => exact h.nvDestroySurfaces hfit hspares
  | pruneToMemoryBudget extraGpuBytes => exact h.pruneToMemoryBudget hfit extraGpuBytes
  | resizeScratch y uv argb => exact h.congr rfl rfl rfl rfl rfl rfl rfl
  | loseGpu => exact h.lose none
  | openFile dev size seekEnd => exact h.openOwn hfit fun _ _ => Opens.create
  | duplicateFile fd => exact h.openOwn hfit fun _ _ => Opens.dup
  | closeFile fd => exact h.closeOwn hfit fd

/-- A driver that has just been initialised. -/
theorem initial (hinitial : Initial d) (hbackend : d.backend = w.backend) :
    CacheInv w none none d := by
  have hheap : ∀ id : ImageId, d.heap.get id = none := by
    rw [hinitial.heap]
    exact fun _ => rfl
  have hsurfaces : ∀ s : SurfaceId, d.surfaces.get s = none := by
    rw [hinitial.surfaces]
    exact fun _ => rfl
  have hempty : ∀ {P : Prop} {id : ImageId} {img : BackingImage}, d.heap.get id = some img → P := by
    intro P id img hget
    rw [hheap] at hget
    cases hget
  refine ⟨hbackend, ⟨⟨?_, ?_, ?_, ?_, ?_, hinitial.limit, hinitial.bounded, ?_⟩, ?_, nofun, ?_, ?_,
    ?_⟩, ?_, fun _ => ⟨?_, ?_⟩, ?_⟩
  · exact fun id img i hget => hempty hget
  · exact fun id id' img img' i j hget => hempty hget
  · exact fun id img hget => hempty hget
  · exact fun id id' img img' i j hget => hempty hget
  · exact fun id img i hget => hempty hget
  · intro fd file hfile
    unfold Kernel.fileAt at hfile
    split at hfile
    · cases hfile
    · exact hinitial.inodes _ file hfile
  · exact fun id img hget => hempty hget
  · exact fun id img lender hget => hempty hget
  · rw [hinitial.images]
    nofun
  · rw [hinitial.images]
    exact List.nodup_nil
  · intro s surface id _ hsurface
    rw [hsurfaces] at hsurface
    cases hsurface
  · exact fun id img _ hget => hempty hget
  · exact fun id img s _ hget => hempty hget
  · rw [hinitial.log]
    nofun

/-- Every run keeps the invariant. -/
theorem run {initial d : NVDriver} (hfit : Fitting w) (hinitial : Initial initial)
    (hbackend : initial.backend = w.backend) {cond : NVDriver → Label → Prop}
    (hallowed : ∀ d a s id img, cond d a → a.realises = some s → d.reused s = some id →
      d.heap.get id = some img → w.Allowed (.attached id s img.borrowCount))
    (hspares : ∀ d a, cond d a → d.SparesListed a)
    (hreach : (surfaceDriver initial).ReachableUnder cond d) : CacheInv w none none d := by
  refine LabelledSystem.invariant (CacheInv.initial hinitial hbackend) ?_ hreach
  rintro d a _ h hcond ⟨⟩
  exact h.step hfit (fun s id img => hallowed d a s id img hcond) (hspares d a hcond)

end CacheInv

end Surface
end NvidiaVaapi
