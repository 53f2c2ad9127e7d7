import NvidiaVaapi.Surface.CacheReleases
import NvidiaVaapi.Surface.ImageList

/-!
# Runs keep the cache of detached images

In every state of a run of the direct backend the cache is linked, ordered and counted, and is
pruned from its oldest image on.  It is trimmed to its limits after each release that is
settled, and after no other one.
-/

namespace NvidiaVaapi
namespace Surface

/-- A driver that has just been initialised has counted nothing. -/
structure InitialCache (d : NVDriver) : Prop extends Initial d where
  count : d.detachedBackingImageCount = 0
  bytes : d.detachedBackingImageBytes = 0

/-- A step that neither creates nor releases surfaces. -/
def Label.quiet : Label → Bool
  | .createSurfaces .. => false
  | .destroySurfaces _ => false
  | _ => true

namespace NVDriver

variable (d : NVDriver)

/-- The driver from which the release of a surface prunes. -/
def beforePruning (s : SurfaceId) : NVDriver :=
  match (d.surfaces.get s).bind NVSurface.backingImage with
  | none => d
  | some id =>
    match d.heap.get id with
    | none => d
    | some img => if img.isExternalBuffer then d else d.directDetachOwned s id img

/-- The releases of a step are settled: those of `nvDestroySurfaces` one by one, and those of a
creation that fails by a cache that was trimmed before. -/
def KeepsTrimmed : Label → Prop
  | .destroySurfaces list => d.Releasable list → d.SettledAlong list
  | .createSurfaces format width height numSurfaces attribList answer =>
    (d.createReleases format width height numSurfaces attribList answer).2 ≠ [] → d.Trimmed
  | _ => True

/-- After each release of a step the cache is as it should be, and trimmed. -/
def LeavesTrimmed (a : Label) : Prop :=
  ∀ released ∈ d.statesReleased a, DetachedCache released ∧ released.Trimmed

end NVDriver

/-! ## Steps -/

/-- Every step of the direct backend keeps the invariant. -/
theorem CacheInv.directStep {w : Watch} {d : NVDriver} (hfit : Fitting w)
    (hdirect : w.backend = .direct) (h : CacheInv w none none d) (a : Label) :
    CacheInv w none none (Surface.step d a) := by
  have hbackend := h.backend.trans hdirect
  refine h.step hfit (fun s id img _ hreused => ?_) fun _ s _ => freesListed_direct hbackend s
  unfold NVDriver.reused at hreused
  rw [hbackend] at hreused
  cases hreused

/-- Filling the descriptor of an export opens descriptors only. -/
theorem fillExportDescriptor_kernel (d : NVDriver) (surface : NVSurface) (img : BackingImage) :
    ∃ k, (d.fillExportDescriptor surface img).2 = { d with kernel := k } := by
  have himage : ∀ desc objectSize drmFormat,
      ∃ k, (d.exportImage desc img objectSize drmFormat).2 = { d with kernel := k } := by
    intro desc objectSize drmFormat
    unfold NVDriver.exportImage
    split
    · exact ⟨d.kernel, rfl⟩
    · exact ⟨_, rfl⟩
  unfold NVDriver.fillExportDescriptor
  split
  · unfold NVDriver.directFillExportDescriptor
    split
    · exact ⟨d.kernel, rfl⟩
    · exact himage _ _ _
  · unfold NVDriver.eglFillExportDescriptor
    split
    · exact ⟨d.kernel, rfl⟩
    · split
      · exact ⟨d.kernel, rfl⟩
      · split
        · exact ⟨d.kernel, rfl⟩
        · exact himage _ _ _

/-- An export realises the surface and opens descriptors. -/
theorem nvExportSurfaceHandle_realises {d : NVDriver} (hdirect : d.backend = .direct)
    (s : SurfaceId) (answer : NVDriver.RealiseAnswer) :
    (d.nvExportSurfaceHandle s answer).2 = d ∨
    ∃ k, (d.nvExportSurfaceHandle s answer).2 =
      { (d.directRealiseSurface s answer.gpu answer.added).2 with kernel := k } := by
  unfold NVDriver.nvExportSurfaceHandle NVDriver.realiseSurface
  rw [hdirect]
  simp only
  cases hsurface : d.surfaces.get s with
  | none => exact .inl rfl
  | some surface =>
      refine .inr ?_
      simp only
      cases d.directRealiseSurface s answer.gpu answer.added with
      | mk result d1 =>
          cases result with
          | false => exact ⟨d1.kernel, rfl⟩
          | true =>
              simp only
              cases d1.surfaceImage s with
              | none => exact ⟨d1.kernel, rfl⟩
              | some owned =>
                  obtain ⟨k, hfill⟩ := fillExportDescriptor_kernel d1 owned.1 owned.2
                  refine ⟨k, ?_⟩
                  rw [← hfill]
                  simp only
                  cases d1.fillExportDescriptor owned.1 owned.2 with
                  | mk desc d2 => cases desc <;> rfl

namespace CacheOrder

variable {w : Watch} {d d' : NVDriver} {s : SurfaceId} {list : List SurfaceId}

/-- A step that neither creates nor releases surfaces keeps the cache in order, and takes images
out of it by pruning only. -/
theorem quietStep (hfit : Fitting w) (hdirect : w.backend = .direct) (h : CacheOrder d)
    (hinv : CacheInv w none none d) {a : Label} (hquiet : a.quiet = true) :
    CacheOrder (step d a) ∧ Pruning d (step d a) := by
  have hbackend := hinv.backend.trans hdirect
  have hrealise : ∀ s (answer : NVDriver.RealiseAnswer),
      CacheOrder (d.directRealiseSurface s answer.gpu answer.added).2 ∧
      Pruning d (d.directRealiseSurface s answer.gpu answer.added).2 := fun s answer =>
    ⟨h.directRealise hfit hdirect hinv _ _, Pruning.directRealise hfit hdirect h hinv _ _⟩
  have hsame : ∀ {d1 d2 : NVDriver}, CacheOrder d1 ∧ Pruning d d1 → KeepsCache d1 d2 →
      d2.heap = d1.heap → CacheOrder d2 ∧ Pruning d d2 := by
    intro d1 d2 hboth hkept hheap
    exact ⟨hboth.1.keep hkept,
      hboth.2.trans (Pruning.of_eq hkept.detached fun _ _ => by rw [hheap])⟩
  cases a with
  | createSurfaces format width height numSurfaces attribList answer => cases hquiet
  | destroySurfaces list => cases hquiet
  | realiseSurface s answer =>
      show CacheOrder (d.realiseSurface s answer).2 ∧ Pruning d (d.realiseSurface s answer).2
      unfold NVDriver.realiseSurface
      rw [hbackend]
      exact hrealise s answer
  | exportSurfaceHandle s answer =>
      show CacheOrder (d.nvExportSurfaceHandle s answer).2 ∧
        Pruning d (d.nvExportSurfaceHandle s answer).2
      rcases nvExportSurfaceHandle_realises hbackend s answer with hnone | ⟨k, hexport⟩
      · rw [hnone]
        exact ⟨h, Pruning.refl d⟩
      · rw [hexport]
        exact hsame (hrealise s answer) (KeepsCache.setKernel _ k) rfl
  | pruneToMemoryBudget extraGpuBytes =>
      show CacheOrder (d.pruneToMemoryBudget extraGpuBytes) ∧
        Pruning d (d.pruneToMemoryBudget extraGpuBytes)
      unfold NVDriver.pruneToMemoryBudget NVDriver.directPruneToMemoryBudget
      rw [hbackend]
      simp only
      split
      · exact ⟨h, Pruning.refl d⟩
      · exact ⟨h.pruneWhile hfit _ _ hinv, Pruning.pruneWhile hfit _ _ h hinv⟩
  | resizeScratch y uv argb =>
      exact ⟨⟨h.nodup, h.ordered, h.bounded, h.exact, h.count, h.bytes, h.attached⟩,
        Pruning.of_eq rfl fun _ _ => rfl⟩
  | loseGpu =>
      exact hsame ⟨h, Pruning.refl d⟩ (KeepsCache.of_eq rfl rfl rfl rfl rfl rfl rfl rfl) rfl
  | openFile dev size seekEnd => exact hsame ⟨h, Pruning.refl d⟩ (KeepsCache.setKernel d _) rfl
  | duplicateFile fd => exact hsame ⟨h, Pruning.refl d⟩ (KeepsCache.setKernel d _) rfl
  | closeFile fd =>
      show CacheOrder (d.closeOwn fd) ∧ Pruning d (d.closeOwn fd)
      unfold NVDriver.closeOwn
      split
      · exact ⟨h, Pruning.refl d⟩
      · exact hsame ⟨h, Pruning.refl d⟩ (KeepsCache.setKernel d _) rfl

/-- Where a creation begins to roll back. -/
theorem createReleases (hfit : Fitting w) (hinv : CacheInv w none none d) (format : RTFormat)
    (width height numSurfaces : Nat) (attribList : List VASurfaceAttrib)
    (answer : NVDriver.CreateAnswer) :
    RollingBack w d (d.createReleases format width height numSurfaces attribList answer).1
      (d.createReleases format width height numSurfaces attribList answer).2 := by
  have hstart : Creating w d d [] :=
    ⟨hinv, KeepsCache.refl d, KeepsBorrows.of_eq rfl, nofun⟩
  unfold NVDriver.createReleases
  split
  · exact hstart.rollingBack
  · rename_i surface imported hcheck
    obtain ⟨hnone, himported⟩ := checkSurfaces_spec hcheck
    have hbound : imported.valid = true → imported.Bounded := by
      rw [himported]
      exact parseSurfaceImportAttributes_bounded
    split
    · exact hstart.rollingBack
    · split
      · exact (hstart.loopReleases hfit hnone hbound).rollingBack
      · rename_i created d1 hloop
        have hcreated := (hstart.createSurfacesLoop hfit hnone hbound hloop).rollingBack
        cases answer.popCurrent with
        | false => exact hcreated
        | true => exact ⟨hcreated.inv, hcreated.keeps, hcreated.borrows, nofun, nofun⟩

/-- The releases of a list of surfaces one by one. -/
theorem releaseStates (hfit : Fitting w) (hdirect : w.backend = .direct) (h : CacheOrder d)
    (hinv : CacheInv w none none d) (list : List SurfaceId) :
    CacheOrder (d.releaseSurfaces list) ∧ CacheInv w none none (d.releaseSurfaces list) ∧
    (∀ released ∈ d.releaseStates list, CacheOrder released ∧ CacheInv w none none released) ∧
    (d.SettledAlong list → ∀ released ∈ d.releaseStates list, released.Trimmed) := by
  induction list generalizing d with
  | nil => exact ⟨h, hinv, nofun, fun _ => nofun⟩
  | cons s rest ih =>
      have horder := h.releaseSurface (s := s) hfit hdirect hinv
      have hfree : d.freesListed s = false := freesListed_direct (hinv.backend.trans hdirect) s
      have hreleased := (hinv.releaseSurface hfit hfree).1
      obtain ⟨hlast, hlastInv, hstates, htrimmed⟩ := ih horder hreleased
      refine ⟨hlast, hlastInv, fun released hmem => ?_, fun hsettled released hmem => ?_⟩
      · rcases List.mem_cons.mp hmem with rfl | hrest
        · exact ⟨horder, hreleased⟩
        · exact hstates released hrest
      · rcases List.mem_cons.mp hmem with rfl | hrest
        · exact (h.releaseSurface_trimmed hfit hdirect hinv).mpr hsettled.1
        · exact htrimmed hsettled.2 released hrest

/-- The driver where a step begins to release surfaces. -/
theorem releasing (hfit : Fitting w) (hdirect : w.backend = .direct) (h : CacheOrder d)
    (hinv : CacheInv w none none d) (a : Label) :
    CacheOrder (d.releasing a).1 ∧ CacheInv w none none (d.releasing a).1 := by
  have hstep : a.quiet = true → CacheOrder (step d a) ∧ CacheInv w none none (step d a) :=
    fun hq => ⟨(h.quietStep hfit hdirect hinv hq).1, hinv.directStep hfit hdirect a⟩
  cases a with
  | createSurfaces format width height numSurfaces attribList answer =>
      have hback :=
        createReleases hfit hinv format width height numSurfaces attribList answer
      exact ⟨h.keep hback.keeps, hback.inv⟩
  | destroySurfaces list => exact ⟨h, hinv⟩
  | _ => exact hstep rfl

/-- One step. -/
theorem step (hfit : Fitting w) (hdirect : w.backend = .direct) (h : CacheOrder d)
    (hinv : CacheInv w none none d) (a : Label) :
    CacheOrder (Surface.step d a) ∧ CacheInv w none none (Surface.step d a) := by
  obtain ⟨horder, hstart⟩ := h.releasing hfit hdirect hinv a
  rw [step_releasing]
  obtain ⟨hlast, hlastInv, -⟩ := horder.releaseStates hfit hdirect hstart (d.releasing a).2
  exact ⟨hlast, hlastInv⟩

/-- The cache of a driver that has just been initialised is empty. -/
theorem initial (hinitial : InitialCache d) : CacheOrder d := by
  have hdetached : d.detached = [] := hinitial.detached
  constructor
  · rw [hdetached]
    exact List.nodup_nil
  · rw [hdetached]
    exact List.Pairwise.nil
  · rw [hdetached]
    nofun
  · intro id
    rw [hdetached, hinitial.images]
    exact ⟨nofun, fun hmem => hmem.1⟩
  · rw [hdetached]
    exact hinitial.count
  · rw [hdetached]
    exact hinitial.bytes
  · intro s surface id img _ _ hget
    rw [hinitial.heap] at hget
    cases hget

/-- The invariants of every run of the direct backend. -/
theorem run {initial : NVDriver} (hfit : Fitting w) (hdirect : w.backend = .direct)
    (hinitial : InitialCache initial) (hbackend : initial.backend = .direct)
    (hreach : (surfaceDriver initial).Reachable d) : CacheOrder d ∧ CacheInv w none none d := by
  refine LabelledSystem.invariant (P := fun d => CacheOrder d ∧ CacheInv w none none d)
    ⟨CacheOrder.initial hinitial,
      CacheInv.initial hinitial.toInitial (hbackend.trans hdirect.symm)⟩ ?_ hreach
  rintro d a _ ⟨horder, hinv⟩ - ⟨⟩
  exact horder.step hfit hdirect hinv a

/-- The image of a surface that is released is the latest of the cache from which is pruned. -/
theorem releaseSurface_prunes (hfit : Fitting w) (hdirect : w.backend = .direct)
    (h : CacheOrder d) (hinv : CacheInv w none none d) (s : SurfaceId) :
    PrunesOldest (d.beforePruning s) (d.releaseSurface s) := by
  cases howns : d.ownsImage s with
  | true =>
      obtain ⟨id, img, hbacking, hget, howned⟩ := owned_of_ownsImage howns
      have hbefore : d.beforePruning s = d.directDetachOwned s id img := by
        unfold NVDriver.beforePruning
        rw [hbacking]
        simp only [hget, howned, Bool.false_eq_true, if_false]
      have hpruned := Pruning.pruneWhile hfit NVDriver.detachedBackingImagesOverLimit
        (d.directDetachOwned s id img).detached.length
        (h.directDetachOwned hinv hbacking hget howned) (hinv.directDetachOwned hbacking hget)
      rw [hbefore]
      unfold NVDriver.releaseSurface NVDriver.detachBackingImageFromSurface
      rw [hbacking, hinv.backend.trans hdirect]
      simp only [Option.isSome_some, if_true, h.directDetach_owned hinv hbacking hget howned]
      exact ⟨hpruned.subset, hpruned.oldest⟩
  | false =>
      have hexternal := external_of_ownsImage howns
      have hbefore : d.beforePruning s = d := by
        unfold NVDriver.beforePruning
        split
        · rfl
        · rename_i id hbacking
          split
          · rfl
          · rename_i img hget
            rw [if_pos (hexternal id img hbacking hget)]
      have hkept := (KeepsCache.releaseSurface hinv hdirect hexternal).detached
      rw [hbefore]
      refine ⟨fun id hmem => hkept ▸ hmem, fun id hmem hnot => ?_⟩
      rw [hkept] at hnot
      exact absurd hmem hnot

/-- A creation takes no image out of the cache. -/
theorem createSurfaces_detached (hfit : Fitting w) (hdirect : w.backend = .direct) {before : NVDriver}
    (h : RollingBack w before d list) : (d.releaseSurfaces list).detached = before.detached := by
  induction list generalizing d with
  | nil => exact h.keeps.detached
  | cons s rest ih => exact ih (h.releaseSurface hfit hdirect)

/-- A step takes images out of the cache by pruning only, unless it is to release surfaces. -/
theorem step_prunes (hfit : Fitting w) (hdirect : w.backend = .direct) (h : CacheOrder d)
    (hinv : CacheInv w none none d) {a : Label} (hreleases : a.releases = []) :
    PrunesOldest d (Surface.step d a) := by
  have hquiet : a.quiet = true → PrunesOldest d (Surface.step d a) :=
    fun hq => (h.quietStep hfit hdirect hinv hq).2.toPrunesOldest
  cases a with
  | createSurfaces format width height numSurfaces attribList answer =>
      have hsame := createSurfaces_detached hfit hdirect
        (createReleases hfit hinv format width height numSurfaces attribList answer)
      rw [step_releasing]
      refine ⟨fun id hmem => hsame ▸ hmem, fun id hmem hnot => ?_⟩
      exact absurd (hsame ▸ hmem) hnot
  | destroySurfaces list =>
      cases hreleases
      rw [step_releasing]
      exact (Pruning.refl d).toPrunesOldest
  | _ => exact hquiet rfl

end CacheOrder

/-- In every state of a run of the direct backend the cache is as it should be, what is pruned
is the oldest that can be, and a release leaves the cache trimmed if and only if it is settled;
a step whose releases are settled leaves it so after each of them. -/
theorem detachedCache_trimmed {initial d : NVDriver} (hinitial : InitialCache initial)
    (hdirect : initial.backend = .direct) (hreach : (surfaceDriver initial).Reachable d) :
    DetachedCache d ∧
    (∀ a : Label, a.releases = [] → PrunesOldest d (step d a)) ∧
    (∀ s, PrunesOldest (d.beforePruning s) (d.releaseSurface s)) ∧
    (∀ s, (d.releaseSurface s).Trimmed ↔ d.Settled s) ∧
    ∀ a, d.KeepsTrimmed a → d.LeavesTrimmed a := by
  have hfit := fitting_watchList .direct
  obtain ⟨horder, hinv⟩ := CacheOrder.run hfit rfl hinitial hdirect hreach
  refine ⟨horder.detachedCache hinv, fun a => horder.step_prunes hfit rfl hinv,
    horder.releaseSurface_prunes hfit rfl hinv,
    fun s => horder.releaseSurface_trimmed hfit rfl hinv, fun a hkeeps released hmem => ?_⟩
  obtain ⟨hstart, hstartInv⟩ := horder.releasing hfit rfl hinv a
  obtain ⟨-, -, hstates, hsettled⟩ :=
    hstart.releaseStates hfit rfl hstartInv (d.releasing a).2
  obtain ⟨hreleased, hreleasedInv⟩ := hstates released hmem
  refine ⟨hreleased.detachedCache hreleasedInv, ?_⟩
  cases a with
  | createSurfaces format width height numSurfaces attribList answer =>
      -- Where nothing is rolled back, there is no release.
      have hsome : (d.createReleases format width height numSurfaces attribList answer).2 ≠ [] := by
        intro hnil
        change released ∈ NVDriver.releaseStates _
          (d.createReleases format width height numSurfaces attribList answer).2 at hmem
        rw [hnil] at hmem
        cases hmem
      exact (CacheOrder.createReleases hfit hinv format width height numSurfaces attribList
        answer).releaseStates hfit rfl horder hinv (hkeeps hsome) released hmem
  | destroySurfaces list =>
      refine hsettled ?_ released hmem
      show d.SettledAlong (if d.Releasable list then list else [])
      split
      · rename_i hreleasable
        exact hkeeps hreleasable
      · exact trivial
  | _ => cases hmem

/-- A direct driver that packs what it exports and keeps no more than 4096 bytes. -/
def smallCacheDriver : NVDriver :=
  { exportLayout := .packed, kernel := { limit := 64 }, maxDetachedBackingImageBytes := 4096 }

theorem smallCacheDriver_initial : InitialCache smallCacheDriver := by
  refine ⟨⟨rfl, rfl, rfl, rfl, rfl, by decide, by decide, ?_⟩, rfl, rfl⟩
  intro fd file hfile
  cases hfile

/-- What the export of a frame of 64 by 64 says, with a descriptor. -/
def packedDescriptor (fd : Nat) : VADRMPRIMESurfaceDescriptor :=
  { fourcc := drmFormatNV12, width := 64, height := 64, numObjects := 1
    objects := fun _ => ⟨fd, 131072, 216172782113783827⟩
    numLayers := 2
    layers := fun i =>
      { numPlanes := 1, offset := fun _ => if i = 0 then 0 else 65536, pitch := fun _ => 64 } }

/-- Surface 0 is exported and imported again as surface 1, which borrows its image. -/
def importedCacheRun : List Label :=
  [.createSurfaces .yuv420 64 64 1 [] {}, .exportSurfaceHandle 0 {},
    .createSurfaces .yuv420 64 64 1
      [⟨.memoryType, .integer memTypeDrmPrime2⟩,
        ⟨.externalBufferDescriptor, .pointer (some { prime2 := packedDescriptor 1 })⟩] {}]

/-- The release of surface 0 is settled. -/
def importedCacheScenario : (surfaceDriver smallCacheDriver).Scenario (fun _ _ => True) fun d =>
    d.SettledAlong [0] where
  labels := importedCacheRun
  enabled := by decide +kernel
  ends := by decide +kernel

/-- It leaves the cache trimmed. -/
theorem detachedCache_trimmed_imported :
    ((surfaceDriver smallCacheDriver).after importedCacheScenario.labels).LeavesTrimmed
      (.destroySurfaces [0]) :=
  (detachedCache_trimmed smallCacheDriver_initial rfl importedCacheScenario.reachable).2.2.2.2 _
    fun _ => importedCacheScenario.ends

/-- The image of surface 0 is over the limit, and cannot be pruned while surface 1 borrows it. -/
def lentCacheScenario : (surfaceDriver smallCacheDriver).Scenario (fun _ _ => True) fun d =>
    (d.surfaces.get 1).isSome = true ∧ ¬(d.releaseSurface 1).Trimmed where
  labels := importedCacheRun ++ [.destroySurfaces [0]]
  enabled := by decide +kernel
  ends := by decide +kernel

/-- The release of an import can leave an image over the limit that could be pruned. -/
theorem detachedCache_untrimmed :
    ¬∀ initial d : NVDriver, InitialCache initial → initial.backend = .direct →
      (surfaceDriver initial).Reachable d → ∀ s, (d.surfaces.get s).isSome = true →
        (d.releaseSurface s).Trimmed := by
  intro hclaim
  obtain ⟨hlive, hover⟩ := lentCacheScenario.ends
  exact hover (hclaim smallCacheDriver _ smallCacheDriver_initial rfl lentCacheScenario.reachable 1
    hlive)

/-! ## The pointers of the list -/

namespace NVDriver

/-- `pruneOldestDetachedBackingImageLocked` on the pointers: it goes from the head along
`detachedNext`, and unlinks what it finds. -/
def pruneOldestLinked (d : NVDriver) (links : Links ImageId) :
    Option (NVDriver × Links ImageId) :=
  match links.firstFrom d.backingImageCanPrune d.detached.length links.head with
  | none => none
  | some id =>
    if id ∈ d.images then
      match d.heap.get id with
      | none => none
      | some img =>
        some (((d.unlinkDetachedBackingImage id img).removeImage id).destroyBackingImage id,
          links.unlink id)
    else none

def pruneWhileLinked (reason : NVDriver → Bool) :
    Nat → NVDriver → Links ImageId → NVDriver × Links ImageId
  | 0, d, links => (d, links)
  | rounds + 1, d, links =>
    if reason d then
      match d.pruneOldestLinked links with
      | some (d, links) => pruneWhileLinked reason rounds d links
      | none => (d, links)
    else (d, links)

/-- `direct_detachBackingImageFromSurface` on the pointers. -/
def directDetachLinked (d : NVDriver) (links : Links ImageId) (s : SurfaceId) :
    NVDriver × Links ImageId :=
  match (d.surfaces.get s).bind NVSurface.backingImage with
  | none => (d, links)
  | some id =>
    match d.heap.get id with
    | none => (d, links)
    | some img =>
      if img.isExternalBuffer ∨ img.borrowedCudaResources then
        ((d.destroyBackingImage id).clearBackingImage s, links)
      else
        let d := d.directDetachOwned s id img
        pruneWhileLinked detachedBackingImagesOverLimit d.detached.length d (links.append id)

end NVDriver

/-- The pointers come out as the list does. -/
def LinkedAs (result : NVDriver × Links ImageId) (d : NVDriver) : Prop :=
  result.1 = d ∧ result.2.Joins d.detached

section Linked

variable {w : Watch} {d : NVDriver} {links : Links ImageId}

/-- One image that is pruned by the pointers is the one that is pruned from the list, and the
pointers join what is left of it. -/
theorem pruneOldestLinked_refines (h : CacheOrder d) (hinv : CacheInv w none none d)
    (hlinks : links.Joins d.detached) :
    (d.pruneOldestLinked links).map Prod.fst = d.pruneOldestDetachedBackingImage ∧
      ∀ d' links', d.pruneOldestLinked links = some (d', links') → links'.Joins d'.detached := by
  unfold NVDriver.pruneOldestLinked NVDriver.pruneOldestDetachedBackingImage
  rw [Links.firstFrom_head hlinks h.nodup]
  cases hfind : d.detached.find? d.backingImageCanPrune with
  | none =>
      refine ⟨rfl, fun d' links' h => ?_⟩
      cases h
  | some id =>
      simp only
      split
      · cases hget : d.heap.get id with
        | none =>
            refine ⟨rfl, fun d' links' h => ?_⟩
            cases h
        | some img =>
            refine ⟨rfl, fun d' links' h => ?_⟩
            cases h
            have hkept := KeepsCache.destroyBackingImage
              ((d.unlinkDetachedBackingImage id img).removeImage id)
              (CacheOrder.not_mem_unlinked hinv.borrowing)
            rw [hkept.detached, (CacheOrder.unlinked_fields d id img).1]
            have hmem := List.mem_of_find?_eq_some hfind
            rw [hlinks.unique (Links.joins_ofList h.nodup), Links.unlink_ofList h.nodup hmem]
            exact Links.joins_ofList (h.nodup.erase id)
      · refine ⟨rfl, fun d' links' h => ?_⟩
        cases h

theorem pruneWhileLinked_refines (hfit : Fitting w) (reason : NVDriver → Bool) (rounds : Nat)
    (h : CacheOrder d) (hinv : CacheInv w none none d) (hlinks : links.Joins d.detached) :
    LinkedAs (NVDriver.pruneWhileLinked reason rounds d links)
      (NVDriver.pruneWhile reason rounds d) := by
  induction rounds generalizing d links with
  | zero => exact ⟨rfl, hlinks⟩
  | succ rounds ih =>
      obtain ⟨hstate, hjoins⟩ := pruneOldestLinked_refines h hinv hlinks
      unfold NVDriver.pruneWhileLinked NVDriver.pruneWhile
      split
      · rw [← hstate]
        cases hprune : d.pruneOldestLinked links with
        | none => exact ⟨rfl, hlinks⟩
        | some pruned =>
            obtain ⟨d', links'⟩ := pruned
            rw [hprune] at hstate
            exact ih (h.pruneOldest hinv hstate.symm) (hinv.pruneOldest hfit hstate.symm)
              (hjoins d' links' hprune)
      · exact ⟨rfl, hlinks⟩

end Linked

/-- The driver keeps its list of detached images by pointers.  In every reachable state, from
pointers that join the list in both directions, a release and any loop that prunes do by the
pointers what they do on the list, and leave pointers that join it. -/
theorem detachedPointers_refine {initial d : NVDriver} (hinitial : InitialCache initial)
    (hdirect : initial.backend = .direct) (hreach : (surfaceDriver initial).Reachable d)
    {links : Links ImageId} (hlinks : links.Joins d.detached) :
    (∀ s, LinkedAs (d.directDetachLinked links s) (d.directDetachBackingImageFromSurface s)) ∧
      ∀ reason rounds, LinkedAs (NVDriver.pruneWhileLinked reason rounds d links)
        (NVDriver.pruneWhile reason rounds d) := by
  have hfit := fitting_watchList .direct
  obtain ⟨h, hinv⟩ := CacheOrder.run hfit rfl hinitial hdirect hreach
  refine ⟨fun s => ?_, fun reason rounds =>
    pruneWhileLinked_refines hfit reason rounds h hinv hlinks⟩
  unfold NVDriver.directDetachLinked NVDriver.directDetachBackingImageFromSurface
  cases hbacking : (d.surfaces.get s).bind NVSurface.backingImage with
  | none => exact ⟨rfl, hlinks⟩
  | some id =>
      simp only
      cases hget : d.heap.get id with
      | none => exact ⟨rfl, hlinks⟩
      | some img =>
          simp only
          cases hexternal : img.isExternalBuffer with
          | true =>
              have hkept := (KeepsCache.destroyBackingImage d
                (hinv.not_mem_images hget hexternal)).trans (KeepsCache.clearBackingImage _ s)
              simp only [true_or, if_true]
              exact ⟨rfl, hkept.detached ▸ hlinks⟩
          | false =>
              have horder := h.directDetachOwned hinv hbacking hget hexternal
              have hlist : (d.directDetachOwned s id img).detached = d.detached ++ [id] := by
                unfold NVDriver.directDetachOwned NVDriver.clearBackingImage
                  NVDriver.modifySurface NVDriver.modifyImage
                rw [hget]
                split <;> rfl
              have hnodup := horder.nodup
              rw [hlist] at hnodup
              obtain ⟨hold, -, hfresh⟩ := List.nodup_append.mp hnodup
              have hnew : id ∉ d.detached := fun hmem => hfresh id hmem id List.mem_cons_self rfl
              rw [← hexternal, if_neg (h.ownResources hinv hbacking hget hexternal),
                if_neg (h.ownResources hinv hbacking hget hexternal)]
              exact pruneWhileLinked_refines hfit _ _ horder
                (hinv.directDetachOwned hbacking hget) (hlist ▸ hlinks.append hold hnew)

theorem detachedPointers_refine_imported :
    let d := (surfaceDriver smallCacheDriver).after importedCacheScenario.labels
    LinkedAs (d.directDetachLinked {} 0) (d.directDetachBackingImageFromSurface 0) := by
  have hnone : ((surfaceDriver smallCacheDriver).after
      importedCacheScenario.labels).detached = [] := by decide +kernel
  have hempty : Links.Joins {} ((surfaceDriver smallCacheDriver).after
      importedCacheScenario.labels).detached := by
    rw [hnone]
    exact Links.joins_nil
  exact (detachedPointers_refine smallCacheDriver_initial rfl importedCacheScenario.reachable
    hempty).1 0

end Surface
end NvidiaVaapi
