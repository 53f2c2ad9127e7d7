import NvidiaVaapi.Surface.SurfaceRuns

/-!
# The array of backing images

The array `images` has exactly the live images that are not imported, and surfaces and images
agree on who belongs to whom, in every run that never releases a surface with an NV21 image of
its own: the EGL backend frees such an image where it detaches it and leaves it in the array.
-/

namespace NvidiaVaapi
namespace Surface

/-- The array has every live image of the driver once and nothing else, and the pointers
between surfaces and images lead to live objects and back. -/
structure ListExact (d : NVDriver) : Prop where
  nodup : d.images.Nodup
  exact : ∀ id, id ∈ d.images ↔ ∃ img, d.heap.get id = some img ∧ img.isExternalBuffer = false
  toImage : ∀ s surface id, d.surfaces.get s = some surface → surface.backingImage = some id →
    ∃ img, d.heap.get id = some img ∧ img.surface = some s
  toSurface : ∀ id img s, d.heap.get id = some img → img.surface = some s →
    ∃ surface, d.surfaces.get s = some surface ∧ surface.backingImage = some id

/-- While the GPU works, the invariant makes the array exact. -/
theorem CacheInv.listExact {w : Watch} {d : NVDriver} (h : CacheInv w none none d)
    (hsafe : d.cudaWorkUnsafe = false) : ListExact d where
  nodup := h.borrowing.nodup
  exact := by
    intro id
    constructor
    · intro hmem
      obtain ⟨img, hget, howned, -⟩ := h.borrowing.cached id hmem
      exact ⟨img, hget, howned⟩
    · rintro ⟨img, hget, howned⟩
      exact (h.listed hsafe).listed id img nofun hget howned
  toImage := by
    intro s surface id hsurface hbacking
    obtain ⟨img, hget, hback, -⟩ := h.tied s surface id nofun hsurface hbacking
    exact ⟨img, hget, hback⟩
  toSurface := fun id img s => (h.listed hsafe).back id img s nofun

/-- Surfaces and images need not fit, and any event is allowed. -/
def watchList (backend : Backend) : Watch where
  backend := backend
  Fits := fun _ _ _ => True
  Allowed := fun _ => True

theorem fitting_watchList (backend : Backend) : Fitting (watchList backend) where
  frame := fun _ _ _ => trivial
  allocated := fun _ _ => trivial
  egl := fun _ _ => trivial
  imported := fun _ _ _ _ _ => trivial
  quiet := fun _ => trivial

/-- The array is exact in every state of a run in which no surface with an NV21 image of its
own is released by the EGL backend. -/
theorem images_exact {initial d : NVDriver} (hinitial : Initial initial)
    (hreach : (surfaceDriver initial).ReachableUnder NVDriver.SparesListed d)
    (hsafe : d.cudaWorkUnsafe = false) : ListExact d := by
  have hinv : CacheInv (watchList initial.backend) none none d :=
    CacheInv.run (fitting_watchList _) hinitial rfl (fun _ _ _ _ _ _ _ _ _ => trivial)
      (fun _ _ hspares => hspares) hreach
  exact hinv.listExact hsafe

/-- A driver with the EGL backend, a cache, and room for 64 descriptors. -/
def eglDriver : NVDriver :=
  { backend := .egl, kernel := { limit := 64 }, maxDetachedBackingImageBytes := 2 ^ 30 }

theorem eglDriver_initial : Initial eglDriver := by
  refine ⟨rfl, rfl, rfl, rfl, rfl, by decide, by decide, ?_⟩
  intro fd file hfile
  cases hfile

/-- EGL exports a frame of 64 by 64 as one new file with two planes. -/
def exportFrame (fourcc : Nat) : Option NVDriver.EglExport :=
  some { fourcc, planes := [⟨.new 6144, 64, 0, 0⟩, ⟨.none, 64, 4096, 0⟩] }

/-- A surface is created, realised from exports with a format, and destroyed. -/
def realisedRun (fourcc : Nat) : List Label :=
  [.createSurfaces .yuv420 64 64 1 [] {},
    .realiseSurface 0 { egl := fun _ => exportFrame fourcc },
    .destroySurfaces [0]]

/-- An NV12 image goes into the cache. -/
def cachedScenario :
    (surfaceDriver eglDriver).Scenario NVDriver.SparesListed fun d =>
      d.images = [0] ∧ d.surfaces.get 0 = none ∧ d.cudaWorkUnsafe = false where
  labels := realisedRun drmFormatNV12
  enabled := by decide +kernel
  ends := by decide +kernel

/-- The image in the cache is alive. -/
theorem images_exact_cached :
    ∃ img, ((surfaceDriver eglDriver).after cachedScenario.labels).heap.get 0 = some img ∧
      img.isExternalBuffer = false :=
  ((images_exact eglDriver_initial cachedScenario.reachableUnder cachedScenario.ends.2.2).exact
    0).mp (by rw [cachedScenario.ends.1]; exact List.mem_singleton_self 0)

/-- Both exports come out as NV21, and the image that is freed stays in the array. -/
def danglingImageScenario :
    (surfaceDriver eglDriver).Scenario (fun _ _ => True) fun d =>
      d.images = [0] ∧ d.heap.get 0 = none ∧ d.cudaWorkUnsafe = false where
  labels := realisedRun drmFormatNV21
  enabled := by decide +kernel
  ends := by decide +kernel

/-- After the workaround has failed, a released surface leaves a freed image in the array. -/
theorem images_inexact :
    ¬∀ initial d : NVDriver, Initial initial → (surfaceDriver initial).Reachable d →
      d.cudaWorkUnsafe = false → ListExact d := by
  intro hclaim
  obtain ⟨himages, hdead, hsafe⟩ := danglingImageScenario.ends
  have hexact := hclaim eglDriver _ eglDriver_initial danglingImageScenario.reachable hsafe
  obtain ⟨img, hget, -⟩ := (hexact.exact 0).mp (by rw [himages]; exact List.mem_singleton_self 0)
  rw [hdead] at hget
  cases hget

end Surface
end NvidiaVaapi
