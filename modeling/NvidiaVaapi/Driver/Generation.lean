import NvidiaVaapi.Driver.State

/-!
# Surface generations

`setSurfaceResolving`, `failSurfaceResolve` and `waitSurfaceResolved`.  The first
two touch a surface in two sections, its backing image's and its own; the wait
passes the same two conditions in the opposite order.
-/

namespace NvidiaVaapi
namespace Driver

/-- `surfaceSyncBackingImage`. -/
def surfaceSyncBackingImage (s : State) (r : SurfaceRef) : Option ImageRef :=
  match (s.surfaces r).backingImage with
  | none => none
  | some i =>
    match (s.images i).borrowedBackingImage with
    | some owner => some owner
    | none => some i

/-- `setSurfaceBackingImageResolving`. -/
def setSurfaceBackingImageResolving (s : State) (r : SurfaceRef) (resolving : Bool) : State :=
  { s with
    images :=
      match surfaceSyncBackingImage s r with
      | none => s.images
      | some i =>
        if (s.images i).syncInitialized = true then
          Function.update s.images i { s.images i with resolving := resolving }
        else s.images }

namespace NVSurface

/-- The surface section of `setSurfaceResolving(surface, true)`. -/
def start (surface : NVSurface) (picture : Picture) : NVSurface :=
  { surface with
    submittedGeneration :=
      if surface.submittedGeneration ≠ uint64Max then surface.submittedGeneration + 1
      else surface.submittedGeneration
    decodeFailed := false
    completionStatus := .success
    resolving := true
    startedBy := some picture }

/-- The surface section of `setSurfaceResolving(surface, false)`. -/
def finish (surface : NVSurface) : NVSurface :=
  { surface with
    completedGeneration := surface.submittedGeneration
    completionStatus := if surface.decodeFailed then .decodingError else .success
    resolving := false }

/-- The surface section of `failSurfaceResolve(surface, status)`. -/
def failResolve (surface : NVSurface) (status : VAStatus) : NVSurface :=
  { surface with
    decodeFailed := true
    completionStatus := if status = .success then .operationFailed else status
    completedGeneration := surface.submittedGeneration
    resolving := false }

end NVSurface

/-- The first condition of `waitSurfaceResolved`. -/
def surfaceResolved (s : State) (r : SurfaceRef) : Bool :=
  !(s.surfaces r).resolving

/-- The second condition of `waitSurfaceResolved`. -/
def imageResolved (s : State) (r : SurfaceRef) : Bool :=
  match surfaceSyncBackingImage s r with
  | none => true
  | some i => !(s.images i).syncInitialized || !(s.images i).resolving

/-- Run one section that ends a generation. -/
def ClearSection.run (s : State) : ClearSection → State
  | .image r => setSurfaceBackingImageResolving s r false
  | .finish r => s.setSurface r (s.surfaces r).finish
  | .fail r status => s.setSurface r ((s.surfaces r).failResolve status)

/-- The surface whose own flag a section clears. -/
def ClearSection.clears : ClearSection → Option SurfaceRef
  | .image _ => none
  | .finish r => some r
  | .fail r _ => some r

/-! ## What an image section leaves alone -/

section ImageSections

variable (s : State) (r : SurfaceRef) (resolving : Bool)

@[simp] theorem imageSection_surfaces :
    (setSurfaceBackingImageResolving s r resolving).surfaces = s.surfaces := rfl
@[simp] theorem imageSection_contexts :
    (setSurfaceBackingImageResolving s r resolving).contexts = s.contexts := rfl
@[simp] theorem imageSection_failed :
    (setSurfaceBackingImageResolving s r resolving).failed = s.failed := rfl
@[simp] theorem imageSection_syncs :
    (setSurfaceBackingImageResolving s r resolving).syncs = s.syncs := rfl
@[simp] theorem imageSection_config :
    (setSurfaceBackingImageResolving s r resolving).config = s.config := rfl
@[simp] theorem imageSection_cudaWorkUnsafe :
    (setSurfaceBackingImageResolving s r resolving).cudaWorkUnsafe = s.cudaWorkUnsafe := rfl
@[simp] theorem imageSection_lifetimeReaders :
    (setSurfaceBackingImageResolving s r resolving).lifetimeReaders = s.lifetimeReaders := rfl
@[simp] theorem imageSection_lifetimeWriter :
    (setSurfaceBackingImageResolving s r resolving).lifetimeWriter = s.lifetimeWriter := rfl

end ImageSections

/-! ## What every clearing section leaves alone -/

section ClearSections

variable (s : State) (section_ : ClearSection)

@[simp] theorem ClearSection.run_contexts : (section_.run s).contexts = s.contexts := by
  cases section_ <;> rfl

@[simp] theorem ClearSection.run_failed : (section_.run s).failed = s.failed := by
  cases section_ <;> rfl

@[simp] theorem ClearSection.run_syncs : (section_.run s).syncs = s.syncs := by
  cases section_ <;> rfl

@[simp] theorem ClearSection.run_config : (section_.run s).config = s.config := by
  cases section_ <;> rfl

@[simp] theorem ClearSection.run_lifetimeReaders :
    (section_.run s).lifetimeReaders = s.lifetimeReaders := by
  cases section_ <;> rfl

@[simp] theorem ClearSection.run_lifetimeWriter :
    (section_.run s).lifetimeWriter = s.lifetimeWriter := by
  cases section_ <;> rfl

@[simp] theorem ClearSection.run_life (r : SurfaceRef) :
    ((section_.run s).surfaces r).life = (s.surfaces r).life := by
  cases section_ with
  | image _ => rfl
  | finish q =>
      by_cases hr : r = q
      · simp [ClearSection.run, NVSurface.finish, hr]
      · simp [ClearSection.run, hr]
  | fail q _ =>
      by_cases hr : r = q
      · simp [ClearSection.run, NVSurface.failResolve, hr]
      · simp [ClearSection.run, hr]

/-- Only the surface named by the section changes, and only by it. -/
theorem ClearSection.run_surfaces_ne {r : SurfaceRef} (hr : section_.clears ≠ some r) :
    (section_.run s).surfaces r = s.surfaces r := by
  cases section_ with
  | image _ => rfl
  | finish q =>
      have hne : r ≠ q := fun h => hr (by simp [ClearSection.clears, h])
      simp [ClearSection.run, hne]
  | fail q _ =>
      have hne : r ≠ q := fun h => hr (by simp [ClearSection.clears, h])
      simp [ClearSection.run, hne]

/-- A section that names a surface leaves it resolved. -/
theorem ClearSection.run_resolving {r : SurfaceRef} (hr : section_.clears = some r) :
    ((section_.run s).surfaces r).resolving = false := by
  cases section_ with
  | image _ => cases hr
  | finish q =>
      cases hr
      simp [ClearSection.run, NVSurface.finish]
  | fail q _ =>
      cases hr
      simp [ClearSection.run, NVSurface.failResolve]

/-- No section starts a generation. -/
theorem ClearSection.run_startedBy (r : SurfaceRef) :
    ((section_.run s).surfaces r).startedBy = (s.surfaces r).startedBy ∧
      ((section_.run s).surfaces r).submittedGeneration =
        (s.surfaces r).submittedGeneration := by
  cases section_ with
  | image _ => exact ⟨rfl, rfl⟩
  | finish q =>
      by_cases hr : r = q <;> simp [ClearSection.run, NVSurface.finish, hr]
  | fail q _ =>
      by_cases hr : r = q <;> simp [ClearSection.run, NVSurface.failResolve, hr]

end ClearSections

end Driver
end NvidiaVaapi
