import NvidiaVaapi.Driver.ClearingLists
import NvidiaVaapi.Driver.DestroyWaits
import NvidiaVaapi.Driver.ExportExclusion
import NvidiaVaapi.Driver.FailureReports
import NvidiaVaapi.Driver.LiveTargets

/-!
# The flag of a shared backing image

Several surfaces can have one backing image, through imports that borrow it.  The image
has a single flag, which is set and cleared for one surface at a time.
-/

namespace NvidiaVaapi
namespace Driver

/-! ## Copies and generations -/

/-- The surface into whose image the worker has a copy under way. -/
def WorkerPhase.copies : WorkerPhase → Option SurfaceRef
  | .copying job => some job.surface
  | .unmapping job _ true => some job.surface
  | _ => none

/-- The surface into whose image the call on the context has a copy under way. -/
def State.blits (s : State) (c : ContextRef) : Option SurfaceRef :=
  match (s.contexts c).phase with
  | .blitCopy _ => (s.contexts c).renderTarget
  | _ => none

/-- A copy into the image of the surface is not finished. -/
def State.copying (s : State) (q : SurfaceRef) : Prop :=
  ∃ c, (s.contexts c).worker.copies = some q ∨ s.blits c = some q

/-- The surface whose image is already flagged for the generation that the next section
of the call on the context starts. -/
def State.starting (s : State) (c : ContextRef) : Option SurfaceRef :=
  match (s.contexts c).phase with
  | .beginStart r => some r
  | .handOverStart _ => (s.contexts c).outputTarget
  | _ => none

/-- What is asked of the flags of the backing images. -/
structure ImagesTracked (s : State) : Prop where
  /-- The flag is set while some surface that has the image is being copied to. -/
  flagged : ∀ q i, s.copying q → surfaceSyncBackingImage s q = some i →
    (s.images i).syncInitialized = true → (s.images i).resolving = true
  /-- When `waitSurfaceResolved` returns for one of the surfaces no copy is under way. -/
  released : ∀ r i, surfaceSyncBackingImage s r = some i →
    (s.images i).syncInitialized = true → imageResolved s r = true →
    ∀ q, surfaceSyncBackingImage s q = some i → ¬s.copying q
  /-- A flag that is set belongs to a generation that is about to start, or that an open
  picture or an outstanding job is going to end. -/
  cleared : ∀ i, (s.images i).resolving = true → ∃ q, surfaceSyncBackingImage s q = some i ∧
    ((∃ c, s.starting c = some q) ∨ s.owned q)

/-! ## The condition -/

/-- The surface to whose image the next section of the call begins to blit. -/
def State.startsBlit (s : State) : Label → Option SurfaceRef
  | .call c _ =>
    match (s.contexts c).phase with
    | .blitWaitImage _ => (s.contexts c).renderTarget
    | _ => none
  | _ => none

/-- Surfaces are used by one picture at a time and contexts destroyed at rest, no section
clears the flag of an image for one surface while a copy for another one is under way, no
surface is given an image while it is being copied to, and a blit starts while the flag
of its image is set. -/
structure ImagesQuiet (s : State) (a : Label) : Prop where
  exclusive : ExclusiveUse s a
  atRest : DestroyedAtRest s a
  clears : ∀ r, s.marks a = some (r, false) → ∀ i ∈ surfaceSyncBackingImage s r,
    ∀ q, q ≠ r → s.copying q → surfaceSyncBackingImage s q ≠ some i
  created : ∀ r format image, a = .createSurface r format (some image) → ¬s.copying r
  realised : ∀ r image, a = .realiseSurface r image → ¬s.copying r
  blits : ∀ q, s.startsBlit a = some q → ∀ i ∈ surfaceSyncBackingImage s q,
    (s.images i).syncInitialized = true → (s.images i).resolving = true

/-! ## The invariant -/

/-- The surface whose own flag the next section of the worker clears. -/
def WorkerPhase.settles : WorkerPhase → Option SurfaceRef
  | .clear job _ => some job.surface
  | .cancelled (job :: _) true => some job.surface
  | _ => none

/-- The surface whose own flag the next section of `nvDestroyContext` clears. -/
def State.destroySettles (s : State) : Option SurfaceRef :=
  match s.lifetimeWriter with
  | some (.context _ (.cancelled (job :: _) true)) => some job.surface
  | _ => none

/-- Some thread has cleared the flag of the surface's image, and clears that of the
surface next. -/
def State.settling (s : State) (q : SurfaceRef) : Prop :=
  (∃ c, s.settles c = some q) ∨ (∃ c, (s.contexts c).worker.settles = some q) ∨
    s.destroySettles = some q

/-- What quiet images guarantee. -/
structure ImageFlags (s : State) : Prop where
  exclusive : Exclusive s
  coursed : s.coursed
  owned : Owned s
  pairs : ∀ c, (s.contexts c).phase.pairs = true
  waited : ∀ r, s.waited r → (s.surfaces r).resolving = false
  flagged : ∀ q i, s.copying q → surfaceSyncBackingImage s q = some i →
    (s.images i).syncInitialized = true → (s.images i).resolving = true
  initialized : ∀ i, (s.images i).resolving = true → (s.images i).syncInitialized = true
  answered : ∀ i, (s.images i).resolving = true → ∃ q, surfaceSyncBackingImage s q = some i ∧
    ((∃ c, s.starting c = some q) ∨ ((s.surfaces q).resolving = true ∧ ¬s.settling q))

theorem ImageFlags.imagesTracked {s : State} (hflags : ImageFlags s) : ImagesTracked s where
  flagged := hflags.flagged
  released := by
    intro r i hr hinit hresolved q hq hcopying
    have hflag := hflags.flagged q i hcopying hq hinit
    simp [imageResolved, hr, hinit, hflag] at hresolved
  cleared := by
    intro i hflag
    obtain ⟨q, hq, hstarting | ⟨hpending, _⟩⟩ := hflags.answered i hflag
    · exact ⟨q, hq, .inl hstarting⟩
    · exact ⟨q, hq, .inr (hflags.owned.owned q hpending)⟩

section Steps

variable {s s' : State} {c d : ContextRef} {a : Label} {q r : SurfaceRef}

/-! ## What other threads leave alone -/

theorem destroyStep_worker {outcome : Outcome} (hstep : destroyStep s outcome = some s')
    (d : ContextRef) : (s'.contexts d).worker = (s.contexts d).worker := by
  unfold destroyStep at hstep
  split at hstep
  · cases hstep
  · unfold destroySurfacesStep at hstep
    split at hstep
    · cases hstep
      rfl
    · split at hstep <;> cases hstep
      rfl
    · split at hstep <;> cases hstep
      rfl
    · obtain ⟨t, hrelease, rfl⟩ := Option.map_eq_some_iff.mp hstep
      exact kept_of_withoutIndices NVContext.worker (fun _ => rfl) (release_contexts hrelease d)
    · cases hstep
      rfl
  · unfold destroyContextStep at hstep
    simp only at hstep
    split at hstep
    · cases hstep
      apply State.kept_setContext NVContext.worker
      · rfl
      · rfl
    · cases hstep
      rfl
    · cases hstep
      rfl
    · cases hstep
      rfl
    · split at hstep
      · cases hstep
        rfl
      · split at hstep <;> cases hstep
        apply State.kept_setContext NVContext.worker
        · rfl
        · rfl
      · cases hstep
    · split at hstep
      · cases hstep
        rfl
      · split at hstep
        · cases hstep
          rfl
        · split at hstep
          · cases hstep
            apply State.kept_setContext NVContext.worker
            · rfl
            · rfl
          · cases hstep
            rfl
          · cases hstep
            rfl
          · cases hstep
    · cases hstep
      apply State.kept_setContext NVContext.worker
      · rfl
      · rfl
    · cases hstep
      apply State.kept_setContext NVContext.worker
      · rfl
      · rfl

/-- No other context and no destroy call is touched. -/
structure OnlyContext (c : ContextRef) (s s' : State) : Prop where
  others : ∀ d, d ≠ c → s'.contexts d = s.contexts d
  lifetimeWriter : s'.lifetimeWriter = s.lifetimeWriter

theorem OnlyContext.setContext {t : State} {ctx : NVContext} (hcontexts : t.contexts = s.contexts)
    (hwriter : t.lifetimeWriter = s.lifetimeWriter) : OnlyContext c s (t.setContext c ctx) where
  others := by
    intro d hd
    simp [hd, hcontexts]
  lifetimeWriter := hwriter

theorem OnlyContext.setWorker {t : State} {worker : WorkerPhase}
    (hcontexts : t.contexts = s.contexts) (hwriter : t.lifetimeWriter = s.lifetimeWriter) :
    OnlyContext c s (Driver.setWorker t c worker) :=
  .setContext hcontexts hwriter

theorem workerStep_only {outcome : WorkerOutcome} (hstep : workerStep s c outcome = some s') :
    OnlyContext c s s' := by
  unfold workerStep at hstep
  split at hstep
  · cases hstep
  · unfold workerStart at hstep
    split at hstep <;> cases hstep
    · exact .setWorker rfl rfl
    · exact .setContext rfl rfl
  · unfold workerCancelled at hstep
    split at hstep <;> cases hstep <;> exact .setWorker rfl rfl
  · unfold workerPop at hstep
    simp only at hstep
    split at hstep
    · cases hstep
      exact .setContext rfl rfl
    · split at hstep
      · cases hstep
      · split at hstep
        · cases hstep
          have hset : OnlyContext c s (Driver.setWorker s c .exited) := .setWorker rfl rfl
          exact ⟨hset.others, hset.lifetimeWriter⟩
        · split at hstep
          · cases hstep
            exact .setWorker rfl rfl
          · cases hstep
            exact .setContext rfl rfl
  · unfold workerPopped at hstep
    split at hstep
    · split at hstep <;> cases hstep <;> exact .setWorker rfl rfl
    · cases hstep
      exact .setWorker rfl rfl
    · cases hstep
  · unfold workerExporting at hstep
    split at hstep
    · split at hstep <;> cases hstep <;> exact .setWorker rfl rfl
    · cases hstep
      exact .setWorker rfl rfl
    · cases hstep
  · unfold workerCopying at hstep
    split at hstep <;> cases hstep <;> exact .setWorker rfl rfl
  · unfold workerUnmapping at hstep
    split at hstep
    · split at hstep <;> cases hstep
      exact .setWorker rfl rfl
    · split at hstep <;> cases hstep <;> exact .setWorker rfl rfl
    · cases hstep
      exact .setWorker rfl rfl
  · unfold workerPublish at hstep
    simp only at hstep
    split at hstep <;> cases hstep <;> exact .setWorker rfl rfl
  · cases hstep
    exact .setWorker rfl rfl
  · cases hstep
    exact .setWorker rfl rfl
  · cases hstep

/-- Only the worker of a context moves it on. -/
theorem worker_kept (hbasic : Basic s) (hworker : ∀ outcome, a ≠ .worker c outcome)
    (hcreates : a.creates ≠ some c) (hstep : Driver.step s a = some s') :
    (s'.contexts c).worker = (s.contexts c).worker := by
  cases step_effect hbasic.ok hstep with
  | call d _ effect => exact effect.worker c
  | sync _ thread effect => rw [effect.contexts]
  | thread on effect =>
      clear effect
      cases a with
      | beginPicture d r => cases on
      | renderPicture d argumentsValid => cases on
      | endPicture d => cases on
      | call d outcome => cases on
      | createSurface r format image =>
          change Driver.createSurface s r format image = some s' at hstep
          unfold Driver.createSurface at hstep
          split at hstep <;> cases hstep
          rfl
      | createContext d entrypoint codec format renderTargets =>
          have hne : c ≠ d := fun h => hcreates (by rw [h]; rfl)
          rw [(create_build hstep).1 c hne]
      | realiseSurface r image =>
          change Driver.realiseSurface s r image = some s' at hstep
          unfold Driver.realiseSurface at hstep
          split at hstep <;> cases hstep
          rfl
      | markExported thread r =>
          change Driver.markExported s thread r = some s' at hstep
          unfold Driver.markExported at hstep
          split at hstep <;> cases hstep
          rfl
      | workUnsafe =>
          cases hstep
          rfl
      | worker d outcome =>
          have hne : c ≠ d := fun h => hworker outcome (by rw [h])
          rw [(workerStep_only hstep).others c hne]
      | destroySurfaces requested =>
          change nvDestroySurfaces s requested = some s' at hstep
          unfold nvDestroySurfaces at hstep
          split at hstep
          · cases hstep
          · split at hstep <;> cases hstep <;> rfl
      | destroyContext d =>
          change nvDestroyContext s d = some s' at hstep
          unfold nvDestroyContext at hstep
          simp only at hstep
          split at hstep
          · cases hstep
          · split at hstep
            · cases hstep
              rfl
            · cases hstep
              apply State.kept_setContext NVContext.worker
              · rfl
              · rfl
      | destroy outcome => exact destroyStep_worker hstep c
      | syncSurface thread r =>
          change nvSyncSurface s thread r = some s' at hstep
          unfold nvSyncSurface at hstep
          split at hstep
          · cases hstep
          · split at hstep <;> cases hstep <;> rfl
      | sync thread =>
          change syncStep s thread = some s' at hstep
          unfold syncStep at hstep
          split at hstep
          · cases hstep
          · split at hstep <;> cases hstep
            rfl
          · split at hstep <;> cases hstep
            rfl
          · cases hstep
            rfl
          · cases hstep

/-! ## Copies -/

/-- A worker that has a copy under way after a step has begun it with the step, for an
image that it flags. -/
theorem workerStep_copies {outcome : WorkerOutcome} (hstep : workerStep s c outcome = some s')
    (hcopies : (s'.contexts c).worker.copies = some q) :
    (s.contexts c).worker.copies = some q ∨ s.marks (.worker c outcome) = some (q, true) := by
  unfold workerStep at hstep
  cases hworker : (s.contexts c).worker <;> rw [hworker] at hstep <;> simp only at hstep
  case exporting job =>
    unfold workerExporting at hstep
    split at hstep
    · split at hstep
      · cases hstep
        simp [setWorker, WorkerPhase.copies] at hcopies
      · rename_i hsafe
        cases hstep
        refine .inr ?_
        simpa [State.marks, hworker, hsafe, setWorker, WorkerPhase.copies] using hcopies
    · cases hstep
      simp [setWorker, WorkerPhase.copies] at hcopies
    · cases hstep
  case copying job =>
    refine .inl ?_
    unfold workerCopying at hstep
    split at hstep
    · cases hstep
      simpa [setWorker, WorkerPhase.copies] using hcopies
    · cases hstep
      simpa [setWorker, recordJobFailure, WorkerPhase.copies] using hcopies
    · cases hstep
  case absent => cases hstep
  case exited => cases hstep
  case starting =>
    unfold workerStart at hstep
    split at hstep <;> cases hstep <;> simp [setWorker, WorkerPhase.copies] at hcopies
  case cancelled jobs imageDone =>
    unfold workerCancelled at hstep
    split at hstep <;> cases hstep <;> simp [setWorker, WorkerPhase.copies] at hcopies
  case pop =>
    unfold workerPop at hstep
    simp only at hstep
    split at hstep
    · cases hstep
      simp [WorkerPhase.copies] at hcopies
    · split at hstep
      · cases hstep
      · split at hstep
        · cases hstep
          simp [setWorker, WorkerPhase.copies] at hcopies
        · split at hstep <;> cases hstep <;> simp [setWorker, WorkerPhase.copies] at hcopies
  case popped job =>
    unfold workerPopped at hstep
    split at hstep
    · split at hstep <;> cases hstep <;> simp [setWorker, WorkerPhase.copies] at hcopies
    · cases hstep
      simp [setWorker, WorkerPhase.copies] at hcopies
    · cases hstep
  case unmapping job failed copied =>
    unfold workerUnmapping at hstep
    split at hstep
    · split at hstep <;> cases hstep
      simp [setWorker, WorkerPhase.copies] at hcopies
    · split at hstep <;> cases hstep <;> simp [setWorker, WorkerPhase.copies] at hcopies
    · cases hstep
      simp [setWorker, WorkerPhase.copies] at hcopies
  case publish job failed =>
    unfold workerPublish at hstep
    simp only at hstep
    split at hstep <;> cases hstep <;> simp [setWorker, WorkerPhase.copies] at hcopies
  case clearImage job failed =>
    cases hstep
    simp [setWorker, WorkerPhase.copies] at hcopies
  case clear job failed =>
    cases hstep
    simp [setWorker, WorkerPhase.copies] at hcopies

/-- The section of a call that comes after one of the context. -/
theorem paired_step (hpairs : (s.contexts c).phase.pairs = true) (hcall : a.callOn = some c)
    (hstep : Driver.step s a = some s') : Paired s c a s' := by
  by_cases hidle : (s.contexts c).phase = .idle
  · have hwhole : (s.contexts c).phase.whole = true := by rw [hidle]; rfl
    cases a with
    | beginPicture e r =>
        cases hcall
        exact .of_whole (nvBeginPicture_whole hwhole hstep)
    | renderPicture e argumentsValid =>
        cases hcall
        exact .of_whole (nvRenderPicture_whole hwhole hstep)
    | endPicture e =>
        cases hcall
        exact .of_whole (nvEndPicture_whole hwhole hstep)
    | call e outcome =>
        cases hcall
        change callStep s c outcome = some s' at hstep
        unfold callStep at hstep
        rw [hidle] at hstep
        cases hstep
    | _ => cases hcall
  · obtain ⟨outcome, rfl, hcallStep⟩ := callStep_of_open hcall hidle hstep
    exact callStep_paired hpairs hcallStep

/-- Contexts whose call and worker a step does not move. -/
theorem created_of_creates (hcreates : a.creates = some c) (hstep : Driver.step s a = some s') :
    (s'.contexts c).phase = .idle ∧
      ((s'.contexts c).worker = .starting ∨ (s'.contexts c).worker = .absent) := by
  cases a with
  | createContext d entrypoint codec format renderTargets =>
      cases hcreates
      refine ⟨(create_build hstep).2, ?_⟩
      change nvCreateContext s c entrypoint codec format renderTargets = some s' at hstep
      unfold nvCreateContext at hstep
      split at hstep
      · cases hstep
      · split at hstep <;> cases hstep <;> simp
  | _ => cases hcreates

/-- A copy that is under way after a step was under way before or is begun by the step. -/
theorem copying_step (hbasic : Basic s) (hcoursed : s.coursed)
    (hpairs : ∀ c, (s.contexts c).phase.pairs = true) (hstep : Driver.step s a = some s')
    (hcopying : s'.copying q) :
    s.copying q ∨ s.marks a = some (q, true) ∨ s.startsBlit a = some q := by
  obtain ⟨c, hcopies | hblits⟩ := hcopying
  · by_cases hworker : ∃ outcome, a = .worker c outcome
    · obtain ⟨outcome, rfl⟩ := hworker
      rcases workerStep_copies hstep hcopies with hbefore | hmarks
      · exact .inl ⟨c, .inl hbefore⟩
      · exact .inr (.inl hmarks)
    · by_cases hcreates : a.creates = some c
      · rcases (created_of_creates hcreates hstep).2 with h | h <;>
          rw [h] at hcopies <;> cases hcopies
      · rw [worker_kept hbasic (fun outcome h => hworker ⟨outcome, h⟩) hcreates hstep] at hcopies
        exact .inl ⟨c, .inl hcopies⟩
  · unfold State.blits at hblits
    split at hblits
    · rename_i src hphase
      by_cases hcall : a.callOn = some c
      · obtain ⟨hwait, htarget⟩ := (paired_step (hpairs c) hcall hstep).blits src hphase
        have hopen : (s.contexts c).phase ≠ .idle := by simp [hwait]
        obtain ⟨outcome, rfl, _⟩ := callStep_of_open hcall hopen hstep
        refine .inr (.inr ?_)
        simp only [State.startsBlit, hwait]
        exact htarget.symm.trans hblits
      · by_cases hcreates : a.creates = some c
        · rw [(created_of_creates hcreates hstep).1] at hphase
          cases hphase
        · have hkept := callKept_step hbasic hcoursed hcall hcreates hstep
          refine .inl ⟨c, .inr ?_⟩
          rw [hkept.phase] at hphase
          simp only [State.blits, hphase]
          exact hkept.renderTarget.symm.trans hblits
    · cases hblits

/-! ## Half-way between the two flags -/

theorem workerStep_settles {outcome : WorkerOutcome} (hstep : workerStep s c outcome = some s')
    (hsettles : (s'.contexts c).worker.settles = some q) :
    s.marks (.worker c outcome) = some (q, false) := by
  unfold workerStep at hstep
  cases hworker : (s.contexts c).worker <;> rw [hworker] at hstep <;> simp only at hstep
  case clearImage job failed =>
    cases hstep
    simpa [State.marks, hworker, setWorker, WorkerPhase.settles] using hsettles
  case cancelled jobs imageDone =>
    unfold workerCancelled at hstep
    split at hstep
    · cases hstep
      simp [setWorker, WorkerPhase.settles] at hsettles
    · cases hstep
      simpa [State.marks, hworker, setWorker, WorkerPhase.settles] using hsettles
    · cases hstep
      rename_i job rest
      cases rest <;> simp [setWorker, WorkerPhase.settles] at hsettles
  case absent => cases hstep
  case exited => cases hstep
  case starting =>
    unfold workerStart at hstep
    split at hstep
    · cases hstep
      simp [setWorker, WorkerPhase.settles] at hsettles
    · cases hstep
      cases hitems : (s.contexts c).resolveQueue.items <;>
        simp [hitems, WorkerPhase.settles] at hsettles
    · cases hstep
  case exporting job =>
    unfold workerExporting at hstep
    split at hstep
    · split at hstep <;> cases hstep <;> simp [setWorker, WorkerPhase.settles] at hsettles
    · cases hstep
      simp [setWorker, WorkerPhase.settles] at hsettles
    · cases hstep
  case copying job =>
    unfold workerCopying at hstep
    split at hstep <;> cases hstep <;> simp [setWorker, WorkerPhase.settles] at hsettles
  case pop =>
    unfold workerPop at hstep
    simp only at hstep
    split at hstep
    · cases hstep
      simp [WorkerPhase.settles] at hsettles
    · split at hstep
      · cases hstep
      · split at hstep
        · cases hstep
          simp [setWorker, WorkerPhase.settles] at hsettles
        · split at hstep <;> cases hstep <;> simp [setWorker, WorkerPhase.settles] at hsettles
  case popped job =>
    unfold workerPopped at hstep
    split at hstep
    · split at hstep <;> cases hstep <;> simp [setWorker, WorkerPhase.settles] at hsettles
    · cases hstep
      simp [setWorker, WorkerPhase.settles] at hsettles
    · cases hstep
  case unmapping job failed copied =>
    unfold workerUnmapping at hstep
    split at hstep
    · split at hstep <;> cases hstep
      simp [setWorker, WorkerPhase.settles] at hsettles
    · split at hstep <;> cases hstep <;> simp [setWorker, WorkerPhase.settles] at hsettles
    · cases hstep
      simp [setWorker, WorkerPhase.settles] at hsettles
  case publish job failed =>
    unfold workerPublish at hstep
    simp only at hstep
    split at hstep <;> cases hstep <;> simp [setWorker, WorkerPhase.settles] at hsettles
  case clear job failed =>
    cases hstep
    simp [setWorker, WorkerPhase.settles] at hsettles

/-- `nvDestroyContext` clears a surface's own flag right after the image's. -/
theorem destroySettles_step (hbasic : Basic s) (hstep : Driver.step s a = some s')
    (hsettles : s'.destroySettles = some q) :
    s.destroySettles = some q ∨ s.marks a = some (q, false) := by
  have hsame : s'.lifetimeWriter = s.lifetimeWriter → s.destroySettles = some q := by
    intro hwriter
    unfold State.destroySettles at hsettles ⊢
    rw [← hwriter]
    exact hsettles
  cases step_effect hbasic.ok hstep with
  | call d _ effect => exact .inl (hsame effect.frame.lifetimeWriter)
  | sync _ thread effect => exact .inl (hsame effect.lifetimeWriter)
  | thread on effect =>
      clear effect
      cases a with
      | beginPicture d r => cases on
      | renderPicture d argumentsValid => cases on
      | endPicture d => cases on
      | call d outcome => cases on
      | createSurface r format image =>
          change Driver.createSurface s r format image = some s' at hstep
          unfold Driver.createSurface at hstep
          split at hstep <;> cases hstep
          exact .inl (hsame rfl)
      | createContext d entrypoint codec format renderTargets =>
          change nvCreateContext s d entrypoint codec format renderTargets = some s' at hstep
          unfold nvCreateContext at hstep
          split at hstep
          · cases hstep
          · split at hstep <;> cases hstep <;> exact .inl (hsame rfl)
      | realiseSurface r image =>
          change Driver.realiseSurface s r image = some s' at hstep
          unfold Driver.realiseSurface at hstep
          split at hstep <;> cases hstep
          exact .inl (hsame rfl)
      | markExported thread r =>
          change Driver.markExported s thread r = some s' at hstep
          unfold Driver.markExported at hstep
          split at hstep <;> cases hstep
          exact .inl (hsame rfl)
      | workUnsafe =>
          cases hstep
          exact .inl (hsame rfl)
      | worker d outcome => exact .inl (hsame (workerStep_only hstep).lifetimeWriter)
      | destroySurfaces requested =>
          change nvDestroySurfaces s requested = some s' at hstep
          unfold nvDestroySurfaces at hstep
          split at hstep
          · cases hstep
          · split at hstep
            · cases hstep
              cases hsettles
            · cases hstep
              exact .inl (hsame rfl)
      | destroyContext d =>
          change nvDestroyContext s d = some s' at hstep
          unfold nvDestroyContext at hstep
          simp only at hstep
          split at hstep
          · cases hstep
          · split at hstep
            · cases hstep
              exact .inl (hsame rfl)
            · cases hstep
              simp only [State.destroySettles] at hsettles
              split at hsettles
              · rename_i hwriter
                split at hwriter <;> cases hwriter
              · cases hsettles
      | destroy outcome =>
          change destroyStep s outcome = some s' at hstep
          unfold destroyStep at hstep
          split at hstep
          · cases hstep
          · unfold destroySurfacesStep at hstep
            split at hstep
            · cases hstep
              cases hsettles
            · split at hstep <;> cases hstep
              cases hsettles
            · split at hstep <;> cases hstep
              cases hsettles
            · obtain ⟨t, _, rfl⟩ := Option.map_eq_some_iff.mp hstep
              cases hsettles
            · cases hstep
              cases hsettles
          · rename_i d stage hwriter
            unfold destroyContextStep at hstep
            simp only at hstep
            split at hstep
            · cases hstep
              cases hitems : (s.contexts d).resolveQueue.items <;>
                simp [State.destroySettles, setWriter, hitems] at hsettles
            · cases hstep
              cases hsettles
            · cases hstep
              refine .inr ?_
              simpa [State.marks, hwriter, State.destroySettles, setWriter] using hsettles
            · rename_i job rest
              cases hstep
              cases rest <;> simp [State.destroySettles, setWriter] at hsettles
            · split at hstep
              · cases hstep
                cases hsettles
              · split at hstep <;> cases hstep
                cases hsettles
              · cases hstep
            · split at hstep
              · cases hstep
                cases hsettles
              · split at hstep
                · cases hstep
                  cases hsettles
                · split at hstep <;> cases hstep <;> cases hsettles
            · cases hstep
              cases hsettles
            · cases hstep
              cases hsettles
      | syncSurface thread r =>
          change nvSyncSurface s thread r = some s' at hstep
          unfold nvSyncSurface at hstep
          split at hstep
          · cases hstep
          · split at hstep <;> cases hstep <;> exact .inl (hsame rfl)
      | sync thread =>
          change syncStep s thread = some s' at hstep
          unfold syncStep at hstep
          split at hstep
          · cases hstep
          · split at hstep <;> cases hstep
            exact .inl (hsame rfl)
          · split at hstep <;> cases hstep
            exact .inl (hsame rfl)
          · cases hstep
            exact .inl (hsame rfl)
          · cases hstep

/-- A thread that is half-way between the two flags of a surface was so before, or has
just cleared the flag of the image. -/
theorem settling_step (hbasic : Basic s) (hcoursed : s.coursed)
    (hpairs : ∀ c, (s.contexts c).phase.pairs = true) (hstep : Driver.step s a = some s')
    (hsettling : s'.settling q) : s.settling q ∨ s.marks a = some (q, false) := by
  rcases hsettling with ⟨c, hsettles⟩ | ⟨c, hsettles⟩ | hsettles
  · by_cases hcall : a.callOn = some c
    · exact .inr ((paired_step (hpairs c) hcall hstep).settles q hsettles)
    · by_cases hcreates : a.creates = some c
      · simp [State.settles, (created_of_creates hcreates hstep).1] at hsettles
      · have hkept := callKept_step hbasic hcoursed hcall hcreates hstep
        unfold State.settles at hsettles
        rw [hkept.phase, hkept.renderTarget] at hsettles
        exact .inl (.inl ⟨c, hsettles⟩)
  · by_cases hworker : ∃ outcome, a = .worker c outcome
    · obtain ⟨outcome, rfl⟩ := hworker
      exact .inr (workerStep_settles hstep hsettles)
    · by_cases hcreates : a.creates = some c
      · rcases (created_of_creates hcreates hstep).2 with h | h <;>
          rw [h] at hsettles <;> cases hsettles
      · rw [worker_kept hbasic (fun outcome h => hworker ⟨outcome, h⟩) hcreates hstep] at hsettles
        exact .inl (.inr (.inl ⟨c, hsettles⟩))
  · rcases destroySettles_step hbasic hstep hsettles with hbefore | hmarks
    · exact .inl (.inr (.inr hbefore))
    · exact .inr hmarks

/-- The flag of a surface is cleared by a thread that is half-way. -/
theorem settling_of_completes (hbasic : Basic s) (hstep : Driver.step s a = some s')
    (hpending : (s.surfaces q).resolving = true) (hdone : (s'.surfaces q).resolving = false) :
    s.settling q := by
  have hsame : (s'.surfaces q).flags = (s.surfaces q).flags → False := by
    intro hflags
    have hresolving : (s'.surfaces q).resolving = (s.surfaces q).resolving :=
      congrArg Flags.resolving hflags
    simp [hresolving, hpending] at hdone
  have hstarted : ∀ {p}, (s'.surfaces q).flags = ((s.surfaces q).start p).flags → False := by
    intro p hflags
    have hresolving : (s'.surfaces q).resolving = true := congrArg Flags.resolving hflags
    simp [hresolving] at hdone
  have hkept : ∀ {r : SurfaceRef}, (s'.surfaces r).resolving = (s.surfaces r).resolving →
      q ≠ r := by
    rintro r hresolving rfl
    simp [hresolving, hpending] at hdone
  cases step_effect hbasic.ok hstep with
  | sync _ thread effect => exact (hsame (by rw [effect.surfaces])).elim
  | call c _ effect =>
      cases effect with
      | advance _ flags => exact (hsame (flags q)).elim
      | begin _ flags => exact (hsame (flags q)).elim
      | acquire _ _ flags => exact (hsame (flags q)).elim
      | take _ _ flags => exact (hsame (flags q)).elim
      | push _ _ flags => exact (hsame (flags q)).elim
      | start r _ others flags =>
          by_cases hr : q = r
          · exact (hstarted (hr ▸ flags)).elim
          · exact (hsame (others q hr)).elim
      | redirect r _ others flags =>
          by_cases hr : q = r
          · exact (hstarted (hr ▸ flags)).elim
          · exact (hsame (others q hr)).elim
      | publish r _ _ others flags =>
          exact (hsame (others q (hkept (congrArg Flags.resolving flags)))).elim
      | make r _ _ others flags =>
          exact (hsame (others q (hkept (congrArg Flags.resolving flags)))).elim
      | clear section_ rest next _ flags stage =>
          obtain ⟨next', hphase⟩ := phase_of_stage_clearing stage
          refine .inl ⟨c, ?_⟩
          simp only [State.settles, hphase]
          by_contra hclears
          exact hsame ((flags q).trans (congrArg NVSurface.flags (section_.run_surfaces_ne s hclears)))
      | handOver r _ others _ status phase render =>
          by_cases hr : q = r
          · subst hr
            refine .inl ⟨c, ?_⟩
            simp only [State.settles, phase]
            exact render
          · exact (hsame (others q hr)).elim
  | thread _ effect =>
      cases effect with
      | pass _ flags => exact (hsame (flags q)).elim
      | worsen _ _ _ flags => exact (hsame (flags q)).elim
      | drop _ _ _ flags => exact (hsame (flags q)).elim
      | createSurface _ _ _ _ flags => exact (hsame (flags q)).elim
      | createContext _ _ _ _ _ _ _ _ surfaces => exact (hsame (by rw [surfaces])).elim
      | remove _ _ _ _ _ flags => exact (hsame (flags q)).elim
      | free _ _ _ _ _ flags => exact (hsame (flags q)).elim
      | destroy _ _ _ _ _ _ _ surfaces => exact (hsame (by rw [surfaces])).elim
      | delete _ _ _ _ _ surfaces => exact (hsame (by rw [surfaces])).elim
      | mark _ p _ _ others flags =>
          exact (hsame (others q (hkept (congrArg Flags.resolving flags)))).elim
      | finish c p _ others _ _ _ _ worker =>
          by_cases hq : q = p.job.surface
          · refine .inr (.inl ⟨c, ?_⟩)
            rw [worker, hq]
            rfl
          · exact (hsame (others q hq)).elim
      | fail c p _ others _ _ _ taken =>
          by_cases hq : q = p.job.surface
          · obtain ⟨rest, hworker | hwriter⟩ := taken
            · refine .inr (.inl ⟨c, ?_⟩)
              rw [hworker, hq]
              rfl
            · refine .inr (.inr ?_)
              simp only [State.destroySettles, hwriter, hq]
          · exact (hsame (others q hq)).elim

/-! ## Who is not half-way -/

/-- A call that is half-way between the flags of a surface has it as a target. -/
theorem target_of_settles (hok : (s.contexts c).control.okAt (s.contexts c).control.stage)
    (hsettles : s.settles c = some q) :
    (s.contexts c).control.target q ∧ ¬(s.contexts c).control.settled ∧
      (s.contexts c).control.stage ≠ .between := by
  unfold State.settles at hsettles
  split at hsettles
  · rename_i section_ rest next hphase
    have hstage : (s.contexts c).control.stage = .clearing (section_ :: rest) next.stage := by
      simp [NVContext.control, hphase, Phase.stage]
    obtain ⟨htarget, hunsettled, _⟩ := clearing_target hok hstage hsettles
    exact ⟨htarget, hunsettled, by simp [hstage]⟩
  · rename_i status hphase
    have hstage : (s.contexts c).control.stage = .redirecting true status := by
      simp [NVContext.control, hphase, Phase.stage]
    rw [hstage] at hok
    refine ⟨.inl hsettles, ?_, by simp [hstage]⟩
    have hbuilding := hok.1
    rintro (h | h) <;> simp [h] at hbuilding
  · cases hsettles

theorem mem_outstanding_worker {p : Pending} (hp : p ∈ (s.contexts c).worker.pending) :
    p ∈ s.outstanding c :=
  List.mem_append_left _ (List.mem_append_right _ hp)

/-- A worker that is half-way between the flags of a surface has a job for it. -/
theorem pending_of_settles {worker : WorkerPhase} (hsettles : worker.settles = some q) :
    ∃ p ∈ worker.pending, p.job.surface = q := by
  unfold WorkerPhase.settles at hsettles
  split at hsettles
  · cases hsettles
    exact ⟨_, List.mem_singleton_self _, rfl⟩
  · cases hsettles
    exact ⟨_, List.mem_cons_self, rfl⟩
  · cases hsettles

/-- `nvDestroyContext` has taken a job for such a surface from the queue. -/
theorem cancelled_of_destroySettles (hsettles : s.destroySettles = some q) :
    ∃ c, ∃ job ∈ s.cancelledJobs c, job.surface = q := by
  unfold State.destroySettles at hsettles
  split at hsettles
  · rename_i c job rest hwriter
    cases hsettles
    refine ⟨c, job, ?_, rfl⟩
    simp [State.cancelledJobs, hwriter]
  · cases hsettles

/-- The outstanding jobs of a surface are all one. -/
theorem Exclusive.job_unique (hexclusive : Exclusive s) {p p' : Pending}
    (hp : p ∈ s.outstanding c) (hp' : p' ∈ s.outstanding d)
    (hsurface : p'.job.surface = p.job.surface) :
    c = d ∧ p.job.picture = p'.job.picture := by
  have hstarted := (hexclusive.jobs d p' hp').2.1
  rw [hsurface, (hexclusive.jobs c p hp).2.1] at hstarted
  have hpicture : p.job.picture = p'.job.picture := Option.some.inj hstarted
  refine ⟨?_, hpicture⟩
  rw [← (hexclusive.basic.jobs c p hp).1, ← (hexclusive.basic.jobs d p' hp').1, hpicture]

/-- No job of a surface is outstanding that a picture in the hands of its calls holds. -/
theorem Exclusive.no_job (hexclusive : Exclusive s) (hholds : s.holdsAt c q)
    (hunsettled : ¬(s.contexts c).control.settled) (hpending : (s.surfaces q).resolving = true)
    {p : Pending} (hp : p ∈ s.outstanding d) : p.job.surface ≠ q := by
  rintro rfl
  have hstarted := (hexclusive.jobs d p hp).2.1
  rw [hexclusive.held c _ hholds hpending] at hstarted
  have hpicture : currentPicture s c = p.job.picture := Option.some.inj hstarted
  have hd : c = d :=
    (congrArg Picture.context hpicture).trans (hexclusive.basic.jobs d p hp).1
  subst hd
  exact hunsettled (currentPicture_mem_jobs hexclusive.basic hp hpicture.symm)

/-- Nobody but the picture that holds a surface is half-way between its flags. -/
theorem Exclusive.not_settling_held (hexclusive : Exclusive s) (hholds : s.holdsAt c q)
    (hunsettled : ¬(s.contexts c).control.settled) (hpending : (s.surfaces q).resolving = true)
    (hsettles : s.settles c ≠ some q) : ¬s.settling q := by
  rintro (⟨d, hd⟩ | ⟨d, hd⟩ | hd)
  · obtain ⟨htarget, _, hopen⟩ := target_of_settles (hexclusive.basic.ok d) hd
    have hsame := hexclusive.unique q d c ⟨(hexclusive.basic.lock d hopen).2.1, .inl htarget⟩
      hholds
    exact hsettles (hsame ▸ hd)
  · obtain ⟨p, hp, hsurface⟩ := pending_of_settles hd
    exact hexclusive.no_job hholds hunsettled hpending (mem_outstanding_worker hp) hsurface
  · obtain ⟨d, job, hjob, hsurface⟩ := cancelled_of_destroySettles hd
    have hp : Pending.queued job ∈ s.outstanding d :=
      List.mem_append_right _ (List.mem_map_of_mem hjob)
    exact hexclusive.no_job hholds hunsettled hpending hp hsurface

/-- A worker and `nvDestroyContext` do not both have jobs for one surface. -/
theorem Exclusive.not_cancelled_worker (hexclusive : Exclusive s) {p : Pending} {job : ResolveJob}
    (hp : p ∈ (s.contexts c).worker.pending) (hjob : job ∈ s.cancelledJobs d) :
    job.surface ≠ p.job.surface := by
  intro hsurface
  have hq : Pending.queued job ∈ (s.cancelledJobs d).map .queued := List.mem_map_of_mem hjob
  obtain ⟨rfl, hpicture⟩ := hexclusive.job_unique (mem_outstanding_worker hp)
    (List.mem_append_right _ hq) hsurface
  have hdistinct := hexclusive.basic.distinct c
  rw [State.outstanding, List.map_append] at hdistinct
  apply List.disjoint_of_nodup_append hdistinct
    (List.mem_map.mpr ⟨p, List.mem_append_right _ hp, hpicture⟩)
  exact List.mem_map_of_mem hq

/-- Nobody is half-way between the flags of a surface whose job a worker has not settled. -/
theorem Exclusive.not_settling_worker (hexclusive : Exclusive s) {p : Pending}
    (hp : p ∈ (s.contexts c).worker.pending) (hsettles : (s.contexts c).worker.settles = none) :
    ¬s.settling p.job.surface := by
  have hjob := mem_outstanding_worker hp
  rintro (⟨d, hd⟩ | ⟨d, hd⟩ | hd)
  · obtain ⟨htarget, hunsettled, hopen⟩ := target_of_settles (hexclusive.basic.ok d) hd
    exact hexclusive.no_job ⟨(hexclusive.basic.lock d hopen).2.1, .inl htarget⟩ hunsettled
      (hexclusive.jobs c p hjob).1 hjob rfl
  · obtain ⟨p', hp', hsurface⟩ := pending_of_settles hd
    obtain ⟨rfl, _⟩ := hexclusive.job_unique hjob (mem_outstanding_worker hp') hsurface
    rw [hsettles] at hd
    cases hd
  · obtain ⟨d, job, hcancelled, hsurface⟩ := cancelled_of_destroySettles hd
    exact hexclusive.not_cancelled_worker hp hcancelled hsurface

/-! ## Who clears the flag of an image -/

/-- A worker that has a copy under way has a job for it. -/
theorem pending_of_copies {worker : WorkerPhase} (hcopies : worker.copies = some q) :
    ∃ p ∈ worker.pending, p.job.surface = q := by
  unfold WorkerPhase.copies at hcopies
  split at hcopies
  · cases hcopies
    exact ⟨_, List.mem_singleton_self _, rfl⟩
  · cases hcopies
    exact ⟨_, List.mem_singleton_self _, rfl⟩
  · cases hcopies

/-- A blit has its destination as a target. -/
theorem target_of_blits (hbasic : Basic s) (hblits : s.blits c = some q) :
    s.holdsAt c q ∧ ¬(s.contexts c).control.settled := by
  unfold State.blits at hblits
  split at hblits
  · rename_i src hphase
    have hstage : (s.contexts c).control.stage = .blitting := by
      simp [NVContext.control, hphase, Phase.stage]
    have hok := hbasic.ok c
    rw [hstage] at hok
    refine ⟨⟨(hbasic.lock c (by simp [hstage])).2.1, .inl (.inl hblits)⟩, ?_⟩
    have hbuilding := hok.1
    rintro (h | h) <;> simp [h] at hbuilding
  · cases hblits

/-- A list that begins with the image section of a surface clears the surface too. -/
theorem mem_clearedBy_of_pairs {rest : List ClearSection} {next : Phase}
    (hpairs : (Phase.clearing (.image q :: rest) next).pairs = true) :
    q ∈ clearedBy (.image q :: rest) := by
  cases rest with
  | nil => cases hpairs
  | cons section_ rest =>
      have hclears : section_.clears = some q := by
        simp only [Phase.pairs, paired, halved, clears_image, Option.isSome_none, Bool.false_and,
          Bool.or_false, Bool.and_eq_true, decide_eq_true_eq] at hpairs
        exact hpairs.1.1
      simp [hclears]

/-- Who clears the flag of a surface's image: a call that has the surface as a target
and blits nothing, a worker that copies nothing, or `nvDestroyContext`. -/
theorem cleared_of_marks (hbasic : Basic s)
    (hpairs : ∀ c, (s.contexts c).phase.pairs = true) (hmarks : s.marks a = some (q, false)) :
    (∃ c, s.holdsAt c q ∧ ¬(s.contexts c).control.settled ∧ s.blits c = none) ∨
      (∃ c, ∃ p ∈ (s.contexts c).worker.pending, p.job.surface = q ∧
        (s.contexts c).worker.copies = none) ∨
      ∃ c, ∃ job ∈ s.cancelledJobs c, job.surface = q := by
  cases a with
  | call c outcome =>
      refine .inl ⟨c, ?_⟩
      have hok := hbasic.ok c
      simp only [State.marks] at hmarks
      split at hmarks
      · rename_i r rest next hphase
        cases hmarks
        have hstage : (s.contexts c).control.stage = .clearing (.image q :: rest) next.stage := by
          simp [NVContext.control, hphase, Phase.stage]
        have hunsettled := unsettled_of_clearing hok hstage
        have hopen : (s.contexts c).control.stage ≠ .between := by simp [hstage]
        rw [hstage] at hok
        have htarget : (s.contexts c).control.target q :=
          hok.2.1 q (mem_clearedBy_of_pairs (hphase ▸ hpairs c))
        refine ⟨⟨(hbasic.lock c hopen).2.1, .inl htarget⟩, hunsettled, ?_⟩
        simp only [State.blits, hphase]
      · cases hmarks
      · obtain ⟨_, _, hr⟩ := Option.map_eq_some_iff.mp hmarks
        cases hr
      · rename_i status hphase
        obtain ⟨r, hrender, hr⟩ := Option.map_eq_some_iff.mp hmarks
        cases hr
        have hstage : (s.contexts c).control.stage = .redirecting true status := by
          simp [NVContext.control, hphase, Phase.stage]
        rw [hstage] at hok
        refine ⟨⟨(hbasic.lock c (by simp [hstage])).2.1, .inl (.inl hrender)⟩, ?_, ?_⟩
        · have hbuilding := hok.1
          rintro (h | h) <;> simp [h] at hbuilding
        · simp only [State.blits, hphase]
      · cases hmarks
  | worker c outcome =>
      simp only [State.marks] at hmarks
      split at hmarks
      · split at hmarks <;> cases hmarks
      · rename_i job failed hworker
        cases hmarks
        refine .inr (.inl ⟨c, ⟨job, failed, true⟩, ?_, rfl, ?_⟩)
        · rw [hworker]
          exact List.mem_singleton_self _
        · rw [hworker]
          rfl
      · rename_i job rest hworker
        cases hmarks
        refine .inr (.inl ⟨c, .queued job, ?_, rfl, ?_⟩)
        · rw [hworker]
          exact List.mem_cons_self
        · rw [hworker]
          rfl
      · cases hmarks
  | destroy outcome =>
      simp only [State.marks] at hmarks
      split at hmarks
      · rename_i c job rest hwriter
        cases hmarks
        refine .inr (.inr ⟨c, job, ?_, rfl⟩)
        simp [State.cancelledJobs, hwriter]
      · cases hmarks
  | _ => cases hmarks

/-- With exclusive use the flag of an image is not cleared for a surface that is being
copied to. -/
theorem Exclusive.not_copying_cleared (hexclusive : Exclusive s)
    (hpairs : ∀ c, (s.contexts c).phase.pairs = true)
    (hmarks : s.marks a = some (q, false)) : ¬s.copying q := by
  rintro ⟨d, hcopies | hblits⟩
  · obtain ⟨p, hp, rfl⟩ := pending_of_copies hcopies
    have hjob := mem_outstanding_worker hp
    rcases cleared_of_marks hexclusive.basic hpairs hmarks with ⟨c, hholds, hunsettled, _⟩ |
      ⟨c, p', hp', hsurface, hnone⟩ | ⟨c, job, hcancelled, hsurface⟩
    · exact hexclusive.no_job hholds hunsettled (hexclusive.jobs d p hjob).1 hjob rfl
    · obtain ⟨rfl, _⟩ := hexclusive.job_unique hjob (mem_outstanding_worker hp') hsurface
      rw [hcopies] at hnone
      cases hnone
    · exact hexclusive.not_cancelled_worker hp hcancelled hsurface
  · obtain ⟨hholds, hunsettled⟩ := target_of_blits hexclusive.basic hblits
    rcases cleared_of_marks hexclusive.basic hpairs hmarks with ⟨c, hholds', _, hnone⟩ |
      ⟨c, p, hp, rfl, _⟩ | ⟨c, job, hcancelled, rfl⟩
    · have hsame := hexclusive.unique q c d hholds' hholds
      rw [hsame, hblits] at hnone
      cases hnone
    · have hjob := mem_outstanding_worker hp
      exact hexclusive.no_job hholds hunsettled (hexclusive.jobs c p hjob).1 hjob rfl
    · have hjob : Pending.queued job ∈ s.outstanding c :=
        List.mem_append_right _ (List.mem_map_of_mem hcancelled)
      exact hexclusive.no_job hholds hunsettled (hexclusive.jobs c _ hjob).1 hjob rfl

/-! ## Who starts a generation -/

theorem stage_of_starting (hstarting : s.starting c = some q) :
    (s.contexts c).control.stage ≠ .between := by
  unfold State.starting at hstarting
  split at hstarting
  · rename_i hphase
    simp [NVContext.control, hphase, Phase.stage]
  · rename_i hphase
    simp [NVContext.control, hphase, Phase.stage]
  · cases hstarting

/-- A section that flags an image does so for the generation that the next section of
its call starts, or for the job that its worker exports. -/
theorem starts_of_marks (hmarks : s.marks a = some (q, true))
    (hstep : Driver.step s a = some s') :
    (∃ c, s'.starting c = some q) ∨
      ∃ c job outcome, a = .worker c outcome ∧ (s.contexts c).worker = .exporting job ∧
        job.surface = q := by
  cases a with
  | call c outcome =>
      refine .inl ⟨c, ?_⟩
      change callStep s c outcome = some s' at hstep
      simp only [State.marks] at hmarks
      unfold callStep at hstep
      split at hmarks
      · cases hmarks
      · rename_i r hphase
        cases hmarks
        simp only [hphase] at hstep
        cases hstep
        simp [State.starting, goto]
      · rename_i status hphase
        simp only [hphase] at hstep
        obtain ⟨r, htarget, hr⟩ := Option.map_eq_some_iff.mp hmarks
        cases hr
        simp only [handOverStartImage, htarget] at hstep
        cases hstep
        simp only [State.starting, goto, State.setContext_contexts, if_true]
        exact htarget
      · obtain ⟨r, _, hr⟩ := Option.map_eq_some_iff.mp hmarks
        cases hr
      · cases hmarks
  | worker c outcome =>
      refine .inr ⟨c, ?_⟩
      simp only [State.marks] at hmarks
      split at hmarks
      · rename_i job hworker
        split at hmarks
        · cases hmarks
          exact ⟨job, outcome, rfl, hworker, rfl⟩
        · cases hmarks
      · cases hmarks
      · cases hmarks
      · cases hmarks
  | destroy outcome =>
      simp only [State.marks] at hmarks
      split at hmarks <;> cases hmarks
  | _ => cases hmarks

/-- The generation starts, and its surface belongs to the picture. -/
theorem Exclusive.starting_step (hexclusive : Exclusive s) (hexclusive' : Exclusive s')
    (hstarting : s.starting c = some q) (hcall : a.callOn = some c)
    (hstep : Driver.step s a = some s') :
    (s'.surfaces q).resolving = true ∧ ¬s'.settling q := by
  have hopen := stage_of_starting hstarting
  have hok := hexclusive.basic.ok c
  have hlive := (hexclusive.basic.lock c hopen).2.1
  have hphase : (s.contexts c).phase ≠ .idle := by
    intro hidle
    simp [NVContext.control, hidle] at hopen
  obtain ⟨outcome, rfl, hcallStep⟩ := callStep_of_open hcall hphase hstep
  have hheld : (s'.surfaces q).resolving = true → s'.holdsAt c q →
      (s'.contexts c).pictureState = .building → s'.settles c = none →
      (s'.surfaces q).resolving = true ∧ ¬s'.settling q := by
    intro hpending hholds hbuilding hsettles
    refine ⟨hpending, hexclusive'.not_settling_held hholds ?_ hpending (by simp [hsettles])⟩
    rintro (h | h) <;> cases hbuilding.symm.trans h
  unfold State.starting at hstarting
  unfold callStep at hcallStep
  split at hstarting
  · rename_i r hbegin
    cases hstarting
    rw [show (s.contexts c).control.stage = .acquiring q by
      simp [NVContext.control, hbegin, Phase.stage]] at hok
    have hbuilding : (s.contexts c).pictureState = .building := hok.1
    simp only [hbegin] at hcallStep
    unfold beginStart at hcallStep
    simp only at hcallStep
    split at hcallStep
    · cases hcallStep
      apply hheld
      · simp [NVSurface.start]
      · exact ⟨by simpa using hlive, .inl (.inl (by simp [NVContext.control]))⟩
      · simpa using hbuilding
      · simp [State.settles]
    · cases hcallStep
      apply hheld
      · simp [NVSurface.start]
      · exact ⟨by simpa using hlive, .inl (.inl (by simp [NVContext.control]))⟩
      · simpa using hbuilding
      · simp [State.settles]
  · rename_i status hover
    rw [show (s.contexts c).control.stage = .redirecting false status by
      simp [NVContext.control, hover, Phase.stage]] at hok
    have hbuilding : (s.contexts c).pictureState = .building := hok.1
    simp only [hover] at hcallStep
    simp only [handOverStart, hstarting] at hcallStep
    cases hcallStep
    have htarget : (s.contexts c).control.target q := Control.target_of_outputTarget hstarting
    apply hheld
    · simp [goto, NVSurface.start]
    · refine ⟨by simpa [goto] using hlive, .inl ?_⟩
      simpa [goto, Control.target, NVContext.control] using htarget
    · simpa [goto] using hbuilding
    · simp [State.settles, goto]
  · cases hstarting

/-! ## The images of a step -/

/-- A surface keeps its image until it is freed. -/
theorem ImageEffect.syncImage_kept (heffect : ImageEffect s a s') {i : ImageRef}
    (hsync : surfaceSyncBackingImage s q = some i) :
    surfaceSyncBackingImage s' q = some i ∨ s.waited q := by
  rw [surfaceSyncBackingImage_imaging] at hsync ⊢
  have himaged : s.imaging.backingImage q ≠ none := by
    intro hnone
    simp [Imaging.syncImage, hnone] at hsync
  cases heffect with
  | mark imaging =>
      refine .inl ?_
      rw [imaging, marked_syncImage]
      exact hsync
  | create r format image on absent imaging =>
      have hne : q ≠ r := by
        rintro rfl
        exact himaged (by simp [State.imaging, absent])
      refine .inl ?_
      rw [imaging]
      simpa [Imaging.syncImage, Imaging.syncOf, Function.update_of_ne hne] using hsync
  | realise r image on unrealised own imaging =>
      have hne : q ≠ r := by
        rintro rfl
        exact himaged unrealised
      refine .inl ?_
      rw [imaging]
      simpa [Imaging.syncImage, Imaging.syncOf, Function.update_of_ne hne] using hsync
  | «export» thread r on imaging =>
      refine .inl ?_
      rw [imaging]
      exact hsync
  | free r rest on lifetimeWriter imaging =>
      by_cases hq : q = r
      · subst hq
        exact .inr ⟨rest, .free, (by simp), lifetimeWriter⟩
      · refine .inl ?_
        rw [imaging]
        simpa [Imaging.syncImage, Imaging.syncOf, Function.update_of_ne hq] using hsync

/-- A step that writes a flag gives no surface another image. -/
theorem ImageEffect.syncImage_marked (heffect : ImageEffect s a s') (hmarks : s.marks a ≠ none)
    (r : SurfaceRef) : surfaceSyncBackingImage s' r = surfaceSyncBackingImage s r := by
  rw [surfaceSyncBackingImage_imaging, surfaceSyncBackingImage_imaging]
  cases heffect with
  | mark imaging => rw [imaging, marked_syncImage]
  | create _ _ _ on =>
      subst on
      exact absurd rfl hmarks
  | realise _ _ on =>
      subst on
      exact absurd rfl hmarks
  | «export» _ _ on =>
      subst on
      exact absurd rfl hmarks
  | free _ _ on lifetimeWriter =>
      obtain ⟨outcome, rfl⟩ := on
      exact absurd (by simp [State.marks, lifetimeWriter]) hmarks

theorem ImageEffect.image_marked (heffect : ImageEffect s a s') {resolving : Bool} {i : ImageRef}
    (hmarks : s.marks a = some (r, resolving)) (hsync : surfaceSyncBackingImage s r = some i)
    (hinit : (s.images i).syncInitialized = true) : (s'.images i).resolving = resolving := by
  rw [heffect.images i, hmarks, marked_images_self s hsync hinit]

/-- An image that a step changes has its flag written for one of its surfaces. -/
theorem ImageEffect.image_cases (heffect : ImageEffect s a s') (i : ImageRef) :
    s'.images i = s.images i ∨ ∃ r resolving, s.marks a = some (r, resolving) ∧
      surfaceSyncBackingImage s r = some i ∧ (s.images i).syncInitialized = true ∧
      s'.images i = { s.images i with resolving := resolving } := by
  rw [heffect.images i]
  exact marked_images s (s.marks a) i

theorem ImageEffect.syncInitialized (heffect : ImageEffect s a s') (i : ImageRef) :
    (s'.images i).syncInitialized = (s.images i).syncInitialized := by
  rcases heffect.image_cases i with hsame | ⟨_, _, _, _, _, hwritten⟩
  · rw [hsame]
  · rw [hwritten]

/-! ## The invariant is kept -/

/-- A copy goes on with the flag of its image set, or begins with it. -/
theorem ImageFlags.flagged_step (hflags : ImageFlags s) (hcond : ImagesQuiet s a)
    (hstep : Driver.step s a = some s') {i : ImageRef} (hcopying : s'.copying q)
    (hsync : surfaceSyncBackingImage s' q = some i)
    (hinit : (s'.images i).syncInitialized = true) : (s'.images i).resolving = true := by
  have himage := step_imaging hstep
  rw [himage.syncInitialized] at hinit
  rcases copying_step hflags.exclusive.basic hflags.coursed hflags.pairs hstep hcopying with
    hbefore | hmarks | hblits
  · have hsyncBefore : surfaceSyncBackingImage s q = some i := by
      rcases himage.syncImage hsync with hkept | ⟨image, _, ⟨format, hon, _⟩ | hon⟩
      · exact hkept
      · exact absurd hbefore (hcond.created q format image hon)
      · exact absurd hbefore (hcond.realised q image hon)
    have hresolving := hflags.flagged q i hbefore hsyncBefore hinit
    rcases himage.image_cases i with hsame | ⟨r, resolving, hmarks, hr, _, hwritten⟩
    · rw [hsame]
      exact hresolving
    · rw [hwritten]
      cases resolving with
      | true => rfl
      | false =>
          have hne : q ≠ r := by
            rintro rfl
            exact hflags.exclusive.not_copying_cleared hflags.pairs hmarks hbefore
          exact absurd hsyncBefore (hcond.clears r hmarks i hr q hne hbefore)
  · rw [himage.syncImage_marked (by simp [hmarks])] at hsync
    exact himage.image_marked hmarks hsync hinit
  · cases a with
    | call c outcome =>
        have hnone : s.marks (.call c outcome) = none := by
          simp only [State.startsBlit] at hblits
          split at hblits
          · rename_i hphase
            simp only [State.marks, hphase]
          · cases hblits
        have hsyncBefore : surfaceSyncBackingImage s q = some i := by
          rcases himage.syncImage hsync with hkept | ⟨_, _, ⟨_, hon, _⟩ | hon⟩
          · exact hkept
          · cases hon
          · cases hon
        have hresolving := hcond.blits q hblits i hsyncBefore hinit
        rw [himage.images i, hnone]
        exact hresolving
    | _ => cases hblits

/-- A surface that is about to start a generation, or has one that is not half ended, is
left for every flag. -/
theorem ImageFlags.answered_step (hflags : ImageFlags s) (hexclusive : Exclusive s')
    (hstep : Driver.step s a = some s') {i : ImageRef}
    (hresolving : (s'.images i).resolving = true) :
    ∃ q, surfaceSyncBackingImage s' q = some i ∧
      ((∃ c, s'.starting c = some q) ∨ ((s'.surfaces q).resolving = true ∧ ¬s'.settling q)) := by
  have hbasic := hflags.exclusive.basic
  have himage := step_imaging hstep
  rcases himage.image_cases i with hsame | ⟨r, resolving, hmarks, hr, hinit, hwritten⟩
  · rw [hsame] at hresolving
    obtain ⟨q, hq, ⟨c, hstarting⟩ | ⟨hpending, hsettling⟩⟩ := hflags.answered i hresolving
    · have hopen := stage_of_starting hstarting
      obtain ⟨_, hlive, hunlocked⟩ := hbasic.lock c hopen
      have hkept : surfaceSyncBackingImage s' q = some i := by
        rcases himage.syncImage_kept hq with hkept | ⟨_, _, _, hwriter⟩
        · exact hkept
        · rw [hunlocked] at hwriter
          cases hwriter
      refine ⟨q, hkept, ?_⟩
      by_cases hcall : a.callOn = some c
      · exact .inr (hflags.exclusive.starting_step hexclusive hstarting hcall hstep)
      · have hcreates : a.creates ≠ some c := by
          intro hcreates
          cases a with
          | createContext d entrypoint codec format renderTargets =>
              cases hcreates
              change nvCreateContext s c entrypoint codec format renderTargets = some s' at hstep
              simp [nvCreateContext, hlive] at hstep
          | _ => cases hcreates
        have hcallKept := callKept_step hbasic hflags.coursed hcall hcreates hstep
        refine .inl ⟨c, ?_⟩
        unfold State.starting at hstarting ⊢
        rw [hcallKept.phase, hcallKept.outputTarget]
        exact hstarting
    · have hkept : surfaceSyncBackingImage s' q = some i := by
        rcases himage.syncImage_kept hq with hkept | hwaited
        · exact hkept
        · have hresolved := hflags.waited q hwaited
          simp [hpending] at hresolved
      refine ⟨q, hkept, .inr ⟨?_, ?_⟩⟩
      · by_contra hdone
        exact hsettling (settling_of_completes hbasic hstep hpending (by simpa using hdone))
      · intro hnow
        rcases settling_step hbasic hflags.coursed hflags.pairs hstep hnow with hbefore | hmarks
        · exact hsettling hbefore
        · have hcleared := himage.image_marked hmarks hq (hflags.initialized i hresolving)
          rw [hsame, hresolving] at hcleared
          cases hcleared
  · rw [hwritten] at hresolving
    change resolving = true at hresolving
    subst hresolving
    rw [← himage.syncImage_marked (by simp [hmarks])] at hr
    refine ⟨r, hr, ?_⟩
    rcases starts_of_marks hmarks hstep with hstarting | ⟨c, job, outcome, rfl, hworker, rfl⟩
    · exact .inl hstarting
    · -- the job goes on to its copy
      have hnow : (s'.contexts c).worker = .copying job := by
        simp only [State.marks, hworker] at hmarks
        split at hmarks
        · rename_i hgoes
          change workerStep s c outcome = some s' at hstep
          simp only [workerStep, hworker, hgoes.1, workerExporting, hgoes.2] at hstep
          cases hstep
          simp [setWorker]
        · cases hmarks
      have hp : ⟨job, false, false⟩ ∈ (s'.contexts c).worker.pending := by
        rw [hnow]
        exact List.mem_singleton_self _
      refine .inr ⟨(hexclusive.jobs c _ (mem_outstanding_worker hp)).1, ?_⟩
      exact hexclusive.not_settling_worker hp (by rw [hnow]; rfl)

theorem ImageFlags.step (hflags : ImageFlags s) (hcond : ImagesQuiet s a)
    (hstep : Driver.step s a = some s') : ImageFlags s' where
  exclusive := hflags.exclusive.step hcond.exclusive hstep
  coursed := coursed_step hflags.coursed hstep
  owned := hflags.owned.step hcond.atRest hstep
  pairs := by
    intro c
    by_cases hcall : a.callOn = some c
    · exact (paired_step (hflags.pairs c) hcall hstep).pairs
    · by_cases hcreates : a.creates = some c
      · rw [(created_of_creates hcreates hstep).1]
        rfl
      · rw [(callKept_step hflags.exclusive.basic hflags.coursed hcall hcreates hstep).phase]
        exact hflags.pairs c
  waited := by
    cases step_effect hflags.exclusive.basic.ok hstep with
    | call c _ effect => exact hflags.exclusive.waited_call hflags.waited effect
    | thread _ effect => exact effect.waited_resolved hflags.waited
    | sync _ thread effect =>
        simp only [State.waited, effect.surfaces, effect.lifetimeWriter]
        exact hflags.waited
  flagged := fun _ _ hcopying hsync hinit => hflags.flagged_step hcond hstep hcopying hsync hinit
  initialized := by
    intro i hresolving
    rw [(step_imaging hstep).syncInitialized]
    rcases (step_imaging hstep).image_cases i with hsame | ⟨_, _, _, _, hinit, _⟩
    · rw [hsame] at hresolving
      exact hflags.initialized i hresolving
    · exact hinit
  answered := fun _ hresolving =>
    hflags.answered_step (hflags.exclusive.step hcond.exclusive hstep) hstep hresolving

theorem imageFlags_init (config : DriverConfig) {images : ImageRef → BackingImage}
    (hfresh : ∀ i, (images i).resolving = false) :
    ImageFlags (driver config images).init where
  exclusive := exclusive_init config images
  coursed := fun _ hopen => absurd rfl hopen
  owned := owned_init config images
  pairs := fun _ => rfl
  waited := by
    rintro r ⟨_, _, _, h⟩
    cases h
  flagged := by
    rintro q i ⟨c, h | h⟩ <;> cases h
  initialized := by
    intro i hresolving
    rw [show ((driver config images).init.images i) = images i from rfl, hfresh i] at hresolving
    cases hresolving
  answered := by
    intro i hresolving
    rw [show ((driver config images).init.images i) = images i from rfl, hfresh i] at hresolving
    cases hresolving

end Steps

/-! ## Runs with finitely many contexts -/

/-- The context has no copy into the image of the surface under way. -/
def State.restsFrom (s : State) (q : SurfaceRef) (c : ContextRef) : Prop :=
  (s.contexts c).worker.copies ≠ some q ∧ s.blits c ≠ some q

instance (s : State) (q : SurfaceRef) (c : ContextRef) : Decidable (s.restsFrom q c) :=
  inferInstanceAs (Decidable (_ ∧ _))

/-- The surface for which the next section clears the flag of a backing image. -/
def State.clearsImage (s : State) (a : Label) : Option SurfaceRef :=
  (s.marks a).bind fun mark => if mark.2 then none else some mark.1

/-- `ImagesQuiet` where only contexts below `n` and surfaces below `m` are created and no
context is destroyed. -/
def ImagesAmong (n m : Nat) (s : State) (a : Label) : Prop :=
  ExclusiveAmong n s a ∧
    (∀ r ∈ s.clearsImage a, ∀ i ∈ surfaceSyncBackingImage s r, ∀ q < m, q ≠ r →
      surfaceSyncBackingImage s q = some i → ∀ c < n, s.restsFrom q c) ∧
    (∀ q ∈ s.startsBlit a, ∀ i ∈ surfaceSyncBackingImage s q,
      (s.images i).syncInitialized = true → (s.images i).resolving = true) ∧
    match a with
    | .createSurface r _ _ => r < m ∧ ∀ c < n, s.restsFrom r c
    | .realiseSurface r _ => r < m ∧ ∀ c < n, s.restsFrom r c
    | .destroyContext _ => False
    | _ => True

instance (n m : Nat) (s : State) : (a : Label) → Decidable (ImagesAmong n m s a) := by
  unfold ImagesAmong
  rintro ⟨⟩ <;> infer_instance

section Finite

variable {n m : Nat} {s s' : State} {a : Label}

theorem SharedBelow.step_imagesAmong (hbelow : SharedBelow n m s) (hamong : ImagesAmong n m s a)
    (hstep : Driver.step s a = some s') : SharedBelow n m s' := by
  apply hbelow.step hamong.1.1
  · rintro r format image rfl
    exact hamong.2.2.2.1
  · rintro r image rfl
    exact hamong.2.2.2.1
  · exact hstep

/-- Only a context below `n` copies anything. -/
theorem SharedBelow.not_copying (hbelow : SharedBelow n m s) {q : SurfaceRef}
    (hrests : ∀ c < n, s.restsFrom q c) : ¬s.copying q := by
  rintro ⟨c, hcopies⟩
  have hc : c < n := by
    rcases hcopies with hcopies | hblits
    · obtain ⟨p, hp, _⟩ := pending_of_copies hcopies
      exact hbelow.outstanding (mem_outstanding_worker hp)
    · exact hbelow.contexts.lt_of_live (target_of_blits hbelow.contexts.basic hblits).1.1
  rcases hcopies with hcopies | hblits
  · exact (hrests c hc).1 hcopies
  · exact (hrests c hc).2 hblits

theorem SharedBelow.imagesQuiet (hbelow : SharedBelow n m s) (hamong : ImagesAmong n m s a) :
    ImagesQuiet s a where
  exclusive := hbelow.contexts.exclusiveUse hamong.1
  atRest := by
    rintro c rfl
    exact hamong.2.2.2.elim
  clears := by
    intro r hmarks i hi q hq hcopying hqi
    have hqm : q < m := by
      by_contra hqm
      simp [surfaceSyncBackingImage, hbelow.images q (Nat.not_lt.mp hqm)] at hqi
    have hclears : r ∈ s.clearsImage a := by simp [State.clearsImage, hmarks]
    exact hbelow.not_copying (hamong.2.1 r hclears i hi q hqm hq hqi) hcopying
  created := by
    rintro r format image rfl
    exact hbelow.not_copying hamong.2.2.2.2
  realised := by
    rintro r image rfl
    exact hbelow.not_copying hamong.2.2.2.2
  blits := hamong.2.2.1

end Finite

/-- Image 1 is imported memory that borrows image 0. -/
def borrowedImages : ImageRef → BackingImage := fun i =>
  if i = 1 then { isExternalBuffer := true, borrowedBackingImage := some 0 } else {}

/-- Surface 0 has image 0 for its own and surface 1 has image 1. -/
def borrowedSurfaces : List Label :=
  [.createSurface 0 ⟨0, 0, 8⟩ none, .realiseSurface 0 0, .createSurface 1 ⟨0, 0, 8⟩ (some 1)]

/-- A picture on surface 0 is decoded and resolved, then one on surface 1 up to the copy
of its frame. -/
def inTurnRun : List Label :=
  .createContext 0 .vld .av1 ⟨0, 0, 8⟩ 0 :: borrowedSurfaces ++
    beginScript 0 0 8 ++ renderScript 0 plainParameters 9 1 ++ endScript 0 9 ++
    List.replicate 9 (.worker 0 .ok) ++
    beginScript 0 1 8 ++ renderScript 0 plainParameters 9 1 ++ .endPicture 0 ::
    List.replicate 8 (.call 0 .ok) ++ List.replicate 3 (.worker 0 .ok)

/-- The two surfaces share their image by then, and one of them is being copied to. -/
def inTurnScenario :
    (driver {} borrowedImages).Scenario (ImagesAmong 1 2) fun s =>
      surfaceSyncBackingImage s 0 = some 0 ∧ surfaceSyncBackingImage s 1 = some 0 ∧
        (s.contexts 0).worker.copies = some 1 where
  labels := inTurnRun
  enabled := by decide +kernel
  ends := by decide +kernel

/-- Pictures of two contexts are decoded to the two surfaces, after both have waited for
the image; the worker of one is copying its frame while that of the other finishes. -/
def overlapRun : List Label :=
  .createContext 0 .vld .av1 ⟨0, 0, 8⟩ 0 :: .createContext 1 .vld .av1 ⟨0, 0, 8⟩ 0 ::
    borrowedSurfaces ++
    beginScript 0 0 2 ++ beginScript 1 1 8 ++ List.replicate 6 (.call 0 .ok) ++
    renderScript 0 plainParameters 9 1 ++ renderScript 1 plainParameters 9 1 ++
    endScript 0 9 ++ [.endPicture 1, .call 1 (.decoder 1)] ++ List.replicate 8 (.call 1 .ok) ++
    List.replicate 4 (.worker 0 .ok) ++ List.replicate 8 (.worker 1 .ok)

/-- Surface 0 is being copied to, and the flag of its image is clear. -/
def overlapScenario :
    (driver {} borrowedImages).Scenario (fun _ _ => True) fun s =>
      surfaceSyncBackingImage s 0 = some 0 ∧ (s.contexts 0).worker.copies = some 0 ∧
        (s.images 0).syncInitialized = true ∧ (s.images 0).resolving = false where
  labels := overlapRun
  enabled := by decide +kernel
  ends := by decide +kernel

end Driver
end NvidiaVaapi
