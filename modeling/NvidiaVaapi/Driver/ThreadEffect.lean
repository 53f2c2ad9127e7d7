import NvidiaVaapi.Driver.EndSections

/-!
# What one section of another thread does

The resolve worker, the two destroy calls and the calls that create objects, as
far as generations are concerned: `ThreadEffect` lists the kinds of section, and
`step_effect` reads the kind of every step of the driver off its label.
-/

namespace NvidiaVaapi
namespace Driver

/-- The context that a label creates. -/
def Label.creates : Label → Option ContextRef
  | .createContext c .. => some c
  | _ => none

/-- The jobs that `nvDestroyContext` has taken from the queue of a context and
not yet failed. -/
def State.cancelledJobs (s : State) (c : ContextRef) : List ResolveJob :=
  match s.lifetimeWriter with
  | some (.context d (.cancelled jobs _)) => if d = c then jobs else []
  | _ => []

/-- The resolve jobs of a context that have not run to their end. -/
def State.outstanding (s : State) (c : ContextRef) : List Pending :=
  (s.contexts c).control.pending ++ (s.cancelledJobs c).map .queued

/-- The jobs `before` of the context become the jobs `after`; all other jobs stay. -/
structure JobsChange (c : ContextRef) (before after : List Pending) (s s' : State) : Prop where
  own : ∃ rest, (s.outstanding c).Perm (before ++ rest) ∧
    (s'.outstanding c).Perm (after ++ rest)
  others : ∀ d, d ≠ c → s'.outstanding d = s.outstanding d

/-- `nvDestroyContext` of the context is running. -/
def State.destroys (s : State) (c : ContextRef) : Prop :=
  ∃ stage, s.lifetimeWriter = some (.context c stage)

/-- `nvDestroySurfaces` has found the surface resolved and not yet freed it. -/
def State.waited (s : State) (r : SurfaceRef) : Prop :=
  ∃ rest stage, stage ≠ .waitSurface ∧ s.lifetimeWriter = some (.surfaces (r :: rest) stage)

/-- `nvDestroySurfaces` still has to free the surface. -/
def State.requested (s : State) (r : SurfaceRef) : Prop :=
  ∃ todo stage, s.lifetimeWriter = some (.surfaces todo stage) ∧ r ∈ todo

/-- What the sections of other threads leave alone. -/
structure ThreadFrame (s s' : State) : Prop where
  quiet : ∀ d, (s'.contexts d).control.quiet = (s.contexts d).control.quiet
  contextLife : ∀ d, (s'.contexts d).life = (s.contexts d).life
  life : ∀ r, (s'.surfaces r).life = (s.surfaces r).life
  locked : s'.lifetimeWriter ≠ none → s.lifetimeWriter ≠ none
  destroys : ∀ c, s'.destroys c → s.destroys c
  waited : ∀ r, s'.waited r → s.waited r ∨ (s.surfaces r).resolving = false
  requested : ∀ r, s'.requested r → s.requested r
  readers : ∀ id ∈ s.lifetimeReaders, id ∈ s'.lifetimeReaders
  syncs : s'.syncs = s.syncs

/-- The kinds of section of the threads other than a picture call. -/
inductive ThreadEffect (a : Label) (s s' : State) : Prop
  /-- Jobs may change hands. -/
  | pass (frame : ThreadFrame s s')
      (flags : ∀ r, (s'.surfaces r).flags = (s.surfaces r).flags)
      (jobs : ∀ d, (s'.outstanding d).Perm (s.outstanding d))
      (failed : s'.failed = s.failed)
  /-- A step of a job fails. -/
  | worsen (c : ContextRef) (p : Pending) (frame : ThreadFrame s s')
      (flags : ∀ r, (s'.surfaces r).flags = (s.surfaces r).flags)
      (jobs : JobsChange c [p] [{ p with failed := true }] s s')
      (marked : p.marked = false)
      (failed : s'.failed = p.job.picture :: s.failed)
  /-- The worker stores the outcome of a job in its surface. -/
  | mark (c : ContextRef) (p : Pending) (verdict : Bool) (frame : ThreadFrame s s')
      (others : ∀ q, q ≠ p.job.surface → (s'.surfaces q).flags = (s.surfaces q).flags)
      (flags : (s'.surfaces p.job.surface).flags =
        { (s.surfaces p.job.surface).flags with decodeFailed := verdict })
      (jobs : JobsChange c [p] [⟨p.job, verdict, true⟩] s s')
      (keeps : p.failed = true → verdict = true)
      (generation : (s.surfaces p.job.surface).submittedGeneration = p.job.generation)
      (failed : s'.failed = s.failed)
  /-- The worker drops a job whose generation has been superseded. -/
  | drop (c : ContextRef) (p : Pending) (frame : ThreadFrame s s')
      (flags : ∀ r, (s'.surfaces r).flags = (s.surfaces r).flags)
      (jobs : JobsChange c [p] [] s s')
      (generation : (s.surfaces p.job.surface).submittedGeneration ≠ p.job.generation)
      (failed : s'.failed = s.failed)
  /-- The worker ends the generation of a job. -/
  | finish (c : ContextRef) (p : Pending) (frame : ThreadFrame s s')
      (others : ∀ q, q ≠ p.job.surface → (s'.surfaces q).flags = (s.surfaces q).flags)
      (flags : (s'.surfaces p.job.surface).flags = (s.surfaces p.job.surface).finish.flags)
      (jobs : JobsChange c [p] [] s s') (marked : p.marked = true)
      (on : ∃ outcome, a = .worker c outcome)
      (worker : (s.contexts c).worker = .clear p.job p.failed)
      (failed : s'.failed = s.failed)
  /-- A cancelled job is failed. -/
  | fail (c : ContextRef) (p : Pending) (frame : ThreadFrame s s')
      (others : ∀ q, q ≠ p.job.surface → (s'.surfaces q).flags = (s.surfaces q).flags)
      (flags : (s'.surfaces p.job.surface).flags =
        ((s.surfaces p.job.surface).failResolve .operationFailed).flags)
      (jobs : JobsChange c [p] [] s s')
      (failed : s'.failed = p.job.picture :: s.failed)
      (taken : ∃ rest, (s.contexts c).worker = .cancelled (p.job :: rest) true ∨
        s.lifetimeWriter = some (.context c (.cancelled (p.job :: rest) true)))
  /-- `nvCreateSurfaces2`. -/
  | createSurface (r : SurfaceRef) (absent : s.surfaces r = {})
      (contexts : s'.contexts = s.contexts)
      (lifetimeWriter : s'.lifetimeWriter = s.lifetimeWriter)
      (flags : ∀ q, (s'.surfaces q).flags = (s.surfaces q).flags)
      (life : ∀ q, q ≠ r → (s'.surfaces q).life = (s.surfaces q).life)
      (created : (s'.surfaces r).life = .live)
      (lifetimeReaders : s'.lifetimeReaders = s.lifetimeReaders)
      (syncs : s'.syncs = s.syncs) (failed : s'.failed = s.failed)
  /-- `nvCreateContext`. -/
  | createContext (c : ContextRef) (entrypoint : VAEntrypoint) (worker : WorkerPhase)
      (on : a.creates = some c)
      (absent : (s.contexts c).life = .absent)
      (others : ∀ d, d ≠ c → s'.contexts d = s.contexts d)
      (control : (s'.contexts c).control =
        { life := .live, entrypoint := entrypoint, worker := worker })
      (idle : worker.pending = [])
      (surfaces : s'.surfaces = s.surfaces)
      (unlocked : s.lifetimeWriter = none)
      (lifetimeWriter : s'.lifetimeWriter = s.lifetimeWriter)
      (lifetimeReaders : s'.lifetimeReaders = s.lifetimeReaders)
      (syncs : s'.syncs = s.syncs) (failed : s'.failed = s.failed)
  /-- `nvDestroySurfaces` takes its surfaces out of the object table. -/
  | remove (requested : List SurfaceRef) (on : a = .destroySurfaces requested)
      (unlocked : s.lifetimeWriter = none) (unread : s.lifetimeReaders = [])
      (contexts : s'.contexts = s.contexts)
      (flags : ∀ r, (s'.surfaces r).flags = (s.surfaces r).flags)
      (life : ∀ r, (s'.surfaces r).life =
        if r ∈ requested then .removed else (s.surfaces r).life)
      (lifetimeWriter : s'.lifetimeWriter = some (.surfaces requested .waitSurface))
      (lifetimeReaders : s'.lifetimeReaders = s.lifetimeReaders)
      (syncs : s'.syncs = s.syncs) (failed : s'.failed = s.failed)
  /-- `nvDestroySurfaces` frees a surface. -/
  | free (r : SurfaceRef) (rest : List SurfaceRef)
      (lifetimeWriter : s.lifetimeWriter = some (.surfaces (r :: rest) .free))
      (lifetimeWriter' : s'.lifetimeWriter = some (.surfaces rest .waitSurface))
      (contexts : s'.contexts = s.contexts)
      (flags : ∀ q, (s'.surfaces q).flags = (s.surfaces q).flags)
      (life : ∀ q, q ≠ r → (s'.surfaces q).life = (s.surfaces q).life)
      (lifetimeReaders : s'.lifetimeReaders = s.lifetimeReaders)
      (syncs : s'.syncs = s.syncs) (failed : s'.failed = s.failed)
      (freed : (s'.surfaces r).life = .freed)
  /-- `nvDestroyContext` marks its context. -/
  | destroy (c : ContextRef) (on : a = .destroyContext c) (stage : DestroyContextStage)
      (live : (s.contexts c).life = .live)
      (unlocked : s.lifetimeWriter = none) (unread : s.lifetimeReaders = [])
      (control : ∀ d, (s'.contexts d).control = (s.contexts d).control)
      (surfaces : s'.surfaces = s.surfaces)
      (lifetimeWriter : s'.lifetimeWriter = some (.context c stage))
      (hstage : stage = .cancel ∨ stage = .decoder)
      (lifetimeReaders : s'.lifetimeReaders = s.lifetimeReaders)
      (syncs : s'.syncs = s.syncs) (failed : s'.failed = s.failed)
  /-- `nvDestroyContext` frees its context. -/
  | delete (c : ContextRef) (lifetimeWriter : s.lifetimeWriter = some (.context c .delete))
      (lifetimeWriter' : s'.lifetimeWriter = none)
      (others : ∀ d, d ≠ c → s'.contexts d = s.contexts d)
      (control : (s'.contexts c).control = { (s.contexts c).control with life := .freed })
      (surfaces : s'.surfaces = s.surfaces)
      (lifetimeReaders : s'.lifetimeReaders = s.lifetimeReaders)
      (syncs : s'.syncs = s.syncs) (failed : s'.failed = s.failed)

section Threads

variable {s t s' : State} {c : ContextRef} {a : Label}

/-! ## Steps of the worker -/

theorem cancelledJobs_of_writer (hwriter : s'.lifetimeWriter = s.lifetimeWriter)
    (d : ContextRef) : s'.cancelledJobs d = s.cancelledJobs d := by
  unfold State.cancelledJobs
  rw [hwriter]

/-- The frame of a step that leaves the destroy calls and the calls in progress
alone. -/
theorem ThreadFrame.of_writer
    (hquiet : ∀ d, (s'.contexts d).control.quiet = (s.contexts d).control.quiet)
    (hcontext : ∀ d, (s'.contexts d).life = (s.contexts d).life)
    (hlife : ∀ r, (s'.surfaces r).life = (s.surfaces r).life)
    (hwriter : s'.lifetimeWriter = s.lifetimeWriter)
    (hreaders : s'.lifetimeReaders = s.lifetimeReaders) (hsyncs : s'.syncs = s.syncs) :
    ThreadFrame s s' where
  quiet := hquiet
  contextLife := hcontext
  life := hlife
  locked := fun h => hwriter ▸ h
  destroys := by
    rintro c ⟨stage, hstage⟩
    exact ⟨stage, hwriter ▸ hstage⟩
  waited := by
    rintro r ⟨rest, stage, hstage, h⟩
    exact .inl ⟨rest, stage, hstage, hwriter ▸ h⟩
  requested := by
    rintro r ⟨todo, stage, h, hmem⟩
    exact ⟨todo, stage, hwriter ▸ h, hmem⟩
  readers := fun _ hid => hreaders ▸ hid
  syncs := hsyncs

/-- The worker goes on from a state in which only surfaces, images, the list of
failures and the global flag may differ. -/
structure WorkerView (s t : State) : Prop where
  contexts : t.contexts = s.contexts
  life : ∀ r, (t.surfaces r).life = (s.surfaces r).life
  lifetimeWriter : t.lifetimeWriter = s.lifetimeWriter
  lifetimeReaders : t.lifetimeReaders = s.lifetimeReaders
  syncs : t.syncs = s.syncs

theorem WorkerView.refl (s : State) : WorkerView s s :=
  ⟨rfl, fun _ => rfl, rfl, rfl, rfl⟩

theorem WorkerView.setSurface {r : SurfaceRef} {surface : NVSurface}
    (hlife : surface.life = (s.surfaces r).life) : WorkerView s (s.setSurface r surface) where
  contexts := rfl
  life := by
    intro q
    by_cases hq : q = r
    · simp [hq, hlife]
    · simp [hq]
  lifetimeWriter := rfl
  lifetimeReaders := rfl
  syncs := rfl

/-- The frame of a step that, from such a state, replaces a context without
touching its call in progress. -/
theorem WorkerView.contextFrame {ctx : NVContext} (hview : WorkerView s t)
    (hquiet : ctx.control.quiet = (s.contexts c).control.quiet)
    (hlife : ctx.life = (s.contexts c).life) : ThreadFrame s (t.setContext c ctx) := by
  refine .of_writer ?_ ?_ hview.life hview.lifetimeWriter hview.lifetimeReaders hview.syncs
  · intro d
    by_cases hd : d = c
    · subst hd
      simpa using hquiet
    · simp [hd, hview.contexts]
  · intro d
    by_cases hd : d = c
    · subst hd
      simpa using hlife
    · simp [hd, hview.contexts]

theorem WorkerView.frame (hview : WorkerView s t) (w : WorkerPhase) :
    ThreadFrame s (setWorker t c w) := by
  have hcontext : t.contexts c = s.contexts c := by rw [hview.contexts]
  exact hview.contextFrame (by rw [hcontext]; rfl) (by rw [hcontext])

theorem outstanding_split (s : State) (c : ContextRef) :
    (s.outstanding c).Perm ((s.contexts c).worker.pending ++
      ((s.contexts c).resolveQueue.items.map .queued ++ (s.cancelledJobs c).map .queued)) := by
  change (((s.contexts c).resolveQueue.items.map Pending.queued ++
    (s.contexts c).worker.pending) ++ (s.cancelledJobs c).map Pending.queued).Perm _
  rw [← List.append_assoc]
  exact List.Perm.append_right _ List.perm_append_comm

/-- The jobs in the worker's hands change as the worker does. -/
theorem WorkerView.jobs (hview : WorkerView s t) (w : WorkerPhase) :
    JobsChange c (s.contexts c).worker.pending w.pending s (setWorker t c w) where
  own := by
    refine ⟨_, outstanding_split s c, ?_⟩
    have hsplit := outstanding_split (setWorker t c w) c
    have hcancelled : (setWorker t c w).cancelledJobs c = s.cancelledJobs c :=
      cancelledJobs_of_writer hview.lifetimeWriter c
    rw [hcancelled] at hsplit
    simpa [setWorker, hview.contexts] using hsplit
  others := by
    intro d hd
    have hcancelled : (setWorker t c w).cancelledJobs d = s.cancelledJobs d :=
      cancelledJobs_of_writer hview.lifetimeWriter d
    unfold State.outstanding
    rw [hcancelled]
    simp [setWorker, hd, hview.contexts]

theorem JobsChange.perm {ps : List Pending} (hjobs : JobsChange c ps ps s s') (d : ContextRef) :
    (s'.outstanding d).Perm (s.outstanding d) := by
  by_cases hd : d = c
  · subst hd
    obtain ⟨rest, hbefore, hafter⟩ := hjobs.own
    exact hafter.trans hbefore.symm
  · rw [hjobs.others d hd]

/-- A context is replaced by one with the same jobs. -/
theorem WorkerView.replace {ctx : NVContext} (hview : WorkerView s t)
    (hflags : ∀ r, (t.surfaces r).flags = (s.surfaces r).flags)
    (hfailed : t.failed = s.failed)
    (hquiet : ctx.control.quiet = (s.contexts c).control.quiet)
    (hlife : ctx.life = (s.contexts c).life)
    (hpending : ctx.control.pending.Perm (s.contexts c).control.pending) :
    ThreadEffect a s (t.setContext c ctx) := by
  refine .pass (hview.contextFrame hquiet hlife) hflags ?_ hfailed
  intro d
  have hcancelled : (t.setContext c ctx).cancelledJobs d = s.cancelledJobs d :=
    cancelledJobs_of_writer hview.lifetimeWriter d
  unfold State.outstanding
  rw [hcancelled]
  refine List.Perm.append_right _ ?_
  by_cases hd : d = c
  · subst hd
    simpa using hpending
  · simp [hd, hview.contexts]

/-- The worker goes on with the same jobs. -/
theorem WorkerView.pass (hview : WorkerView s t) {w : WorkerPhase}
    (hflags : ∀ r, (t.surfaces r).flags = (s.surfaces r).flags)
    (hfailed : t.failed = s.failed)
    (hpending : w.pending = (s.contexts c).worker.pending) :
    ThreadEffect a s (setWorker t c w) := by
  have hjobs := hview.jobs (c := c) w
  rw [hpending] at hjobs
  exact .pass (hview.frame w) hflags hjobs.perm hfailed

/-- The worker notes that its job fails. -/
theorem WorkerView.worsen {job : ResolveJob} {failed : Bool} {w : WorkerPhase}
    (hview : WorkerView s t) (hflags : ∀ r, (t.surfaces r).flags = (s.surfaces r).flags)
    (hfailed : t.failed = s.failed)
    (hbefore : (s.contexts c).worker.pending = [⟨job, failed, false⟩])
    (hafter : w.pending = [⟨job, true, false⟩]) :
    ThreadEffect a s (setWorker (recordJobFailure t job) c w) := by
  have hview' : WorkerView s (recordJobFailure t job) :=
    ⟨hview.contexts, hview.life, hview.lifetimeWriter, hview.lifetimeReaders, hview.syncs⟩
  have hjobs := hview'.jobs (c := c) w
  rw [hbefore, hafter] at hjobs
  exact .worsen c ⟨job, failed, false⟩ (hview'.frame w) hflags hjobs rfl
    (congrArg (job.picture :: ·) hfailed)

theorem setSurface_flags_others {r : SurfaceRef} (surface : NVSurface) :
    ∀ q, q ≠ r → ((s.setSurface r surface).surfaces q).flags = (s.surfaces q).flags := by
  intro q hq
  simp [hq]

theorem workerStart_effect {outcome : WorkerOutcome}
    (hworker : (s.contexts c).worker = .starting)
    (hstep : workerStart s c outcome = some s') : ThreadEffect a s s' := by
  unfold workerStart at hstep
  split at hstep
  · cases hstep
    exact (WorkerView.refl s).pass (fun _ => rfl) rfl (by rw [hworker]; rfl)
  · cases hstep
    refine (WorkerView.refl s).replace (fun _ => rfl) rfl rfl rfl ?_
    simp [Control.pending, NVContext.control, resolveQueueCancel, hworker, WorkerPhase.pending]
  · cases hstep

theorem workerCancelled_effect {jobs : List ResolveJob} {imageDone : Bool}
    (hworker : (s.contexts c).worker = .cancelled jobs imageDone)
    (hstep : workerCancelled s c jobs imageDone = some s') : ThreadEffect a s s' := by
  unfold workerCancelled at hstep
  split at hstep
  · cases hstep
    exact (WorkerView.refl s).pass (fun _ => rfl) rfl (by rw [hworker]; rfl)
  · cases hstep
    have hview : WorkerView s (setSurfaceBackingImageResolving s ‹ResolveJob›.surface false) :=
      ⟨rfl, fun _ => rfl, rfl, rfl, rfl⟩
    exact hview.pass (fun _ => rfl) rfl (by rw [hworker]; rfl)
  · rename_i job rest
    cases hstep
    have hsurface : WorkerView s (s.setSurface job.surface
        ((s.surfaces job.surface).failResolve .operationFailed)) := .setSurface rfl
    have hview : WorkerView s (recordJobFailure (s.setSurface job.surface
        ((s.surfaces job.surface).failResolve .operationFailed)) job) :=
      ⟨hsurface.contexts, hsurface.life, rfl, rfl, rfl⟩
    have hjobs := hview.jobs (c := c) (.cancelled rest false)
    rw [hworker] at hjobs
    refine .fail c (.queued job) (hview.frame _) (setSurface_flags_others _) ?_ ?_ rfl
      ⟨rest, .inl hworker⟩
    · change ((s.setSurface job.surface
        ((s.surfaces job.surface).failResolve .operationFailed)).surfaces job.surface).flags =
          ((s.surfaces job.surface).failResolve .operationFailed).flags
      simp
    · obtain ⟨after, hbefore, hafter⟩ := hjobs.own
      exact ⟨⟨rest.map .queued ++ after, hbefore, hafter⟩, hjobs.others⟩

theorem workerPop_effect {outcome : WorkerOutcome}
    (hworker : (s.contexts c).worker = .pop)
    (hstep : workerPop s c outcome = some s') : ThreadEffect a s s' := by
  unfold workerPop at hstep
  simp only at hstep
  split at hstep
  · rename_i job rest hitems
    cases hstep
    refine (WorkerView.refl s).replace (fun _ => rfl) rfl rfl rfl ?_
    simp only [Control.pending, NVContext.control, hitems, hworker, WorkerPhase.pending,
      List.map_cons, List.append_nil]
    exact List.perm_append_singleton _ _
  · split at hstep
    · cases hstep
    · split at hstep
      · cases hstep
        have hview : WorkerView s { s with cudaWorkUnsafe := true } :=
          ⟨rfl, fun _ => rfl, rfl, rfl, rfl⟩
        exact hview.pass (c := c) (w := .exited) (fun _ => rfl) rfl (by rw [hworker]; rfl)
      · split at hstep
        · cases hstep
          exact (WorkerView.refl s).pass (fun _ => rfl) rfl (by rw [hworker]; rfl)
        · cases hstep
          refine (WorkerView.refl s).replace (fun _ => rfl) rfl rfl rfl ?_
          simp [Control.pending, NVContext.control, hworker, WorkerPhase.pending]

theorem workerPopped_effect {job : ResolveJob} {outcome : WorkerOutcome}
    (hworker : (s.contexts c).worker = .popped job)
    (hstep : workerPopped s c job outcome = some s') : ThreadEffect a s s' := by
  have hbefore : (s.contexts c).worker.pending = [⟨job, job.decodeStatus ≠ .success, false⟩] := by
    rw [hworker]
    rfl
  unfold workerPopped at hstep
  split at hstep
  · split at hstep
    · cases hstep
      exact (WorkerView.refl s).worsen (fun _ => rfl) rfl hbefore rfl
    · rename_i hgood
      cases hstep
      refine (WorkerView.refl s).pass (fun _ => rfl) rfl ?_
      rw [hbefore]
      have hstatus : job.decodeStatus = .success := by
        by_contra hbad
        exact hgood (.inl hbad)
      simp [WorkerPhase.pending, hstatus]
  · cases hstep
    exact (WorkerView.refl s).worsen (fun _ => rfl) rfl hbefore rfl
  · cases hstep

theorem workerExporting_effect {job : ResolveJob} {outcome : WorkerOutcome}
    (hworker : (s.contexts c).worker = .exporting job)
    (hstep : workerExporting s c job outcome = some s') : ThreadEffect a s s' := by
  have hbefore : (s.contexts c).worker.pending = [⟨job, false, false⟩] := by
    rw [hworker]
    rfl
  unfold workerExporting at hstep
  split at hstep
  · split at hstep
    · cases hstep
      exact (WorkerView.refl s).worsen (fun _ => rfl) rfl hbefore rfl
    · cases hstep
      have hview : WorkerView s (setSurfaceBackingImageResolving s job.surface true) :=
        ⟨rfl, fun _ => rfl, rfl, rfl, rfl⟩
      exact hview.pass (fun _ => rfl) rfl (by rw [hbefore]; rfl)
  · cases hstep
    exact (WorkerView.refl s).worsen (fun _ => rfl) rfl hbefore rfl
  · cases hstep

theorem workerCopying_effect {job : ResolveJob} {outcome : WorkerOutcome}
    (hworker : (s.contexts c).worker = .copying job)
    (hstep : workerCopying s c job outcome = some s') : ThreadEffect a s s' := by
  have hbefore : (s.contexts c).worker.pending = [⟨job, false, false⟩] := by
    rw [hworker]
    rfl
  unfold workerCopying at hstep
  split at hstep
  · cases hstep
    exact (WorkerView.refl s).pass (fun _ => rfl) rfl (by rw [hbefore]; rfl)
  · cases hstep
    exact (WorkerView.refl s).worsen (fun _ => rfl) rfl hbefore rfl
  · cases hstep

theorem workerUnmapping_effect {job : ResolveJob} {failed copied : Bool} {outcome : WorkerOutcome}
    (hworker : (s.contexts c).worker = .unmapping job failed copied)
    (hstep : workerUnmapping s c job failed outcome = some s') : ThreadEffect a s s' := by
  have hbefore : (s.contexts c).worker.pending = [⟨job, failed, false⟩] := by
    rw [hworker]
    rfl
  unfold workerUnmapping at hstep
  split at hstep
  · split at hstep
    · rename_i hfailed
      cases hstep
      have hview : WorkerView s { s with cudaWorkUnsafe := true } :=
        ⟨rfl, fun _ => rfl, rfl, rfl, rfl⟩
      exact hview.pass (fun _ => rfl) rfl (by rw [hbefore, hfailed]; rfl)
    · cases hstep
  · split at hstep
    · cases hstep
      exact (WorkerView.refl s).pass (fun _ => rfl) rfl (by rw [hbefore]; rfl)
    · cases hstep
      exact (WorkerView.refl s).worsen (fun _ => rfl) rfl hbefore rfl
  · cases hstep
    exact (WorkerView.refl s).pass (fun _ => rfl) rfl (by rw [hbefore]; rfl)

theorem workerPublish_effect {job : ResolveJob} {failed : Bool}
    (hworker : (s.contexts c).worker = .publish job failed)
    (hstep : workerPublish s c job failed = some s') : ThreadEffect a s s' := by
  unfold workerPublish at hstep
  simp only at hstep
  split at hstep
  · rename_i hgeneration
    cases hstep
    have hview : WorkerView s (s.setSurface job.surface
        { s.surfaces job.surface with decodeFailed := failed || s.cudaWorkUnsafe }) :=
      .setSurface rfl
    have hjobs := hview.jobs (c := c) (.clearImage job (failed || s.cudaWorkUnsafe))
    rw [hworker] at hjobs
    refine .mark c ⟨job, failed, false⟩ (failed || s.cudaWorkUnsafe) (hview.frame _)
      (setSurface_flags_others _) ?_ hjobs ?_ hgeneration rfl
    · change ((s.setSurface job.surface { s.surfaces job.surface with
        decodeFailed := failed || s.cudaWorkUnsafe }).surfaces job.surface).flags = _
      simp [NVSurface.flags]
    · intro hfailed
      have : failed = true := hfailed
      simp [this]
  · rename_i hgeneration
    cases hstep
    have hjobs := (WorkerView.refl s).jobs (c := c) .pop
    rw [hworker] at hjobs
    exact .drop c ⟨job, failed, false⟩ ((WorkerView.refl s).frame _) (fun _ => rfl) hjobs
      hgeneration rfl

theorem workerClearImage_effect {job : ResolveJob} {failed : Bool}
    (hworker : (s.contexts c).worker = .clearImage job failed)
    (hstep : workerClearImage s c job failed = some s') : ThreadEffect a s s' := by
  cases hstep
  have hview : WorkerView s (setSurfaceBackingImageResolving s job.surface false) :=
    ⟨rfl, fun _ => rfl, rfl, rfl, rfl⟩
  exact hview.pass (fun _ => rfl) rfl (by rw [hworker]; rfl)

theorem workerClear_effect {job : ResolveJob} {failed : Bool} {outcome : WorkerOutcome}
    (hworker : (s.contexts c).worker = .clear job failed)
    (hstep : workerClear s c job = some s') : ThreadEffect (.worker c outcome) s s' := by
  cases hstep
  have hview : WorkerView s (s.setSurface job.surface (s.surfaces job.surface).finish) :=
    .setSurface rfl
  have hjobs := hview.jobs (c := c) .pop
  rw [hworker] at hjobs
  refine .finish c ⟨job, failed, true⟩ (hview.frame _) (setSurface_flags_others _) ?_ hjobs rfl
    ⟨outcome, rfl⟩ hworker rfl
  change ((s.setSurface job.surface (s.surfaces job.surface).finish).surfaces
    job.surface).flags = _
  simp

theorem workerStep_effect {outcome : WorkerOutcome}
    (hstep : workerStep s c outcome = some s') : ThreadEffect (.worker c outcome) s s' := by
  unfold workerStep at hstep
  split at hstep
  · cases hstep
  · exact workerStart_effect ‹_› hstep
  · exact workerCancelled_effect ‹_› hstep
  · exact workerPop_effect ‹_› hstep
  · exact workerPopped_effect ‹_› hstep
  · exact workerExporting_effect ‹_› hstep
  · exact workerCopying_effect ‹_› hstep
  · exact workerUnmapping_effect ‹_› hstep
  · exact workerPublish_effect ‹_› hstep
  · exact workerClearImage_effect ‹_› hstep
  · exact workerClear_effect ‹_› hstep
  · cases hstep

end Threads

end Driver
end NvidiaVaapi
