import NvidiaVaapi.Driver.JobCustody

/-!
# The ledger of resolve jobs

Every `calloc` and every `free` of a `ResolveJob` of one context, with the party that frees
the job and what it makes of the job's generation, is noted beside the state.  The step
lemmas say that the ledger and the jobs that are still held balance.
-/

namespace NvidiaVaapi
namespace Driver

/-- Who frees a job. -/
inductive Disposer
  /-- The loop of `resolveSurfaces`. -/
  | worker
  /-- `resolveSurfaces` when it cannot enter the CUDA context. -/
  | workerCancel
  /-- `destroyContext`. -/
  | destroyContext
  /-- `nvEndPicture` after a failed push. -/
  | endPicture
  deriving DecidableEq, Repr

/-- What has become of the generation of a job that is freed. -/
inductive Fate
  /-- The surface has been submitted again since the job was filled in. -/
  | superseded
  /-- The disposer has completed or failed the generation. -/
  | ended
  | owed
  deriving DecidableEq, Repr

structure Disposal where
  job : ResolveJob
  disposer : Disposer
  fate : Fate
  deriving DecidableEq, Repr

/-- The jobs of one context that have been allocated, by their pictures, and freed. -/
structure JobLedger where
  allocated : List Picture := []
  disposed : List Disposal := []
  deriving DecidableEq, Repr

/-- What a step from `s` to `s'` makes of the generation of a job. -/
def fateOf (s s' : State) (job : ResolveJob) : Fate :=
  if (s.surfaces job.surface).submittedGeneration ≠ job.generation then .superseded
  else if (s'.surfaces job.surface).resolving = false ∧
      (s'.surfaces job.surface).completedGeneration = job.generation then .ended
  else .owed

/-- The picture whose job the step allocates. -/
def allocation (c : ContextRef) (s : State) : Label → List Picture
  | .call d .ok =>
    match (s.contexts d).phase with
    | .endAllocJob _ => if d = c then [currentPicture s c] else []
    | _ => []
  | _ => []

/-- The job that the worker frees in its next section. -/
def workerFrees (s : State) (c : ContextRef) : Option (ResolveJob × Disposer) :=
  match (s.contexts c).worker with
  | .publish job _ =>
    if (s.surfaces job.surface).submittedGeneration = job.generation then none
    else some (job, .worker)
  | .clear job _ => some (job, .worker)
  | .cancelled (job :: _) true => some (job, .workerCancel)
  | _ => none

/-- The job of the context `c` that the step frees. -/
def frees (c : ContextRef) (s : State) : Label → Option (ResolveJob × Disposer)
  | .worker d _ => if d = c then workerFrees s c else none
  | .destroy _ =>
    match s.lifetimeWriter with
    | some (.context d (.cancelled (job :: _) true)) =>
      if d = c then some (job, .destroyContext) else none
    | _ => none
  | .call d _ =>
    match (s.contexts d).phase with
    | .endPushJob job =>
      if d = c ∧ (s.contexts c).resolveQueue.exiting = true then some (job, .endPicture) else none
    | _ => none
  | _ => none

/-- The surface whose generation the call on `c` fails in the step. -/
def failsGeneration (c : ContextRef) (s : State) : Label → Option SurfaceRef
  | .call d _ =>
    match (s.contexts d).phase with
    | .clearing (.fail r _ :: _) _ => if d = c then some r else none
    | _ => none
  | _ => none

namespace Disposal

/-- A failed push leaves the generation to the rest of its call. -/
def record (s s' : State) (freed : ResolveJob × Disposer) : Disposal :=
  { job := freed.1
    disposer := freed.2
    fate := if freed.2 = .endPicture then .owed else fateOf s s' freed.1 }

/-- The call that owes the generation an end has come to the section that fails it. -/
def settle (c : ContextRef) (s : State) (a : Label) (s' : State) (disposal : Disposal) :
    Disposal :=
  if disposal.fate = .owed ∧ failsGeneration c s a = some disposal.job.surface then
    { disposal with fate := fateOf s s' disposal.job }
  else disposal

@[simp] theorem settle_job (c : ContextRef) (s : State) (a : Label) (s' : State)
    (disposal : Disposal) : (settle c s a s' disposal).job = disposal.job := by
  unfold settle
  split <;> rfl

end Disposal

/-- What a step adds to the ledger of the context `c`. -/
def JobLedger.note (c : ContextRef) (s : State) (a : Label) (s' : State) (ledger : JobLedger) :
    JobLedger :=
  { allocated := allocation c s a ++ ledger.allocated
    disposed := ((frees c s a).map (Disposal.record s s')).toList ++
      ledger.disposed.map (Disposal.settle c s a s') }

/-- The job in the hands of the call on a context, by its picture. -/
def State.inHand (s : State) (c : ContextRef) : List Picture :=
  match (s.contexts c).phase with
  | .endMakeJob _ => [currentPicture s c]
  | .endActiveMask job => [job.picture]
  | .endPushJob job => [job.picture]
  | _ => []

/-- The jobs of a context that somebody holds. -/
def State.held (s : State) (c : ContextRef) : List Picture :=
  s.inHand c ++ (s.outstanding c).map fun p => p.job.picture

/-! ## What the worker does with its jobs -/

/-- No worker thread runs. -/
def WorkerPhase.rests : WorkerPhase → Bool
  | .absent => true
  | .exited => true
  | _ => false

/-- The worker thread could not start. -/
def WorkerPhase.cancels : WorkerPhase → Bool
  | .cancelled _ _ => true
  | _ => false

/-- The pictures of the jobs in the hands of a worker. -/
def WorkerPhase.pictures (worker : WorkerPhase) : List Picture :=
  worker.pending.map fun p => p.job.picture

/-- What one section of a worker does to the queue of its context and to the jobs in its own
hands; `freed` lists the pictures of the jobs that it frees. -/
inductive WorkerMove (ctx ctx' : NVContext) (freed : List Picture) : Prop
  /-- The jobs stay in the worker's hands, or one of them is freed. -/
  | within (queue : ctx'.resolveQueue = ctx.resolveQueue)
      (jobs : ctx.worker.pictures = freed ++ ctx'.worker.pictures)
      (running : ctx'.worker.rests = false) (cancels : ctx'.worker.cancels = true →
        ctx.worker.cancels = true)
  /-- The oldest item of the queue is taken. -/
  | pops (job : ResolveJob) (items : ctx.resolveQueue.items = job :: ctx'.resolveQueue.items)
      (exiting : ctx'.resolveQueue.exiting = ctx.resolveQueue.exiting)
      (before : ctx.worker = .pop) (after : ctx'.worker = .popped job) (unfreed : freed = [])
  /-- The worker cannot start and empties the queue. -/
  | cancelsQueue (queue : ctx'.resolveQueue = { items := [], exiting := true })
      (before : ctx.worker = .starting)
      (after : ctx'.worker = .cancelled ctx.resolveQueue.items false) (unfreed : freed = [])
  /-- The worker is through with its jobs. -/
  | exits (queue : ctx'.resolveQueue = ctx.resolveQueue) (done : ctx.worker.pictures = [])
      (stopped : ctx.worker.cancels = true ∨ ctx.resolveQueue.exiting = true)
      (after : ctx'.worker = .exited) (unfreed : freed = [])

/-- A section of the worker of the context `c`. -/
structure WorkerStepped (c : ContextRef) (s s' : State) : Prop where
  lifetimeWriter : s'.lifetimeWriter = s.lifetimeWriter
  context : ∃ decoder, s'.contexts = Function.update s.contexts c
    { s.contexts c with
      worker := (s'.contexts c).worker
      resolveQueue := (s'.contexts c).resolveQueue
      decoder := decoder }
  move : WorkerMove (s.contexts c) (s'.contexts c)
    ((workerFrees s c).toList.map fun freed => freed.1.picture)

section Worker

variable {s t s' : State} {c : ContextRef}

theorem WorkerStepped.setWorker {w : WorkerPhase} (hcontexts : t.contexts = s.contexts)
    (hwriter : t.lifetimeWriter = s.lifetimeWriter)
    (hmove : WorkerMove (s.contexts c) { s.contexts c with worker := w }
      ((workerFrees s c).toList.map fun freed => freed.1.picture)) :
    WorkerStepped c s (setWorker t c w) where
  lifetimeWriter := hwriter
  context := ⟨(s.contexts c).decoder, by simp [Driver.setWorker, State.setContext, hcontexts]⟩
  move := by simpa [Driver.setWorker, hcontexts] using hmove

/-- A section that keeps its jobs. -/
theorem WorkerStepped.keeps {w : WorkerPhase} (hcontexts : t.contexts = s.contexts)
    (hwriter : t.lifetimeWriter = s.lifetimeWriter) (hfrees : workerFrees s c = none)
    (hjobs : (s.contexts c).worker.pictures = w.pictures) (hrunning : w.rests = false)
    (hcancels : w.cancels = true → (s.contexts c).worker.cancels = true) :
    WorkerStepped c s (Driver.setWorker t c w) := by
  refine .setWorker hcontexts hwriter (.within rfl ?_ hrunning hcancels)
  rw [hfrees]
  exact hjobs

/-- A section that frees the only job in the worker's hands. -/
theorem WorkerStepped.frees {job : ResolveJob} {disposer : Disposer} {w : WorkerPhase}
    (hcontexts : t.contexts = s.contexts) (hwriter : t.lifetimeWriter = s.lifetimeWriter)
    (hfrees : workerFrees s c = some (job, disposer))
    (hjobs : (s.contexts c).worker.pictures = job.picture :: w.pictures)
    (hrunning : w.rests = false)
    (hcancels : w.cancels = true → (s.contexts c).worker.cancels = true) :
    WorkerStepped c s (Driver.setWorker t c w) := by
  refine .setWorker hcontexts hwriter (.within rfl ?_ hrunning hcancels)
  rw [hfrees]
  exact hjobs

theorem WorkerStepped.exits {t : State} (hcontexts : t.contexts = s.contexts)
    (hwriter : t.lifetimeWriter = s.lifetimeWriter) (hfrees : workerFrees s c = none)
    (hdone : (s.contexts c).worker.pictures = [])
    (hstopped : (s.contexts c).worker.cancels = true ∨
      (s.contexts c).resolveQueue.exiting = true) :
    WorkerStepped c s (Driver.setWorker t c .exited) :=
  .setWorker hcontexts hwriter (.exits rfl hdone hstopped rfl (by rw [hfrees]; rfl))

theorem workerStart_stepped {outcome : WorkerOutcome}
    (hworker : (s.contexts c).worker = .starting)
    (hstep : workerStart s c outcome = some s') : WorkerStepped c s s' := by
  have hfrees : workerFrees s c = none := by simp [workerFrees, hworker]
  unfold workerStart at hstep
  split at hstep
  · cases hstep
    exact .keeps rfl rfl hfrees (by rw [hworker]; rfl) rfl nofun
  · cases hstep
    refine ⟨rfl, ⟨(s.contexts c).decoder, ?_⟩, ?_⟩
    · simp [State.setContext, resolveQueueCancel]
    · refine .cancelsQueue ?_ hworker ?_ (by rw [hfrees]; rfl)
      · simp [resolveQueueCancel]
      · simp
  · cases hstep

theorem workerCancelled_stepped {jobs : List ResolveJob} {imageDone : Bool}
    (hworker : (s.contexts c).worker = .cancelled jobs imageDone)
    (hstep : workerCancelled s c jobs imageDone = some s') : WorkerStepped c s s' := by
  have hcancels : (s.contexts c).worker.cancels = true := by rw [hworker]; rfl
  unfold workerCancelled at hstep
  split at hstep
  · cases hstep
    exact .exits rfl rfl (by simp [workerFrees, hworker]) (by rw [hworker]; rfl) (.inl hcancels)
  · cases hstep
    exact .keeps rfl rfl (by simp [workerFrees, hworker]) (by rw [hworker]; rfl) rfl
      fun _ => hcancels
  · rename_i job rest
    cases hstep
    have hfrees : workerFrees s c = some (job, .workerCancel) := by simp [workerFrees, hworker]
    exact .frees rfl rfl hfrees (by rw [hworker]; rfl) rfl fun _ => hcancels

theorem workerPop_stepped {outcome : WorkerOutcome} (hworker : (s.contexts c).worker = .pop)
    (hstep : workerPop s c outcome = some s') : WorkerStepped c s s' := by
  have hfrees : workerFrees s c = none := by simp [workerFrees, hworker]
  have hdone : (s.contexts c).worker.pictures = [] := by rw [hworker]; rfl
  unfold workerPop at hstep
  simp only at hstep
  split at hstep
  · rename_i job rest hitems
    cases hstep
    refine ⟨rfl, ⟨(s.contexts c).decoder, ?_⟩, ?_⟩
    · simp [State.setContext]
    · exact .pops job (by simp [hitems]) (by simp) hworker (by simp) (by rw [hfrees]; rfl)
  · split at hstep
    · cases hstep
    · rename_i hexiting
      have hstopped : (s.contexts c).resolveQueue.exiting = true := by simpa using hexiting
      split at hstep
      · cases hstep
        have hexits : WorkerStepped c s (Driver.setWorker s c .exited) :=
          .exits rfl rfl hfrees hdone (.inr hstopped)
        exact ⟨hexits.lifetimeWriter, hexits.context, hexits.move⟩
      · split at hstep
        · cases hstep
          exact .exits rfl rfl hfrees hdone (.inr hstopped)
        · cases hstep
          refine ⟨rfl, ⟨none, ?_⟩, ?_⟩
          · simp [State.setContext]
          · exact .exits (by simp) hdone (.inr hstopped) (by simp) (by rw [hfrees]; rfl)

theorem workerPublish_stepped {job : ResolveJob} {failed : Bool}
    (hworker : (s.contexts c).worker = .publish job failed)
    (hstep : workerPublish s c job failed = some s') : WorkerStepped c s s' := by
  unfold workerPublish at hstep
  simp only at hstep
  split at hstep
  · rename_i hcurrent
    cases hstep
    exact .keeps rfl rfl (by simp [workerFrees, hworker, hcurrent]) (by rw [hworker]; rfl) rfl
      nofun
  · rename_i hsuperseded
    cases hstep
    have hfrees : workerFrees s c = some (job, .worker) := by
      simp [workerFrees, hworker, hsuperseded]
    exact .frees rfl rfl hfrees (by rw [hworker]; rfl) rfl nofun

/-- What every section of a worker does with its jobs. -/
theorem workerStep_stepped {outcome : WorkerOutcome}
    (hstep : workerStep s c outcome = some s') : WorkerStepped c s s' := by
  unfold workerStep at hstep
  split at hstep
  · cases hstep
  · exact workerStart_stepped ‹_› hstep
  · exact workerCancelled_stepped ‹_› hstep
  · exact workerPop_stepped ‹_› hstep
  · rename_i job hworker
    have hfrees : workerFrees s c = none := by simp [workerFrees, hworker]
    unfold workerPopped at hstep
    split at hstep
    · split at hstep <;> cases hstep <;> exact .keeps rfl rfl hfrees (by rw [hworker]; rfl) rfl nofun
    · cases hstep
      exact .keeps rfl rfl hfrees (by rw [hworker]; rfl) rfl nofun
    · cases hstep
  · rename_i job hworker
    have hfrees : workerFrees s c = none := by simp [workerFrees, hworker]
    unfold workerExporting at hstep
    split at hstep
    · split at hstep <;> cases hstep <;> exact .keeps rfl rfl hfrees (by rw [hworker]; rfl) rfl nofun
    · cases hstep
      exact .keeps rfl rfl hfrees (by rw [hworker]; rfl) rfl nofun
    · cases hstep
  · rename_i job hworker
    have hfrees : workerFrees s c = none := by simp [workerFrees, hworker]
    unfold workerCopying at hstep
    split at hstep <;> cases hstep <;> exact .keeps rfl rfl hfrees (by rw [hworker]; rfl) rfl nofun
  · rename_i job failed copied hworker
    have hfrees : workerFrees s c = none := by simp [workerFrees, hworker]
    unfold workerUnmapping at hstep
    split at hstep
    · split at hstep <;> cases hstep
      exact .keeps rfl rfl hfrees (by rw [hworker]; rfl) rfl nofun
    · split at hstep <;> cases hstep <;> exact .keeps rfl rfl hfrees (by rw [hworker]; rfl) rfl nofun
    · cases hstep
      exact .keeps rfl rfl hfrees (by rw [hworker]; rfl) rfl nofun
  · exact workerPublish_stepped ‹_› hstep
  · rename_i job failed hworker
    cases hstep
    exact .keeps rfl rfl (by simp [workerFrees, hworker]) (by rw [hworker]; rfl) rfl nofun
  · rename_i job failed hworker
    cases hstep
    have hfrees : workerFrees s c = some (job, .worker) := by simp [workerFrees, hworker]
    exact .frees rfl rfl hfrees (by rw [hworker]; rfl) rfl nofun
  · cases hstep

end Worker

/-! ## The ledger balances -/

/-- The pictures of the jobs that a step of the context `c` frees. -/
def freed (c : ContextRef) (s : State) (a : Label) : List Picture :=
  (frees c s a).toList.map fun job => job.1.picture

section Balance

variable {s t s' : State} {c d : ContextRef} {a : Label}

theorem outstanding_pictures (s : State) (c : ContextRef) :
    (s.outstanding c).map (fun p => p.job.picture) =
      (s.contexts c).resolveQueue.items.map ResolveJob.picture ++
        (s.contexts c).worker.pictures ++ (s.cancelledJobs c).map ResolveJob.picture := by
  simp [State.outstanding, Control.pending, NVContext.control, WorkerPhase.pictures,
    Function.comp_def, Pending.queued]

theorem inHand_of_build (hbuild : (s'.contexts c).build = (s.contexts c).build) :
    s'.inHand c = s.inHand c := by
  have hphase : (s'.contexts c).phase = (s.contexts c).phase :=
    congrArg PictureBuild.phase hbuild
  have hpicture : currentPicture s' c = currentPicture s c :=
    congrArg (Picture.mk c) (congrArg PictureBuild.picture hbuild)
  unfold State.inHand
  rw [hphase, hpicture]

/-- A step that touches neither the call on a context nor its jobs. -/
theorem held_of_build (hbuild : (s'.contexts c).build = (s.contexts c).build)
    (hqueue : (s'.contexts c).resolveQueue = (s.contexts c).resolveQueue)
    (hworker : (s'.contexts c).worker = (s.contexts c).worker)
    (hcancelled : s'.cancelledJobs c = s.cancelledJobs c) : s'.held c = s.held c := by
  unfold State.held
  rw [inHand_of_build hbuild, outstanding_pictures, outstanding_pictures, hqueue, hworker,
    hcancelled]

theorem held_of_contexts (hcontext : s'.contexts c = s.contexts c)
    (hwriter : s'.lifetimeWriter = s.lifetimeWriter) : s'.held c = s.held c :=
  held_of_build (by rw [hcontext]) (by rw [hcontext]) (by rw [hcontext])
    (cancelledJobs_of_writer hwriter c)

/-! ### The call on the context -/

theorem inHand_nil (hmake : ∀ status, (s.contexts c).phase ≠ .endMakeJob status)
    (hsubmitting : ∀ job, (s.contexts c).control.stage ≠ .submitting job) :
    s.inHand c = [] := by
  unfold State.inHand
  split
  · exact absurd ‹_› (hmake _)
  · rename_i job hphase
    exact absurd (by simp [NVContext.control, hphase]) (hsubmitting job)
  · rename_i job hphase
    exact absurd (by simp [NVContext.control, hphase]) (hsubmitting job)
  · rfl

/-- A section of a call that has no job in hand and allocates none. -/
theorem CallEffect.held (heffect : CallEffect c s s')
    (hok : (s.contexts c).control.okAt (s.contexts c).control.stage)
    (hmake : ∀ status, (s.contexts c).phase ≠ .endMakeJob status)
    (hsubmitting : ∀ job, (s.contexts c).control.stage ≠ .submitting job)
    (hunmade : ∀ status, (s'.contexts c).phase ≠ .endMakeJob status) :
    s'.held c = s.held c := by
  have hafter : ∀ job, (s'.contexts c).control.stage ≠ .submitting job := by
    intro job hjob
    rcases heffect.submitting hok hjob with hbefore | ⟨_, status, hphase, _⟩
    · exact hsubmitting job hbefore
    · exact hmake status hphase
  unfold State.held
  rw [inHand_nil hmake hsubmitting, inHand_nil hunmade hafter]
  rcases heffect.outstanding.2 with hsame | ⟨job, hstage, _⟩
  · rw [hsame]
  · exact absurd hstage (hsubmitting job)

/-- A section of a call that does not push keeps the outstanding jobs. -/
theorem outstanding_of_jobs (hqueue : (s'.contexts c).resolveQueue = (s.contexts c).resolveQueue)
    (hworker : (s'.contexts c).worker = (s.contexts c).worker)
    (hwriter : s'.lifetimeWriter = s.lifetimeWriter) : s'.outstanding c = s.outstanding c := by
  unfold State.outstanding
  rw [cancelledJobs_of_writer hwriter]
  simp [Control.pending, NVContext.control, hqueue, hworker]

theorem held_of_hand (hhand : s'.inHand c = s.inHand c)
    (hjobs : s'.outstanding c = s.outstanding c) : s'.held c = s.held c := by
  unfold State.held
  rw [hhand, hjobs]

theorem endMakeJob_held {status : VAStatus} (hphase : (s.contexts c).phase = .endMakeJob status)
    (hstep : endMakeJob s c status = some s') : s'.held c = s.held c := by
  unfold endMakeJob at hstep
  split at hstep <;> cases hstep
  refine held_of_hand ?_ (outstanding_of_jobs (by simp [goto]) (by simp [goto]) rfl)
  simp [State.inHand, hphase, goto, makeJob]

theorem endActiveMask_held {job : ResolveJob} (hphase : (s.contexts c).phase = .endActiveMask job)
    (hstep : endActiveMask s c job = some s') : s'.held c = s.held c := by
  unfold endActiveMask at hstep
  simp only at hstep
  split at hstep <;> cases hstep
  · refine held_of_hand ?_ (outstanding_of_jobs (by simp) (by simp) rfl)
    simp [State.inHand, hphase]
  · refine held_of_hand ?_ (outstanding_of_jobs (by simp [goto]) (by simp [goto]) rfl)
    simp [State.inHand, hphase, goto]

/-- A job that is not pushed is freed. -/
theorem endPushJob_held {job : ResolveJob} {outcome : Outcome}
    (hphase : (s.contexts c).phase = .endPushJob job) (hstep : endPushJob s c job = some s') :
    (s.held c).Perm (freed c s (.call c outcome) ++ s'.held c) := by
  unfold endPushJob at hstep
  simp only at hstep
  split at hstep
  · rename_i hexiting
    cases hstep
    have hfreed : freed c s (.call c outcome) = [job.picture] := by
      simp [freed, frees, hphase, hexiting]
    have hsame : (endFailure s c (s.contexts c)
        [.image job.surface, .fail job.surface .operationFailed]
        .operationFailed).outstanding c = s.outstanding c :=
      outstanding_of_jobs (by simp [endFailure]) (by simp [endFailure]) rfl
    unfold State.held
    rw [hfreed, hsame]
    simp [State.inHand, hphase, endFailure, Phase.after]
  · rename_i hopen
    have hfreed : freed c s (.call c outcome) = [] := by simp [freed, frees, hphase, hopen]
    split at hstep <;> cases hstep
    unfold State.held
    rw [hfreed, outstanding_pictures, outstanding_pictures]
    simp only [State.inHand, hphase, State.cancelledJobs, State.setContext_contexts, if_true,
      State.setContext_lifetimeWriter, List.map_append, List.map_cons, List.map_nil,
      List.nil_append, List.append_assoc, List.singleton_append]
    exact List.perm_middle.symm

theorem callStep_held {outcome : Outcome} (hbasic : Basic s)
    (hstep : callStep s c outcome = some s') :
    (allocation c s (.call c outcome) ++ s.held c).Perm
      (freed c s (.call c outcome) ++ s'.held c) := by
  have hok := hbasic.ok c
  have heffect : CallEffect c s s' := callStep_effect hok hstep
  rcases callStep_carries hok hstep with hcarries | ⟨status, hphase, rfl, rfl⟩
  · have hallocation : allocation c s (.call c outcome) = [] := by
      unfold allocation
      split
      · rename_i heq
        cases heq
        split
        · rename_i status hphase
          -- an allocation leaves the call with a job to fill in
          exfalso
          unfold callStep at hstep
          rw [hphase] at hstep
          cases hstep
          exact hcarries.unmade status (by simp [goto])
        · rfl
      · rfl
    rw [hallocation, List.nil_append]
    by_cases hpushing : ∃ job, (s.contexts c).phase = .endPushJob job
    · obtain ⟨job, hphase⟩ := hpushing
      unfold callStep at hstep
      rw [hphase] at hstep
      exact endPushJob_held hphase hstep
    · have hfreed : freed c s (.call c outcome) = [] := by
        simp only [freed, frees]
        split
        · rename_i job hphase
          exact absurd ⟨job, hphase⟩ hpushing
        · rfl
      rw [hfreed, List.nil_append]
      refine .of_eq (Eq.symm ?_)
      unfold callStep at hstep
      cases hphase : (s.contexts c).phase <;> rw [hphase] at hstep <;> simp only at hstep
      case endMakeJob status => exact endMakeJob_held hphase hstep
      case endActiveMask job => exact endActiveMask_held hphase hstep
      case endPushJob job => exact absurd ⟨job, hphase⟩ hpushing
      all_goals
        exact heffect.held hok (by simp [hphase]) (by simp [NVContext.control, hphase])
          hcarries.unmade
  · have hallocation : allocation c s (.call c .ok) = [currentPicture s c] := by
      simp [allocation, hphase]
    have hfreed : freed c s (.call c .ok) = [] := by simp [freed, frees, hphase]
    have hsame : (goto s c (.endMakeJob status)).outstanding c = s.outstanding c :=
      outstanding_of_jobs (by simp [goto]) (by simp [goto]) rfl
    rw [hallocation, hfreed]
    unfold State.held
    rw [hsame]
    simp [State.inHand, hphase, goto, currentPicture]

/-! ### The other threads -/

theorem pictures_cancelled (jobs : List ResolveJob) (imageDone : Bool) :
    (WorkerPhase.cancelled jobs imageDone).pictures = jobs.map ResolveJob.picture := by
  simp [WorkerPhase.pictures, WorkerPhase.pending, Pending.queued]

theorem WorkerStepped.others (hstepped : WorkerStepped d s s') (hc : c ≠ d) :
    s'.contexts c = s.contexts c := by
  obtain ⟨decoder, hcontexts⟩ := hstepped.context
  rw [hcontexts]
  simp [hc]

theorem WorkerStepped.build (hstepped : WorkerStepped d s s') (c : ContextRef) :
    (s'.contexts c).build = (s.contexts c).build := by
  obtain ⟨decoder, hcontexts⟩ := hstepped.context
  exact State.kept_setContext NVContext.build hcontexts rfl c

theorem WorkerStepped.held (hstepped : WorkerStepped c s s') :
    (s.held c).Perm
      (((workerFrees s c).toList.map fun job => job.1.picture) ++ s'.held c) := by
  have hcancelled := cancelledJobs_of_writer hstepped.lifetimeWriter c
  unfold State.held
  rw [inHand_of_build (hstepped.build c), outstanding_pictures, outstanding_pictures, hcancelled]
  have hmove := hstepped.move
  generalize (workerFrees s c).toList.map (fun job => job.1.picture) = pictures at hmove
  cases hmove with
  | within queue jobs =>
      rw [queue, jobs, List.perm_iff_count]
      intro picture
      simp only [List.count_append]
      omega
  | pops job items exiting before after unfreed =>
      rw [items, before, after, unfreed, List.perm_iff_count]
      intro picture
      simp only [List.count_append, List.count_cons, List.map_cons, WorkerPhase.pictures,
        WorkerPhase.pending, Pending.queued, List.map_nil, List.count_nil]
      omega
  | cancelsQueue queue before after unfreed =>
      rw [queue, before, after, unfreed, pictures_cancelled, List.perm_iff_count]
      intro picture
      simp only [List.count_append, WorkerPhase.pictures, WorkerPhase.pending, List.map_nil,
        List.count_nil]
      omega
  | exits queue done stopped after unfreed =>
      rw [queue, done, after, unfreed]
      exact .refl _

/-- A section of the worker of any context. -/
theorem workerStep_held {outcome : WorkerOutcome} (hstep : workerStep s d outcome = some s') :
    (s.held c).Perm (freed c s (.worker d outcome) ++ s'.held c) := by
  have hstepped := workerStep_stepped hstep
  by_cases hd : d = c
  · subst hd
    have hfreed : freed d s (.worker d outcome) =
        (workerFrees s d).toList.map fun job => job.1.picture := by simp [freed, frees]
    rw [hfreed]
    exact hstepped.held
  · have hfreed : freed c s (.worker d outcome) = [] := by simp [freed, frees, hd]
    rw [hfreed, List.nil_append]
    have hne : c ≠ d := fun h => hd h.symm
    exact .of_eq (held_of_contexts (hstepped.others hne) hstepped.lifetimeWriter).symm

/-- `nvDestroySurfaces` has no job of a context. -/
theorem destroySurfacesStep_held {todo : List SurfaceRef} {stage : DestroySurfaceStage}
    (hwriter : s.lifetimeWriter = some (.surfaces todo stage))
    (hstep : destroySurfacesStep s todo stage = some s') : s'.held c = s.held c := by
  have hnone : s.cancelledJobs c = [] := by simp [State.cancelledJobs, hwriter]
  unfold destroySurfacesStep at hstep
  split at hstep
  · cases hstep
    exact held_of_build rfl rfl rfl (by rw [hnone]; rfl)
  · split at hstep <;> cases hstep
    exact held_of_build rfl rfl rfl (by rw [hnone]; rfl)
  · split at hstep <;> cases hstep
    exact held_of_build rfl rfl rfl (by rw [hnone]; rfl)
  · obtain ⟨t, hrelease, rfl⟩ := Option.map_eq_some_iff.mp hstep
    have hcontext := release_contexts hrelease c
    exact held_of_build (kept_of_withoutIndices NVContext.build (fun _ => rfl) hcontext)
      (kept_of_withoutIndices NVContext.resolveQueue (fun _ => rfl) hcontext)
      (kept_of_withoutIndices NVContext.worker (fun _ => rfl) hcontext) (by rw [hnone]; rfl)
  · cases hstep
    exact held_of_build rfl rfl rfl (by rw [hnone]; rfl)

/-- A section of `destroyContext` that leaves queue, worker and cancelled jobs alone. -/
theorem held_of_destroys {ctx : NVContext} {call : Option DestroyCall}
    (hcontexts : t.contexts = (s.setContext d ctx).contexts)
    (hbuild : ctx.build = (s.contexts d).build)
    (hqueue : ctx.resolveQueue = (s.contexts d).resolveQueue)
    (hworker : ctx.worker = (s.contexts d).worker)
    (hcancelled : State.cancelledJobs { t with lifetimeWriter := call } c = s.cancelledJobs c) :
    State.held { t with lifetimeWriter := call } c = s.held c :=
  held_of_build (State.kept_setContext NVContext.build hcontexts hbuild c)
    (State.kept_setContext NVContext.resolveQueue hcontexts hqueue c)
    (State.kept_setContext NVContext.worker hcontexts hworker c) hcancelled

theorem destroyContextStep_held {stage : DestroyContextStage} {outcome : Outcome}
    (hwriter : s.lifetimeWriter = some (.context d stage))
    (hstep : destroyContextStep s d stage outcome = some s') :
    (s.held c).Perm (freed c s (.destroy outcome) ++ s'.held c) := by
  -- every stage but one frees nothing
  have hsame : freed c s (.destroy outcome) = [] → s'.held c = s.held c →
      (s.held c).Perm (freed c s (.destroy outcome) ++ s'.held c) := by
    intro hfreed hheld
    rw [hfreed, hheld]
    exact .refl _
  unfold destroyContextStep at hstep
  simp only at hstep
  split at hstep
  · -- the queue is emptied into the hands of the call
    cases hstep
    have hfreed : freed c s (.destroy outcome) = [] := by simp [freed, frees, hwriter]
    rw [hfreed, List.nil_append]
    by_cases hd : c = d
    · subst hd
      unfold State.held
      rw [outstanding_pictures, outstanding_pictures, List.perm_iff_count]
      intro picture
      have hhand : State.inHand (setWriter (s.setContext c (resolveQueueCancel (s.contexts c)))
          (.context c (.cancelled (s.contexts c).resolveQueue.items false))) c = s.inHand c := by
        refine inHand_of_build ?_
        simp [setWriter, NVContext.build, resolveQueueCancel]
      rw [hhand]
      simp [State.cancelledJobs, setWriter, hwriter, resolveQueueCancel]
      omega
    · have hne : ¬d = c := fun h => hd h.symm
      refine .of_eq (held_of_build ?_ ?_ ?_ ?_).symm
      · simp [setWriter, hd]
      · simp [setWriter, hd]
      · simp [setWriter, hd]
      · simp [State.cancelledJobs, setWriter, hwriter, hne]
  · cases hstep
    exact hsame (by simp [freed, frees, hwriter])
      (held_of_build rfl rfl rfl (by simp [State.cancelledJobs, setWriter, hwriter]))
  · cases hstep
    exact hsame (by simp [freed, frees, hwriter])
      (held_of_build rfl rfl rfl (by simp [State.cancelledJobs, setWriter, hwriter]))
  · rename_i job rest
    cases hstep
    by_cases hd : c = d
    · subst hd
      have hfreed : freed c s (.destroy outcome) = [job.picture] := by
        simp [freed, frees, hwriter]
      have hhand : State.inHand (setWriter (recordJobFailure (s.setSurface job.surface
          ((s.surfaces job.surface).failResolve .operationFailed)) job)
          (.context c (.cancelled rest false))) c = s.inHand c := inHand_of_build rfl
      rw [hfreed]
      unfold State.held
      rw [hhand, outstanding_pictures, outstanding_pictures, List.perm_iff_count]
      intro picture
      simp [State.cancelledJobs, setWriter, hwriter, recordJobFailure, List.count_cons]
      omega
    · have hne : ¬d = c := fun h => hd h.symm
      exact hsame (by simp [freed, frees, hwriter, hne])
        (held_of_build rfl rfl rfl (by simp [State.cancelledJobs, setWriter, hwriter, hne]))
  · have hfreed : freed c s (.destroy outcome) = [] := by simp [freed, frees, hwriter]
    split at hstep
    · cases hstep
      exact hsame hfreed
        (held_of_build rfl rfl rfl (by simp [State.cancelledJobs, endWriter, hwriter]))
    · split at hstep <;> cases hstep
      exact hsame hfreed (held_of_destroys rfl rfl rfl rfl (by simp [State.cancelledJobs, hwriter]))
    · cases hstep
  · have hfreed : freed c s (.destroy outcome) = [] := by simp [freed, frees, hwriter]
    have hends : (endWriter s).held c = s.held c :=
      held_of_build rfl rfl rfl (by simp [State.cancelledJobs, endWriter, hwriter])
    split at hstep
    · cases hstep
      exact hsame hfreed hends
    · split at hstep
      · cases hstep
        exact hsame hfreed
          (held_of_build rfl rfl rfl (by simp [State.cancelledJobs, setWriter, hwriter]))
      · split at hstep
        · cases hstep
          exact hsame hfreed
            (held_of_destroys rfl rfl rfl rfl (by simp [State.cancelledJobs, hwriter]))
        · cases hstep
          exact hsame hfreed hends
        · cases hstep
          exact hsame hfreed hends
        · cases hstep
  · cases hstep
    have hcontext := releaseContext_contexts s d c
    refine hsame (by simp [freed, frees, hwriter]) (held_of_build ?_ ?_ ?_ ?_)
    · exact kept_of_withoutIndices NVContext.build (fun _ => rfl) hcontext
    · exact kept_of_withoutIndices NVContext.resolveQueue (fun _ => rfl) hcontext
    · exact kept_of_withoutIndices NVContext.worker (fun _ => rfl) hcontext
    · simp [State.cancelledJobs, setWriter, hwriter]
  · cases hstep
    exact hsame (by simp [freed, frees, hwriter])
      (held_of_destroys rfl rfl rfl rfl (by simp [State.cancelledJobs, hwriter]))

theorem destroyStep_held {outcome : Outcome} (hstep : destroyStep s outcome = some s') :
    (s.held c).Perm (freed c s (.destroy outcome) ++ s'.held c) := by
  unfold destroyStep at hstep
  split at hstep
  · cases hstep
  · rename_i todo stage hwriter
    have hfreed : freed c s (.destroy outcome) = [] := by simp [freed, frees, hwriter]
    rw [hfreed, List.nil_append]
    exact .of_eq (destroySurfacesStep_held hwriter hstep).symm
  · exact destroyContextStep_held ‹_› hstep

/-! ### Every step -/

theorem held_of_absent (hbasic : Basic s) (habsent : (s.contexts c).life = .absent) :
    s.held c = [] := by
  have hstage : (s.contexts c).control.stage = .between := by
    by_contra hopen
    have hlive := (hbasic.lock c hopen).2.1
    rw [habsent] at hlive
    cases hlive
  have hhand : s.inHand c = [] := by
    refine inHand_nil ?_ ?_
    · intro status hphase
      simp [NVContext.control, hphase] at hstage
    · simp [hstage]
  unfold State.held
  rw [hhand, (hbasic.absent c habsent).2]
  rfl

theorem nvCreateContext_held {entrypoint : VAEntrypoint} {codec : CudaVideoCodec}
    {format : SurfaceFormat} {renderTargets : Nat} (hbasic : Basic s)
    (hstep : nvCreateContext s d entrypoint codec format renderTargets = some s') :
    s'.held c = s.held c := by
  by_cases hd : c = d
  · subst hd
    rw [held_of_absent hbasic (absent_of_create hstep)]
    unfold nvCreateContext at hstep
    split at hstep
    · cases hstep
    · rename_i hfree
      have hunlocked : s.lifetimeWriter = none := by
        simpa using fun h => hfree (.inl h)
      split at hstep <;> cases hstep <;> unfold State.held <;> rw [outstanding_pictures] <;>
        simp [State.inHand, State.cancelledJobs, hunlocked, WorkerPhase.pictures,
          WorkerPhase.pending]
  · have hcontext := (create_build hstep).1 c hd
    refine held_of_contexts hcontext ?_
    unfold nvCreateContext at hstep
    split at hstep
    · cases hstep
    · split at hstep <;> cases hstep <;> rfl

/-- A section or an entry of a call on another context. -/
theorem held_of_otherCall (hbasic : Basic s) (hcoursed : s.coursed) (hc : c ≠ d)
    (hcall : a.callOn = some d) (hstep : Driver.step s a = some s') : s'.held c = s.held c := by
  have hbuild := (call_build hcoursed hcall hstep).1 c hc
  cases step_effect hbasic.ok hstep with
  | call e on effect =>
      rw [hcall] at on
      cases on
      have hcontrol := effect.frame.control c hc
      exact held_of_build hbuild (congrArg Control.resolveQueue hcontrol)
        (congrArg Control.worker hcontrol) (cancelledJobs_of_writer effect.frame.lifetimeWriter c)
  | thread on =>
      rw [hcall] at on
      cases on
  | sync on =>
      rw [hcall] at on
      cases on

/-- The entry of a call on the context. -/
theorem held_of_entry (hbasic : Basic s) (hidle : (s.contexts c).phase = .idle)
    (hcarries : Carries c s s') (hcall : a.callOn = some c)
    (hstep : Driver.step s a = some s') : s'.held c = s.held c := by
  cases step_effect hbasic.ok hstep with
  | call e on effect =>
      rw [hcall] at on
      cases on
      exact effect.held (hbasic.ok c) (by simp [hidle]) (by simp [NVContext.control, hidle])
        hcarries.unmade
  | thread on =>
      rw [hcall] at on
      cases on
  | sync on =>
      rw [hcall] at on
      cases on

/-- What a step allocates comes to what is held, and what it frees goes. -/
theorem held_step (hbasic : Basic s) (hcoursed : s.coursed)
    (hstep : Driver.step s a = some s') :
    (allocation c s a ++ s.held c).Perm (freed c s a ++ s'.held c) := by
  have hsame : allocation c s a = [] → freed c s a = [] → s'.held c = s.held c →
      (allocation c s a ++ s.held c).Perm (freed c s a ++ s'.held c) := by
    intro hallocation hfreed hheld
    rw [hallocation, hfreed, hheld]
  cases a with
  | beginPicture d r =>
      refine hsame rfl rfl ?_
      by_cases hd : c = d
      · subst hd
        exact held_of_entry hbasic (nvBeginPicture_entry hstep).2.1 (nvBeginPicture_carries hstep)
          rfl hstep
      · exact held_of_otherCall hbasic hcoursed hd rfl hstep
  | renderPicture d argumentsValid =>
      refine hsame rfl rfl ?_
      by_cases hd : c = d
      · subst hd
        exact held_of_entry hbasic (nvRenderPicture_entry hstep).2.1
          (nvRenderPicture_carries hstep) rfl hstep
      · exact held_of_otherCall hbasic hcoursed hd rfl hstep
  | endPicture d =>
      refine hsame rfl rfl ?_
      by_cases hd : c = d
      · subst hd
        exact held_of_entry hbasic (nvEndPicture_entry hstep).2.1 (nvEndPicture_carries hstep)
          rfl hstep
      · exact held_of_otherCall hbasic hcoursed hd rfl hstep
  | call d outcome =>
      by_cases hd : c = d
      · subst hd
        exact callStep_held hbasic hstep
      · have hne : ¬d = c := fun h => hd h.symm
        refine hsame ?_ ?_ (held_of_otherCall hbasic hcoursed hd rfl hstep)
        · unfold allocation
          split
          · rename_i heq
            cases heq
            split
            · exact if_neg hne
            · rfl
          · rfl
        · simp only [freed, frees]
          split
          · rw [if_neg fun h => hne h.1]
            rfl
          · rfl
  | worker d outcome => exact workerStep_held hstep
  | destroy outcome => exact destroyStep_held hstep
  | createContext d entrypoint codec format renderTargets =>
      exact hsame rfl rfl (nvCreateContext_held hbasic hstep)
  | destroySurfaces requested =>
      refine hsame rfl rfl ?_
      change nvDestroySurfaces s requested = some s' at hstep
      unfold nvDestroySurfaces at hstep
      split at hstep
      · cases hstep
      · rename_i hlock
        have hunlocked : s.lifetimeWriter = none := by
          simpa using fun h => hlock (.inl h)
        split at hstep <;> cases hstep
        · exact held_of_build rfl rfl rfl (by simp [State.cancelledJobs, hunlocked])
        · rfl
  | destroyContext d =>
      refine hsame rfl rfl ?_
      change nvDestroyContext s d = some s' at hstep
      unfold nvDestroyContext at hstep
      simp only at hstep
      split at hstep
      · cases hstep
      · rename_i hlock
        have hunlocked : s.lifetimeWriter = none := by
          simpa using fun h => hlock (.inl h)
        split at hstep <;> cases hstep
        · rfl
        · refine held_of_destroys rfl rfl rfl rfl ?_
          by_cases hstarted : (s.contexts d).resolveThreadStarted = true <;>
            simp [State.cancelledJobs, hunlocked, hstarted]
  | createSurface r format image =>
      refine hsame rfl rfl ?_
      change Driver.createSurface s r format image = some s' at hstep
      unfold Driver.createSurface at hstep
      split at hstep <;> cases hstep
      exact held_of_contexts rfl rfl
  | realiseSurface r image =>
      refine hsame rfl rfl ?_
      change Driver.realiseSurface s r image = some s' at hstep
      unfold Driver.realiseSurface at hstep
      split at hstep <;> cases hstep
      exact held_of_contexts rfl rfl
  | markExported thread r =>
      refine hsame rfl rfl ?_
      change Driver.markExported s thread r = some s' at hstep
      unfold Driver.markExported at hstep
      split at hstep <;> cases hstep
      exact held_of_contexts rfl rfl
  | workUnsafe =>
      cases hstep
      exact hsame rfl rfl (held_of_contexts rfl rfl)
  | syncSurface thread r =>
      have heffect := nvSyncSurface_effect hstep
      exact hsame rfl rfl (held_of_contexts (by rw [heffect.contexts]) heffect.lifetimeWriter)
  | sync thread =>
      have heffect := syncStep_effect hstep
      exact hsame rfl rfl (held_of_contexts (by rw [heffect.contexts]) heffect.lifetimeWriter)

end Balance

/-! ## The fate of a generation -/

section Fates

variable {s s' : State} {c : ContextRef} {a : Label}

/-- A section that ends the generation of a surface leaves no debt. -/
theorem fateOf_ended {job : ResolveJob}
    (hresolved : (s'.surfaces job.surface).resolving = false)
    (hcompleted : (s'.surfaces job.surface).completedGeneration =
      (s.surfaces job.surface).submittedGeneration) : fateOf s s' job ≠ .owed := by
  unfold fateOf
  by_cases hgeneration : (s.surfaces job.surface).submittedGeneration = job.generation
  · simp [hgeneration, hresolved, hcompleted]
  · simp [hgeneration]

theorem fateOf_failResolve {job : ResolveJob} (hsurface : s'.surfaces job.surface =
      (s.surfaces job.surface).failResolve .operationFailed) :
    fateOf s s' job ≠ .owed :=
  fateOf_ended (by rw [hsurface]; rfl) (by rw [hsurface]; rfl)

theorem workerStep_fate {outcome : WorkerOutcome} {job : ResolveJob} {disposer : Disposer}
    (hfrees : workerFrees s c = some (job, disposer))
    (hstep : workerStep s c outcome = some s') : fateOf s s' job ≠ .owed := by
  unfold workerFrees at hfrees
  unfold workerStep at hstep
  split at hfrees
  · rename_i job failed hworker
    split at hfrees
    · cases hfrees
    · rename_i hsuperseded
      cases hfrees
      simp [fateOf, hsuperseded]
  · rename_i job failed hworker
    cases hfrees
    rw [hworker] at hstep
    cases hstep
    exact fateOf_ended (by simp [setWorker, NVSurface.finish]) (by simp [setWorker, NVSurface.finish])
  · rename_i job rest hworker
    cases hfrees
    rw [hworker] at hstep
    cases hstep
    exact fateOf_failResolve (by simp [setWorker, recordJobFailure])
  · cases hfrees

/-- Whoever but the call frees a job has ended its generation with that, or it was
superseded. -/
theorem fate_of_frees {job : ResolveJob} {disposer : Disposer}
    (hfrees : frees c s a = some (job, disposer)) (hother : disposer ≠ .endPicture)
    (hstep : Driver.step s a = some s') : fateOf s s' job ≠ .owed := by
  unfold frees at hfrees
  split at hfrees
  · split at hfrees
    · rename_i hd
      subst hd
      exact workerStep_fate hfrees hstep
    · cases hfrees
  · split at hfrees
    · rename_i d job rest hwriter
      split at hfrees
      · cases hfrees
        change destroyStep s _ = some s' at hstep
        unfold destroyStep at hstep
        rw [hwriter] at hstep
        cases hstep
        exact fateOf_failResolve (by simp [setWriter, recordJobFailure])
      · cases hfrees
    · cases hfrees
  · split at hfrees
    · split at hfrees <;> cases hfrees
      exact absurd rfl hother
    · cases hfrees
  · cases hfrees

end Fates

end Driver
end NvidiaVaapi
