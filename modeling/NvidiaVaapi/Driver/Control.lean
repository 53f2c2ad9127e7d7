import NvidiaVaapi.Driver.Machine

/-!
# What a picture holds, owes and expects

Generations of a surface are started and ended by the call in progress on a
context, by its resolve worker and by the calls that destroy it.  The program
points of a call fall into a few stages, and for each stage this module names

* the surfaces that the picture *holds*: its targets, and while
  `nvBeginPicture` runs the surface it has waited for;
* the surfaces that it *owes* an end: on every way out of the stage their flag
  is cleared or passed on to a resolve job;
* the surfaces whose flag it *expects* to be set by itself.

Everything is stated on `Control`, the part of a context that index tables and
picture parameters are left out of.
-/

namespace NvidiaVaapi
namespace Driver

/-- The flag, generation and status fields of a surface. -/
structure Flags where
  resolving : Bool
  submittedGeneration : Nat
  completedGeneration : Nat
  decodeFailed : Bool
  completionStatus : VAStatus
  startedBy : Option Picture
  deriving DecidableEq, Repr

def NVSurface.flags (surface : NVSurface) : Flags :=
  { resolving := surface.resolving
    submittedGeneration := surface.submittedGeneration
    completedGeneration := surface.completedGeneration
    decodeFailed := surface.decodeFailed
    completionStatus := surface.completionStatus
    startedBy := surface.startedBy }

/-- Where a picture is between its calls and in them. -/
inductive Stage
  /-- No call in progress, or one about to return. -/
  | between
  /-- `nvBeginPicture` before its wait is over. -/
  | waiting (r : SurfaceRef)
  /-- `nvBeginPicture` from there to the start of the generation. -/
  | acquiring (r : SurfaceRef)
  /-- The decode path up to the submission to NVDEC. -/
  | decoding
  /-- The VideoProc loop. -/
  | blitting
  /-- `cuvidDecodePicture` has returned. -/
  | decoded (status : VAStatus)
  /-- The film-grain hand-over, before and after the display target's start. -/
  | redirecting (started : Bool) (status : VAStatus)
  /-- From there until the job is filled in. -/
  | making (status : VAStatus)
  /-- The job is about to be pushed. -/
  | submitting (job : ResolveJob)
  /-- After the push. -/
  | submitted
  /-- Sections that end generations, and what follows them. -/
  | clearing (todo : List ClearSection) (next : Stage)
  /-- `resetPictureBuild` is about to drop the targets. -/
  | resetting
  deriving DecidableEq, Repr

@[simp] def Phase.stage : Phase → Stage
  | .idle => .between
  | .ret _ => .between
  | .clearing todo next => .clearing todo next.stage
  | .reset _ => .resetting
  | .beginWaitSurface r => .waiting r
  | .beginWaitImage r => .acquiring r
  | .beginRelease r => .acquiring r
  | .beginAssign r => .acquiring r
  | .assignScan r _ _ _ => .acquiring r
  | .assignWaitSurface r _ _ => .acquiring r
  | .assignWaitImage r _ _ => .acquiring r
  | .beginStartImage r => .acquiring r
  | .beginStart r => .acquiring r
  | .beginInit _ => .decoding
  | .renderLoop => .decoding
  | .renderLookup .. => .decoding
  | .blitLoop _ => .blitting
  | .blitWaitSurface _ => .blitting
  | .blitWaitImage _ => .blitting
  | .blitCopy _ => .blitting
  | .blitRelease _ => .blitting
  | .blitPublish _ => .blitting
  | .endCreateDecoder => .decoding
  | .endPushContext => .decoding
  | .endDecode => .decoding
  | .endPopContext status => .decoded status
  | .handOverStartImage status => .redirecting false status
  | .handOverStart status => .redirecting false status
  | .handOverFinishImage status => .redirecting true status
  | .handOverFinish status => .redirecting true status
  | .endAllocJob status => .making status
  | .endMakeJob status => .making status
  | .endActiveMask job => .submitting job
  | .endPushJob job => .submitting job
  | .endShared _ => .submitted
  | .endWaitSurface => .submitted
  | .endWaitImage => .submitted
  | .endReadStatus => .submitted

/-- Run a list of sections before a stage. -/
def Stage.after : List ClearSection → Stage → Stage
  | [], next => next
  | todo, next => .clearing todo next

@[simp] theorem Phase.stage_after (todo : List ClearSection) (next : Phase) :
    (Phase.after todo next).stage = Stage.after todo next.stage := by
  cases todo <;> rfl

/-- The fields of a context that decide who holds a surface and who ends its
generations. -/
structure Control where
  life : ObjectLife := .absent
  entrypoint : VAEntrypoint := .vld
  resolveQueue : ResolveQueue := {}
  worker : WorkerPhase := .absent
  pictureState : NVDPictureState := .idle
  renderTarget : Option SurfaceRef := none
  displayTarget : Option SurfaceRef := none
  stage : Stage := .between
  picture : Nat := 0
  deriving DecidableEq, Repr

def NVContext.control (ctx : NVContext) : Control :=
  { life := ctx.life
    entrypoint := ctx.entrypoint
    resolveQueue := ctx.resolveQueue
    worker := ctx.worker
    pictureState := ctx.pictureState
    renderTarget := ctx.renderTarget
    displayTarget := ctx.displayTarget
    stage := ctx.phase.stage
    picture := ctx.picture }

/-- The surfaces whose own flag a list of sections clears. -/
def clearedBy (todo : List ClearSection) : List SurfaceRef :=
  todo.filterMap ClearSection.clears

@[simp] theorem clears_image (r : SurfaceRef) : (ClearSection.image r).clears = none := rfl
@[simp] theorem clears_finish (r : SurfaceRef) : (ClearSection.finish r).clears = some r := rfl
@[simp] theorem clears_fail (r : SurfaceRef) (status : VAStatus) :
    (ClearSection.fail r status).clears = some r := rfl

@[simp] theorem clearedBy_nil : clearedBy [] = [] := rfl

@[simp] theorem mem_clearedBy_cons (section_ : ClearSection) (rest : List ClearSection)
    (r : SurfaceRef) :
    r ∈ clearedBy (section_ :: rest) ↔ section_.clears = some r ∨ r ∈ clearedBy rest := by
  simp [clearedBy]

@[simp] theorem clearedBy_append (first second : List ClearSection) :
    clearedBy (first ++ second) = clearedBy first ++ clearedBy second :=
  List.filterMap_append ..

/-- A job that has not run to its end: whether it is going to fail, and whether
the worker has stored that in the surface. -/
structure Pending where
  job : ResolveJob
  failed : Bool
  marked : Bool
  deriving DecidableEq, Repr

/-- A job that no worker has looked at. -/
def Pending.queued (job : ResolveJob) : Pending :=
  ⟨job, job.decodeStatus ≠ .success, false⟩

/-- The jobs in the hands of a worker. -/
def WorkerPhase.pending : WorkerPhase → List Pending
  | .cancelled jobs _ => jobs.map .queued
  | .popped job => [.queued job]
  | .exporting job => [⟨job, false, false⟩]
  | .copying job => [⟨job, false, false⟩]
  | .unmapping job failed _ => [⟨job, failed, false⟩]
  | .publish job failed => [⟨job, failed, false⟩]
  | .clearImage job failed => [⟨job, failed, true⟩]
  | .clear job failed => [⟨job, failed, true⟩]
  | .absent => []
  | .starting => []
  | .pop => []
  | .exited => []

namespace Control

variable (κ : Control)

def target (r : SurfaceRef) : Prop :=
  κ.renderTarget = some r ∨ κ.displayTarget = some r

def outputTarget : Option SurfaceRef :=
  κ.displayTarget <|> κ.renderTarget

/-- The picture holds the surface. -/
def holds (r : SurfaceRef) : Prop :=
  κ.target r ∨ κ.stage = .acquiring r

/-- Leaving the stage ends the surface's generation or hands it on. -/
def owesAt (r : SurfaceRef) : Stage → Prop
  | .between => κ.renderTarget = some r
  | .waiting _ => False
  | .acquiring _ => False
  | .decoding => κ.renderTarget = some r
  | .blitting => κ.renderTarget = some r
  | .decoded _ => κ.renderTarget = some r
  | .redirecting false _ => κ.renderTarget = some r
  | .redirecting true _ => κ.target r
  | .making _ => κ.outputTarget = some r
  | .submitting _ => κ.outputTarget = some r
  | .submitted => False
  | .clearing todo next => r ∈ clearedBy todo ∨ owesAt r next
  | .resetting => False

/-- The picture still owes the surface an end. -/
def owes (r : SurfaceRef) : Prop :=
  κ.target r ∧ κ.owesAt r κ.stage

/-- At this stage of a decode picture that has not failed, the surface's flag is
set by the picture itself. -/
def expectsAt (r : SurfaceRef) : Stage → Prop
  | .between => κ.renderTarget = some r
  | .decoding => κ.renderTarget = some r
  | .decoded _ => κ.renderTarget = some r
  | .redirecting false _ => κ.renderTarget = some r
  | .redirecting true _ => κ.target r
  | .making _ => κ.outputTarget = some r
  | .submitting _ => κ.outputTarget = some r
  | _ => False

def expects (r : SurfaceRef) : Prop :=
  κ.entrypoint = .vld ∧ κ.pictureState = .building ∧ κ.expectsAt r κ.stage

/-- The jobs that the context's queue and worker have. -/
def pending : List Pending :=
  κ.resolveQueue.items.map .queued ++ κ.worker.pending

/-- What does not concern the object's life or its jobs. -/
def quiet : Control :=
  { κ with life := .absent, resolveQueue := {}, worker := .absent }

/-- No target is recorded. -/
def untargeted : Prop :=
  κ.renderTarget = none ∧ κ.displayTarget = none

/-- The targets that a begun picture has. -/
def targeted : Prop :=
  κ.renderTarget.isSome ∧ (κ.displayTarget.isSome ↔ κ.entrypoint = .vld)

/-- What is known of the other fields at each stage. -/
def okAt : Stage → Prop
  | .between =>
    (κ.pictureState = .idle ∧ κ.untargeted) ∨
      ((κ.pictureState = .building ∨ κ.pictureState = .failed) ∧ κ.targeted)
  | .waiting _ => κ.pictureState = .building ∧ κ.untargeted
  | .acquiring _ => κ.pictureState = .building ∧ κ.untargeted
  | .decoding => κ.pictureState = .building ∧ κ.entrypoint = .vld ∧ κ.targeted
  | .blitting => κ.pictureState = .building ∧ κ.entrypoint = .videoProc ∧ κ.targeted
  | .decoded _ => κ.pictureState = .building ∧ κ.entrypoint = .vld ∧ κ.targeted
  | .redirecting _ _ =>
    κ.pictureState = .building ∧ κ.entrypoint = .vld ∧ κ.targeted ∧
      κ.outputTarget ≠ κ.renderTarget
  | .making _ => κ.pictureState = .building ∧ κ.entrypoint = .vld ∧ κ.targeted
  | .submitting job =>
    κ.pictureState = .building ∧ κ.entrypoint = .vld ∧ κ.targeted ∧
      κ.outputTarget = some job.surface ∧ job.picture.serial = κ.picture ∧
      (job.handedOver = true ↔ κ.outputTarget ≠ κ.renderTarget)
  | .submitted => κ.pictureState = .submitted ∧ κ.entrypoint = .vld ∧ κ.targeted
  | .clearing todo next =>
    κ.targeted ∧ (∀ r ∈ clearedBy todo, κ.target r) ∧
      match next with
      | .resetting => κ.pictureState = .building ∨ κ.pictureState = .failed
      | .between =>
        κ.pictureState = .failed ∨
          (κ.entrypoint = .videoProc ∧ κ.pictureState = .building)
      | .blitting => κ.entrypoint = .videoProc ∧ κ.pictureState = .building
      | _ => False
  | .resetting =>
    (κ.pictureState = .building ∧ κ.untargeted) ∨ (κ.pictureState ≠ .idle ∧ κ.targeted)

/-- The picture has failed, or a decode picture is ending its generations early. -/
def cleaning : Prop :=
  κ.pictureState = .failed ∨ (κ.entrypoint = .vld ∧ ∃ todo next, κ.stage = .clearing todo next)

/-- A failure of the picture shows in the state of its call. -/
def failing : Prop :=
  κ.cleaning ∨ κ.stage = .resetting ∨ ∃ status, status ≠ .success ∧
    (κ.stage = .decoded status ∨ (∃ started, κ.stage = .redirecting started status) ∨
      κ.stage = .making status ∨ ∃ job, κ.stage = .submitting job ∧ job.decodeStatus = status)

/-- The picture is out of its calls' hands. -/
def settled : Prop :=
  κ.pictureState = .submitted ∨ κ.pictureState = .idle

variable {κ}

theorem target_of_outputTarget {r : SurfaceRef} (houtput : κ.outputTarget = some r) :
    κ.target r := by
  unfold outputTarget at houtput
  cases hdisplay : κ.displayTarget with
  | none => exact .inl (by simpa [hdisplay] using houtput)
  | some d => exact .inr (by simpa [hdisplay] using houtput)

theorem target_of_expects {r : SurfaceRef} (hexpects : κ.expects r) : κ.target r := by
  obtain ⟨_, _, hat⟩ := hexpects
  unfold expectsAt at hat
  split at hat
  · exact .inl hat
  · exact .inl hat
  · exact .inl hat
  · exact .inl hat
  · exact hat
  · exact target_of_outputTarget hat
  · exact target_of_outputTarget hat
  · exact hat.elim

/-- What is owed at a stage depends on the targets alone. -/
theorem owesAt_setStage (stage next : Stage) (r : SurfaceRef) :
    ({ κ with stage := stage } : Control).owesAt r next ↔ κ.owesAt r next := by
  induction next with
  | clearing todo next ih => simp [owesAt, ih]
  | redirecting started status => cases started <;> exact Iff.rfl
  | _ => exact Iff.rfl

@[simp] theorem owesAt_after (r : SurfaceRef) (todo : List ClearSection) (next : Stage) :
    κ.owesAt r (.after todo next) ↔ r ∈ clearedBy todo ∨ κ.owesAt r next := by
  cases todo <;> simp [Stage.after, owesAt]

end Control

theorem phase_of_stage_clearing {ctx : NVContext} {todo : List ClearSection} {next : Stage}
    (hstage : ctx.control.stage = .clearing todo next) :
    ∃ next', ctx.phase = .clearing todo next' := by
  change ctx.phase.stage = _ at hstage
  cases hphase : ctx.phase <;> rw [hphase] at hstage <;> try cases hstage
  exact ⟨_, rfl⟩

/-! ## The sections of the failing exits -/

theorem mem_clearedBy_targetSections (ctx : NVContext) {section_ : SurfaceRef → ClearSection}
    (hclears : ∀ r, (section_ r).clears = some r) (r : SurfaceRef) :
    r ∈ clearedBy (ctx.targetSections section_) ↔ ctx.control.target r := by
  unfold NVContext.targetSections Control.target NVContext.control
  cases hdisplay : ctx.displayTarget with
  | none => cases hrender : ctx.renderTarget <;> simp [hclears]
  | some d =>
      cases hrender : ctx.renderTarget with
      | none => simp [hclears]
      | some t =>
          by_cases hsame : t = d
          · simp [hclears, hsame]
          · simp [hclears, hsame, or_comm]

theorem mem_clearedBy_cancelSections (ctx : NVContext) (r : SurfaceRef) :
    r ∈ clearedBy ctx.cancelSections ↔ ctx.control.target r :=
  mem_clearedBy_targetSections ctx (fun _ => rfl) r

theorem mem_clearedBy_finishSections (ctx : NVContext) (r : SurfaceRef) :
    r ∈ clearedBy ctx.finishSections ↔ ctx.control.target r :=
  mem_clearedBy_targetSections ctx (fun _ => rfl) r

theorem mem_clearedBy_finishOf (target : Option SurfaceRef) (r : SurfaceRef) :
    r ∈ clearedBy (NVContext.finishOf target) ↔ target = some r := by
  cases target <;> simp [NVContext.finishOf]

theorem mem_clearedBy_failOf (target : Option SurfaceRef) (status : VAStatus) (r : SurfaceRef) :
    r ∈ clearedBy (NVContext.failOf target status) ↔ target = some r := by
  cases target <;> simp [NVContext.failOf]

end Driver
end NvidiaVaapi
