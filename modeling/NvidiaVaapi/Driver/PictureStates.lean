import NvidiaVaapi.Driver.Exclusive
import NvidiaVaapi.Driver.PictureMoves

/-!
# The picture state machine

What `nvBeginPicture`, `nvRenderPicture` and `nvEndPicture` return and leave behind
on one context, whatever the other threads do.  The calls of a run are kept in a
`PictureRecord` beside the state.
-/

namespace NvidiaVaapi
namespace Driver

/-! ## Sections of other threads -/

/-- All contexts keep their picture state. -/
def SameBuild (s s' : State) : Prop :=
  ∀ d, (s'.contexts d).build = (s.contexts d).build

section Threads

variable {s t s' : State} {c : ContextRef} {a : Label}

theorem SameBuild.of_contexts (hcontexts : s'.contexts = s.contexts) : SameBuild s s' := by
  intro d
  rw [hcontexts]

theorem SameBuild.setContext {ctx : NVContext} (hsame : SameBuild s t)
    (hctx : ctx.build = (t.contexts c).build) : SameBuild s (t.setContext c ctx) := by
  intro d
  by_cases hd : d = c
  · subst hd
    simpa using hctx.trans (hsame d)
  · simpa [hd] using hsame d

theorem workerStep_build {outcome : WorkerOutcome} (hstep : workerStep s c outcome = some s') :
    SameBuild s s' := by
  have hset : ∀ (t : State) (w : WorkerPhase), t.contexts = s.contexts →
      SameBuild s (setWorker t c w) := fun t w hcontexts =>
    .setContext (.of_contexts hcontexts) rfl
  unfold workerStep at hstep
  split at hstep
  · cases hstep
  · unfold workerStart at hstep
    split at hstep
    · cases hstep
      exact hset _ _ rfl
    · cases hstep
      exact .setContext (.of_contexts rfl) rfl
    · cases hstep
  · unfold workerCancelled at hstep
    split at hstep <;> cases hstep <;> exact hset _ _ rfl
  · unfold workerPop at hstep
    simp only at hstep
    split at hstep
    · cases hstep
      exact .setContext (.of_contexts rfl) rfl
    · split at hstep
      · cases hstep
      · split at hstep
        · cases hstep
          exact hset _ _ rfl
        · split at hstep
          · cases hstep
            exact hset _ _ rfl
          · cases hstep
            exact .setContext (.of_contexts rfl) rfl
  · unfold workerPopped at hstep
    split at hstep
    · split at hstep <;> cases hstep <;> exact hset _ _ rfl
    · cases hstep
      exact hset _ _ rfl
    · cases hstep
  · unfold workerExporting at hstep
    split at hstep
    · split at hstep <;> cases hstep <;> exact hset _ _ rfl
    · cases hstep
      exact hset _ _ rfl
    · cases hstep
  · unfold workerCopying at hstep
    split at hstep
    · cases hstep
      exact hset _ _ rfl
    · cases hstep
      exact hset _ _ rfl
    · cases hstep
  · unfold workerUnmapping at hstep
    split at hstep
    · split at hstep
      · cases hstep
        exact hset _ _ rfl
      · cases hstep
    · split at hstep <;> cases hstep <;> exact hset _ _ rfl
    · cases hstep
      exact hset _ _ rfl
  · unfold workerPublish at hstep
    simp only at hstep
    split at hstep <;> cases hstep <;> exact hset _ _ rfl
  · cases hstep
    exact hset _ _ rfl
  · cases hstep
    exact hset _ _ rfl
  · cases hstep

theorem destroySurfacesStep_build {todo : List SurfaceRef} {stage : DestroySurfaceStage}
    (hstep : destroySurfacesStep s todo stage = some s') : SameBuild s s' := by
  unfold destroySurfacesStep at hstep
  split at hstep
  · cases hstep
    exact .of_contexts rfl
  · split at hstep <;> cases hstep
    exact .of_contexts rfl
  · split at hstep <;> cases hstep
    exact .of_contexts rfl
  · obtain ⟨t, hrelease, rfl⟩ := Option.map_eq_some_iff.mp hstep
    have hbuild := release_build hrelease
    exact hbuild
  · cases hstep
    exact .of_contexts rfl

theorem destroyContextStep_build {stage : DestroyContextStage} {outcome : Outcome}
    (hstep : destroyContextStep s c stage outcome = some s') : SameBuild s s' := by
  have hset : ∀ (ctx : NVContext) (call : DestroyCall), ctx.build = (s.contexts c).build →
      SameBuild s (setWriter (s.setContext c ctx) call) := fun ctx _ hctx =>
    .setContext (.of_contexts rfl) hctx
  unfold destroyContextStep at hstep
  split at hstep
  · cases hstep
    exact hset _ _ rfl
  · cases hstep
    exact .of_contexts rfl
  · cases hstep
    exact .of_contexts rfl
  · cases hstep
    exact .of_contexts rfl
  · split at hstep
    · cases hstep
      exact .of_contexts rfl
    · simp only at hstep
      split at hstep
      · cases hstep
        exact hset _ _ rfl
      · cases hstep
    · cases hstep
  · simp only at hstep
    split at hstep
    · cases hstep
      exact .of_contexts rfl
    · split at hstep
      · cases hstep
        exact .of_contexts rfl
      · split at hstep
        · cases hstep
          exact hset _ _ rfl
        · cases hstep
          exact .of_contexts rfl
        · cases hstep
          exact .of_contexts rfl
        · cases hstep
  · cases hstep
    intro d
    by_cases hd : d = c
    · subst hd
      simp [setWriter, releaseContextPictureIndices, NVContext.build]
    · simp [setWriter, releaseContextPictureIndices, hd]
  · cases hstep
    exact .setContext (.of_contexts rfl) rfl

/-- A label of another thread that creates no context leaves the picture states alone. -/
theorem thread_build (hcall : a.callOn = none) (hcreates : a.creates = none)
    (hstep : Driver.step s a = some s') : SameBuild s s' := by
  cases a with
  | createSurface r format image =>
      change Driver.createSurface s r format image = some s' at hstep
      unfold Driver.createSurface at hstep
      split at hstep <;> cases hstep
      exact .of_contexts rfl
  | createContext d entrypoint codec format renderTargets => cases hcreates
  | realiseSurface r image =>
      change Driver.realiseSurface s r image = some s' at hstep
      unfold Driver.realiseSurface at hstep
      split at hstep <;> cases hstep
      exact .of_contexts rfl
  | markExported thread r =>
      change Driver.markExported s thread r = some s' at hstep
      unfold Driver.markExported at hstep
      split at hstep <;> cases hstep
      exact .of_contexts rfl
  | workUnsafe =>
      cases hstep
      exact .of_contexts rfl
  | beginPicture d r => cases hcall
  | renderPicture d argumentsValid => cases hcall
  | endPicture d => cases hcall
  | call d outcome => cases hcall
  | worker d outcome => exact workerStep_build hstep
  | destroySurfaces requested =>
      change nvDestroySurfaces s requested = some s' at hstep
      unfold nvDestroySurfaces at hstep
      split at hstep
      · cases hstep
      · split at hstep <;> cases hstep <;> exact .of_contexts rfl
  | destroyContext d =>
      change nvDestroyContext s d = some s' at hstep
      unfold nvDestroyContext at hstep
      simp only at hstep
      split at hstep
      · cases hstep
      · split at hstep
        · cases hstep
          exact .of_contexts rfl
        · cases hstep
          exact SameBuild.setContext (.of_contexts rfl) rfl
  | destroy outcome =>
      change destroyStep s outcome = some s' at hstep
      unfold destroyStep at hstep
      split at hstep
      · cases hstep
      · exact destroySurfacesStep_build hstep
      · exact destroyContextStep_build hstep
  | syncSurface thread r => exact .of_contexts (nvSyncSurface_effect hstep).contexts
  | sync thread => exact .of_contexts (syncStep_effect hstep).contexts

end Threads

/-! ## Entering a call -/

section Entries

variable {s s' : State} {c : ContextRef}

theorem enter_others (s : State) (c : ContextRef) (ctx : NVContext) :
    OthersBuild c s ((lifetimeReadLock s c).setContext c ctx) :=
  OthersBuild.setContext (.of_contexts rfl) ctx

/-- The entry of a call that is refused at once. -/
structure Refused (c : ContextRef) (s s' : State) : Prop where
  phase : (s'.contexts c).phase = .idle
  same : SamePicture (s.contexts c) (s'.contexts c)
  state : s' = s.setContext c { s.contexts c with result := .operationFailed }

theorem phase_of_admitted (hadmitted : ¬admitted s c = false) :
    (s.contexts c).phase = .idle := by
  simp only [admitted, Bool.not_eq_false, decide_eq_true_eq] at hadmitted
  exact hadmitted.2.2

theorem Refused.of_admitted (hadmitted : ¬admitted s c = false) :
    Refused c s (s.setContext c { s.contexts c with result := .operationFailed }) :=
  ⟨by simp [phase_of_admitted hadmitted], by simpa using ⟨rfl, rfl, rfl⟩, rfl⟩

/-- `nvBeginPicture` starts a new picture on an idle context. -/
structure BeginEntered (c : ContextRef) (s s' : State) : Prop where
  idle : (s.contexts c).pictureState = .idle
  picture : (s'.contexts c).picture = (s.contexts c).picture + 1
  course : (s'.contexts c).phase.course = .beginning ∨
    ∃ status, (s'.contexts c).phase.course = .resetting status

theorem nvBeginPicture_entry {r : SurfaceRef} (hstep : nvBeginPicture s c r = some s') :
    OthersBuild c s s' ∧ (s.contexts c).phase = .idle ∧
      (Refused c s s' ∨ BeginEntered c s s') := by
  unfold nvBeginPicture at hstep
  simp only at hstep
  split at hstep
  · cases hstep
  · rename_i hadmitted
    have hphase := phase_of_admitted hadmitted
    split at hstep
    · cases hstep
      exact ⟨.setContext (.of_contexts rfl) _, hphase, .inl (.of_admitted hadmitted)⟩
    · rename_i hidle
      have hidle' : (s.contexts c).pictureState = .idle := by simpa using hidle
      split at hstep
      · cases hstep
        exact ⟨enter_others s c _, hphase,
          .inr ⟨hidle', by simp [enter], .inr ⟨_, by simp [enter, beginFailure]; rfl⟩⟩⟩
      · split at hstep
        · cases hstep
          exact ⟨enter_others s c _, hphase,
            .inr ⟨hidle', by simp [enter], .inr ⟨_, by simp [enter, beginFailure]; rfl⟩⟩⟩
        · cases hstep
          exact ⟨enter_others s c _, hphase,
            .inr ⟨hidle', by simp [enter], .inl (by simp [enter])⟩⟩

/-- `nvRenderPicture` goes on with the open picture, or fails at once. -/
structure RenderEntered (c : ContextRef) (s s' : State) : Prop where
  building : (s.contexts c).pictureState = .building
  picture : (s'.contexts c).picture = (s.contexts c).picture
  course : (s'.contexts c).phase.course = .rendering ∨
    ∃ status, status ≠ .success ∧ (s'.contexts c).phase.course = .returning status ∧
      (s'.contexts c).pictureState = .failed ∧ (s'.contexts c).pictureFailure = status

theorem nvRenderPicture_entry {argumentsValid : Bool}
    (hstep : nvRenderPicture s c argumentsValid = some s') :
    OthersBuild c s s' ∧ (s.contexts c).phase = .idle ∧
      (Refused c s s' ∨ RenderEntered c s s') := by
  have hfail : ∀ status, status ≠ .success → (s.contexts c).pictureState = .building →
      RenderEntered c s (renderFailure (lifetimeReadLock s c) c (s.contexts c)
        (s.contexts c).cancelSections status) := by
    intro status hstatus hbuilding
    refine ⟨hbuilding, by simp [renderFailure], .inr ⟨status, hstatus, ?_, ?_, ?_⟩⟩ <;>
      simp [renderFailure]
  unfold nvRenderPicture at hstep
  simp only at hstep
  split at hstep
  · cases hstep
  · rename_i hadmitted
    have hphase := phase_of_admitted hadmitted
    split at hstep
    · cases hstep
      exact ⟨.setContext (.of_contexts rfl) _, hphase, .inl (.of_admitted hadmitted)⟩
    · rename_i hbuilding
      have hbuilding' : (s.contexts c).pictureState = .building := by simpa using hbuilding
      split at hstep
      · cases hstep
        exact ⟨enter_others s c _, hphase, .inr (hfail _ nofun hbuilding')⟩
      · split at hstep
        · cases hstep
          exact ⟨enter_others s c _, hphase, .inr (hfail _ nofun hbuilding')⟩
        · split at hstep <;> cases hstep <;>
            exact ⟨enter_others s c _, hphase,
              .inr ⟨hbuilding', by simp [enter], .inl (by simp [enter])⟩⟩

/-- `nvEndPicture` goes on with the open picture, or reports its failure. -/
structure EndEntered (c : ContextRef) (s s' : State) : Prop where
  picture : (s'.contexts c).picture = (s.contexts c).picture
  course : ((s.contexts c).pictureState = .failed ∧
      (s'.contexts c).phase.course = .resetting (s.contexts c).pictureFailure) ∨
    ((s.contexts c).pictureState = .building ∧
      ((s'.contexts c).phase.course = .ending ∨
        ∃ status, (s'.contexts c).phase.course = .resetting status))

theorem nvEndPicture_entry (hstep : nvEndPicture s c = some s') :
    OthersBuild c s s' ∧ (s.contexts c).phase = .idle ∧
      (Refused c s s' ∨ EndEntered c s s') := by
  unfold nvEndPicture at hstep
  simp only at hstep
  split at hstep
  · cases hstep
  · rename_i hadmitted
    have hphase := phase_of_admitted hadmitted
    have hrefused : ∀ ctx : NVContext, OthersBuild c s (s.setContext c ctx) := fun ctx =>
      OthersBuild.setContext (.of_contexts rfl) ctx
    split at hstep
    · cases hstep
      exact ⟨hrefused _, hphase, .inl (.of_admitted hadmitted)⟩
    · cases hstep
      exact ⟨hrefused _, hphase, .inl (.of_admitted hadmitted)⟩
    · rename_i hfailed
      cases hstep
      exact ⟨enter_others s c _, hphase,
        .inr ⟨by simp [enter], .inl ⟨hfailed, by simp [enter]⟩⟩⟩
    · rename_i hbuilding
      have hend : ∀ (ctx : NVContext) (first : List ClearSection) (status : VAStatus),
          ctx.picture = (s.contexts c).picture →
          OthersBuild c s (endFailure (lifetimeReadLock s c) c ctx first status) ∧
            (s.contexts c).phase = .idle ∧
              (Refused c s (endFailure (lifetimeReadLock s c) c ctx first status) ∨
                EndEntered c s (endFailure (lifetimeReadLock s c) c ctx first status)) := by
        intro ctx first status hpicture
        refine ⟨enter_others s c _, hphase, .inr ⟨?_, .inr ⟨hbuilding, .inr ⟨status, ?_⟩⟩⟩⟩
        · simpa [endFailure] using hpicture
        · simp [endFailure]
      split at hstep
      · split at hstep <;> cases hstep <;>
          exact ⟨enter_others s c _, hphase,
            .inr ⟨by simp [enter], .inr ⟨hbuilding, .inr ⟨_, by simp [enter]; rfl⟩⟩⟩⟩
      · split at hstep
        · cases hstep
          exact hend _ _ _ rfl
        · split at hstep
          · cases hstep
            exact hend _ _ _ rfl
          · split at hstep
            · cases hstep
              exact hend _ _ _ rfl
            · cases hstep
              exact ⟨enter_others s c _, hphase,
                .inr ⟨by simp [enter], .inr ⟨hbuilding, .inl (by simp [enter])⟩⟩⟩

end Entries

/-! ## The record of the calls on one context -/

/-- The calls that work on a picture. -/
inductive PictureCall
  | beginPicture
  | renderPicture
  | endPicture
  deriving DecidableEq, Repr

/-- What has been called on a context and what was returned. -/
structure PictureRecord where
  /-- The call in progress. -/
  call : Option PictureCall := none
  /-- What the first failing `nvRenderPicture` of the open picture returned. -/
  failure : Option VAStatus := none
  /-- The pictures one of whose `nvRenderPicture` calls has failed. -/
  spoiled : List Nat := []
  deriving DecidableEq, Repr

namespace PictureRecord

/-- A call returns to a context. -/
def returned (ctx : NVContext) (record : PictureRecord) : PictureRecord :=
  match record.call with
  | some .renderPicture =>
    if ctx.result = .success then { record with call := none }
    else
      { call := none
        failure := record.failure <|> some ctx.result
        spoiled := ctx.picture :: record.spoiled }
  | some .endPicture => { record with call := none, failure := none }
  | _ => { record with call := none }

/-- A call enters the driver, unless it is refused at once. -/
def entered (ctx : NVContext) (call : PictureCall) (record : PictureRecord) : PictureRecord :=
  if ctx.phase = .idle then record
  else
    { record with
      call := some call
      failure := if call = .beginPicture then none else record.failure }

/-- The record of the calls on the context `c` after one more step. -/
def note (c : ContextRef) (_ : State) (a : Label) (after : State) (record : PictureRecord) :
    PictureRecord :=
  if a.creates = some c then {}
  else if a.callOn ≠ some c then record
  else
    match a with
    | .beginPicture _ _ => record.entered (after.contexts c) .beginPicture
    | .renderPicture _ _ => record.entered (after.contexts c) .renderPicture
    | .endPicture _ => record.entered (after.contexts c) .endPicture
    | _ => if (after.contexts c).phase = .idle then record.returned (after.contexts c) else record

/-- The record agrees with the picture state of the context. -/
def agrees (record : PictureRecord) (ctx : NVContext) : Prop :=
  match ctx.phase.course with
  | .between =>
    record.call = none ∧ ∀ status, record.failure = some status →
      ctx.pictureState = .failed ∧ ctx.pictureFailure = status
  | .beginning => record.call = some .beginPicture ∧ record.failure = none
  | .rendering => record.call = some .renderPicture ∧ record.failure = none
  | .ending => record.call = some .endPicture ∧ record.failure = none
  | .returning status =>
    record.failure = none ∧
      ((record.call = some .beginPicture ∧ status = .success) ∨
        (record.call = some .renderPicture ∧
          (status = .success ∨ (ctx.pictureState = .failed ∧ ctx.pictureFailure = status))))
  | .resetting status =>
    (record.call = some .beginPicture ∧ record.failure = none) ∨
      (record.call = some .endPicture ∧ ∀ failure, record.failure = some failure →
        status = failure)

end PictureRecord

/-- Every call in progress has a course. -/
def State.coursed (s : State) : Prop :=
  ∀ d, (s.contexts d).phase ≠ .idle → (s.contexts d).phase.course ≠ .between

/-- The invariant behind the picture state machine of the context `c`. -/
structure PictureKept (c : ContextRef) (s : State) (record : PictureRecord) : Prop where
  basic : Basic s
  coursed : s.coursed
  agrees : record.agrees (s.contexts c)
  /-- The open picture is spoiled only after a failure that is recorded. -/
  open_spoiled : ∀ n ∈ record.spoiled, n ≤ (s.contexts c).picture ∧
    (n = (s.contexts c).picture → record.failure.isSome ∨
      ((s.contexts c).pictureState = .idle ∧ (s.contexts c).phase = .idle))
  jobs : ∀ n ∈ record.spoiled, ∀ p ∈ s.outstanding c, p.job.picture.serial ≠ n

section Records

variable {s s' : State} {c d : ContextRef} {a : Label} {record : PictureRecord}

theorem PictureRecord.agrees_of_build (hagrees : record.agrees (s.contexts c))
    (hbuild : (s'.contexts c).build = (s.contexts c).build) : record.agrees (s'.contexts c) := by
  have hphase : (s'.contexts c).phase = (s.contexts c).phase :=
    congrArg PictureBuild.phase hbuild
  have hstate : (s'.contexts c).pictureState = (s.contexts c).pictureState :=
    congrArg PictureBuild.pictureState hbuild
  have hfailure : (s'.contexts c).pictureFailure = (s.contexts c).pictureFailure :=
    congrArg PictureBuild.pictureFailure hbuild
  unfold PictureRecord.agrees at *
  rw [hphase, hstate, hfailure]
  exact hagrees

/-- Steps that do not concern the context keep what is recorded of it. -/
theorem PictureKept.of_build (hkept : PictureKept c s record) (hbasic : Basic s')
    (hcoursed : s'.coursed) (hbuild : (s'.contexts c).build = (s.contexts c).build)
    (hjobs : ∀ p ∈ s'.outstanding c, ∃ q ∈ s.outstanding c, q.job = p.job) :
    PictureKept c s' record where
  basic := hbasic
  coursed := hcoursed
  agrees := PictureRecord.agrees_of_build hkept.agrees hbuild
  open_spoiled := by
    have hphase : (s'.contexts c).phase = (s.contexts c).phase :=
      congrArg PictureBuild.phase hbuild
    have hstate : (s'.contexts c).pictureState = (s.contexts c).pictureState :=
      congrArg PictureBuild.pictureState hbuild
    have hpicture : (s'.contexts c).picture = (s.contexts c).picture :=
      congrArg PictureBuild.picture hbuild
    rw [hphase, hstate, hpicture]
    exact hkept.open_spoiled
  jobs := by
    intro n hn p hp
    obtain ⟨q, hq, hsame⟩ := hjobs p hp
    rw [← hsame]
    exact hkept.jobs n hn q hq

theorem coursed_of_build (hcoursed : s.coursed) (hothers : OthersBuild d s s')
    (hown : (s'.contexts d).phase ≠ .idle → (s'.contexts d).phase.course ≠ .between) :
    s'.coursed := by
  intro e hopen
  by_cases he : e = d
  · subst he
    exact hown hopen
  · have hphase : (s'.contexts e).phase = (s.contexts e).phase :=
      congrArg PictureBuild.phase (hothers e he)
    rw [hphase] at hopen ⊢
    exact hcoursed e hopen

theorem course_of_submitting {phase : Phase} {job : ResolveJob}
    (hstage : phase.stage = .submitting job) : phase.course = .ending := by
  cases phase <;> first | rfl | cases hstage

theorem phase_ne_idle {ctx : NVContext} (hcourse : ctx.phase.course ≠ .between) :
    ctx.phase ≠ .idle := by
  intro hidle
  rw [hidle] at hcourse
  exact hcourse rfl

/-- A section of the call in progress pushes no job of a spoiled picture. -/
theorem PictureKept.jobs_call (hkept : PictureKept c s record) (heffect : CallEffect c s s') :
    ∀ n ∈ record.spoiled, ∀ p ∈ s'.outstanding c, p.job.picture.serial ≠ n := by
  intro n hn p hp
  rcases heffect.outstanding.2 with hsame | ⟨job, hstage, _, _, _, hperm⟩
  · exact hkept.jobs n hn p (hsame ▸ hp)
  · rcases List.mem_cons.mp (hperm.mem_iff.mp hp) with rfl | hbefore
    · -- the pushed job is one of the open picture, which is not spoiled
      have hcourse : (s.contexts c).phase.course = .ending := course_of_submitting hstage
      have hagrees := hkept.agrees
      unfold PictureRecord.agrees at hagrees
      rw [hcourse] at hagrees
      have hserial : job.picture.serial = (s.contexts c).picture := by
        rw [hkept.basic.submitting c job hstage]
        rfl
      change job.picture.serial ≠ n
      intro hequal
      rcases (hkept.open_spoiled n hn).2 (hequal ▸ hserial) with hsome | ⟨_, hidle⟩
      · simp [hagrees.2] at hsome
      · rw [hidle] at hcourse
        cases hcourse
    · exact hkept.jobs n hn p hbefore

/-- The record is unchanged while the call in progress does not return. -/
theorem PictureKept.stays (hkept : PictureKept c s record) (hbasic : Basic s')
    (hcoursed : s'.coursed) (heffect : CallEffect c s s')
    (hopened : (s.contexts c).phase ≠ .idle)
    (hpicture : (s'.contexts c).picture = (s.contexts c).picture)
    (hagrees : record.agrees (s'.contexts c)) : PictureKept c s' record where
  basic := hbasic
  coursed := hcoursed
  agrees := hagrees
  open_spoiled := by
    intro n hn
    rw [hpicture]
    refine ⟨(hkept.open_spoiled n hn).1, fun hcurrent => ?_⟩
    rcases (hkept.open_spoiled n hn).2 hcurrent with hsome | ⟨_, hidle⟩
    · exact .inl hsome
    · exact absurd hidle hopened
  jobs := hkept.jobs_call heffect

/-- The call in progress returns and spoils no picture. -/
theorem PictureKept.returns {record' : PictureRecord} (hkept : PictureKept c s record)
    (hbasic : Basic s') (hcoursed : s'.coursed) (heffect : CallEffect c s s')
    (hopened : (s.contexts c).phase ≠ .idle) (hphase : (s'.contexts c).phase = .idle)
    (hpicture : (s'.contexts c).picture = (s.contexts c).picture)
    (hcall : record'.call = none) (hfailure : record'.failure = none)
    (hspoiled : record'.spoiled = record.spoiled)
    (hcleared : record.failure.isSome → (s'.contexts c).pictureState = .idle) :
    PictureKept c s' record' where
  basic := hbasic
  coursed := hcoursed
  agrees := by
    unfold PictureRecord.agrees
    rw [hphase]
    exact ⟨hcall, by simp [hfailure]⟩
  open_spoiled := by
    intro n hn
    rw [hspoiled] at hn
    rw [hpicture]
    refine ⟨(hkept.open_spoiled n hn).1, fun hcurrent => ?_⟩
    rcases (hkept.open_spoiled n hn).2 hcurrent with hsome | ⟨_, hidle⟩
    · exact .inr ⟨hcleared hsome, hphase⟩
    · exact absurd hidle hopened
  jobs := by
    rw [hspoiled]
    exact hkept.jobs_call heffect

/-- A failing `nvRenderPicture` returns. -/
theorem PictureKept.spoils {status : VAStatus} (hkept : PictureKept c s record)
    (hbasic : Basic s') (hcoursed : s'.coursed) (heffect : CallEffect c s s')
    (hphase : (s'.contexts c).phase = .idle)
    (hpicture : (s'.contexts c).picture = (s.contexts c).picture)
    (hstate : (s'.contexts c).pictureState = .failed)
    (hfailure : (s'.contexts c).pictureFailure = status) :
    PictureKept c s'
      { call := none
        failure := some status
        spoiled := (s'.contexts c).picture :: record.spoiled } where
  basic := hbasic
  coursed := hcoursed
  agrees := by
    unfold PictureRecord.agrees
    rw [hphase]
    refine ⟨rfl, ?_⟩
    rintro _ ⟨⟩
    exact ⟨hstate, hfailure⟩
  open_spoiled := by
    intro n hn
    refine ⟨?_, fun _ => .inl rfl⟩
    rcases List.mem_cons.mp hn with rfl | hbefore
    · exact Nat.le_refl _
    · rw [hpicture]
      exact (hkept.open_spoiled n hbefore).1
  jobs := by
    intro n hn p hp
    rcases List.mem_cons.mp hn with rfl | hbefore
    · -- no job of a picture is outstanding while it is open
      intro hserial
      rcases (hbasic.jobs c p hp).2.2.2 hserial with h | h <;>
        · change (s'.contexts c).pictureState = _ at h
          simp [hstate] at h
    · exact hkept.jobs_call heffect n hbefore p hp

/-- A section of the call in progress on the context. -/
theorem PictureKept.call (hkept : PictureKept c s record) {outcome : Outcome}
    (hstep : callStep s c outcome = some s') :
    PictureKept c s' (record.note c s (.call c outcome) s') := by
  have hbasic : Basic s' := hkept.basic.step (a := .call c outcome) hstep
  have heffect := callStep_effect (hkept.basic.ok c) hstep
  have hopen : (s.contexts c).phase ≠ .idle := by
    intro hidle
    unfold callStep at hstep
    rw [hidle] at hstep
    cases hstep
  have hmove := callStep_move (hkept.coursed c hopen) hstep
  have hagrees := hkept.agrees
  have hnote : record.note c s (.call c outcome) s' =
      if (s'.contexts c).phase = .idle then record.returned (s'.contexts c) else record := by
    simp [PictureRecord.note, Label.creates, Label.callOn]
  rw [hnote]
  have hstays : ∀ course, (s'.contexts c).phase.course = course → course ≠ .between →
      (s'.contexts c).picture = (s.contexts c).picture → record.agrees (s'.contexts c) →
      PictureKept c s' (if (s'.contexts c).phase = .idle then
        record.returned (s'.contexts c) else record) := by
    intro course hcourse hne hpicture hagrees'
    have hopen' : (s'.contexts c).phase ≠ .idle := phase_ne_idle (hcourse ▸ hne)
    rw [if_neg hopen']
    have hcoursed := coursed_of_build hkept.coursed hmove.others fun _ => hcourse ▸ hne
    exact hkept.stays hbasic hcoursed heffect hopen hpicture hagrees'
  have hclosed : (s'.contexts c).phase = .idle → s'.coursed := fun hphase =>
    coursed_of_build hkept.coursed hmove.others fun h => absurd hphase h
  unfold PictureRecord.agrees at hagrees
  cases hmove.own with
  | within course opened same =>
      refine hstays _ course opened same.picture ?_
      unfold PictureRecord.agrees
      rw [course, same.pictureState, same.pictureFailure]
      exact hagrees
  | submit course course' picture =>
      refine hstays _ course' nofun picture ?_
      unfold PictureRecord.agrees
      rw [course] at hagrees
      rw [course']
      exact hagrees
  | begun course course' same =>
      refine hstays _ course' nofun same.picture ?_
      unfold PictureRecord.agrees
      rw [course] at hagrees
      rw [course']
      exact ⟨hagrees.2, .inl ⟨hagrees.1, rfl⟩⟩
  | refused status course course' same =>
      refine hstays _ course' nofun same.picture ?_
      unfold PictureRecord.agrees
      rw [course] at hagrees
      rw [course']
      exact .inl hagrees
  | rendered course course' same =>
      refine hstays _ course' nofun same.picture ?_
      unfold PictureRecord.agrees
      rw [course] at hagrees
      rw [course']
      exact ⟨hagrees.2, .inr ⟨hagrees.1, .inl rfl⟩⟩
  | failed status course course' failure pictureState pictureFailure picture =>
      refine hstays _ course' nofun picture ?_
      unfold PictureRecord.agrees
      rw [course] at hagrees
      rw [course']
      exact ⟨hagrees.2, .inr ⟨hagrees.1, .inr ⟨pictureState, pictureFailure⟩⟩⟩
  | ended status course course' picture =>
      refine hstays _ course' nofun picture ?_
      unfold PictureRecord.agrees
      rw [course] at hagrees
      rw [course']
      refine .inr ⟨hagrees.1, ?_⟩
      simp [hagrees.2]
  | returned status course phase result same =>
      rw [course] at hagrees
      obtain ⟨hnone, ⟨hbegin, hstatus⟩ | ⟨hrender, hstatus⟩⟩ := hagrees
      · rw [if_pos phase]
        refine hkept.returns hbasic (hclosed phase) heffect hopen phase same.picture ?_ ?_ ?_ ?_ <;>
          simp [PictureRecord.returned, hbegin, hnone]
      · rw [if_pos phase]
        by_cases hsuccess : status = .success
        · subst hsuccess
          refine hkept.returns hbasic (hclosed phase) heffect hopen phase same.picture ?_ ?_ ?_ ?_ <;>
            simp [PictureRecord.returned, hrender, hnone, result]
        · obtain ⟨hstate, hfailure⟩ := hstatus.resolve_left hsuccess
          have hreturned : record.returned (s'.contexts c) =
              { call := none
                failure := some status
                spoiled := (s'.contexts c).picture :: record.spoiled } := by
            simp [PictureRecord.returned, hrender, hnone, result, hsuccess]
          rw [hreturned]
          exact hkept.spoils hbasic (hclosed phase) heffect phase same.picture
            (same.pictureState.trans hstate) (same.pictureFailure.trans hfailure)
  | reset status course phase result cleared picture =>
      rw [course] at hagrees
      rw [if_pos phase]
      rcases hagrees with ⟨hcall, hnone⟩ | ⟨hcall, _⟩
      · refine hkept.returns hbasic (hclosed phase) heffect hopen phase picture ?_ ?_ ?_
          (fun _ => cleared.1) <;>
          simp [PictureRecord.returned, hcall, hnone]
      · refine hkept.returns hbasic (hclosed phase) heffect hopen phase picture ?_ ?_ ?_
          (fun _ => cleared.1) <;>
          simp [PictureRecord.returned, hcall]

/-- A refused call changes nothing but its result. -/
theorem PictureKept.refused (hkept : PictureKept c s record) (hrefused : Refused c s s')
    (hbasic : Basic s') (hothers : OthersBuild c s s') (hphase : (s.contexts c).phase = .idle)
    (heffect : CallEffect c s s') : PictureKept c s' record := by
  have hbuild : (s'.contexts c).build = (s.contexts c).build := by
    simp [NVContext.build, hrefused.same.pictureState, hrefused.same.pictureFailure,
      hrefused.same.picture, hrefused.phase, hphase]
  refine hkept.of_build hbasic ?_ hbuild ?_
  · exact coursed_of_build hkept.coursed hothers fun h => absurd hrefused.phase h
  · intro p hp
    rcases heffect.outstanding.2 with hsame | ⟨job, hstage, _⟩
    · exact ⟨p, hsame ▸ hp, rfl⟩
    · simp [NVContext.control, hphase] at hstage

/-- What the context and its record are before a call enters. -/
theorem PictureKept.between (hkept : PictureKept c s record)
    (hphase : (s.contexts c).phase = .idle) :
    record.call = none ∧ ∀ status, record.failure = some status →
      (s.contexts c).pictureState = .failed ∧ (s.contexts c).pictureFailure = status := by
  have hagrees := hkept.agrees
  unfold PictureRecord.agrees at hagrees
  rw [hphase] at hagrees
  exact hagrees

/-- A call enters and works on a picture. -/
theorem PictureKept.enters {call : PictureCall} {record' : PictureRecord}
    (hkept : PictureKept c s record) (hbasic : Basic s') (hothers : OthersBuild c s s')
    (heffect : CallEffect c s s') (hopened : (s'.contexts c).phase.course ≠ .between)
    (hrecord : record' = record.entered (s'.contexts c) call)
    (hagrees : ({ record with
      call := some call
      failure := if call = .beginPicture then none else record.failure } :
        PictureRecord).agrees (s'.contexts c))
    (hspoiled : ∀ n ∈ record.spoiled, n ≤ (s'.contexts c).picture ∧
      (n = (s'.contexts c).picture → call ≠ .beginPicture ∧ record.failure.isSome)) :
    PictureKept c s' record' := by
  have hentered : record' = { record with
      call := some call
      failure := if call = .beginPicture then none else record.failure } := by
    rw [hrecord]
    unfold PictureRecord.entered
    rw [if_neg (phase_ne_idle hopened)]
  rw [hentered]
  constructor
  case basic => exact hbasic
  case coursed => exact coursed_of_build hkept.coursed hothers fun _ => hopened
  case agrees => exact hagrees
  case open_spoiled =>
    intro n hn
    refine ⟨(hspoiled n hn).1, fun hcurrent => .inl ?_⟩
    obtain ⟨hcall, hsome⟩ := (hspoiled n hn).2 hcurrent
    simpa [hcall] using hsome
  case jobs => exact hkept.jobs_call heffect

theorem PictureKept.beginPicture (hkept : PictureKept c s record) {r : SurfaceRef}
    (hstep : nvBeginPicture s c r = some s') :
    PictureKept c s' (record.note c s (.beginPicture c r) s') := by
  have hbasic : Basic s' := hkept.basic.step (a := .beginPicture c r) hstep
  have heffect := nvBeginPicture_effect (hkept.basic.ok c) hstep
  have hnote : record.note c s (.beginPicture c r) s' =
      record.entered (s'.contexts c) .beginPicture := by
    simp [PictureRecord.note, Label.creates, Label.callOn]
  obtain ⟨hothers, hphase, hrefused | hentered⟩ := nvBeginPicture_entry hstep
  · rw [hnote]
    unfold PictureRecord.entered
    rw [if_pos hrefused.phase]
    exact hkept.refused hrefused hbasic hothers hphase heffect
  · have hopened : (s'.contexts c).phase.course ≠ .between := by
      rcases hentered.course with h | ⟨_, h⟩ <;> simp [h]
    refine hkept.enters hbasic hothers heffect hopened hnote ?_ ?_
    · unfold PictureRecord.agrees
      rcases hentered.course with h | ⟨_, h⟩ <;> simp [h]
    · -- a new picture is not spoiled yet
      intro n hn
      have hle := (hkept.open_spoiled n hn).1
      have hpicture := hentered.picture
      exact ⟨by omega, fun h => by omega⟩

theorem PictureKept.renderPicture (hkept : PictureKept c s record) {argumentsValid : Bool}
    (hstep : nvRenderPicture s c argumentsValid = some s') :
    PictureKept c s' (record.note c s (.renderPicture c argumentsValid) s') := by
  have hbasic : Basic s' := hkept.basic.step (a := .renderPicture c argumentsValid) hstep
  have heffect := nvRenderPicture_effect (hkept.basic.ok c) hstep
  have hnote : record.note c s (.renderPicture c argumentsValid) s' =
      record.entered (s'.contexts c) .renderPicture := by
    simp [PictureRecord.note, Label.creates, Label.callOn]
  obtain ⟨hothers, hphase, hrefused | hentered⟩ := nvRenderPicture_entry hstep
  · rw [hnote]
    unfold PictureRecord.entered
    rw [if_pos hrefused.phase]
    exact hkept.refused hrefused hbasic hothers hphase heffect
  · have hopened : (s'.contexts c).phase.course ≠ .between := by
      rcases hentered.course with h | ⟨_, _, h, _⟩ <;> simp [h]
    -- a picture that has failed before is not building
    have hnone : record.failure = none := by
      by_contra hsome
      obtain ⟨status, hstatus⟩ := Option.ne_none_iff_exists'.mp hsome
      have hfailed := ((hkept.between hphase).2 status hstatus).1
      simp [hentered.building] at hfailed
    refine hkept.enters hbasic hothers heffect hopened hnote ?_ ?_
    · unfold PictureRecord.agrees
      rcases hentered.course with h | ⟨status, _, h, hstate, hfailure⟩
      · simp [h, hnone]
      · simp [h, hnone, hstate, hfailure]
    · intro n hn
      rw [hentered.picture]
      refine ⟨(hkept.open_spoiled n hn).1, fun hcurrent => ⟨nofun, ?_⟩⟩
      rcases (hkept.open_spoiled n hn).2 hcurrent with hsome | ⟨hidle, _⟩
      · exact hsome
      · simp [hentered.building] at hidle

theorem PictureKept.endPicture (hkept : PictureKept c s record)
    (hstep : nvEndPicture s c = some s') :
    PictureKept c s' (record.note c s (.endPicture c) s') := by
  have hbasic : Basic s' := hkept.basic.step (a := .endPicture c) hstep
  have heffect := nvEndPicture_effect (hkept.basic.ok c) hstep
  have hnote : record.note c s (.endPicture c) s' =
      record.entered (s'.contexts c) .endPicture := by
    simp [PictureRecord.note, Label.creates, Label.callOn]
  obtain ⟨hothers, hphase, hrefused | hentered⟩ := nvEndPicture_entry hstep
  · rw [hnote]
    unfold PictureRecord.entered
    rw [if_pos hrefused.phase]
    exact hkept.refused hrefused hbasic hothers hphase heffect
  · have hopened : (s'.contexts c).phase.course ≠ .between := by
      rcases hentered.course with ⟨_, h⟩ | ⟨_, h | ⟨_, h⟩⟩ <;> simp [h]
    have hfailure := (hkept.between hphase).2
    have hnone : (s.contexts c).pictureState = .building → record.failure = none := by
      intro hbuilding
      by_contra hsome
      obtain ⟨status, hstatus⟩ := Option.ne_none_iff_exists'.mp hsome
      have hfailed := (hfailure status hstatus).1
      simp [hbuilding] at hfailed
    refine hkept.enters hbasic hothers heffect hopened hnote ?_ ?_
    · unfold PictureRecord.agrees
      rcases hentered.course with ⟨_, h⟩ | ⟨hbuilding, h | ⟨_, h⟩⟩
      · rw [h]
        exact .inr ⟨rfl, fun failure hf => (hfailure failure hf).2⟩
      · simp [h, hnone hbuilding]
      · simp [h, hnone hbuilding]
    · intro n hn
      rw [hentered.picture]
      refine ⟨(hkept.open_spoiled n hn).1, fun hcurrent => ⟨nofun, ?_⟩⟩
      rcases (hkept.open_spoiled n hn).2 hcurrent with hsome | ⟨hidle, _⟩
      · exact hsome
      · rcases hentered.course with ⟨hstate, _⟩ | ⟨hstate, _⟩ <;> simp [hstate] at hidle

/-! ## Every step -/

theorem PictureMove.coursed {ctx ctx' : NVContext} (hmove : PictureMove ctx ctx')
    (hphase : ctx'.phase ≠ .idle) : ctx'.phase.course ≠ .between := by
  cases hmove with
  | within course opened => exact course ▸ opened
  | submit _ course' => simp [course']
  | begun _ course' => simp [course']
  | refused _ _ course' => simp [course']
  | rendered _ course' => simp [course']
  | failed _ _ course' => simp [course']
  | ended _ _ course' => simp [course']
  | returned _ _ phase => exact absurd phase hphase
  | reset _ _ phase => exact absurd phase hphase

/-- A section of a call, or its entry, leaves the other picture states alone and its
own call with a course. -/
theorem call_build (hcoursed : s.coursed) (hcall : a.callOn = some d)
    (hstep : Driver.step s a = some s') :
    OthersBuild d s s' ∧
      ((s'.contexts d).phase ≠ .idle → (s'.contexts d).phase.course ≠ .between) := by
  cases a with
  | beginPicture e r =>
      cases hcall
      obtain ⟨hothers, _, hrefused | hentered⟩ := nvBeginPicture_entry hstep
      · exact ⟨hothers, fun h => absurd hrefused.phase h⟩
      · refine ⟨hothers, fun _ => ?_⟩
        rcases hentered.course with h | ⟨_, h⟩ <;> simp [h]
  | renderPicture e argumentsValid =>
      cases hcall
      obtain ⟨hothers, _, hrefused | hentered⟩ := nvRenderPicture_entry hstep
      · exact ⟨hothers, fun h => absurd hrefused.phase h⟩
      · refine ⟨hothers, fun _ => ?_⟩
        rcases hentered.course with h | ⟨_, _, h, _⟩ <;> simp [h]
  | endPicture e =>
      cases hcall
      obtain ⟨hothers, _, hrefused | hentered⟩ := nvEndPicture_entry hstep
      · exact ⟨hothers, fun h => absurd hrefused.phase h⟩
      · refine ⟨hothers, fun _ => ?_⟩
        rcases hentered.course with ⟨_, h⟩ | ⟨_, h | ⟨_, h⟩⟩ <;> simp [h]
  | call e outcome =>
      cases hcall
      change callStep s d outcome = some s' at hstep
      have hopen : (s.contexts d).phase ≠ .idle := by
        intro hidle
        unfold callStep at hstep
        rw [hidle] at hstep
        cases hstep
      have hmove := callStep_move (hcoursed d hopen) hstep
      exact ⟨hmove.others, hmove.own.coursed⟩
  | _ => cases hcall

/-- A context that has just been created is idle. -/
theorem create_build {entrypoint : VAEntrypoint} {codec : CudaVideoCodec}
    {format : SurfaceFormat} {renderTargets : Nat}
    (hstep : nvCreateContext s d entrypoint codec format renderTargets = some s') :
    (∀ e, e ≠ d → s'.contexts e = s.contexts e) ∧ (s'.contexts d).phase = .idle := by
  unfold nvCreateContext at hstep
  split at hstep
  · cases hstep
  · split at hstep <;> cases hstep <;> refine ⟨fun e he => by simp [he], by simp⟩

theorem absent_of_create {entrypoint : VAEntrypoint} {codec : CudaVideoCodec}
    {format : SurfaceFormat} {renderTargets : Nat}
    (hstep : nvCreateContext s d entrypoint codec format renderTargets = some s') :
    (s.contexts d).life = .absent := by
  unfold nvCreateContext at hstep
  split at hstep
  · cases hstep
  · rename_i hfree
    by_contra habsent
    exact hfree (.inr habsent)

/-- Steps of other threads, and the creation of other contexts, keep a picture state. -/
theorem other_build (hcall : a.callOn = none) (hcreates : a.creates ≠ some c)
    (hstep : Driver.step s a = some s') : (s'.contexts c).build = (s.contexts c).build := by
  cases hcreated : a.creates with
  | none => exact thread_build hcall hcreated hstep c
  | some d =>
      cases a with
      | createContext e entrypoint codec format renderTargets =>
          have hne : c ≠ e := fun h => hcreates (by rw [h]; rfl)
          rw [(create_build hstep).1 c hne]
      | _ => cases hcreated

theorem coursed_step (hcoursed : s.coursed) (hstep : Driver.step s a = some s') :
    s'.coursed := by
  cases hcall : a.callOn with
  | some d =>
      obtain ⟨hothers, hown⟩ := call_build hcoursed hcall hstep
      exact coursed_of_build hcoursed hothers hown
  | none =>
      intro d hopen
      by_cases hcreates : a.creates = some d
      · cases a with
        | createContext e entrypoint codec format renderTargets =>
            cases hcreates
            exact absurd (create_build hstep).2 hopen
        | _ => cases hcreates
      · have hphase : (s'.contexts d).phase = (s.contexts d).phase :=
          congrArg PictureBuild.phase (other_build hcall hcreates hstep)
        rw [hphase] at hopen ⊢
        exact hcoursed d hopen

theorem creates_of_callOn (hcall : a.callOn = some d) : a.creates = none := by
  cases a <;> first | rfl | cases hcall

/-- What other threads leave of the call in progress on a context. -/
structure CallKept (s s' : State) (c : ContextRef) : Prop where
  phase : (s'.contexts c).phase = (s.contexts c).phase
  renderTarget : (s'.contexts c).renderTarget = (s.contexts c).renderTarget
  displayTarget : (s'.contexts c).displayTarget = (s.contexts c).displayTarget

theorem CallKept.outputTarget (hkept : CallKept s s' c) :
    (s'.contexts c).outputTarget = (s.contexts c).outputTarget := by
  unfold NVContext.outputTarget
  rw [hkept.renderTarget, hkept.displayTarget]

theorem CallKept.of_quiet (hphase : (s'.contexts c).phase = (s.contexts c).phase)
    (hquiet : (s'.contexts c).control.quiet = (s.contexts c).control.quiet) :
    CallKept s s' c :=
  ⟨hphase, congrArg Control.renderTarget hquiet, congrArg Control.displayTarget hquiet⟩

/-- A step of another thread, or of a call on another context, keeps the call in progress
on a context. -/
theorem callKept_step (hbasic : Basic s) (hcoursed : s.coursed) (hcall : a.callOn ≠ some c)
    (hcreates : a.creates ≠ some c) (hstep : Driver.step s a = some s') : CallKept s s' c := by
  cases step_effect hbasic.ok hstep with
  | call d on effect =>
      have hne : c ≠ d := fun h => hcall (h ▸ on)
      refine .of_quiet ?_ (by rw [effect.frame.control c hne])
      exact congrArg PictureBuild.phase ((call_build hcoursed on hstep).1 c hne)
  | thread on effect =>
      rcases effect.kept c with hkept | ⟨_, _, hcreated, _⟩
      · exact .of_quiet (congrArg PictureBuild.phase (other_build on hcreates hstep)) hkept.quiet
      · exact absurd hcreated hcreates
  | sync _ thread effect => exact .of_quiet (by rw [effect.contexts]) (by rw [effect.contexts])

theorem PictureKept.step (hkept : PictureKept c s record) (hstep : Driver.step s a = some s') :
    PictureKept c s' (record.note c s a s') := by
  have hbasic : Basic s' := hkept.basic.step hstep
  have hcoursed : s'.coursed := coursed_step hkept.coursed hstep
  cases hcall : a.callOn with
  | some d =>
      have hcreates : a.creates = none := creates_of_callOn hcall
      have hothers := (call_build hkept.coursed hcall hstep).1
      by_cases hd : d = c
      · subst hd
        cases a with
        | beginPicture e r => cases hcall; exact hkept.beginPicture hstep
        | renderPicture e argumentsValid => cases hcall; exact hkept.renderPicture hstep
        | endPicture e => cases hcall; exact hkept.endPicture hstep
        | call e outcome => cases hcall; exact hkept.call hstep
        | _ => cases hcall
      · have hsame : record.note c s a s' = record := by
          simp [PictureRecord.note, hcall, hcreates, hd]
        rw [hsame]
        refine hkept.of_build hbasic hcoursed (hothers c fun h => hd h.symm) ?_
        intro p hp
        cases step_effect hkept.basic.ok hstep with
        | call e on effect =>
            have he : e = d := by
              rw [hcall] at on
              exact (Option.some.inj on).symm
            subst he
            exact ⟨p, (effect.outstanding.1 c fun h => hd h.symm) ▸ hp, rfl⟩
        | thread on _ => simp [hcall] at on
        | sync on _ _ _ => simp [hcall] at on
  | none =>
      have hjobs : ∀ p ∈ s'.outstanding c, ∃ q ∈ s.outstanding c, q.job = p.job := by
        intro p hp
        cases step_effect hkept.basic.ok hstep with
        | call e on effect => simp [hcall] at on
        | thread _ effect => exact effect.outstanding.job hp
        | sync _ _ effect _ => exact ⟨p, effect.outstanding c ▸ hp, rfl⟩
      by_cases hcreates : a.creates = some c
      · have hempty : record.note c s a s' = {} := by simp [PictureRecord.note, hcreates]
        rw [hempty]
        refine ⟨hbasic, hcoursed, ?_, nofun, nofun⟩
        cases a with
        | createContext e entrypoint codec format renderTargets =>
            cases hcreates
            unfold PictureRecord.agrees
            rw [(create_build hstep).2]
            exact ⟨rfl, nofun⟩
        | _ => cases hcreates
      · have hsame : record.note c s a s' = record := by
          simp [PictureRecord.note, hcall, hcreates]
        rw [hsame]
        exact hkept.of_build hbasic hcoursed (other_build hcall hcreates hstep) hjobs

theorem pictureKept_init (c : ContextRef) (config : DriverConfig)
    (images : ImageRef → BackingImage) : PictureKept c (driver config images).init {} where
  basic := basic_init config images
  coursed := fun _ h => absurd rfl h
  agrees := ⟨rfl, nofun⟩
  open_spoiled := nofun
  jobs := nofun

end Records

/-! ## The state machine -/

/-- The sections that submit a picture: `cuvidDecodePicture`, and the push to the
resolve queue. -/
def Phase.submits : Phase → Bool
  | .endDecode => true
  | .endPushJob _ => true
  | _ => false

/-- The driver with a record of the calls on the context `c`. -/
def recordedDriver (config : DriverConfig) (images : ImageRef → BackingImage) (c : ContextRef) :
    LabelledSystem (State × PictureRecord) Label :=
  (driver config images).observe {} fun s a s' record => record.note c s a s'

/-- What the picture state machine promises of the context `c`. -/
structure PictureStates (c : ContextRef) (s : State) (record : PictureRecord) : Prop where
  /-- A picture one of whose `nvRenderPicture` calls has failed is not submitted. -/
  unsubmitted : ∀ n ∈ record.spoiled,
    ((s.contexts c).phase.submits = true → (s.contexts c).picture ≠ n) ∧
      ∀ d, ∀ p ∈ s.outstanding d, p.job.picture ≠ ⟨c, n⟩
  /-- Every further `nvRenderPicture` of the picture is rejected. -/
  rejected : ∀ status, record.failure = some status → ∀ argumentsValid s',
    nvRenderPicture s c argumentsValid = some s' →
      s' = s.setContext c { s.contexts c with result := .operationFailed }
  /-- `nvEndPicture` returns the first failure and leaves the context idle. -/
  ended : record.call = some .endPicture → ∀ outcome s', callStep s c outcome = some s' →
    (s'.contexts c).phase = .idle → (s'.contexts c).cleared ∧
      ∀ status, record.failure = some status → (s'.contexts c).result = status
  /-- A failing `nvBeginPicture` leaves the context idle. -/
  refused : record.call = some .beginPicture → ∀ outcome s', callStep s c outcome = some s' →
    (s'.contexts c).phase = .idle → (s'.contexts c).result ≠ .success →
      (s'.contexts c).cleared

section Claims

variable {s s' : State} {c : ContextRef} {record : PictureRecord}

theorem course_of_submits {phase : Phase} (hsubmits : phase.submits = true) :
    phase.course = .ending := by
  cases phase <;> first | rfl | cases hsubmits

theorem PictureKept.unsubmitted (hkept : PictureKept c s record) {n : Nat}
    (hn : n ∈ record.spoiled) :
    ((s.contexts c).phase.submits = true → (s.contexts c).picture ≠ n) ∧
      ∀ d, ∀ p ∈ s.outstanding d, p.job.picture ≠ ⟨c, n⟩ := by
  constructor
  · intro hsubmits hcurrent
    have hcourse := course_of_submits hsubmits
    have hagrees := hkept.agrees
    unfold PictureRecord.agrees at hagrees
    rw [hcourse] at hagrees
    rcases (hkept.open_spoiled n hn).2 hcurrent.symm with hsome | ⟨_, hidle⟩
    · simp [hagrees.2] at hsome
    · rw [hidle] at hcourse
      cases hcourse
  · intro d p hp hpicture
    have hd : d = c := by
      rw [← (hkept.basic.jobs d p hp).1, hpicture]
    subst hd
    exact hkept.jobs n hn p hp (by rw [hpicture])

theorem PictureKept.rejected (hkept : PictureKept c s record) {status : VAStatus}
    (hfailure : record.failure = some status) {argumentsValid : Bool}
    (hstep : nvRenderPicture s c argumentsValid = some s') :
    s' = s.setContext c { s.contexts c with result := .operationFailed } := by
  obtain ⟨_, hphase, hrefused | hentered⟩ := nvRenderPicture_entry hstep
  · exact hrefused.state
  · have hfailed := ((hkept.between hphase).2 status hfailure).1
    simp [hentered.building] at hfailed

/-- How a call returns. -/
theorem PictureKept.return_move (hkept : PictureKept c s record) {outcome : Outcome}
    (hstep : callStep s c outcome = some s') (hphase : (s'.contexts c).phase = .idle) :
    (∃ status, (s.contexts c).phase.course = .returning status ∧
        (s'.contexts c).result = status) ∨
      ∃ status, (s.contexts c).phase.course = .resetting status ∧
        (s'.contexts c).result = status ∧ (s'.contexts c).cleared := by
  have hopen : (s.contexts c).phase ≠ .idle := by
    intro hidle
    unfold callStep at hstep
    rw [hidle] at hstep
    cases hstep
  have hidle : (s'.contexts c).phase.course = .between := by simp [hphase]
  cases (callStep_move (hkept.coursed c hopen) hstep).own with
  | within course opened => exact absurd (course.symm.trans hidle) opened
  | submit _ course' => simp [course'] at hidle
  | begun _ course' => simp [course'] at hidle
  | refused _ _ course' => simp [course'] at hidle
  | rendered _ course' => simp [course'] at hidle
  | failed _ _ course' => simp [course'] at hidle
  | ended _ _ course' => simp [course'] at hidle
  | returned status course _ result => exact .inl ⟨status, course, result⟩
  | reset status course _ result cleared => exact .inr ⟨status, course, result, cleared⟩

theorem PictureKept.ended (hkept : PictureKept c s record)
    (hcall : record.call = some .endPicture) {outcome : Outcome}
    (hstep : callStep s c outcome = some s') (hphase : (s'.contexts c).phase = .idle) :
    (s'.contexts c).cleared ∧
      ∀ status, record.failure = some status → (s'.contexts c).result = status := by
  have hagrees := hkept.agrees
  unfold PictureRecord.agrees at hagrees
  rcases hkept.return_move hstep hphase with ⟨status, hcourse, _⟩ |
    ⟨status, hcourse, hresult, hcleared⟩
  · rw [hcourse] at hagrees
    simp [hcall] at hagrees
  · rw [hcourse] at hagrees
    refine ⟨hcleared, fun failure hfailure => ?_⟩
    rcases hagrees with ⟨hother, _⟩ | ⟨_, hstatus⟩
    · simp [hcall] at hother
    · exact hresult.trans (hstatus failure hfailure)

theorem PictureKept.refused_begin (hkept : PictureKept c s record)
    (hcall : record.call = some .beginPicture) {outcome : Outcome}
    (hstep : callStep s c outcome = some s') (hphase : (s'.contexts c).phase = .idle)
    (hfailed : (s'.contexts c).result ≠ .success) : (s'.contexts c).cleared := by
  have hagrees := hkept.agrees
  unfold PictureRecord.agrees at hagrees
  rcases hkept.return_move hstep hphase with ⟨status, hcourse, hresult⟩ | ⟨_, _, _, hcleared⟩
  · -- only a successful `nvBeginPicture` returns without a reset
    rw [hcourse] at hagrees
    obtain ⟨_, ⟨_, hsuccess⟩ | ⟨hother, _⟩⟩ := hagrees
    · exact absurd (hresult.trans hsuccess) hfailed
    · simp [hcall] at hother
  · exact hcleared

end Claims

/-- A failing `nvRenderPicture`, and `nvEndPicture` up to its last section. -/
def failedPictureRun : List Label :=
  [.createContext 0 .vld .av1 ⟨0, 0, 8⟩ 0, .createSurface 0 ⟨0, 0, 8⟩ none] ++
    beginScript 0 0 8 ++ .renderPicture 0 false :: List.replicate 5 (.call 0 .ok) ++
    .endPicture 0 :: List.replicate 2 (.call 0 .ok)

/-- The failure of the open picture is recorded and the picture is spoiled. -/
def failedPictureScenario :
    (recordedDriver {} (fun _ => {}) 0).Scenario (fun _ _ => True) fun reached =>
      reached.2 = { call := some .endPicture, failure := some .invalidParameter, spoiled := [1] } ∧
        (reached.1.contexts 0).phase = .reset .invalidParameter where
  labels := failedPictureRun
  enabled := by decide +kernel
  ends := by decide +kernel

end Driver
end NvidiaVaapi
