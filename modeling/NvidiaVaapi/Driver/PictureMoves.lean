import NvidiaVaapi.Driver.Machine

/-!
# The course of a picture call

Which of the three picture calls a program point belongs to, and with which status
it is going to return once its outcome is settled.  `PictureMove` lists what a
section does to the picture state of its context, and `callStep_move` reads it off
the program points; sections of other threads leave the picture state alone.
-/

namespace NvidiaVaapi
namespace Driver

/-- What a picture call still has to do. -/
inductive Course
  /-- No call is in progress. -/
  | between
  | beginning
  | rendering
  | ending
  /-- The call returns the status and leaves the picture as it is. -/
  | returning (status : VAStatus)
  /-- The call returns the status after `resetPictureBuild`. -/
  | resetting (status : VAStatus)
  deriving DecidableEq, Repr

@[simp] def Phase.course : Phase → Course
  | .idle => .between
  | .clearing _ next => next.course
  | .reset status => .resetting status
  | .ret status => .returning status
  | .beginWaitSurface _ => .beginning
  | .beginWaitImage _ => .beginning
  | .beginRelease _ => .beginning
  | .beginAssign _ => .beginning
  | .assignScan .. => .beginning
  | .assignWaitSurface .. => .beginning
  | .assignWaitImage .. => .beginning
  | .beginStartImage _ => .beginning
  | .beginStart _ => .beginning
  | .beginInit _ => .beginning
  | .renderLoop => .rendering
  | .renderLookup .. => .rendering
  | .blitLoop _ => .rendering
  | .blitWaitSurface _ => .rendering
  | .blitWaitImage _ => .rendering
  | .blitCopy _ => .rendering
  | .blitRelease _ => .rendering
  | .blitPublish _ => .rendering
  | .endCreateDecoder => .ending
  | .endPushContext => .ending
  | .endDecode => .ending
  | .endPopContext _ => .ending
  | .handOverStartImage _ => .ending
  | .handOverStart _ => .ending
  | .handOverFinishImage _ => .ending
  | .handOverFinish _ => .ending
  | .endAllocJob _ => .ending
  | .endMakeJob _ => .ending
  | .endActiveMask _ => .ending
  | .endPushJob _ => .ending
  | .endShared _ => .ending
  | .endWaitSurface => .ending
  | .endWaitImage => .ending
  | .endReadStatus => .ending

@[simp] theorem Phase.course_after (todo : List ClearSection) (next : Phase) :
    (Phase.after todo next).course = next.course := by
  cases todo <;> rfl

/-- The fields of a context that the picture state machine is about. -/
structure PictureBuild where
  pictureState : NVDPictureState
  pictureFailure : VAStatus
  picture : Nat
  phase : Phase
  deriving DecidableEq, Repr

def NVContext.build (ctx : NVContext) : PictureBuild :=
  { pictureState := ctx.pictureState
    pictureFailure := ctx.pictureFailure
    picture := ctx.picture
    phase := ctx.phase }

/-- The context is idle: no target is recorded and the host buffers are empty. -/
def NVContext.cleared (ctx : NVContext) : Prop :=
  ctx.pictureState = .idle ∧ ctx.renderTarget = none ∧ ctx.displayTarget = none ∧
    ctx.buffers = {}

/-- Two contexts agree in the picture state. -/
structure SamePicture (ctx ctx' : NVContext) : Prop where
  pictureState : ctx'.pictureState = ctx.pictureState
  pictureFailure : ctx'.pictureFailure = ctx.pictureFailure
  picture : ctx'.picture = ctx.picture

/-- What a section of a picture call does to the picture state of its context. -/
inductive PictureMove (ctx ctx' : NVContext) : Prop
  | within (course : ctx'.phase.course = ctx.phase.course)
      (opened : ctx.phase.course ≠ .between) (same : SamePicture ctx ctx')
  /-- The job is pushed. -/
  | submit (course : ctx.phase.course = .ending) (course' : ctx'.phase.course = .ending)
      (picture : ctx'.picture = ctx.picture)
  /-- `nvBeginPicture` has succeeded. -/
  | begun (course : ctx.phase.course = .beginning)
      (course' : ctx'.phase.course = .returning .success) (same : SamePicture ctx ctx')
  /-- `nvBeginPicture` has failed. -/
  | refused (status : VAStatus) (course : ctx.phase.course = .beginning)
      (course' : ctx'.phase.course = .resetting status) (same : SamePicture ctx ctx')
  /-- `nvRenderPicture` has succeeded. -/
  | rendered (course : ctx.phase.course = .rendering)
      (course' : ctx'.phase.course = .returning .success) (same : SamePicture ctx ctx')
  /-- `nvRenderPicture` has failed. -/
  | failed (status : VAStatus) (course : ctx.phase.course = .rendering)
      (course' : ctx'.phase.course = .returning status) (failure : status ≠ .success)
      (pictureState : ctx'.pictureState = .failed) (pictureFailure : ctx'.pictureFailure = status)
      (picture : ctx'.picture = ctx.picture)
  /-- The outcome of `nvEndPicture` is settled. -/
  | ended (status : VAStatus) (course : ctx.phase.course = .ending)
      (course' : ctx'.phase.course = .resetting status) (picture : ctx'.picture = ctx.picture)
  | returned (status : VAStatus) (course : ctx.phase.course = .returning status)
      (phase : ctx'.phase = .idle) (result : ctx'.result = status) (same : SamePicture ctx ctx')
  | reset (status : VAStatus) (course : ctx.phase.course = .resetting status)
      (phase : ctx'.phase = .idle) (result : ctx'.result = status) (cleared : ctx'.cleared)
      (picture : ctx'.picture = ctx.picture)

/-- Everything but the context `c` keeps its picture state. -/
def OthersBuild (c : ContextRef) (s s' : State) : Prop :=
  ∀ d, d ≠ c → (s'.contexts d).build = (s.contexts d).build

/-- A section of the call on the context `c`. -/
structure CallMove (c : ContextRef) (s s' : State) : Prop where
  others : OthersBuild c s s'
  own : PictureMove (s.contexts c) (s'.contexts c)

section Sections

variable {s t s' : State} {c : ContextRef}

theorem OthersBuild.refl (c : ContextRef) (s : State) : OthersBuild c s s :=
  fun _ _ => rfl

theorem OthersBuild.setContext (hothers : OthersBuild c s t) (ctx : NVContext) :
    OthersBuild c s (t.setContext c ctx) := by
  intro d hd
  simpa [hd] using hothers d hd

theorem OthersBuild.of_contexts (hcontexts : s'.contexts = s.contexts) : OthersBuild c s s' := by
  intro d _
  rw [hcontexts]

/-- Releasing an index changes the owner table and the masks of a context only. -/
theorem release_build {r : SurfaceRef} (hrelease : releaseSurfacePictureIndex s r = some t)
    (d : ContextRef) : (t.contexts d).build = (s.contexts d).build :=
  kept_of_withoutIndices NVContext.build (fun _ => rfl) (release_contexts hrelease d)

theorem SamePicture.refl (ctx : NVContext) : SamePicture ctx ctx :=
  ⟨rfl, rfl, rfl⟩

/-- A section that replaces its context, from a state that keeps the other ones. -/
theorem CallMove.setContext {ctx : NVContext} (hothers : OthersBuild c s t)
    (hown : PictureMove (s.contexts c) ctx) : CallMove c s (t.setContext c ctx) :=
  ⟨hothers.setContext ctx, by simpa using hown⟩

/-- A section that stays in its call and keeps the picture state. -/
theorem CallMove.within {ctx : NVContext} {course : Course}
    (hothers : OthersBuild c s t) (hphase : (s.contexts c).phase.course = course)
    (hopened : course ≠ .between)
    (hcourse : ctx.phase.course = course) (hsame : SamePicture (s.contexts c) ctx) :
    CallMove c s (t.setContext c ctx) :=
  .setContext hothers (.within (hcourse.trans hphase.symm) (hphase ▸ hopened) hsame)

/-- Going to another program point of the same call. -/
theorem CallMove.goto {phase : Phase} {course : Course} (hcontexts : t.contexts = s.contexts)
    (hphase : (s.contexts c).phase.course = course) (hopened : course ≠ .between)
    (hcourse : phase.course = course) : CallMove c s (Driver.goto t c phase) :=
  .within (.of_contexts hcontexts) hphase hopened hcourse (by rw [hcontexts]; exact ⟨rfl, rfl, rfl⟩)

theorem SamePicture.of_build {ctx ctx' : NVContext} (hbuild : ctx'.build = ctx.build) :
    SamePicture ctx ctx' :=
  ⟨congrArg PictureBuild.pictureState hbuild, congrArg PictureBuild.pictureFailure hbuild,
    congrArg PictureBuild.picture hbuild⟩

/-- A section that goes to another program point of its call from a state with the
same picture states. -/
theorem CallMove.gotoBuild {phase : Phase} {course : Course}
    (hbuild : ∀ d, (t.contexts d).build = (s.contexts d).build)
    (hphase : (s.contexts c).phase.course = course) (hopened : course ≠ .between)
    (hcourse : phase.course = course) : CallMove c s (Driver.goto t c phase) :=
  .within (fun d _ => hbuild d) hphase hopened hcourse
    ⟨congrArg PictureBuild.pictureState (hbuild c),
      congrArg PictureBuild.pictureFailure (hbuild c), congrArg PictureBuild.picture (hbuild c)⟩

/-! ## Failing exits -/

theorem renderFailure_move {ctx : NVContext} {first : List ClearSection} {status : VAStatus}
    (hothers : OthersBuild c s t) (hphase : (s.contexts c).phase.course = .rendering)
    (hsame : SamePicture (s.contexts c) ctx) (hstatus : status ≠ .success) :
    CallMove c s (renderFailure t c ctx first status) := by
  have hrecorded : OthersBuild c s (recordFailure t c) := hothers
  refine .setContext hrecorded (.failed status hphase ?_ hstatus rfl rfl hsame.picture)
  simp

theorem endFailure_move {ctx : NVContext} {first : List ClearSection} {status : VAStatus}
    (hothers : OthersBuild c s t) (hphase : (s.contexts c).phase.course = .ending)
    (hpicture : ctx.picture = (s.contexts c).picture) :
    CallMove c s (endFailure t c ctx first status) := by
  have hrecorded : OthersBuild c s (recordFailure t c) := hothers
  refine .setContext hrecorded (.ended status hphase ?_ hpicture)
  simp

/-- A failing exit of `nvBeginPictureImpl`. -/
theorem beginFailure_move {ctx : NVContext} {status : VAStatus}
    (hothers : OthersBuild c s t) (hphase : (s.contexts c).phase.course = .beginning)
    (hsame : SamePicture (s.contexts c) (t.contexts c)) :
    CallMove c s (goto t c (beginFailure ctx status)) := by
  refine .setContext hothers (.refused status hphase ?_ ⟨hsame.pictureState,
    hsame.pictureFailure, hsame.picture⟩)
  simp [beginFailure]

/-! ## nvBeginPicture -/

theorem beginRelease_move {r : SurfaceRef} (hphase : (s.contexts c).phase = .beginRelease r)
    (hstep : beginRelease s c r = some s') : CallMove c s s' := by
  have hcourse : (s.contexts c).phase.course = .beginning := by simp [hphase]
  unfold beginRelease at hstep
  split at hstep
  · obtain ⟨t, hrelease, rfl⟩ := Option.map_eq_some_iff.mp hstep
    exact .gotoBuild (release_build hrelease) hcourse nofun rfl
  · cases hstep
    exact .goto rfl hcourse nofun rfl

/-- Taking an index changes owner tables and surfaces only. -/
theorem takeIndex_build (s : State) (c : ContextRef) (r : SurfaceRef)
    (limit index currentPictureId : Nat) (d : ContextRef) :
    ((takeIndex s c r limit index currentPictureId).contexts d).build =
      (s.contexts d).build :=
  kept_of_withoutIndices NVContext.build (fun _ => rfl)
    (takeIndex_contexts s c r limit index currentPictureId d)

theorem beginAssign_move {r : SurfaceRef} (hphase : (s.contexts c).phase = .beginAssign r)
    (hstep : beginAssign s c r = some s') : CallMove c s s' := by
  have hcourse : (s.contexts c).phase.course = .beginning := by simp [hphase]
  unfold beginAssign at hstep
  split at hstep
  · cases hstep
    exact beginFailure_move (.refl c s) hcourse (.refl _)
  · rename_i ctx hrecreate
    have hctx : ctx.build = (s.contexts c).build := by
      unfold recreateDecoderForSurface at hrecreate
      split at hrecreate
      · split at hrecreate
        · cases hrecreate
          rfl
        · cases hrecreate
      · cases hrecreate
        rfl
    have hbuild : ∀ d, ((s.setContext c ctx).contexts d).build = (s.contexts d).build := by
      intro d
      by_cases hd : d = c
      · subst hd
        simpa using hctx
      · simp [hd]
    have hfail : ∀ status,
        CallMove c s (goto (s.setContext c ctx) c (beginFailure ctx status)) := fun status =>
      beginFailure_move (fun d _ => hbuild d) hcourse (.of_build (hbuild c))
    simp only at hstep
    split at hstep
    · cases hstep
      exact .gotoBuild hbuild hcourse nofun rfl
    · split at hstep
      · cases hstep
        exact hfail _
      · split at hstep
        · cases hstep
          exact .gotoBuild hbuild hcourse nofun rfl
        · split at hstep
          · split at hstep
            · cases hstep
              exact hfail _
            · cases hstep
              refine .gotoBuild (fun d => ?_) hcourse nofun rfl
              exact (takeIndex_build _ _ _ _ _ _ d).trans (hbuild d)
          · cases hstep
            exact .gotoBuild hbuild hcourse nofun rfl

theorem assignScan_move {r : SurfaceRef} {limit i : Nat} {busyMask : BitVec 32}
    (hphase : (s.contexts c).phase = .assignScan r limit i busyMask)
    (hstep : assignScan s c r limit i busyMask = some s') : CallMove c s s' := by
  have hcourse : (s.contexts c).phase.course = .beginning := by simp [hphase]
  unfold assignScan at hstep
  simp only at hstep
  split at hstep
  · split at hstep
    · cases hstep
      exact .goto rfl hcourse nofun rfl
    · cases hstep
      exact .goto rfl hcourse nofun rfl
  · split at hstep
    · cases hstep
      refine .gotoBuild (fun d => ?_) hcourse nofun rfl
      refine (takeIndex_build _ _ _ _ _ _ d).trans ?_
      rw [forgetPreviousOwner_contexts]
    · split at hstep
      · cases hstep
        exact beginFailure_move (.refl c s) hcourse (.refl _)
      · cases hstep
        exact .goto rfl hcourse nofun rfl

theorem beginStart_move {r : SurfaceRef} (hphase : (s.contexts c).phase = .beginStart r)
    (hstep : beginStart s c r = some s') : CallMove c s s' := by
  have hcourse : (s.contexts c).phase.course = .beginning := by simp [hphase]
  unfold beginStart at hstep
  simp only at hstep
  split at hstep
  · cases hstep
    exact .setContext (.of_contexts rfl) (.begun hcourse rfl ⟨rfl, rfl, rfl⟩)
  · cases hstep
    exact .within (.of_contexts rfl) hcourse nofun rfl ⟨rfl, rfl, rfl⟩

/-! ## nvRenderPicture -/

theorem afterHandler_move {ctx : NVContext} (hothers : OthersBuild c s t)
    (hphase : (s.contexts c).phase.course = .rendering)
    (hsame : SamePicture (s.contexts c) ctx) : CallMove c s (afterHandler t c ctx) := by
  unfold afterHandler
  split
  · exact renderFailure_move hothers hphase hsame nofun
  · split
    · exact renderFailure_move hothers hphase hsame nofun
    · exact .within hothers hphase nofun rfl ⟨hsame.pictureState, hsame.pictureFailure,
        hsame.picture⟩

theorem storeProgressiveFrame_contexts (s : State) (ctx : NVContext)
    (buffer : PictureParameterBuffer) :
    (storeProgressiveFrame s ctx buffer).contexts = s.contexts := by
  unfold storeProgressiveFrame
  split
  · rfl
  · split <;> rfl

theorem renderLoop_move {outcome : Outcome} (hphase : (s.contexts c).phase = .renderLoop)
    (hstep : renderLoop s c outcome = some s') : CallMove c s s' := by
  have hcourse : (s.contexts c).phase.course = .rendering := by simp [hphase]
  have hsame : SamePicture (s.contexts c) (s.contexts c) := .refl _
  have hreject : ∀ status, status ≠ .success → CallMove c s (rejectBuffer s c status) :=
    fun status hstatus => renderFailure_move (.refl c s) hcourse ⟨rfl, rfl, rfl⟩ hstatus
  unfold renderLoop at hstep
  split at hstep
  · cases hstep
    exact .setContext (.refl c s) (.rendered hcourse rfl ⟨rfl, rfl, rfl⟩)
  · cases hstep
    exact hreject _ nofun
  · cases hstep
    exact hreject _ nofun
  · cases hstep
    exact hreject _ nofun
  · cases hstep
    exact hreject _ nofun
  · cases hstep
    exact hreject _ nofun
  · cases hstep
    exact renderFailure_move (.refl c s) hcourse ⟨rfl, rfl, rfl⟩ nofun
  · rename_i buffer
    split at hstep
    · cases hstep
    · have hothers : OthersBuild c s (storeProgressiveFrame s
          (startPictureParameter (s.contexts c) buffer) buffer) :=
        .of_contexts (storeProgressiveFrame_contexts ..)
      simp only at hstep
      split at hstep
      · cases hstep
        exact afterHandler_move hothers hcourse ⟨rfl, rfl, rfl⟩
      · cases hstep
        exact .within hothers hcourse nofun rfl ⟨rfl, rfl, rfl⟩
  · cases hstep
    exact afterHandler_move (.refl c s) hcourse ⟨rfl, rfl, rfl⟩
  · cases hstep

theorem renderLookup_move {buffer : PictureParameterBuffer}
    {found : List (Option SurfaceRef × Int)} {todo : List (Option SurfaceRef)}
    (hphase : (s.contexts c).phase = .renderLookup buffer todo found)
    (hstep : renderLookup s c buffer found todo = some s') : CallMove c s s' := by
  have hcourse : (s.contexts c).phase.course = .rendering := by simp [hphase]
  unfold renderLookup at hstep
  split at hstep
  · cases hstep
    exact .goto rfl hcourse nofun rfl
  · rename_i surfId rest
    cases hstep
    refine .within (.refl c s) hcourse nofun rfl ?_
    unfold noteReference
    split <;> exact ⟨rfl, rfl, rfl⟩
  · simp only at hstep
    split at hstep
    · cases hstep
      refine afterHandler_move (.refl c s) hcourse ?_
      unfold finishAV1PicParam
      split <;> exact ⟨rfl, rfl, rfl⟩
    · cases hstep
      exact afterHandler_move (.refl c s) hcourse ⟨rfl, rfl, rfl⟩

theorem blitFailure_move (hphase : (s.contexts c).phase.course = .rendering) :
    CallMove c s (blitFailure s c) :=
  renderFailure_move (.refl c s) hphase (.refl _) nofun

theorem blitLoop_move {processed : Bool} {outcome : Outcome}
    (hphase : (s.contexts c).phase = .blitLoop processed)
    (hstep : blitLoop s c processed outcome = some s') : CallMove c s s' := by
  have hcourse : (s.contexts c).phase.course = .rendering := by simp [hphase]
  have hreject : ∀ status, status ≠ .success → CallMove c s (rejectPipeline s c status) :=
    fun status hstatus => renderFailure_move (.refl c s) hcourse (.refl _) hstatus
  unfold blitLoop at hstep
  split at hstep
  · split at hstep
    · cases hstep
      exact .setContext (.refl c s) (.rendered hcourse rfl ⟨rfl, rfl, rfl⟩)
    · cases hstep
      exact .setContext (.refl c s) (.rendered hcourse (by simp) ⟨rfl, rfl, rfl⟩)
  · cases hstep
    exact hreject _ nofun
  · cases hstep
    exact hreject _ nofun
  · cases hstep
    exact hreject _ nofun
  · split at hstep
    · cases hstep
      exact blitFailure_move hcourse
    · cases hstep
      exact .goto rfl hcourse nofun rfl
  · cases hstep

theorem blitRelease_move {src : SurfaceRef} (hphase : (s.contexts c).phase = .blitRelease src)
    (hstep : blitRelease s c src = some s') : CallMove c s s' := by
  have hcourse : (s.contexts c).phase.course = .rendering := by simp [hphase]
  unfold blitRelease at hstep
  split at hstep
  · cases hstep
    exact .goto rfl hcourse nofun rfl
  · obtain ⟨t, hrelease, rfl⟩ := Option.map_eq_some_iff.mp hstep
    exact .gotoBuild (release_build hrelease) hcourse nofun rfl

theorem blitPublish_move {src : SurfaceRef} (hphase : (s.contexts c).phase = .blitPublish src)
    (hstep : blitPublish s c src = some s') : CallMove c s s' := by
  have hcourse : (s.contexts c).phase.course = .rendering := by simp [hphase]
  unfold blitPublish at hstep
  split at hstep
  · cases hstep
    exact .goto rfl hcourse nofun rfl
  · cases hstep
    exact .goto rfl hcourse nofun rfl

/-! ## nvEndPicture -/

theorem endCreateDecoder_move {outcome : Outcome}
    (hphase : (s.contexts c).phase = .endCreateDecoder)
    (hstep : endCreateDecoder s c outcome = some s') : CallMove c s s' := by
  have hcourse : (s.contexts c).phase.course = .ending := by simp [hphase]
  unfold endCreateDecoder at hstep
  simp only at hstep
  split at hstep
  · cases hstep
    exact .within (.refl c s) hcourse nofun rfl ⟨rfl, rfl, rfl⟩
  · split at hstep
    · cases hstep
      exact endFailure_move (.refl c s) hcourse rfl
    · split at hstep
      · cases hstep
        exact .within (.refl c s) hcourse nofun rfl ⟨rfl, rfl, rfl⟩
      · cases hstep
        exact endFailure_move (.refl c s) hcourse rfl
      · cases hstep
        exact endFailure_move (.refl c s) hcourse rfl
      · cases hstep

theorem endPushJob_move {job : ResolveJob} (hphase : (s.contexts c).phase = .endPushJob job)
    (hstep : endPushJob s c job = some s') : CallMove c s s' := by
  have hcourse : (s.contexts c).phase.course = .ending := by simp [hphase]
  unfold endPushJob at hstep
  simp only at hstep
  split at hstep
  · cases hstep
    exact endFailure_move (.refl c s) hcourse rfl
  · split at hstep
    · cases hstep
    · cases hstep
      exact .setContext (.refl c s) (.submit hcourse rfl rfl)

/-- Going to another program point of the call in progress. -/
theorem CallMove.stay {phase : Phase} (hcontexts : t.contexts = s.contexts)
    (hopened : (s.contexts c).phase.course ≠ .between)
    (hcourse : phase.course = (s.contexts c).phase.course) :
    CallMove c s (Driver.goto t c phase) :=
  .goto hcontexts rfl hopened hcourse

/-- A section of `nvEndPicture` after which its status is known. -/
theorem CallMove.settled {status : VAStatus} (hphase : (s.contexts c).phase.course = .ending) :
    CallMove c s (Driver.goto s c (.reset status)) :=
  .setContext (.refl c s) (.ended status hphase rfl rfl)

/-! ## Every section of a call -/

theorem clearNext_move {todo : List ClearSection} {next : Phase}
    (hphase : (s.contexts c).phase = .clearing todo next)
    (hopened : next.course ≠ .between)
    (hstep : clearNext s c todo next = some s') : CallMove c s s' := by
  have hcourse : (s.contexts c).phase.course = next.course := by simp [hphase]
  unfold clearNext at hstep
  split at hstep
  · cases hstep
    exact .goto rfl hcourse hopened rfl
  · rename_i section_ rest
    cases hstep
    exact .goto (section_.run_contexts s) hcourse hopened (by simp)

theorem leave_move {ctx : NVContext} {status : VAStatus}
    (hmove : PictureMove (s.contexts c) { ctx with phase := .idle, result := status }) :
    CallMove c s (leave s c ctx status) := by
  have hset : CallMove c s (s.setContext c { ctx with phase := .idle, result := status }) :=
    .setContext (.refl c s) hmove
  exact ⟨hset.others, hset.own⟩

/-- What a section of the call in progress does to the picture states. -/
theorem callStep_move {outcome : Outcome}
    (hopened : (s.contexts c).phase.course ≠ .between)
    (hstep : callStep s c outcome = some s') : CallMove c s s' := by
  unfold callStep at hstep
  cases hphase : (s.contexts c).phase <;> rw [hphase] at hstep <;> simp only at hstep
  case idle => cases hstep
  case clearing todo next =>
    exact clearNext_move hphase (by simpa [hphase] using hopened) hstep
  case reset status =>
    cases hstep
    exact leave_move (.reset status (by simp [hphase]) rfl rfl ⟨rfl, rfl, rfl, rfl⟩ rfl)
  case ret status =>
    cases hstep
    exact leave_move (.returned status (by simp [hphase]) rfl rfl ⟨rfl, rfl, rfl⟩)
  case beginWaitSurface r =>
    unfold beginWaitSurface at hstep
    split at hstep
    · cases hstep
      exact .stay rfl hopened (by simp [hphase])
    · cases hstep
  case beginWaitImage r =>
    unfold beginWaitImage at hstep
    split at hstep
    · cases hstep
      refine .stay rfl hopened ?_
      rw [hphase]
      split <;> rfl
    · cases hstep
  case beginRelease r => exact beginRelease_move hphase hstep
  case beginAssign r => exact beginAssign_move hphase hstep
  case assignScan r limit i busyMask => exact assignScan_move hphase hstep
  case assignWaitSurface r limit owner =>
    unfold assignWaitSurface at hstep
    split at hstep
    · cases hstep
      exact .stay rfl hopened (by simp [hphase])
    · cases hstep
  case assignWaitImage r limit owner =>
    unfold assignWaitImage at hstep
    split at hstep
    · cases hstep
      exact .stay rfl hopened (by simp [hphase])
    · cases hstep
  case beginStartImage r =>
    cases hstep
    exact .stay rfl hopened (by simp [hphase])
  case beginStart r => exact beginStart_move hphase hstep
  case beginInit r =>
    cases hstep
    exact .setContext (.of_contexts rfl) (.begun (by simp [hphase]) rfl ⟨rfl, rfl, rfl⟩)
  case renderLoop => exact renderLoop_move hphase hstep
  case renderLookup buffer todo found => exact renderLookup_move hphase hstep
  case blitLoop processed => exact blitLoop_move hphase hstep
  case blitWaitSurface src =>
    unfold blitWaitSurface at hstep
    split at hstep
    · cases hstep
      exact .stay rfl hopened (by simp [hphase])
    · cases hstep
  case blitWaitImage src =>
    unfold blitWaitImage at hstep
    split at hstep
    · cases hstep
      exact .stay rfl hopened (by simp [hphase])
    · cases hstep
  case blitCopy src =>
    unfold blitCopy at hstep
    split at hstep
    · cases hstep
      exact .stay rfl hopened (by simp [hphase])
    · cases hstep
      exact blitFailure_move (by simp [hphase])
    · cases hstep
  case blitRelease src => exact blitRelease_move hphase hstep
  case blitPublish src => exact blitPublish_move hphase hstep
  case endCreateDecoder => exact endCreateDecoder_move hphase hstep
  case endPushContext =>
    unfold endPushContext at hstep
    split at hstep
    · cases hstep
      exact .stay rfl hopened (by simp [hphase])
    · cases hstep
      exact endFailure_move (.refl c s) (by simp [hphase]) rfl
    · cases hstep
  case endDecode =>
    unfold endDecode at hstep
    split at hstep
    · cases hstep
      exact .stay rfl hopened (by simp [hphase])
    · cases hstep
      exact .stay rfl hopened (by simp [hphase])
    · cases hstep
  case endPopContext status =>
    unfold endPopContext at hstep
    split at hstep
    · cases hstep
      refine .stay rfl hopened ?_
      rw [hphase]
      split <;> rfl
    · cases hstep
      exact endFailure_move (.refl c s) (by simp [hphase]) rfl
    · cases hstep
  case handOverStartImage status =>
    unfold handOverStartImage at hstep
    split at hstep <;> cases hstep <;>
      exact .stay rfl hopened (by simp [hphase])
  case handOverStart status =>
    unfold handOverStart at hstep
    split at hstep <;> cases hstep <;>
      exact .stay rfl hopened (by simp [hphase])
  case handOverFinishImage status =>
    unfold handOverFinishImage at hstep
    split at hstep <;> cases hstep <;>
      exact .stay rfl hopened (by simp [hphase])
  case handOverFinish status =>
    unfold handOverFinish at hstep
    split at hstep <;> cases hstep <;>
      exact .stay rfl hopened (by simp [hphase])
  case endAllocJob status =>
    unfold endAllocJob at hstep
    split at hstep
    · cases hstep
      exact .stay rfl hopened (by simp [hphase])
    · cases hstep
      exact endFailure_move (.refl c s) (by simp [hphase]) rfl
    · cases hstep
  case endMakeJob status =>
    unfold endMakeJob at hstep
    split at hstep
    · cases hstep
    · cases hstep
      exact .stay rfl hopened (by simp [hphase])
  case endActiveMask job =>
    unfold endActiveMask at hstep
    simp only at hstep
    split at hstep
    · cases hstep
      exact .within (.refl c s) rfl hopened (by simp [hphase]) ⟨rfl, rfl, rfl⟩
    · cases hstep
      exact .stay rfl hopened (by simp [hphase])
  case endPushJob job => exact endPushJob_move hphase hstep
  case endShared status =>
    unfold endShared at hstep
    split at hstep
    · cases hstep
      exact .settled (by simp [hphase])
    · split at hstep
      · cases hstep
        exact .stay rfl hopened (by simp [hphase])
      · cases hstep
        exact .settled (by simp [hphase])
  case endWaitSurface =>
    unfold endWaitSurface at hstep
    split at hstep
    · cases hstep
      exact .stay rfl hopened (by simp [hphase])
    · split at hstep
      · cases hstep
        exact .stay rfl hopened (by simp [hphase])
      · cases hstep
  case endWaitImage =>
    unfold endWaitImage at hstep
    split at hstep
    · cases hstep
      exact .stay rfl hopened (by simp [hphase])
    · split at hstep
      · cases hstep
        exact .stay rfl hopened (by simp [hphase])
      · cases hstep
  case endReadStatus =>
    unfold endReadStatus at hstep
    split at hstep <;> cases hstep <;> exact .settled (by simp [hphase])

end Sections

end Driver
end NvidiaVaapi
