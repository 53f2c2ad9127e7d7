import NvidiaVaapi.Driver.Control

/-!
# What one section of a picture call does

Every section of `nvBeginPicture`, `nvRenderPicture` and `nvEndPicture` is one of
a few kinds as far as generations are concerned.  `CallEffect` lists them, and
`callStep_effect` reads them off the program points once; the invariants about
generations are proved from `CallEffect` and never look at a program point.
-/

namespace NvidiaVaapi
namespace Driver

/-- A context moves on without taking a surface or changing its jobs. -/
structure Advance (κ κ' : Control) : Prop where
  life : κ'.life = κ.life
  entrypoint : κ'.entrypoint = κ.entrypoint
  picture : κ'.picture = κ.picture
  resolveQueue : κ'.resolveQueue = κ.resolveQueue
  worker : κ'.worker = κ.worker
  render : κ'.renderTarget = κ.renderTarget ∨ κ'.pictureState = .idle
  holds : ∀ r, κ'.holds r → κ.holds r
  owes : ∀ r, κ.owes r → κ'.owes r
  expects : ∀ r, κ'.expects r → κ.expects r
  submitted : κ.pictureState = .submitted →
    κ'.pictureState = .submitted ∨ (κ'.pictureState = .idle ∧ ∀ r, ¬κ'.holds r)
  idle : κ.pictureState = .idle → κ'.pictureState = .idle
  unfailed : κ'.pictureState = .building → κ.pictureState = .building
  failing : κ.failing → κ'.failing ∨ κ'.settled
  waiting : ∀ r, κ'.stage = .waiting r → κ.stage = .waiting r
  acquiring : ∀ r, κ'.stage = .acquiring r → κ.stage = .acquiring r
  job : ∀ job, κ'.stage = .submitting job → κ.stage = .submitting job
  okAt : κ'.okAt κ'.stage

/-- The failures that the call in progress goes on to clean up are recorded. -/
def FailureRecorded (s : State) (c : ContextRef) : Prop :=
  (s.contexts c).control.cleaning → currentPicture s c ∈ s.failed

/-- The call on the context is admitted from `s`, and `t` has it among the
readers of the object-lifetime lock. -/
def Admitted (s t : State) (c : ContextRef) : Prop :=
  .context c ∈ t.lifetimeReaders ∧ (s.contexts c).life = .live ∧ s.lifetimeWriter = none

/-- A call that goes on to `stage` was in progress before or has been admitted. -/
def Opened (s t : State) (c : ContextRef) (stage : Stage) : Prop :=
  (s.contexts c).control.stage ≠ .between ∨ stage = .between ∨ Admitted s t c

/-- A call on the context is in progress, or may be admitted. -/
def Running (s : State) (c : ContextRef) : Prop :=
  (s.contexts c).control.stage ≠ .between ∨ (s.contexts c).life = .live

/-- What every section of a call on the context `c` leaves alone. -/
structure CallFrame (c : ContextRef) (s s' : State) : Prop where
  control : ∀ d, d ≠ c → (s'.contexts d).control = (s.contexts d).control
  life : ∀ r, (s'.surfaces r).life = (s.surfaces r).life
  lifetimeWriter : s'.lifetimeWriter = s.lifetimeWriter
  readers : ∀ id ∈ s.lifetimeReaders, id ∈ s'.lifetimeReaders ∨
    (id = .context c ∧ (s'.contexts c).control.stage = .between)
  opened : Opened s s' c (s'.contexts c).control.stage
  syncs : s'.syncs = s.syncs
  failed : s'.failed = s.failed ∨
    (s'.failed = currentPicture s c :: s.failed ∧ (s'.contexts c).control.failing ∧
      Running s c ∧ (s.contexts c).control.pictureState = .building)
  recorded : FailureRecorded s c → FailureRecorded s' c

/-- The kinds of section of a call on the context `c`. -/
inductive CallEffect (c : ContextRef) (s s' : State) : Prop
  /-- No flag changes. -/
  | advance (frame : CallFrame c s s')
      (flags : ∀ r, (s'.surfaces r).flags = (s.surfaces r).flags)
      (moves : Advance (s.contexts c).control (s'.contexts c).control)
  /-- A new picture. -/
  | begin (frame : CallFrame c s s')
      (flags : ∀ r, (s'.surfaces r).flags = (s.surfaces r).flags)
      (idle : (s.contexts c).control.pictureState = .idle)
      (stage : Stage)
      (hstage : stage = .resetting ∨
        ∃ r, stage = .waiting r ∧ (s.surfaces r).life = .live)
      (control : (s'.contexts c).control =
        { (s.contexts c).control with
          pictureState := .building, picture := (s.contexts c).picture + 1, stage := stage })
  /-- The wait of `nvBeginPicture` is over. -/
  | acquire (r : SurfaceRef) (frame : CallFrame c s s')
      (flags : ∀ r, (s'.surfaces r).flags = (s.surfaces r).flags)
      (phase : (s.contexts c).phase = .beginWaitSurface r)
      (resolved : (s.surfaces r).resolving = false)
      (control : (s'.contexts c).control =
        { (s.contexts c).control with stage := .acquiring r })
  /-- Film grain names a display target. -/
  | take (r : SurfaceRef) (frame : CallFrame c s s')
      (flags : ∀ r, (s'.surfaces r).flags = (s.surfaces r).flags)
      (buffer : PictureParameterBuffer) (found : List (Option SurfaceRef × Int))
      (phase : (s.contexts c).phase = .renderLookup buffer [] found)
      (av1 : (s.contexts c).cudaCodec = .av1)
      (display : filmGrainDisplay s (s.contexts c) buffer = some r)
      (moves : Advance { (s.contexts c).control with displayTarget := some r }
        (s'.contexts c).control)
  /-- `nvBeginPicture` starts the generation of the render target. -/
  | start (r : SurfaceRef) (frame : CallFrame c s s')
      (others : ∀ q, q ≠ r → (s'.surfaces q).flags = (s.surfaces q).flags)
      (flags : (s'.surfaces r).flags = ((s.surfaces r).start (currentPicture s c)).flags)
      (stage : (s.contexts c).control.stage = .acquiring r)
      (control : (s'.contexts c).control =
        { (s.contexts c).control with
          renderTarget := some r
          displayTarget :=
            if (s.contexts c).entrypoint = .videoProc then (s.contexts c).displayTarget
            else some r
          stage :=
            if (s.contexts c).entrypoint = .videoProc then .between else .decoding })
      (phase : (s.contexts c).phase = .beginStart r)
  /-- The film-grain hand-over starts the generation of the display target. -/
  | redirect (r : SurfaceRef) (frame : CallFrame c s s')
      (others : ∀ q, q ≠ r → (s'.surfaces q).flags = (s.surfaces q).flags)
      (flags : (s'.surfaces r).flags = ((s.surfaces r).start (currentPicture s c)).flags)
      (status : VAStatus) (stage : (s.contexts c).control.stage = .redirecting false status)
      (output : (s.contexts c).control.outputTarget = some r)
      (control : (s'.contexts c).control =
        { (s.contexts c).control with stage := .redirecting true status })
      (phase : (s.contexts c).phase = .handOverStart status)
  /-- One section of a clearing list. -/
  | clear (section_ : ClearSection) (rest : List ClearSection) (next : Stage)
      (frame : CallFrame c s s')
      (flags : ∀ r, (s'.surfaces r).flags = ((section_.run s).surfaces r).flags)
      (stage : (s.contexts c).control.stage = .clearing (section_ :: rest) next)
      (control : (s'.contexts c).control =
        { (s.contexts c).control with stage := .after rest next })
      (unfailed : s'.failed = s.failed)
  /-- The hand-over ends the generation of the render target. -/
  | handOver (r : SurfaceRef) (frame : CallFrame c s s')
      (others : ∀ q, q ≠ r → (s'.surfaces q).flags = (s.surfaces q).flags)
      (flags : (s'.surfaces r).flags = (s.surfaces r).finish.flags)
      (status : VAStatus) (phase : (s.contexts c).phase = .handOverFinish status)
      (render : (s.contexts c).control.renderTarget = some r)
      (control : (s'.contexts c).control =
        { (s.contexts c).control with stage := .making status })
      (unfailed : s'.failed = s.failed)
  /-- A blit copies the source's decode state to the destination. -/
  | publish (r src : SurfaceRef) (frame : CallFrame c s s')
      (others : ∀ q, q ≠ r → (s'.surfaces q).flags = (s.surfaces q).flags)
      (flags : (s'.surfaces r).flags =
        { (s.surfaces r).flags with decodeFailed := (s.surfaces src).decodeFailed })
      (stage : (s.contexts c).control.stage = .blitting)
      (render : (s.contexts c).control.renderTarget = some r)
      (control : (s'.contexts c).control =
        { (s.contexts c).control with stage := .clearing [.image r, .finish r] .blitting })
  /-- The job is filled in from the output surface. -/
  | make (r : SurfaceRef) (status : VAStatus) (frame : CallFrame c s s')
      (others : ∀ q, q ≠ r → (s'.surfaces q).flags = (s.surfaces q).flags)
      (flags : (s'.surfaces r).flags =
        { (s.surfaces r).flags with decodeFailed := status ≠ .success })
      (phase : (s.contexts c).phase = .endMakeJob status)
      (output : (s.contexts c).control.outputTarget = some r)
      (control : (s'.contexts c).control =
        { (s.contexts c).control with stage := .submitting (makeJob s c r status) })
  /-- The job is pushed. -/
  | push (job : ResolveJob) (frame : CallFrame c s s')
      (flags : ∀ r, (s'.surfaces r).flags = (s.surfaces r).flags)
      (stage : (s.contexts c).control.stage = .submitting job)
      (control : (s'.contexts c).control =
        { (s.contexts c).control with
          resolveQueue :=
            { (s.contexts c).resolveQueue with
              items := (s.contexts c).resolveQueue.items ++ [job] }
          pictureState := .submitted
          stage := .submitted })

/-! ## Sections that only move on -/

/-- Two states with the same flags and the same controls. -/
structure SameView (s t : State) : Prop where
  flags : ∀ r, (t.surfaces r).flags = (s.surfaces r).flags
  control : ∀ d, (t.contexts d).control = (s.contexts d).control
  life : ∀ r, (t.surfaces r).life = (s.surfaces r).life
  lifetimeWriter : t.lifetimeWriter = s.lifetimeWriter
  readers : ∀ id ∈ s.lifetimeReaders, id ∈ t.lifetimeReaders
  syncs : t.syncs = s.syncs
  failed : t.failed = s.failed

theorem SameView.refl (s : State) : SameView s s :=
  ⟨fun _ => rfl, fun _ => rfl, fun _ => rfl, rfl, fun _ h => h, rfl, rfl⟩

theorem SameView.trans {s t u : State} (hst : SameView s t) (htu : SameView t u) :
    SameView s u where
  flags := fun r => (htu.flags r).trans (hst.flags r)
  control := fun d => (htu.control d).trans (hst.control d)
  life := fun r => (htu.life r).trans (hst.life r)
  lifetimeWriter := htu.lifetimeWriter.trans hst.lifetimeWriter
  readers := fun id hid => htu.readers id (hst.readers id hid)
  syncs := htu.syncs.trans hst.syncs
  failed := htu.failed.trans hst.failed

/-- Replacing a surface by one with the same flags and life. -/
theorem SameView.setSurface {s : State} {r : SurfaceRef} {surface : NVSurface}
    (hflags : surface.flags = (s.surfaces r).flags)
    (hlife : surface.life = (s.surfaces r).life) : SameView s (s.setSurface r surface) where
  flags := by
    intro q
    by_cases hq : q = r
    · simp [hq, hflags]
    · simp [hq]
  control := fun _ => rfl
  life := by
    intro q
    by_cases hq : q = r
    · simp [hq, hlife]
    · simp [hq]
  lifetimeWriter := rfl
  readers := fun _ h => h
  syncs := rfl
  failed := rfl

/-- Replacing a context by one with the same control. -/
theorem SameView.setContext {s : State} {c : ContextRef} {ctx : NVContext}
    (hcontrol : ctx.control = (s.contexts c).control) : SameView s (s.setContext c ctx) where
  flags := fun _ => rfl
  control := by
    intro d
    by_cases hd : d = c
    · simp [hd, hcontrol]
    · simp [hd]
  life := fun _ => rfl
  lifetimeWriter := rfl
  readers := fun _ h => h
  syncs := rfl
  failed := rfl

theorem SameView.imageSection (s : State) (r : SurfaceRef) (resolving : Bool) :
    SameView s (setSurfaceBackingImageResolving s r resolving) :=
  ⟨fun _ => rfl, fun _ => rfl, fun _ => rfl, rfl, fun _ h => h, rfl, rfl⟩

theorem SameView.detach (s : State) (r : SurfaceRef) :
    SameView s (s.setSurface r (s.surfaces r).detached) :=
  SameView.setSurface rfl rfl

theorem SameView.release {s s' : State} {r : SurfaceRef}
    (hrelease : releaseSurfacePictureIndex s r = some s') : SameView s s' := by
  unfold releaseSurfacePictureIndex at hrelease
  simp only at hrelease
  split at hrelease
  · cases hrelease
    exact .detach s r
  · rename_i c _
    split at hrelease
    · cases hrelease
      exact .detach s r
    · split at hrelease
      · cases hrelease
      · split at hrelease
        · cases hrelease
          have hcontext : SameView s
              (s.setContext c ((s.contexts c).dropIndex (s.surfaces r).pictureIdx.toNat)) :=
            .setContext rfl
          exact hcontext.trans (.setSurface rfl rfl)
        · cases hrelease
          exact .detach s r

theorem SameView.takeIndex (s : State) (c : ContextRef) (r : SurfaceRef)
    (limit index current : Nat) : SameView s (takeIndex s c r limit index current) := by
  have hsurface : SameView s (s.setSurface r
      { s.surfaces r with
        pictureIdx := (index : Int), context := some c, contextId := some c }) :=
    SameView.setSurface rfl rfl
  exact hsurface.trans (SameView.setContext rfl)

theorem SameView.forgetPreviousOwner (s : State) (c : ContextRef) (r : SurfaceRef)
    (index : Nat) : SameView s (forgetPreviousOwner s c r index) := by
  unfold Driver.forgetPreviousOwner
  split
  · exact .refl s
  · split
    · exact SameView.setSurface rfl rfl
    · exact .refl s

theorem SameView.commit (s : State) (c : ContextRef) (r : SurfaceRef) (limit selected : Nat) :
    SameView s (commitSurfacePictureIndex s c r limit selected) :=
  (SameView.forgetPreviousOwner s c r selected).trans (SameView.takeIndex ..)

theorem SameView.commitAV1 (s : State) (c : ContextRef) (r : SurfaceRef)
    (limit selected : Nat) : SameView s (commitAV1SurfacePictureIndex s c r limit selected) :=
  SameView.takeIndex ..

theorem currentPicture_of_view {s t : State} (hview : SameView s t) (c : ContextRef) :
    currentPicture t c = currentPicture s c := by
  have hpicture : (t.contexts c).control.picture = (s.contexts c).control.picture := by
    rw [hview.control c]
  exact congrArg (Picture.mk c) hpicture

/-- The frame of a section that, from a state with the same view, replaces the
control of its own context and possibly records a failure. -/
theorem SameView.frame {s t s' : State} {c : ContextRef} (hview : SameView s t)
    (hcontrol : ∀ d, d ≠ c → s'.contexts d = t.contexts d)
    (hsurfaces : s'.surfaces = t.surfaces)
    (hwriter : s'.lifetimeWriter = t.lifetimeWriter)
    (hreaders : s'.lifetimeReaders = t.lifetimeReaders) (hsyncs : s'.syncs = t.syncs)
    (hopened : Opened s t c (s'.contexts c).control.stage)
    (hfailed : s'.failed = t.failed ∨
      (s'.failed = currentPicture t c :: t.failed ∧ (s'.contexts c).control.failing ∧
        Running s c ∧ (s.contexts c).control.pictureState = .building))
    (hrecorded : FailureRecorded s c → FailureRecorded s' c) : CallFrame c s s' where
  control := by
    intro d hd
    rw [hcontrol d hd, hview.control d]
  life := by
    intro r
    rw [hsurfaces, hview.life r]
  lifetimeWriter := hwriter.trans hview.lifetimeWriter
  readers := fun id hid => .inl (hreaders ▸ hview.readers id hid)
  opened := by
    unfold Opened Admitted
    rw [hreaders]
    exact hopened
  syncs := hsyncs.trans hview.syncs
  failed := by
    rw [hview.failed, currentPicture_of_view hview] at hfailed
    exact hfailed
  recorded := hrecorded

/-! ## Reading the kinds off the program points -/

section Effects

variable {s t s' : State} {c : ContextRef}

theorem Advance.refl {κ : Control} (hok : κ.okAt κ.stage) : Advance κ κ where
  life := rfl
  entrypoint := rfl
  picture := rfl
  resolveQueue := rfl
  worker := rfl
  render := .inl rfl
  holds := fun _ h => h
  owes := fun _ h => h
  expects := fun _ h => h
  submitted := .inl
  idle := id
  unfailed := id
  failing := .inl
  waiting := fun _ h => h
  acquiring := fun _ h => h
  job := fun _ h => h
  okAt := hok

theorem Opened.running (hopened : ∀ stage, Opened s t c stage) : Running s c := by
  rcases hopened .resetting with hopen | hclosed | ⟨_, hlive, _⟩
  · exact .inl hopen
  · cases hclosed
  · exact .inr hlive

theorem currentPicture_of_control {d : ContextRef}
    (hpicture : (s'.contexts d).control.picture = (s.contexts d).control.picture) :
    currentPicture s' d = currentPicture s d :=
  congrArg (Picture.mk d) hpicture

/-- A section keeps the record as long as it does not begin a clean-up without
recording the failure. -/
theorem FailureRecorded.step
    (hpicture : (s'.contexts c).control.picture = (s.contexts c).control.picture)
    (hfailed : ∀ p ∈ s.failed, p ∈ s'.failed)
    (hcleaning : (s'.contexts c).control.cleaning →
      (s.contexts c).control.cleaning ∨ currentPicture s c ∈ s'.failed)
    (hrecorded : FailureRecorded s c) : FailureRecorded s' c := by
  intro hpremise
  have hsame : currentPicture s' c = currentPicture s c := congrArg (Picture.mk c) hpicture
  rw [hsame]
  rcases hcleaning hpremise with hbefore | hnow
  · exact hfailed _ (hrecorded hbefore)
  · exact hnow

/-- A section that changes nothing a generation depends on. -/
theorem SameView.effect (hview : SameView s s')
    (hok : (s.contexts c).control.okAt (s.contexts c).control.stage) : CallEffect c s s' := by
  refine .advance ⟨fun d _ => hview.control d, hview.life, hview.lifetimeWriter,
    fun id hid => .inl (hview.readers id hid), ?_, hview.syncs, .inl hview.failed, ?_⟩
    hview.flags ?_
  · rw [hview.control c]
    by_cases hstage : (s.contexts c).control.stage = .between
    · exact .inr (.inl hstage)
    · exact .inl hstage
  · exact .step (congrArg Control.picture (hview.control c)) (fun _ hp => hview.failed ▸ hp)
      (fun h => .inl (hview.control c ▸ h))
  · rw [hview.control c]
    exact .refl hok

theorem SameView.goto {phase : Phase} (hview : SameView s t)
    (hstage : phase.stage = (s.contexts c).phase.stage) : SameView s (goto t c phase) where
  flags := hview.flags
  control := by
    intro d
    by_cases hd : d = c
    · subst hd
      rw [← hview.control d]
      have hview' := congrArg Control.stage (hview.control d)
      change (t.contexts d).phase.stage = (s.contexts d).phase.stage at hview'
      simp [Driver.goto, NVContext.control, hstage, hview']
    · simp [Driver.goto, hd, hview.control d]
  life := hview.life
  lifetimeWriter := hview.lifetimeWriter
  readers := hview.readers
  syncs := hview.syncs
  failed := hview.failed

/-- The frame of a section that, from a state with the same view, replaces its
context without recording a failure. -/
theorem SameView.replaceFrame {ctx : NVContext} (hview : SameView s t)
    (hopened : Opened s t c ctx.control.stage)
    (hrecorded : FailureRecorded s c → FailureRecorded (t.setContext c ctx) c) :
    CallFrame c s (t.setContext c ctx) :=
  hview.frame (fun d hd => by simp [hd]) rfl rfl rfl rfl (by simpa using hopened) (.inl rfl)
    hrecorded

/-- A section that, from a state with the same view, replaces its context without
recording a failure. -/
theorem SameView.replace {ctx : NVContext} (hview : SameView s t)
    (hopened : Opened s t c ctx.control.stage)
    (hadvance : Advance (s.contexts c).control ctx.control)
    (hcleaning : ctx.control.cleaning →
      (s.contexts c).control.cleaning ∨ currentPicture s c ∈ s.failed) :
    CallEffect c s (t.setContext c ctx) := by
  have hcontrol : ((t.setContext c ctx).contexts c).control = ctx.control := by simp
  refine .advance (hview.replaceFrame hopened ?_) hview.flags (hcontrol ▸ hadvance)
  refine FailureRecorded.step (hcontrol ▸ hadvance.picture) ?_ ?_
  · intro p hp
    exact hview.failed ▸ hp
  · intro h
    rw [hcontrol] at h
    rw [show (t.setContext c ctx).failed = s.failed from hview.failed]
    exact hcleaning h

/-- The frame of a failing section, which records the failure. -/
theorem SameView.failedFrame {ctx : NVContext} (hview : SameView s t)
    (hopened : Opened s t c ctx.control.stage)
    (hrunning : Running s c)
    (hpicture : ctx.control.picture = (s.contexts c).control.picture)
    (hfailing : ctx.control.failing)
    (hbuilding : (s.contexts c).control.pictureState = .building) :
    CallFrame c s ((recordFailure t c).setContext c ctx) := by
  have hcontrol : (((recordFailure t c).setContext c ctx).contexts c).control = ctx.control := by
    simp
  have hfailed : ((recordFailure t c).setContext c ctx).failed =
      currentPicture s c :: s.failed := by
    rw [← currentPicture_of_view hview, ← hview.failed]
    rfl
  refine hview.frame ?_ rfl rfl rfl rfl (by rw [hcontrol]; exact hopened)
    (.inr ⟨rfl, hcontrol.symm ▸ hfailing, hrunning, hbuilding⟩) ?_
  · intro d hd
    simp [hd, recordFailure]
  · refine FailureRecorded.step (hcontrol ▸ hpicture) ?_ ?_
    · intro p hp
      rw [hfailed]
      exact List.mem_cons_of_mem _ hp
    · intro _
      rw [hfailed]
      exact .inr List.mem_cons_self

/-- A failing section that keeps the targets. -/
theorem SameView.replaceFailed {ctx : NVContext} (hview : SameView s t)
    (hopened : Opened s t c ctx.control.stage) (hrunning : Running s c)
    (hadvance : Advance (s.contexts c).control ctx.control) (hfailing : ctx.control.failing)
    (hbuilding : (s.contexts c).control.pictureState = .building) :
    CallEffect c s ((recordFailure t c).setContext c ctx) := by
  have hcontrol : (((recordFailure t c).setContext c ctx).contexts c).control = ctx.control := by
    simp
  exact .advance (hview.failedFrame hopened hrunning hadvance.picture hfailing hbuilding) hview.flags
    (hcontrol ▸ hadvance)

end Effects

/-! ## Moves between stages -/

namespace Advance

variable {κ : Control}

attribute [local grind] Control.holds Control.target Control.owes Control.owesAt Control.expects
  Control.expectsAt Control.okAt Control.outputTarget Control.untargeted Control.targeted
  Control.failing Control.cleaning Control.settled

/-- Leaving a stage for a list of sections that clears every target. -/
theorem clearing {state : NVDPictureState} {todo : List ClearSection} {next : Stage}
    (htargeted : κ.targeted) (htodo : ∀ r, r ∈ clearedBy todo ↔ κ.target r)
    (hopen : κ.pictureState = .building ∨ κ.pictureState = .failed)
    (hfailing : κ.failing → κ.pictureState = .failed ∨ κ.entrypoint = .vld)
    (hnext : (next = .resetting ∧ state = κ.pictureState) ∨
      (next = .between ∧ state = .failed) ∨
      (next = .between ∧ state = κ.pictureState ∧ κ.pictureState = .building ∧
        κ.entrypoint = .videoProc)) :
    Advance κ { κ with pictureState := state, stage := .after todo next } where
  life := rfl
  entrypoint := rfl
  picture := rfl
  resolveQueue := rfl
  worker := rfl
  render := .inl rfl
  holds := by
    intro r hholds
    rcases hholds with htarget | hstage
    · exact .inl htarget
    · exfalso
      rcases hnext with ⟨rfl, _⟩ | ⟨rfl, _⟩ | ⟨rfl, _⟩ <;> cases todo <;> cases hstage
  owes := by
    intro r howes
    exact ⟨howes.1, (Control.owesAt_after r todo next).mpr (.inl ((htodo r).mpr howes.1))⟩
  expects := by
    intro r hexpects
    obtain ⟨hvld, hstate, hat⟩ := hexpects
    exfalso
    rcases hnext with ⟨rfl, _⟩ | ⟨rfl, hfailed⟩ | ⟨rfl, _, _, hproc⟩
    · cases todo <;> exact hat
    · simp [hfailed] at hstate
    · simp [hproc] at hvld
  submitted := by
    intro hsubmitted
    rcases hopen with hopen | hopen <;> simp [hsubmitted] at hopen
  idle := by
    intro hidle
    rcases hopen with hopen | hopen <;> simp [hidle] at hopen
  unfailed := by
    intro hbuilding
    change state = .building at hbuilding
    rcases hnext with ⟨_, hsame⟩ | ⟨_, hfailed⟩ | ⟨_, _, hbefore, _⟩
    · exact hsame ▸ hbuilding
    · simp [hbuilding] at hfailed
    · exact hbefore
  failing := by
    intro hbefore
    refine .inl ?_
    rcases hnext with ⟨rfl, rfl⟩ | ⟨rfl, rfl⟩ | ⟨rfl, rfl, hbuilding, hproc⟩
    · rcases hfailing hbefore with hfailed | hvld
      · exact .inl (.inl hfailed)
      · cases todo with
        | nil => exact .inr (.inl rfl)
        | cons section_ rest => exact .inl (.inr ⟨hvld, _, _, rfl⟩)
    · exact .inl (.inl rfl)
    · exfalso
      rcases hfailing hbefore with hfailed | hvld
      · simp [hbuilding] at hfailed
      · simp [hproc] at hvld
  waiting := by
    intro r hwaiting
    rcases hnext with ⟨rfl, _⟩ | ⟨rfl, _⟩ | ⟨rfl, _⟩ <;> cases todo <;> cases hwaiting
  acquiring := by
    intro r hacquiring
    rcases hnext with ⟨rfl, _⟩ | ⟨rfl, _⟩ | ⟨rfl, _⟩ <;> cases todo <;> cases hacquiring
  job := by
    intro job hjob
    rcases hnext with ⟨rfl, _⟩ | ⟨rfl, _⟩ | ⟨rfl, _⟩ <;> cases todo <;> cases hjob
  okAt := by
    cases todo with
    | nil =>
        rcases hnext with ⟨rfl, rfl⟩ | ⟨rfl, rfl⟩ | ⟨rfl, rfl, hbuilding, _⟩
        · refine .inr ⟨?_, htargeted⟩
          rcases hopen with hopen | hopen <;> simp [hopen]
        · exact .inr ⟨.inr rfl, htargeted⟩
        · exact .inr ⟨.inl hbuilding, htargeted⟩
    | cons section_ rest =>
        refine ⟨htargeted, fun r hr => (htodo r).mp hr, ?_⟩
        rcases hnext with ⟨rfl, rfl⟩ | ⟨rfl, rfl⟩ | ⟨rfl, rfl, hbuilding, hproc⟩
        · exact hopen
        · exact .inl rfl
        · exact .inr ⟨hproc, hbuilding⟩

/-- Moving between stages at which the render target alone is owed and, in a
decode context, expected. -/
theorem building {stage : Stage} (hok : κ.okAt κ.stage) (hbuilding : κ.pictureState = .building)
    (hfrom : κ.stage = .between ∨ κ.stage = .decoding ∨ κ.stage = .blitting)
    (hto : stage = .between ∨ (stage = .decoding ∧ κ.entrypoint = .vld) ∨
      (stage = .blitting ∧ κ.entrypoint = .videoProc)) :
    Advance κ { κ with stage := stage } := by
  rcases hfrom with hstage | hstage | hstage <;> rw [hstage] at hok <;>
    rcases hto with rfl | ⟨rfl, hentry⟩ | ⟨rfl, hentry⟩ <;>
    constructor <;>
    grind

/-- `cuvidDecodePicture` has returned. -/
theorem toDecoded {status : VAStatus} (hok : κ.okAt κ.stage) (hstage : κ.stage = .decoding) :
    Advance κ { κ with stage := .decoded status } := by
  rw [hstage] at hok
  constructor <;>
    grind

/-- There is no separate display target. -/
theorem toMaking {status : VAStatus} (hok : κ.okAt κ.stage) (hstage : κ.stage = .decoded status)
    (houtput : κ.outputTarget = κ.renderTarget) :
    Advance κ { κ with stage := .making status } := by
  rw [hstage] at hok
  constructor <;>
    grind

/-- The output goes to a display target. -/
theorem toRedirecting {status : VAStatus} (hok : κ.okAt κ.stage)
    (hstage : κ.stage = .decoded status) (houtput : κ.outputTarget ≠ κ.renderTarget) :
    Advance κ { κ with stage := .redirecting false status } := by
  rw [hstage] at hok
  have hfailing : κ.failing → status ≠ .success := by
    simp [Control.failing, Control.cleaning, hstage, show κ.pictureState = .building from hok.1]
  constructor
  case failing =>
    intro hbefore
    exact .inl (.inr (.inr ⟨status, hfailing hbefore, .inr (.inl ⟨false, rfl⟩)⟩))
  all_goals
    grind

/-- `resetPictureBuild` comes next, with nothing left to end. -/
theorem toResetting (hok : κ.okAt κ.stage)
    (hfrom : (∃ r, κ.stage = .acquiring r) ∨ κ.stage = .submitted) :
    Advance κ { κ with stage := .resetting } := by
  rcases hfrom with ⟨r, hstage⟩ | hstage <;> rw [hstage] at hok <;> constructor <;>
    grind

/-- An empty list of sections is left at once. -/
theorem skip {next : Stage} (hok : κ.okAt κ.stage) (hstage : κ.stage = .clearing [] next) :
    Advance κ { κ with stage := next } := by
  rw [hstage] at hok
  obtain ⟨htargeted, _, hnext⟩ := hok
  cases next <;> first | exact hnext.elim | skip
  all_goals
    constructor <;>
    grind [clearedBy_nil]

/-- The targets are dropped. -/
theorem drop (hstage : κ.stage = .resetting) :
    Advance κ
      { κ with
        renderTarget := none, displayTarget := none, pictureState := .idle,
        stage := .between } := by
  constructor <;>
    grind

end Advance

end Driver
end NvidiaVaapi
