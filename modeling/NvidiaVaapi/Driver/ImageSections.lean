import NvidiaVaapi.Driver.Machine

/-!
# What a section does to the backing images

The flag of an image is written for a surface, and only by the sections that
`State.marks` lists.  Which image a surface has, and whether it is exported, changes
at creation, realisation, destruction and export only.
-/

namespace NvidiaVaapi
namespace Driver

/-- The backing images, and which surface has which image and is exported. -/
structure Imaging where
  images : ImageRef → BackingImage
  backingImage : SurfaceRef → Option ImageRef
  exported : SurfaceRef → Bool

def State.imaging (s : State) : Imaging :=
  { images := s.images
    backingImage := fun r => (s.surfaces r).backingImage
    exported := fun r => (s.surfaces r).exported }

namespace Imaging

variable (im : Imaging)

/-- The image whose flag stands for an image: the lender's, where it is borrowed. -/
def syncOf (i : ImageRef) : ImageRef :=
  match (im.images i).borrowedBackingImage with
  | some owner => owner
  | none => i

def syncImage (r : SurfaceRef) : Option ImageRef :=
  (im.backingImage r).map im.syncOf

def shared (r : SurfaceRef) : Bool :=
  im.exported r ||
    match im.backingImage r with
    | none => false
    | some i => (im.images i).isExternalBuffer

end Imaging

theorem surfaceSyncBackingImage_imaging (s : State) (r : SurfaceRef) :
    surfaceSyncBackingImage s r = s.imaging.syncImage r := by
  change (match (s.surfaces r).backingImage with | none => none | some i => _) =
    ((s.surfaces r).backingImage).map s.imaging.syncOf
  cases (s.surfaces r).backingImage with
  | none => rfl
  | some i =>
      change (match (s.images i).borrowedBackingImage with | some owner => some owner | none => _) =
        some (match (s.images i).borrowedBackingImage with | some owner => owner | none => i)
      cases (s.images i).borrowedBackingImage <;> rfl

theorem surfaceShared_imaging (s : State) (r : SurfaceRef) :
    surfaceShared s r = s.imaging.shared r := rfl

/-- The surface for which the next section writes the flag of a backing image, with
the value written. -/
def State.marks (s : State) : Label → Option (SurfaceRef × Bool)
  | .call c _ =>
    match (s.contexts c).phase with
    | .clearing (.image r :: _) _ => some (r, false)
    | .beginStartImage r => some (r, true)
    | .handOverStartImage _ => (s.contexts c).outputTarget.map fun r => (r, true)
    | .handOverFinishImage _ => (s.contexts c).renderTarget.map fun r => (r, false)
    | _ => none
  | .worker c outcome =>
    match (s.contexts c).worker with
    | .exporting job =>
      if outcome = .ok ∧ s.cudaWorkUnsafe = false then some (job.surface, true) else none
    | .clearImage job _ => some (job.surface, false)
    | .cancelled (job :: _) false => some (job.surface, false)
    | _ => none
  | .destroy _ =>
    match s.lifetimeWriter with
    | some (.context _ (.cancelled (job :: _) false)) => some (job.surface, false)
    | _ => none
  | _ => none

/-- The images after the flag of a surface's image has been written. -/
def State.marked (s : State) : Option (SurfaceRef × Bool) → Imaging
  | none => s.imaging
  | some (r, resolving) => (setSurfaceBackingImageResolving s r resolving).imaging

section Marks

variable (s : State) (mark : Option (SurfaceRef × Bool))

/-- Writing a flag changes nothing else about an image. -/
theorem marked_images (i : ImageRef) :
    (s.marked mark).images i = s.images i ∨
      ∃ r resolving, mark = some (r, resolving) ∧ surfaceSyncBackingImage s r = some i ∧
        (s.images i).syncInitialized = true ∧
        (s.marked mark).images i = { s.images i with resolving := resolving } := by
  cases mark with
  | none => exact .inl rfl
  | some written =>
      obtain ⟨r, resolving⟩ := written
      change (setSurfaceBackingImageResolving s r resolving).images i = s.images i ∨ _
      unfold setSurfaceBackingImageResolving
      cases hsync : surfaceSyncBackingImage s r with
      | none => exact .inl rfl
      | some k =>
          simp only
          split
          · rename_i hinit
            by_cases hi : i = k
            · subst hi
              refine .inr ⟨r, resolving, rfl, hsync, hinit, ?_⟩
              change (setSurfaceBackingImageResolving s r resolving).images i = _
              simp [setSurfaceBackingImageResolving, hsync, hinit]
            · exact .inl (by simp [hi])
          · exact .inl rfl

/-- The flag of the surface's image is the one that was written. -/
theorem marked_images_self {r : SurfaceRef} {resolving : Bool} {i : ImageRef}
    (hsync : surfaceSyncBackingImage s r = some i) (hinit : (s.images i).syncInitialized = true) :
    (s.marked (some (r, resolving))).images i = { s.images i with resolving := resolving } := by
  change (setSurfaceBackingImageResolving s r resolving).images i = _
  simp [setSurfaceBackingImageResolving, hsync, hinit]

@[simp] theorem marked_backingImage : (s.marked mark).backingImage = s.imaging.backingImage := by
  cases mark <;> rfl

@[simp] theorem marked_exported : (s.marked mark).exported = s.imaging.exported := by
  cases mark <;> rfl

@[simp] theorem marked_syncOf (i : ImageRef) : (s.marked mark).syncOf i = s.imaging.syncOf i := by
  unfold Imaging.syncOf
  rcases marked_images s mark i with hsame | ⟨_, _, _, _, _, hwritten⟩
  · rw [hsame]
    rfl
  · rw [hwritten]
    rfl

@[simp] theorem marked_syncImage (r : SurfaceRef) :
    (s.marked mark).syncImage r = s.imaging.syncImage r := by
  unfold Imaging.syncImage
  rw [marked_backingImage]
  exact congrFun (congrArg Option.map (funext (marked_syncOf s mark))) _

@[simp] theorem marked_shared (r : SurfaceRef) :
    (s.marked mark).shared r = s.imaging.shared r := by
  unfold Imaging.shared
  rw [marked_backingImage, marked_exported]
  cases s.imaging.backingImage r with
  | none => rfl
  | some i =>
      rcases marked_images s mark i with hsame | ⟨_, _, _, _, _, hwritten⟩
      · simp only [hsame]
        rfl
      · simp only [hwritten]
        rfl

end Marks

section Sections

variable {s t s' : State} {c : ContextRef} {r : SurfaceRef}

/-- A surface is replaced by one with the same image. -/
theorem imaging_setSurface {surface : NVSurface}
    (himage : surface.backingImage = (s.surfaces r).backingImage)
    (hexported : surface.exported = (s.surfaces r).exported) :
    (s.setSurface r surface).imaging = s.imaging := by
  unfold State.imaging
  congr 1 <;> funext q <;> by_cases hq : q = r
  · simp [hq, himage]
  · simp [hq]
  · simp [hq, hexported]
  · simp [hq]

@[simp] theorem imaging_setContext (ctx : NVContext) : (s.setContext c ctx).imaging = s.imaging :=
  rfl

@[simp] theorem imaging_goto (phase : Phase) : (goto s c phase).imaging = s.imaging :=
  rfl

theorem release_imaging (hrelease : releaseSurfacePictureIndex s r = some t) :
    t.imaging = s.imaging := by
  have hdetach : (s.setSurface r (s.surfaces r).detached).imaging = s.imaging :=
    imaging_setSurface rfl rfl
  unfold releaseSurfacePictureIndex at hrelease
  simp only at hrelease
  split at hrelease
  · cases hrelease
    exact hdetach
  · split at hrelease
    · cases hrelease
      exact hdetach
    · split at hrelease
      · cases hrelease
      · split at hrelease
        · cases hrelease
          exact hdetach
        · cases hrelease
          exact hdetach

theorem takeIndex_imaging (s : State) (c : ContextRef) (r : SurfaceRef)
    (limit index current : Nat) : (takeIndex s c r limit index current).imaging = s.imaging :=
  (imaging_setContext _).trans (imaging_setSurface rfl rfl)

theorem commit_imaging (s : State) (c : ContextRef) (r : SurfaceRef) (limit selected : Nat) :
    (commitSurfacePictureIndex s c r limit selected).imaging = s.imaging := by
  refine (takeIndex_imaging _ c r limit selected _).trans ?_
  unfold forgetPreviousOwner
  split
  · rfl
  · split
    · exact imaging_setSurface rfl rfl
    · rfl

/-! ## Sections of the picture calls -/

theorem beginAssign_imaging (hstep : beginAssign s c r = some s') : s'.imaging = s.imaging := by
  unfold beginAssign at hstep
  split at hstep
  · cases hstep
    rfl
  · simp only at hstep
    split at hstep
    · cases hstep
      rfl
    · split at hstep
      · cases hstep
        rfl
      · split at hstep
        · cases hstep
          rfl
        · split at hstep
          · split at hstep
            · cases hstep
              rfl
            · cases hstep
              exact (imaging_goto _).trans (takeIndex_imaging ..)
          · cases hstep
            rfl

theorem assignScan_imaging {limit i : Nat} {busyMask : BitVec 32}
    (hstep : assignScan s c r limit i busyMask = some s') : s'.imaging = s.imaging := by
  unfold assignScan at hstep
  simp only at hstep
  split at hstep
  · split at hstep <;> cases hstep <;> rfl
  · split at hstep
    · cases hstep
      exact commit_imaging s c r limit _
    · split at hstep <;> cases hstep <;> rfl

theorem afterHandler_imaging (s : State) (c : ContextRef) (ctx : NVContext) :
    (afterHandler s c ctx).imaging = s.imaging := by
  unfold afterHandler
  split
  · rfl
  · split <;> rfl

theorem renderLoop_imaging {outcome : Outcome} (hstep : renderLoop s c outcome = some s') :
    s'.imaging = s.imaging := by
  unfold renderLoop at hstep
  split at hstep
  case h_8 buffer =>
    split at hstep
    · cases hstep
    · have hstore : (storeProgressiveFrame s
          (startPictureParameter (s.contexts c) buffer) buffer).imaging = s.imaging := by
        unfold storeProgressiveFrame
        split
        · rfl
        · split
          · exact imaging_setSurface rfl rfl
          · rfl
      simp only at hstep
      split at hstep
      · cases hstep
        exact (afterHandler_imaging ..).trans hstore
      · cases hstep
        exact hstore
  case h_9 =>
    cases hstep
    exact afterHandler_imaging ..
  all_goals
    cases hstep
    try rfl

theorem renderLookup_imaging {buffer : PictureParameterBuffer}
    {found : List (Option SurfaceRef × Int)} {todo : List (Option SurfaceRef)}
    (hstep : renderLookup s c buffer found todo = some s') : s'.imaging = s.imaging := by
  unfold renderLookup at hstep
  split at hstep
  · cases hstep
    rfl
  · cases hstep
    rfl
  · simp only at hstep
    split at hstep <;> cases hstep <;> exact afterHandler_imaging ..

theorem blitLoop_imaging {processed : Bool} {outcome : Outcome}
    (hstep : blitLoop s c processed outcome = some s') : s'.imaging = s.imaging := by
  unfold blitLoop at hstep
  split at hstep
  · split at hstep <;> cases hstep <;> rfl
  · cases hstep
    rfl
  · cases hstep
    rfl
  · cases hstep
    rfl
  · split at hstep <;> cases hstep <;> rfl
  · cases hstep

theorem blitRelease_imaging {src : SurfaceRef} (hstep : blitRelease s c src = some s') :
    s'.imaging = s.imaging := by
  unfold blitRelease at hstep
  split at hstep
  · cases hstep
    rfl
  · obtain ⟨t, hrelease, rfl⟩ := Option.map_eq_some_iff.mp hstep
    exact (imaging_goto _).trans (release_imaging hrelease)

theorem endCreateDecoder_imaging {outcome : Outcome}
    (hstep : endCreateDecoder s c outcome = some s') : s'.imaging = s.imaging := by
  unfold endCreateDecoder at hstep
  simp only at hstep
  split at hstep
  · cases hstep
    rfl
  · split at hstep
    · cases hstep
      rfl
    · split at hstep <;> cases hstep <;> rfl

theorem endPushJob_imaging {job : ResolveJob} (hstep : endPushJob s c job = some s') :
    s'.imaging = s.imaging := by
  unfold endPushJob at hstep
  simp only at hstep
  split at hstep
  · cases hstep
    rfl
  · split at hstep <;> cases hstep
    rfl

theorem clearNext_imaging {todo : List ClearSection} {next : Phase} {outcome : Outcome}
    (hphase : (s.contexts c).phase = .clearing todo next)
    (hstep : clearNext s c todo next = some s') :
    s'.imaging = s.marked (s.marks (.call c outcome)) := by
  unfold clearNext at hstep
  split at hstep
  · cases hstep
    rw [State.marks, hphase]
    rfl
  · rename_i section_ rest
    cases hstep
    rw [State.marks, hphase]
    cases section_ with
    | image q => rfl
    | finish q => exact (imaging_goto _).trans (imaging_setSurface rfl rfl)
    | fail q status => exact (imaging_goto _).trans (imaging_setSurface rfl rfl)

/-- A section of the call in progress writes at most one flag of an image. -/
theorem callStep_imaging {outcome : Outcome} (hstep : callStep s c outcome = some s') :
    s'.imaging = s.marked (s.marks (.call c outcome)) := by
  unfold callStep at hstep
  cases hphase : (s.contexts c).phase <;> rw [hphase] at hstep <;> simp only at hstep
  case clearing todo next => exact clearNext_imaging hphase hstep
  case handOverStartImage status =>
    unfold handOverStartImage at hstep
    split at hstep
    · rename_i htarget
      cases hstep
      simp only [State.marks, hphase, htarget]
      rfl
    · rename_i htarget
      cases hstep
      simp only [State.marks, hphase, htarget]
      rfl
  case handOverFinishImage status =>
    unfold handOverFinishImage at hstep
    split at hstep
    · rename_i htarget
      cases hstep
      simp only [State.marks, hphase, htarget]
      rfl
    · rename_i htarget
      cases hstep
      simp only [State.marks, hphase, htarget]
      rfl
  case beginStartImage q =>
    cases hstep
    rw [State.marks, hphase]
    rfl
  -- the remaining program points write no flag
  all_goals
    rw [State.marks, hphase]
    change s'.imaging = s.imaging
  case idle => cases hstep
  case reset status =>
    cases hstep
    rfl
  case ret status =>
    cases hstep
    rfl
  case beginWaitSurface q =>
    unfold beginWaitSurface at hstep
    split at hstep <;> cases hstep
    rfl
  case beginWaitImage q =>
    unfold beginWaitImage at hstep
    split at hstep <;> cases hstep
    rfl
  case beginRelease q =>
    unfold beginRelease at hstep
    split at hstep
    · obtain ⟨t, hrelease, rfl⟩ := Option.map_eq_some_iff.mp hstep
      exact (imaging_goto _).trans (release_imaging hrelease)
    · cases hstep
      rfl
  case beginAssign q => exact beginAssign_imaging hstep
  case assignScan q limit i busyMask => exact assignScan_imaging hstep
  case assignWaitSurface q limit owner =>
    unfold assignWaitSurface at hstep
    split at hstep <;> cases hstep
    rfl
  case assignWaitImage q limit owner =>
    unfold assignWaitImage at hstep
    split at hstep <;> cases hstep
    rfl
  case beginStart q =>
    unfold beginStart at hstep
    simp only at hstep
    split at hstep <;> cases hstep <;>
      exact (imaging_setContext _).trans (imaging_setSurface rfl rfl)
  case beginInit q =>
    cases hstep
    exact (imaging_setContext _).trans (imaging_setSurface rfl rfl)
  case renderLoop => exact renderLoop_imaging hstep
  case renderLookup buffer todo found => exact renderLookup_imaging hstep
  case blitLoop processed => exact blitLoop_imaging hstep
  case blitWaitSurface src =>
    unfold blitWaitSurface at hstep
    split at hstep <;> cases hstep
    rfl
  case blitWaitImage src =>
    unfold blitWaitImage at hstep
    split at hstep <;> cases hstep
    rfl
  case blitCopy src =>
    unfold blitCopy at hstep
    split at hstep <;> cases hstep <;> rfl
  case blitRelease src => exact blitRelease_imaging hstep
  case blitPublish src =>
    unfold blitPublish at hstep
    split at hstep
    · cases hstep
      rfl
    · cases hstep
      exact (imaging_goto _).trans (imaging_setSurface rfl rfl)
  case endCreateDecoder => exact endCreateDecoder_imaging hstep
  case endPushContext =>
    unfold endPushContext at hstep
    split at hstep <;> cases hstep <;> rfl
  case endDecode =>
    unfold endDecode at hstep
    split at hstep <;> cases hstep <;> rfl
  case endPopContext status =>
    unfold endPopContext at hstep
    split at hstep <;> cases hstep <;> rfl
  case handOverStart status =>
    unfold handOverStart at hstep
    split at hstep
    · cases hstep
      rfl
    · cases hstep
      exact (imaging_goto _).trans (imaging_setSurface rfl rfl)
  case handOverFinish status =>
    unfold handOverFinish at hstep
    split at hstep
    · cases hstep
      rfl
    · cases hstep
      exact (imaging_goto _).trans (imaging_setSurface rfl rfl)
  case endAllocJob status =>
    unfold endAllocJob at hstep
    split at hstep <;> cases hstep <;> rfl
  case endMakeJob status =>
    unfold endMakeJob at hstep
    split at hstep
    · cases hstep
    · cases hstep
      exact (imaging_goto _).trans (imaging_setSurface rfl rfl)
  case endActiveMask job =>
    unfold endActiveMask at hstep
    simp only at hstep
    split at hstep <;> cases hstep <;> rfl
  case endPushJob job => exact endPushJob_imaging hstep
  case endShared status =>
    unfold endShared at hstep
    split at hstep
    · cases hstep
      rfl
    · split at hstep <;> cases hstep <;> rfl
  case endWaitSurface =>
    unfold endWaitSurface at hstep
    split at hstep
    · cases hstep
      rfl
    · split at hstep <;> cases hstep
      rfl
  case endWaitImage =>
    unfold endWaitImage at hstep
    split at hstep
    · cases hstep
      rfl
    · split at hstep <;> cases hstep
      rfl
  case endReadStatus =>
    unfold endReadStatus at hstep
    split at hstep <;> cases hstep <;> rfl

/-! ## Entries of the picture calls -/

theorem nvBeginPicture_imaging (hstep : nvBeginPicture s c r = some s') :
    s'.imaging = s.imaging := by
  unfold nvBeginPicture at hstep
  simp only at hstep
  split at hstep
  · cases hstep
  · split at hstep
    · cases hstep
      rfl
    · split at hstep
      · cases hstep
        rfl
      · split at hstep <;> cases hstep <;> rfl

theorem nvRenderPicture_imaging {argumentsValid : Bool}
    (hstep : nvRenderPicture s c argumentsValid = some s') : s'.imaging = s.imaging := by
  unfold nvRenderPicture at hstep
  simp only at hstep
  split at hstep
  · cases hstep
  · split at hstep
    · cases hstep
      rfl
    · split at hstep
      · cases hstep
        rfl
      · split at hstep
        · cases hstep
          rfl
        · split at hstep <;> cases hstep <;> rfl

theorem nvEndPicture_imaging (hstep : nvEndPicture s c = some s') : s'.imaging = s.imaging := by
  unfold nvEndPicture at hstep
  simp only at hstep
  split at hstep
  · cases hstep
  · split at hstep
    · cases hstep
      rfl
    · cases hstep
      rfl
    · cases hstep
      rfl
    · split at hstep
      · split at hstep <;> cases hstep <;> rfl
      · split at hstep
        · cases hstep
          rfl
        · split at hstep
          · cases hstep
            rfl
          · split at hstep <;> cases hstep <;> rfl

/-! ## Sections of the other threads -/

@[simp] theorem imaging_setWorker (worker : WorkerPhase) :
    (setWorker s c worker).imaging = s.imaging := rfl

@[simp] theorem imaging_recordJobFailure (job : ResolveJob) :
    (recordJobFailure s job).imaging = s.imaging := rfl

/-- A cancelled job is failed. -/
theorem failJob_imaging (s : State) (job : ResolveJob) :
    (recordJobFailure
      (s.setSurface job.surface ((s.surfaces job.surface).failResolve .operationFailed))
      job).imaging = s.imaging :=
  (imaging_recordJobFailure job).trans (imaging_setSurface rfl rfl)

/-- A section of the worker writes at most one flag of an image. -/
theorem workerStep_imaging {outcome : WorkerOutcome} (hstep : workerStep s c outcome = some s') :
    s'.imaging = s.marked (s.marks (.worker c outcome)) := by
  unfold workerStep at hstep
  cases hworker : (s.contexts c).worker <;> rw [hworker] at hstep <;> simp only at hstep
  case cancelled jobs imageDone =>
    unfold workerCancelled at hstep
    split at hstep
    · cases hstep
      rw [State.marks, hworker]
      rfl
    · cases hstep
      rw [State.marks, hworker]
      rfl
    · cases hstep
      rw [State.marks, hworker]
      exact (imaging_setWorker _).trans (failJob_imaging s _)
  case exporting job =>
    rw [State.marks, hworker]
    unfold workerExporting at hstep
    split at hstep
    · split at hstep
      · rename_i hstopped
        cases hstep
        simp [hstopped]
        rfl
      · rename_i hsafe
        cases hstep
        simp [hsafe]
        rfl
    · cases hstep
      rfl
    · cases hstep
  case clearImage job failed =>
    cases hstep
    rw [State.marks, hworker]
    rfl
  all_goals
    rw [State.marks, hworker]
    change s'.imaging = s.imaging
  case absent => cases hstep
  case exited => cases hstep
  case starting =>
    unfold workerStart at hstep
    split at hstep <;> cases hstep <;> rfl
  case pop =>
    unfold workerPop at hstep
    simp only at hstep
    split at hstep
    · cases hstep
      rfl
    · split at hstep
      · cases hstep
      · split at hstep
        · cases hstep
          rfl
        · split at hstep <;> cases hstep <;> rfl
  case popped job =>
    unfold workerPopped at hstep
    split at hstep
    · split at hstep <;> cases hstep <;> rfl
    · cases hstep
      rfl
    · cases hstep
  case copying job =>
    unfold workerCopying at hstep
    split at hstep <;> cases hstep <;> rfl
  case unmapping job failed copied =>
    unfold workerUnmapping at hstep
    split at hstep
    · split at hstep <;> cases hstep
      rfl
    · split at hstep <;> cases hstep <;> rfl
    · cases hstep
      rfl
  case publish job failed =>
    unfold workerPublish at hstep
    simp only at hstep
    split at hstep
    · cases hstep
      exact (imaging_setWorker _).trans (imaging_setSurface rfl rfl)
    · cases hstep
      rfl
  case clear job failed =>
    cases hstep
    exact (imaging_setWorker _).trans (imaging_setSurface rfl rfl)

theorem releaseContext_imaging (s : State) (c : ContextRef) :
    (releaseContextPictureIndices s c).imaging = s.imaging := by
  unfold State.imaging releaseContextPictureIndices
  congr 1 <;> funext q <;> dsimp only <;> split <;> rfl

@[simp] theorem imaging_setWriter (call : DestroyCall) : (setWriter s call).imaging = s.imaging :=
  rfl

/-- So does a section of `nvDestroyContext`. -/
theorem destroyContextStep_imaging {stage : DestroyContextStage} {outcome : Outcome}
    (hwriter : s.lifetimeWriter = some (.context c stage))
    (hstep : destroyContextStep s c stage outcome = some s') :
    s'.imaging = s.marked (s.marks (.destroy outcome)) := by
  unfold destroyContextStep at hstep
  simp only at hstep
  rw [State.marks, hwriter]
  split at hstep
  · cases hstep
    rfl
  · cases hstep
    rfl
  · cases hstep
    rfl
  · cases hstep
    exact (imaging_setWriter _).trans (failJob_imaging s _)
  · split at hstep
    · cases hstep
      rfl
    · split at hstep <;> cases hstep
      rfl
    · cases hstep
  · split at hstep
    · cases hstep
      rfl
    · split at hstep
      · cases hstep
        rfl
      · split at hstep <;> cases hstep <;> rfl
  · cases hstep
    exact (imaging_setWriter _).trans (releaseContext_imaging s c)
  · cases hstep
    rfl

end Sections

/-! ## Every step -/

/-- What a step does to the backing images. -/
inductive ImageEffect (s : State) (a : Label) (s' : State) : Prop
  /-- At most one flag is written. -/
  | mark (imaging : s'.imaging = s.marked (s.marks a))
  /-- `nvCreateSurfaces2`, possibly with an imported image. -/
  | create (r : SurfaceRef) (format : SurfaceFormat) (image : Option ImageRef)
      (on : a = .createSurface r format image) (absent : s.surfaces r = {})
      (imaging : s'.imaging =
        { s.imaging with backingImage := Function.update s.imaging.backingImage r image })
  | realise (r : SurfaceRef) (image : ImageRef) (on : a = .realiseSurface r image)
      (unrealised : (s.surfaces r).backingImage = none)
      (own : (s.images image).isExternalBuffer = false)
      (imaging : s'.imaging =
        { s.imaging with backingImage := Function.update s.imaging.backingImage r (some image) })
  | export (thread : Nat) (r : SurfaceRef) (on : a = .markExported thread r)
      (imaging : s'.imaging =
        { s.imaging with exported := Function.update s.imaging.exported r true })
  /-- `nvDestroySurfaces` detaches the image. -/
  | free (r : SurfaceRef) (rest : List SurfaceRef) (on : ∃ outcome, a = .destroy outcome)
      (lifetimeWriter : s.lifetimeWriter = some (.surfaces (r :: rest) .free))
      (imaging : s'.imaging =
        { s.imaging with backingImage := Function.update s.imaging.backingImage r none })

section Steps

variable {s s' : State} {a : Label} {r : SurfaceRef}

/-- A surface is replaced by one that may have another image. -/
theorem imaging_setSurface_image {surface : NVSurface}
    (hexported : surface.exported = (s.surfaces r).exported) :
    (s.setSurface r surface).imaging =
      { s.imaging with
        backingImage := Function.update s.imaging.backingImage r surface.backingImage } := by
  unfold State.imaging
  congr 1 <;> funext q <;> by_cases hq : q = r
  · subst hq
    simp
  · simp [hq]
  · simp [hq, hexported]
  · simp [hq]

theorem markExported_imaging {thread : Nat} (hstep : markExported s thread r = some s') :
    s'.imaging = { s.imaging with exported := Function.update s.imaging.exported r true } := by
  unfold markExported at hstep
  split at hstep <;> cases hstep
  unfold State.imaging
  congr 1 <;> funext q <;> by_cases hq : q = r
  · simp [hq]
  · simp [hq]
  · subst hq
    simp
  · simp [hq]

theorem destroyStep_imaging {outcome : Outcome} (hstep : destroyStep s outcome = some s') :
    ImageEffect s (.destroy outcome) s' := by
  unfold destroyStep at hstep
  split at hstep
  · cases hstep
  · rename_i todo stage hwriter
    have hmarks : s.marks (.destroy outcome) = none := by
      simp only [State.marks, hwriter]
    unfold destroySurfacesStep at hstep
    split at hstep
    · cases hstep
      exact .mark (by rw [hmarks]; rfl)
    · split at hstep <;> cases hstep
      exact .mark (by rw [hmarks]; rfl)
    · split at hstep <;> cases hstep
      exact .mark (by rw [hmarks]; rfl)
    · obtain ⟨t, hrelease, rfl⟩ := Option.map_eq_some_iff.mp hstep
      exact .mark (by rw [hmarks]; exact (imaging_setWriter _).trans (release_imaging hrelease))
    · rename_i r rest
      cases hstep
      exact .free r rest ⟨outcome, rfl⟩ hwriter ((imaging_setWriter _).trans (imaging_setSurface_image rfl))
  · rename_i c stage hwriter
    exact .mark (destroyContextStep_imaging hwriter hstep)

theorem step_imaging (hstep : step s a = some s') : ImageEffect s a s' := by
  cases a with
  | createSurface r format image =>
      change createSurface s r format image = some s' at hstep
      unfold createSurface at hstep
      split at hstep
      · cases hstep
      · rename_i hunused
        have habsent : s.surfaces r = {} := by simpa using hunused
        cases hstep
        exact .create r format image rfl habsent (imaging_setSurface_image (by rw [habsent]))
  | createContext c entrypoint codec format renderTargets =>
      change nvCreateContext s c entrypoint codec format renderTargets = some s' at hstep
      unfold nvCreateContext at hstep
      split at hstep
      · cases hstep
      · split at hstep <;> cases hstep <;> exact .mark rfl
  | realiseSurface r image =>
      change realiseSurface s r image = some s' at hstep
      unfold realiseSurface at hstep
      split at hstep
      · cases hstep
      · rename_i hfree
        have hnone : (s.surfaces r).backingImage = none ∧
            (s.images image).isExternalBuffer = false := by simpa using hfree
        cases hstep
        exact .realise r image rfl hnone.1 hnone.2 (imaging_setSurface_image rfl)
  | markExported thread r => exact .export thread r rfl (markExported_imaging hstep)
  | workUnsafe =>
      cases hstep
      exact .mark rfl
  | beginPicture c r => exact .mark (nvBeginPicture_imaging hstep)
  | renderPicture c argumentsValid => exact .mark (nvRenderPicture_imaging hstep)
  | endPicture c => exact .mark (nvEndPicture_imaging hstep)
  | call c outcome => exact .mark (callStep_imaging hstep)
  | worker c outcome => exact .mark (workerStep_imaging hstep)
  | destroySurfaces requested =>
      change nvDestroySurfaces s requested = some s' at hstep
      unfold nvDestroySurfaces at hstep
      split at hstep
      · cases hstep
      · split at hstep
        · cases hstep
          refine .mark ?_
          unfold State.imaging removeSurfaces
          congr 1 <;> funext q <;> dsimp only <;> split <;> rfl
        · cases hstep
          exact .mark rfl
  | destroyContext c =>
      change nvDestroyContext s c = some s' at hstep
      unfold nvDestroyContext at hstep
      simp only at hstep
      split at hstep
      · cases hstep
      · split at hstep <;> cases hstep <;> exact .mark rfl
  | destroy outcome => exact destroyStep_imaging hstep
  | syncSurface thread r =>
      change nvSyncSurface s thread r = some s' at hstep
      unfold nvSyncSurface at hstep
      split at hstep
      · cases hstep
      · split at hstep <;> cases hstep <;> exact .mark rfl
  | sync thread =>
      change syncStep s thread = some s' at hstep
      unfold syncStep at hstep
      split at hstep
      · cases hstep
      · split at hstep <;> cases hstep
        exact .mark rfl
      · split at hstep <;> cases hstep
        exact .mark rfl
      · cases hstep
        exact .mark rfl
      · cases hstep

/-- Every step leaves the images as it marks them. -/
theorem ImageEffect.images (heffect : ImageEffect s a s') (i : ImageRef) :
    s'.images i = (s.marked (s.marks a)).images i := by
  have hsame : s.marks a = none → s'.imaging.images = s.imaging.images →
      s'.images i = (s.marked (s.marks a)).images i := by
    intro hnone himages
    rw [hnone]
    exact congrFun himages i
  cases heffect with
  | mark imaging => exact congrFun (congrArg Imaging.images imaging) i
  | create _ _ _ on _ imaging =>
      subst on
      exact hsame rfl (by rw [imaging])
  | realise _ _ on _ _ imaging =>
      subst on
      exact hsame rfl (by rw [imaging])
  | «export» _ _ on imaging =>
      subst on
      exact hsame rfl (by rw [imaging])
  | free _ _ on lifetimeWriter imaging =>
      obtain ⟨outcome, rfl⟩ := on
      exact hsame (by simp [State.marks, lifetimeWriter]) (by rw [imaging])

end Steps

end Driver
end NvidiaVaapi
