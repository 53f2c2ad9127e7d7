import NvidiaVaapi.Driver.Control
import NvidiaVaapi.Driver.ImageSections

/-!
# Clearing lists

`setSurfaceResolving(surface, false)` and `failSurfaceResolve` clear the flag of the
backing image first and that of the surface right after.  In every list of sections that
a failing exit leaves behind, the two sections of a surface stand next to each other, so
that a call that is about to clear a surface's own flag has just cleared the image's.
-/

namespace NvidiaVaapi
namespace Driver

/-- Each image section is followed by a section that clears the surface's own flag. -/
def paired : List ClearSection → Bool
  | [] => true
  | .image r :: section_ :: rest => section_.clears = some r && paired rest
  | _ => false

/-- The call is not half-way between the two flags of a surface, nor in the copy of a
blit. -/
def Phase.whole : Phase → Bool
  | .clearing todo next => paired todo && next.whole
  | .handOverFinish _ => false
  | .blitCopy _ => false
  | _ => true

/-- The image section that goes with the first section is done. -/
def halved : List ClearSection → Bool
  | section_ :: rest => section_.clears.isSome && paired rest
  | [] => true

/-- The list to be cleared is made of pairs, the first of which may be half done. -/
def Phase.pairs : Phase → Bool
  | .clearing todo next => (paired todo || halved todo) && next.whole
  | _ => true

/-- The surface whose own flag the next section of the call on the context clears. -/
def State.settles (s : State) (c : ContextRef) : Option SurfaceRef :=
  match (s.contexts c).phase with
  | .clearing (section_ :: _) _ => section_.clears
  | .handOverFinish _ => (s.contexts c).renderTarget
  | _ => none

/-! ## The lists of the failing exits -/

theorem paired_append {first second : List ClearSection} (hfirst : paired first = true)
    (hsecond : paired second = true) : paired (first ++ second) = true := by
  induction first using paired.induct with
  | case1 => exact hsecond
  | case2 r section_ rest ih =>
      simp only [paired, Bool.and_eq_true] at hfirst
      simp only [List.cons_append, paired, Bool.and_eq_true]
      exact ⟨hfirst.1, ih hfirst.2⟩
  | case3 todo hnil hpair =>
      unfold paired at hfirst
      split at hfirst
      · exact absurd rfl hnil
      · exact absurd rfl (hpair _ _ _)
      · cases hfirst

theorem paired_targetSections (ctx : NVContext) {section_ : SurfaceRef → ClearSection}
    (hclears : ∀ r, (section_ r).clears = some r) :
    paired (ctx.targetSections section_) = true := by
  unfold NVContext.targetSections
  apply paired_append
  · cases ctx.displayTarget with
    | none => rfl
    | some display => simp [paired, hclears]
  · cases ctx.renderTarget with
    | none => rfl
    | some render =>
        simp only
        split
        · rfl
        · simp [paired, hclears]

theorem paired_cancelSections (ctx : NVContext) : paired ctx.cancelSections = true :=
  paired_targetSections ctx fun _ => rfl

theorem paired_finishSections (ctx : NVContext) : paired ctx.finishSections = true :=
  paired_targetSections ctx fun _ => rfl

theorem paired_finishOf (target : Option SurfaceRef) :
    paired (NVContext.finishOf target) = true := by
  cases target <;> simp [NVContext.finishOf, paired]

theorem paired_failOf (target : Option SurfaceRef) (status : VAStatus) :
    paired (NVContext.failOf target status) = true := by
  cases target <;> simp [NVContext.failOf, paired]

theorem whole_after {todo : List ClearSection} {next : Phase} (htodo : paired todo = true)
    (hnext : next.whole = true) : (Phase.after todo next).whole = true := by
  cases todo with
  | nil => exact hnext
  | cons section_ rest => simp [Phase.after, Phase.whole, htodo, hnext]

theorem pairs_of_whole {phase : Phase} (hwhole : phase.whole = true) : phase.pairs = true := by
  cases phase <;> first | rfl | skip
  case clearing todo next =>
    simp only [Phase.whole, Bool.and_eq_true] at hwhole
    simp [Phase.pairs, hwhole.1, hwhole.2]

theorem blitCopy_of_whole {phase : Phase} (hwhole : phase.whole = true) (src : SurfaceRef) :
    phase ≠ .blitCopy src := by
  rintro rfl
  cases hwhole

/-- A call that is not half-way clears no surface's own flag next. -/
theorem settles_of_whole {s : State} {c : ContextRef}
    (hwhole : (s.contexts c).phase.whole = true) : s.settles c = none := by
  unfold State.settles
  split
  · rename_i section_ rest next hphase
    rw [hphase] at hwhole
    simp only [Phase.whole, Bool.and_eq_true] at hwhole
    unfold paired at hwhole
    split at hwhole
    · cases ‹section_ :: rest = []›
    · cases ‹section_ :: rest = _›
      rfl
    · cases hwhole.1
  · rename_i hphase
    rw [hphase] at hwhole
    cases hwhole
  · rfl

/-! ## What a section leaves of the list -/

section Sections

variable {s t s' : State} {c : ContextRef}

theorem whole_setContext {ctx : NVContext} (hwhole : ctx.phase.whole = true) :
    ((s.setContext c ctx).contexts c).phase.whole = true := by
  simpa using hwhole

theorem whole_renderFailure (s : State) (c : ContextRef) (ctx : NVContext)
    {first : List ClearSection} (hfirst : paired first = true) (status : VAStatus) :
    ((renderFailure s c ctx first status).contexts c).phase.whole = true :=
  whole_setContext (whole_after (paired_append hfirst (paired_cancelSections ctx)) rfl)

theorem whole_endFailure (s : State) (c : ContextRef) (ctx : NVContext)
    {first : List ClearSection} (hfirst : paired first = true) (status : VAStatus) :
    ((endFailure s c ctx first status).contexts c).phase.whole = true :=
  whole_setContext (whole_after (paired_append hfirst (paired_cancelSections ctx)) rfl)

theorem whole_beginFailure (s : State) (c : ContextRef) (ctx : NVContext) (status : VAStatus) :
    ((goto s c (beginFailure ctx status)).contexts c).phase.whole = true :=
  whole_setContext (whole_after (paired_cancelSections ctx) rfl)

theorem whole_afterHandler (s : State) (c : ContextRef) (ctx : NVContext) :
    ((afterHandler s c ctx).contexts c).phase.whole = true := by
  unfold afterHandler
  split
  · exact whole_renderFailure s c ctx (paired_finishSections ctx) _
  · split
    · exact whole_renderFailure s c ctx (paired_cancelSections ctx) _
    · exact whole_setContext rfl

theorem whole_goto {phase : Phase} (hwhole : phase.whole = true) :
    ((goto s c phase).contexts c).phase.whole = true :=
  whole_setContext hwhole

theorem beginAssign_whole {r : SurfaceRef} (hstep : beginAssign s c r = some s') :
    (s'.contexts c).phase.whole = true := by
  unfold beginAssign at hstep
  split at hstep
  · cases hstep
    exact whole_beginFailure ..
  · simp only at hstep
    split at hstep
    · cases hstep
      exact whole_goto rfl
    · split at hstep
      · cases hstep
        exact whole_beginFailure ..
      · split at hstep
        · cases hstep
          exact whole_goto rfl
        · split at hstep
          · split at hstep
            · cases hstep
              exact whole_beginFailure ..
            · cases hstep
              exact whole_goto rfl
          · cases hstep
            exact whole_goto rfl

theorem assignScan_whole {r : SurfaceRef} {limit i : Nat} {busyMask : BitVec 32}
    (hstep : assignScan s c r limit i busyMask = some s') :
    (s'.contexts c).phase.whole = true := by
  unfold assignScan at hstep
  simp only at hstep
  split at hstep
  · split at hstep <;> cases hstep <;> exact whole_goto rfl
  · split at hstep
    · cases hstep
      exact whole_goto rfl
    · split at hstep
      · cases hstep
        exact whole_beginFailure ..
      · cases hstep
        exact whole_goto rfl

theorem renderLoop_whole {outcome : Outcome} (hstep : renderLoop s c outcome = some s') :
    (s'.contexts c).phase.whole = true := by
  have hreject : ∀ status, ((rejectBuffer s c status).contexts c).phase.whole = true :=
    fun status => whole_renderFailure s c _ (paired_cancelSections _) status
  unfold renderLoop at hstep
  split at hstep
  · cases hstep
    exact whole_goto rfl
  · cases hstep
    exact hreject _
  · cases hstep
    exact hreject _
  · cases hstep
    exact hreject _
  · cases hstep
    exact hreject _
  · cases hstep
    exact hreject _
  · cases hstep
    exact whole_renderFailure s c _ (paired_cancelSections _) _
  · split at hstep
    · cases hstep
    · simp only at hstep
      split at hstep
      · cases hstep
        exact whole_afterHandler ..
      · cases hstep
        exact whole_setContext rfl
  · cases hstep
    exact whole_afterHandler ..
  · cases hstep

theorem renderLookup_whole {buffer : PictureParameterBuffer}
    {found : List (Option SurfaceRef × Int)} {todo : List (Option SurfaceRef)}
    (hstep : renderLookup s c buffer found todo = some s') :
    (s'.contexts c).phase.whole = true := by
  unfold renderLookup at hstep
  split at hstep
  · cases hstep
    exact whole_goto rfl
  · cases hstep
    exact whole_setContext rfl
  · simp only at hstep
    split at hstep <;> cases hstep <;> exact whole_afterHandler ..

theorem whole_blitFailure (s : State) (c : ContextRef) :
    ((blitFailure s c).contexts c).phase.whole = true :=
  whole_renderFailure s c _ (paired_finishOf _) _

theorem blitLoop_whole {processed : Bool} {outcome : Outcome}
    (hstep : blitLoop s c processed outcome = some s') : (s'.contexts c).phase.whole = true := by
  have hreject : ∀ status, ((rejectPipeline s c status).contexts c).phase.whole = true :=
    fun status => whole_renderFailure s c _ (paired_cancelSections _) status
  unfold blitLoop at hstep
  split at hstep
  · split at hstep
    · cases hstep
      exact whole_goto rfl
    · cases hstep
      exact whole_goto (whole_after (paired_finishOf _) rfl)
  · cases hstep
    exact hreject _
  · cases hstep
    exact hreject _
  · cases hstep
    exact hreject _
  · split at hstep
    · cases hstep
      exact whole_blitFailure s c
    · cases hstep
      exact whole_goto rfl
  · cases hstep

theorem endCreateDecoder_whole {outcome : Outcome}
    (hstep : endCreateDecoder s c outcome = some s') : (s'.contexts c).phase.whole = true := by
  unfold endCreateDecoder at hstep
  simp only at hstep
  split at hstep
  · cases hstep
    exact whole_setContext rfl
  · split at hstep
    · cases hstep
      exact whole_endFailure s c _ (paired_finishSections _) _
    · split at hstep
      · cases hstep
        exact whole_setContext rfl
      · cases hstep
        exact whole_endFailure s c _ (paired_finishSections _) _
      · cases hstep
        exact whole_endFailure s c _ (paired_finishSections _) _
      · cases hstep

theorem endAllocJob_whole {status : VAStatus} {outcome : Outcome}
    (hstep : endAllocJob s c status outcome = some s') : (s'.contexts c).phase.whole = true := by
  unfold endAllocJob at hstep
  split at hstep
  · cases hstep
    exact whole_goto rfl
  · cases hstep
    refine whole_endFailure s c _ (paired_append (paired_failOf _ _) ?_) _
    split
    · rfl
    · exact paired_failOf _ _
  · cases hstep

theorem endPushJob_whole {job : ResolveJob} (hstep : endPushJob s c job = some s') :
    (s'.contexts c).phase.whole = true := by
  unfold endPushJob at hstep
  simp only at hstep
  split at hstep
  · cases hstep
    exact whole_endFailure s c _ (by simp [paired]) _
  · split at hstep <;> cases hstep
    exact whole_setContext rfl

/-- Where a section of a call leaves the call. -/
structure Paired (s : State) (c : ContextRef) (a : Label) (s' : State) : Prop where
  pairs : (s'.contexts c).phase.pairs = true
  settles : ∀ r, s'.settles c = some r → s.marks a = some (r, false)
  blits : ∀ src, (s'.contexts c).phase = .blitCopy src →
    (s.contexts c).phase = .blitWaitImage src ∧
      (s'.contexts c).renderTarget = (s.contexts c).renderTarget

theorem Paired.of_whole {a : Label} (hwhole : (s'.contexts c).phase.whole = true) :
    Paired s c a s' where
  pairs := pairs_of_whole hwhole
  settles := by
    intro r hr
    rw [settles_of_whole hwhole] at hr
    cases hr
  blits := fun src hphase => absurd hphase (blitCopy_of_whole hwhole src)

theorem clearNext_paired {todo : List ClearSection} {next : Phase} {outcome : Outcome}
    (hphase : (s.contexts c).phase = .clearing todo next)
    (hpairs : (s.contexts c).phase.pairs = true)
    (hstep : clearNext s c todo next = some s') : Paired s c (.call c outcome) s' := by
  rw [hphase] at hpairs
  simp only [Phase.pairs, Bool.and_eq_true, Bool.or_eq_true] at hpairs
  obtain ⟨htodo, hnext⟩ := hpairs
  unfold clearNext at hstep
  split at hstep
  · cases hstep
    exact .of_whole (whole_goto hnext)
  · rename_i section_ rest
    cases hstep
    cases section_ with
    | image r =>
        -- the pair's second section comes next
        rcases htodo with htodo | htodo
        · unfold paired at htodo
          split at htodo
          · cases ‹ClearSection.image r :: rest = []›
          · rename_i q second others hrest
            cases hrest
            simp only [Bool.and_eq_true, decide_eq_true_eq] at htodo
            refine ⟨?_, fun q hq => ?_, ?_⟩
            · simp [goto, Phase.after, Phase.pairs, halved, htodo.1, htodo.2, hnext]
            · have hsame : second.clears = some q := by
                simpa [State.settles, goto, Phase.after] using hq
              rw [htodo.1] at hsame
              simpa [State.marks, hphase] using hsame
            · simp [goto, Phase.after]
          · cases htodo
        · cases htodo
    | finish r =>
        rcases htodo with htodo | htodo
        · simp [paired] at htodo
        · simp only [halved, Bool.and_eq_true] at htodo
          exact .of_whole (whole_goto (whole_after htodo.2 hnext))
    | fail r status =>
        rcases htodo with htodo | htodo
        · simp [paired] at htodo
        · simp only [halved, Bool.and_eq_true] at htodo
          exact .of_whole (whole_goto (whole_after htodo.2 hnext))

/-- A section after which the call is about to clear a surface's own flag has just cleared
the image's. -/
theorem callStep_paired {outcome : Outcome} (hpairs : (s.contexts c).phase.pairs = true)
    (hstep : callStep s c outcome = some s') : Paired s c (.call c outcome) s' := by
  unfold callStep at hstep
  cases hphase : (s.contexts c).phase <;> rw [hphase] at hstep <;> simp only at hstep
  case clearing todo next => exact clearNext_paired hphase hpairs hstep
  case handOverFinishImage status =>
    unfold handOverFinishImage at hstep
    split at hstep
    · rename_i htarget
      cases hstep
      refine ⟨by simp [goto, Phase.pairs], fun r hr => ?_, by simp [goto]⟩
      simp [State.settles, goto, htarget] at hr
    · rename_i render htarget
      cases hstep
      refine ⟨by simp [goto, Phase.pairs], fun r hr => ?_, by simp [goto]⟩
      have hsame : render = r := by simpa [State.settles, goto, htarget] using hr
      simp [State.marks, hphase, htarget, hsame]
  case blitWaitImage src =>
    unfold blitWaitImage at hstep
    split at hstep <;> cases hstep
    refine ⟨by simp [goto, Phase.pairs], fun r hr => ?_, fun q hq => ?_⟩
    · simp [State.settles, goto] at hr
    · have hsame : src = q := by simpa [goto] using hq
      exact ⟨hsame ▸ hphase, by simp [goto]⟩
  -- every other section leaves a whole list
  all_goals refine .of_whole ?_
  case idle => cases hstep
  case reset status =>
    cases hstep
    simp [resetPictureBuild, leave, Phase.whole]
  case ret status =>
    cases hstep
    simp [leave, Phase.whole]
  case beginWaitSurface q =>
    unfold beginWaitSurface at hstep
    split at hstep <;> cases hstep
    exact whole_goto rfl
  case beginWaitImage q =>
    unfold beginWaitImage at hstep
    split at hstep <;> cases hstep
    exact whole_goto (by split <;> rfl)
  case beginRelease q =>
    unfold beginRelease at hstep
    split at hstep
    · obtain ⟨t, _, rfl⟩ := Option.map_eq_some_iff.mp hstep
      exact whole_goto rfl
    · cases hstep
      exact whole_goto rfl
  case beginAssign q => exact beginAssign_whole hstep
  case assignScan q limit i busyMask => exact assignScan_whole hstep
  case assignWaitSurface q limit owner =>
    unfold assignWaitSurface at hstep
    split at hstep <;> cases hstep
    exact whole_goto rfl
  case assignWaitImage q limit owner =>
    unfold assignWaitImage at hstep
    split at hstep <;> cases hstep
    exact whole_goto rfl
  case beginStartImage q =>
    cases hstep
    exact whole_goto rfl
  case beginStart q =>
    unfold beginStart at hstep
    simp only at hstep
    split at hstep <;> cases hstep <;> exact whole_setContext rfl
  case beginInit q =>
    cases hstep
    exact whole_setContext rfl
  case renderLoop => exact renderLoop_whole hstep
  case renderLookup buffer todo found => exact renderLookup_whole hstep
  case blitLoop processed => exact blitLoop_whole hstep
  case blitWaitSurface src =>
    unfold blitWaitSurface at hstep
    split at hstep <;> cases hstep
    exact whole_goto rfl
  case blitCopy src =>
    unfold blitCopy at hstep
    split at hstep
    · cases hstep
      exact whole_goto rfl
    · cases hstep
      exact whole_blitFailure s c
    · cases hstep
  case blitRelease src =>
    unfold blitRelease at hstep
    split at hstep
    · cases hstep
      exact whole_goto rfl
    · obtain ⟨t, _, rfl⟩ := Option.map_eq_some_iff.mp hstep
      exact whole_goto rfl
  case blitPublish src =>
    unfold blitPublish at hstep
    split at hstep
    · cases hstep
      exact whole_goto rfl
    · cases hstep
      exact whole_goto (by simp [Phase.whole, paired])
  case endCreateDecoder => exact endCreateDecoder_whole hstep
  case endPushContext =>
    unfold endPushContext at hstep
    split at hstep
    · cases hstep
      exact whole_goto rfl
    · cases hstep
      exact whole_endFailure s c _ (paired_finishOf _) _
    · cases hstep
  case endDecode =>
    unfold endDecode at hstep
    split at hstep <;> cases hstep <;> exact whole_goto rfl
  case endPopContext status =>
    unfold endPopContext at hstep
    split at hstep
    · cases hstep
      exact whole_goto (by split <;> rfl)
    · cases hstep
      exact whole_endFailure s c _ (paired_finishOf _) _
    · cases hstep
  case handOverStartImage status =>
    unfold handOverStartImage at hstep
    split at hstep <;> cases hstep <;> exact whole_goto rfl
  case handOverStart status =>
    unfold handOverStart at hstep
    split at hstep <;> cases hstep <;> exact whole_goto rfl
  case handOverFinish status =>
    unfold handOverFinish at hstep
    split at hstep <;> cases hstep <;> exact whole_goto rfl
  case endAllocJob status => exact endAllocJob_whole hstep
  case endMakeJob status =>
    unfold endMakeJob at hstep
    split at hstep <;> cases hstep
    exact whole_goto rfl
  case endActiveMask job =>
    unfold endActiveMask at hstep
    simp only at hstep
    split at hstep
    · cases hstep
      exact whole_setContext rfl
    · cases hstep
      exact whole_goto rfl
  case endPushJob job => exact endPushJob_whole hstep
  case endShared status =>
    unfold endShared at hstep
    split at hstep
    · cases hstep
      exact whole_goto rfl
    · split at hstep <;> cases hstep <;> exact whole_goto rfl
  case endWaitSurface =>
    unfold endWaitSurface at hstep
    split at hstep
    · cases hstep
      exact whole_goto rfl
    · split at hstep <;> cases hstep
      exact whole_goto rfl
  case endWaitImage =>
    unfold endWaitImage at hstep
    split at hstep
    · cases hstep
      exact whole_goto rfl
    · split at hstep <;> cases hstep
      exact whole_goto rfl
  case endReadStatus =>
    unfold endReadStatus at hstep
    split at hstep <;> cases hstep <;> exact whole_goto rfl

/-! ## Entries of the picture calls -/

theorem nvBeginPicture_whole {r : SurfaceRef} (hwhole : (s.contexts c).phase.whole = true)
    (hstep : nvBeginPicture s c r = some s') : (s'.contexts c).phase.whole = true := by
  unfold nvBeginPicture at hstep
  simp only at hstep
  split at hstep
  · cases hstep
  · split at hstep
    · cases hstep
      exact whole_setContext hwhole
    · split at hstep
      · cases hstep
        exact whole_setContext (whole_after (paired_cancelSections _) rfl)
      · split at hstep
        · cases hstep
          exact whole_setContext (whole_after (paired_cancelSections _) rfl)
        · cases hstep
          exact whole_setContext rfl

theorem nvRenderPicture_whole {argumentsValid : Bool}
    (hwhole : (s.contexts c).phase.whole = true)
    (hstep : nvRenderPicture s c argumentsValid = some s') :
    (s'.contexts c).phase.whole = true := by
  unfold nvRenderPicture at hstep
  simp only at hstep
  split at hstep
  · cases hstep
  · split at hstep
    · cases hstep
      exact whole_setContext hwhole
    · split at hstep
      · cases hstep
        exact whole_renderFailure _ c _ (paired_cancelSections _) _
      · split at hstep
        · cases hstep
          exact whole_renderFailure _ c _ (paired_cancelSections _) _
        · split at hstep <;> cases hstep <;> exact whole_setContext rfl

theorem nvEndPicture_whole (hwhole : (s.contexts c).phase.whole = true)
    (hstep : nvEndPicture s c = some s') : (s'.contexts c).phase.whole = true := by
  unfold nvEndPicture at hstep
  simp only at hstep
  split at hstep
  · cases hstep
  · split at hstep
    · cases hstep
      exact whole_setContext hwhole
    · cases hstep
      exact whole_setContext hwhole
    · cases hstep
      exact whole_setContext (whole_after (paired_cancelSections _) rfl)
    · split at hstep
      · split at hstep
        · cases hstep
          exact whole_setContext (whole_after (paired_failOf _ _) rfl)
        · cases hstep
          exact whole_setContext (whole_after (paired_finishOf _) rfl)
      · split at hstep
        · cases hstep
          exact whole_endFailure _ c _ (paired_failOf _ _) _
        · split at hstep
          · cases hstep
            exact whole_endFailure _ c _ (paired_finishSections _) _
          · split at hstep
            · cases hstep
              exact whole_endFailure _ c _ (paired_finishSections _) _
            · cases hstep
              exact whole_setContext rfl

end Sections

end Driver
end NvidiaVaapi
