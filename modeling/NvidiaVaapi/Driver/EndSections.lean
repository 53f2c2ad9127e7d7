import NvidiaVaapi.Driver.BeginSections
import NvidiaVaapi.Driver.RenderSections

/-!
# The kind of every section of nvEndPicture

Also of the sections that the three calls share, and with them `callStep_effect`
for the section that a call in progress runs next.
-/

namespace NvidiaVaapi
namespace Driver

section Sections

variable {s t s' : State} {c : ContextRef}

theorem targeted_outputTarget {κ : Control} (htargeted : κ.targeted) :
    ∃ r, κ.outputTarget = some r := by
  obtain ⟨r, hr⟩ := Option.isSome_iff_exists.mp htargeted.1
  cases hdisplay : κ.displayTarget with
  | none => exact ⟨r, by simp [Control.outputTarget, hdisplay, hr]⟩
  | some d => exact ⟨d, by simp [Control.outputTarget, hdisplay]⟩

theorem control_afterReset (ctx : NVContext) (todo : List ClearSection) (status : VAStatus) :
    ({ ctx with phase := .after todo (.reset status) } : NVContext).control =
      { ctx.control with
        pictureState := ctx.control.pictureState, stage := .after todo .resetting } := by
  simp [NVContext.control, Phase.stage]

theorem nvEndPicture_effect (hok : (s.contexts c).control.okAt (s.contexts c).control.stage)
    (hstep : nvEndPicture s c = some s') : CallEffect c s s' := by
  unfold nvEndPicture at hstep
  simp only at hstep
  split at hstep
  · cases hstep
  · rename_i hadmitted
    have hstage := stage_of_admitted hadmitted
    split at hstep
    · cases hstep
      exact SameView.effect (.setContext rfl) hok
    · cases hstep
      exact SameView.effect (.setContext rfl) hok
    · rename_i hfailed
      cases hstep
      have hcontrol := control_afterReset (s.contexts c) (s.contexts c).cancelSections
        (s.contexts c).pictureFailure
      refine (SameView.lifetimeReadLock s c).replace (opened_of_admitted hadmitted _) ?_ ?_
      · rw [hcontrol]
        exact Advance.clearing (targeted_of_between hok hstage (.inr hfailed))
          (mem_clearedBy_cancelSections _) (.inr hfailed) (fun _ => .inl hfailed)
          (.inl ⟨rfl, rfl⟩)
      · intro _
        exact .inl (.inl hfailed)
    · rename_i hbuilding
      have hunderway := underway_of_between hok hstage hbuilding
      split at hstep
      · rename_i hproc
        have hproc : (s.contexts c).control.entrypoint = .videoProc := hproc
        have hclear : ∀ todo status, (∀ r, r ∈ clearedBy todo ↔
            (s.contexts c).control.renderTarget = some r) →
            CallEffect c s (enter s c (s.contexts c) (.after todo (.reset status))) := by
          intro todo status htodo
          have hcontrol := control_afterReset (s.contexts c) todo status
          refine (SameView.lifetimeReadLock s c).replace (opened_of_admitted hadmitted _) ?_ ?_
          · rw [hcontrol]
            refine Advance.clearing hunderway.targeted ?_ (.inl hbuilding)
              (fun h => .inr (hunderway.failing h)) (.inl ⟨rfl, rfl⟩)
            intro r
            have hdisplay : (s.contexts c).control.displayTarget = none := by
              simpa [hproc] using hunderway.targeted.2
            rw [htodo r]
            simp [Control.target, hdisplay]
          · rw [hcontrol]
            rintro (hfailed | ⟨hvld, _⟩)
            · exact .inl (.inl hfailed)
            · change (s.contexts c).control.entrypoint = .vld at hvld
              simp [hproc] at hvld
        split at hstep
        · cases hstep
          exact hclear _ _ fun r => mem_clearedBy_failOf _ _ r
        · cases hstep
          exact hclear _ _ fun r => mem_clearedBy_finishOf _ r
      · rename_i hentry
        have hvld := vld_of_ne_videoProc hentry
        have hfail : ∀ ctx first status, ctx.control = (s.contexts c).control →
            (∀ r ∈ clearedBy first, (s.contexts c).control.target r) →
            CallEffect c s (endFailure (lifetimeReadLock s c) c ctx first status) :=
          fun ctx first status hctx =>
            endFailure_effect (.lifetimeReadLock s c) (opened_of_admitted hadmitted) hctx
              hunderway hvld
        split at hstep
        · cases hstep
          refine hfail _ _ _ rfl ?_
          intro r hr
          exact .inl ((mem_clearedBy_failOf _ _ r).mp hr)
        · split at hstep
          · cases hstep
            exact hfail _ _ _ rfl (mem_clearedBy_finishSections_target rfl)
          · split at hstep
            · cases hstep
              exact hfail _ _ _ rfl (mem_clearedBy_finishSections_target rfl)
            · cases hstep
              refine (SameView.lifetimeReadLock s c).replace (opened_of_admitted hadmitted _)
                ?_ ?_
              · exact Advance.building hok hbuilding (.inl hstage) (.inr (.inl ⟨rfl, hvld⟩))
              · rintro (hfailed | ⟨_, todo, next, hclearing⟩)
                · exact .inl (.inl hfailed)
                · cases hclearing

theorem endCreateDecoder_effect {outcome : Outcome}
    (hok : (s.contexts c).control.okAt (s.contexts c).control.stage)
    (hphase : (s.contexts c).phase = .endCreateDecoder)
    (hstep : endCreateDecoder s c outcome = some s') : CallEffect c s s' := by
  have hstage : (s.contexts c).control.stage = .decoding := by
    simp [NVContext.control, hphase, Phase.stage]
  obtain ⟨hunderway, hvld⟩ := underway_of_decoding hok hstage
  have hfail : ∀ ctx status, ctx.control = (s.contexts c).control →
      CallEffect c s (endFailure s c ctx ctx.finishSections status) := fun ctx status hctx =>
    endFailure_effect (.refl s) (fun _ => .inl (by simp [hstage])) hctx hunderway hvld
      (mem_clearedBy_finishSections_target hctx)
  unfold endCreateDecoder at hstep
  simp only at hstep
  split at hstep
  · cases hstep
    refine (SameView.refl s).replaceSame ?_ hok
    simp [NVContext.control, NVContext.dropBitstream, Phase.stage, hphase]
  · split at hstep
    · cases hstep
      exact hfail _ _ rfl
    · split at hstep
      · cases hstep
        refine (SameView.refl s).replaceSame ?_ hok
        simp [NVContext.control, NVContext.dropBitstream, Phase.stage, hphase]
      · cases hstep
        exact hfail _ _ rfl
      · cases hstep
        exact hfail _ _ rfl
      · cases hstep

theorem submissionContextFailure_effect (hunderway : (s.contexts c).control.Underway)
    (hvld : (s.contexts c).control.entrypoint = .vld)
    (hopen : (s.contexts c).control.stage ≠ .between) :
    CallEffect c s (submissionContextFailure s c) := by
  refine endFailure_effect (.refl s) (fun _ => .inl hopen) rfl hunderway hvld ?_
  intro r hr
  have houtput : (s.contexts c).control.outputTarget = some r :=
    (mem_clearedBy_finishOf _ r).mp hr
  exact Control.target_of_outputTarget houtput

theorem endPushContext_effect {outcome : Outcome}
    (hok : (s.contexts c).control.okAt (s.contexts c).control.stage)
    (hphase : (s.contexts c).phase = .endPushContext)
    (hstep : endPushContext s c outcome = some s') : CallEffect c s s' := by
  have hstage : (s.contexts c).control.stage = .decoding := by
    simp [NVContext.control, hphase, Phase.stage]
  obtain ⟨hunderway, hvld⟩ := underway_of_decoding hok hstage
  unfold endPushContext at hstep
  split at hstep
  · cases hstep
    exact ((SameView.refl s).goto (by rw [hphase]; rfl)).effect hok
  · cases hstep
    exact submissionContextFailure_effect hunderway hvld (by simp [hstage])
  · cases hstep

theorem endDecode_effect {outcome : Outcome}
    (hok : (s.contexts c).control.okAt (s.contexts c).control.stage)
    (hphase : (s.contexts c).phase = .endDecode)
    (hstep : endDecode s c outcome = some s') : CallEffect c s s' := by
  have hstage : (s.contexts c).control.stage = .decoding := by
    simp [NVContext.control, hphase, Phase.stage]
  have hopen : (s.contexts c).control.stage ≠ .between := by simp [hstage]
  obtain ⟨hunderway, _⟩ := underway_of_decoding hok hstage
  unfold endDecode at hstep
  split at hstep
  · cases hstep
    exact (SameView.refl s).gotoEffect hopen (Advance.toDecoded hok hstage) (by simp)
  · cases hstep
    refine (SameView.refl s).replaceFailed (.inl hopen) (.inl hopen)
      (Advance.toDecoded hok hstage) ?_ hunderway.building
    exact .inr (.inr ⟨.decodingError, (by simp), .inl rfl⟩)
  · cases hstep

theorem endPopContext_effect {status : VAStatus} {outcome : Outcome}
    (hok : (s.contexts c).control.okAt (s.contexts c).control.stage)
    (hphase : (s.contexts c).phase = .endPopContext status)
    (hstep : endPopContext s c status outcome = some s') : CallEffect c s s' := by
  have hstage : (s.contexts c).control.stage = .decoded status := by
    simp [NVContext.control, hphase, Phase.stage]
  have hopen : (s.contexts c).control.stage ≠ .between := by simp [hstage]
  have hokAt := hok
  rw [hstage] at hokAt
  unfold endPopContext at hstep
  split at hstep
  · cases hstep
    by_cases houtput : (s.contexts c).outputTarget = (s.contexts c).renderTarget
    · rw [if_pos houtput]
      exact (SameView.refl s).gotoEffect hopen (Advance.toMaking hok hstage houtput) (by simp)
    · rw [if_neg houtput]
      exact (SameView.refl s).gotoEffect hopen (Advance.toRedirecting hok hstage houtput) (by simp)
  · cases hstep
    exact submissionContextFailure_effect
      (Control.underway hok hokAt.1 hokAt.2.2 (by simp [hstage])) hokAt.2.1 hopen
  · cases hstep

/-! ## The film-grain hand-over -/

theorem targeted_of_redirecting {started : Bool} {status : VAStatus}
    (hok : (s.contexts c).control.okAt (s.contexts c).control.stage)
    (hstage : (s.contexts c).control.stage = .redirecting started status) :
    (s.contexts c).control.targeted := by
  rw [hstage] at hok
  exact hok.2.2.1

theorem handOverStartImage_effect {status : VAStatus}
    (hok : (s.contexts c).control.okAt (s.contexts c).control.stage)
    (hphase : (s.contexts c).phase = .handOverStartImage status)
    (hstep : handOverStartImage s c status = some s') : CallEffect c s s' := by
  unfold handOverStartImage at hstep
  split at hstep
  · cases hstep
    exact ((SameView.refl s).goto (by rw [hphase]; rfl)).effect hok
  · cases hstep
    exact ((SameView.imageSection s _ true).goto (by rw [hphase]; rfl)).effect hok

theorem handOverStart_effect {status : VAStatus}
    (hok : (s.contexts c).control.okAt (s.contexts c).control.stage)
    (hphase : (s.contexts c).phase = .handOverStart status)
    (hstep : handOverStart s c status = some s') : CallEffect c s s' := by
  have hstage : (s.contexts c).control.stage = .redirecting false status := by
    simp [NVContext.control, hphase, Phase.stage]
  obtain ⟨r, hr⟩ := targeted_outputTarget (targeted_of_redirecting hok hstage)
  have houtput : (s.contexts c).outputTarget = some r := hr
  simp only [handOverStart, houtput, Option.some.injEq] at hstep
  subst hstep
  refine .redirect r (surfaceFrame rfl (by simp [hstage]) rfl ?_) (surface_others _ _)
    (by simp [goto]) status hstage hr (by simp [goto, NVContext.control, Phase.stage]) hphase
  rintro (hfailed | ⟨_, todo, next, hclearing⟩)
  · exact .inl hfailed
  · cases hclearing

theorem handOverFinishImage_effect {status : VAStatus}
    (hok : (s.contexts c).control.okAt (s.contexts c).control.stage)
    (hphase : (s.contexts c).phase = .handOverFinishImage status)
    (hstep : handOverFinishImage s c status = some s') : CallEffect c s s' := by
  unfold handOverFinishImage at hstep
  split at hstep
  · cases hstep
    exact ((SameView.refl s).goto (by rw [hphase]; rfl)).effect hok
  · cases hstep
    exact ((SameView.imageSection s _ false).goto (by rw [hphase]; rfl)).effect hok

theorem handOverFinish_effect {status : VAStatus}
    (hok : (s.contexts c).control.okAt (s.contexts c).control.stage)
    (hphase : (s.contexts c).phase = .handOverFinish status)
    (hstep : handOverFinish s c status = some s') : CallEffect c s s' := by
  have hstage : (s.contexts c).control.stage = .redirecting true status := by
    simp [NVContext.control, hphase, Phase.stage]
  obtain ⟨r, hr⟩ := Option.isSome_iff_exists.mp (targeted_of_redirecting hok hstage).1
  have hrender : (s.contexts c).renderTarget = some r := hr
  simp only [handOverFinish, hrender, Option.some.injEq] at hstep
  subst hstep
  refine .handOver r (surfaceFrame rfl (by simp [hstage]) rfl ?_) (surface_others _ _)
    (by simp [goto]) status hphase hr (by simp [goto, NVContext.control, Phase.stage]) rfl
  rintro (hfailed | ⟨_, todo, next, hclearing⟩)
  · exact .inl hfailed
  · cases hclearing

/-! ## From the submission to the push -/

theorem endAllocJob_effect {status : VAStatus} {outcome : Outcome}
    (hok : (s.contexts c).control.okAt (s.contexts c).control.stage)
    (hphase : (s.contexts c).phase = .endAllocJob status)
    (hstep : endAllocJob s c status outcome = some s') : CallEffect c s s' := by
  have hstage : (s.contexts c).control.stage = .making status := by
    simp [NVContext.control, hphase, Phase.stage]
  have hokAt := hok
  rw [hstage] at hokAt
  unfold endAllocJob at hstep
  split at hstep
  · cases hstep
    exact ((SameView.refl s).goto (by rw [hphase]; rfl)).effect hok
  · cases hstep
    refine endFailure_effect (.refl s) (fun _ => .inl (by simp [hstage])) rfl
      (Control.underway hok hokAt.1 hokAt.2.2 (by simp [hstage])) hokAt.2.1 ?_
    intro r hr
    rw [clearedBy_append, List.mem_append, mem_clearedBy_failOf] at hr
    rcases hr with houtput | hrender
    · exact Control.target_of_outputTarget houtput
    · split at hrender
      · simp at hrender
      · exact .inl ((mem_clearedBy_failOf _ _ r).mp hrender)
  · cases hstep

theorem endMakeJob_effect {status : VAStatus}
    (hphase : (s.contexts c).phase = .endMakeJob status)
    (hstep : endMakeJob s c status = some s') : CallEffect c s s' := by
  have hstage : (s.contexts c).control.stage = .making status := by
    simp [NVContext.control, hphase, Phase.stage]
  unfold endMakeJob at hstep
  split at hstep
  · cases hstep
  · rename_i r houtput
    cases hstep
    refine .make r status (surfaceFrame rfl (by simp [hstage]) rfl ?_) (surface_others _ _)
      (by simp [goto, NVSurface.flags]) hphase houtput
      (by simp [goto, NVContext.control, Phase.stage])
    rintro (hfailed | ⟨_, todo, next, hclearing⟩)
    · exact .inl hfailed
    · cases hclearing

theorem endActiveMask_effect {job : ResolveJob}
    (hok : (s.contexts c).control.okAt (s.contexts c).control.stage)
    (hphase : (s.contexts c).phase = .endActiveMask job)
    (hstep : endActiveMask s c job = some s') : CallEffect c s s' := by
  unfold endActiveMask at hstep
  simp only at hstep
  split at hstep
  · cases hstep
    refine (SameView.refl s).replaceSame ?_ hok
    simp [NVContext.control, Phase.stage, hphase]
  · cases hstep
    exact ((SameView.refl s).goto (by rw [hphase]; rfl)).effect hok

theorem endPushJob_effect {job : ResolveJob}
    (hok : (s.contexts c).control.okAt (s.contexts c).control.stage)
    (hphase : (s.contexts c).phase = .endPushJob job)
    (hstep : endPushJob s c job = some s') : CallEffect c s s' := by
  have hstage : (s.contexts c).control.stage = .submitting job := by
    simp [NVContext.control, hphase, Phase.stage]
  have hopen : (s.contexts c).control.stage ≠ .between := by simp [hstage]
  have hokAt := hok
  rw [hstage] at hokAt
  obtain ⟨hbuilding, hvld, htargeted, houtput, _⟩ := hokAt
  unfold endPushJob at hstep
  simp only at hstep
  split at hstep
  · cases hstep
    refine endFailure_effect (.refl s) (fun _ => .inl hopen) rfl
      (Control.underway hok hbuilding htargeted (by simp [hstage])) hvld ?_
    intro r hr
    have hsurface : job.surface = r := by simpa using hr
    exact hsurface ▸ Control.target_of_outputTarget houtput
  · split at hstep
    · cases hstep
    · cases hstep
      have hcontrol : ((s.setContext c
          { s.contexts c with
            resolveQueue :=
              { (s.contexts c).resolveQueue with
                items := (s.contexts c).resolveQueue.items ++ [job] }
            pictureState := .submitted
            phase := .endShared job.decodeStatus }).contexts c).control =
          { (s.contexts c).control with
            resolveQueue :=
              { (s.contexts c).resolveQueue with
                items := (s.contexts c).resolveQueue.items ++ [job] }
            pictureState := .submitted
            stage := .submitted } := by
        simp [NVContext.control, Phase.stage]
      refine .push job ((SameView.refl s).replaceFrame (.inl hopen) ?_) (fun _ => rfl) hstage
        hcontrol
      refine FailureRecorded.step (by rw [hcontrol]) (fun _ hp => hp) ?_
      rw [hcontrol]
      rintro (hfailed | ⟨_, todo, next, hclearing⟩)
      · cases hfailed
      · cases hclearing

/-- The submitted picture only waits for its own output and returns. -/
theorem endSubmitted_effect {phase : Phase}
    (hok : (s.contexts c).control.okAt (s.contexts c).control.stage)
    (hstage : (s.contexts c).control.stage = .submitted)
    (hphase : phase.stage = .submitted ∨ phase.stage = .resetting) :
    CallEffect c s (goto s c phase) := by
  rcases hphase with hphase | hphase
  · refine ((SameView.refl s).goto ?_).effect hok
    exact hphase.trans hstage.symm
  · refine (SameView.refl s).gotoEffect (by simp [hstage]) ?_ ?_
    · rw [hphase]
      exact Advance.toResetting hok (.inr hstage)
    · rw [hphase]
      nofun

theorem endShared_effect {status : VAStatus}
    (hok : (s.contexts c).control.okAt (s.contexts c).control.stage)
    (hphase : (s.contexts c).phase = .endShared status)
    (hstep : endShared s c status = some s') : CallEffect c s s' := by
  have hstage : (s.contexts c).control.stage = .submitted := by
    simp [NVContext.control, hphase, Phase.stage]
  unfold endShared at hstep
  split at hstep
  · cases hstep
    exact endSubmitted_effect hok hstage (.inr rfl)
  · split at hstep
    · cases hstep
      exact endSubmitted_effect hok hstage (.inl rfl)
    · cases hstep
      exact endSubmitted_effect hok hstage (.inr rfl)

theorem endWaitSurface_effect
    (hok : (s.contexts c).control.okAt (s.contexts c).control.stage)
    (hphase : (s.contexts c).phase = .endWaitSurface)
    (hstep : endWaitSurface s c = some s') : CallEffect c s s' := by
  have hstage : (s.contexts c).control.stage = .submitted := by
    simp [NVContext.control, hphase, Phase.stage]
  unfold endWaitSurface at hstep
  split at hstep
  · cases hstep
    exact endSubmitted_effect hok hstage (.inl rfl)
  · split at hstep
    · cases hstep
      exact endSubmitted_effect hok hstage (.inl rfl)
    · cases hstep

theorem endWaitImage_effect
    (hok : (s.contexts c).control.okAt (s.contexts c).control.stage)
    (hphase : (s.contexts c).phase = .endWaitImage)
    (hstep : endWaitImage s c = some s') : CallEffect c s s' := by
  have hstage : (s.contexts c).control.stage = .submitted := by
    simp [NVContext.control, hphase, Phase.stage]
  unfold endWaitImage at hstep
  split at hstep
  · cases hstep
    exact endSubmitted_effect hok hstage (.inl rfl)
  · split at hstep
    · cases hstep
      exact endSubmitted_effect hok hstage (.inl rfl)
    · cases hstep

theorem endReadStatus_effect
    (hok : (s.contexts c).control.okAt (s.contexts c).control.stage)
    (hphase : (s.contexts c).phase = .endReadStatus)
    (hstep : endReadStatus s c = some s') : CallEffect c s s' := by
  have hstage : (s.contexts c).control.stage = .submitted := by
    simp [NVContext.control, hphase, Phase.stage]
  unfold endReadStatus at hstep
  split at hstep
  · cases hstep
    exact endSubmitted_effect hok hstage (.inr rfl)
  · cases hstep
    exact endSubmitted_effect hok hstage (.inr rfl)

/-! ## Sections shared by the three calls -/

theorem clearNext_effect {todo : List ClearSection} {next : Phase}
    (hok : (s.contexts c).control.okAt (s.contexts c).control.stage)
    (hphase : (s.contexts c).phase = .clearing todo next)
    (hstep : clearNext s c todo next = some s') : CallEffect c s s' := by
  have hstage : (s.contexts c).control.stage = .clearing todo next.stage := by
    simp [NVContext.control, hphase, Phase.stage]
  have hopen : (s.contexts c).control.stage ≠ .between := by simp [hstage]
  unfold clearNext at hstep
  cases todo with
  | nil =>
      cases hstep
      refine (SameView.refl s).gotoEffect hopen (Advance.skip hok hstage) ?_
      intro todo' next' hclearing
      rw [hstage] at hok
      obtain ⟨_, _, hnext⟩ := hok
      rw [hclearing] at hnext
      exact hnext
  | cons section_ rest =>
      cases hstep
      have hcontrol : ((goto (section_.run s) c (.after rest next)).contexts c).control =
          { (s.contexts c).control with stage := .after rest next.stage } := by
        simp [goto, NVContext.control]
      refine .clear section_ rest next.stage ?_ (fun _ => rfl) hstage hcontrol
        (section_.run_failed s)
      refine ⟨?_, section_.run_life s, section_.run_lifetimeWriter s,
        fun id hid => .inl ((section_.run_lifetimeReaders s).symm ▸ hid), .inl hopen,
        section_.run_syncs s, .inl (section_.run_failed s), ?_⟩
      · intro d hd
        simp [goto, hd]
      · refine FailureRecorded.step (by rw [hcontrol]) ?_ ?_
        · intro p hp
          exact (section_.run_failed s).symm ▸ hp
        · rw [hcontrol]
          rintro (hfailed | ⟨hvld, _⟩)
          · exact .inl (.inl hfailed)
          · exact .inl (.inr ⟨hvld, _, _, hstage⟩)

/-- The frame of a call that returns. -/
theorem leaveFrame {ctx : NVContext} {status : VAStatus}
    (hrecorded : FailureRecorded s c → FailureRecorded (leave s c ctx status) c) :
    CallFrame c s (leave s c ctx status) where
  control := by
    intro d hd
    simp [leave, hd]
  life := fun _ => rfl
  lifetimeWriter := rfl
  readers := by
    intro id hid
    by_cases hown : id = .context c
    · exact .inr ⟨hown, by simp [leave, NVContext.control, Phase.stage]⟩
    · exact .inl (List.mem_filter.mpr ⟨hid, by simpa using hown⟩)
  opened := .inr (.inl (by simp [leave, NVContext.control, Phase.stage]))
  syncs := rfl
  failed := .inl rfl
  recorded := hrecorded

theorem resetPictureBuild_effect {status : VAStatus}
    (hphase : (s.contexts c).phase = .reset status) :
    CallEffect c s (resetPictureBuild s c status) := by
  have hstage : (s.contexts c).control.stage = .resetting := by
    simp [NVContext.control, hphase, Phase.stage]
  have hcontrol : ((resetPictureBuild s c status).contexts c).control =
      { (s.contexts c).control with
        renderTarget := none, displayTarget := none, pictureState := .idle,
        stage := .between } := by
    simp [resetPictureBuild, leave, NVContext.control, Phase.stage]
  refine .advance (leaveFrame ?_) (fun _ => rfl) (hcontrol ▸ Advance.drop hstage)
  refine FailureRecorded.step (by rw [← resetPictureBuild, hcontrol]) (fun _ hp => hp) ?_
  rw [← resetPictureBuild, hcontrol]
  rintro (hfailed | ⟨_, todo, next, hclearing⟩)
  · cases hfailed
  · cases hclearing

theorem ret_effect {status : VAStatus}
    (hok : (s.contexts c).control.okAt (s.contexts c).control.stage)
    (hphase : (s.contexts c).phase = .ret status) :
    CallEffect c s (leave s c (s.contexts c) status) := by
  have hcontrol : ((leave s c (s.contexts c) status).contexts c).control =
      (s.contexts c).control := by
    simp [leave, NVContext.control, Phase.stage, hphase]
  refine .advance (leaveFrame ?_) (fun _ => rfl) ?_
  · exact FailureRecorded.step (by rw [hcontrol]) (fun _ hp => hp) (fun h => .inl (hcontrol ▸ h))
  · rw [hcontrol]
    exact .refl hok

/-- Every section of a call in progress has one of the kinds. -/
theorem callStep_effect {outcome : Outcome}
    (hok : (s.contexts c).control.okAt (s.contexts c).control.stage)
    (hstep : callStep s c outcome = some s') : CallEffect c s s' := by
  unfold callStep at hstep
  split at hstep
  · cases hstep
  · exact clearNext_effect hok ‹_› hstep
  · cases hstep
    exact resetPictureBuild_effect ‹_›
  · cases hstep
    exact ret_effect hok ‹_›
  · exact beginWaitSurface_effect ‹_› hstep
  · exact beginWaitImage_effect hok ‹_› hstep
  · exact beginRelease_effect hok ‹_› hstep
  · exact beginAssign_effect hok ‹_› hstep
  · exact assignScan_effect hok ‹_› hstep
  · exact assignWaitSurface_effect hok ‹_› hstep
  · exact assignWaitImage_effect hok ‹_› hstep
  · exact beginStartImage_effect hok ‹_› hstep
  · exact beginStart_effect ‹_› hstep
  · exact beginInit_effect hok ‹_› hstep
  · exact renderLoop_effect hok ‹_› hstep
  · exact renderLookup_effect hok ‹_› hstep
  · exact blitLoop_effect hok ‹_› hstep
  · exact blitWaitSurface_effect hok ‹_› hstep
  · exact blitWaitImage_effect hok ‹_› hstep
  · exact blitCopy_effect hok ‹_› hstep
  · exact blitRelease_effect hok ‹_› hstep
  · exact blitPublish_effect hok ‹_› hstep
  · exact endCreateDecoder_effect hok ‹_› hstep
  · exact endPushContext_effect hok ‹_› hstep
  · exact endDecode_effect hok ‹_› hstep
  · exact endPopContext_effect hok ‹_› hstep
  · exact handOverStartImage_effect hok ‹_› hstep
  · exact handOverStart_effect hok ‹_› hstep
  · exact handOverFinishImage_effect hok ‹_› hstep
  · exact handOverFinish_effect hok ‹_› hstep
  · exact endAllocJob_effect hok ‹_› hstep
  · exact endMakeJob_effect ‹_› hstep
  · exact endActiveMask_effect hok ‹_› hstep
  · exact endPushJob_effect hok ‹_› hstep
  · exact endShared_effect hok ‹_› hstep
  · exact endWaitSurface_effect hok ‹_› hstep
  · exact endWaitImage_effect hok ‹_› hstep
  · exact endReadStatus_effect hok ‹_› hstep

end Sections

end Driver
end NvidiaVaapi
