import NvidiaVaapi.Driver.CallMoves

/-!
# The kind of every section of nvRenderPicture
-/

namespace NvidiaVaapi
namespace Driver

section Sections

variable {s t s' : State} {c : ContextRef}

theorem underway_of_between (hok : (s.contexts c).control.okAt (s.contexts c).control.stage)
    (hstage : (s.contexts c).control.stage = .between)
    (hbuilding : (s.contexts c).control.pictureState = .building) :
    (s.contexts c).control.Underway :=
  Control.underway hok hbuilding (targeted_of_between hok hstage (.inl hbuilding))
    (by simp [hstage])

theorem underway_of_decoding (hok : (s.contexts c).control.okAt (s.contexts c).control.stage)
    (hstage : (s.contexts c).control.stage = .decoding) :
    (s.contexts c).control.Underway ∧ (s.contexts c).control.entrypoint = .vld := by
  have hokAt := hok
  rw [hstage] at hokAt
  exact ⟨Control.underway hok hokAt.1 hokAt.2.2 (by simp [hstage]), hokAt.2.1⟩

theorem underway_of_blitting (hok : (s.contexts c).control.okAt (s.contexts c).control.stage)
    (hstage : (s.contexts c).control.stage = .blitting) :
    (s.contexts c).control.Underway ∧ (s.contexts c).control.entrypoint = .videoProc := by
  have hokAt := hok
  rw [hstage] at hokAt
  exact ⟨Control.underway hok hokAt.1 hokAt.2.2 (by simp [hstage]), hokAt.2.1⟩

theorem nvRenderPicture_effect {argumentsValid : Bool}
    (hok : (s.contexts c).control.okAt (s.contexts c).control.stage)
    (hstep : nvRenderPicture s c argumentsValid = some s') : CallEffect c s s' := by
  unfold nvRenderPicture at hstep
  simp only at hstep
  split at hstep
  · cases hstep
  · rename_i hadmitted
    have hstage := stage_of_admitted hadmitted
    split at hstep
    · cases hstep
      exact SameView.effect (.setContext rfl) hok
    · rename_i hbuilding
      have hbuilding : (s.contexts c).control.pictureState = .building := by
        simpa [NVContext.control] using hbuilding
      have hunderway := underway_of_between hok hstage hbuilding
      have hfail : ∀ status, CallEffect c s (renderFailure (lifetimeReadLock s c) c
          (s.contexts c) (s.contexts c).cancelSections status) := fun status =>
        renderFailure_effect (.lifetimeReadLock s c) (opened_of_admitted hadmitted) rfl hunderway
          (mem_clearedBy_cancelSections_target rfl)
      split at hstep
      · cases hstep
        exact hfail _
      · split at hstep
        · cases hstep
          exact hfail _
        · split at hstep
          · rename_i hproc
            cases hstep
            refine (SameView.lifetimeReadLock s c).replace (opened_of_admitted hadmitted _) ?_ ?_
            · exact Advance.building hok hbuilding (.inl hstage) (.inr (.inr ⟨rfl, hproc⟩))
            · rintro (hfailed | ⟨_, todo, next, hclearing⟩)
              · exact .inl (.inl hfailed)
              · cases hclearing
          · rename_i hvld
            cases hstep
            refine (SameView.lifetimeReadLock s c).replace (opened_of_admitted hadmitted _) ?_ ?_
            · exact Advance.building hok hbuilding (.inl hstage)
                (.inr (.inl ⟨rfl, vld_of_ne_videoProc hvld⟩))
            · rintro (hfailed | ⟨_, todo, next, hclearing⟩)
              · exact .inl (.inl hfailed)
              · cases hclearing

/-! ## The decode loop -/

theorem SameView.storeProgressiveFrame (s : State) (ctx : NVContext)
    (buffer : PictureParameterBuffer) : SameView s (storeProgressiveFrame s ctx buffer) := by
  unfold Driver.storeProgressiveFrame
  split
  · exact .refl s
  · split
    · exact SameView.setSurface rfl rfl
    · exact .refl s

/-- The checks after a handler: back to the loop, or a failing exit. -/
theorem afterHandler_effect {ctx : NVContext} (hview : SameView s t)
    (hctx : ctx.control = (s.contexts c).control)
    (hok : (s.contexts c).control.okAt (s.contexts c).control.stage)
    (hstage : (s.contexts c).control.stage = .decoding) :
    CallEffect c s (afterHandler t c ctx) := by
  obtain ⟨hunderway, _⟩ := underway_of_decoding hok hstage
  have hopened : ∀ stage, Opened s t c stage := fun _ => .inl (by simp [hstage])
  unfold afterHandler
  split
  · exact renderFailure_effect hview hopened hctx hunderway
      (mem_clearedBy_finishSections_target hctx)
  · split
    · exact renderFailure_effect hview hopened hctx hunderway
        (mem_clearedBy_cancelSections_target hctx)
    · refine hview.replaceSame ?_ hok
      have hphase : ctx.phase.stage = .decoding := (congrArg Control.stage hctx).trans hstage
      rw [← hctx]
      simp [NVContext.control, Phase.stage, hphase]

theorem renderLoop_effect {outcome : Outcome}
    (hok : (s.contexts c).control.okAt (s.contexts c).control.stage)
    (hphase : (s.contexts c).phase = .renderLoop)
    (hstep : renderLoop s c outcome = some s') : CallEffect c s s' := by
  have hstage : (s.contexts c).control.stage = .decoding := by
    simp [NVContext.control, hphase, Phase.stage]
  have hopen : (s.contexts c).control.stage ≠ .between := by simp [hstage]
  obtain ⟨hunderway, _⟩ := underway_of_decoding hok hstage
  have hreject : ∀ status, CallEffect c s (rejectBuffer s c status) := fun status =>
    renderFailure_effect (.refl s) (fun _ => .inl hopen) rfl hunderway
      (mem_clearedBy_cancelSections_target rfl)
  unfold renderLoop at hstep
  split at hstep
  · cases hstep
    exact (SameView.refl s).gotoEffect hopen
      (Advance.building hok hunderway.building (.inr (.inl hstage)) (.inl rfl)) (by simp)
  · cases hstep; exact hreject _
  · cases hstep; exact hreject _
  · cases hstep; exact hreject _
  · cases hstep; exact hreject _
  · cases hstep; exact hreject _
  · cases hstep
    exact renderFailure_effect (.refl s) (fun _ => .inl hopen) rfl hunderway
      (mem_clearedBy_cancelSections_target rfl)
  · rename_i buffer
    split at hstep
    · cases hstep
    · simp only at hstep
      have hview := SameView.storeProgressiveFrame s (startPictureParameter (s.contexts c) buffer)
        buffer
      split at hstep
      · cases hstep
        exact afterHandler_effect hview rfl hok hstage
      · cases hstep
        refine hview.replaceSame ?_ hok
        simp [startPictureParameter, NVContext.control, Phase.stage, hphase]
  · cases hstep
    exact afterHandler_effect (.refl s) rfl hok hstage
  · cases hstep

theorem noteReference_control (ctx : NVContext) (pictureIdx : Int) :
    (noteReference ctx pictureIdx).control = ctx.control := by
  unfold noteReference
  split <;> rfl

/-- The film-grain case at the end of `copyAV1PicParam`: the display target moves
and the checks after the handler follow. -/
theorem take_effect {buffer : PictureParameterBuffer} {found : List (Option SurfaceRef × Int)}
    {r : SurfaceRef} {ctx : NVContext}
    (hok : (s.contexts c).control.okAt (s.contexts c).control.stage)
    (hphase : (s.contexts c).phase = .renderLookup buffer [] found)
    (hav1 : (s.contexts c).cudaCodec = .av1)
    (hdisplay : filmGrainDisplay s (s.contexts c) buffer = some r)
    (hctx : ctx.control = { (s.contexts c).control with displayTarget := some r }) :
    CallEffect c s (afterHandler s c ctx) := by
  have hstage : (s.contexts c).control.stage = .decoding := by
    simp [NVContext.control, hphase, Phase.stage]
  have hopen : (s.contexts c).control.stage ≠ .between := by simp [hstage]
  obtain ⟨hunderway, hvld⟩ := underway_of_decoding hok hstage
  have htargeted : ctx.control.targeted := by
    rw [hctx]
    exact ⟨hunderway.targeted.1, by simp [hvld]⟩
  have hbuilding : ctx.control.pictureState = .building := by
    rw [hctx]
    exact hunderway.building
  have hfail : ∀ first status, (∀ q ∈ clearedBy first, ctx.control.target q) →
      CallEffect c s (renderFailure s c ctx first status) := by
    intro first status hfirst
    have hcontrol := renderFailure_control ctx first status
    unfold renderFailure
    refine .take r
      ((SameView.refl s).failedFrame (.inl hopen) (.inl hopen) ?_ ?_ hunderway.building)
      (fun _ => rfl) buffer found hphase hav1 hdisplay ?_
    · rw [hcontrol, hctx]
    · rw [hcontrol]
      exact .inl (.inl rfl)
    · rw [State.setContext_contexts, if_pos rfl, hcontrol, ← hctx]
      refine Advance.clearing htargeted (clearedBy_withCancel hfirst) (.inl hbuilding)
        (fun _ => .inr ?_) (.inr (.inl ⟨rfl, rfl⟩))
      rw [hctx]
      exact hvld
  unfold afterHandler
  split
  · exact hfail _ _ fun q hq => (mem_clearedBy_finishSections ctx q).mp hq
  · split
    · exact hfail _ _ fun q hq => (mem_clearedBy_cancelSections ctx q).mp hq
    · have hcontrol : ({ ctx with phase := .renderLoop } : NVContext).control = ctx.control := by
        have hctxStage : ctx.phase.stage = .decoding := (congrArg Control.stage hctx).trans hstage
        simp [NVContext.control, Phase.stage, hctxStage]
      have hafter : ((s.setContext c { ctx with phase := .renderLoop }).contexts c).control =
          { (s.contexts c).control with displayTarget := some r } := by
        simp only [State.setContext_contexts, if_true, hcontrol, hctx]
      refine .take r ((SameView.refl s).replaceFrame (.inl hopen) ?_) (fun _ => rfl) buffer found
        hphase hav1 hdisplay ?_
      · refine FailureRecorded.step ?_ (fun _ hp => hp) ?_
        · rw [hafter]
        · rw [hafter]
          exact .inl
      · rw [hafter]
        refine .refl ?_
        rw [hctx] at htargeted
        exact hstage ▸ ⟨hunderway.building, hvld, htargeted⟩

theorem renderLookup_effect {buffer : PictureParameterBuffer}
    {found : List (Option SurfaceRef × Int)} {todo : List (Option SurfaceRef)}
    (hok : (s.contexts c).control.okAt (s.contexts c).control.stage)
    (hphase : (s.contexts c).phase = .renderLookup buffer todo found)
    (hstep : renderLookup s c buffer found todo = some s') : CallEffect c s s' := by
  have hstage : (s.contexts c).control.stage = .decoding := by
    simp [NVContext.control, hphase, Phase.stage]
  unfold renderLookup at hstep
  split at hstep
  · cases hstep
    exact ((SameView.refl s).goto (by rw [hphase]; rfl)).effect hok
  · rename_i surfId rest
    cases hstep
    refine SameView.effect (.setContext ?_) hok
    have hnote := noteReference_control (s.contexts c) (pictureIdxFromSurfaceId s c surfId)
    simp only [NVContext.control, Control.mk.injEq] at hnote ⊢
    simp [hnote, Phase.stage, hphase]
  · simp only at hstep
    split at hstep
    · rename_i hav1
      cases hstep
      cases hdisplay : filmGrainDisplay s (s.contexts c) buffer with
      | none =>
          refine afterHandler_effect (.refl s) ?_ hok hstage
          simp only [finishAV1PicParam, hdisplay]
          rfl
      | some r =>
          refine take_effect hok hphase hav1 hdisplay ?_
          simp only [finishAV1PicParam, hdisplay]
          rfl
    · cases hstep
      exact afterHandler_effect (.refl s) rfl hok hstage

/-! ## The VideoProc loop -/

theorem blitFailure_effect (hok : (s.contexts c).control.okAt (s.contexts c).control.stage)
    (hstage : (s.contexts c).control.stage = .blitting) :
    CallEffect c s (blitFailure s c) := by
  obtain ⟨hunderway, _⟩ := underway_of_blitting hok hstage
  refine renderFailure_effect (.refl s) (fun _ => .inl (by simp [hstage])) rfl hunderway ?_
  intro r hr
  exact .inl ((mem_clearedBy_finishOf _ r).mp hr)

theorem blitLoop_effect {processed : Bool} {outcome : Outcome}
    (hok : (s.contexts c).control.okAt (s.contexts c).control.stage)
    (hphase : (s.contexts c).phase = .blitLoop processed)
    (hstep : blitLoop s c processed outcome = some s') : CallEffect c s s' := by
  have hstage : (s.contexts c).control.stage = .blitting := by
    simp [NVContext.control, hphase, Phase.stage]
  have hopen : (s.contexts c).control.stage ≠ .between := by simp [hstage]
  obtain ⟨hunderway, hproc⟩ := underway_of_blitting hok hstage
  have hreject : ∀ status, CallEffect c s (rejectPipeline s c status) := fun status =>
    renderFailure_effect (.refl s) (fun _ => .inl hopen) rfl hunderway
      (mem_clearedBy_cancelSections_target rfl)
  unfold blitLoop at hstep
  split at hstep
  · split at hstep
    · cases hstep
      exact (SameView.refl s).gotoEffect hopen
        (Advance.building hok hunderway.building (.inr (.inr hstage)) (.inl rfl)) (by simp)
    · cases hstep
      have hcontrol : ({ s.contexts c with
          phase := .after (NVContext.finishOf (s.contexts c).renderTarget) (.ret .success) } :
          NVContext).control =
          { (s.contexts c).control with
            pictureState := (s.contexts c).control.pictureState
            stage := .after (NVContext.finishOf (s.contexts c).renderTarget) .between } := by
        simp [NVContext.control, Phase.stage]
      refine (SameView.refl s).replace (.inl hopen) ?_ ?_
      · rw [hcontrol]
        refine Advance.clearing hunderway.targeted ?_ (.inl hunderway.building)
          (fun h => .inr (hunderway.failing h))
          (.inr (.inr ⟨rfl, rfl, hunderway.building, hproc⟩))
        intro r
        rw [mem_clearedBy_finishOf]
        have hdisplay : (s.contexts c).control.displayTarget = none := by
          simpa [hproc] using hunderway.targeted.2
        simp only [Control.target, hdisplay]
        simp [NVContext.control]
      · rw [hcontrol]
        rintro (hfailed | ⟨hvld, _⟩)
        · simp [hunderway.building] at hfailed
        · simp [hproc] at hvld
  · cases hstep; exact hreject _
  · cases hstep; exact hreject _
  · cases hstep; exact hreject _
  · split at hstep
    · cases hstep
      exact blitFailure_effect hok hstage
    · cases hstep
      exact ((SameView.refl s).goto (by rw [hphase]; rfl)).effect hok
  · cases hstep

theorem blitWaitSurface_effect {src : SurfaceRef}
    (hok : (s.contexts c).control.okAt (s.contexts c).control.stage)
    (hphase : (s.contexts c).phase = .blitWaitSurface src)
    (hstep : blitWaitSurface s c src = some s') : CallEffect c s s' := by
  unfold blitWaitSurface at hstep
  split at hstep
  · cases hstep
    exact ((SameView.refl s).goto (by rw [hphase]; rfl)).effect hok
  · cases hstep

theorem blitWaitImage_effect {src : SurfaceRef}
    (hok : (s.contexts c).control.okAt (s.contexts c).control.stage)
    (hphase : (s.contexts c).phase = .blitWaitImage src)
    (hstep : blitWaitImage s c src = some s') : CallEffect c s s' := by
  unfold blitWaitImage at hstep
  split at hstep
  · cases hstep
    exact ((SameView.refl s).goto (by rw [hphase]; rfl)).effect hok
  · cases hstep

theorem blitCopy_effect {src : SurfaceRef} {outcome : Outcome}
    (hok : (s.contexts c).control.okAt (s.contexts c).control.stage)
    (hphase : (s.contexts c).phase = .blitCopy src)
    (hstep : blitCopy s c src outcome = some s') : CallEffect c s s' := by
  unfold blitCopy at hstep
  split at hstep
  · cases hstep
    exact ((SameView.refl s).goto (by rw [hphase]; rfl)).effect hok
  · cases hstep
    exact blitFailure_effect hok (by simp [NVContext.control, hphase, Phase.stage])
  · cases hstep

theorem blitRelease_effect {src : SurfaceRef}
    (hok : (s.contexts c).control.okAt (s.contexts c).control.stage)
    (hphase : (s.contexts c).phase = .blitRelease src)
    (hstep : blitRelease s c src = some s') : CallEffect c s s' := by
  unfold blitRelease at hstep
  split at hstep
  · cases hstep
    exact ((SameView.refl s).goto (by rw [hphase]; rfl)).effect hok
  · obtain ⟨t, hrelease, rfl⟩ := Option.map_eq_some_iff.mp hstep
    exact ((SameView.release hrelease).goto (by rw [hphase]; rfl)).effect hok

theorem blitPublish_effect {src : SurfaceRef}
    (hok : (s.contexts c).control.okAt (s.contexts c).control.stage)
    (hphase : (s.contexts c).phase = .blitPublish src)
    (hstep : blitPublish s c src = some s') : CallEffect c s s' := by
  have hstage : (s.contexts c).control.stage = .blitting := by
    simp [NVContext.control, hphase, Phase.stage]
  unfold blitPublish at hstep
  split at hstep
  · cases hstep
    exact ((SameView.refl s).goto (by rw [hphase]; rfl)).effect hok
  · rename_i dst hrender
    cases hstep
    refine .publish dst src (surfaceFrame rfl (by simp [hstage]) rfl ?_) (surface_others _ _)
      (by simp [goto, NVSurface.flags]) hstage hrender ?_
    · rintro (hfailed | ⟨hvld, _⟩)
      · exact .inl hfailed
      · have hproc := (underway_of_blitting hok hstage).2
        change (s.contexts c).control.entrypoint = .vld at hvld
        simp [hproc] at hvld
    · simp [goto, NVContext.control, Phase.stage]

end Sections

end Driver
end NvidiaVaapi
