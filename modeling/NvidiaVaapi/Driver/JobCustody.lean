import NvidiaVaapi.Driver.PictureStates

/-!
# Who has a resolve job in hand

A job passes from the allocation in `nvEndPicture` through the call that fills it in to
the queue and the worker.  This module reads off the sections of the calls where a job can
come into a call's hands, and which sections start or join a worker thread.
-/

namespace NvidiaVaapi
namespace Driver

/-- What a section of a call on the context `c` does not do: start or join a worker, or
leave the call with a job to fill in. -/
structure Carries (c : ContextRef) (s s' : State) : Prop where
  started : ∀ d, (s'.contexts d).resolveThreadStarted = (s.contexts d).resolveThreadStarted
  unmade : ∀ status, (s'.contexts c).phase ≠ .endMakeJob status

section Sections

variable {s t s' : State} {c : ContextRef}

theorem Carries.setContext {ctx : NVContext} (hcontexts : t.contexts = s.contexts)
    (hctx : ctx.resolveThreadStarted = (s.contexts c).resolveThreadStarted)
    (hphase : ∀ status, ctx.phase ≠ .endMakeJob status) : Carries c s (t.setContext c ctx) where
  started := by
    refine State.kept_setContext NVContext.resolveThreadStarted ?_ hctx
    simp [State.setContext, hcontexts]
  unmade := by simpa using hphase

theorem Carries.goto {phase : Phase} (hcontexts : t.contexts = s.contexts)
    (hphase : ∀ status, phase ≠ .endMakeJob status) : Carries c s (goto t c phase) :=
  .setContext hcontexts (by rw [hcontexts]) hphase

theorem goto_started (t : State) (c : ContextRef) (phase : Phase) (d : ContextRef) :
    ((goto t c phase).contexts d).resolveThreadStarted = (t.contexts d).resolveThreadStarted := by
  by_cases hd : d = c <;> simp [goto, hd]

/-- Index tables may have changed on the way. -/
theorem Carries.gotoIndices {phase : Phase}
    (hcontexts : ∀ d, (t.contexts d).withoutIndices = (s.contexts d).withoutIndices)
    (hphase : ∀ status, phase ≠ .endMakeJob status) : Carries c s (Driver.goto t c phase) where
  started := by
    intro d
    refine (goto_started t c phase d).trans ?_
    exact kept_of_withoutIndices NVContext.resolveThreadStarted (fun _ => rfl) (hcontexts d)
  unmade := by simpa [Driver.goto] using hphase

theorem Carries.after (hstarted : ∀ d, (t.contexts d).resolveThreadStarted =
    (s.contexts d).resolveThreadStarted) (hcarries : Carries c t s') : Carries c s s' :=
  ⟨fun d => (hcarries.started d).trans (hstarted d), hcarries.unmade⟩

theorem after_ne_endMakeJob {next : Phase} (hnext : ∀ status, next ≠ .endMakeJob status)
    (todo : List ClearSection) (status : VAStatus) : Phase.after todo next ≠ .endMakeJob status := by
  cases todo with
  | nil => exact hnext status
  | cons section_ rest => nofun

theorem renderFailure_carries {ctx : NVContext} {first : List ClearSection} {status : VAStatus}
    (hcontexts : t.contexts = s.contexts)
    (hctx : ctx.resolveThreadStarted = (s.contexts c).resolveThreadStarted) :
    Carries c s (renderFailure t c ctx first status) :=
  .setContext hcontexts hctx (after_ne_endMakeJob (by nofun) _)

theorem endFailure_carries {ctx : NVContext} {first : List ClearSection} {status : VAStatus}
    (hcontexts : t.contexts = s.contexts)
    (hctx : ctx.resolveThreadStarted = (s.contexts c).resolveThreadStarted) :
    Carries c s (endFailure t c ctx first status) :=
  .setContext hcontexts hctx (after_ne_endMakeJob (by nofun) _)

theorem beginFailure_carries {ctx : NVContext} {status : VAStatus}
    (hcontexts : ∀ d, (t.contexts d).resolveThreadStarted =
      (s.contexts d).resolveThreadStarted) :
    Carries c s (goto t c (beginFailure ctx status)) where
  started := by
    intro d
    exact (goto_started t c _ d).trans (hcontexts d)
  unmade := by
    have hafter : ∀ st, beginFailure ctx status ≠ .endMakeJob st := after_ne_endMakeJob (by nofun) _
    simpa [goto] using hafter

theorem afterHandler_carries {ctx : NVContext} (hcontexts : t.contexts = s.contexts)
    (hctx : ctx.resolveThreadStarted = (s.contexts c).resolveThreadStarted) :
    Carries c s (afterHandler t c ctx) := by
  unfold afterHandler
  split
  · exact renderFailure_carries hcontexts hctx
  · split
    · exact renderFailure_carries hcontexts hctx
    · exact .setContext hcontexts hctx nofun

theorem leave_carries {ctx : NVContext} {status : VAStatus}
    (hctx : ctx.resolveThreadStarted = (s.contexts c).resolveThreadStarted) :
    Carries c s (leave s c ctx status) where
  started := State.kept_setContext NVContext.resolveThreadStarted rfl hctx
  unmade := by simp [leave]

theorem beginAssign_carries {r : SurfaceRef} (hstep : beginAssign s c r = some s') :
    Carries c s s' := by
  unfold beginAssign at hstep
  split at hstep
  · cases hstep
    exact beginFailure_carries fun _ => rfl
  · rename_i ctx hrecreate
    have hctx : ctx.resolveThreadStarted = (s.contexts c).resolveThreadStarted := by
      unfold recreateDecoderForSurface at hrecreate
      split at hrecreate
      · split at hrecreate <;> cases hrecreate
        rfl
      · cases hrecreate
        rfl
    have hstarted := State.kept_setContext (s := s) (c := c) NVContext.resolveThreadStarted rfl hctx
    have hgoto : ∀ phase, (∀ status, phase ≠ .endMakeJob status) →
        Carries c s (goto (s.setContext c ctx) c phase) := fun phase hphase =>
      ⟨fun d => (goto_started _ c phase d).trans (hstarted d),
        by simpa [goto] using hphase⟩
    simp only at hstep
    split at hstep
    · cases hstep
      exact hgoto _ (by simp)
    · split at hstep
      · cases hstep
        exact beginFailure_carries hstarted
      · split at hstep
        · cases hstep
          exact hgoto _ (by simp)
        · split at hstep
          · split at hstep
            · cases hstep
              exact beginFailure_carries hstarted
            · cases hstep
              exact Carries.after hstarted (.gotoIndices (takeIndex_contexts _ c r _ _ _) (by simp))
          · cases hstep
            exact hgoto _ (by simp)

theorem assignScan_carries {r : SurfaceRef} {limit i : Nat} {busyMask : BitVec 32}
    (hstep : assignScan s c r limit i busyMask = some s') : Carries c s s' := by
  unfold assignScan at hstep
  simp only at hstep
  split at hstep
  · split at hstep <;> cases hstep <;> exact .goto rfl nofun
  · split at hstep
    · cases hstep
      refine .gotoIndices (fun d => (takeIndex_contexts ..).trans ?_) nofun
      rw [forgetPreviousOwner_contexts]
    · split at hstep
      · cases hstep
        exact beginFailure_carries fun _ => rfl
      · cases hstep
        exact .goto rfl nofun

theorem renderLoop_carries {outcome : Outcome} (hstep : renderLoop s c outcome = some s') :
    Carries c s s' := by
  have hreject : ∀ status, Carries c s (rejectBuffer s c status) :=
    fun _ => renderFailure_carries rfl rfl
  unfold renderLoop at hstep
  split at hstep
  · cases hstep
    exact .goto rfl nofun
  · cases hstep
    exact hreject _
  · cases hstep
    exact hreject _
  · cases hstep
    exact hreject _
  · cases hstep
    exact hreject _
  · cases hstep
    exact hreject _
  · cases hstep
    exact renderFailure_carries rfl rfl
  · split at hstep
    · cases hstep
    · simp only at hstep
      split at hstep
      · cases hstep
        exact afterHandler_carries (storeProgressiveFrame_contexts ..) rfl
      · cases hstep
        exact .setContext (storeProgressiveFrame_contexts ..) rfl nofun
  · cases hstep
    exact afterHandler_carries rfl rfl
  · cases hstep

theorem renderLookup_carries {buffer : PictureParameterBuffer}
    {found : List (Option SurfaceRef × Int)} {todo : List (Option SurfaceRef)}
    (hstep : renderLookup s c buffer found todo = some s') : Carries c s s' := by
  unfold renderLookup at hstep
  split at hstep
  · cases hstep
    exact .goto rfl nofun
  · cases hstep
    refine .setContext rfl ?_ nofun
    change (noteReference (s.contexts c) _).resolveThreadStarted = _
    unfold noteReference
    split <;> rfl
  · simp only at hstep
    split at hstep
    · cases hstep
      refine afterHandler_carries rfl ?_
      unfold finishAV1PicParam
      simp only
      split <;> rfl
    · cases hstep
      exact afterHandler_carries rfl rfl

theorem blitFailure_carries : Carries c s (blitFailure s c) :=
  renderFailure_carries rfl rfl

theorem blitLoop_carries {processed : Bool} {outcome : Outcome}
    (hstep : blitLoop s c processed outcome = some s') : Carries c s s' := by
  have hreject : ∀ status, Carries c s (rejectPipeline s c status) :=
    fun _ => renderFailure_carries rfl rfl
  unfold blitLoop at hstep
  split at hstep
  · split at hstep
    · cases hstep
      exact .goto rfl nofun
    · cases hstep
      exact .goto rfl (after_ne_endMakeJob (by nofun) _)
  · cases hstep
    exact hreject _
  · cases hstep
    exact hreject _
  · cases hstep
    exact hreject _
  · split at hstep
    · cases hstep
      exact blitFailure_carries
    · cases hstep
      exact .goto rfl nofun
  · cases hstep

theorem endCreateDecoder_carries {outcome : Outcome}
    (hstep : endCreateDecoder s c outcome = some s') : Carries c s s' := by
  unfold endCreateDecoder at hstep
  simp only at hstep
  split at hstep
  · cases hstep
    exact .setContext rfl rfl nofun
  · split at hstep
    · cases hstep
      exact endFailure_carries rfl rfl
    · split at hstep
      · cases hstep
        exact .setContext rfl rfl nofun
      · cases hstep
        exact endFailure_carries rfl rfl
      · cases hstep
        exact endFailure_carries rfl rfl
      · cases hstep

theorem endPushJob_carries {job : ResolveJob} (hstep : endPushJob s c job = some s') :
    Carries c s s' := by
  unfold endPushJob at hstep
  simp only at hstep
  split at hstep
  · cases hstep
    exact endFailure_carries rfl rfl
  · split at hstep <;> cases hstep
    exact .setContext rfl rfl nofun

theorem clearNext_carries {todo : List ClearSection} {next : Phase}
    (hok : (s.contexts c).control.okAt (s.contexts c).control.stage)
    (hphase : (s.contexts c).phase = .clearing todo next)
    (hstep : clearNext s c todo next = some s') : Carries c s s' := by
  have hstage : (s.contexts c).control.stage = .clearing todo next.stage := by
    simp [NVContext.control, hphase]
  rw [hstage] at hok
  -- no clearing list leads on to the middle of a call
  have hnext : ∀ status, next ≠ .endMakeJob status := by
    rintro status rfl
    exact hok.2.2.elim
  unfold clearNext at hstep
  split at hstep
  · cases hstep
    exact .goto rfl hnext
  · rename_i section_ rest
    cases hstep
    exact .goto (section_.run_contexts s) (after_ne_endMakeJob hnext rest)

/-- A job to fill in comes from its allocation, and no section of a call starts or joins a
worker. -/
theorem callStep_carries {outcome : Outcome}
    (hok : (s.contexts c).control.okAt (s.contexts c).control.stage)
    (hstep : callStep s c outcome = some s') :
    Carries c s s' ∨ ∃ status, (s.contexts c).phase = .endAllocJob status ∧ outcome = .ok ∧
      s' = goto s c (.endMakeJob status) := by
  unfold callStep at hstep
  cases hphase : (s.contexts c).phase <;> rw [hphase] at hstep <;> simp only at hstep
  case endAllocJob status =>
    unfold endAllocJob at hstep
    split at hstep
    · cases hstep
      exact .inr ⟨status, rfl, rfl, rfl⟩
    · cases hstep
      exact .inl (endFailure_carries rfl rfl)
    · cases hstep
  -- the other sections
  all_goals refine .inl ?_
  case idle => cases hstep
  case clearing todo next => exact clearNext_carries hok hphase hstep
  case reset status =>
    cases hstep
    exact leave_carries rfl
  case ret status =>
    cases hstep
    exact leave_carries rfl
  case beginWaitSurface r =>
    unfold beginWaitSurface at hstep
    split at hstep <;> cases hstep
    exact .goto rfl nofun
  case beginWaitImage r =>
    unfold beginWaitImage at hstep
    split at hstep <;> cases hstep
    refine .goto rfl fun status => ?_
    split <;> nofun
  case beginRelease r =>
    unfold beginRelease at hstep
    split at hstep
    · obtain ⟨t, hrelease, rfl⟩ := Option.map_eq_some_iff.mp hstep
      exact .gotoIndices (release_contexts hrelease) nofun
    · cases hstep
      exact .goto rfl nofun
  case beginAssign r => exact beginAssign_carries hstep
  case assignScan r limit i busyMask => exact assignScan_carries hstep
  case assignWaitSurface r limit owner =>
    unfold assignWaitSurface at hstep
    split at hstep <;> cases hstep
    exact .goto rfl nofun
  case assignWaitImage r limit owner =>
    unfold assignWaitImage at hstep
    split at hstep <;> cases hstep
    exact .goto rfl nofun
  case beginStartImage r =>
    cases hstep
    exact .goto rfl nofun
  case beginStart r =>
    unfold beginStart at hstep
    simp only at hstep
    split at hstep <;> cases hstep <;> exact .setContext rfl rfl nofun
  case beginInit r =>
    cases hstep
    exact .setContext rfl rfl nofun
  case renderLoop => exact renderLoop_carries hstep
  case renderLookup buffer todo found => exact renderLookup_carries hstep
  case blitLoop processed => exact blitLoop_carries hstep
  case blitWaitSurface src =>
    unfold blitWaitSurface at hstep
    split at hstep <;> cases hstep
    exact .goto rfl nofun
  case blitWaitImage src =>
    unfold blitWaitImage at hstep
    split at hstep <;> cases hstep
    exact .goto rfl nofun
  case blitCopy src =>
    unfold blitCopy at hstep
    split at hstep
    · cases hstep
      exact .goto rfl nofun
    · cases hstep
      exact blitFailure_carries
    · cases hstep
  case blitRelease src =>
    unfold blitRelease at hstep
    split at hstep
    · cases hstep
      exact .goto rfl nofun
    · obtain ⟨t, hrelease, rfl⟩ := Option.map_eq_some_iff.mp hstep
      exact .gotoIndices (release_contexts hrelease) nofun
  case blitPublish src =>
    unfold blitPublish at hstep
    split at hstep <;> cases hstep <;> exact .goto rfl nofun
  case endCreateDecoder => exact endCreateDecoder_carries hstep
  case endPushContext =>
    unfold endPushContext at hstep
    split at hstep
    · cases hstep
      exact .goto rfl nofun
    · cases hstep
      exact endFailure_carries rfl rfl
    · cases hstep
  case endDecode =>
    unfold endDecode at hstep
    split at hstep <;> cases hstep <;> exact .goto rfl nofun
  case endPopContext status =>
    unfold endPopContext at hstep
    split at hstep
    · cases hstep
      refine .goto rfl fun st => ?_
      split <;> nofun
    · cases hstep
      exact endFailure_carries rfl rfl
    · cases hstep
  case handOverStartImage status =>
    unfold handOverStartImage at hstep
    split at hstep <;> cases hstep <;> exact .goto rfl nofun
  case handOverStart status =>
    unfold handOverStart at hstep
    split at hstep <;> cases hstep <;> exact .goto rfl nofun
  case handOverFinishImage status =>
    unfold handOverFinishImage at hstep
    split at hstep <;> cases hstep <;> exact .goto rfl nofun
  case handOverFinish status =>
    unfold handOverFinish at hstep
    split at hstep <;> cases hstep <;> exact .goto rfl nofun
  case endMakeJob status =>
    unfold endMakeJob at hstep
    split at hstep <;> cases hstep
    exact .goto rfl nofun
  case endActiveMask job =>
    unfold endActiveMask at hstep
    simp only at hstep
    split at hstep
    · cases hstep
      exact .setContext rfl rfl nofun
    · cases hstep
      exact .goto rfl nofun
  case endPushJob job => exact endPushJob_carries hstep
  case endShared status =>
    unfold endShared at hstep
    split at hstep
    · cases hstep
      exact .goto rfl nofun
    · split at hstep <;> cases hstep <;> exact .goto rfl nofun
  case endWaitSurface =>
    unfold endWaitSurface at hstep
    split at hstep
    · cases hstep
      exact .goto rfl nofun
    · split at hstep <;> cases hstep
      exact .goto rfl nofun
  case endWaitImage =>
    unfold endWaitImage at hstep
    split at hstep
    · cases hstep
      exact .goto rfl nofun
    · split at hstep <;> cases hstep
      exact .goto rfl nofun
  case endReadStatus =>
    unfold endReadStatus at hstep
    split at hstep <;> cases hstep <;> exact .goto rfl nofun

/-! ## Entries of the calls -/

/-- A call that is not admitted, or begins, has no job in hand yet. -/
theorem enter_carries {ctx : NVContext} {phase : Phase}
    (hctx : ctx.resolveThreadStarted = (s.contexts c).resolveThreadStarted)
    (hphase : ∀ status, phase ≠ .endMakeJob status) : Carries c s (enter s c ctx phase) :=
  .setContext (t := lifetimeReadLock s c) rfl hctx hphase

theorem phase_ne_of_admitted (hadmitted : ¬admitted s c = false) (status : VAStatus) :
    (s.contexts c).phase ≠ .endMakeJob status := by
  simp only [admitted, Bool.not_eq_false, decide_eq_true_eq] at hadmitted
  simp [hadmitted.2.2]

theorem nvBeginPicture_carries {r : SurfaceRef} (hstep : nvBeginPicture s c r = some s') :
    Carries c s s' := by
  unfold nvBeginPicture at hstep
  simp only at hstep
  split at hstep
  · cases hstep
  · rename_i hadmitted
    split at hstep
    · cases hstep
      exact .setContext rfl rfl (phase_ne_of_admitted hadmitted)
    · split at hstep
      · cases hstep
        exact enter_carries rfl (after_ne_endMakeJob (by nofun) _)
      · split at hstep
        · cases hstep
          exact enter_carries rfl (after_ne_endMakeJob (by nofun) _)
        · cases hstep
          exact enter_carries rfl nofun

theorem nvRenderPicture_carries {argumentsValid : Bool}
    (hstep : nvRenderPicture s c argumentsValid = some s') : Carries c s s' := by
  unfold nvRenderPicture at hstep
  simp only at hstep
  split at hstep
  · cases hstep
  · rename_i hadmitted
    split at hstep
    · cases hstep
      exact .setContext rfl rfl (phase_ne_of_admitted hadmitted)
    · split at hstep
      · cases hstep
        exact renderFailure_carries rfl rfl
      · split at hstep
        · cases hstep
          exact renderFailure_carries rfl rfl
        · split at hstep <;> cases hstep <;> exact enter_carries rfl nofun

theorem nvEndPicture_carries (hstep : nvEndPicture s c = some s') : Carries c s s' := by
  unfold nvEndPicture at hstep
  simp only at hstep
  split at hstep
  · cases hstep
  · rename_i hadmitted
    split at hstep
    · cases hstep
      exact .setContext rfl rfl (phase_ne_of_admitted hadmitted)
    · cases hstep
      exact .setContext rfl rfl (phase_ne_of_admitted hadmitted)
    · cases hstep
      exact enter_carries rfl (after_ne_endMakeJob (by nofun) _)
    · split at hstep
      · split at hstep <;> cases hstep <;>
          exact enter_carries rfl (after_ne_endMakeJob (by nofun) _)
      · split at hstep
        · cases hstep
          exact endFailure_carries rfl rfl
        · split at hstep
          · cases hstep
            exact endFailure_carries rfl rfl
          · split at hstep
            · cases hstep
              exact endFailure_carries rfl rfl
            · cases hstep
              exact enter_carries rfl nofun

end Sections

end Driver
end NvidiaVaapi
