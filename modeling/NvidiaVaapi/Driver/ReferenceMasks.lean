import NvidiaVaapi.Driver.PictureStates

/-!
# Reference masks and index owners

`activeReferenceMask` is written by a submission, and a context submits a picture only
once it has a decoder.  The decoder of a context that is not being destroyed is never
taken away, so no index of a context without a decoder is in its active mask.  Owners
are recorded only for indices that `currentPictureId` counts.
-/

namespace NvidiaVaapi
namespace Driver

/-- The call is past the creation of the decoder and has not handed its job over. -/
@[simp] def Phase.submitting : Phase → Bool
  | .clearing _ next => next.submitting
  | .endPushContext => true
  | .endDecode => true
  | .endPopContext _ => true
  | .handOverStartImage _ => true
  | .handOverStart _ => true
  | .handOverFinishImage _ => true
  | .handOverFinish _ => true
  | .endAllocJob _ => true
  | .endMakeJob _ => true
  | .endActiveMask _ => true
  | .endPushJob _ => true
  | _ => false

/-- The worker has left its loop, or never enters it. -/
def WorkerPhase.stopped : WorkerPhase → Bool
  | .cancelled .. => true
  | .exited => true
  | _ => false

/-- The decoder exists, or is being taken down. -/
def NVContext.decoding (ctx : NVContext) : Prop :=
  ctx.decoder.isSome = true ∨ ctx.destroying = true

/-- What a context has done only with a decoder. -/
structure NVContext.Masked (ctx : NVContext) : Prop where
  submitting : ctx.phase.submitting = true → ctx.decoding
  mask : ctx.activeReferenceMask ≠ 0#32 → ctx.decoding
  exiting : ctx.resolveQueue.exiting = true → ctx.destroying = true ∨ ctx.worker.stopped = true
  owners : ∀ i, ctx.pictureIndexOwners i ≠ none → i < ctx.currentPictureId

/-- The invariant behind the active masks. -/
structure Masks (s : State) : Prop where
  contexts : ∀ d, (s.contexts d).Masked
  destroying : ∀ c stage, s.lifetimeWriter = some (.context c stage) →
    (s.contexts c).destroying = true

/-- A context moves on without giving up its decoder. -/
structure NVContext.Steady (ctx ctx' : NVContext) : Prop where
  decoder : ctx.decoder.isSome = true → ctx'.decoder.isSome = true
  destroying : ctx'.destroying = ctx.destroying
  mask : ctx'.activeReferenceMask ≠ 0#32 → ctx.activeReferenceMask ≠ 0#32
  resolveQueue : ctx'.resolveQueue.exiting = ctx.resolveQueue.exiting
  worker : ctx'.worker = ctx.worker
  owners : ∀ i, ctx'.pictureIndexOwners i ≠ none →
    ctx.pictureIndexOwners i ≠ none ∨ i < ctx'.currentPictureId
  currentPictureId : ctx.currentPictureId ≤ ctx'.currentPictureId

namespace NVContext

/-- What `Steady` looks at. -/
def tables (ctx : NVContext) :
    Option DecoderRef × Bool × BitVec 32 × Bool × WorkerPhase × (Nat → Option SurfaceRef) × Nat :=
  (ctx.decoder, ctx.destroying, ctx.activeReferenceMask, ctx.resolveQueue.exiting, ctx.worker,
    ctx.pictureIndexOwners, ctx.currentPictureId)

variable {ctx ctx' ctx'' : NVContext}

theorem Steady.of_tables (htables : ctx'.tables = ctx.tables) : ctx.Steady ctx' := by
  simp only [tables, Prod.mk.injEq] at htables
  obtain ⟨hdecoder, hdestroying, hmask, hexiting, hworker, howners, hcurrent⟩ := htables
  constructor
  · rw [hdecoder]
    exact id
  · exact hdestroying
  · rw [hmask]
    exact id
  · exact hexiting
  · exact hworker
  · rw [howners]
    exact fun i h => .inl h
  · exact hcurrent.ge

theorem Steady.refl (ctx : NVContext) : ctx.Steady ctx :=
  .of_tables rfl

theorem Steady.trans (hfirst : ctx.Steady ctx') (hsecond : ctx'.Steady ctx'') :
    ctx.Steady ctx'' where
  decoder := fun h => hsecond.decoder (hfirst.decoder h)
  destroying := hsecond.destroying.trans hfirst.destroying
  mask := fun h => hfirst.mask (hsecond.mask h)
  resolveQueue := hsecond.resolveQueue.trans hfirst.resolveQueue
  worker := hsecond.worker.trans hfirst.worker
  owners := by
    intro i hi
    rcases hsecond.owners i hi with hi | hi
    · exact (hfirst.owners i hi).imp_right fun h => Nat.lt_of_lt_of_le h hsecond.currentPictureId
    · exact .inr hi
  currentPictureId := hfirst.currentPictureId.trans hsecond.currentPictureId

theorem Steady.decoding (hsteady : ctx.Steady ctx') (hdecoding : ctx.decoding) :
    ctx'.decoding := by
  rcases hdecoding with hdecoder | hdestroying
  · exact .inl (hsteady.decoder hdecoder)
  · exact .inr (hsteady.destroying.trans hdestroying)

/-- A steady move keeps what holds of the context, if it reaches no submission without
a decoder. -/
theorem Steady.masked (hsteady : ctx.Steady ctx') (hmasked : ctx.Masked)
    (hphase : ctx'.phase.submitting = true → ctx'.decoding) : ctx'.Masked where
  submitting := hphase
  mask := fun h => hsteady.decoding (hmasked.mask (hsteady.mask h))
  exiting := by
    rw [hsteady.resolveQueue, hsteady.destroying, hsteady.worker]
    exact hmasked.exiting
  owners := by
    intro i hi
    rcases hsteady.owners i hi with hi | hi
    · exact Nat.lt_of_lt_of_le (hmasked.owners i hi) hsteady.currentPictureId
    · exact hi

end NVContext

/-! ## Sections of picture calls -/

/-- Every context moves on steadily, and those other than `c` keep their phase. -/
structure SteadyCall (c : ContextRef) (s s' : State) : Prop where
  steady : ∀ d, (s.contexts d).Steady (s'.contexts d)
  phase : ∀ d, d ≠ c → (s'.contexts d).phase = (s.contexts d).phase
  lifetimeWriter : s'.lifetimeWriter = s.lifetimeWriter

section Calls

variable {s t s' : State} {c : ContextRef}

namespace SteadyCall

theorem of_contexts (hcontexts : t.contexts = s.contexts)
    (hwriter : t.lifetimeWriter = s.lifetimeWriter) : SteadyCall c s t := by
  refine ⟨fun d => ?_, fun d _ => ?_, hwriter⟩
  · rw [hcontexts]
    exact .refl _
  · rw [hcontexts]

theorem setContext (hcall : SteadyCall c s t) {ctx : NVContext}
    (hctx : (t.contexts c).Steady ctx) : SteadyCall c s (t.setContext c ctx) where
  steady := by
    intro d
    by_cases hd : d = c
    · subst hd
      simpa using (hcall.steady d).trans hctx
    · simpa [hd] using hcall.steady d
  phase := by
    intro d hd
    simpa [hd] using hcall.phase d hd
  lifetimeWriter := hcall.lifetimeWriter

theorem masks (hcall : SteadyCall c s s') (hmasks : Masks s)
    (hphase : (s'.contexts c).phase.submitting = true → (s'.contexts c).decoding) :
    Masks s' where
  contexts := by
    intro d
    refine (hcall.steady d).masked (hmasks.contexts d) fun hsubmitting => ?_
    by_cases hd : d = c
    · subst hd
      exact hphase hsubmitting
    · rw [hcall.phase d hd] at hsubmitting
      exact (hcall.steady d).decoding ((hmasks.contexts d).submitting hsubmitting)
  destroying := by
    intro d stage hwriter
    rw [hcall.lifetimeWriter] at hwriter
    exact (hcall.steady d).destroying.trans (hmasks.destroying d stage hwriter)

end SteadyCall

@[simp] theorem Phase.submitting_after (todo : List ClearSection) (next : Phase) :
    (Phase.after todo next).submitting = next.submitting := by
  cases todo <;> rfl

/-- A section moves on steadily, and reaches a submission from one or with a decoder. -/
structure SteadySection (c : ContextRef) (s s' : State) : Prop where
  call : SteadyCall c s s'
  phase : (s'.contexts c).phase.submitting = true →
    (s.contexts c).phase.submitting = true ∨ (s'.contexts c).decoder.isSome = true

namespace SteadySection

theorem replace (hcall : SteadyCall c s t) {ctx : NVContext} (hctx : (t.contexts c).Steady ctx)
    (hphase : ctx.phase.submitting = true →
      (s.contexts c).phase.submitting = true ∨ ctx.decoder.isSome = true) :
    SteadySection c s (t.setContext c ctx) :=
  ⟨hcall.setContext hctx, by simpa using hphase⟩

theorem goto (hcall : SteadyCall c s t) {phase : Phase}
    (hphase : phase.submitting = true → (s.contexts c).phase.submitting = true) :
    SteadySection c s (goto t c phase) :=
  .replace hcall (.of_tables rfl) fun h => .inl (hphase h)

theorem masks (hsection : SteadySection c s s') (hmasks : Masks s) : Masks s' :=
  hsection.call.masks hmasks fun hsubmitting => by
    rcases hsection.phase hsubmitting with hbefore | hdecoder
    · exact (hsection.call.steady c).decoding ((hmasks.contexts c).submitting hbefore)
    · exact .inl hdecoder

end SteadySection

theorem SteadyCall.refl (c : ContextRef) (s : State) : SteadyCall c s s :=
  .of_contexts rfl rfl

theorem renderFailure_steady {ctx : NVContext} {first : List ClearSection} {status : VAStatus}
    (hcall : SteadyCall c s t) (hctx : (t.contexts c).Steady ctx) :
    SteadySection c s (renderFailure t c ctx first status) :=
  .replace (t := recordFailure t c) ⟨hcall.steady, hcall.phase, hcall.lifetimeWriter⟩
    (hctx.trans (.of_tables rfl))
    (by simp [Phase.submitting])

theorem endFailure_steady {ctx : NVContext} {first : List ClearSection} {status : VAStatus}
    (hcall : SteadyCall c s t) (hctx : (t.contexts c).Steady ctx) :
    SteadySection c s (endFailure t c ctx first status) :=
  .replace (t := recordFailure t c) ⟨hcall.steady, hcall.phase, hcall.lifetimeWriter⟩
    (hctx.trans (.of_tables rfl))
    (by simp [Phase.submitting])

theorem dropIndex_steady (ctx : NVContext) (index : Nat) : ctx.Steady (ctx.dropIndex index) := by
  refine ⟨id, rfl, ?_, rfl, rfl, ?_, Nat.le_refl _⟩
  · intro hmask hzero
    apply hmask
    show ctx.activeReferenceMask &&& ~~~(1#32 <<< index) = 0#32
    rw [hzero, BitVec.zero_and]
  · intro i hi
    by_cases hindex : i = index
    · simp [NVContext.dropIndex, hindex] at hi
    · exact .inl (by simpa [NVContext.dropIndex, Function.update_of_ne hindex] using hi)

theorem release_steady {r : SurfaceRef} (hrelease : releaseSurfacePictureIndex s r = some t) :
    SteadyCall c s t := by
  unfold releaseSurfacePictureIndex at hrelease
  simp only at hrelease
  split at hrelease
  · cases hrelease
    exact .of_contexts rfl rfl
  · rename_i e _
    split at hrelease
    · cases hrelease
      exact .of_contexts rfl rfl
    · split at hrelease
      · cases hrelease
      · split at hrelease
        · cases hrelease
          refine ⟨fun d => ?_, fun d _ => ?_, rfl⟩
          · by_cases hd : d = e
            · subst hd
              simpa using dropIndex_steady _ _
            · simpa [hd] using NVContext.Steady.refl _
          · by_cases hd : d = e
            · subst hd
              simp [NVContext.dropIndex]
            · simp [hd]
        · cases hrelease
          exact .of_contexts rfl rfl

theorem takeIndex_steady (r : SurfaceRef) (limit : Nat) {index current : Nat}
    (hcall : SteadyCall c s t) (hindex : index < current)
    (hcurrent : (t.contexts c).currentPictureId ≤ current) :
    SteadyCall c s (takeIndex t c r limit index current) := by
  have hsurface : SteadyCall c s (t.setSurface r
      { t.surfaces r with
        pictureIdx := (index : Int), context := some c, contextId := some c }) :=
    ⟨hcall.steady, hcall.phase, hcall.lifetimeWriter⟩
  refine hsurface.setContext ⟨id, rfl, id, rfl, rfl, ?_, hcurrent⟩
  intro i hi
  by_cases heq : i = index
  · exact .inr (heq ▸ hindex)
  · exact .inl (by simpa [Function.update_of_ne heq] using hi)

theorem beginAssign_steady {r : SurfaceRef} (hstep : beginAssign s c r = some s') :
    SteadySection c s s' := by
  unfold beginAssign at hstep
  split at hstep
  · cases hstep
    exact .goto (.refl c s) (by simp [beginFailure, Phase.submitting])
  · rename_i ctx hctx
    have hsteady : (s.contexts c).Steady ctx := by
      unfold recreateDecoderForSurface at hctx
      split at hctx
      · split at hctx <;> cases hctx
        exact .refl _
      · cases hctx
        exact .of_tables rfl
    have hcall : SteadyCall c s (s.setContext c ctx) := (SteadyCall.refl c s).setContext hsteady
    simp only at hstep
    split at hstep
    · cases hstep
      exact .goto hcall (by simp [Phase.submitting])
    · split at hstep
      · cases hstep
        exact .goto hcall (by simp [beginFailure, Phase.submitting])
      · split at hstep
        · cases hstep
          exact .goto hcall (by simp [Phase.submitting])
        · split at hstep
          · split at hstep
            · cases hstep
              exact .goto hcall (by simp [beginFailure, Phase.submitting])
            · cases hstep
              refine .goto (takeIndex_steady _ _ hcall ?_ ?_) (by simp [Phase.submitting])
              · split <;> omega
              · split <;> omega
          · cases hstep
            exact .goto hcall (by simp [Phase.submitting])

theorem assignScan_steady {r : SurfaceRef} {limit i : Nat} {busyMask : BitVec 32}
    (hstep : assignScan s c r limit i busyMask = some s') : SteadySection c s s' := by
  unfold assignScan at hstep
  simp only at hstep
  split at hstep
  · split at hstep <;> cases hstep <;> exact .goto (.refl c s) (by simp [Phase.submitting])
  · split at hstep
    · rename_i selected hselect
      cases hstep
      obtain ⟨-, hlimit, hselected⟩ := nvdSelectPictureIndex_spec hselect
      refine .goto (takeIndex_steady _ _ ?_ ?_ ?_) (by simp [Phase.submitting])
      · exact .of_contexts (forgetPreviousOwner_contexts ..) (by
          unfold forgetPreviousOwner
          split
          · rfl
          · split <;> rfl)
      · split <;> omega
      · rw [forgetPreviousOwner_contexts]
        split <;> omega
    · split at hstep <;> cases hstep <;>
        exact .goto (.refl c s) (by simp [beginFailure, Phase.submitting])

theorem beginStart_steady {r : SurfaceRef} (hstep : beginStart s c r = some s') :
    SteadySection c s s' := by
  unfold beginStart at hstep
  simp only at hstep
  have hsurface : SteadyCall c s (s.setSurface r ((s.surfaces r).start (currentPicture s c))) :=
    .of_contexts rfl rfl
  split at hstep <;> cases hstep <;>
    exact .replace hsurface (.of_tables rfl) (by simp [Phase.submitting])

theorem beginInit_steady {r : SurfaceRef} (hstep : beginInit s c r = some s') :
    SteadySection c s s' := by
  unfold beginInit at hstep
  cases hstep
  have hsurface : SteadyCall c s
      (s.setSurface r { s.surfaces r with progressiveFrame := true }) := .of_contexts rfl rfl
  exact .replace hsurface (.of_tables rfl) (by simp [Phase.submitting])

theorem afterHandler_steady {ctx : NVContext} (hcall : SteadyCall c s t)
    (hctx : (t.contexts c).Steady ctx) : SteadySection c s (afterHandler t c ctx) := by
  unfold afterHandler
  split
  · exact renderFailure_steady hcall hctx
  · split
    · exact renderFailure_steady hcall hctx
    · exact .replace hcall (hctx.trans (.of_tables rfl))
        (by simp [Phase.submitting])

theorem storeProgressiveFrame_steady (ctx : NVContext) (buffer : PictureParameterBuffer) :
    SteadyCall c s (storeProgressiveFrame s ctx buffer) := by
  refine .of_contexts (storeProgressiveFrame_contexts ..) ?_
  unfold storeProgressiveFrame
  split
  · rfl
  · split <;> rfl

theorem renderLoop_steady {outcome : Outcome} (hstep : renderLoop s c outcome = some s') :
    SteadySection c s s' := by
  have hreject : ∀ status, SteadySection c s (rejectBuffer s c status) := fun status =>
    renderFailure_steady (.refl c s) (.of_tables rfl)
  unfold renderLoop at hstep
  split at hstep
  · cases hstep
    exact .goto (.refl c s) (by simp [Phase.submitting])
  · cases hstep
    exact hreject _
  · cases hstep
    exact hreject _
  · cases hstep
    exact hreject _
  · cases hstep
    exact hreject _
  · cases hstep
    exact hreject _
  · cases hstep
    exact renderFailure_steady (.refl c s) (.of_tables rfl)
  · rename_i buffer
    split at hstep
    · cases hstep
    · simp only at hstep
      have hstore : SteadyCall c s (storeProgressiveFrame s
          (startPictureParameter (s.contexts c) buffer) buffer) :=
        storeProgressiveFrame_steady _ _
      have hcontexts := storeProgressiveFrame_contexts s
        (startPictureParameter (s.contexts c) buffer) buffer
      split at hstep
      · cases hstep
        refine afterHandler_steady hstore ?_
        rw [hcontexts]
        exact .of_tables rfl
      · cases hstep
        refine .replace hstore ?_ (by simp [Phase.submitting])
        rw [hcontexts]
        exact .of_tables rfl
  · cases hstep
    exact afterHandler_steady (.refl c s) (.of_tables rfl)
  · cases hstep

theorem noteReference_steady (ctx : NVContext) (pictureIdx : Int) :
    ctx.Steady (noteReference ctx pictureIdx) := by
  unfold noteReference
  split
  · exact .of_tables rfl
  · exact .refl ctx

theorem renderLookup_steady {buffer : PictureParameterBuffer}
    {found : List (Option SurfaceRef × Int)} {todo : List (Option SurfaceRef)}
    (hstep : renderLookup s c buffer found todo = some s') : SteadySection c s s' := by
  unfold renderLookup at hstep
  split at hstep
  · cases hstep
    exact .goto (.refl c s) (by simp [Phase.submitting])
  · cases hstep
    have hnote := noteReference_steady (s.contexts c) (pictureIdxFromSurfaceId s c ‹_›)
    exact .replace (.refl c s)
      (hnote.trans (.of_tables rfl))
      (by simp [Phase.submitting])
  · simp only at hstep
    split at hstep
    · cases hstep
      refine afterHandler_steady (.refl c s) ?_
      unfold finishAV1PicParam
      split <;> exact .of_tables rfl
    · cases hstep
      exact afterHandler_steady (.refl c s) (.of_tables rfl)

theorem blitLoop_steady {processed : Bool} {outcome : Outcome}
    (hstep : blitLoop s c processed outcome = some s') : SteadySection c s s' := by
  have hreject : ∀ status, SteadySection c s (rejectPipeline s c status) := fun status =>
    renderFailure_steady (.refl c s) (.refl _)
  unfold blitLoop at hstep
  split at hstep
  · split at hstep <;> cases hstep <;> exact .goto (.refl c s) (by simp [Phase.submitting])
  · cases hstep
    exact hreject _
  · cases hstep
    exact hreject _
  · cases hstep
    exact hreject _
  · split at hstep
    · cases hstep
      exact renderFailure_steady (.refl c s) (.refl _)
    · cases hstep
      exact .goto (.refl c s) (by simp [Phase.submitting])
  · cases hstep

theorem blitRelease_steady {src : SurfaceRef} (hstep : blitRelease s c src = some s') :
    SteadySection c s s' := by
  unfold blitRelease at hstep
  split at hstep
  · cases hstep
    exact .goto (.refl c s) (by simp [Phase.submitting])
  · obtain ⟨t, hrelease, rfl⟩ := Option.map_eq_some_iff.mp hstep
    exact .goto (release_steady hrelease) (by simp [Phase.submitting])

theorem blitPublish_steady {src : SurfaceRef} (hstep : blitPublish s c src = some s') :
    SteadySection c s s' := by
  unfold blitPublish at hstep
  split at hstep
  · cases hstep
    exact .goto (.refl c s) (by simp [Phase.submitting])
  · cases hstep
    apply SteadySection.goto
    · exact .of_contexts rfl rfl
    · simp [Phase.submitting]

theorem endCreateDecoder_steady {outcome : Outcome}
    (hstep : endCreateDecoder s c outcome = some s') : SteadySection c s s' := by
  unfold endCreateDecoder at hstep
  simp only at hstep
  split at hstep
  · rename_i hdecoder
    cases hstep
    exact .replace (.refl c s) (.of_tables rfl) fun _ => .inr hdecoder
  · split at hstep
    · cases hstep
      exact endFailure_steady (.refl c s) (.of_tables rfl)
    · split at hstep
      · cases hstep
        exact .replace (.refl c s)
          ⟨fun _ => rfl, rfl, id, rfl, rfl, fun _ h => .inl h, Nat.le_refl _⟩ fun _ => .inr rfl
      · cases hstep
        exact endFailure_steady (.refl c s) (.of_tables rfl)
      · cases hstep
        exact endFailure_steady (.refl c s) (.of_tables rfl)
      · cases hstep

/-- The sections of a submission, up to the update of the active mask. -/
theorem submission_steady {outcome : Outcome}
    (hsubmitting : (s.contexts c).phase.submitting = true)
    (hmask : ∀ job, (s.contexts c).phase ≠ .endActiveMask job)
    (hstep : callStep s c outcome = some s') : SteadySection c s s' := by
  have hgoto : ∀ (t : State) (phase : Phase), t.contexts = s.contexts →
      t.lifetimeWriter = s.lifetimeWriter → SteadySection c s (goto t c phase) :=
    fun t phase hcontexts hwriter =>
      .goto (.of_contexts hcontexts hwriter) fun _ => hsubmitting
  have hfail : ∀ first status, SteadySection c s (endFailure s c (s.contexts c) first status) :=
    fun first status => endFailure_steady (.refl c s) (.refl _)
  unfold callStep at hstep
  split at hstep
  case h_2 todo next hphase =>
    unfold clearNext at hstep
    split at hstep
    · cases hstep
      exact hgoto s _ rfl rfl
    · rename_i section_ rest
      cases hstep
      exact hgoto _ _ (ClearSection.run_contexts _ _) (ClearSection.run_lifetimeWriter _ _)
  case h_24 hphase =>
    unfold endPushContext at hstep
    split at hstep <;> cases hstep
    · exact hgoto s _ rfl rfl
    · exact hfail _ _
  case h_25 hphase =>
    unfold endDecode at hstep
    split at hstep <;> cases hstep
    · exact hgoto s _ rfl rfl
    · exact hgoto _ _ rfl rfl
  case h_26 status hphase =>
    unfold endPopContext at hstep
    split at hstep <;> cases hstep
    · exact hgoto s _ rfl rfl
    · exact hfail _ _
  case h_27 status hphase =>
    unfold handOverStartImage at hstep
    split at hstep <;> cases hstep <;> exact hgoto _ _ rfl rfl
  case h_28 status hphase =>
    unfold handOverStart at hstep
    split at hstep <;> cases hstep <;> exact hgoto _ _ rfl rfl
  case h_29 status hphase =>
    unfold handOverFinishImage at hstep
    split at hstep <;> cases hstep <;> exact hgoto _ _ rfl rfl
  case h_30 status hphase =>
    unfold handOverFinish at hstep
    split at hstep <;> cases hstep <;> exact hgoto _ _ rfl rfl
  case h_31 status hphase =>
    unfold endAllocJob at hstep
    split at hstep <;> cases hstep
    · exact hgoto s _ rfl rfl
    · exact hfail _ _
  case h_32 status hphase =>
    unfold endMakeJob at hstep
    split at hstep <;> cases hstep
    exact hgoto _ _ rfl rfl
  case h_33 job hphase => exact absurd hphase (hmask job)
  case h_34 job hphase =>
    unfold endPushJob at hstep
    simp only at hstep
    split at hstep
    · cases hstep
      exact hfail _ _
    · split at hstep <;> cases hstep
      exact .replace (.refl c s) (.of_tables rfl) (by simp [Phase.submitting])
  all_goals
    rename_i hphase
    rw [hphase] at hsubmitting
    cases hsubmitting

theorem leave_steady {ctx : NVContext} {status : VAStatus} (hctx : (s.contexts c).Steady ctx) :
    SteadySection c s (leave s c ctx status) := by
  have hcall : SteadyCall c s (s.setContext c { ctx with phase := .idle, result := status }) :=
    (SteadyCall.refl c s).setContext
      (hctx.trans (.of_tables rfl))
  refine ⟨⟨hcall.steady, hcall.phase, hcall.lifetimeWriter⟩, ?_⟩
  intro hsubmitting
  simp [leave, Phase.submitting] at hsubmitting

/-- The other sections of the calls. -/
theorem callStep_steady {outcome : Outcome}
    (hmask : ∀ job, (s.contexts c).phase ≠ .endActiveMask job)
    (hstep : callStep s c outcome = some s') : SteadySection c s s' := by
  by_cases hsubmitting : (s.contexts c).phase.submitting = true
  · exact submission_steady hsubmitting hmask hstep
  have hgoto : ∀ (t : State) (phase : Phase), t.contexts = s.contexts →
      t.lifetimeWriter = s.lifetimeWriter → phase.submitting = false →
      SteadySection c s (goto t c phase) := fun t phase hcontexts hwriter hphase =>
    .goto (.of_contexts hcontexts hwriter) (by simp [hphase])
  unfold callStep at hstep
  split at hstep
  case h_1 hphase => cases hstep
  case h_2 todo next hphase =>
    have hnext : next.submitting = false := by
      rw [hphase] at hsubmitting
      simpa [Phase.submitting] using hsubmitting
    unfold clearNext at hstep
    split at hstep
    · cases hstep
      exact hgoto s _ rfl rfl hnext
    · rename_i section_ rest
      cases hstep
      exact hgoto _ _ (ClearSection.run_contexts _ _) (ClearSection.run_lifetimeWriter _ _)
        (by rw [Phase.submitting_after, hnext])
  case h_3 status hphase =>
    cases hstep
    exact leave_steady (.of_tables rfl)
  case h_4 status hphase =>
    cases hstep
    exact leave_steady (.refl _)
  case h_5 r hphase =>
    unfold beginWaitSurface at hstep
    split at hstep <;> cases hstep
    exact hgoto s _ rfl rfl rfl
  case h_6 r hphase =>
    unfold beginWaitImage at hstep
    split at hstep <;> cases hstep
    exact hgoto s _ rfl rfl (by split <;> rfl)
  case h_7 r hphase =>
    unfold beginRelease at hstep
    split at hstep
    · obtain ⟨t, hrelease, rfl⟩ := Option.map_eq_some_iff.mp hstep
      exact .goto (release_steady hrelease) (by simp [Phase.submitting])
    · cases hstep
      exact hgoto s _ rfl rfl rfl
  case h_8 r hphase => exact beginAssign_steady hstep
  case h_9 r limit i busyMask hphase => exact assignScan_steady hstep
  case h_10 r limit owner hphase =>
    unfold assignWaitSurface at hstep
    split at hstep <;> cases hstep
    exact hgoto s _ rfl rfl rfl
  case h_11 r limit owner hphase =>
    unfold assignWaitImage at hstep
    split at hstep <;> cases hstep
    exact hgoto s _ rfl rfl rfl
  case h_12 r hphase =>
    cases hstep
    exact hgoto _ _ rfl rfl rfl
  case h_13 r hphase => exact beginStart_steady hstep
  case h_14 r hphase => exact beginInit_steady hstep
  case h_15 hphase => exact renderLoop_steady hstep
  case h_16 buffer todo found hphase => exact renderLookup_steady hstep
  case h_17 processed hphase => exact blitLoop_steady hstep
  case h_18 src hphase =>
    unfold blitWaitSurface at hstep
    split at hstep <;> cases hstep
    exact hgoto s _ rfl rfl rfl
  case h_19 src hphase =>
    unfold blitWaitImage at hstep
    split at hstep <;> cases hstep
    exact hgoto s _ rfl rfl rfl
  case h_20 src hphase =>
    unfold blitCopy at hstep
    split at hstep <;> cases hstep
    · exact hgoto s _ rfl rfl rfl
    · exact renderFailure_steady (.refl c s) (.refl _)
  case h_21 src hphase => exact blitRelease_steady hstep
  case h_22 src hphase => exact blitPublish_steady hstep
  case h_23 hphase => exact endCreateDecoder_steady hstep
  case h_35 status hphase =>
    unfold endShared at hstep
    split at hstep
    · cases hstep
      exact hgoto s _ rfl rfl rfl
    · split at hstep <;> cases hstep <;> exact hgoto s _ rfl rfl rfl
  case h_36 hphase =>
    unfold endWaitSurface at hstep
    split at hstep
    · cases hstep
      exact hgoto s _ rfl rfl rfl
    · split at hstep <;> cases hstep
      exact hgoto s _ rfl rfl rfl
  case h_37 hphase =>
    unfold endWaitImage at hstep
    split at hstep
    · cases hstep
      exact hgoto s _ rfl rfl rfl
    · split at hstep <;> cases hstep
      exact hgoto s _ rfl rfl rfl
  case h_38 hphase =>
    unfold endReadStatus at hstep
    split at hstep <;> cases hstep <;> exact hgoto s _ rfl rfl rfl
  all_goals
    rename_i hphase
    exact absurd (by rw [hphase]; rfl) hsubmitting

/-- No section of a call gives up the decoder. -/
theorem callStep_decoder {outcome : Outcome} (hdecoder : (s.contexts c).decoder.isSome = true)
    (hstep : callStep s c outcome = some s') : (s'.contexts c).decoder.isSome = true := by
  by_cases hactive : ∃ job, (s.contexts c).phase = .endActiveMask job
  · obtain ⟨job, hphase⟩ := hactive
    unfold callStep at hstep
    rw [hphase] at hstep
    change endActiveMask s c job = some s' at hstep
    unfold endActiveMask at hstep
    simp only at hstep
    split at hstep <;> cases hstep
    · simpa using hdecoder
    · simpa [goto] using hdecoder
  · rw [not_exists] at hactive
    exact ((callStep_steady hactive hstep).call.steady c).decoder hdecoder

theorem Masks.call (hmasks : Masks s) {outcome : Outcome}
    (hstep : callStep s c outcome = some s') : Masks s' := by
  by_cases hactive : ∃ job, (s.contexts c).phase = .endActiveMask job
  · obtain ⟨job, hphase⟩ := hactive
    have hdecoding : (s.contexts c).decoding :=
      (hmasks.contexts c).submitting (by rw [hphase]; rfl)
    unfold callStep at hstep
    rw [hphase] at hstep
    change endActiveMask s c job = some s' at hstep
    unfold endActiveMask at hstep
    simp only at hstep
    split at hstep
    · cases hstep
      refine ⟨fun d => ?_, fun d stage hwriter => ?_⟩
      · by_cases hd : d = c
        · subst hd
          simp only [State.setContext_contexts, if_pos]
          exact ⟨fun _ => hdecoding, fun _ => hdecoding, (hmasks.contexts d).exiting,
            (hmasks.contexts d).owners⟩
        · simpa [hd] using hmasks.contexts d
      · have hdestroying := hmasks.destroying d stage hwriter
        by_cases hd : d = c
        · subst hd
          simpa using hdestroying
        · simpa [hd] using hdestroying
    · cases hstep
      exact (SteadySection.goto (.refl c s) (by simp [hphase, Phase.submitting])).masks hmasks
  · rw [not_exists] at hactive
    exact (callStep_steady hactive hstep).masks hmasks

theorem enter_steady {ctx : NVContext} {phase : Phase} (hctx : (s.contexts c).Steady ctx)
    (hphase : phase.submitting = false) : SteadySection c s (enter s c ctx phase) := by
  have hread : SteadyCall c s (lifetimeReadLock s c) := .of_contexts rfl rfl
  exact .replace hread (hctx.trans (.of_tables rfl))
    (by simp [hphase])

/-- A call that is refused or entered. -/
theorem entry_steady {a : Label}
    (hentry : (∃ r, a = .beginPicture c r) ∨ (∃ valid, a = .renderPicture c valid) ∨
      a = .endPicture c)
    (hstep : Driver.step s a = some s') : SteadySection c s s' := by
  have hread : SteadyCall c s (lifetimeReadLock s c) := .of_contexts rfl rfl
  have hrefuse : admitted s c = true →
      SteadySection c s (s.setContext c { s.contexts c with result := .operationFailed }) := by
    intro hadmitted
    have hidle : (s.contexts c).phase = .idle := phase_of_admitted (by simp [hadmitted])
    exact .replace (.refl c s) (.of_tables rfl) (by simp [hidle, Phase.submitting])
  have hfail : ∀ first status, SteadySection c s
      (renderFailure (lifetimeReadLock s c) c (s.contexts c) first status) := fun first status =>
    renderFailure_steady hread (.refl _)
  rcases hentry with ⟨r, rfl⟩ | ⟨valid, rfl⟩ | rfl
  · change nvBeginPicture s c r = some s' at hstep
    unfold nvBeginPicture at hstep
    simp only at hstep
    split at hstep
    · cases hstep
    · rename_i hadmitted
      split at hstep
      · cases hstep
        exact hrefuse (by simpa using hadmitted)
      · split at hstep
        · cases hstep
          exact enter_steady (.of_tables rfl) (by simp [beginFailure, Phase.submitting])
        · split at hstep <;> cases hstep
          · exact enter_steady (.of_tables rfl) (by simp [beginFailure, Phase.submitting])
          · exact enter_steady (.of_tables rfl) rfl
  · change nvRenderPicture s c valid = some s' at hstep
    unfold nvRenderPicture at hstep
    simp only at hstep
    split at hstep
    · cases hstep
    · rename_i hadmitted
      split at hstep
      · cases hstep
        exact hrefuse (by simpa using hadmitted)
      · split at hstep
        · cases hstep
          exact hfail _ _
        · split at hstep
          · cases hstep
            exact hfail _ _
          · split at hstep <;> cases hstep <;> exact enter_steady (.refl _) rfl
  · change nvEndPicture s c = some s' at hstep
    unfold nvEndPicture at hstep
    simp only at hstep
    split at hstep
    · cases hstep
    · rename_i hadmitted
      split at hstep
      · cases hstep
        exact hrefuse (by simpa using hadmitted)
      · cases hstep
        exact hrefuse (by simpa using hadmitted)
      · cases hstep
        exact enter_steady (.refl _) (by simp [Phase.submitting])
      · split at hstep
        · split at hstep <;> cases hstep <;>
            exact enter_steady (.refl _) (by simp [Phase.submitting])
        · split at hstep
          · cases hstep
            exact endFailure_steady hread (.refl _)
          · split at hstep
            · cases hstep
              exact endFailure_steady hread (.of_tables rfl)
            · split at hstep
              · cases hstep
                exact endFailure_steady hread (.of_tables rfl)
              · cases hstep
                exact enter_steady (.refl _) rfl

end Calls

/-! ## The other threads -/

section Threads

variable {s t s' : State} {c : ContextRef} {a : Label}

theorem Masks.of_contexts (hmasks : Masks s) (hcontexts : s'.contexts = s.contexts)
    (hwriter : ∀ d stage, s'.lifetimeWriter = some (.context d stage) →
      (s.contexts d).destroying = true) : Masks s' where
  contexts := by
    rw [hcontexts]
    exact hmasks.contexts
  destroying := by
    rw [hcontexts]
    exact hwriter

/-- A context is replaced by one that still knows whether it is being destroyed. -/
theorem Masks.setContext (hmasks : Masks s) {ctx : NVContext} (hmasked : ctx.Masked)
    (hdestroying : (s.contexts c).destroying = true → ctx.destroying = true)
    (hcontexts : t.contexts = s.contexts)
    (hwriter : ∀ d stage, t.lifetimeWriter = some (.context d stage) →
      (s.contexts d).destroying = true ∨ (d = c ∧ ctx.destroying = true)) :
    Masks (t.setContext c ctx) where
  contexts := by
    intro d
    by_cases hd : d = c
    · subst hd
      simpa using hmasked
    · simpa [hd, hcontexts] using hmasks.contexts d
  destroying := by
    intro d stage hlocked
    rcases hwriter d stage hlocked with hdestroy | ⟨rfl, hdestroy⟩
    · by_cases hd : d = c
      · subst hd
        simpa using hdestroying hdestroy
      · simpa [hd, hcontexts] using hdestroy
    · simpa using hdestroy

theorem Masks.setWorker (hmasks : Masks s) {worker : WorkerPhase}
    (hcontexts : t.contexts = s.contexts) (hwriter : t.lifetimeWriter = s.lifetimeWriter)
    (hworker : (s.contexts c).worker.stopped = true → worker.stopped = true) :
    Masks (setWorker t c worker) := by
  have hmasked := hmasks.contexts c
  unfold Driver.setWorker
  refine hmasks.setContext ?_ ?_ hcontexts ?_
  · rw [hcontexts]
    exact ⟨hmasked.submitting, hmasked.mask, fun h => (hmasked.exiting h).imp_right hworker,
      hmasked.owners⟩
  · rw [hcontexts]
    exact id
  · rw [hwriter]
    exact fun d stage h => .inl (hmasks.destroying d stage h)

theorem Masks.worker (hmasks : Masks s) {outcome : WorkerOutcome}
    (hstep : workerStep s c outcome = some s') : Masks s' := by
  have hmasked := hmasks.contexts c
  have hset : ∀ (t : State) (w : WorkerPhase), t.contexts = s.contexts →
      t.lifetimeWriter = s.lifetimeWriter → (s.contexts c).worker.stopped = false →
      Masks (Driver.setWorker t c w) := fun t w hcontexts hwriter hrunning =>
    hmasks.setWorker hcontexts hwriter (by simp [hrunning])
  have hwriter : ∀ d stage, s.lifetimeWriter = some (.context d stage) →
      (s.contexts d).destroying = true := hmasks.destroying
  unfold workerStep at hstep
  split at hstep
  case h_1 hphase => cases hstep
  case h_2 hphase =>
    unfold workerStart at hstep
    split at hstep <;> cases hstep
    · exact hset s _ rfl rfl (by rw [hphase]; rfl)
    · refine hmasks.setContext ?_ id rfl fun d stage h => .inl (hwriter d stage h)
      exact ⟨hmasked.submitting, hmasked.mask, fun _ => .inr rfl, hmasked.owners⟩
  case h_3 jobs imageDone hphase =>
    unfold workerCancelled at hstep
    split at hstep <;> cases hstep <;> exact hmasks.setWorker rfl rfl fun _ => rfl
  case h_4 hphase =>
    unfold workerPop at hstep
    simp only at hstep
    have hrunning : (s.contexts c).worker.stopped = false := by
      rw [hphase]
      rfl
    split at hstep
    · cases hstep
      refine hmasks.setContext ?_ id rfl fun d stage h => .inl (hwriter d stage h)
      refine ⟨hmasked.submitting, hmasked.mask, fun hexiting => ?_, hmasked.owners⟩
      exact (hmasked.exiting hexiting).imp_right (by simp [hrunning])
    · split at hstep
      · cases hstep
      · rename_i hexiting
        -- The queue of a worker that is still in its loop is left only by a destroy call.
        have hdestroying : (s.contexts c).destroying = true := by
          rcases hmasked.exiting (by simpa using hexiting) with h | h
          · exact h
          · simp [hrunning] at h
        split at hstep
        · cases hstep
          exact hset { s with cudaWorkUnsafe := true } .exited rfl rfl hrunning
        · split at hstep
          · cases hstep
            exact hset s _ rfl rfl hrunning
          · cases hstep
            refine hmasks.setContext ?_ id rfl fun d stage h => .inl (hwriter d stage h)
            exact ⟨fun _ => .inr hdestroying, fun _ => .inr hdestroying,
              fun _ => .inl hdestroying, hmasked.owners⟩
  case h_5 job hphase =>
    unfold workerPopped at hstep
    split at hstep
    · split at hstep <;> cases hstep <;> exact hset _ _ rfl rfl (by rw [hphase]; rfl)
    · cases hstep
      exact hset _ _ rfl rfl (by rw [hphase]; rfl)
    · cases hstep
  case h_6 job hphase =>
    unfold workerExporting at hstep
    split at hstep
    · split at hstep <;> cases hstep <;> exact hset _ _ rfl rfl (by rw [hphase]; rfl)
    · cases hstep
      exact hset _ _ rfl rfl (by rw [hphase]; rfl)
    · cases hstep
  case h_7 job hphase =>
    unfold workerCopying at hstep
    split at hstep <;> cases hstep <;> exact hset _ _ rfl rfl (by rw [hphase]; rfl)
  case h_8 job failed copied hphase =>
    unfold workerUnmapping at hstep
    split at hstep
    · split at hstep <;> cases hstep
      exact hset _ _ rfl rfl (by rw [hphase]; rfl)
    · split at hstep <;> cases hstep <;> exact hset _ _ rfl rfl (by rw [hphase]; rfl)
    · cases hstep
      exact hset _ _ rfl rfl (by rw [hphase]; rfl)
  case h_9 job failed hphase =>
    unfold workerPublish at hstep
    simp only at hstep
    split at hstep <;> cases hstep <;> exact hset _ _ rfl rfl (by rw [hphase]; rfl)
  case h_10 job failed hphase =>
    cases hstep
    exact hset _ _ rfl rfl (by rw [hphase]; rfl)
  case h_11 job failed hphase =>
    cases hstep
    exact hset _ _ rfl rfl (by rw [hphase]; rfl)
  case h_12 hphase => cases hstep

theorem Masks.destroySurfaces (hmasks : Masks s) {todo : List SurfaceRef}
    {stage : DestroySurfaceStage} (hstep : destroySurfacesStep s todo stage = some s') :
    Masks s' := by
  have hset : ∀ (t : State) (rest : List SurfaceRef) (stage' : DestroySurfaceStage),
      t.contexts = s.contexts → Masks (setWriter t (.surfaces rest stage')) :=
    fun t rest stage' hcontexts => hmasks.of_contexts hcontexts fun d stage'' h => by cases h
  unfold destroySurfacesStep at hstep
  split at hstep
  · cases hstep
    exact hmasks.of_contexts rfl fun d stage' h => by cases h
  · split at hstep <;> cases hstep
    exact hset s _ _ rfl
  · split at hstep <;> cases hstep
    exact hset s _ _ rfl
  · obtain ⟨t, hrelease, rfl⟩ := Option.map_eq_some_iff.mp hstep
    -- The call is on no context: any will do.
    have hreleased : Masks t := (release_steady (c := 0) hrelease).masks hmasks fun h => by
      have hphase := kept_of_withoutIndices NVContext.phase (fun _ => rfl)
        (release_contexts hrelease 0)
      rw [hphase] at h
      exact ((release_steady (c := 0) hrelease).steady 0).decoding
        ((hmasks.contexts 0).submitting h)
    exact hreleased.of_contexts rfl fun d stage' h => by cases h
  · cases hstep
    exact hset _ _ _ rfl

theorem Masks.destroyContext (hmasks : Masks s) {stage : DestroyContextStage} {outcome : Outcome}
    (hlocked : s.lifetimeWriter = some (.context c stage))
    (hstep : destroyContextStep s c stage outcome = some s') : Masks s' := by
  have hmasked := hmasks.contexts c
  have hdestroying : (s.contexts c).destroying = true := hmasks.destroying c stage hlocked
  have hkept : ∀ (t : State) (stage' : DestroyContextStage), t.contexts = s.contexts →
      Masks (setWriter t (.context c stage')) := fun t stage' hcontexts =>
    hmasks.of_contexts hcontexts fun d stage'' h => by
      cases h
      exact hdestroying
  have hend : Masks (endWriter s) := hmasks.of_contexts rfl fun d stage' h => by cases h
  have hset : ∀ (t : State) (ctx : NVContext) (call : Option DestroyCall),
      t.contexts = s.contexts → ctx.destroying = true →
      (∀ i, ctx.pictureIndexOwners i ≠ none → i < ctx.currentPictureId) →
      (∀ d stage', call = some (.context d stage') → d = c) →
      Masks { t.setContext c ctx with lifetimeWriter := call } :=
    fun t ctx call hcontexts hctx howners hcall =>
      hmasks.setContext (t := { t with lifetimeWriter := call })
        ⟨fun _ => .inr hctx, fun _ => .inr hctx, fun _ => .inl hctx, howners⟩ (fun _ => hctx)
        hcontexts fun d stage' h => .inr ⟨hcall d stage' h, hctx⟩
  unfold destroyContextStep at hstep
  split at hstep
  · cases hstep
    exact hset s _ _ rfl hdestroying hmasked.owners fun d stage' h => by cases h; rfl
  · cases hstep
    exact hkept s _ rfl
  · cases hstep
    exact hkept _ _ rfl
  · cases hstep
    exact hkept _ _ rfl
  · split at hstep
    · cases hstep
      exact hend
    · simp only at hstep
      split at hstep <;> cases hstep
      exact hset s _ _ rfl hdestroying hmasked.owners fun d stage' h => by cases h; rfl
    · cases hstep
  · simp only at hstep
    split at hstep
    · cases hstep
      exact hend
    · split at hstep
      · cases hstep
        exact hkept s _ rfl
      · split at hstep <;> cases hstep
        · exact hset s _ _ rfl hdestroying hmasked.owners fun d stage' h => by cases h; rfl
        · exact hend
        · exact hend
  · cases hstep
    exact hset { s with surfaces := (releaseContextPictureIndices s c).surfaces } _
      (some (.context c .delete)) rfl hdestroying (fun i h => absurd rfl h)
      fun d stage' h => by cases h; rfl
  · cases hstep
    exact hset s _ none rfl hdestroying hmasked.owners fun d stage' h => by cases h

theorem Masks.step (hmasks : Masks s) (hstep : Driver.step s a = some s') : Masks s' := by
  have hsame : ∀ t : State, t.contexts = s.contexts → t.lifetimeWriter = s.lifetimeWriter →
      Masks t := fun t hcontexts hwriter =>
    hmasks.of_contexts hcontexts fun d stage h => hmasks.destroying d stage (hwriter ▸ h)
  cases a with
  | createSurface r format image =>
      change Driver.createSurface s r format image = some s' at hstep
      unfold Driver.createSurface at hstep
      split at hstep <;> cases hstep
      exact hsame _ rfl rfl
  | createContext d entrypoint codec format renderTargets =>
      change nvCreateContext s d entrypoint codec format renderTargets = some s' at hstep
      unfold nvCreateContext at hstep
      split at hstep
      · cases hstep
      · rename_i hfree
        have hunlocked : ∀ e stage, s.lifetimeWriter ≠ some (.context e stage) := by
          intro e stage h
          simp [h] at hfree
        have hnew : ∀ ctx : NVContext, ctx.phase = .idle → ctx.activeReferenceMask = 0#32 →
            ctx.resolveQueue = {} → (∀ i, ctx.pictureIndexOwners i = none) →
            Masks (s.setContext d ctx) := by
          intro ctx hphase hmask hqueue howners
          refine ⟨fun e => ?_, fun e stage h => absurd h (hunlocked e stage)⟩
          by_cases he : e = d
          · subst he
            simp only [State.setContext_contexts, if_pos]
            refine ⟨?_, fun h => absurd hmask h, ?_, fun i h => absurd (howners i) h⟩
            · simp [hphase, Phase.submitting]
            · simp [hqueue]
          · simpa [he] using hmasks.contexts e
        split at hstep <;> cases hstep <;> exact hnew _ rfl rfl rfl fun _ => rfl
  | realiseSurface r image =>
      change Driver.realiseSurface s r image = some s' at hstep
      unfold Driver.realiseSurface at hstep
      split at hstep <;> cases hstep
      exact hsame _ rfl rfl
  | markExported thread r =>
      change Driver.markExported s thread r = some s' at hstep
      unfold Driver.markExported at hstep
      split at hstep <;> cases hstep
      exact hsame _ rfl rfl
  | workUnsafe =>
      cases hstep
      exact hsame _ rfl rfl
  | beginPicture d r => exact (entry_steady (.inl ⟨r, rfl⟩) hstep).masks hmasks
  | renderPicture d valid => exact (entry_steady (.inr (.inl ⟨valid, rfl⟩)) hstep).masks hmasks
  | endPicture d => exact (entry_steady (.inr (.inr rfl)) hstep).masks hmasks
  | call d outcome => exact hmasks.call hstep
  | worker d outcome => exact hmasks.worker hstep
  | destroySurfaces requested =>
      change nvDestroySurfaces s requested = some s' at hstep
      unfold nvDestroySurfaces at hstep
      split at hstep
      · cases hstep
      · split at hstep <;> cases hstep
        · exact hmasks.of_contexts rfl fun d stage h => by cases h
        · exact hmasks
  | destroyContext d =>
      change nvDestroyContext s d = some s' at hstep
      unfold nvDestroyContext at hstep
      simp only at hstep
      split at hstep
      · cases hstep
      · split at hstep
        · cases hstep
          exact hmasks
        · cases hstep
          have hmasked : { s.contexts d with destroying := true }.Masked :=
            ⟨fun _ => .inr rfl, fun _ => .inr rfl, fun _ => .inl rfl, (hmasks.contexts d).owners⟩
          have hset : ∀ stage, Masks ({ s with
              lifetimeWriter := some (.context d stage) }.setContext d
                { s.contexts d with destroying := true }) := by
            intro stage
            refine hmasks.setContext hmasked (fun _ => rfl) rfl ?_
            intro e stage' h
            cases h
            exact .inr ⟨rfl, rfl⟩
          exact hset _
  | destroy outcome =>
      change destroyStep s outcome = some s' at hstep
      unfold destroyStep at hstep
      split at hstep
      · cases hstep
      · exact hmasks.destroySurfaces hstep
      · rename_i d stage hlocked
        exact hmasks.destroyContext hlocked hstep
  | syncSurface thread r =>
      have heffect := nvSyncSurface_effect hstep
      exact hsame _ heffect.contexts heffect.lifetimeWriter
  | sync thread =>
      have heffect := syncStep_effect hstep
      exact hsame _ heffect.contexts heffect.lifetimeWriter

theorem masks_of_reachable {config : DriverConfig} {images : ImageRef → BackingImage}
    (hreach : (driver config images).Reachable s) : Masks s := by
  have hinit : Masks (driver config images).init := by
    refine ⟨fun d => ⟨?_, ?_, ?_, ?_⟩, fun d stage h => by cases h⟩
    · intro h
      cases h
    · intro h
      exact absurd rfl h
    · intro h
      cases h
    · intro i h
      exact absurd rfl h
  exact LabelledSystem.invariant hinit (fun _ _ _ hmasks _ hstep => hmasks.step hstep) hreach

/-- While a context has no decoder and is not being destroyed, no reference is active in
it. -/
theorem Masks.activeReferenceMask (hmasks : Masks s) (hdecoder : (s.contexts c).decoder = none)
    (hdestroying : (s.contexts c).destroying = false) :
    (s.contexts c).activeReferenceMask = 0#32 := by
  by_contra hmask
  rcases (hmasks.contexts c).mask hmask with h | h
  · simp [hdecoder] at h
  · simp [hdestroying] at h

end Threads

end Driver
end NvidiaVaapi
