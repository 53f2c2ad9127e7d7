import NvidiaVaapi.Driver.CallMoves

/-!
# The kind of every section of nvBeginPicture
-/

namespace NvidiaVaapi
namespace Driver

section Sections

variable {s t s' : State} {c : ContextRef}

/-- A picture that is being begun has no target to end. -/
theorem cancelSections_of_untargeted {ctx : NVContext} (huntargeted : ctx.control.untargeted) :
    ctx.cancelSections = [] := by
  obtain ⟨hrender, hdisplay⟩ := huntargeted
  change ctx.renderTarget = none at hrender
  change ctx.displayTarget = none at hdisplay
  simp [NVContext.cancelSections, NVContext.targetSections, hrender, hdisplay]

/-- A failing exit of `nvBeginPictureImpl`. -/
theorem beginFailure_effect {ctx : NVContext} {status : VAStatus} (hview : SameView s t)
    (hok : (s.contexts c).control.okAt (s.contexts c).control.stage)
    (hstage : ∃ r, (s.contexts c).control.stage = .acquiring r)
    (hctx : ctx.control = (s.contexts c).control) :
    CallEffect c s (goto t c (beginFailure ctx status)) := by
  obtain ⟨r, hr⟩ := hstage
  have huntargeted : ctx.control.untargeted := by
    rw [hr] at hok
    rw [hctx]
    exact hok.2
  rw [beginFailure, cancelSections_of_untargeted huntargeted]
  exact hview.gotoEffect (by simp [hr]) (Advance.toResetting hok (.inl ⟨r, hr⟩)) nofun

theorem nvBeginPicture_effect {r : SurfaceRef}
    (hok : (s.contexts c).control.okAt (s.contexts c).control.stage)
    (hstep : nvBeginPicture s c r = some s') : CallEffect c s s' := by
  unfold nvBeginPicture at hstep
  simp only at hstep
  split at hstep
  · cases hstep
  · rename_i hadmitted
    have hstage := stage_of_admitted hadmitted
    split at hstep
    · cases hstep
      exact SameView.effect (.setContext rfl) hok
    · rename_i hidle
      have hidle : (s.contexts c).pictureState = .idle := by simpa using hidle
      have huntargeted : (s.contexts c).control.untargeted := by
        rw [hstage] at hok
        rcases hok with ⟨_, huntargeted⟩ | ⟨hopen, _⟩
        · exact huntargeted
        · simp [NVContext.control, hidle] at hopen
      -- nothing is recorded for the new picture yet, and it has no target to end
      have hbegin : ∀ phase : Phase, (phase.stage = .resetting ∨
          ∃ q, phase.stage = .waiting q ∧ (s.surfaces q).life = .live) →
          CallEffect c s (enter s c
            { s.contexts c with
              pictureState := .building, picture := (s.contexts c).picture + 1 } phase) := by
        intro phase hphase
        refine .begin ?_ (fun _ => rfl) hidle phase.stage hphase
          (by simp [enter, NVContext.control])
        refine ⟨fun d hd => by simp [enter, lifetimeReadLock, hd], fun _ => rfl, rfl,
          fun _ h => .inl (List.mem_cons_of_mem _ h), opened_of_admitted hadmitted _, rfl,
          .inl rfl, ?_⟩
        rintro - (hfailed | ⟨_, todo, next, hclearing⟩)
        · simp [enter, NVContext.control] at hfailed
        · rcases hphase with hphase | ⟨q, hphase, _⟩ <;>
            simp [enter, NVContext.control, hphase] at hclearing
      have hsections : ({ s.contexts c with
          pictureState := .building, picture := (s.contexts c).picture + 1 } :
          NVContext).cancelSections = [] := cancelSections_of_untargeted huntargeted
      split at hstep
      · cases hstep
        rw [beginFailure, hsections]
        exact hbegin _ (.inl rfl)
      · split at hstep
        · cases hstep
          rw [beginFailure, hsections]
          exact hbegin _ (.inl rfl)
        · rename_i hlive
          cases hstep
          exact hbegin _ (.inr ⟨r, rfl, by simpa using hlive⟩)

theorem beginWaitSurface_effect {r : SurfaceRef}
    (hphase : (s.contexts c).phase = .beginWaitSurface r)
    (hstep : beginWaitSurface s c r = some s') : CallEffect c s s' := by
  have hstage : (s.contexts c).control.stage = .waiting r := by
    simp [NVContext.control, hphase, Phase.stage]
  unfold beginWaitSurface at hstep
  split at hstep
  · rename_i hresolved
    cases hstep
    have hcontrol : ({ s.contexts c with phase := .beginWaitImage r } : NVContext).control =
        { (s.contexts c).control with stage := .acquiring r } := rfl
    refine .acquire r ((SameView.refl s).replaceFrame (.inl (by simp [hstage])) ?_)
      (fun _ => rfl) hphase (by simpa [surfaceResolved] using hresolved)
      (control_goto (.refl s) _)
    refine FailureRecorded.step (by simp [NVContext.control]) (fun _ hp => hp) ?_
    rw [State.setContext_contexts, if_pos rfl, hcontrol]
    rintro (hfailed | ⟨_, todo, next, hclearing⟩)
    · exact .inl (.inl hfailed)
    · cases hclearing
  · cases hstep

theorem beginWaitImage_effect {r : SurfaceRef}
    (hok : (s.contexts c).control.okAt (s.contexts c).control.stage)
    (hphase : (s.contexts c).phase = .beginWaitImage r)
    (hstep : beginWaitImage s c r = some s') : CallEffect c s s' := by
  unfold beginWaitImage at hstep
  split at hstep
  · cases hstep
    refine ((SameView.refl s).goto ?_).effect hok
    rw [hphase]
    split <;> rfl
  · cases hstep

theorem beginRelease_effect {r : SurfaceRef}
    (hok : (s.contexts c).control.okAt (s.contexts c).control.stage)
    (hphase : (s.contexts c).phase = .beginRelease r)
    (hstep : beginRelease s c r = some s') : CallEffect c s s' := by
  unfold beginRelease at hstep
  split at hstep
  · obtain ⟨t, hrelease, rfl⟩ := Option.map_eq_some_iff.mp hstep
    exact ((SameView.release hrelease).goto (by rw [hphase]; rfl)).effect hok
  · cases hstep
    exact ((SameView.refl s).goto (by rw [hphase]; rfl)).effect hok

theorem recreateDecoderForSurface_control {ctx ctx' : NVContext} {surface : NVSurface}
    (hrecreate : recreateDecoderForSurface ctx surface = some ctx') :
    ctx'.control = ctx.control := by
  unfold recreateDecoderForSurface at hrecreate
  split at hrecreate
  · split at hrecreate
    · cases hrecreate
      rfl
    · cases hrecreate
  · cases hrecreate
    rfl

theorem beginAssign_effect {r : SurfaceRef}
    (hok : (s.contexts c).control.okAt (s.contexts c).control.stage)
    (hphase : (s.contexts c).phase = .beginAssign r)
    (hstep : beginAssign s c r = some s') : CallEffect c s s' := by
  have hstage : (s.contexts c).control.stage = .acquiring r := by
    simp [NVContext.control, hphase, Phase.stage]
  unfold beginAssign at hstep
  split at hstep
  · cases hstep
    exact beginFailure_effect (.refl s) hok ⟨r, hstage⟩ rfl
  · rename_i ctx hrecreate
    have hctx := recreateDecoderForSurface_control hrecreate
    have hview : SameView s (s.setContext c ctx) := .setContext hctx
    simp only at hstep
    split at hstep
    · cases hstep
      exact (hview.goto (by rw [hphase]; rfl)).effect hok
    · split at hstep
      · cases hstep
        exact beginFailure_effect hview hok ⟨r, hstage⟩ hctx
      · split at hstep
        · cases hstep
          exact (hview.goto (by rw [hphase]; rfl)).effect hok
        · split at hstep
          · split at hstep
            · cases hstep
              exact beginFailure_effect hview hok ⟨r, hstage⟩ hctx
            · rename_i selected _
              cases hstep
              have htake := hview.trans (SameView.commitAV1 (s.setContext c ctx) c r
                (surfaceLimit (s.setContext c ctx) c) selected)
              exact (htake.goto (by rw [hphase]; rfl)).effect hok
          · cases hstep
            exact (hview.goto (by rw [hphase]; rfl)).effect hok

theorem assignScan_effect {r : SurfaceRef} {limit i : Nat} {busyMask : BitVec 32}
    (hok : (s.contexts c).control.okAt (s.contexts c).control.stage)
    (hphase : (s.contexts c).phase = .assignScan r limit i busyMask)
    (hstep : assignScan s c r limit i busyMask = some s') : CallEffect c s s' := by
  have hstage : (s.contexts c).control.stage = .acquiring r := by
    simp [NVContext.control, hphase, Phase.stage]
  unfold assignScan at hstep
  simp only at hstep
  split at hstep
  · split at hstep
    · cases hstep
      exact ((SameView.refl s).goto (by rw [hphase]; rfl)).effect hok
    · cases hstep
      exact ((SameView.refl s).goto (by rw [hphase]; rfl)).effect hok
  · split at hstep
    · cases hstep
      exact ((SameView.commit s c r limit _).goto (by rw [hphase]; rfl)).effect hok
    · split at hstep
      · cases hstep
        exact beginFailure_effect (.refl s) hok ⟨r, hstage⟩ rfl
      · cases hstep
        exact ((SameView.refl s).goto (by rw [hphase]; rfl)).effect hok

theorem assignWaitSurface_effect {r owner : SurfaceRef} {limit : Nat}
    (hok : (s.contexts c).control.okAt (s.contexts c).control.stage)
    (hphase : (s.contexts c).phase = .assignWaitSurface r limit owner)
    (hstep : assignWaitSurface s c r limit owner = some s') : CallEffect c s s' := by
  unfold assignWaitSurface at hstep
  split at hstep
  · cases hstep
    exact ((SameView.refl s).goto (by rw [hphase]; rfl)).effect hok
  · cases hstep

theorem assignWaitImage_effect {r owner : SurfaceRef} {limit : Nat}
    (hok : (s.contexts c).control.okAt (s.contexts c).control.stage)
    (hphase : (s.contexts c).phase = .assignWaitImage r limit owner)
    (hstep : assignWaitImage s c r limit owner = some s') : CallEffect c s s' := by
  unfold assignWaitImage at hstep
  split at hstep
  · cases hstep
    exact ((SameView.refl s).goto (by rw [hphase]; rfl)).effect hok
  · cases hstep

theorem beginStartImage_effect {r : SurfaceRef}
    (hok : (s.contexts c).control.okAt (s.contexts c).control.stage)
    (hphase : (s.contexts c).phase = .beginStartImage r)
    (hstep : beginStartImage s c r = some s') : CallEffect c s s' := by
  cases hstep
  exact ((SameView.imageSection s r true).goto (by rw [hphase]; rfl)).effect hok

theorem beginStart_effect {r : SurfaceRef} (hphase : (s.contexts c).phase = .beginStart r)
    (hstep : beginStart s c r = some s') : CallEffect c s s' := by
  have hstage : (s.contexts c).control.stage = .acquiring r := by
    simp [NVContext.control, hphase, Phase.stage]
  have hopen : (s.contexts c).control.stage ≠ .between := by simp [hstage]
  unfold beginStart at hstep
  simp only at hstep
  split at hstep
  · rename_i hproc
    cases hstep
    refine .start r (surfaceFrame rfl hopen rfl ?_) (surface_others _ _) (by simp) hstage ?_ hphase
    · rintro (hfailed | ⟨_, todo, next, hclearing⟩)
      · exact .inl hfailed
      · cases hclearing
    · simp [NVContext.control, Phase.stage, hproc]
  · rename_i hvld
    cases hstep
    refine .start r (surfaceFrame rfl hopen rfl ?_) (surface_others _ _) (by simp) hstage ?_ hphase
    · rintro (hfailed | ⟨_, todo, next, hclearing⟩)
      · exact .inl hfailed
      · cases hclearing
    · simp [NVContext.control, Phase.stage, hvld]

theorem beginInit_effect {r : SurfaceRef}
    (hok : (s.contexts c).control.okAt (s.contexts c).control.stage)
    (hphase : (s.contexts c).phase = .beginInit r)
    (hstep : beginInit s c r = some s') : CallEffect c s s' := by
  have hstage : (s.contexts c).control.stage = .decoding := by
    simp [NVContext.control, hphase, Phase.stage]
  cases hstep
  have hview : SameView s (s.setSurface r { s.surfaces r with progressiveFrame := true }) :=
    .setSurface rfl rfl
  have hokAt := hok
  rw [hstage] at hokAt
  refine hview.replace (.inl (by simp [hstage])) ?_ ?_
  · exact Advance.building hok hokAt.1 (.inr (.inl hstage)) (.inl rfl)
  · rintro (hfailed | ⟨_, todo, next, hclearing⟩)
    · exact .inl (.inl hfailed)
    · cases hclearing

end Sections

end Driver
end NvidiaVaapi
