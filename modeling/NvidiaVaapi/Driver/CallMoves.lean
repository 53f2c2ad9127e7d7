import NvidiaVaapi.Driver.CallEffect

/-!
# Moving between program points

Lemmas shared by the sections of the three picture calls: going to another
program point, replacing a surface on the way, entering a call, and the two
kinds of failing exit.
-/

namespace NvidiaVaapi
namespace Driver

/-- A begun picture with its targets, which a failing exit can end. -/
structure Control.Underway (κ : Control) : Prop where
  building : κ.pictureState = .building
  targeted : κ.targeted
  failing : κ.failing → κ.entrypoint = .vld

theorem Control.underway {κ : Control} (hok : κ.okAt κ.stage)
    (hbuilding : κ.pictureState = .building) (htargeted : κ.targeted)
    (hstage : κ.stage ≠ .resetting) : κ.Underway := by
  refine ⟨hbuilding, htargeted, ?_⟩
  rintro ((hfailed | ⟨hvld, _⟩) | hreset | ⟨status, _, hcarried⟩)
  · simp [hbuilding] at hfailed
  · exact hvld
  · exact absurd hreset hstage
  · rcases hcarried with h | ⟨_, h⟩ | h | ⟨_, h, _⟩ <;> rw [h] at hok
    · exact hok.2.1
    · exact hok.2.1
    · exact hok.2.1
    · exact hok.2.1

section Moves

variable {s t s' : State} {c : ContextRef}

theorem control_goto (hview : SameView s t) (phase : Phase) :
    ((goto t c phase).contexts c).control =
      { (s.contexts c).control with stage := phase.stage } := by
  rw [← hview.control c]
  simp [goto, NVContext.control]

/-- A section that, from a state with the same view, replaces its context by one
with the same control. -/
theorem SameView.replaceSame {ctx : NVContext} (hview : SameView s t)
    (hctx : ctx.control = (s.contexts c).control)
    (hok : (s.contexts c).control.okAt (s.contexts c).control.stage) :
    CallEffect c s (t.setContext c ctx) := by
  have hcontext : SameView t (t.setContext c ctx) :=
    .setContext (hctx.trans (hview.control c).symm)
  exact (hview.trans hcontext).effect hok

/-- A section in progress that, from a state with the same view, goes to another
stage outside the clearing lists. -/
theorem SameView.gotoEffect {phase : Phase} (hview : SameView s t)
    (hopen : (s.contexts c).control.stage ≠ .between)
    (hadvance : Advance (s.contexts c).control
      { (s.contexts c).control with stage := phase.stage })
    (hstage : ∀ todo next, phase.stage ≠ .clearing todo next) :
    CallEffect c s (Driver.goto t c phase) := by
  have hcontrol : ({ t.contexts c with phase := phase } : NVContext).control =
      { (s.contexts c).control with stage := phase.stage } := by
    rw [← hview.control c]
    rfl
  refine hview.replace (.inl hopen) (hcontrol ▸ hadvance) ?_
  rw [hcontrol]
  rintro (hfailed | ⟨_, todo, next, hclearing⟩)
  · exact .inl (.inl hfailed)
  · exact absurd hclearing (hstage todo next)

/-- The frame of a section in progress that replaces one surface, keeping its
life, and moves its context to another stage outside the clearing lists of a
decode picture. -/
theorem surfaceFrame {r : SurfaceRef} {surface : NVSurface} {ctx : NVContext}
    (hlife : surface.life = (s.surfaces r).life)
    (hopen : (s.contexts c).control.stage ≠ .between)
    (hpicture : ctx.control.picture = (s.contexts c).control.picture)
    (hcleaning : ctx.control.cleaning → (s.contexts c).control.cleaning) :
    CallFrame c s ((s.setSurface r surface).setContext c ctx) where
  control := by
    intro d hd
    simp [hd]
  life := by
    intro q
    by_cases hq : q = r
    · simp [hq, hlife]
    · simp [hq]
  lifetimeWriter := rfl
  readers := fun _ hid => .inl hid
  opened := .inl hopen
  syncs := rfl
  failed := .inl rfl
  recorded := by
    refine FailureRecorded.step (by simpa using hpicture) (fun _ hp => hp) ?_
    intro h
    exact .inl (hcleaning (by simpa using h))

theorem surface_others {r : SurfaceRef} (surface : NVSurface) (ctx : NVContext) :
    ∀ q, q ≠ r →
      (((s.setSurface r surface).setContext c ctx).surfaces q).flags =
        (s.surfaces q).flags := by
  intro q hq
  simp [hq]

/-! ## Entering a call -/

theorem SameView.lifetimeReadLock (s : State) (c : ContextRef) :
    SameView s (lifetimeReadLock s c) :=
  ⟨fun _ => rfl, fun _ => rfl, fun _ => rfl, rfl, fun _ h => List.mem_cons_of_mem _ h, rfl, rfl⟩

/-- An admitted call finds the context between calls. -/
theorem stage_of_admitted (hadmitted : ¬admitted s c = false) :
    (s.contexts c).control.stage = .between := by
  simp only [admitted, Bool.not_eq_false, decide_eq_true_eq] at hadmitted
  simp [NVContext.control, hadmitted.2.2, Phase.stage]

theorem opened_of_admitted (hadmitted : ¬admitted s c = false) (stage : Stage) :
    Opened s (lifetimeReadLock s c) c stage := by
  simp only [admitted, Bool.not_eq_false, decide_eq_true_eq, Option.isNone_iff_eq_none]
    at hadmitted
  exact .inr (.inr ⟨List.mem_cons_self, hadmitted.2.1, hadmitted.1⟩)

theorem targeted_of_between (hok : (s.contexts c).control.okAt (s.contexts c).control.stage)
    (hstage : (s.contexts c).control.stage = .between)
    (hopen : (s.contexts c).pictureState = .building ∨ (s.contexts c).pictureState = .failed) :
    (s.contexts c).control.targeted := by
  rw [hstage] at hok
  rcases hok with ⟨hidle, _⟩ | ⟨_, htargeted⟩
  · change (s.contexts c).pictureState = .idle at hidle
    simp [hidle] at hopen
  · exact htargeted

theorem vld_of_ne_videoProc (hentry : ¬(s.contexts c).entrypoint = .videoProc) :
    (s.contexts c).control.entrypoint = .vld := by
  cases h : (s.contexts c).entrypoint with
  | vld => exact h
  | videoProc => exact absurd h hentry

/-! ## Failing exits -/

theorem clearedBy_withCancel {ctx : NVContext} {first : List ClearSection}
    (hfirst : ∀ r ∈ clearedBy first, ctx.control.target r) (r : SurfaceRef) :
    r ∈ clearedBy (first ++ ctx.cancelSections) ↔ ctx.control.target r := by
  rw [clearedBy_append, List.mem_append, mem_clearedBy_cancelSections]
  exact ⟨fun h => h.elim (hfirst r) id, .inr⟩

/-- The control that a failing `nvRenderPicture` leaves. -/
theorem renderFailure_control (ctx : NVContext) (first : List ClearSection)
    (status : VAStatus) :
    ({ ctx with
      pictureState := .failed
      pictureFailure := status
      phase := .after (first ++ ctx.cancelSections) (.ret status) } : NVContext).control =
      { ctx.control with
        pictureState := .failed
        stage := .after (first ++ ctx.cancelSections) .between } := by
  simp [NVContext.control, Phase.stage]

/-- A failing `nvRenderPicture`; the handler that failed may have gone through
program points of the same stage. -/
theorem renderFailure_effect {ctx : NVContext} {first : List ClearSection} {status : VAStatus}
    (hview : SameView s t)
    (hopened : ∀ stage, Opened s t c stage)
    (hctx : ctx.control = (s.contexts c).control)
    (hunderway : (s.contexts c).control.Underway)
    (hfirst : ∀ r ∈ clearedBy first, (s.contexts c).control.target r) :
    CallEffect c s (renderFailure t c ctx first status) := by
  have hcontrol := renderFailure_control ctx first status
  rw [hctx] at hcontrol
  refine hview.replaceFailed (hopened _) (Opened.running hopened) ?_ ?_ hunderway.building
  · rw [hcontrol]
    refine Advance.clearing hunderway.targeted ?_ (.inl hunderway.building)
      (fun h => .inr (hunderway.failing h)) (.inr (.inl ⟨rfl, rfl⟩))
    rw [← hctx] at hfirst ⊢
    exact clearedBy_withCancel hfirst
  · rw [hcontrol]
    exact .inl (.inl rfl)

/-- A failing exit of `nvEndPictureImpl` in a decode context. -/
theorem endFailure_effect {ctx : NVContext} {first : List ClearSection} {status : VAStatus}
    (hview : SameView s t)
    (hopened : ∀ stage, Opened s t c stage)
    (hctx : ctx.control = (s.contexts c).control)
    (hunderway : (s.contexts c).control.Underway)
    (hvld : (s.contexts c).control.entrypoint = .vld)
    (hfirst : ∀ r ∈ clearedBy first, (s.contexts c).control.target r) :
    CallEffect c s (endFailure t c ctx first status) := by
  have hcontrol : ({ ctx with
      phase := .after (first ++ ctx.cancelSections) (.reset status) } : NVContext).control =
      { (s.contexts c).control with
        pictureState := (s.contexts c).control.pictureState
        stage := .after (first ++ ctx.cancelSections) .resetting } := by
    rw [← hctx]
    simp [NVContext.control, Phase.stage]
  refine hview.replaceFailed (hopened _) (Opened.running hopened) ?_ ?_ hunderway.building
  · rw [hcontrol]
    refine Advance.clearing hunderway.targeted ?_ (.inl hunderway.building)
      (fun h => .inr (hunderway.failing h)) (.inl ⟨rfl, rfl⟩)
    rw [← hctx] at hfirst ⊢
    exact clearedBy_withCancel hfirst
  · rw [hcontrol]
    cases first ++ ctx.cancelSections with
    | nil => exact .inr (.inl rfl)
    | cons section_ rest => exact .inl (.inr ⟨hvld, _, _, rfl⟩)

theorem mem_clearedBy_finishSections_target {ctx : NVContext}
    (hctx : ctx.control = (s.contexts c).control) :
    ∀ r ∈ clearedBy ctx.finishSections, (s.contexts c).control.target r := by
  intro r hr
  rw [← hctx]
  exact (mem_clearedBy_finishSections ctx r).mp hr

theorem mem_clearedBy_cancelSections_target {ctx : NVContext}
    (hctx : ctx.control = (s.contexts c).control) :
    ∀ r ∈ clearedBy ctx.cancelSections, (s.contexts c).control.target r := by
  intro r hr
  rw [← hctx]
  exact (mem_clearedBy_cancelSections ctx r).mp hr

end Moves

end Driver
end NvidiaVaapi
