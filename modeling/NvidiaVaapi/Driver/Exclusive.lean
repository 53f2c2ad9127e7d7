import NvidiaVaapi.Driver.BasicInvariant

/-!
# Surfaces used by one picture at a time

Flags are cleared by surface and not by generation, so what a pending flag means
depends on who may use the surface.  `ExclusiveUse` asks that a picture takes a
surface only while no other context's picture holds it, and a film-grain display
surface only while it is not pending.  In every run under this condition

* the pending generation of a surface that a picture holds is its own,
* every outstanding job is of the pending generation of its surface, and
* the surfaces whose flag a picture expects to be set are pending.
-/

namespace NvidiaVaapi
namespace Driver

/-- The picture of a live context holds the surface. -/
def State.holdsAt (s : State) (c : ContextRef) (r : SurfaceRef) : Prop :=
  (s.contexts c).life = .live ∧ (s.contexts c).control.holds r

/-- The surface that the next section of the call on the context takes for its
picture: in the wait of `nvBeginPicture`, and in the film-grain redirection of
`copyAV1PicParam`. -/
def State.takes (s : State) (c : ContextRef) : Option SurfaceRef :=
  match (s.contexts c).phase with
  | .beginWaitSurface r => some r
  | .renderLookup buffer [] _ =>
    if (s.contexts c).cudaCodec = .av1 then filmGrainDisplay s (s.contexts c) buffer else none
  | _ => none

/-- A surface that a picture takes is not pending and held by no picture of
another context. -/
def ExclusiveUse (s : State) (a : Label) : Prop :=
  ∀ c r, a.callOn = some c → s.takes c = some r →
    (s.surfaces r).resolving = false ∧ ∀ d, d ≠ c → ¬s.holdsAt d r

/-- What exclusive use guarantees. -/
structure Exclusive (s : State) : Prop where
  basic : Basic s
  unique : ∀ r c d, s.holdsAt c r → s.holdsAt d r → c = d
  held : ∀ c r, s.holdsAt c r → (s.surfaces r).resolving = true →
    (s.surfaces r).startedBy = some (currentPicture s c)
  jobs : ∀ c, ∀ p ∈ s.outstanding c, (s.surfaces p.job.surface).resolving = true ∧
    (s.surfaces p.job.surface).startedBy = some p.job.picture ∧
    p.job.generation = (s.surfaces p.job.surface).submittedGeneration
  expects : ∀ c r, (s.contexts c).life = .live → (s.contexts c).control.expects r →
    (s.surfaces r).resolving = true

/-! ## What a section of a call takes, ends and expects -/

theorem Control.pictureState_of_holds {κ : Control} (hok : κ.okAt κ.stage) {r : SurfaceRef}
    (hholds : κ.holds r) : κ.pictureState ≠ .idle := by
  intro hidle
  cases hκ : κ.stage <;> rw [hκ] at hok <;>
    simp_all [Control.okAt, Control.holds, Control.target, Control.untargeted]
  split at hok <;> simp_all

/-- A picture whose generations a call is ending is still in the hands of its calls. -/
theorem unsettled_of_clearing {κ : Control} (hok : κ.okAt κ.stage) {todo : List ClearSection}
    {next : Stage} (hstage : κ.stage = .clearing todo next) : ¬κ.settled := by
  rw [hstage] at hok
  obtain ⟨_, _, hnext⟩ := hok
  have hopen : κ.pictureState = .building ∨ κ.pictureState = .failed := by
    cases next <;> first | exact hnext.elim | skip
    · exact hnext.symm.imp And.right id
    · exact .inl hnext.2
    · exact hnext
  rintro (h | h) <;> simp [h] at hopen

section Calls

variable {s s' : State} {c : ContextRef}

namespace CallEffect

/-- A surface held after a section was held before or has just been taken. -/
theorem holds (heffect : CallEffect c s s')
    (hok : (s.contexts c).control.okAt (s.contexts c).control.stage) {r : SurfaceRef}
    (hholds : (s'.contexts c).control.holds r) :
    (s.contexts c).control.holds r ∨
      (s.takes c = some r ∧ (s'.surfaces r).flags = (s.surfaces r).flags) := by
  cases heffect with
  | advance _ _ moves => exact .inl (moves.holds r hholds)
  | begin _ _ _ stage hstage control =>
      rw [control] at hholds
      rcases hholds with htarget | hacquiring
      · exact .inl (.inl htarget)
      · rcases hstage with rfl | ⟨q, rfl, _⟩ <;> cases hacquiring
  | acquire q _ flags phase _ control =>
      rw [control] at hholds
      rcases hholds with htarget | hacquiring
      · exact .inl (.inl htarget)
      · cases hacquiring
        exact .inr ⟨by simp [State.takes, phase], flags _⟩
  | take q _ flags buffer found phase av1 display moves =>
      rcases moves.holds r hholds with (hrender | hdisplay) | hacquiring
      · exact .inl (.inl (.inl hrender))
      · cases hdisplay
        exact .inr ⟨by simp [State.takes, phase, av1, display], flags _⟩
      · exact .inl (.inr hacquiring)
  | start q _ _ _ stage control =>
      rw [control] at hholds
      rcases hholds with (hrender | hdisplay) | hacquiring
      · cases hrender
        exact .inl (.inr stage)
      · change (if _ then _ else _) = some r at hdisplay
        split at hdisplay
        · exact .inl (.inl (.inr hdisplay))
        · cases hdisplay
          exact .inl (.inr stage)
      · change (if _ then _ else _) = Stage.acquiring r at hacquiring
        split at hacquiring <;> cases hacquiring
  | clear section_ rest next _ _ stage control =>
      rw [stage] at hok
      rw [control] at hholds
      rcases hholds with htarget | hacquiring
      · exact .inl (.inl htarget)
      · cases rest with
        | cons second rest => cases hacquiring
        | nil =>
            change next = _ at hacquiring
            subst hacquiring
            exact hok.2.2.elim
  | redirect q _ _ _ _ _ _ control =>
      rw [control] at hholds
      exact .inl (.inl (hholds.resolve_right nofun))
  | handOver q _ _ _ _ _ _ control =>
      rw [control] at hholds
      exact .inl (.inl (hholds.resolve_right nofun))
  | publish q _ _ _ _ _ _ control =>
      rw [control] at hholds
      exact .inl (.inl (hholds.resolve_right nofun))
  | make q _ _ _ _ _ _ control =>
      rw [control] at hholds
      exact .inl (.inl (hholds.resolve_right nofun))
  | push _ _ _ _ control =>
      rw [control] at hholds
      exact .inl (.inl (hholds.resolve_right nofun))

/-- A picture that holds a surface stays the current one of its context. -/
theorem current (heffect : CallEffect c s s')
    (hok : (s.contexts c).control.okAt (s.contexts c).control.stage) {r : SurfaceRef}
    (hholds : (s.contexts c).control.holds r) : currentPicture s' c = currentPicture s c := by
  rcases heffect.picture with hsame | ⟨_, hidle, _⟩
  · exact currentPicture_of_control hsame
  · exact absurd hidle (Control.pictureState_of_holds hok hholds)

/-- A section of a call clears the flag of a target only, on its way out of a
failed or cancelled picture, after a blit, or in the film-grain hand-over. -/
theorem completes (heffect : CallEffect c s s')
    (hok : (s.contexts c).control.okAt (s.contexts c).control.stage) {r : SurfaceRef}
    (hpending : (s.surfaces r).resolving = true) (hdone : (s'.surfaces r).resolving = false) :
    (s.contexts c).control.target r ∧ ¬(s.contexts c).control.settled ∧
      (s.contexts c).control.stage ≠ .between ∧
      ((s.contexts c).control.cleaning ∨
        ((s.contexts c).control.entrypoint = .videoProc ∧
          ∃ todo next, (s.contexts c).control.stage = .clearing todo next) ∨
        ((s.contexts c).renderTarget = some r ∧
          ∃ status, (s.contexts c).phase = .handOverFinish status)) := by
  have hsame : (s'.surfaces r).flags = (s.surfaces r).flags → False := by
    intro hflags
    have hresolving : (s'.surfaces r).resolving = (s.surfaces r).resolving :=
      congrArg Flags.resolving hflags
    simp [hresolving, hpending] at hdone
  cases heffect with
  | advance _ flags => exact (hsame (flags r)).elim
  | begin _ flags => exact (hsame (flags r)).elim
  | acquire _ _ flags => exact (hsame (flags r)).elim
  | take _ _ flags => exact (hsame (flags r)).elim
  | push _ _ flags => exact (hsame (flags r)).elim
  | start q _ others flags =>
      by_cases hr : r = q
      · subst hr
        have hstarted : (s'.surfaces r).resolving = true := congrArg Flags.resolving flags
        simp [hstarted] at hdone
      · exact (hsame (others r hr)).elim
  | redirect q _ others flags =>
      by_cases hr : r = q
      · subst hr
        have hstarted : (s'.surfaces r).resolving = true := congrArg Flags.resolving flags
        simp [hstarted] at hdone
      · exact (hsame (others r hr)).elim
  | publish q _ _ others flags =>
      by_cases hr : r = q
      · subst hr
        have hkept : (s'.surfaces r).resolving = (s.surfaces r).resolving :=
          congrArg Flags.resolving flags
        simp [hkept, hpending] at hdone
      · exact (hsame (others r hr)).elim
  | make q _ _ others flags =>
      by_cases hr : r = q
      · subst hr
        have hkept : (s'.surfaces r).resolving = (s.surfaces r).resolving :=
          congrArg Flags.resolving flags
        simp [hkept, hpending] at hdone
      · exact (hsame (others r hr)).elim
  | clear section_ rest next _ flags stage control =>
      have hunsettled := unsettled_of_clearing hok stage
      rw [stage] at hok
      obtain ⟨_, hcleared, _⟩ := hok
      have hclears : section_.clears = some r := by
        by_contra hne
        exact hsame ((flags r).trans (congrArg NVSurface.flags (section_.run_surfaces_ne s hne)))
      refine ⟨hcleared r ((mem_clearedBy_cons _ _ _).mpr (.inl hclears)), hunsettled,
        by simp [stage], ?_⟩
      cases hentry : (s.contexts c).control.entrypoint with
      | vld => exact .inl (.inr ⟨hentry, _, _, stage⟩)
      | videoProc => exact .inr (.inl ⟨rfl, _, _, stage⟩)
  | handOver q _ others flags status phase render control =>
      by_cases hr : r = q
      · subst hr
        have hstage : (s.contexts c).control.stage = .redirecting true status := by
          simp [NVContext.control, phase, Phase.stage]
        rw [hstage] at hok
        have hbuilding := hok.1
        refine ⟨.inl render, ?_, by simp [hstage], .inr (.inr ⟨render, status, phase⟩)⟩
        rintro (h | h) <;> simp [h] at hbuilding
      · exact (hsame (others r hr)).elim

/-- A section of a call changes the flags of a surface only if its picture holds the
surface and is still in the hands of its calls. -/
theorem flags (heffect : CallEffect c s s')
    (hok : (s.contexts c).control.okAt (s.contexts c).control.stage) (r : SurfaceRef) :
    (s'.surfaces r).flags = (s.surfaces r).flags ∨
      ((s.contexts c).control.holds r ∧ ¬(s.contexts c).control.settled ∧
        (s.contexts c).control.stage ≠ .between) := by
  have hopen : ∀ {state}, (s.contexts c).control.pictureState = state →
      state = .building ∨ state = .failed → ¬(s.contexts c).control.settled := by
    rintro state hstate (rfl | rfl) (h | h) <;> simp [h] at hstate
  cases heffect with
  | advance _ flags => exact .inl (flags r)
  | begin _ flags => exact .inl (flags r)
  | acquire _ _ flags => exact .inl (flags r)
  | take _ _ flags => exact .inl (flags r)
  | push _ _ flags => exact .inl (flags r)
  | start q _ others _ stage =>
      by_cases hr : r = q
      · subst hr
        rw [stage] at hok
        exact .inr ⟨.inr stage, hopen hok.1 (.inl rfl), by simp [stage]⟩
      · exact .inl (others r hr)
  | redirect q _ others _ status stage output =>
      by_cases hr : r = q
      · subst hr
        rw [stage] at hok
        exact .inr ⟨.inl (Control.target_of_outputTarget output), hopen hok.1 (.inl rfl),
          by simp [stage]⟩
      · exact .inl (others r hr)
  | clear section_ rest next _ flags stage =>
      have hunsettled := unsettled_of_clearing hok stage
      rw [stage] at hok
      obtain ⟨_, hcleared, _⟩ := hok
      by_cases hclears : section_.clears = some r
      · exact .inr ⟨.inl (hcleared r ((mem_clearedBy_cons _ _ _).mpr (.inl hclears))), hunsettled,
          by simp [stage]⟩
      · exact .inl ((flags r).trans
          (congrArg NVSurface.flags (section_.run_surfaces_ne s hclears)))
  | handOver q _ others _ status phase render =>
      have hstage : (s.contexts c).control.stage = .redirecting true status := by
        simp [NVContext.control, phase, Phase.stage]
      by_cases hr : r = q
      · subst hr
        rw [hstage] at hok
        exact .inr ⟨.inl (.inl render), hopen hok.1 (.inl rfl), by simp [hstage]⟩
      · exact .inl (others r hr)
  | publish q _ _ others _ stage render =>
      by_cases hr : r = q
      · subst hr
        rw [stage] at hok
        exact .inr ⟨.inl (.inl render), hopen hok.1 (.inl rfl), by simp [stage]⟩
      · exact .inl (others r hr)
  | make q status _ others _ phase output =>
      have hstage : (s.contexts c).control.stage = .making status := by
        simp [NVContext.control, phase, Phase.stage]
      by_cases hr : r = q
      · subst hr
        rw [hstage] at hok
        exact .inr ⟨.inl (Control.target_of_outputTarget output), hopen hok.1 (.inl rfl),
          by simp [hstage]⟩
      · exact .inl (others r hr)

/-- A surface expected to be pending is so by this section, or was expected before
and is left pending. -/
theorem expects (heffect : CallEffect c s s')
    (hok : (s.contexts c).control.okAt (s.contexts c).control.stage) {r : SurfaceRef}
    (hexpects : (s'.contexts c).control.expects r) :
    (s'.surfaces r).resolving = true ∨
      ((s.contexts c).control.expects r ∧
        (s'.surfaces r).resolving = (s.surfaces r).resolving) := by
  have hsame : ∀ {q : SurfaceRef}, (s'.surfaces q).flags = (s.surfaces q).flags →
      (s'.surfaces q).resolving = (s.surfaces q).resolving :=
    fun h => congrArg Flags.resolving h
  cases heffect with
  | advance _ flags moves => exact .inr ⟨moves.expects r hexpects, hsame (flags r)⟩
  | take q _ flags _ _ phase _ _ moves =>
      obtain ⟨hvld, hbuilding, hat⟩ := moves.expects r hexpects
      have hstage : (s.contexts c).control.stage = .decoding := by
        simp [NVContext.control, phase, Phase.stage]
      refine .inr ⟨⟨hvld, hbuilding, ?_⟩, hsame (flags r)⟩
      change Control.expectsAt _ r (s.contexts c).control.stage at hat
      rw [hstage] at hat ⊢
      exact hat
  | begin _ _ _ stage hstage control =>
      rw [control] at hexpects
      rcases hstage with rfl | ⟨q, rfl, _⟩ <;> exact hexpects.2.2.elim
  | acquire q _ _ _ _ control =>
      rw [control] at hexpects
      exact hexpects.2.2.elim
  | start q _ _ flags stage control =>
      rw [control] at hexpects
      obtain ⟨hvld, _, hat⟩ := hexpects
      change (s.contexts c).entrypoint = .vld at hvld
      simp only [hvld, reduceCtorEq, if_false] at hat
      cases hat
      exact .inl (congrArg Flags.resolving flags)
  | redirect q _ others flags status stage output control =>
      by_cases hr : r = q
      · subst hr
        exact .inl (congrArg Flags.resolving flags)
      · rw [control] at hexpects
        obtain ⟨hvld, hbuilding, hat⟩ := hexpects
        refine .inr ⟨⟨hvld, hbuilding, ?_⟩, hsame (others r hr)⟩
        rw [stage]
        rcases hat with hrender | hdisplay
        · exact hrender
        · change (s.contexts c).control.displayTarget = some r at hdisplay
          have hsameTarget : r = q := by simpa [Control.outputTarget, hdisplay] using output
          exact absurd hsameTarget hr
  | clear section_ rest next _ _ stage control =>
      rw [stage] at hok
      rw [control] at hexpects
      obtain ⟨hvld, hbuilding, hat⟩ := hexpects
      change (s.contexts c).control.entrypoint = .vld at hvld
      change (s.contexts c).control.pictureState = .building at hbuilding
      exfalso
      cases rest with
      | cons second rest => exact hat
      | nil =>
          obtain ⟨_, _, hnext⟩ := hok
          cases next <;> first | exact hnext.elim | exact hat.elim | skip
          simp [hvld, hbuilding] at hnext
  | handOver q _ others _ status phase render control =>
      have hstage : (s.contexts c).control.stage = .redirecting true status := by
        simp [NVContext.control, phase, Phase.stage]
      rw [hstage] at hok
      rw [control] at hexpects
      obtain ⟨hvld, hbuilding, hat⟩ := hexpects
      change (s.contexts c).control.outputTarget = some r at hat
      have hr : r ≠ q := by
        rintro rfl
        exact hok.2.2.2 (hat.trans render.symm)
      refine .inr ⟨⟨hvld, hbuilding, ?_⟩, hsame (others r hr)⟩
      rw [hstage]
      exact Control.target_of_outputTarget hat
  | publish q _ _ _ _ _ _ control =>
      rw [control] at hexpects
      exact hexpects.2.2.elim
  | make q status _ others flags phase output control =>
      have hstage : (s.contexts c).control.stage = .making status := by
        simp [NVContext.control, phase, Phase.stage]
      rw [control] at hexpects
      obtain ⟨hvld, hbuilding, hat⟩ := hexpects
      refine .inr ⟨⟨hvld, hbuilding, ?_⟩, ?_⟩
      · rw [hstage]
        exact hat
      · by_cases hr : r = q
        · subst hr
          exact congrArg Flags.resolving flags
        · exact hsame (others r hr)
  | push _ _ _ _ control =>
      rw [control] at hexpects
      exact hexpects.2.2.elim

end CallEffect

/-- A surface that a picture holds after a section of a call was held by it before,
or is not pending. -/
theorem Exclusive.holdsAt_call (hexclusive : Exclusive s) (heffect : CallEffect c s s')
    (hcond : ∀ r, s.takes c = some r →
      (s.surfaces r).resolving = false ∧ ∀ d, d ≠ c → ¬s.holdsAt d r)
    {d : ContextRef} {r : SurfaceRef} (hholds : s'.holdsAt d r) :
    s.holdsAt d r ∨
      (d = c ∧ (s'.surfaces r).resolving = false ∧ ∀ e, e ≠ c → ¬s.holdsAt e r) := by
  obtain ⟨hlive, hholds⟩ := hholds
  rw [heffect.life d] at hlive
  by_cases hd : d = c
  · subst hd
    rcases heffect.holds (hexclusive.basic.ok d) hholds with hbefore | ⟨htakes, hflags⟩
    · exact .inl ⟨hlive, hbefore⟩
    · obtain ⟨hresolved, hothers⟩ := hcond r htakes
      have hsame : (s'.surfaces r).resolving = (s.surfaces r).resolving :=
        congrArg Flags.resolving hflags
      exact .inr ⟨rfl, hsame.trans hresolved, hothers⟩
  · rw [heffect.frame.control d hd] at hholds
    exact .inl ⟨hlive, hholds⟩

/-- Only the picture that holds a surface changes its flags, and only while the
picture is in the hands of its calls. -/
theorem Exclusive.flags_call (hexclusive : Exclusive s) (heffect : CallEffect c s s')
    (r : SurfaceRef) :
    (s'.surfaces r).flags = (s.surfaces r).flags ∨
      (s.holdsAt c r ∧ ¬(s.contexts c).control.settled ∧
        (s.contexts c).control.stage ≠ .between) := by
  rcases heffect.flags (hexclusive.basic.ok c) r with hsame | ⟨hholds, hunsettled, hopen⟩
  · exact .inl hsame
  · exact .inr ⟨⟨(hexclusive.basic.lock c hopen).2.1, hholds⟩, hunsettled, hopen⟩

/-- No call touches the flags of the surface of an outstanding job. -/
theorem Exclusive.job_call (hexclusive : Exclusive s) (heffect : CallEffect c s s')
    {d : ContextRef} {p : Pending} (hp : p ∈ s.outstanding d) :
    (s'.surfaces p.job.surface).flags = (s.surfaces p.job.surface).flags := by
  obtain ⟨hpending, hstarted, _⟩ := hexclusive.jobs d p hp
  rcases hexclusive.flags_call heffect p.job.surface with hsame | ⟨hholds, hunsettled, _⟩
  · exact hsame
  · -- the surface would be the caller's, whose picture has no job yet
    have hown := hexclusive.held c _ hholds hpending
    have hpicture : p.job.picture = currentPicture s c := Option.some.inj (hstarted.symm.trans hown)
    have hd : d = c :=
      (hexclusive.basic.jobs d p hp).1.symm.trans (congrArg Picture.context hpicture)
    subst hd
    exact absurd (currentPicture_mem_jobs hexclusive.basic hp hpicture) hunsettled

/-- So an outstanding job stays one of the pending generation of its surface. -/
theorem Exclusive.jobs_call (hexclusive : Exclusive s) (heffect : CallEffect c s s')
    {d : ContextRef} {p : Pending} (hp : p ∈ s.outstanding d) :
    (s'.surfaces p.job.surface).resolving = true ∧
      (s'.surfaces p.job.surface).startedBy = some p.job.picture ∧
      p.job.generation = (s'.surfaces p.job.surface).submittedGeneration := by
  obtain ⟨hpending, hstarted, hgeneration⟩ := hexclusive.jobs d p hp
  have hsame := hexclusive.job_call heffect hp
  exact ⟨(congrArg Flags.resolving hsame).trans hpending,
    (congrArg Flags.startedBy hsame).trans hstarted,
    hgeneration.trans (congrArg Flags.submittedGeneration hsame).symm⟩

theorem Exclusive.call (hexclusive : Exclusive s) (heffect : CallEffect c s s')
    (hcond : ∀ r, s.takes c = some r →
      (s.surfaces r).resolving = false ∧ ∀ d, d ≠ c → ¬s.holdsAt d r) : Exclusive s' where
  basic := hexclusive.basic.call heffect
  unique := by
    intro r d e hd he
    rcases hexclusive.holdsAt_call heffect hcond hd with hdBefore | ⟨hdNew, _, hdOthers⟩ <;>
      rcases hexclusive.holdsAt_call heffect hcond he with heBefore | ⟨heNew, _, heOthers⟩
    · exact hexclusive.unique r d e hdBefore heBefore
    · by_contra hne
      exact heOthers d (heNew ▸ hne) hdBefore
    · by_contra hne
      exact hdOthers e (fun h => hne (hdNew.trans h.symm)) heBefore
    · exact hdNew.trans heNew.symm
  held := by
    intro d r hholds hpending
    have hok := hexclusive.basic.ok c
    rcases hexclusive.holdsAt_call heffect hcond hholds with hbefore | ⟨_, hresolved, _⟩
    · have hcurrent : currentPicture s' d = currentPicture s d := by
        by_cases hd : d = c
        · subst hd
          exact heffect.current hok hbefore.2
        · exact currentPicture_of_control
            (congrArg Control.picture (heffect.frame.control d hd))
      rw [hcurrent]
      rcases heffect.generation hok r with ⟨hstarted, _, hpendingBefore⟩ |
        ⟨hstarted, _, _, hopen, _, hholdsNow, _⟩
      · exact hstarted.trans (hexclusive.held d r hbefore (hpendingBefore hpending))
      · have hsame : d = c := hexclusive.unique r d c hbefore
          ⟨(hexclusive.basic.lock c hopen).2.1, hholdsNow⟩
        rw [hsame]
        exact hstarted
    · simp [hresolved] at hpending
  jobs := by
    intro d p hp
    by_cases hd : d = c
    · subst hd
      rcases heffect.outstanding.2 with hsame | ⟨job, hstage, _, _, hflags, hperm⟩
      · exact hexclusive.jobs_call heffect (hsame ▸ hp)
      · rcases List.mem_cons.mp (hperm.mem_iff.mp hp) with rfl | hbefore
        · -- the pushed job is of the generation that its picture expects
          have hok := hexclusive.basic.ok d
          rw [hstage] at hok
          obtain ⟨hbuilding, hvld, _, houtput, _⟩ := hok
          have hlive : (s.contexts d).life = .live :=
            (hexclusive.basic.lock d (by simp [hstage])).2.1
          have hpending : (s.surfaces job.surface).resolving = true := by
            refine hexclusive.expects d job.surface hlive ⟨hvld, hbuilding, ?_⟩
            rw [hstage]
            exact houtput
          have hstarted : (s.surfaces job.surface).startedBy = some (currentPicture s d) :=
            hexclusive.held d _ ⟨hlive, .inl (Control.target_of_outputTarget houtput)⟩ hpending
          have hgeneration := hexclusive.basic.filled d job hstage hstarted
          have hkept := hflags job.surface
          refine ⟨(congrArg Flags.resolving hkept).trans hpending, ?_, ?_⟩
          · rw [show (Pending.queued job).job.picture = currentPicture s d from
              hexclusive.basic.submitting d job hstage]
            exact (congrArg Flags.startedBy hkept).trans hstarted
          · exact hgeneration.trans (congrArg Flags.submittedGeneration hkept).symm
        · exact hexclusive.jobs_call heffect hbefore
    · exact hexclusive.jobs_call heffect (heffect.outstanding.1 d hd ▸ hp)
  expects := by
    intro d r hlive hexpects
    rw [heffect.life d] at hlive
    by_cases hd : d = c
    · subst hd
      rcases heffect.expects (hexclusive.basic.ok d) hexpects with hnow | ⟨hbefore, hkept⟩
      · exact hnow
      · exact hkept.trans (hexclusive.expects d r hlive hbefore)
    · rw [heffect.frame.control d hd] at hexpects
      have hpending := hexclusive.expects d r hlive hexpects
      rcases hexclusive.flags_call heffect r with hkept | ⟨hholds, _⟩
      · exact (congrArg Flags.resolving hkept).trans hpending
      · exact absurd (hexclusive.unique r d c
          ⟨hlive, .inl (Control.target_of_expects hexpects)⟩ hholds) hd

end Calls

/-! ## The other threads -/

section Threads

variable {s s' : State} {c : ContextRef} {a : Label}

/-- Another thread clears a flag only at the end of a job: the worker of the
context after its copy, or a thread that fails the job. -/
theorem ThreadEffect.completes (heffect : ThreadEffect a s s') {r : SurfaceRef}
    (hpending : (s.surfaces r).resolving = true) (hdone : (s'.surfaces r).resolving = false) :
    ∃ c p, p.job.surface = r ∧ JobsChange c [p] [] s s' ∧
      (((∃ outcome, a = .worker c outcome) ∧ (s.contexts c).worker = .clear p.job p.failed) ∨
        p.job.picture ∈ s'.failed) := by
  have hsame : (s'.surfaces r).flags = (s.surfaces r).flags → False := by
    intro hflags
    have hresolving : (s'.surfaces r).resolving = (s.surfaces r).resolving :=
      congrArg Flags.resolving hflags
    simp [hresolving, hpending] at hdone
  cases heffect with
  | pass _ flags => exact (hsame (flags r)).elim
  | worsen _ _ _ flags => exact (hsame (flags r)).elim
  | drop _ _ _ flags => exact (hsame (flags r)).elim
  | createSurface _ _ _ _ flags => exact (hsame (flags r)).elim
  | createContext _ _ _ _ _ _ _ _ surfaces => exact (hsame (by rw [surfaces])).elim
  | remove _ _ _ _ _ flags => exact (hsame (flags r)).elim
  | free _ _ _ _ _ flags => exact (hsame (flags r)).elim
  | destroy _ _ _ _ _ _ _ surfaces => exact (hsame (by rw [surfaces])).elim
  | delete _ _ _ _ _ surfaces => exact (hsame (by rw [surfaces])).elim
  | mark _ p _ _ others flags =>
      by_cases hr : r = p.job.surface
      · subst hr
        have hkept : (s'.surfaces p.job.surface).resolving =
            (s.surfaces p.job.surface).resolving := congrArg Flags.resolving flags
        simp [hkept, hpending] at hdone
      · exact (hsame (others r hr)).elim
  | finish c p _ others _ jobs _ on worker =>
      by_cases hr : r = p.job.surface
      · exact ⟨c, p, hr.symm, jobs, .inl ⟨on, worker⟩⟩
      · exact (hsame (others r hr)).elim
  | fail c p _ others _ jobs failed =>
      by_cases hr : r = p.job.surface
      · exact ⟨c, p, hr.symm, jobs, .inr (failed ▸ List.mem_cons_self)⟩
      · exact (hsame (others r hr)).elim

theorem JobsChange.mem {p : Pending} {after : List Pending} (hjobs : JobsChange c [p] after s s') :
    p ∈ s.outstanding c := by
  obtain ⟨rest, hbefore, _⟩ := hjobs.own
  exact hbefore.mem_iff.mpr List.mem_cons_self

/-- A job that ends leaves no other job of its picture behind. -/
theorem JobsChange.picture_ne {p q : Pending} (hbasic : Basic s)
    (hjobs : JobsChange c [p] [] s s') {d : ContextRef} (hq : q ∈ s'.outstanding d)
    (hcontext : q.job.picture.context = d) : q.job.picture ≠ p.job.picture := by
  intro hsame
  have hd : d = c := by
    rw [← hcontext, hsame]
    exact (hbasic.jobs c p hjobs.mem).1
  subst hd
  obtain ⟨rest, hbefore, hnow⟩ := hjobs.own
  have hdistinct := (hbefore.map fun p => p.job.picture).nodup_iff.mp (hbasic.distinct d)
  have hrest : q ∈ rest := hnow.mem_iff.mp hq
  refine (List.nodup_cons.mp hdistinct).1 ?_
  exact List.mem_map.mpr ⟨q, hrest, hsame⟩

/-- A live context holds after a section of another thread what it held before. -/
theorem ThreadEffect.holdsAt (heffect : ThreadEffect a s s')
    {d : ContextRef} {r : SurfaceRef} (hholds : s'.holdsAt d r) :
    s.holdsAt d r ∧ (s'.contexts d).control.quiet = (s.contexts d).control.quiet := by
  obtain ⟨hlive, hholds⟩ := hholds
  rcases heffect.kept d with hkept | ⟨_, _, _, _, _, hcontrol⟩
  · have hquiet := hkept.quiet
    refine ⟨⟨?_, ?_⟩, hquiet⟩
    · rcases hkept.life with hsame | ⟨_, hfreed⟩
      · exact hsame.symm.trans hlive
      · simp [hfreed] at hlive
    · change (s'.contexts d).control.quiet.holds r at hholds
      rw [hquiet] at hholds
      exact hholds
  · rw [hcontrol] at hholds
    rcases hholds with (h | h) | h <;> cases h

/-- No other thread ends the generation of a surface whose picture is still in the
hands of its calls. -/
theorem Exclusive.pending_thread (hexclusive : Exclusive s) (heffect : ThreadEffect a s s')
    {d : ContextRef} {r : SurfaceRef} (hholds : s.holdsAt d r)
    (hunsettled : ¬(s.contexts d).control.settled) (hpending : (s.surfaces r).resolving = true) :
    (s'.surfaces r).resolving = true := by
  cases hnow : (s'.surfaces r).resolving with
  | true => rfl
  | false =>
      obtain ⟨c, p, rfl, hjobs, _⟩ := heffect.completes hpending hnow
      have hstarted := (hexclusive.jobs c p hjobs.mem).2.1
      rw [hexclusive.held d _ hholds hpending] at hstarted
      have hpicture : currentPicture s d = p.job.picture := Option.some.inj hstarted
      have hd : d = c :=
        (congrArg Picture.context hpicture).trans (hexclusive.basic.jobs c p hjobs.mem).1
      subst hd
      exact absurd (currentPicture_mem_jobs hexclusive.basic hjobs.mem hpicture.symm) hunsettled

theorem Exclusive.thread (hexclusive : Exclusive s) (heffect : ThreadEffect a s s') :
    Exclusive s' where
  basic := hexclusive.basic.thread heffect
  unique := by
    intro r d e hd he
    exact hexclusive.unique r d e (heffect.holdsAt hd).1
      (heffect.holdsAt he).1
  held := by
    intro d r hholds hpending
    obtain ⟨hbefore, hquiet⟩ := heffect.holdsAt hholds
    obtain ⟨hstarted, _, hpendingBefore⟩ := heffect.generation r
    rw [currentPicture_of_control (quiet_picture hquiet), hstarted]
    exact hexclusive.held d r hbefore (hpendingBefore hpending)
  jobs := by
    intro d q hq
    obtain ⟨p, hp, hsame⟩ := heffect.outstanding.job hq
    obtain ⟨hstarted, hgeneration, _⟩ := heffect.generation q.job.surface
    have hbefore := hexclusive.jobs d p hp
    rw [hsame] at hbefore
    refine ⟨?_, hstarted.trans hbefore.2.1, hbefore.2.2.trans hgeneration.symm⟩
    cases hnow : (s'.surfaces q.job.surface).resolving with
    | true => rfl
    | false =>
        obtain ⟨c, ended, hsurface, hjobs, _⟩ := heffect.completes hbefore.1 hnow
        have hended := (hexclusive.jobs c ended hjobs.mem).2.1
        rw [hsurface, hbefore.2.1] at hended
        have hcontext : q.job.picture.context = d := by
          rw [← hsame]
          exact (hexclusive.basic.jobs d p hp).1
        exact absurd (Option.some.inj hended)
          (hjobs.picture_ne hexclusive.basic hq hcontext)
  expects := by
    intro d r hlive hexpects
    have hholds : s'.holdsAt d r := ⟨hlive, .inl (Control.target_of_expects hexpects)⟩
    obtain ⟨hbefore, hquiet⟩ := heffect.holdsAt hholds
    have hexpectsBefore : (s.contexts d).control.expects r := by
      change (s'.contexts d).control.quiet.expects r at hexpects
      rw [hquiet] at hexpects
      exact hexpects
    refine hexclusive.pending_thread heffect hbefore ?_
      (hexclusive.expects d r hbefore.1 hexpectsBefore)
    have hbuilding := hexpectsBefore.2.1
    rintro (h | h) <;> simp [h] at hbuilding

/-! ## Every run -/

theorem Exclusive.sync {thread : Nat} (hexclusive : Exclusive s)
    (heffect : SyncEffect thread s s') : Exclusive s' := by
  have hcurrent : ∀ d, currentPicture s' d = currentPicture s d := fun d =>
    currentPicture_of_control (by rw [heffect.contexts])
  constructor
  case basic => exact hexclusive.basic.sync heffect
  all_goals
    simp only [State.holdsAt, heffect.contexts, heffect.surfaces, heffect.outstanding, hcurrent]
  · exact hexclusive.unique
  · exact hexclusive.held
  · exact hexclusive.jobs
  · exact hexclusive.expects

theorem Exclusive.step (hexclusive : Exclusive s) (hcond : ExclusiveUse s a)
    (hstep : Driver.step s a = some s') : Exclusive s' := by
  cases step_effect hexclusive.basic.ok hstep with
  | call c on effect => exact hexclusive.call effect fun r htakes => hcond c r on htakes
  | thread _ effect => exact hexclusive.thread effect
  | sync _ thread effect => exact hexclusive.sync effect

theorem exclusive_init (config : DriverConfig) (images : ImageRef → BackingImage) :
    Exclusive (driver config images).init where
  basic := basic_init config images
  unique := fun _ _ _ h => nomatch h.1
  held := fun _ _ h => nomatch h.1
  jobs := by
    intro c p hp
    have hnone : (driver config images).init.outstanding c = [] := rfl
    simp [hnone] at hp
  expects := fun _ _ h => nomatch h

theorem exclusive_of_reachable {config : DriverConfig} {images : ImageRef → BackingImage}
    {cond : State → Label → Prop} (hcond : ∀ s a, cond s a → ExclusiveUse s a)
    (hs : (driver config images).ReachableUnder cond s) : Exclusive s :=
  LabelledSystem.invariant (exclusive_init config images)
    (fun s a _ h hstepCond hstep => h.step (hcond s a hstepCond) hstep) hs

end Threads

/-! ## Runs with finitely many contexts -/

instance (κ : Control) (r : SurfaceRef) : Decidable (κ.holds r) :=
  inferInstanceAs (Decidable ((_ ∨ _) ∨ _))

instance (s : State) (c : ContextRef) (r : SurfaceRef) : Decidable (s.holdsAt c r) :=
  inferInstanceAs (Decidable (_ ∧ _))

/-- `ExclusiveUse` where only the contexts below `n` are ever created. -/
def ExclusiveAmong (n : Nat) (s : State) (a : Label) : Prop :=
  (∀ c ∈ a.creates, c < n) ∧ ∀ c ∈ a.callOn, ∀ r ∈ s.takes c,
    (s.surfaces r).resolving = false ∧ ∀ d < n, d ≠ c → ¬s.holdsAt d r

instance (n : Nat) (s : State) (a : Label) : Decidable (ExclusiveAmong n s a) :=
  inferInstanceAs (Decidable (_ ∧ _))

/-- No context from `n` on has been created. -/
structure ContextsBelow (n : Nat) (s : State) : Prop where
  basic : Basic s
  absent : ∀ d, n ≤ d → (s.contexts d).life = .absent

theorem ContextsBelow.init (n : Nat) (config : DriverConfig) (images : ImageRef → BackingImage) :
    ContextsBelow n (driver config images).init :=
  ⟨basic_init config images, fun _ _ => rfl⟩

section Finite

variable {n : Nat} {s s' : State} {a : Label}

theorem ContextsBelow.step (hbelow : ContextsBelow n s) (hcreates : ∀ c ∈ a.creates, c < n)
    (hstep : Driver.step s a = some s') : ContextsBelow n s' where
  basic := hbelow.basic.step hstep
  absent := by
    intro d hd
    have habsent := hbelow.absent d hd
    cases step_effect hbelow.basic.ok hstep with
    | call c _ effect => exact (effect.life d).trans habsent
    | thread _ effect =>
        rcases effect.kept d with hkept | ⟨_, _, hcreated, _⟩
        · rcases hkept.life with hsame | ⟨hdestroys, _⟩
          · exact hsame.trans habsent
          · simp [hbelow.basic.destroying d hdestroys] at habsent
        · exact absurd (hcreates d hcreated) (Nat.not_lt.mpr hd)
    | sync _ thread effect =>
        rw [effect.contexts]
        exact habsent

theorem ContextsBelow.lt_of_live (hbelow : ContextsBelow n s) {d : ContextRef}
    (hlive : (s.contexts d).life = .live) : d < n := by
  by_contra hd
  have habsent := hbelow.absent d (Nat.not_lt.mp hd)
  rw [hlive] at habsent
  cases habsent

theorem ContextsBelow.exclusiveUse (hbelow : ContextsBelow n s) (hamong : ExclusiveAmong n s a) :
    ExclusiveUse s a := by
  intro c r hcall htakes
  obtain ⟨hresolved, hothers⟩ := hamong.2 c hcall r htakes
  exact ⟨hresolved, fun d hne hholds => hothers d (hbelow.lt_of_live hholds.1) hne hholds⟩

/-- The state after a checked execution is reached under exclusive use. -/
theorem exclusiveUse_after {config : DriverConfig} {images : ImageRef → BackingImage}
    {labels : List Label}
    (hexec : ((driver config images).executeIf (ExclusiveAmong n) (driver config images).init
      labels).isSome) :
    (driver config images).ReachableUnder ExclusiveUse ((driver config images).after labels) :=
  LabelledSystem.reachableUnder_after (ContextsBelow n)
    (fun _ _ _ hbelow hcheck hstep => hbelow.step hcheck.1 hstep)
    (fun _ _ hbelow hcheck => hbelow.exclusiveUse hcheck) (.init n config images) hexec

end Finite

/-- `nvBeginPicture`, followed through a number of sections. -/
def beginScript (c : ContextRef) (r : SurfaceRef) (sections : Nat) : List Label :=
  .beginPicture c r :: List.replicate sections (.call c .ok)

/-- `nvRenderPicture` with a picture-parameter buffer, which takes a number of
look-ups, and a slice-parameter buffer with a number of tiles. -/
def renderScript (c : ContextRef) (buffer : PictureParameterBuffer) (lookups tiles : Nat) :
    List Label :=
  [.renderPicture c true, .call c (.decodeBuffer (.pictureParameter buffer))] ++
    List.replicate lookups (.call c .ok) ++
    [.call c (.decodeBuffer (.handled tiles .accepted)), .call c .endOfBuffers, .call c .ok]

/-- A failing `nvRenderPicture` and the `nvEndPicture` that follows, for a picture
whose targets take a number of sections to clear. -/
def failScript (c : ContextRef) (sections : Nat) : List Label :=
  .renderPicture c false :: List.replicate (sections + sections + 1) (.call c .ok) ++
    .endPicture c :: List.replicate (sections + 1) (.call c .ok)

/-- `nvEndPicture` of a decode picture that creates the decoder, followed through a
number of sections. -/
def endScript (c : ContextRef) (sections : Nat) : List Label :=
  [.endPicture c, .call c (.decoder 0)] ++ List.replicate sections (.call c .ok)

end Driver
end NvidiaVaapi
