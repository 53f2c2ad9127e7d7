import NvidiaVaapi.Driver.BasicInvariant

/-!
# Who will end a pending generation

A surface whose `resolving` flag is set is a target of an open picture that owes
it an end, or has an outstanding resolve job of its current generation.
`nvDestroyContext` keeps this only if no target of its context is pending, since
nothing ends the generation of a picture whose context is gone.
-/

namespace NvidiaVaapi
namespace Driver

/-- The picture of a live context has begun and not ended, and the surface is one
of its targets. -/
def State.openTarget (s : State) (r : SurfaceRef) : Prop :=
  ∃ c, (s.contexts c).life = .live ∧ (s.contexts c).pictureState ≠ .idle ∧
    ((s.contexts c).renderTarget = some r ∨ (s.contexts c).displayTarget = some r)

/-- A resolve job of the surface is queued, in a worker's hands, or taken from the
queue by a destroy call that is failing it. -/
def State.hasJob (s : State) (r : SurfaceRef) : Prop :=
  ∃ c, ∃ p ∈ s.outstanding c, p.job.surface = r

/-- Somebody is going to end the surface's generation. -/
def State.awaited (s : State) (r : SurfaceRef) : Prop :=
  s.openTarget r ∨ s.hasJob r

/-- `nvDestroyContext` finds no target of the context pending. -/
def DestroyedAtRest (s : State) (a : Label) : Prop :=
  ∀ c, a = .destroyContext c → ∀ r, (s.contexts c).control.target r →
    (s.surfaces r).resolving = false

/-- The pending generation of a surface has an owner: the picture that started it
owes it an end, or a job of that generation is outstanding. -/
def State.owned (s : State) (r : SurfaceRef) : Prop :=
  (∃ p, (s.surfaces r).startedBy = some p ∧ (s.contexts p.context).life = .live ∧
      p = currentPicture s p.context ∧ (s.contexts p.context).control.owes r) ∨
    ∃ d, ∃ p ∈ s.outstanding d, p.job.surface = r ∧
      p.job.generation = (s.surfaces r).submittedGeneration

/-- The invariant behind `State.awaited`. -/
structure Owned (s : State) : Prop where
  basic : Basic s
  owned : ∀ r, (s.surfaces r).resolving = true → s.owned r
  atRest : ∀ c, s.destroys c → ∀ r, (s.contexts c).control.target r →
    (s.surfaces r).resolving = false

section Calls

variable {s s' : State} {c : ContextRef}

/-- What a picture owes it still owes after a section of its call, unless the
section ends the generation or pushes its job. -/
theorem CallEffect.owes (heffect : CallEffect c s s')
    (hok : (s.contexts c).control.okAt (s.contexts c).control.stage) {r : SurfaceRef}
    (howes : (s.contexts c).control.owes r) (hpending : (s'.surfaces r).resolving = true) :
    ((s'.contexts c).control.owes r ∧ currentPicture s' c = currentPicture s c) ∨
      ∃ job, (s.contexts c).control.stage = .submitting job ∧ job.surface = r ∧
        .queued job ∈ s'.outstanding c := by
  obtain ⟨htarget, hat⟩ := howes
  cases heffect with
  | advance _ _ moves =>
      exact .inl ⟨moves.owes r ⟨htarget, hat⟩, currentPicture_of_control moves.picture⟩
  | begin _ _ idle stage hstage control =>
      exfalso
      generalize (s.contexts c).control = κ at hok idle hat
      cases hκ : κ.stage <;> rw [hκ] at hok hat <;> simp_all [Control.okAt, Control.owesAt,
        Control.untargeted]
      split at hok <;> simp_all
  | acquire q _ _ phase _ control =>
      have hstage : (s.contexts c).control.stage = .waiting q := by
        simp [NVContext.control, phase, Phase.stage]
      rw [hstage] at hat
      exact hat.elim
  | take q _ _ _ _ phase _ _ moves =>
      have hstage : (s.contexts c).control.stage = .decoding := by
        simp [NVContext.control, phase, Phase.stage]
      rw [hstage] at hat
      refine .inl ⟨moves.owes r ⟨.inl hat, ?_⟩, currentPicture_of_control moves.picture⟩
      rw [hstage]
      exact hat
  | start q _ _ _ stage control =>
      rw [stage] at hat
      exact hat.elim
  | redirect q _ _ _ status stage output control =>
      refine .inl ⟨?_, currentPicture_of_control (by rw [control])⟩
      rw [control]
      exact ⟨htarget, htarget⟩
  | clear section_ rest next _ flags stage control =>
      refine .inl ⟨?_, currentPicture_of_control (by rw [control])⟩
      rw [stage] at hat
      rw [control]
      refine ⟨htarget, ?_⟩
      refine (Control.owesAt_after r rest next).mpr ?_
      rcases hat with hcleared | hnext
      · rcases (mem_clearedBy_cons _ _ _).mp hcleared with hnow | hlater
        · have hresolving := congrArg Flags.resolving (flags r)
          change (s'.surfaces r).resolving = ((section_.run s).surfaces r).resolving at hresolving
          rw [hresolving, section_.run_resolving s hnow] at hpending
          cases hpending
        · exact .inl hlater
      · exact .inr ((Control.owesAt_setStage _ _ _).mpr hnext)
  | handOver q _ _ flags status phase render control =>
      have hstage : (s.contexts c).control.stage = .redirecting true status := by
        simp [NVContext.control, phase, Phase.stage]
      rw [hstage] at hok
      obtain ⟨_, hvld, htargeted, _⟩ := hok
      refine .inl ⟨?_, currentPicture_of_control (by rw [control])⟩
      rw [control]
      refine ⟨htarget, ?_⟩
      rcases htarget with hrender | hdisplay
      · have hsame : q = r := by
          rw [render] at hrender
          exact Option.some.inj hrender
        subst hsame
        have hdone := congrArg Flags.resolving flags
        change (s'.surfaces q).resolving = false at hdone
        simp [hdone] at hpending
      · change Control.outputTarget _ = some r
        simp only [Control.outputTarget]
        rw [hdisplay]
        rfl
  | publish q src _ _ _ stage render control =>
      refine .inl ⟨?_, currentPicture_of_control (by rw [control])⟩
      rw [stage] at hat
      rw [control]
      refine ⟨htarget, .inl ?_⟩
      have hsame : q = r := by
        change (s.contexts c).control.renderTarget = some r at hat
        rw [render] at hat
        exact Option.some.inj hat
      simp [hsame]
  | make q status _ _ _ phase output control =>
      have hstage : (s.contexts c).control.stage = .making status := by
        simp [NVContext.control, phase, Phase.stage]
      refine .inl ⟨?_, currentPicture_of_control (by rw [control])⟩
      rw [hstage] at hat
      rw [control]
      exact ⟨htarget, hat⟩
  | push job _ _ stage control =>
      rw [stage] at hok hat
      obtain ⟨_, _, _, houtput, _⟩ := hok
      refine .inr ⟨job, stage, ?_, ?_⟩
      · change (s.contexts c).control.outputTarget = some r at hat
        rw [houtput] at hat
        exact Option.some.inj hat
      · simp [State.outstanding, control, Control.pending]

/-- A call that is not in progress before or after a section gains no target. -/
theorem CallEffect.target_of_closed (heffect : CallEffect c s s')
    (hclosed : (s.contexts c).control.stage = .between) {r : SurfaceRef}
    (htarget : (s'.contexts c).control.target r) : (s.contexts c).control.target r := by
  have hphase : ∀ {phase : Phase}, (s.contexts c).phase = phase → phase.stage = .between := by
    rintro _ rfl
    exact hclosed
  cases heffect with
  | advance _ _ moves =>
      rcases moves.holds r (.inl htarget) with h | h
      · exact h
      · simp [hclosed] at h
  | begin _ _ _ _ _ control => rw [control] at htarget; exact htarget
  | acquire _ _ _ phase => cases hphase phase
  | take _ _ _ _ _ phase => cases hphase phase
  | start _ _ _ _ stage => simp [hclosed] at stage
  | redirect _ _ _ _ _ stage => simp [hclosed] at stage
  | clear _ _ _ _ _ stage => simp [hclosed] at stage
  | handOver _ _ _ _ _ phase => cases hphase phase
  | publish _ _ _ _ _ stage => simp [hclosed] at stage
  | make _ _ _ _ _ phase => cases hphase phase
  | push _ _ _ stage => simp [hclosed] at stage

theorem outstanding_call (heffect : CallEffect c s s') {d : ContextRef} {p : Pending}
    (hp : p ∈ s.outstanding d) : p ∈ s'.outstanding d := by
  by_cases hd : d = c
  · subst hd
    rcases heffect.outstanding.2 with hsame | ⟨_, _, _, _, _, hperm⟩
    · exact hsame ▸ hp
    · exact hperm.mem_iff.mpr (List.mem_cons_of_mem _ hp)
  · exact (heffect.outstanding.1 d hd) ▸ hp

/-- The open picture that started the pending generation owes it an end. -/
def State.owedBy (s : State) (r : SurfaceRef) (p : Picture) : Prop :=
  (s.surfaces r).startedBy = some p ∧ p = currentPicture s p.context ∧
    (s.contexts p.context).control.owes r

/-- A job of the pending generation is outstanding. -/
def State.submitted (s : State) (r : SurfaceRef) : Prop :=
  ∃ d, ∃ p ∈ s.outstanding d, p.job.surface = r ∧
    p.job.generation = (s.surfaces r).submittedGeneration

/-- A section of a call passes an owed end on to the job of the picture, unless it
starts a new generation. -/
theorem CallEffect.owed (heffect : CallEffect c s s') (hbasic : Basic s) {r : SurfaceRef}
    (hpending : (s'.surfaces r).resolving = true) :
    ((s.surfaces r).resolving = true ∧ (∀ p, s.owedBy r p → s'.owedBy r p ∨ s'.submitted r) ∧
        (s.submitted r → s'.submitted r)) ∨
      ((s.contexts c).control.stage ≠ .between ∧ s'.owedBy r (currentPicture s c)) := by
  have hok := hbasic.ok c
  rcases heffect.generation hok r with ⟨hstarted, hgeneration, hbefore⟩ |
    ⟨hstarted, hcurrent, howes, hopen, _⟩
  · refine .inl ⟨hbefore hpending, ?_, ?_⟩
    · rintro p ⟨hp, hpicture, howes⟩
      by_cases hc : p.context = c
      · rw [hc] at hpicture howes
        rcases heffect.owes hok howes hpending with ⟨howes', hcurrent⟩ | ⟨job, hstage, rfl, hqueued⟩
        · refine .inl ⟨hstarted.trans hp, ?_, ?_⟩
          · rw [hc, hcurrent]
            exact hpicture
          · rw [hc]
            exact howes'
        · -- the job takes over
          refine .inr ⟨c, .queued job, hqueued, rfl, ?_⟩
          rw [hgeneration]
          exact hbasic.filled c job hstage (by rw [hp, hpicture])
      · have hcontrol := heffect.frame.control p.context hc
        refine .inl ⟨hstarted.trans hp, ?_, ?_⟩
        · rw [currentPicture_of_control (congrArg Control.picture hcontrol)]
          exact hpicture
        · rw [hcontrol]
          exact howes
    · rintro ⟨d, p, hp, hsurface, hmatch⟩
      refine ⟨d, p, outstanding_call heffect hp, hsurface, ?_⟩
      rw [hgeneration]
      exact hmatch
  · exact .inr ⟨hopen, hstarted, hcurrent.symm, howes⟩

theorem Owned.owned_call (howned : Owned s) (heffect : CallEffect c s s') (r : SurfaceRef)
    (hpending : (s'.surfaces r).resolving = true) : s'.owned r := by
  rcases heffect.owed howned.basic hpending with ⟨hbefore, howed, hsubmitted⟩ |
    ⟨hopen, hstarted, hcurrent, howes⟩
  · rcases howned.owned r hbefore with ⟨p, hp, hlive, hpicture, howes⟩ | hjob
    · rcases howed p ⟨hp, hpicture, howes⟩ with ⟨hp', hpicture', howes'⟩ | hjob
      · exact .inl ⟨p, hp', (heffect.life p.context).trans hlive, hpicture', howes'⟩
      · exact .inr hjob
    · exact .inr (hsubmitted hjob)
  · refine .inl ⟨currentPicture s c, hstarted, ?_, hcurrent, howes⟩
    rw [heffect.life]
    exact (howned.basic.lock c hopen).2.1

theorem Owned.call (howned : Owned s) (heffect : CallEffect c s s') : Owned s' where
  basic := howned.basic.call heffect
  owned := howned.owned_call heffect
  atRest := by
    intro d hdestroys r htarget
    have hbefore := destroys_of_writer heffect.frame.lifetimeWriter hdestroys
    have hlocked : s.lifetimeWriter ≠ none := by
      obtain ⟨stage, hstage⟩ := hbefore
      simp [hstage]
    have hclosed := howned.basic.locked hlocked
    have hok := howned.basic.ok c
    have hkept : (s.contexts d).control.target r := by
      by_cases hd : d = c
      · subst hd
        exact heffect.target_of_closed (hclosed d) htarget
      · rw [heffect.frame.control d hd] at htarget
        exact htarget
    rcases heffect.generation hok r with ⟨_, _, hpending⟩ | ⟨_, _, _, hopen, _⟩
    · by_contra hnow
      have hdone := howned.atRest d hbefore r hkept
      rw [hpending (by simpa using hnow)] at hdone
      cases hdone
    · exact absurd (hclosed c) hopen

end Calls

/-! ## The other threads -/

section Threads

variable {s s' : State} {c : ContextRef} {a : Label}

/-- The job of a pending generation outlives every section of another thread. -/
theorem OutstandingEffect.kept (heffect : OutstandingEffect s s') (hbasic : Basic s)
    {p : Pending} {d : ContextRef} (hp : p ∈ s.outstanding d)
    (hpending : (s'.surfaces p.job.surface).resolving = true)
    (hmatch : p.job.generation = (s.surfaces p.job.surface).submittedGeneration) :
    ∃ q ∈ s'.outstanding d, q.job = p.job := by
  cases heffect with
  | same jobs => exact ⟨p, (jobs d).mem_iff.mpr hp, rfl⟩
  | moved c before after hjob jobs =>
      by_cases hd : d = c
      · subst hd
        obtain ⟨rest, hbefore, hnow⟩ := jobs.own
        rcases List.mem_cons.mp (hbefore.mem_iff.mp hp) with rfl | hrest
        · exact ⟨after, hnow.mem_iff.mpr List.mem_cons_self, hjob⟩
        · exact ⟨p, hnow.mem_iff.mpr (List.mem_cons_of_mem _ hrest), rfl⟩
      · exact ⟨p, (jobs.others d hd).symm ▸ hp, rfl⟩
  | ended c before jobs done =>
      by_cases hd : d = c
      · subst hd
        obtain ⟨rest, hbefore, hnow⟩ := jobs.own
        rcases List.mem_cons.mp (hbefore.mem_iff.mp hp) with rfl | hrest
        · rcases done with hdone | hsuperseded
          · simp [hdone] at hpending
          · exact absurd hmatch.symm hsuperseded
        · exact ⟨p, hnow.mem_iff.mpr hrest, rfl⟩
      · exact ⟨p, (jobs.others d hd).symm ▸ hp, rfl⟩
  | created c absent _ others =>
      by_cases hd : d = c
      · subst hd
        rw [(hbasic.absent d absent).2] at hp
        cases hp
      · exact ⟨p, (others d hd).symm ▸ hp, rfl⟩

/-- A live context keeps its call until its own destruction deletes it. -/
theorem ThreadEffect.live (heffect : ThreadEffect a s s') {d : ContextRef}
    (hlive : (s.contexts d).life = .live) :
    ((s'.contexts d).life = .live ∧
      (s'.contexts d).control.quiet = (s.contexts d).control.quiet) ∨ s.destroys d := by
  rcases heffect.kept d with hkept | ⟨habsent, _⟩
  · rcases hkept.life with hsame | ⟨hdestroys, _⟩
    · exact .inl ⟨hsame.trans hlive, hkept.quiet⟩
    · exact .inr hdestroys
  · simp [habsent] at hlive

theorem owes_quiet (κ : Control) (r : SurfaceRef) : κ.quiet.owes r ↔ κ.owes r := by
  unfold Control.owes
  have hat : κ.quiet.owesAt r κ.stage ↔ κ.owesAt r κ.stage := by
    induction κ.stage with
    | clearing todo next ih => simp [Control.owesAt, ih]
    | redirecting started status => cases started <;> exact Iff.rfl
    | _ => exact Iff.rfl
  exact and_congr Iff.rfl hat

/-- A section of another thread leaves an owed end to its picture, and the job of a
pending generation outstanding. -/
theorem ThreadEffect.owed (heffect : ThreadEffect a s s') (hbasic : Basic s) {r : SurfaceRef}
    (hpending : (s'.surfaces r).resolving = true) :
    (s.surfaces r).resolving = true ∧ (∀ p, s.owedBy r p → s'.owedBy r p) ∧
      (s.submitted r → s'.submitted r) := by
  obtain ⟨hstarted, hgeneration, hbefore⟩ := heffect.generation r
  refine ⟨hbefore hpending, ?_, ?_⟩
  · rintro p ⟨hp, hpicture, howes⟩
    rcases heffect.kept p.context with hkept | ⟨habsent, _⟩
    · refine ⟨hstarted.trans hp, ?_, ?_⟩
      · rw [currentPicture_of_control (quiet_picture hkept.quiet)]
        exact hpicture
      · rw [← owes_quiet, hkept.quiet, owes_quiet]
        exact howes
    · -- no picture has begun on a context that does not exist
      have hnumbered := hbasic.started r p hp
      rw [(hbasic.absent p.context habsent).1] at hnumbered
      omega
  · rintro ⟨d, p, hp, rfl, hmatch⟩
    obtain ⟨q, hq, hsame⟩ := heffect.outstanding.kept hbasic hp hpending hmatch
    refine ⟨d, q, hq, by rw [hsame], ?_⟩
    rw [hgeneration, hsame]
    exact hmatch

/-- The generation of every pending surface is owed an end by a picture, of whatever
context, or a job for it is outstanding. -/
structure Answered (s : State) : Prop where
  basic : Basic s
  answered : ∀ r, (s.surfaces r).resolving = true → (∃ p, s.owedBy r p) ∨ s.submitted r

theorem Answered.call (hanswered : Answered s) (heffect : CallEffect c s s') : Answered s' where
  basic := hanswered.basic.call heffect
  answered := by
    intro r hpending
    rcases heffect.owed hanswered.basic hpending with ⟨hbefore, howed, hkept⟩ | ⟨_, howed⟩
    · rcases hanswered.answered r hbefore with ⟨p, hp⟩ | hjob
      · exact (howed p hp).imp_left fun h => ⟨p, h⟩
      · exact .inr (hkept hjob)
    · exact .inl ⟨_, howed⟩

theorem Answered.thread (hanswered : Answered s) (heffect : ThreadEffect a s s') :
    Answered s' where
  basic := hanswered.basic.thread heffect
  answered := by
    intro r hpending
    obtain ⟨hbefore, howed, hkept⟩ := heffect.owed hanswered.basic hpending
    rcases hanswered.answered r hbefore with ⟨p, hp⟩ | hjob
    · exact .inl ⟨p, howed p hp⟩
    · exact .inr (hkept hjob)

theorem Answered.sync {thread : Nat} (hanswered : Answered s)
    (heffect : SyncEffect thread s s') : Answered s' := by
  have hcurrent : ∀ d, currentPicture s' d = currentPicture s d := fun d =>
    currentPicture_of_control (by rw [heffect.contexts])
  constructor
  case basic => exact hanswered.basic.sync heffect
  simp only [State.owedBy, State.submitted, heffect.contexts, heffect.surfaces,
    heffect.outstanding, hcurrent]
  exact hanswered.answered

theorem Answered.step (hanswered : Answered s) (hstep : Driver.step s a = some s') :
    Answered s' := by
  cases step_effect hanswered.basic.ok hstep with
  | call c _ effect => exact hanswered.call effect
  | thread _ effect => exact hanswered.thread effect
  | sync _ thread effect => exact hanswered.sync effect

theorem answered_init (config : DriverConfig) (images : ImageRef → BackingImage) :
    Answered (driver config images).init where
  basic := basic_init config images
  answered := nofun

theorem Owned.thread (howned : Owned s) (heffect : ThreadEffect a s s')
    (hcond : DestroyedAtRest s a) : Owned s' where
  basic := howned.basic.thread heffect
  owned := by
    intro r hpending
    obtain ⟨hbefore, howed, hsubmitted⟩ := heffect.owed howned.basic hpending
    rcases howned.owned r hbefore with ⟨p, hp, hlive, hpicture, howes⟩ | hjob
    · rcases heffect.live hlive with ⟨hlive', _⟩ | hdestroys
      · obtain ⟨hp', hpicture', howes'⟩ := howed p ⟨hp, hpicture, howes⟩
        exact .inl ⟨p, hp', hlive', hpicture', howes'⟩
      · have hdone := howned.atRest _ hdestroys r howes.1
        simp [hbefore] at hdone
    · exact .inr (hsubmitted hjob)
  atRest := by
    intro d hdestroys r htarget
    have hdone : (s.contexts d).control.target r → (s.surfaces r).resolving = false := by
      intro hbefore
      rcases (heffect.destroys hdestroys).2 with hrunning | ⟨hnamed, _⟩
      · exact howned.atRest d hrunning r hbefore
      · exact hcond d hnamed r hbefore
    have hresolved : (s.surfaces r).resolving = false := by
      rcases heffect.kept d with hkept | ⟨_, _, _, _, _, hcontrol⟩
      · refine hdone ?_
        have hrender := congrArg Control.renderTarget hkept.quiet
        have hdisplay := congrArg Control.displayTarget hkept.quiet
        change (s'.contexts d).renderTarget = (s.contexts d).renderTarget at hrender
        change (s'.contexts d).displayTarget = (s.contexts d).displayTarget at hdisplay
        rcases htarget with h | h
        · exact .inl (hrender.symm.trans h)
        · exact .inr (hdisplay.symm.trans h)
      · rw [hcontrol] at htarget
        rcases htarget with h | h <;> cases h
    by_contra hnow
    rw [(heffect.generation r).2.2 (by simpa using hnow)] at hresolved
    cases hresolved

/-! ## Every run -/

theorem Owned.sync {thread : Nat} (howned : Owned s) (heffect : SyncEffect thread s s') :
    Owned s' where
  basic := howned.basic.sync heffect
  owned := by
    intro r hpending
    have hcurrent : ∀ d, currentPicture s' d = currentPicture s d := fun d =>
      currentPicture_of_control (by rw [heffect.contexts])
    unfold State.owned
    simp only [heffect.surfaces, heffect.contexts, heffect.outstanding, hcurrent]
    rw [heffect.surfaces] at hpending
    exact howned.owned r hpending
  atRest := by
    intro d hdestroys r htarget
    rw [heffect.contexts] at htarget
    rw [heffect.surfaces]
    exact howned.atRest d (destroys_of_writer heffect.lifetimeWriter hdestroys) r htarget

theorem Owned.step (howned : Owned s) (hcond : DestroyedAtRest s a)
    (hstep : Driver.step s a = some s') : Owned s' := by
  cases step_effect howned.basic.ok hstep with
  | call c _ effect => exact howned.call effect
  | thread _ effect => exact howned.thread effect hcond
  | sync _ thread effect => exact howned.sync effect

theorem owned_init (config : DriverConfig) (images : ImageRef → BackingImage) :
    Owned (driver config images).init where
  basic := basic_init config images
  owned := nofun
  atRest := by
    rintro c ⟨stage, hstage⟩
    cases hstage

theorem pictureState_of_owes {κ : Control} (hok : κ.okAt κ.stage) {r : SurfaceRef}
    (howes : κ.owes r) : κ.pictureState ≠ .idle := by
  obtain ⟨_, hat⟩ := howes
  intro hidle
  cases hκ : κ.stage <;> rw [hκ] at hok hat <;> simp_all [Control.okAt, Control.owesAt,
    Control.untargeted]
  split at hok <;> simp_all

theorem awaited_of_owned (hbasic : Basic s) {r : SurfaceRef} (howned : s.owned r) :
    s.awaited r := by
  rcases howned with ⟨p, _, hlive, _, howes⟩ | ⟨d, p, hp, hsurface, _⟩
  · refine .inl ⟨p.context, hlive, ?_, howes.1⟩
    exact pictureState_of_owes (hbasic.ok p.context) howes
  · exact .inr ⟨d, p, hp, hsurface⟩

/-- In every run in which contexts are destroyed at rest, a surface whose flag is
set is a target of an open picture or has a resolve job. -/
theorem resolving_awaited {config : DriverConfig} {images : ImageRef → BackingImage}
    (hs : (driver config images).ReachableUnder DestroyedAtRest s) :
    ∀ r, (s.surfaces r).resolving = true → s.awaited r := by
  have howned : Owned s :=
    LabelledSystem.invariant (owned_init config images)
      (fun _ _ _ h hcond hstep => h.step hcond hstep) hs
  intro r hpending
  exact awaited_of_owned howned.basic (howned.owned r hpending)

end Threads

/-- `nvBeginPicture` of an AV1 context on a fresh surface, up to its return. -/
def beginRun : List Label :=
  [.createContext 0 .vld .av1 ⟨0, 0, 8⟩ 0, .createSurface 0 ⟨0, 0, 8⟩ none, .worker 0 .ok,
    .beginPicture 0 0] ++ List.replicate 8 (.call 0 .ok)

/-- `nvDestroyContext`, with the worker leaving its loop on the way. -/
def destroyRun : List Label :=
  [.destroyContext 0, .destroy .ok, .destroy .ok, .worker 0 .ok, .destroy .ok, .destroy .ok,
    .destroy .ok, .destroy .ok]

/-- The flag of the surface is set by then. -/
def beginScenario :
    (driver {} fun _ => {}).Scenario (fun _ _ => True) fun s =>
      (s.surfaces 0).resolving = true where
  labels := beginRun
  enabled := by decide +kernel
  ends := by decide +kernel

/-- The picture that has just begun is awaited on its surface. -/
theorem resolving_awaited_begun :
    (((driver {} fun _ => {}).after beginRun).surfaces 0).resolving = true ∧
      ((driver {} fun _ => {}).after beginRun).awaited 0 := by
  have hreached : (driver {} fun _ => {}).ReachableUnder DestroyedAtRest
      ((driver {} fun _ => {}).after beginRun) := by
    refine LabelledSystem.run_of_execute ?_ (LabelledSystem.execute_after beginScenario.execute)
    intro a ha u c hc
    subst hc
    simp [beginRun] at ha
  exact ⟨beginScenario.ends, resolving_awaited hreached 0 beginScenario.ends⟩

/-- The destroyed context leaves the flag set, is gone itself and has no job. -/
def orphanScenario :
    (driver {} fun _ => {}).Scenario (fun _ _ => True) fun s =>
      (s.surfaces 0).resolving = true ∧ (s.contexts 0).life ≠ .live ∧ s.outstanding 0 = [] where
  labels := beginRun ++ destroyRun
  enabled := by decide +kernel
  ends := by decide +kernel

/-- A context destroyed between `nvBeginPicture` and `nvEndPicture` leaves the flag
of its surface set, with nobody left to clear it. -/
theorem resolving_not_awaited :
    ¬∀ (config : DriverConfig) (images : ImageRef → BackingImage) (s : State),
      (driver config images).Reachable s →
        ∀ r, (s.surfaces r).resolving = true → s.awaited r := by
  intro hclaim
  obtain ⟨hpending, hgone, hnone⟩ := orphanScenario.ends
  have hall := hclaim {} (fun _ => {}) _ orphanScenario.reachable 0 hpending
  rcases hall with ⟨c, hlive, _⟩ | ⟨c, p, hp, _⟩
  · cases c with
    | zero => exact hgone hlive
    | succ n => cases hlive
  · cases c with
    | zero =>
        rw [hnone] at hp
        cases hp
    | succ n => cases hp

end Driver
end NvidiaVaapi
