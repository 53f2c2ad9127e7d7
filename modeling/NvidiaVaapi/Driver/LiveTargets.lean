import NvidiaVaapi.Driver.Exclusive

/-!
# Surfaces of outstanding jobs stay allocated

`nvDestroySurfaces` waits for the flag of a surface before it frees it.  With
exclusive use the flag of a surface stays set while a job for it is outstanding,
so that a job's surface can be freed only before the job is made: between the
calls of a picture that names the surface as its display target.
-/

namespace NvidiaVaapi
namespace Driver

/-- The surface has been allocated and not freed. -/
def State.allocated (s : State) (r : SurfaceRef) : Prop :=
  (s.surfaces r).life = .live ∨ (s.surfaces r).life = .removed

/-- A decode picture that has begun and neither failed nor ended has the surface as
a target. -/
def State.decodesTo (s : State) (c : ContextRef) (r : SurfaceRef) : Prop :=
  (s.contexts c).life = .live ∧ (s.contexts c).control.entrypoint = .vld ∧
    (s.contexts c).control.pictureState = .building ∧ (s.contexts c).control.target r

/-- The surfaces that a label asks `nvDestroySurfaces` to destroy. -/
def Label.requests : Label → List SurfaceRef
  | .destroySurfaces requested => requested
  | _ => []

/-- Exclusive use, and `nvDestroySurfaces` is not asked to destroy a target of an
open decode picture that is not pending. -/
def TargetsKept (s : State) (a : Label) : Prop :=
  ExclusiveUse s a ∧
    ∀ r ∈ a.requests, ∀ c, s.decodesTo c r → (s.surfaces r).resolving = true

/-- The invariant that keeps the surface of every job allocated. -/
structure LiveTargets (s : State) : Prop where
  exclusive : Exclusive s
  coming : ∀ c r, (s.contexts c).control.stage = .waiting r ∨
    (s.contexts c).control.stage = .acquiring r → s.allocated r
  targets : ∀ c r, s.decodesTo c r → s.allocated r
  jobs : ∀ c, ∀ p ∈ s.outstanding c, s.allocated p.job.surface
  waited : ∀ r, s.waited r → (s.surfaces r).resolving = false
  requested : ∀ r, s.requested r → ∀ c, s.decodesTo c r → (s.surfaces r).resolving = true

section Calls

variable {s s' : State} {c : ContextRef}

namespace CallEffect

/-- A picture that has not failed after a section had not failed before, or is new. -/
theorem unfailed (heffect : CallEffect c s s')
    (hbuilding : (s'.contexts c).control.pictureState = .building) :
    (s.contexts c).control.pictureState = .building ∨
      (s.contexts c).control.pictureState = .idle := by
  cases heffect with
  | advance _ _ moves => exact .inl (moves.unfailed hbuilding)
  | take _ _ _ _ _ _ _ _ moves => exact .inl (moves.unfailed hbuilding)
  | begin _ _ idle => exact .inr idle
  | acquire _ _ _ _ _ control => exact .inl (by rw [control] at hbuilding; exact hbuilding)
  | start _ _ _ _ _ control => exact .inl (by rw [control] at hbuilding; exact hbuilding)
  | redirect _ _ _ _ _ _ _ control => exact .inl (by rw [control] at hbuilding; exact hbuilding)
  | clear _ _ _ _ _ _ control => exact .inl (by rw [control] at hbuilding; exact hbuilding)
  | handOver _ _ _ _ _ _ _ control => exact .inl (by rw [control] at hbuilding; exact hbuilding)
  | publish _ _ _ _ _ _ _ control => exact .inl (by rw [control] at hbuilding; exact hbuilding)
  | make _ _ _ _ _ _ _ control => exact .inl (by rw [control] at hbuilding; exact hbuilding)
  | push _ _ _ _ control =>
      rw [control] at hbuilding
      cases hbuilding

/-- A surface that `nvBeginPicture` is about to take was so before, or was live when
the call was admitted. -/
theorem coming (heffect : CallEffect c s s')
    (hok : (s.contexts c).control.okAt (s.contexts c).control.stage) {r : SurfaceRef}
    (hcoming : (s'.contexts c).control.stage = .waiting r ∨
      (s'.contexts c).control.stage = .acquiring r) :
    ((s.contexts c).control.stage = .waiting r ∨ (s.contexts c).control.stage = .acquiring r) ∨
      (s.surfaces r).life = .live := by
  cases heffect with
  | advance _ _ moves => exact .inl (hcoming.imp (moves.waiting r) (moves.acquiring r))
  | take _ _ _ _ _ _ _ _ moves => exact .inl (hcoming.imp (moves.waiting r) (moves.acquiring r))
  | begin _ _ _ stage hstage control =>
      rw [control] at hcoming
      rcases hstage with rfl | ⟨q, rfl, hlive⟩ <;> rcases hcoming with h | h <;> cases h
      exact .inr hlive
  | acquire q _ _ phase _ control =>
      rw [control] at hcoming
      rcases hcoming with h | h <;> cases h
      exact .inl (.inl (by simp [NVContext.control, phase, Phase.stage]))
  | clear section_ rest next _ _ stage control =>
      rw [stage] at hok
      rw [control] at hcoming
      cases rest with
      | cons second rest => rcases hcoming with h | h <;> cases h
      | nil =>
          rcases hcoming with h | h <;> change next = _ at h <;> subst h <;> exact hok.2.2.elim
  | start q _ _ _ _ control =>
      rw [control] at hcoming
      change (if _ then _ else _) = Stage.waiting r ∨
        (if _ then _ else _) = Stage.acquiring r at hcoming
      split at hcoming <;> rcases hcoming with h | h <;> cases h
  | redirect _ _ _ _ _ _ _ control => rw [control] at hcoming; rcases hcoming with h | h <;> cases h
  | handOver _ _ _ _ _ _ _ control => rw [control] at hcoming; rcases hcoming with h | h <;> cases h
  | publish _ _ _ _ _ _ _ control => rw [control] at hcoming; rcases hcoming with h | h <;> cases h
  | make _ _ _ _ _ _ _ control => rw [control] at hcoming; rcases hcoming with h | h <;> cases h
  | push _ _ _ _ control => rw [control] at hcoming; rcases hcoming with h | h <;> cases h

end CallEffect

theorem allocated_of_life {r : SurfaceRef} (hlife : (s'.surfaces r).life = (s.surfaces r).life)
    (hallocated : s.allocated r) : s'.allocated r := by
  unfold State.allocated
  rw [hlife]
  exact hallocated

/-- A surface that a section takes is allocated. -/
theorem LiveTargets.takes (hlive : LiveTargets s) {r : SurfaceRef}
    (htakes : s.takes c = some r) : s.allocated r := by
  unfold State.takes at htakes
  split at htakes
  · rename_i hphase
    cases htakes
    exact hlive.coming c _ (.inl (by simp [NVContext.control, hphase, Phase.stage]))
  · split at htakes
    · unfold filmGrainDisplay at htakes
      simp only at htakes
      split at htakes
      · rename_i hdisplay
        cases htakes
        exact .inl hdisplay.2.1
      · cases htakes
    · cases htakes
  · cases htakes

theorem stage_of_takes {r : SurfaceRef} (htakes : s.takes c = some r) :
    (s.contexts c).control.stage ≠ .between := by
  unfold State.takes at htakes
  split at htakes
  · rename_i hphase
    simp [NVContext.control, hphase, Phase.stage]
  · rename_i hphase
    simp [NVContext.control, hphase, Phase.stage]
  · cases htakes

/-- A target of a decode picture in progress was one before, or has just been taken. -/
theorem LiveTargets.decodesTo_call (hlive : LiveTargets s) (heffect : CallEffect c s s')
    {d : ContextRef} {r : SurfaceRef} (hdecodes : s'.decodesTo d r) :
    s.decodesTo d r ∨
      (d = c ∧ (s.contexts c).control.stage ≠ .between ∧ s.allocated r) := by
  obtain ⟨hlife, hvld, hbuilding, htarget⟩ := hdecodes
  rw [heffect.life d] at hlife
  by_cases hd : d = c
  · subst hd
    replace hvld : (s.contexts d).entrypoint = .vld := (heffect.entrypoint d).symm.trans hvld
    have hok := hlive.exclusive.basic.ok d
    rcases heffect.holds hok (.inl htarget) with hbefore | ⟨htakes, _⟩
    · have hbuildingBefore := (heffect.unfailed hbuilding).resolve_right
        (Control.pictureState_of_holds hok hbefore)
      rcases hbefore with htargetBefore | hacquiring
      · exact .inl ⟨hlife, hvld, hbuildingBefore, htargetBefore⟩
      · exact .inr ⟨rfl, by simp [hacquiring], hlive.coming d r (.inr hacquiring)⟩
    · exact .inr ⟨rfl, stage_of_takes htakes, hlive.takes htakes⟩
  · have hcontrol := heffect.frame.control d hd
    rw [hcontrol] at hvld hbuilding htarget
    exact .inl ⟨hlife, hvld, hbuilding, htarget⟩

/-- No call sets the flag of a surface that `nvDestroySurfaces` is about to free. -/
theorem Exclusive.waited_call (hexclusive : Exclusive s)
    (hwaited : ∀ r, s.waited r → (s.surfaces r).resolving = false)
    (heffect : CallEffect c s s') (r : SurfaceRef) (hnow : s'.waited r) :
    (s'.surfaces r).resolving = false := by
  obtain ⟨rest, stage, hstage, hwriter⟩ := hnow
  rw [heffect.frame.lifetimeWriter] at hwriter
  have hresolved := hwaited r ⟨rest, stage, hstage, hwriter⟩
  have hclosed := hexclusive.basic.locked (by simp [hwriter]) c
  rcases hexclusive.flags_call heffect r with hsame | ⟨_, _, hopen⟩
  · exact (congrArg Flags.resolving hsame).trans hresolved
  · exact absurd hclosed hopen

theorem LiveTargets.call (hlive : LiveTargets s) (heffect : CallEffect c s s')
    (hexclusive : Exclusive s') : LiveTargets s' where
  exclusive := hexclusive
  coming := by
    intro d r hcoming
    refine allocated_of_life (heffect.frame.life r) ?_
    by_cases hd : d = c
    · subst hd
      rcases heffect.coming (hlive.exclusive.basic.ok d) hcoming with hbefore | hlife
      · exact hlive.coming d r hbefore
      · exact .inl hlife
    · rw [heffect.frame.control d hd] at hcoming
      exact hlive.coming d r hcoming
  targets := by
    intro d r hdecodes
    refine allocated_of_life (heffect.frame.life r) ?_
    rcases hlive.decodesTo_call heffect hdecodes with hbefore | ⟨_, _, hallocated⟩
    · exact hlive.targets d r hbefore
    · exact hallocated
  jobs := by
    intro d p hp
    refine allocated_of_life (heffect.frame.life p.job.surface) ?_
    by_cases hd : d = c
    · subst hd
      rcases heffect.outstanding.2 with hsame | ⟨job, hstage, _, _, _, hperm⟩
      · exact hlive.jobs d p (hsame ▸ hp)
      · rcases List.mem_cons.mp (hperm.mem_iff.mp hp) with rfl | hbefore
        · have hok := hlive.exclusive.basic.ok d
          rw [hstage] at hok
          refine hlive.targets d job.surface ⟨?_, hok.2.1, hok.1, ?_⟩
          · exact (hlive.exclusive.basic.lock d (by simp [hstage])).2.1
          · exact Control.target_of_outputTarget hok.2.2.2.1
        · exact hlive.jobs d p hbefore
    · exact hlive.jobs d p (heffect.outstanding.1 d hd ▸ hp)
  waited := hlive.exclusive.waited_call hlive.waited heffect
  requested := by
    rintro r ⟨todo, stage, hwriter, hmem⟩ d hdecodes
    rw [heffect.frame.lifetimeWriter] at hwriter
    have hclosed := hlive.exclusive.basic.locked (by simp [hwriter]) c
    have hpending : (s.surfaces r).resolving = true := by
      rcases hlive.decodesTo_call heffect hdecodes with hbefore | ⟨_, hopen, _⟩
      · exact hlive.requested r ⟨todo, stage, hwriter, hmem⟩ d hbefore
      · exact absurd hclosed hopen
    rcases hlive.exclusive.flags_call heffect r with hsame | ⟨_, _, hopen⟩
    · exact (congrArg Flags.resolving hsame).trans hpending
    · exact absurd hclosed hopen

end Calls

/-! ## The other threads -/

section Threads

variable {s s' : State} {a : Label}

/-- Another thread frees a surface only at the end of `nvDestroySurfaces`. -/
theorem ThreadEffect.allocated (heffect : ThreadEffect a s s') {r : SurfaceRef}
    (hallocated : s.allocated r) : s'.allocated r ∨ (s.waited r ∧ s.requested r) := by
  cases heffect with
  | pass frame => exact .inl (allocated_of_life (frame.life r) hallocated)
  | worsen _ _ frame => exact .inl (allocated_of_life (frame.life r) hallocated)
  | mark _ _ _ frame => exact .inl (allocated_of_life (frame.life r) hallocated)
  | drop _ _ frame => exact .inl (allocated_of_life (frame.life r) hallocated)
  | finish _ _ frame => exact .inl (allocated_of_life (frame.life r) hallocated)
  | fail _ _ frame => exact .inl (allocated_of_life (frame.life r) hallocated)
  | createSurface q _ _ _ _ life created =>
      by_cases hr : r = q
      · exact .inl (.inl (hr ▸ created))
      · exact .inl (allocated_of_life (life r hr) hallocated)
  | createContext _ _ _ _ _ _ _ _ surfaces =>
      exact .inl (allocated_of_life (by rw [surfaces]) hallocated)
  | remove requested _ _ _ _ _ life =>
      by_cases hr : r ∈ requested
      · exact .inl (.inr (by rw [life r, if_pos hr]))
      · exact .inl (allocated_of_life (by rw [life r, if_neg hr]) hallocated)
  | free q rest lifetimeWriter _ _ _ life =>
      by_cases hr : r = q
      · subst hr
        exact .inr ⟨⟨rest, .free, nofun, lifetimeWriter⟩, _, _, lifetimeWriter,
          List.mem_cons_self⟩
      · exact .inl (allocated_of_life (life r hr) hallocated)
  | destroy _ _ _ _ _ _ _ surfaces =>
      exact .inl (allocated_of_life (by rw [surfaces]) hallocated)
  | delete _ _ _ _ _ surfaces =>
      exact .inl (allocated_of_life (by rw [surfaces]) hallocated)

/-- `nvDestroySurfaces` goes past its wait only on a surface that is not pending. -/
theorem ThreadEffect.waited (heffect : ThreadEffect a s s') {r : SurfaceRef}
    (hwaited : s'.waited r) : s.waited r ∨ (s.surfaces r).resolving = false := by
  have hsame : s'.lifetimeWriter = s.lifetimeWriter → s.waited r := by
    intro hwriter
    obtain ⟨rest, stage, hstage, h⟩ := hwaited
    exact ⟨rest, stage, hstage, hwriter ▸ h⟩
  cases heffect with
  | pass frame => exact frame.waited r hwaited
  | worsen _ _ frame => exact frame.waited r hwaited
  | mark _ _ _ frame => exact frame.waited r hwaited
  | drop _ _ frame => exact frame.waited r hwaited
  | finish _ _ frame => exact frame.waited r hwaited
  | fail _ _ frame => exact frame.waited r hwaited
  | createSurface _ _ _ lifetimeWriter => exact .inl (hsame lifetimeWriter)
  | createContext _ _ _ _ _ _ _ _ _ _ lifetimeWriter => exact .inl (hsame lifetimeWriter)
  | remove _ _ _ _ _ _ _ lifetimeWriter =>
      obtain ⟨rest, stage, hstage, h⟩ := hwaited
      rw [lifetimeWriter] at h
      cases h
      exact absurd rfl hstage
  | free _ _ _ lifetimeWriter' =>
      obtain ⟨rest, stage, hstage, h⟩ := hwaited
      rw [lifetimeWriter'] at h
      cases h
      exact absurd rfl hstage
  | destroy _ _ _ _ _ _ _ _ lifetimeWriter =>
      obtain ⟨rest, stage, hstage, h⟩ := hwaited
      rw [lifetimeWriter] at h
      cases h
  | delete _ _ lifetimeWriter' =>
      obtain ⟨rest, stage, hstage, h⟩ := hwaited
      rw [lifetimeWriter'] at h
      cases h

/-- A surface comes among those to be freed by the entry of `nvDestroySurfaces`. -/
theorem ThreadEffect.requested (heffect : ThreadEffect a s s') {r : SurfaceRef}
    (hrequested : s'.requested r) :
    s.requested r ∨ ∃ requested, a = .destroySurfaces requested ∧ r ∈ requested ∧
      ∀ q, (s'.surfaces q).flags = (s.surfaces q).flags := by
  have hsame : s'.lifetimeWriter = s.lifetimeWriter → s.requested r := by
    intro hwriter
    obtain ⟨todo, stage, h, hmem⟩ := hrequested
    exact ⟨todo, stage, hwriter ▸ h, hmem⟩
  cases heffect with
  | pass frame => exact .inl (frame.requested r hrequested)
  | worsen _ _ frame => exact .inl (frame.requested r hrequested)
  | mark _ _ _ frame => exact .inl (frame.requested r hrequested)
  | drop _ _ frame => exact .inl (frame.requested r hrequested)
  | finish _ _ frame => exact .inl (frame.requested r hrequested)
  | fail _ _ frame => exact .inl (frame.requested r hrequested)
  | createSurface _ _ _ lifetimeWriter => exact .inl (hsame lifetimeWriter)
  | createContext _ _ _ _ _ _ _ _ _ _ lifetimeWriter => exact .inl (hsame lifetimeWriter)
  | remove requested on _ _ _ flags _ lifetimeWriter =>
      obtain ⟨todo, stage, h, hmem⟩ := hrequested
      rw [lifetimeWriter] at h
      cases h
      exact .inr ⟨_, on, hmem, flags⟩
  | free q rest lifetimeWriter lifetimeWriter' =>
      obtain ⟨todo, stage, h, hmem⟩ := hrequested
      rw [lifetimeWriter'] at h
      cases h
      exact .inl ⟨_, _, lifetimeWriter, List.mem_cons_of_mem _ hmem⟩
  | destroy _ _ _ _ _ _ _ _ lifetimeWriter =>
      obtain ⟨todo, stage, h, _⟩ := hrequested
      rw [lifetimeWriter] at h
      cases h
  | delete _ _ lifetimeWriter' =>
      obtain ⟨todo, stage, h, _⟩ := hrequested
      rw [lifetimeWriter'] at h
      cases h

theorem LiveTargets.decodesTo_thread (heffect : ThreadEffect a s s')
    {d : ContextRef} {r : SurfaceRef} (hdecodes : s'.decodesTo d r) : s.decodesTo d r := by
  obtain ⟨hlife, hvld, hbuilding, htarget⟩ := hdecodes
  obtain ⟨⟨hbefore, _⟩, hquiet⟩ := heffect.holdsAt ⟨hlife, .inl htarget⟩
  change (s'.contexts d).control.quiet.entrypoint = _ at hvld
  change (s'.contexts d).control.quiet.pictureState = _ at hbuilding
  change (s'.contexts d).control.quiet.target r at htarget
  rw [hquiet] at hvld hbuilding htarget
  exact ⟨hbefore, hvld, hbuilding, htarget⟩

theorem ThreadEffect.waited_resolved (heffect : ThreadEffect a s s')
    (hwaited : ∀ r, s.waited r → (s.surfaces r).resolving = false) (r : SurfaceRef)
    (hnow : s'.waited r) : (s'.surfaces r).resolving = false := by
  have hresolved : (s.surfaces r).resolving = false := (heffect.waited hnow).elim (hwaited r) id
  by_contra hpending
  rw [(heffect.generation r).2.2 (by simpa using hpending)] at hresolved
  cases hresolved

theorem LiveTargets.thread (hlive : LiveTargets s) (heffect : ThreadEffect a s s')
    (hcond : TargetsKept s a) : LiveTargets s' where
  exclusive := hlive.exclusive.thread heffect
  coming := by
    intro d r hcoming
    have hquiet : (s'.contexts d).control.stage = (s.contexts d).control.stage := by
      rcases heffect.kept d with hkept | ⟨_, _, _, _, _, hcontrol⟩
      · have hstage := congrArg Control.stage hkept.quiet
        exact hstage
      · rw [hcontrol] at hcoming
        rcases hcoming with h | h <;> cases h
    rw [hquiet] at hcoming
    rcases heffect.allocated (hlive.coming d r hcoming) with hkept | ⟨⟨_, _, _, hwriter⟩, _⟩
    · exact hkept
    · have hclosed := hlive.exclusive.basic.locked (by simp [hwriter]) d
      rcases hcoming with h | h <;> simp [hclosed] at h
  targets := by
    intro d r hdecodes
    have hbefore := decodesTo_thread heffect hdecodes
    rcases heffect.allocated (hlive.targets d r hbefore) with hkept | ⟨hwaited, hrequested⟩
    · exact hkept
    · have hresolved := hlive.waited r hwaited
      simp [hlive.requested r hrequested d hbefore] at hresolved
  jobs := by
    intro d q hq
    obtain ⟨p, hp, hsame⟩ := heffect.outstanding.job hq
    have hallocated := hlive.jobs d p hp
    have hpending := (hlive.exclusive.jobs d p hp).1
    rw [hsame] at hallocated hpending
    rcases heffect.allocated hallocated with hkept | ⟨hwaited, _⟩
    · exact hkept
    · have hresolved := hlive.waited _ hwaited
      simp [hpending] at hresolved
  waited := heffect.waited_resolved hlive.waited
  requested := by
    intro r hrequested d hdecodes
    have hbefore := decodesTo_thread heffect hdecodes
    have hpending : (s.surfaces r).resolving = true := by
      rcases heffect.requested hrequested with h | ⟨requested, hon, hmem, _⟩
      · exact hlive.requested r h d hbefore
      · exact hcond.2 r (hon ▸ hmem) d hbefore
    obtain ⟨hlife, _, hbuilding, htarget⟩ := hbefore
    refine hlive.exclusive.pending_thread heffect ⟨hlife, .inl htarget⟩ ?_ hpending
    rintro (h | h) <;> simp [h] at hbuilding

/-! ## Every run -/

theorem LiveTargets.sync {thread : Nat} (hlive : LiveTargets s)
    (heffect : SyncEffect thread s s') : LiveTargets s' := by
  constructor
  case exclusive => exact hlive.exclusive.sync heffect
  all_goals
    simp only [State.allocated, State.decodesTo, State.waited, State.requested, heffect.contexts,
      heffect.surfaces, heffect.outstanding, heffect.lifetimeWriter]
  · exact hlive.coming
  · exact hlive.targets
  · exact hlive.jobs
  · exact hlive.waited
  · exact hlive.requested

theorem LiveTargets.step (hlive : LiveTargets s) (hcond : TargetsKept s a)
    (hstep : Driver.step s a = some s') : LiveTargets s' := by
  cases step_effect hlive.exclusive.basic.ok hstep with
  | call c _ effect => exact hlive.call effect (hlive.exclusive.step hcond.1 hstep)
  | thread _ effect => exact hlive.thread effect hcond
  | sync _ thread effect => exact hlive.sync effect

theorem liveTargets_init (config : DriverConfig) (images : ImageRef → BackingImage) :
    LiveTargets (driver config images).init where
  exclusive := exclusive_init config images
  coming := fun _ _ h => by rcases h with h | h <;> cases h
  targets := fun _ _ h => nomatch h.1
  jobs := by
    intro c p hp
    have hnone : (driver config images).init.outstanding c = [] := rfl
    simp [hnone] at hp
  waited := by
    rintro r ⟨_, _, _, h⟩
    cases h
  requested := by
    rintro r ⟨_, _, h, _⟩
    cases h

/-- With exclusive use of surfaces and no target of an open picture destroyed
early, the surface of every outstanding job is allocated. -/
theorem job_surface_allocated {config : DriverConfig} {images : ImageRef → BackingImage}
    (hs : (driver config images).ReachableUnder TargetsKept s) :
    ∀ c, ∀ p ∈ s.outstanding c, s.allocated p.job.surface := by
  have hlive : LiveTargets s :=
    LabelledSystem.invariant (liveTargets_init config images)
      (fun _ _ _ h hcond hstep => h.step hcond hstep) hs
  exact hlive.jobs

end Threads

/-! ## Runs with finitely many contexts -/

instance (s : State) (c : ContextRef) (r : SurfaceRef) : Decidable (s.decodesTo c r) :=
  inferInstanceAs (Decidable (_ ∧ _ ∧ _ ∧ (_ ∨ _)))

/-- `TargetsKept` where only the contexts below `n` are ever created. -/
def TargetsKeptAmong (n : Nat) (s : State) (a : Label) : Prop :=
  ExclusiveAmong n s a ∧
    ∀ r ∈ a.requests, ∀ d < n, s.decodesTo d r → (s.surfaces r).resolving = true

instance (n : Nat) (s : State) (a : Label) : Decidable (TargetsKeptAmong n s a) :=
  inferInstanceAs (Decidable (_ ∧ _))

theorem ContextsBelow.targetsKept {n : Nat} {s : State} {a : Label} (hbelow : ContextsBelow n s)
    (hamong : TargetsKeptAmong n s a) : TargetsKept s a := by
  refine ⟨hbelow.exclusiveUse hamong.1, fun r hr c hdecodes => ?_⟩
  exact hamong.2 r hr c (hbelow.lt_of_live hdecodes.1) hdecodes

theorem targetsKept_after {n : Nat} {config : DriverConfig} {images : ImageRef → BackingImage}
    {labels : List Label}
    (hexec : ((driver config images).executeIf (TargetsKeptAmong n) (driver config images).init
      labels).isSome) :
    (driver config images).ReachableUnder TargetsKept ((driver config images).after labels) :=
  LabelledSystem.reachableUnder_after (ContextsBelow n)
    (fun _ _ _ hbelow hcheck hstep => hbelow.step hcheck.1.1 hstep)
    (fun _ _ hbelow hcheck => hbelow.targetsKept hcheck) (.init n config images) hexec

/-- The parameters of an AV1 picture with one tile whose film grain goes to the
display surface 1. -/
def grainParameters : PictureParameterBuffer :=
  { references := .av1 (List.replicate 8 9), tiles := 1, applyGrain := true,
    currentDisplayPicture := 1 }

/-- Surface 1 takes an index for a picture that fails, then surface 0 takes another
one for a picture that is decoded and shown on surface 1. -/
def grainRun : List Label :=
  [.createContext 0 .vld .av1 ⟨0, 0, 8⟩ 0, .createSurface 0 ⟨0, 0, 8⟩ none,
    .createSurface 1 ⟨0, 0, 8⟩ none, .createSurface 2 ⟨0, 0, 8⟩ none] ++
    beginScript 0 1 8 ++ failScript 0 2 ++ beginScript 0 0 8 ++
    renderScript 0 grainParameters 9 1 ++ endScript 0 13

/-- The film-grain picture has a job for its display surface. -/
def grainScenario :
    (driver {} fun _ => {}).Scenario (TargetsKeptAmong 1) fun s =>
      ∃ p ∈ s.outstanding 0, p.job.surface = 1 where
  labels := grainRun
  enabled := by decide +kernel
  ends := by decide +kernel

/-- The job of the film-grain picture has an allocated surface. -/
theorem job_surface_allocated_grain :
    (∃ p ∈ ((driver {} fun _ => {}).after grainRun).outstanding 0, p.job.surface = 1) ∧
      ∀ c, ∀ p ∈ ((driver {} fun _ => {}).after grainRun).outstanding c,
        ((driver {} fun _ => {}).after grainRun).allocated p.job.surface :=
  ⟨grainScenario.ends, job_surface_allocated (targetsKept_after (n := 1) grainScenario.enabled)⟩

/-- The next picture names the same display surface and fails, which clears the
flag of surface 1; then surface 1 is destroyed. -/
def freedDisplayRun : List Label :=
  grainRun ++ beginScript 0 2 8 ++ renderScript 0 grainParameters 9 1 ++ failScript 0 4 ++
    .destroySurfaces [1] :: List.replicate 4 (.destroy .ok)

/-- The job of surface 1 is still queued then. -/
def freedDisplayScenario :
    (driver {} fun _ => {}).Scenario (fun _ _ => True) fun s =>
      ∃ p ∈ s.outstanding 0, (s.surfaces p.job.surface).life = .freed where
  labels := freedDisplayRun
  enabled := by decide +kernel
  ends := by decide +kernel

/-- A failed picture clears the flag of a display surface whose older job is still
queued, and `nvDestroySurfaces` frees the surface of that job. -/
theorem job_surface_freed :
    ¬∀ (config : DriverConfig) (images : ImageRef → BackingImage) (s : State),
      (driver config images).Reachable s →
        ∀ c, ∀ p ∈ s.outstanding c, s.allocated p.job.surface := by
  intro hclaim
  obtain ⟨p, hp, hlife⟩ := freedDisplayScenario.ends
  rcases hclaim {} (fun _ => {}) _ freedDisplayScenario.reachable 0 p hp with h | h <;>
    simp [hlife] at h

end Driver
end NvidiaVaapi
