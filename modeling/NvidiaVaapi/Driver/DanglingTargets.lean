import NvidiaVaapi.Driver.LiveTargets

/-!
# Targets stay in the object table

`nvDestroySurfaces` takes its surfaces out of the object table and frees them as
soon as their flags are clear, whether or not a context still has one of them as
a target.  A failed `nvRenderPicture` and a finished blit clear the flag of a
target whose picture is still open.
-/

namespace NvidiaVaapi
namespace Driver

/-- A request to `nvDestroySurfaces` that passes its validation. -/
def State.grants (s : State) (requested : List SurfaceRef) : Prop :=
  requested.Nodup ∧ ∀ r ∈ requested, (s.surfaces r).life = .live

instance (s : State) (requested : List SurfaceRef) : Decidable (s.grants requested) :=
  inferInstanceAs (Decidable (_ ∧ _))

/-- `nvDestroySurfaces` destroys no target of a context. -/
def OpenTargetsKept (s : State) (a : Label) : Prop :=
  s.grants a.requests → ∀ r ∈ a.requests, ∀ c,
    (s.contexts c).life = .live → ¬(s.contexts c).control.target r

/-- The surface has left the object table. -/
def State.detached (s : State) (r : SurfaceRef) : Prop :=
  (s.surfaces r).life = .removed ∨ (s.surfaces r).life = .freed

/-- The invariant that keeps the targets in the object table. -/
structure KnownTargets (s : State) : Prop where
  basic : Basic s
  coming : ∀ c r, (s.contexts c).control.stage = .waiting r ∨
    (s.contexts c).control.stage = .acquiring r → (s.surfaces r).life = .live
  targets : ∀ c r, (s.contexts c).life = .live → (s.contexts c).control.target r →
    (s.surfaces r).life = .live
  requested : ∀ r, s.requested r → s.detached r

section Calls

variable {s s' : State} {c : ContextRef}

theorem detached_of_life {r : SurfaceRef} (hlife : (s'.surfaces r).life = (s.surfaces r).life)
    (hdetached : s.detached r) : s'.detached r := by
  unfold State.detached
  rw [hlife]
  exact hdetached

theorem State.detached.not_live {r : SurfaceRef} (hdetached : s.detached r) :
    (s.surfaces r).life ≠ .live := by
  rcases hdetached with h | h <;> simp [h]

/-- A surface that a section takes is in the object table. -/
theorem KnownTargets.takes (hknown : KnownTargets s) {r : SurfaceRef}
    (htakes : s.takes c = some r) : (s.surfaces r).life = .live := by
  unfold State.takes at htakes
  split at htakes
  · rename_i hphase
    cases htakes
    exact hknown.coming c _ (.inl (by simp [NVContext.control, hphase, Phase.stage]))
  · split at htakes
    · unfold filmGrainDisplay at htakes
      simp only at htakes
      split at htakes
      · rename_i hdisplay
        cases htakes
        exact hdisplay.2.1
      · cases htakes
    · cases htakes
  · cases htakes

theorem KnownTargets.call (hknown : KnownTargets s) (heffect : CallEffect c s s') :
    KnownTargets s' where
  basic := hknown.basic.call heffect
  coming := by
    intro d r hcoming
    rw [heffect.frame.life r]
    by_cases hd : d = c
    · subst hd
      rcases heffect.coming (hknown.basic.ok d) hcoming with hbefore | hlive
      · exact hknown.coming d r hbefore
      · exact hlive
    · rw [heffect.frame.control d hd] at hcoming
      exact hknown.coming d r hcoming
  targets := by
    intro d r hlive htarget
    rw [heffect.frame.life r]
    have hlife : (s.contexts d).life = .live := (heffect.life d).symm.trans hlive
    by_cases hd : d = c
    · subst hd
      rcases heffect.holds (hknown.basic.ok d) (.inl htarget) with (hbefore | hstage) | htakes
      · exact hknown.targets d r hlife hbefore
      · exact hknown.coming d r (.inr hstage)
      · exact hknown.takes htakes.1
    · rw [heffect.frame.control d hd] at htarget
      exact hknown.targets d r hlife htarget
  requested := by
    rintro r ⟨todo, stage, hwriter, hmem⟩
    rw [heffect.frame.lifetimeWriter] at hwriter
    exact detached_of_life (heffect.frame.life r)
      (hknown.requested r ⟨todo, stage, hwriter, hmem⟩)

end Calls

section Threads

variable {s s' : State} {a : Label}

/-- `nvDestroySurfaces` takes the lock for a request that it grants. -/
theorem grants_of_locked {requested : List SurfaceRef}
    (hstep : nvDestroySurfaces s requested = some s') (hlocked : s'.lifetimeWriter ≠ none) :
    s.grants requested := by
  unfold nvDestroySurfaces at hstep
  split at hstep
  · cases hstep
  · rename_i hfree
    split at hstep
    · assumption
    · cases hstep
      exact absurd hlocked (by simp_all)

/-- Another thread takes a surface out of the object table at the entry of
`nvDestroySurfaces` only. -/
theorem ThreadEffect.live_surface (heffect : ThreadEffect a s s')
    (hrequested : ∀ r, s.requested r → s.detached r) {r : SurfaceRef}
    (hlive : (s.surfaces r).life = .live) :
    (s'.surfaces r).life = .live ∨
      (r ∈ a.requests ∧ s'.lifetimeWriter ≠ none) := by
  cases heffect with
  | pass frame => exact .inl ((frame.life r).trans hlive)
  | worsen _ _ frame => exact .inl ((frame.life r).trans hlive)
  | mark _ _ _ frame => exact .inl ((frame.life r).trans hlive)
  | drop _ _ frame => exact .inl ((frame.life r).trans hlive)
  | finish _ _ frame => exact .inl ((frame.life r).trans hlive)
  | fail _ _ frame => exact .inl ((frame.life r).trans hlive)
  | createSurface q _ _ _ _ life created =>
      by_cases hr : r = q
      · exact .inl (hr ▸ created)
      · exact .inl ((life r hr).trans hlive)
  | createContext _ _ _ _ _ _ _ _ surfaces => exact .inl (by rw [surfaces]; exact hlive)
  | remove requested on _ _ _ _ life lifetimeWriter =>
      by_cases hr : r ∈ requested
      · subst on
        exact .inr ⟨hr, by simp [lifetimeWriter]⟩
      · exact .inl (by rw [life r, if_neg hr]; exact hlive)
  | free q rest lifetimeWriter _ _ _ life =>
      by_cases hr : r = q
      · subst hr
        have hdetached := hrequested r ⟨_, _, lifetimeWriter, List.mem_cons_self⟩
        exact absurd hlive hdetached.not_live
      · exact .inl ((life r hr).trans hlive)
  | destroy _ _ _ _ _ _ _ surfaces => exact .inl (by rw [surfaces]; exact hlive)
  | delete _ _ _ _ _ surfaces => exact .inl (by rw [surfaces]; exact hlive)

/-- A surface that is still to be freed was so before, or has just been removed. -/
theorem ThreadEffect.detached (heffect : ThreadEffect a s s')
    (hrequested : ∀ r, s.requested r → s.detached r) {r : SurfaceRef}
    (hnow : s'.requested r) : s'.detached r := by
  have hsame : s'.lifetimeWriter = s.lifetimeWriter → s.detached r := by
    intro hwriter
    obtain ⟨todo, stage, h, hmem⟩ := hnow
    exact hrequested r ⟨todo, stage, hwriter ▸ h, hmem⟩
  have hframe : ThreadFrame s s' → s'.detached r := fun frame =>
    detached_of_life (frame.life r) (hrequested r (frame.requested r hnow))
  cases heffect with
  | pass frame => exact hframe frame
  | worsen _ _ frame => exact hframe frame
  | mark _ _ _ frame => exact hframe frame
  | drop _ _ frame => exact hframe frame
  | finish _ _ frame => exact hframe frame
  | fail _ _ frame => exact hframe frame
  | createSurface q absent _ lifetimeWriter _ life =>
      have hdetached := hsame lifetimeWriter
      by_cases hr : r = q
      · subst hr
        rcases hdetached with h | h <;> simp [absent] at h
      · exact detached_of_life (life r hr) hdetached
  | createContext _ _ _ _ _ _ _ _ surfaces _ lifetimeWriter =>
      exact detached_of_life (by rw [surfaces]) (hsame lifetimeWriter)
  | remove requested _ _ _ _ _ life lifetimeWriter =>
      obtain ⟨todo, stage, h, hmem⟩ := hnow
      rw [lifetimeWriter] at h
      cases h
      exact .inl (by rw [life r, if_pos hmem])
  | free q rest lifetimeWriter lifetimeWriter' _ _ life _ _ _ freed =>
      obtain ⟨todo, stage, h, hmem⟩ := hnow
      rw [lifetimeWriter'] at h
      cases h
      by_cases hr : r = q
      · exact .inr (hr ▸ freed)
      · exact detached_of_life (life r hr)
          (hrequested r ⟨_, _, lifetimeWriter, List.mem_cons_of_mem _ hmem⟩)
  | destroy _ _ _ _ _ _ _ _ lifetimeWriter =>
      obtain ⟨todo, stage, h, _⟩ := hnow
      rw [lifetimeWriter] at h
      cases h
  | delete _ _ lifetimeWriter' =>
      obtain ⟨todo, stage, h, _⟩ := hnow
      rw [lifetimeWriter'] at h
      cases h

theorem KnownTargets.thread (hknown : KnownTargets s) (heffect : ThreadEffect a s s')
    (hkept : s'.lifetimeWriter ≠ none →
      ∀ r ∈ a.requests, ∀ c, (s.contexts c).life = .live → ¬(s.contexts c).control.target r) :
    KnownTargets s' where
  basic := hknown.basic.thread heffect
  coming := by
    intro d r hcoming
    have hquiet : (s'.contexts d).control.stage = (s.contexts d).control.stage := by
      rcases heffect.kept d with hkept | ⟨_, _, _, _, _, hcontrol⟩
      · have hstage := congrArg Control.stage hkept.quiet
        exact hstage
      · rw [hcontrol] at hcoming
        rcases hcoming with h | h <;> cases h
    rw [hquiet] at hcoming
    have hopen : (s.contexts d).control.stage ≠ .between := by
      rcases hcoming with h | h <;> simp [h]
    rcases heffect.live_surface hknown.requested (hknown.coming d r hcoming) with
      hlive | ⟨_, hlocked⟩
    · exact hlive
    · -- the lock is not granted while a call is in progress
      have hbasic := hknown.basic.thread heffect
      have hlock := (hbasic.lock d (by rw [hquiet]; exact hopen)).2.2
      exact absurd hlock hlocked
  targets := by
    intro d r hlive htarget
    obtain ⟨⟨hbefore, _⟩, hquiet⟩ := heffect.holdsAt ⟨hlive, .inl htarget⟩
    change (s'.contexts d).control.quiet.target r at htarget
    rw [hquiet] at htarget
    rcases heffect.live_surface hknown.requested (hknown.targets d r hbefore htarget) with
      hlife | ⟨hrequested, hlocked⟩
    · exact hlife
    · exact absurd htarget (hkept hlocked r hrequested d hbefore)
  requested := fun _ hrequested => heffect.detached hknown.requested hrequested

/-! ## Every run -/

theorem KnownTargets.sync {thread : Nat} (hknown : KnownTargets s)
    (heffect : SyncEffect thread s s') : KnownTargets s' := by
  constructor
  case basic => exact hknown.basic.sync heffect
  all_goals
    simp only [State.detached, State.requested, heffect.contexts, heffect.surfaces,
      heffect.lifetimeWriter]
  · exact hknown.coming
  · exact hknown.targets
  · exact hknown.requested

theorem KnownTargets.step (hknown : KnownTargets s) (hcond : OpenTargetsKept s a)
    (hstep : Driver.step s a = some s') : KnownTargets s' := by
  cases step_effect hknown.basic.ok hstep with
  | call c _ effect => exact hknown.call effect
  | thread _ effect =>
      refine hknown.thread effect fun hlocked r hrequested => ?_
      cases a with
      | destroySurfaces requested =>
          exact hcond (grants_of_locked hstep hlocked) r hrequested
      | _ => cases hrequested
  | sync _ thread effect => exact hknown.sync effect

theorem knownTargets_init (config : DriverConfig) (images : ImageRef → BackingImage) :
    KnownTargets (driver config images).init where
  basic := basic_init config images
  coming := fun _ _ h => by rcases h with h | h <;> cases h
  targets := fun _ _ h => nomatch h
  requested := by
    rintro r ⟨_, _, h, _⟩
    cases h

/-- As long as no target of a context is destroyed, the targets of every live
context are in the object table. -/
theorem targets_in_table {config : DriverConfig} {images : ImageRef → BackingImage}
    (hs : (driver config images).ReachableUnder OpenTargetsKept s) :
    ∀ c, (s.contexts c).life = .live → ∀ r,
      (s.contexts c).renderTarget = some r ∨ (s.contexts c).displayTarget = some r →
        (s.surfaces r).life = .live := by
  have hknown : KnownTargets s :=
    LabelledSystem.invariant (knownTargets_init config images)
      (fun _ _ _ h hcond hstep => h.step hcond hstep) hs
  intro c hlive r htarget
  exact hknown.targets c r hlive htarget

end Threads

/-! ## Runs with finitely many contexts -/

instance (κ : Control) (r : SurfaceRef) : Decidable (κ.target r) :=
  inferInstanceAs (Decidable (_ ∨ _))

/-- `OpenTargetsKept` where only the contexts below `n` are ever created. -/
def OpenTargetsKeptAmong (n : Nat) (s : State) (a : Label) : Prop :=
  (∀ c ∈ a.creates, c < n) ∧ (s.grants a.requests → ∀ r ∈ a.requests, ∀ c < n,
    (s.contexts c).life = .live → ¬(s.contexts c).control.target r)

instance (n : Nat) (s : State) (a : Label) : Decidable (OpenTargetsKeptAmong n s a) :=
  inferInstanceAs (Decidable (_ ∧ _))

theorem openTargetsKept_after {n : Nat} {config : DriverConfig}
    {images : ImageRef → BackingImage} {labels : List Label}
    (hexec : ((driver config images).executeIf (OpenTargetsKeptAmong n)
      (driver config images).init labels).isSome) :
    (driver config images).ReachableUnder OpenTargetsKept
      ((driver config images).after labels) := by
  refine LabelledSystem.reachableUnder_after (ContextsBelow n)
    (fun _ _ _ hbelow hcheck hstep => hbelow.step hcheck.1 hstep) ?_ (.init n config images) hexec
  intro s a hbelow hcheck hgrants r hr c hlive
  exact hcheck.2 hgrants r hr c (hbelow.lt_of_live hlive) hlive

/-- A picture is open on surface 0 while surface 1 is destroyed. -/
def otherDestroyedRun : List Label :=
  [.createContext 0 .vld .av1 ⟨0, 0, 8⟩ 0, .createSurface 0 ⟨0, 0, 8⟩ none,
    .createSurface 1 ⟨0, 0, 8⟩ none] ++ beginScript 0 0 8 ++
    .destroySurfaces [1] :: List.replicate 5 (.destroy .ok)

/-- The open picture has its target and surface 1 is gone. -/
def otherDestroyedScenario :
    (driver {} fun _ => {}).Scenario (OpenTargetsKeptAmong 1) fun s =>
      (s.contexts 0).life = .live ∧ (s.contexts 0).renderTarget = some 0 ∧
        (s.surfaces 1).life = .freed where
  labels := otherDestroyedRun
  enabled := by decide +kernel
  ends := by decide +kernel

/-- The target of the open picture is in the object table. -/
theorem targets_in_table_begun :
    (((driver {} fun _ => {}).after otherDestroyedRun).surfaces 0).life = .live :=
  targets_in_table (openTargetsKept_after (n := 1) otherDestroyedScenario.enabled) 0
    otherDestroyedScenario.ends.1 0 (.inl otherDestroyedScenario.ends.2.1)

/-- `nvRenderPicture` fails, which clears the flag of the target, and the target is
destroyed before `nvEndPicture`. -/
def danglingRun : List Label :=
  [.createContext 0 .vld .av1 ⟨0, 0, 8⟩ 0, .createSurface 0 ⟨0, 0, 8⟩ none] ++
    beginScript 0 0 8 ++ .renderPicture 0 false :: List.replicate 5 (.call 0 .ok) ++
    .destroySurfaces [0] :: List.replicate 5 (.destroy .ok)

/-- The picture is still open, and its target has been freed. -/
def danglingScenario :
    (driver {} fun _ => {}).Scenario (fun _ _ => True) fun s =>
      (s.contexts 0).life = .live ∧ (s.contexts 0).pictureState = .failed ∧
        (s.contexts 0).renderTarget = some 0 ∧ (s.surfaces 0).life = .freed where
  labels := danglingRun
  enabled := by decide +kernel
  ends := by decide +kernel

/-- After a failed `nvRenderPicture` the target of the open picture can be freed. -/
theorem target_freed :
    ¬∀ (config : DriverConfig) (images : ImageRef → BackingImage) (s : State),
      (driver config images).Reachable s → ∀ c, (s.contexts c).life = .live → ∀ r,
        (s.contexts c).renderTarget = some r ∨ (s.contexts c).displayTarget = some r →
          (s.surfaces r).life = .live := by
  intro hclaim
  obtain ⟨hlive, _, htarget, hfreed⟩ := danglingScenario.ends
  have hlife := hclaim {} (fun _ => {}) _ danglingScenario.reachable 0 hlive 0 (.inl htarget)
  rw [hfreed] at hlife
  cases hlife

end Driver
end NvidiaVaapi
