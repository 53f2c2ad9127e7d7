import NvidiaVaapi.Driver.DanglingTargets
import NvidiaVaapi.Driver.OrphanFlags

/-!
# What nvDestroySurfaces waits for

`nvDestroySurfaces` waits for the flag of a surface while it holds the
object-lifetime lock.  The flag of a picture that is being built ends in a call
that needs the lock, the flag of a submitted picture in a section of a worker.
-/

namespace NvidiaVaapi
namespace Driver

/-- `nvDestroySurfaces` is asked to destroy a pending surface only after the picture
that started its generation has been ended. -/
def GenerationsSubmitted (s : State) (a : Label) : Prop :=
  s.grants a.requests → ∀ r ∈ a.requests, (s.surfaces r).resolving = true →
    ∀ p ∈ (s.surfaces r).startedBy, p = currentPicture s p.context →
      (s.contexts p.context).pictureState = .idle

instance (s : State) (a : Label) : Decidable (GenerationsSubmitted s a) :=
  inferInstanceAs (Decidable (_ → _))

/-- The invariant behind the wait of `nvDestroySurfaces`. -/
structure Submitted (s : State) : Prop where
  answered : Answered s
  requested : ∀ r, s.requested r → (s.surfaces r).resolving = true → s.submitted r

section Steps

variable {s s' : State} {c : ContextRef} {a : Label}

theorem Submitted.call (hsubmitted : Submitted s) (heffect : CallEffect c s s') :
    Submitted s' where
  answered := hsubmitted.answered.call heffect
  requested := by
    have hbasic := hsubmitted.answered.basic
    rintro r ⟨todo, stage, hwriter, hmem⟩ hpending
    rw [heffect.frame.lifetimeWriter] at hwriter
    rcases heffect.owed hbasic hpending with ⟨hbefore, _, hkept⟩ | ⟨hopen, _⟩
    · exact hkept (hsubmitted.requested r ⟨todo, stage, hwriter, hmem⟩ hbefore)
    · exact absurd (hbasic.locked (by simp [hwriter]) c) hopen

theorem Submitted.thread (hsubmitted : Submitted s) (heffect : ThreadEffect a s s')
    (hcond : s'.lifetimeWriter ≠ none → ∀ r ∈ a.requests, (s.surfaces r).resolving = true →
      ∀ p, ¬s.owedBy r p) : Submitted s' where
  answered := hsubmitted.answered.thread heffect
  requested := by
    intro r hrequested hpending
    obtain ⟨hbefore, _, hkept⟩ := heffect.owed hsubmitted.answered.basic hpending
    rcases heffect.requested hrequested with hsame | ⟨requested, hon, hmem, _⟩
    · exact hkept (hsubmitted.requested r hsame hbefore)
    · subst hon
      have hlocked : s'.lifetimeWriter ≠ none := by
        obtain ⟨todo, stage, hwriter, _⟩ := hrequested
        simp [hwriter]
      rcases hsubmitted.answered.answered r hbefore with ⟨p, hp⟩ | hjob
      · exact absurd hp (hcond hlocked r hmem hbefore p)
      · exact hkept hjob

theorem Submitted.sync {thread : Nat} (hsubmitted : Submitted s)
    (heffect : SyncEffect thread s s') : Submitted s' := by
  constructor
  case answered => exact hsubmitted.answered.sync heffect
  simp only [State.submitted, State.requested, heffect.surfaces, heffect.outstanding,
    heffect.lifetimeWriter]
  exact hsubmitted.requested

theorem Submitted.step (hsubmitted : Submitted s) (hcond : GenerationsSubmitted s a)
    (hstep : Driver.step s a = some s') : Submitted s' := by
  have hok := hsubmitted.answered.basic.ok
  cases step_effect hok hstep with
  | call c _ effect => exact hsubmitted.call effect
  | thread _ effect =>
      refine hsubmitted.thread effect fun hlocked r hrequested hpending p howed => ?_
      cases a with
      | destroySurfaces requested =>
          have hidle := hcond (grants_of_locked hstep hlocked) r hrequested hpending p howed.1
            howed.2.1
          exact pictureState_of_owes (hok p.context) howed.2.2 hidle
      | _ => cases hrequested
  | sync _ thread effect => exact hsubmitted.sync effect

theorem submitted_init (config : DriverConfig) (images : ImageRef → BackingImage) :
    Submitted (driver config images).init where
  answered := answered_init config images
  requested := nofun

/-- While `nvDestroySurfaces` waits for the flag of a surface, a job of the pending
generation is in the queue of a context or in the hands of its worker. -/
theorem destroy_waits_for_job {config : DriverConfig} {images : ImageRef → BackingImage}
    (hs : (driver config images).ReachableUnder GenerationsSubmitted s) :
    ∀ r rest, s.lifetimeWriter = some (.surfaces (r :: rest) .waitSurface) →
      (s.surfaces r).resolving = true →
        ∃ c, ∃ p ∈ (s.contexts c).control.pending, p.job.surface = r ∧
          p.job.generation = (s.surfaces r).submittedGeneration := by
  have hsubmitted : Submitted s :=
    LabelledSystem.invariant (submitted_init config images)
      (fun _ _ _ h hcond hstep => h.step hcond hstep) hs
  intro r rest hwriter hpending
  obtain ⟨c, p, hp, hjob⟩ :=
    hsubmitted.requested r ⟨_, _, hwriter, List.mem_cons_self⟩ hpending
  refine ⟨c, p, ?_, hjob⟩
  have hnone : s.cancelledJobs c = [] := by simp [State.cancelledJobs, hwriter]
  simpa [State.outstanding, hnone] using hp

end Steps

/-- The parameters of an AV1 picture with one tile and no film grain. -/
def plainParameters : PictureParameterBuffer :=
  { references := .av1 (List.replicate 8 9), tiles := 1 }

/-- A picture on surface 0 is submitted, and surface 0 is destroyed while its job is
in the queue. -/
def submittedRun : List Label :=
  [.createContext 0 .vld .av1 ⟨0, 0, 8⟩ 0, .createSurface 0 ⟨0, 0, 8⟩ none] ++
    beginScript 0 0 8 ++ renderScript 0 plainParameters 9 1 ++ endScript 0 9 ++
    [.destroySurfaces [0]]

/-- `nvDestroySurfaces` waits for that job. -/
def submittedScenario :
    (driver {} fun _ => {}).Scenario GenerationsSubmitted fun s =>
      s.lifetimeWriter = some (.surfaces [0] .waitSurface) ∧
        (s.surfaces 0).resolving = true where
  labels := submittedRun
  enabled := by decide +kernel
  ends := by decide +kernel

/-- The job that `nvDestroySurfaces` waits for. -/
theorem destroy_waits_for_job_submitted :
    ∃ c, ∃ p ∈ (((driver {} fun _ => {}).after submittedRun).contexts c).control.pending,
      p.job.surface = 0 ∧ p.job.generation =
        (((driver {} fun _ => {}).after submittedRun).surfaces 0).submittedGeneration :=
  destroy_waits_for_job
    (LabelledSystem.reachableUnder_after (fun _ => True) (fun _ _ _ _ _ _ => trivial)
      (fun _ _ _ h => h) trivial submittedScenario.enabled)
    0 [] submittedScenario.ends.1 submittedScenario.ends.2

/-- Surface 0 is destroyed between `nvBeginPicture` and `nvEndPicture`. -/
def openWaitRun : List Label :=
  [.createContext 0 .vld .av1 ⟨0, 0, 8⟩ 0, .createSurface 0 ⟨0, 0, 8⟩ none] ++
    beginScript 0 0 8 ++ [.destroySurfaces [0]]

/-- `nvDestroySurfaces` waits, and there is no job. -/
def openWaitScenario :
    (driver {} fun _ => {}).Scenario (fun _ _ => True) fun s =>
      s.lifetimeWriter = some (.surfaces [0] .waitSurface) ∧
        (s.surfaces 0).resolving = true ∧ (s.contexts 0).control.pending = [] where
  labels := openWaitRun
  enabled := by decide +kernel
  ends := by decide +kernel

/-- `nvDestroySurfaces` of the target of an open picture waits for an end that only
`nvEndPicture` can bring, which needs the lock. -/
theorem destroy_waits_for_call :
    ¬∀ (config : DriverConfig) (images : ImageRef → BackingImage) (s : State),
      (driver config images).Reachable s →
        ∀ r rest, s.lifetimeWriter = some (.surfaces (r :: rest) .waitSurface) →
          (s.surfaces r).resolving = true →
            ∃ c, ∃ p ∈ (s.contexts c).control.pending, p.job.surface = r := by
  intro hclaim
  obtain ⟨hwriter, hpending, hnone⟩ := openWaitScenario.ends
  obtain ⟨c, p, hp, _⟩ :=
    hclaim {} (fun _ => {}) _ openWaitScenario.reachable 0 [] hwriter hpending
  cases c with
  | zero =>
      rw [hnone] at hp
      cases hp
  | succ n => cases hp

end Driver
end NvidiaVaapi
