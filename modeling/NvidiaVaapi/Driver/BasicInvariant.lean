import NvidiaVaapi.Driver.StepEffect

/-!
# What every reachable state satisfies

The invariants that hold along every run, whatever the application does: the
fields of a context agree with the stage of its picture, calls in progress are
readers of the object-lifetime lock, failures are on record before anything is
cleaned up, and the outstanding jobs of a context belong to different pictures
of it that have been submitted.
-/

namespace NvidiaVaapi
namespace Driver

/-- The invariants of every run. -/
structure Basic (s : State) : Prop where
  ok : ∀ c, (s.contexts c).control.okAt (s.contexts c).control.stage
  /-- A call in progress holds the object-lifetime lock as a reader. -/
  lock : ∀ c, (s.contexts c).control.stage ≠ .between →
    .context c ∈ s.lifetimeReaders ∧ (s.contexts c).life = .live ∧ s.lifetimeWriter = none
  absent : ∀ c, (s.contexts c).life = .absent →
    (s.contexts c).picture = 0 ∧ s.outstanding c = []
  recorded : ∀ c, FailureRecorded s c
  known : ∀ c, currentPicture s c ∈ s.failed →
    (s.contexts c).control.failing ∨ (s.contexts c).control.settled
  begun : ∀ c, (s.contexts c).pictureState ≠ .idle → 0 < (s.contexts c).picture
  failed : ∀ p ∈ s.failed, 0 < p.serial ∧ p.serial ≤ (s.contexts p.context).picture
  started : ∀ r p, (s.surfaces r).startedBy = some p →
    0 < p.serial ∧ p.serial ≤ (s.contexts p.context).picture
  jobs : ∀ c, ∀ p ∈ s.outstanding c, p.job.picture.context = c ∧ 0 < p.job.picture.serial ∧
    p.job.picture.serial ≤ (s.contexts c).picture ∧
    (p.job.picture.serial = (s.contexts c).picture → (s.contexts c).control.settled)
  distinct : ∀ c, ((s.outstanding c).map fun p => p.job.picture).Nodup
  submitting : ∀ c job, (s.contexts c).control.stage = .submitting job →
    job.picture = currentPicture s c
  /-- A job about to be pushed carries the generation of its picture. -/
  filled : ∀ c job, (s.contexts c).control.stage = .submitting job →
    (s.surfaces job.surface).startedBy = some (currentPicture s c) →
    job.generation = (s.surfaces job.surface).submittedGeneration
  destroying : ∀ c, s.destroys c → (s.contexts c).life = .live

namespace CallEffect

variable {s s' : State} {c : ContextRef}

theorem frame (heffect : CallEffect c s s') : CallFrame c s s' := by
  cases heffect <;> assumption

theorem okAt (heffect : CallEffect c s s')
    (hok : (s.contexts c).control.okAt (s.contexts c).control.stage) :
    (s'.contexts c).control.okAt (s'.contexts c).control.stage := by
  cases heffect with
  | advance _ _ moves => exact moves.okAt
  | begin _ _ idle stage hstage control =>
      have huntargeted : (s.contexts c).control.untargeted := by
        generalize (s.contexts c).control = κ at hok idle
        cases hκ : κ.stage <;> rw [hκ] at hok <;>
          simp_all [Control.okAt]
        split at hok <;> simp_all
      rw [control]
      rcases hstage with rfl | ⟨q, rfl, _⟩
      · exact .inl ⟨rfl, huntargeted⟩
      · exact ⟨rfl, huntargeted⟩
  | acquire r _ _ phase _ control =>
      have hstage : (s.contexts c).control.stage = .waiting r := by
        simp [NVContext.control, phase, Phase.stage]
      rw [hstage] at hok
      rw [control]
      exact hok
  | take r _ _ _ _ _ _ _ moves => exact moves.okAt
  | start r _ _ _ stage control =>
      rw [stage] at hok
      obtain ⟨hbuilding, hrender, hdisplay⟩ := hok
      rw [control]
      by_cases hproc : (s.contexts c).entrypoint = .videoProc
      · simp only [hproc, if_true]
        refine .inr ⟨.inl hbuilding, rfl, ?_⟩
        have hnone : (s.contexts c).displayTarget = none := hdisplay
        have hentry : (s.contexts c).control.entrypoint = .videoProc := hproc
        simp [hnone, hentry]
      · simp only [hproc, if_false]
        exact ⟨hbuilding, vld_of_ne_videoProc hproc, rfl,
          by simp [vld_of_ne_videoProc hproc]⟩
  | redirect r _ _ _ status stage _ control =>
      rw [stage] at hok
      rw [control]
      exact hok
  | clear section_ rest next _ _ stage control =>
      rw [stage] at hok
      obtain ⟨htargeted, hcleared, hnext⟩ := hok
      rw [control]
      cases rest with
      | nil =>
          cases next <;> first | exact hnext.elim | skip
          · rcases hnext with hfailed | ⟨_, hbuilding⟩
            · exact .inr ⟨.inr hfailed, htargeted⟩
            · exact .inr ⟨.inl hbuilding, htargeted⟩
          · exact ⟨hnext.2, hnext.1, htargeted⟩
          · refine .inr ⟨?_, htargeted⟩
            rcases hnext with h | h <;> simp [h]
      | cons second rest =>
          refine ⟨htargeted, fun r hr => hcleared r ?_, hnext⟩
          exact (mem_clearedBy_cons _ _ _).mpr (.inr hr)
  | handOver r _ _ _ status phase _ control =>
      have hstage : (s.contexts c).control.stage = .redirecting true status := by
        simp [NVContext.control, phase, Phase.stage]
      rw [hstage] at hok
      rw [control]
      exact ⟨hok.1, hok.2.1, hok.2.2.1⟩
  | publish r src _ _ _ stage render control =>
      rw [stage] at hok
      rw [control]
      refine ⟨hok.2.2, ?_, hok.2.1, hok.1⟩
      intro q hq
      have hqr : r = q := by simpa using hq
      exact .inl (hqr ▸ render)
  | make r status _ _ _ phase output control =>
      have hstage : (s.contexts c).control.stage = .making status := by
        simp [NVContext.control, phase, Phase.stage]
      rw [hstage] at hok
      rw [control]
      refine ⟨hok.1, hok.2.1, hok.2.2, output, rfl, ?_⟩
      have hne : (s.contexts c).renderTarget ≠ some r ↔
          (s.contexts c).control.outputTarget ≠ (s.contexts c).control.renderTarget := by
        rw [output]
        exact ⟨fun h heq => h heq.symm, fun h heq => h heq.symm⟩
      change (makeJob s c r status).handedOver = true ↔
        (s.contexts c).control.outputTarget ≠ (s.contexts c).control.renderTarget
      rw [← hne]
      simp [makeJob]
  | push job _ _ stage control =>
      rw [stage] at hok
      rw [control]
      exact ⟨rfl, hok.2.1, hok.2.2.1⟩

/-- No section of a call changes the life, the entrypoint or the worker of a context. -/
theorem fixed (heffect : CallEffect c s s') (d : ContextRef) :
    (s'.contexts d).life = (s.contexts d).life ∧
      (s'.contexts d).entrypoint = (s.contexts d).entrypoint ∧
      (s'.contexts d).worker = (s.contexts d).worker := by
  have hcontrol : (s'.contexts d).control.life = (s.contexts d).control.life ∧
      (s'.contexts d).control.entrypoint = (s.contexts d).control.entrypoint ∧
      (s'.contexts d).control.worker = (s.contexts d).control.worker := by
    by_cases hd : d = c
    · subst hd
      cases heffect with
      | advance _ _ moves => exact ⟨moves.life, moves.entrypoint, moves.worker⟩
      | take r _ _ _ _ _ _ _ moves => exact ⟨moves.life, moves.entrypoint, moves.worker⟩
      | begin _ _ _ _ _ control => rw [control]; exact ⟨rfl, rfl, rfl⟩
      | acquire _ _ _ _ _ control => rw [control]; exact ⟨rfl, rfl, rfl⟩
      | start _ _ _ _ _ control => rw [control]; exact ⟨rfl, rfl, rfl⟩
      | redirect _ _ _ _ _ _ _ control => rw [control]; exact ⟨rfl, rfl, rfl⟩
      | clear _ _ _ _ _ _ control => rw [control]; exact ⟨rfl, rfl, rfl⟩
      | handOver _ _ _ _ _ _ _ control => rw [control]; exact ⟨rfl, rfl, rfl⟩
      | publish _ _ _ _ _ _ _ control => rw [control]; exact ⟨rfl, rfl, rfl⟩
      | make _ _ _ _ _ _ _ control => rw [control]; exact ⟨rfl, rfl, rfl⟩
      | push _ _ _ _ control => rw [control]; exact ⟨rfl, rfl, rfl⟩
    · rw [heffect.frame.control d hd]
      exact ⟨rfl, rfl, rfl⟩
  exact hcontrol

theorem life (heffect : CallEffect c s s') (d : ContextRef) :
    (s'.contexts d).life = (s.contexts d).life :=
  (heffect.fixed d).1

theorem entrypoint (heffect : CallEffect c s s') (d : ContextRef) :
    (s'.contexts d).entrypoint = (s.contexts d).entrypoint :=
  (heffect.fixed d).2.1

theorem worker (heffect : CallEffect c s s') (d : ContextRef) :
    (s'.contexts d).worker = (s.contexts d).worker :=
  (heffect.fixed d).2.2

/-- Only the context whose job is about to be pushed may change its queue. -/
theorem queue (heffect : CallEffect c s s') (d : ContextRef) :
    (s'.contexts d).resolveQueue = (s.contexts d).resolveQueue ∨
      (d = c ∧ ∃ job, (s.contexts c).control.stage = .submitting job) := by
  by_cases hd : d = c
  · subst hd
    have hqueue : (s'.contexts d).control.resolveQueue = (s.contexts d).control.resolveQueue ∨
        ∃ job, (s.contexts d).control.stage = .submitting job := by
      cases heffect with
      | advance _ _ moves => exact .inl moves.resolveQueue
      | take r _ _ _ _ _ _ _ moves => exact .inl moves.resolveQueue
      | begin _ _ _ _ _ control => exact .inl (by rw [control])
      | acquire _ _ _ _ _ control => exact .inl (by rw [control])
      | start _ _ _ _ _ control => exact .inl (by rw [control])
      | redirect _ _ _ _ _ _ _ control => exact .inl (by rw [control])
      | clear _ _ _ _ _ _ control => exact .inl (by rw [control])
      | handOver _ _ _ _ _ _ _ control => exact .inl (by rw [control])
      | publish _ _ _ _ _ _ _ control => exact .inl (by rw [control])
      | make _ _ _ _ _ _ _ control => exact .inl (by rw [control])
      | push job _ _ stage => exact .inr ⟨job, stage⟩
    exact hqueue.imp id fun h => ⟨rfl, h⟩
  · exact .inl (congrArg Control.resolveQueue (heffect.frame.control d hd))

/-- A section of a call on a context that is live, as the lock invariant says. -/
theorem live (heffect : CallEffect c s s') (hbasic : Basic s)
    (hstage : (s.contexts c).control.stage ≠ .between ∨
      (s'.contexts c).control.stage ≠ .between) : (s.contexts c).life = .live := by
  rcases heffect.frame.opened with hopen | hclosed | hadmitted
  · exact (hbasic.lock c hopen).2.1
  · rcases hstage with h | h
    · exact (hbasic.lock c h).2.1
    · exact absurd hclosed h
  · exact hadmitted.2.1

theorem picture (heffect : CallEffect c s s') :
    (s'.contexts c).control.picture = (s.contexts c).control.picture ∨
      ((s'.contexts c).control.picture = (s.contexts c).control.picture + 1 ∧
        (s.contexts c).control.pictureState = .idle ∧
        (s'.contexts c).control.pictureState = .building ∧
        (s'.contexts c).control.stage ≠ .between ∧ s'.failed = s.failed ∧
        (∀ r, (s'.surfaces r).flags = (s.surfaces r).flags) ∧
        (s'.contexts c).control.pending = (s.contexts c).control.pending ∧
        ∀ job, (s'.contexts c).control.stage ≠ .submitting job) := by
  cases heffect with
  | advance _ _ moves => exact .inl moves.picture
  | take r _ _ _ _ _ _ _ moves => exact .inl moves.picture
  | begin frame flags idle stage hstage control =>
      refine .inr ⟨?_, idle, ?_, ?_, ?_, flags, ?_, ?_⟩
      · rw [control]
        rfl
      · rw [control]
      · rw [control]
        rcases hstage with rfl | ⟨q, rfl, _⟩ <;> nofun
      · rcases frame.failed with h | ⟨_, _, _, hbuilding⟩
        · exact h
        · simp [idle] at hbuilding
      · rw [control]
        rfl
      · rw [control]
        rcases hstage with rfl | ⟨q, rfl, _⟩ <;> nofun
  | acquire _ _ _ _ _ control => exact .inl (by rw [control])
  | start _ _ _ _ _ control => exact .inl (by rw [control])
  | redirect _ _ _ _ _ _ _ control => exact .inl (by rw [control])
  | clear _ _ _ _ _ _ control => exact .inl (by rw [control])
  | handOver _ _ _ _ _ _ _ control => exact .inl (by rw [control])
  | publish _ _ _ _ _ _ _ control => exact .inl (by rw [control])
  | make _ _ _ _ _ _ _ control => exact .inl (by rw [control])
  | push _ _ _ _ control => exact .inl (by rw [control])

theorem pictureOf (heffect : CallEffect c s s') (d : ContextRef) :
    (s.contexts d).picture ≤ (s'.contexts d).picture := by
  by_cases hd : d = c
  · subst hd
    have hpicture : (s'.contexts d).picture = (s.contexts d).picture ∨
        (s'.contexts d).picture = (s.contexts d).picture + 1 :=
      heffect.picture.imp id (fun h => h.1)
    omega
  · have hsame : (s'.contexts d).picture = (s.contexts d).picture :=
      congrArg Control.picture (heffect.frame.control d hd)
    omega

theorem pictureState (heffect : CallEffect c s s')
    (hok : (s.contexts c).control.okAt (s.contexts c).control.stage)
    (hpicture : (s'.contexts c).control.picture = (s.contexts c).control.picture) :
    ((s.contexts c).control.pictureState = .idle →
        (s'.contexts c).control.pictureState = .idle) ∧
      ((s.contexts c).control.settled → (s'.contexts c).control.settled) := by
  cases heffect with
  | advance _ _ moves =>
      refine ⟨moves.idle, ?_⟩
      rintro (hsubmitted | hidle)
      · exact (moves.submitted hsubmitted).imp id And.left
      · exact .inr (moves.idle hidle)
  | take r _ _ _ _ _ _ _ moves =>
      refine ⟨moves.idle, ?_⟩
      rintro (hsubmitted | hidle)
      · exact (moves.submitted hsubmitted).imp id And.left
      · exact .inr (moves.idle hidle)
  | begin _ _ _ stage _ control =>
      rw [control] at hpicture
      change (s.contexts c).picture + 1 = (s.contexts c).picture at hpicture
      omega
  | acquire _ _ _ _ _ control => rw [control]; exact ⟨id, id⟩
  | start _ _ _ _ _ control => rw [control]; exact ⟨id, id⟩
  | redirect _ _ _ _ _ _ _ control => rw [control]; exact ⟨id, id⟩
  | clear _ _ _ _ _ _ control => rw [control]; exact ⟨id, id⟩
  | handOver _ _ _ _ _ _ _ control => rw [control]; exact ⟨id, id⟩
  | publish _ _ _ _ _ _ _ control => rw [control]; exact ⟨id, id⟩
  | make _ _ _ _ _ _ _ control => rw [control]; exact ⟨id, id⟩
  | push _ _ _ stage control =>
      rw [stage] at hok
      rw [control]
      refine ⟨fun hidle => ?_, fun _ => .inl rfl⟩
      have hbuilding := hok.1
      simp [hidle] at hbuilding

/-- A section of a call leaves the generation of a surface alone, or starts a
generation of its own picture, which it then owes an end. -/
theorem generation (heffect : CallEffect c s s')
    (hok : (s.contexts c).control.okAt (s.contexts c).control.stage) (r : SurfaceRef) :
    ((s'.surfaces r).startedBy = (s.surfaces r).startedBy ∧
        (s'.surfaces r).submittedGeneration = (s.surfaces r).submittedGeneration ∧
        ((s'.surfaces r).resolving = true → (s.surfaces r).resolving = true)) ∨
      ((s'.surfaces r).startedBy = some (currentPicture s c) ∧
        currentPicture s' c = currentPicture s c ∧ (s'.contexts c).control.owes r ∧
        (s.contexts c).control.stage ≠ .between ∧
        (∀ job, (s'.contexts c).control.stage ≠ .submitting job) ∧
        (s.contexts c).control.holds r ∧
        (s.contexts c).control.pictureState = .building) := by
  have hsame : ∀ q, (s'.surfaces q).flags = (s.surfaces q).flags →
      (s'.surfaces q).startedBy = (s.surfaces q).startedBy ∧
        (s'.surfaces q).submittedGeneration = (s.surfaces q).submittedGeneration ∧
        ((s'.surfaces q).resolving = true → (s.surfaces q).resolving = true) := by
    intro q h
    have hresolving : (s'.surfaces q).resolving = (s.surfaces q).resolving :=
      congrArg Flags.resolving h
    exact ⟨congrArg Flags.startedBy h, congrArg Flags.submittedGeneration h,
      fun hq => hresolving ▸ hq⟩
  cases heffect with
  | advance _ flags _ => exact .inl (hsame r (flags r))
  | begin _ flags => exact .inl (hsame r (flags r))
  | acquire _ _ flags => exact .inl (hsame r (flags r))
  | take _ _ flags => exact .inl (hsame r (flags r))
  | push _ _ flags => exact .inl (hsame r (flags r))
  | start q _ others flags stage control =>
      by_cases hr : r = q
      · subst hr
        rw [stage] at hok
        refine .inr ⟨congrArg Flags.startedBy flags, ?_, ?_, by simp [stage], ?_, .inr stage,
          hok.1⟩
        · exact currentPicture_of_control (by rw [control])
        · rw [control]
          refine ⟨.inl rfl, ?_⟩
          change Control.owesAt _ r (if _ then Stage.between else Stage.decoding)
          split <;> rfl
        · rw [control]
          intro job
          change (if _ then Stage.between else Stage.decoding) ≠ _
          split <;> nofun
      · exact .inl (hsame r (others r hr))
  | redirect q _ others flags status stage output control =>
      by_cases hr : r = q
      · subst hr
        rw [stage] at hok
        have htarget := Control.target_of_outputTarget output
        refine .inr ⟨congrArg Flags.startedBy flags, ?_, ?_, by simp [stage], ?_, .inl htarget,
          hok.1⟩
        · exact currentPicture_of_control (by rw [control])
        · rw [control]
          exact ⟨htarget, htarget⟩
        · rw [control]
          nofun
      · exact .inl (hsame r (others r hr))
  | clear section_ rest next frame flags =>
      have hstarted := congrArg Flags.startedBy (flags r)
      have hgeneration := congrArg Flags.submittedGeneration (flags r)
      have hresolving := congrArg Flags.resolving (flags r)
      obtain ⟨hrunStarted, hrunGeneration⟩ := section_.run_startedBy s r
      refine .inl ⟨hstarted.trans hrunStarted, hgeneration.trans hrunGeneration, ?_⟩
      intro hpending
      by_cases hclears : section_.clears = some r
      · have hdone := section_.run_resolving s hclears
        change (s'.surfaces r).resolving = ((section_.run s).surfaces r).resolving at hresolving
        rw [hresolving, hdone] at hpending
        cases hpending
      · change (s'.surfaces r).resolving = ((section_.run s).surfaces r).resolving at hresolving
        rw [hresolving, section_.run_surfaces_ne s hclears] at hpending
        exact hpending
  | handOver q _ others flags =>
      by_cases hr : r = q
      · subst hr
        refine .inl ⟨congrArg Flags.startedBy flags, congrArg Flags.submittedGeneration flags, ?_⟩
        intro hpending
        have hdone := congrArg Flags.resolving flags
        change (s'.surfaces r).resolving = false at hdone
        simp [hdone] at hpending
      · exact .inl (hsame r (others r hr))
  | publish q _ _ others flags =>
      by_cases hr : r = q
      · subst hr
        have hresolving : (s'.surfaces r).resolving = (s.surfaces r).resolving :=
          congrArg Flags.resolving flags
        exact .inl ⟨congrArg Flags.startedBy flags, congrArg Flags.submittedGeneration flags,
          fun h => hresolving ▸ h⟩
      · exact .inl (hsame r (others r hr))
  | make q _ _ others flags =>
      by_cases hr : r = q
      · subst hr
        have hresolving : (s'.surfaces r).resolving = (s.surfaces r).resolving :=
          congrArg Flags.resolving flags
        exact .inl ⟨congrArg Flags.startedBy flags, congrArg Flags.submittedGeneration flags,
          fun h => hresolving ▸ h⟩
      · exact .inl (hsame r (others r hr))

theorem pending (heffect : CallEffect c s s') :
    (s'.contexts c).control.pending = (s.contexts c).control.pending ∨
      ∃ job, (s.contexts c).control.stage = .submitting job ∧
        ((s'.contexts c).control.pictureState = .submitted ∧
          (s'.contexts c).control.stage = .submitted) ∧
        (s'.contexts c).control.picture = (s.contexts c).control.picture ∧
        (∀ r, (s'.surfaces r).flags = (s.surfaces r).flags) ∧
        (s'.contexts c).control.pending.Perm
          (.queued job :: (s.contexts c).control.pending) := by
  have hsame : ∀ κ κ' : Control, κ'.resolveQueue = κ.resolveQueue → κ'.worker = κ.worker →
      κ'.pending = κ.pending := by
    intro κ κ' hqueue hworker
    unfold Control.pending
    rw [hqueue, hworker]
  cases heffect with
  | advance _ _ moves => exact .inl (hsame _ _ moves.resolveQueue moves.worker)
  | take r _ _ _ _ _ _ _ moves => exact .inl (hsame _ _ moves.resolveQueue moves.worker)
  | begin _ _ _ _ _ control => exact .inl (by rw [control]; rfl)
  | acquire _ _ _ _ _ control => exact .inl (by rw [control]; rfl)
  | start _ _ _ _ _ control => exact .inl (by rw [control]; rfl)
  | redirect _ _ _ _ _ _ _ control => exact .inl (by rw [control]; rfl)
  | clear _ _ _ _ _ _ control => exact .inl (by rw [control]; rfl)
  | handOver _ _ _ _ _ _ _ control => exact .inl (by rw [control]; rfl)
  | publish _ _ _ _ _ _ _ control => exact .inl (by rw [control]; rfl)
  | make _ _ _ _ _ _ _ control => exact .inl (by rw [control]; rfl)
  | push job _ flags stage control =>
      refine .inr ⟨job, stage, ⟨by rw [control], by rw [control]⟩, by rw [control], flags, ?_⟩
      rw [control]
      change (((s.contexts c).resolveQueue.items ++ [job]).map Pending.queued ++
        (s.contexts c).worker.pending).Perm (Pending.queued job ::
          ((s.contexts c).resolveQueue.items.map Pending.queued ++
            (s.contexts c).worker.pending))
      rw [List.map_append, List.append_assoc]
      exact List.perm_middle

/-- The outstanding jobs stay, or the job of the picture joins them. -/
theorem outstanding (heffect : CallEffect c s s') :
    (∀ d, d ≠ c → s'.outstanding d = s.outstanding d) ∧
      (s'.outstanding c = s.outstanding c ∨
        ∃ job, (s.contexts c).control.stage = .submitting job ∧
          ((s'.contexts c).control.pictureState = .submitted ∧
            (s'.contexts c).control.stage = .submitted) ∧
          (s'.contexts c).control.picture = (s.contexts c).control.picture ∧
          (∀ r, (s'.surfaces r).flags = (s.surfaces r).flags) ∧
          (s'.outstanding c).Perm (.queued job :: s.outstanding c)) := by
  have hcancelled := cancelledJobs_of_writer heffect.frame.lifetimeWriter
  refine ⟨fun d hd => outstanding_eq (heffect.frame.control d hd) (hcancelled d), ?_⟩
  unfold State.outstanding
  rw [hcancelled c]
  rcases heffect.pending with hsame | ⟨job, hstage, hstate, hpicture, hflags, hperm⟩
  · exact .inl (by rw [hsame])
  · exact .inr ⟨job, hstage, hstate, hpicture, hflags, hperm.append_right _⟩

/-- A failure on record shows in the call, or the picture is out of its hands. -/
theorem known (heffect : CallEffect c s s')
    (hok : (s.contexts c).control.okAt (s.contexts c).control.stage)
    (hpicture : (s'.contexts c).control.picture = (s.contexts c).control.picture)
    (hfailing : (s.contexts c).control.failing) :
    (s'.contexts c).control.failing ∨ (s'.contexts c).control.settled := by
  cases heffect with
  | advance _ _ moves => exact moves.failing hfailing
  | take r _ _ _ _ _ _ _ moves => exact moves.failing hfailing
  | begin _ _ _ stage _ control =>
      rw [control] at hpicture
      change (s.contexts c).picture + 1 = (s.contexts c).picture at hpicture
      omega
  | acquire r _ _ phase _ control =>
      have hstage : (s.contexts c).control.stage = .waiting r := by
        simp [NVContext.control, phase, Phase.stage]
      rw [hstage] at hok
      simp [Control.failing, Control.cleaning, hstage, hok.1] at hfailing
  | start r _ _ _ stage control =>
      rw [stage] at hok
      simp [Control.failing, Control.cleaning, stage, hok.1] at hfailing
  | redirect r _ _ _ status stage _ control =>
      rw [stage] at hok
      have hstatus : status ≠ .success := by
        simpa [Control.failing, Control.cleaning, stage, hok.1] using hfailing
      rw [control]
      exact .inl (.inr (.inr ⟨status, hstatus, .inr (.inl ⟨true, rfl⟩)⟩))
  | clear section_ rest next _ _ stage control =>
      rw [stage] at hok
      obtain ⟨_, _, hnext⟩ := hok
      have hcleaning : (s.contexts c).control.cleaning := by
        simpa [Control.failing, stage] using hfailing
      rw [control]
      rcases hcleaning with hfailed | ⟨hvld, _⟩
      · exact .inl (.inl (.inl hfailed))
      · cases rest with
        | cons second rest => exact .inl (.inl (.inr ⟨hvld, _, _, rfl⟩))
        | nil =>
            cases next <;> first | exact hnext.elim | skip
            · rcases hnext with hfailed | ⟨hproc, _⟩
              · exact .inl (.inl (.inl hfailed))
              · simp [hvld] at hproc
            · simp [hvld] at hnext
            · exact .inl (.inr (.inl rfl))
  | handOver r _ _ _ status phase _ control =>
      have hstage : (s.contexts c).control.stage = .redirecting true status := by
        simp [NVContext.control, phase, Phase.stage]
      rw [hstage] at hok
      have hstatus : status ≠ .success := by
        simpa [Control.failing, Control.cleaning, hstage, hok.1] using hfailing
      rw [control]
      exact .inl (.inr (.inr ⟨status, hstatus, .inr (.inr (.inl rfl))⟩))
  | publish r src _ _ _ stage render control =>
      rw [stage] at hok
      simp [Control.failing, Control.cleaning, stage, hok.1] at hfailing
  | make r status _ _ _ phase output control =>
      have hstage : (s.contexts c).control.stage = .making status := by
        simp [NVContext.control, phase, Phase.stage]
      rw [hstage] at hok
      have hstatus : status ≠ .success := by
        simpa [Control.failing, Control.cleaning, hstage, hok.1] using hfailing
      rw [control]
      exact .inl (.inr (.inr ⟨status, hstatus, .inr (.inr (.inr ⟨_, rfl, rfl⟩))⟩))
  | push job _ _ stage control =>
      rw [control]
      exact .inr (.inl rfl)

theorem submitting (heffect : CallEffect c s s')
    (hok : (s.contexts c).control.okAt (s.contexts c).control.stage) {job : ResolveJob}
    (hjob : (s'.contexts c).control.stage = .submitting job) :
    (s.contexts c).control.stage = .submitting job ∨
      ∃ r status, (s.contexts c).phase = .endMakeJob status ∧ job = makeJob s c r status := by
  cases heffect with
  | advance _ _ moves => exact .inl (moves.job job hjob)
  | take r _ _ _ _ _ _ _ moves => exact .inl (moves.job job hjob)
  | begin _ _ _ stage hstage control =>
      rw [control] at hjob
      rcases hstage with rfl | ⟨q, rfl, _⟩ <;> cases hjob
  | acquire _ _ _ _ _ control => rw [control] at hjob; cases hjob
  | start _ _ _ _ _ control =>
      rw [control] at hjob
      change (if _ then _ else _ : Stage) = _ at hjob
      split at hjob <;> cases hjob
  | redirect _ _ _ _ _ _ _ control => rw [control] at hjob; cases hjob
  | clear section_ rest next _ _ stage control =>
      rw [stage] at hok
      rw [control] at hjob
      cases rest with
      | cons second rest => cases hjob
      | nil =>
          change next = _ at hjob
          subst hjob
          exact hok.2.2.elim
  | handOver _ _ _ _ _ _ _ control => rw [control] at hjob; cases hjob
  | publish _ _ _ _ _ _ _ control => rw [control] at hjob; cases hjob
  | make r status _ _ _ phase _ control =>
      rw [control] at hjob
      cases hjob
      exact .inr ⟨r, status, phase, rfl⟩
  | push _ _ _ _ control => rw [control] at hjob; cases hjob

/-- A job about to be pushed has just been filled in from its surface, or the
section left its surface alone. -/
theorem submitting_flags (heffect : CallEffect c s s')
    (hok : (s.contexts c).control.okAt (s.contexts c).control.stage) {job : ResolveJob}
    (hjob : (s'.contexts c).control.stage = .submitting job) :
    ((s.contexts c).control.stage = .submitting job ∧
        ∀ r, (s'.surfaces r).flags = (s.surfaces r).flags) ∨
      job.generation = (s'.surfaces job.surface).submittedGeneration := by
  cases heffect with
  | advance _ flags moves => exact .inl ⟨moves.job job hjob, flags⟩
  | take r _ flags _ _ _ _ _ moves => exact .inl ⟨moves.job job hjob, flags⟩
  | begin _ _ _ stage hstage control =>
      rw [control] at hjob
      rcases hstage with rfl | ⟨q, rfl, _⟩ <;> cases hjob
  | acquire _ _ _ _ _ control => rw [control] at hjob; cases hjob
  | start _ _ _ _ _ control =>
      rw [control] at hjob
      change (if _ then _ else _ : Stage) = _ at hjob
      split at hjob <;> cases hjob
  | redirect _ _ _ _ _ _ _ control => rw [control] at hjob; cases hjob
  | clear section_ rest next _ _ stage control =>
      rw [stage] at hok
      rw [control] at hjob
      cases rest with
      | cons second rest => cases hjob
      | nil =>
          change next = _ at hjob
          subst hjob
          exact hok.2.2.elim
  | handOver _ _ _ _ _ _ _ control => rw [control] at hjob; cases hjob
  | publish _ _ _ _ _ _ _ control => rw [control] at hjob; cases hjob
  | make r status _ _ flags _ _ control =>
      rw [control] at hjob
      cases hjob
      exact .inr (congrArg Flags.submittedGeneration flags).symm
  | push _ _ _ _ control => rw [control] at hjob; cases hjob

end CallEffect

/-! ## Preservation by the calls -/

section Preservation

variable {s s' : State} {c : ContextRef} {a : Label}

theorem pictureState_of_submitting (hbasic : Basic s) {job : ResolveJob}
    (hstage : (s.contexts c).control.stage = .submitting job) :
    (s.contexts c).control.pictureState = .building := by
  have hok := hbasic.ok c
  rw [hstage] at hok
  exact hok.1

theorem destroys_of_writer (hwriter : s'.lifetimeWriter = s.lifetimeWriter) {d : ContextRef}
    (hdestroys : s'.destroys d) : s.destroys d := by
  obtain ⟨stage, hstage⟩ := hdestroys
  exact ⟨stage, hwriter ▸ hstage⟩

theorem currentPicture_mem_jobs (hbasic : Basic s) {p : Pending} (hp : p ∈ s.outstanding c)
    (hpicture : p.job.picture = currentPicture s c) : (s.contexts c).control.settled := by
  obtain ⟨_, _, _, hsettled⟩ := hbasic.jobs c p hp
  exact hsettled (by rw [hpicture]; rfl)

/-- The failures on record after a section of a call. -/
theorem mem_failed_call (heffect : CallEffect c s s') {p : Picture} (hp : p ∈ s'.failed) :
    p ∈ s.failed ∨ (p = currentPicture s c ∧ (s'.contexts c).control.failing ∧
      Running s c ∧ (s.contexts c).control.pictureState = .building) := by
  rcases heffect.frame.failed with hsame | ⟨hnew, hfailing, hrunning, hbuilding⟩
  · exact .inl (hsame ▸ hp)
  · rw [hnew, List.mem_cons] at hp
    rcases hp with rfl | hp
    · exact .inr ⟨rfl, hfailing, hrunning, hbuilding⟩
    · exact .inl hp

theorem failed_subset_call (heffect : CallEffect c s s') {p : Picture} (hp : p ∈ s.failed) :
    p ∈ s'.failed := by
  rcases heffect.frame.failed with hsame | ⟨hnew, _⟩
  · exact hsame ▸ hp
  · exact hnew ▸ List.mem_cons_of_mem _ hp

theorem Basic.known_call (hbasic : Basic s) (heffect : CallEffect c s s') (d : ContextRef)
    (hfailed : currentPicture s' d ∈ s'.failed) :
    (s'.contexts d).control.failing ∨ (s'.contexts d).control.settled := by
  by_cases hd : d = c
  · subst hd
    rcases heffect.picture with hsame | ⟨hnew, _, _, _, hkept, _⟩
    · rw [currentPicture_of_control hsame] at hfailed
      rcases mem_failed_call heffect hfailed with hold | ⟨_, hfailing, _⟩
      · rcases hbasic.known d hold with hfailing | hsettled
        · exact heffect.known (hbasic.ok d) hsame hfailing
        · exact .inr ((heffect.pictureState (hbasic.ok d) hsame).2 hsettled)
      · exact .inl hfailing
    · rw [hkept] at hfailed
      have hbound := (hbasic.failed _ hfailed).2
      change (s'.contexts d).picture ≤ (s.contexts d).picture at hbound
      change (s'.contexts d).picture = (s.contexts d).picture + 1 at hnew
      omega
  · have hcontrol := heffect.frame.control d hd
    have hcurrent : currentPicture s' d = currentPicture s d :=
      currentPicture_of_control (congrArg Control.picture hcontrol)
    rw [hcurrent] at hfailed
    rcases mem_failed_call heffect hfailed with hold | ⟨heq, _⟩
    · rw [hcontrol]
      exact hbasic.known d hold
    · exact absurd (congrArg Picture.context heq) hd

theorem Basic.jobs_call (hbasic : Basic s) (heffect : CallEffect c s s') (d : ContextRef)
    (p : Pending) (hp : p ∈ s'.outstanding d) :
    p.job.picture.context = d ∧ 0 < p.job.picture.serial ∧
      p.job.picture.serial ≤ (s'.contexts d).picture ∧
      (p.job.picture.serial = (s'.contexts d).picture → (s'.contexts d).control.settled) := by
  by_cases hd : d = c
  · subst hd
    -- a job that was outstanding before
    have hold : p ∈ s.outstanding d → p.job.picture.context = d ∧ 0 < p.job.picture.serial ∧
        p.job.picture.serial ≤ (s'.contexts d).picture ∧
        (p.job.picture.serial = (s'.contexts d).picture →
          (s'.contexts d).control.settled) := by
      intro hmem
      obtain ⟨hcontext, hpos, hle, hsettled⟩ := hbasic.jobs d p hmem
      refine ⟨hcontext, hpos, hle.trans (heffect.pictureOf d), ?_⟩
      intro hserial
      rcases heffect.picture with hsame | ⟨hnew, _⟩
      · refine (heffect.pictureState (hbasic.ok d) hsame).2 (hsettled ?_)
        exact hserial.trans hsame
      · change (s'.contexts d).picture = (s.contexts d).picture + 1 at hnew
        omega
    rcases heffect.outstanding.2 with hsame | ⟨job, hstage, hstate, hpicture, _, hperm⟩
    · exact hold (hsame ▸ hp)
    · rcases List.mem_cons.mp (hperm.mem_iff.mp hp) with rfl | hmem
      · have hjob := hbasic.submitting d job hstage
        have hbuilding := pictureState_of_submitting hbasic hstage
        have hpos := hbasic.begun d (by
          change (s.contexts d).control.pictureState ≠ .idle
          simp [hbuilding])
        change (s'.contexts d).picture = (s.contexts d).picture at hpicture
        have hserial : job.picture.serial = (s.contexts d).picture := by
          rw [hjob]
          rfl
        refine ⟨?_, ?_, ?_, fun _ => .inl hstate.1⟩
        · change job.picture.context = d
          rw [hjob]
          rfl
        · change 0 < job.picture.serial
          omega
        · change job.picture.serial ≤ _
          omega
      · exact hold hmem
  · have hcontrol := heffect.frame.control d hd
    rw [heffect.outstanding.1 d hd] at hp
    have hsame : (s'.contexts d).picture = (s.contexts d).picture :=
      congrArg Control.picture hcontrol
    rw [hcontrol, hsame]
    exact hbasic.jobs d p hp

theorem Basic.distinct_call (hbasic : Basic s) (heffect : CallEffect c s s') (d : ContextRef) :
    ((s'.outstanding d).map fun p => p.job.picture).Nodup := by
  by_cases hd : d = c
  · subst hd
    rcases heffect.outstanding.2 with hsame | ⟨job, hstage, _, _, _, hperm⟩
    · rw [hsame]
      exact hbasic.distinct d
    · refine (hperm.map _).nodup_iff.mpr ?_
      rw [List.map_cons]
      refine List.nodup_cons.mpr ⟨?_, hbasic.distinct d⟩
      intro hmem
      obtain ⟨p, hp, hpicture⟩ := List.mem_map.mp hmem
      have hsettled := currentPicture_mem_jobs hbasic hp
        (hpicture.trans (hbasic.submitting d job hstage))
      simp [Control.settled, pictureState_of_submitting hbasic hstage] at hsettled
  · rw [heffect.outstanding.1 d hd]
    exact hbasic.distinct d

theorem Basic.call (hbasic : Basic s) (heffect : CallEffect c s s') : Basic s' where
  ok := by
    intro d
    by_cases hd : d = c
    · subst hd
      exact heffect.okAt (hbasic.ok d)
    · rw [heffect.frame.control d hd]
      exact hbasic.ok d
  lock := by
    intro d hstage
    rw [heffect.frame.lifetimeWriter, heffect.life d]
    have hkept : ∀ id ∈ s.lifetimeReaders, id = .context d → id ∈ s'.lifetimeReaders := by
      intro id hid heq
      rcases heffect.frame.readers id hid with h | ⟨hown, hclosed⟩
      · exact h
      · rw [heq] at hown
        cases hown
        exact absurd hclosed hstage
    by_cases hd : d = c
    · subst hd
      rcases heffect.frame.opened with hopen | hclosed | ⟨hreader, hlive, hwriter⟩
      · obtain ⟨hreader, hrest⟩ := hbasic.lock d hopen
        exact ⟨hkept _ hreader rfl, hrest⟩
      · exact absurd hclosed hstage
      · exact ⟨hreader, hlive, hwriter⟩
    · rw [heffect.frame.control d hd] at hstage
      obtain ⟨hreader, hrest⟩ := hbasic.lock d hstage
      exact ⟨hkept _ hreader rfl, hrest⟩
  absent := by
    intro d habsent
    rw [heffect.life d] at habsent
    obtain ⟨hzero, hnone⟩ := hbasic.absent d habsent
    by_cases hd : d = c
    · subst hd
      have hclosed : ¬((s.contexts d).control.stage ≠ .between ∨
          (s'.contexts d).control.stage ≠ .between) := by
        intro hopen
        have hlive := heffect.live hbasic hopen
        rw [habsent] at hlive
        cases hlive
      refine ⟨?_, ?_⟩
      · rcases heffect.picture with hsame | ⟨_, _, _, hstage, _⟩
        · exact hsame.trans hzero
        · exact absurd (.inr hstage) hclosed
      · rcases heffect.outstanding.2 with hsame | ⟨job, hstage, _⟩
        · rw [hsame]
          exact hnone
        · exact absurd (.inl (by simp [hstage])) hclosed
    · have hsame : (s'.contexts d).picture = (s.contexts d).picture :=
        congrArg Control.picture (heffect.frame.control d hd)
      rw [hsame, heffect.outstanding.1 d hd]
      exact ⟨hzero, hnone⟩
  recorded := by
    intro d
    by_cases hd : d = c
    · subst hd
      exact heffect.frame.recorded (hbasic.recorded d)
    · intro hcleaning
      have hcontrol := heffect.frame.control d hd
      have hcurrent : currentPicture s' d = currentPicture s d :=
        currentPicture_of_control (congrArg Control.picture hcontrol)
      rw [hcontrol] at hcleaning
      rw [hcurrent]
      exact failed_subset_call heffect (hbasic.recorded d hcleaning)
  known := hbasic.known_call heffect
  begun := by
    intro d hstate
    by_cases hd : d = c
    · subst hd
      rcases heffect.picture with hsame | ⟨hnew, _⟩
      · change (s'.contexts d).picture = (s.contexts d).picture at hsame
        rw [hsame]
        refine hbasic.begun d ?_
        intro hidle
        exact hstate ((heffect.pictureState (hbasic.ok d) hsame).1 hidle)
      · change (s'.contexts d).picture = (s.contexts d).picture + 1 at hnew
        omega
    · have hcontrol := heffect.frame.control d hd
      have hsame : (s'.contexts d).picture = (s.contexts d).picture :=
        congrArg Control.picture hcontrol
      rw [hsame]
      refine hbasic.begun d ?_
      intro hidle
      exact hstate ((congrArg Control.pictureState hcontrol).trans hidle)
  failed := by
    intro p hp
    rcases mem_failed_call heffect hp with hold | ⟨rfl, _, _, hbuilding⟩
    · obtain ⟨hpos, hle⟩ := hbasic.failed p hold
      exact ⟨hpos, hle.trans (heffect.pictureOf _)⟩
    · refine ⟨hbasic.begun c ?_, heffect.pictureOf c⟩
      change (s.contexts c).control.pictureState ≠ .idle
      simp [hbuilding]
  started := by
    intro r p hp
    rcases heffect.generation (hbasic.ok c) r with ⟨hsame, _⟩ | ⟨hnew, _, _, _, _, _, hbuilding⟩
    · obtain ⟨hpos, hle⟩ := hbasic.started r p (hsame ▸ hp)
      exact ⟨hpos, hle.trans (heffect.pictureOf _)⟩
    · rw [hnew] at hp
      cases hp
      refine ⟨hbasic.begun c ?_, heffect.pictureOf c⟩
      change (s.contexts c).control.pictureState ≠ .idle
      simp [hbuilding]
  jobs := hbasic.jobs_call heffect
  distinct := hbasic.distinct_call heffect
  submitting := by
    intro d job hstage
    by_cases hd : d = c
    · subst hd
      have hsame : (s'.contexts d).control.picture = (s.contexts d).control.picture := by
        rcases heffect.picture with h | ⟨_, _, _, _, _, _, _, hnot⟩
        · exact h
        · exact absurd hstage (hnot job)
      rw [currentPicture_of_control hsame]
      rcases heffect.submitting (hbasic.ok d) hstage with hbefore | ⟨r, status, _, rfl⟩
      · exact hbasic.submitting d job hbefore
      · rfl
    · have hcontrol := heffect.frame.control d hd
      have hcurrent : currentPicture s' d = currentPicture s d :=
        currentPicture_of_control (congrArg Control.picture hcontrol)
      rw [hcontrol] at hstage
      rw [hcurrent]
      exact hbasic.submitting d job hstage
  filled := by
    intro d job hstage hstarted
    have hok := hbasic.ok c
    by_cases hd : d = c
    · subst hd
      rcases heffect.submitting_flags hok hstage with ⟨hbefore, hflags⟩ | hfilled
      · have hsame : (s'.contexts d).control.picture = (s.contexts d).control.picture := by
          rcases heffect.picture with h | ⟨_, _, _, _, _, _, _, hnot⟩
          · exact h
          · exact absurd hstage (hnot job)
        rw [currentPicture_of_control hsame] at hstarted
        have hgeneration : (s'.surfaces job.surface).submittedGeneration =
            (s.surfaces job.surface).submittedGeneration :=
          congrArg Flags.submittedGeneration (hflags job.surface)
        have hbefore' : (s.surfaces job.surface).startedBy = some (currentPicture s d) :=
          (congrArg Flags.startedBy (hflags job.surface)).symm.trans hstarted
        rw [hgeneration]
        exact hbasic.filled d job hbefore hbefore'
      · exact hfilled
    · have hcontrol := heffect.frame.control d hd
      have hcurrent : currentPicture s' d = currentPicture s d :=
        currentPicture_of_control (congrArg Control.picture hcontrol)
      rw [hcontrol] at hstage
      rw [hcurrent] at hstarted
      rcases heffect.generation hok job.surface with ⟨hsame, hgeneration, _⟩ | ⟨hnew, _⟩
      · rw [hgeneration]
        exact hbasic.filled d job hstage (hsame ▸ hstarted)
      · rw [hnew] at hstarted
        exact absurd (congrArg Picture.context (Option.some.inj hstarted)).symm hd
  destroying := by
    intro d hdestroys
    rw [heffect.life d]
    exact hbasic.destroying d (destroys_of_writer heffect.frame.lifetimeWriter hdestroys)

/-! ## Preservation by the other threads -/

theorem okAt_quiet (κ : Control) (stage : Stage) : κ.quiet.okAt stage = κ.okAt stage := by
  cases stage <;> rfl

theorem cleaning_quiet (κ : Control) : κ.quiet.cleaning = κ.cleaning := rfl

theorem failing_quiet (κ : Control) : κ.quiet.failing = κ.failing := rfl

theorem settled_quiet (κ : Control) : κ.quiet.settled = κ.settled := rfl

theorem cancelledJobs_of_unlocked (hunlocked : s.lifetimeWriter = none) (d : ContextRef) :
    s.cancelledJobs d = [] := by
  simp [State.cancelledJobs, hunlocked]

/-- How the outstanding jobs change: not at all, or one job fails, has its outcome
stored or ends, or a context is created without any.  A job ends only once its
generation is over or superseded, and only the flags of its surface change. -/
inductive OutstandingEffect (s s' : State) : Prop
  | same (jobs : ∀ d, (s'.outstanding d).Perm (s.outstanding d))
      (flags : ∀ r, (s'.surfaces r).flags = (s.surfaces r).flags)
      (failed : s'.failed = s.failed)
  | moved (c : ContextRef) (p q : Pending) (job : q.job = p.job)
      (jobs : JobsChange c [p] [q] s s')
      (others : ∀ r, r ≠ p.job.surface → (s'.surfaces r).flags = (s.surfaces r).flags)
      (change : (q.failed = true ∧ q.marked = false ∧ s'.failed = p.job.picture :: s.failed) ∨
        (q.marked = true ∧ (p.failed = true → q.failed = true) ∧
          (s'.surfaces p.job.surface).decodeFailed = q.failed ∧ s'.failed = s.failed))
  | ended (c : ContextRef) (p : Pending) (jobs : JobsChange c [p] [] s s')
      (done : (s'.surfaces p.job.surface).resolving = false ∨
        (s.surfaces p.job.surface).submittedGeneration ≠ p.job.generation)
      (others : ∀ r, r ≠ p.job.surface → (s'.surfaces r).flags = (s.surfaces r).flags)
      (failed : ∀ q ∈ s'.failed, q = p.job.picture ∨ q ∈ s.failed)
  | created (c : ContextRef) (absent : (s.contexts c).life = .absent)
      (none : s'.outstanding c = [])
      (others : ∀ d, d ≠ c → s'.outstanding d = s.outstanding d)
      (surfaces : s'.surfaces = s.surfaces) (failed : s'.failed = s.failed)

theorem ThreadEffect.outstanding (heffect : ThreadEffect a s s') : OutstandingEffect s s' := by
  have hsame : (∀ d, (s'.contexts d).control.pending = (s.contexts d).control.pending) →
      (∀ d, s'.cancelledJobs d = s.cancelledJobs d) →
      ∀ d, (s'.outstanding d).Perm (s.outstanding d) := by
    intro hpending hcancelled d
    unfold State.outstanding
    rw [hpending d, hcancelled d]
  cases heffect with
  | pass _ flags jobs failed => exact .same jobs flags failed
  | worsen c p _ flags jobs marked failed =>
      exact .moved c p { p with failed := true } rfl jobs (fun r _ => flags r)
        (.inl ⟨rfl, marked, failed⟩)
  | mark c p verdict _ others flags jobs keeps _ failed =>
      exact .moved c p ⟨p.job, verdict, true⟩ rfl jobs others
        (.inr ⟨rfl, keeps, congrArg Flags.decodeFailed flags, failed⟩)
  | drop c p _ flags jobs generation failed =>
      exact .ended c p jobs (.inr generation) (fun r _ => flags r) fun q hq => .inr (failed ▸ hq)
  | finish c p _ others flags jobs _ _ _ failed =>
      exact .ended c p jobs (.inl (congrArg Flags.resolving flags)) others
        fun q hq => .inr (failed ▸ hq)
  | fail c p _ others flags jobs failed =>
      refine .ended c p jobs (.inl (congrArg Flags.resolving flags)) others fun q hq => ?_
      rw [failed] at hq
      exact List.mem_cons.mp hq
  | createSurface _ _ contexts lifetimeWriter flags _ _ _ _ failed =>
      exact .same (hsame (fun d => by rw [contexts]) (cancelledJobs_of_writer lifetimeWriter))
        flags failed
  | createContext c entrypoint worker _ absent others control idle surfaces unlocked
      lifetimeWriter _ _ failed =>
      refine .created c absent ?_ ?_ surfaces failed
      · have hcancelled := cancelledJobs_of_unlocked (lifetimeWriter.trans unlocked) c
        simp [State.outstanding, hcancelled, control, Control.pending, idle]
      · intro d hd
        exact outstanding_eq (by rw [others d hd]) (cancelledJobs_of_writer lifetimeWriter d)
  | remove _ _ unlocked _ contexts flags _ lifetimeWriter _ _ failed =>
      refine .same (hsame (fun d => by rw [contexts]) fun d => ?_) flags failed
      simp [State.cancelledJobs, unlocked, lifetimeWriter]
  | free _ _ lifetimeWriter lifetimeWriter' contexts flags _ _ _ failed =>
      refine .same (hsame (fun d => by rw [contexts]) fun d => ?_) flags failed
      simp [State.cancelledJobs, lifetimeWriter, lifetimeWriter']
  | destroy _ _ _ _ unlocked _ control surfaces lifetimeWriter hstage _ _ failed =>
      refine .same (hsame (fun d => by rw [control d]) fun d => ?_) (fun r => by rw [surfaces])
        failed
      rcases hstage with rfl | rfl <;> simp [State.cancelledJobs, unlocked, lifetimeWriter]
  | delete c lifetimeWriter lifetimeWriter' others control surfaces _ _ failed =>
      refine .same (hsame (fun d => ?_) fun d => ?_) (fun r => by rw [surfaces]) failed
      · by_cases hd : d = c
        · subst hd
          rw [control]
          rfl
        · rw [others d hd]
      · simp [State.cancelledJobs, lifetimeWriter, lifetimeWriter']

/-- Another thread adds no job. -/
theorem OutstandingEffect.job (heffect : OutstandingEffect s s') {d : ContextRef} {p : Pending}
    (hp : p ∈ s'.outstanding d) : ∃ q ∈ s.outstanding d, q.job = p.job := by
  cases heffect with
  | same jobs => exact ⟨p, (jobs d).mem_iff.mp hp, rfl⟩
  | moved c before after hjob jobs =>
      by_cases hd : d = c
      · subst hd
        obtain ⟨rest, hbefore, hnow⟩ := jobs.own
        rcases List.mem_cons.mp (hnow.mem_iff.mp hp) with rfl | hrest
        · exact ⟨before, hbefore.mem_iff.mpr List.mem_cons_self, hjob.symm⟩
        · exact ⟨p, hbefore.mem_iff.mpr (List.mem_cons_of_mem _ hrest), rfl⟩
      · exact ⟨p, (jobs.others d hd) ▸ hp, rfl⟩
  | ended c before jobs =>
      by_cases hd : d = c
      · subst hd
        obtain ⟨rest, hbefore, hnow⟩ := jobs.own
        exact ⟨p, hbefore.mem_iff.mpr (List.mem_cons_of_mem _ (hnow.mem_iff.mp hp)), rfl⟩
      · exact ⟨p, (jobs.others d hd) ▸ hp, rfl⟩
  | created c _ none others =>
      by_cases hd : d = c
      · subst hd
        simp [none] at hp
      · exact ⟨p, (others d hd) ▸ hp, rfl⟩

theorem OutstandingEffect.distinct (heffect : OutstandingEffect s s') {d : ContextRef}
    (hdistinct : ((s.outstanding d).map fun p => p.job.picture).Nodup) :
    ((s'.outstanding d).map fun p => p.job.picture).Nodup := by
  cases heffect with
  | same jobs => exact ((jobs d).map _).nodup_iff.mpr hdistinct
  | moved c before after hjob jobs =>
      by_cases hd : d = c
      · subst hd
        obtain ⟨rest, hbefore, hnow⟩ := jobs.own
        refine (hnow.map _).nodup_iff.mpr ?_
        simpa [hjob] using (hbefore.map _).nodup_iff.mp hdistinct
      · rw [jobs.others d hd]
        exact hdistinct
  | ended c before jobs =>
      by_cases hd : d = c
      · subst hd
        obtain ⟨rest, hbefore, hnow⟩ := jobs.own
        have hall := (hbefore.map fun p => p.job.picture).nodup_iff.mp hdistinct
        exact (hnow.map _).nodup_iff.mpr (List.nodup_cons.mp hall).2
      · rw [jobs.others d hd]
        exact hdistinct
  | created c _ none others =>
      by_cases hd : d = c
      · subst hd
        simp [none]
      · rw [others d hd]
        exact hdistinct

/-- What another thread's section leaves of a context. -/
structure ThreadKept (s s' : State) (d : ContextRef) : Prop where
  quiet : (s'.contexts d).control.quiet = (s.contexts d).control.quiet
  life : (s'.contexts d).life = (s.contexts d).life ∨
    (s.destroys d ∧ (s'.contexts d).life = .freed)

theorem ThreadKept.of_control {d : ContextRef}
    (hcontrol : (s'.contexts d).control = (s.contexts d).control) : ThreadKept s s' d :=
  ⟨by rw [hcontrol], .inl (congrArg Control.life hcontrol)⟩

theorem ThreadFrame.kept (hframe : ThreadFrame s s') (d : ContextRef) : ThreadKept s s' d :=
  ⟨hframe.quiet d, .inl (hframe.contextLife d)⟩

theorem ThreadEffect.kept (heffect : ThreadEffect a s s') (d : ContextRef) :
    ThreadKept s s' d ∨ ((s.contexts d).life = .absent ∧ (s'.contexts d).life = .live ∧
      a.creates = some d ∧ ∃ entrypoint worker, (s'.contexts d).control =
        { life := .live, entrypoint := entrypoint, worker := worker }) := by
  cases heffect with
  | pass frame => exact .inl (frame.kept d)
  | worsen _ _ frame => exact .inl (frame.kept d)
  | mark _ _ _ frame => exact .inl (frame.kept d)
  | drop _ _ frame => exact .inl (frame.kept d)
  | finish _ _ frame => exact .inl (frame.kept d)
  | fail _ _ frame => exact .inl (frame.kept d)
  | createSurface _ _ contexts => exact .inl (.of_control (by rw [contexts]))
  | createContext c entrypoint worker on absent others control =>
      by_cases hd : d = c
      · subst hd
        exact .inr ⟨absent, congrArg Control.life control, on, entrypoint, worker, control⟩
      · exact .inl (.of_control (by rw [others d hd]))
  | remove _ _ _ _ contexts => exact .inl (.of_control (by rw [contexts]))
  | free _ _ _ _ contexts => exact .inl (.of_control (by rw [contexts]))
  | destroy _ _ _ _ _ _ control => exact .inl (.of_control (control d))
  | delete c lifetimeWriter _ others control =>
      by_cases hd : d = c
      · subst hd
        exact .inl ⟨by rw [control]; rfl, .inr ⟨⟨_, lifetimeWriter⟩, congrArg Control.life control⟩⟩
      · exact .inl (.of_control (by rw [others d hd]))

/-- Another thread starts no generation. -/
theorem ThreadEffect.generation (heffect : ThreadEffect a s s') (r : SurfaceRef) :
    (s'.surfaces r).startedBy = (s.surfaces r).startedBy ∧
      (s'.surfaces r).submittedGeneration = (s.surfaces r).submittedGeneration ∧
      ((s'.surfaces r).resolving = true → (s.surfaces r).resolving = true) := by
  have hsame : ∀ q, (s'.surfaces q).flags = (s.surfaces q).flags →
      (s'.surfaces q).startedBy = (s.surfaces q).startedBy ∧
        (s'.surfaces q).submittedGeneration = (s.surfaces q).submittedGeneration ∧
        ((s'.surfaces q).resolving = true → (s.surfaces q).resolving = true) := by
    intro q h
    have hresolving : (s'.surfaces q).resolving = (s.surfaces q).resolving :=
      congrArg Flags.resolving h
    exact ⟨congrArg Flags.startedBy h, congrArg Flags.submittedGeneration h,
      fun hq => hresolving ▸ hq⟩
  have hdone : ∀ {q : SurfaceRef}, (s'.surfaces q).resolving = false →
      (s'.surfaces q).resolving = true → (s.surfaces q).resolving = true := by
    intro q hfalse htrue
    simp [hfalse] at htrue
  cases heffect with
  | pass _ flags => exact hsame r (flags r)
  | worsen _ _ _ flags => exact hsame r (flags r)
  | drop _ _ _ flags => exact hsame r (flags r)
  | createSurface _ _ _ _ flags => exact hsame r (flags r)
  | createContext _ _ _ _ _ _ _ _ surfaces => exact hsame r (by rw [surfaces])
  | remove _ _ _ _ _ flags => exact hsame r (flags r)
  | free _ _ _ _ _ flags => exact hsame r (flags r)
  | destroy _ _ _ _ _ _ _ surfaces => exact hsame r (by rw [surfaces])
  | delete _ _ _ _ _ surfaces => exact hsame r (by rw [surfaces])
  | mark _ p _ _ others flags =>
      by_cases hr : r = p.job.surface
      · subst hr
        have hresolving : (s'.surfaces p.job.surface).resolving =
            (s.surfaces p.job.surface).resolving := congrArg Flags.resolving flags
        exact ⟨congrArg Flags.startedBy flags, congrArg Flags.submittedGeneration flags,
          fun h => hresolving ▸ h⟩
      · exact hsame r (others r hr)
  | finish _ p _ others flags =>
      by_cases hr : r = p.job.surface
      · subst hr
        exact ⟨congrArg Flags.startedBy flags, congrArg Flags.submittedGeneration flags,
          hdone (congrArg Flags.resolving flags)⟩
      · exact hsame r (others r hr)
  | fail _ p _ others flags =>
      by_cases hr : r = p.job.surface
      · subst hr
        exact ⟨congrArg Flags.startedBy flags, congrArg Flags.submittedGeneration flags,
          hdone (congrArg Flags.resolving flags)⟩
      · exact hsame r (others r hr)

/-- A picture that another thread finds to have failed has an outstanding job. -/
theorem ThreadEffect.failed (heffect : ThreadEffect a s s') :
    s'.failed = s.failed ∨ ∃ c, ∃ p ∈ s.outstanding c, s'.failed = p.job.picture :: s.failed := by
  have hmem : ∀ {c : ContextRef} {p : Pending} {after : List Pending},
      JobsChange c [p] after s s' → p ∈ s.outstanding c := by
    intro c p after hjobs
    obtain ⟨rest, hbefore, _⟩ := hjobs.own
    exact hbefore.mem_iff.mpr List.mem_cons_self
  cases heffect with
  | pass _ _ _ failed => exact .inl failed
  | worsen c p _ _ jobs _ failed => exact .inr ⟨c, p, hmem jobs, failed⟩
  | mark _ _ _ _ _ _ _ _ _ failed => exact .inl failed
  | drop _ _ _ _ _ _ failed => exact .inl failed
  | finish _ _ _ _ _ _ _ _ _ failed => exact .inl failed
  | fail c p _ _ _ jobs failed => exact .inr ⟨c, p, hmem jobs, failed⟩
  | createSurface _ _ _ _ _ _ _ _ _ failed => exact .inl failed
  | createContext _ _ _ _ _ _ _ _ _ _ _ _ _ failed => exact .inl failed
  | remove _ _ _ _ _ _ _ _ _ _ failed => exact .inl failed
  | free _ _ _ _ _ _ _ _ _ failed => exact .inl failed
  | destroy _ _ _ _ _ _ _ _ _ _ _ _ failed => exact .inl failed
  | delete _ _ _ _ _ _ _ _ failed => exact .inl failed

theorem Basic.unread (hbasic : Basic s) (hunread : s.lifetimeReaders = []) (d : ContextRef) :
    (s.contexts d).control.stage = .between := by
  by_contra hopen
  have hreader := (hbasic.lock d hopen).1
  simp [hunread] at hreader

theorem Basic.locked (hbasic : Basic s) (hlocked : s.lifetimeWriter ≠ none) (d : ContextRef) :
    (s.contexts d).control.stage = .between := by
  by_contra hopen
  exact hlocked (hbasic.lock d hopen).2.2

/-- Another thread takes the object-lifetime lock only while no call holds it,
and leaves the calls among its readers. -/
theorem ThreadEffect.lock (heffect : ThreadEffect a s s') (hbasic : Basic s) :
    (∀ id ∈ s.lifetimeReaders, id ∈ s'.lifetimeReaders) ∧
      ((∀ d, (s.contexts d).control.stage = .between) ∨
        (s.lifetimeWriter = none → s'.lifetimeWriter = none)) := by
  have hframe : ThreadFrame s s' → (∀ id ∈ s.lifetimeReaders, id ∈ s'.lifetimeReaders) ∧
      ((∀ d, (s.contexts d).control.stage = .between) ∨
        (s.lifetimeWriter = none → s'.lifetimeWriter = none)) := by
    intro frame
    refine ⟨frame.readers, .inr ?_⟩
    intro hnone
    by_contra hsome
    exact frame.locked hsome hnone
  cases heffect with
  | pass frame => exact hframe frame
  | worsen _ _ frame => exact hframe frame
  | mark _ _ _ frame => exact hframe frame
  | drop _ _ frame => exact hframe frame
  | finish _ _ frame => exact hframe frame
  | fail _ _ frame => exact hframe frame
  | createSurface _ _ _ lifetimeWriter _ _ _ lifetimeReaders =>
      exact ⟨fun _ h => lifetimeReaders ▸ h, .inr fun h => lifetimeWriter.trans h⟩
  | createContext _ _ _ _ _ _ _ _ _ _ lifetimeWriter lifetimeReaders =>
      exact ⟨fun _ h => lifetimeReaders ▸ h, .inr fun h => lifetimeWriter.trans h⟩
  | remove _ _ _ unread _ _ _ _ lifetimeReaders =>
      exact ⟨fun _ h => lifetimeReaders ▸ h, .inl (hbasic.unread unread)⟩
  | free _ _ lifetimeWriter _ _ _ _ lifetimeReaders =>
      exact ⟨fun _ h => lifetimeReaders ▸ h, .inl (hbasic.locked (by simp [lifetimeWriter]))⟩
  | destroy _ _ _ _ _ unread _ _ _ _ lifetimeReaders =>
      exact ⟨fun _ h => lifetimeReaders ▸ h, .inl (hbasic.unread unread)⟩
  | delete _ lifetimeWriter _ _ _ _ lifetimeReaders =>
      exact ⟨fun _ h => lifetimeReaders ▸ h, .inl (hbasic.locked (by simp [lifetimeWriter]))⟩

/-- A context whose destruction is under way was being destroyed before, or has
just been named by `nvDestroyContext`. -/
theorem ThreadEffect.destroys (heffect : ThreadEffect a s s') {d : ContextRef}
    (hdestroys : s'.destroys d) :
    (s'.contexts d).life = (s.contexts d).life ∧
      (s.destroys d ∨ (a = .destroyContext d ∧ (s.contexts d).life = .live)) := by
  have hnone : ∀ {call : Option DestroyCall}, s'.lifetimeWriter = call →
      (∀ stage, call ≠ some (.context d stage)) → False := by
    intro call hcall hnot
    obtain ⟨stage, hstage⟩ := hdestroys
    exact hnot stage (hcall ▸ hstage)
  cases heffect with
  | pass frame => exact ⟨frame.contextLife d, .inl (frame.destroys d hdestroys)⟩
  | worsen _ _ frame => exact ⟨frame.contextLife d, .inl (frame.destroys d hdestroys)⟩
  | mark _ _ _ frame => exact ⟨frame.contextLife d, .inl (frame.destroys d hdestroys)⟩
  | drop _ _ frame => exact ⟨frame.contextLife d, .inl (frame.destroys d hdestroys)⟩
  | finish _ _ frame => exact ⟨frame.contextLife d, .inl (frame.destroys d hdestroys)⟩
  | fail _ _ frame => exact ⟨frame.contextLife d, .inl (frame.destroys d hdestroys)⟩
  | createSurface _ _ contexts lifetimeWriter =>
      exact ⟨by rw [contexts], .inl (destroys_of_writer lifetimeWriter hdestroys)⟩
  | createContext _ _ _ _ _ _ _ _ _ unlocked lifetimeWriter =>
      exact (hnone (lifetimeWriter.trans unlocked) nofun).elim
  | remove _ _ _ _ _ _ _ lifetimeWriter => exact (hnone lifetimeWriter nofun).elim
  | free _ _ _ lifetimeWriter' => exact (hnone lifetimeWriter' nofun).elim
  | destroy e on _ live _ _ control _ lifetimeWriter =>
      obtain ⟨stage', hstage'⟩ := hdestroys
      rw [lifetimeWriter] at hstage'
      cases hstage'
      exact ⟨congrArg Control.life (control _), .inr ⟨on, live⟩⟩
  | delete _ _ lifetimeWriter' => exact (hnone lifetimeWriter' nofun).elim

theorem quiet_picture {d : ContextRef}
    (hquiet : (s'.contexts d).control.quiet = (s.contexts d).control.quiet) :
    (s'.contexts d).control.picture = (s.contexts d).control.picture := by
  have hpicture := congrArg Control.picture hquiet
  exact hpicture

theorem ThreadEffect.picture (heffect : ThreadEffect a s s') (hbasic : Basic s) (d : ContextRef) :
    (s.contexts d).picture ≤ (s'.contexts d).picture := by
  rcases heffect.kept d with hkept | ⟨habsent, _⟩
  · exact le_of_eq (quiet_picture hkept.quiet).symm
  · rw [(hbasic.absent d habsent).1]
    exact Nat.zero_le _

theorem Basic.thread (hbasic : Basic s) (heffect : ThreadEffect a s s') : Basic s' := by
  have hfailed : ∀ p ∈ s.failed, p ∈ s'.failed := by
    intro p hp
    rcases heffect.failed with hsame | ⟨_, _, _, hnew⟩
    · exact hsame ▸ hp
    · exact hnew ▸ List.mem_cons_of_mem _ hp
  constructor
  case ok =>
    intro d
    rcases heffect.kept d with hkept | ⟨_, _, _, _, _, hcontrol⟩
    · have hok := hbasic.ok d
      have hstage := congrArg Control.stage hkept.quiet
      change (s'.contexts d).control.stage = (s.contexts d).control.stage at hstage
      rw [← okAt_quiet, hkept.quiet, okAt_quiet, hstage]
      exact hok
    · rw [hcontrol]
      exact .inl ⟨rfl, rfl, rfl⟩
  case lock =>
    intro d hopen
    rcases heffect.kept d with hkept | ⟨_, _, _, _, _, hcontrol⟩
    · have hstage := congrArg Control.stage hkept.quiet
      change (s'.contexts d).control.stage = (s.contexts d).control.stage at hstage
      rw [hstage] at hopen
      obtain ⟨hreader, hlive, hwriter⟩ := hbasic.lock d hopen
      obtain ⟨hreaders, hclosed | hunlocked⟩ := heffect.lock hbasic
      · exact absurd (hclosed d) hopen
      · refine ⟨hreaders _ hreader, ?_, hunlocked hwriter⟩
        rcases hkept.life with hsame | ⟨⟨stage, hdestroying⟩, _⟩
        · exact hsame.trans hlive
        · simp [hwriter] at hdestroying
    · rw [hcontrol] at hopen
      exact absurd rfl hopen
  case absent =>
    intro d habsent
    rcases heffect.kept d with hkept | ⟨_, hlive, _⟩
    · have hbefore : (s.contexts d).life = .absent := by
        rcases hkept.life with hsame | ⟨_, hfreed⟩
        · exact hsame.symm.trans habsent
        · simp [hfreed] at habsent
      obtain ⟨hzero, hnone⟩ := hbasic.absent d hbefore
      have hpicture := quiet_picture hkept.quiet
      refine ⟨hpicture.trans hzero, ?_⟩
      rw [List.eq_nil_iff_forall_not_mem]
      intro p hp
      obtain ⟨q, hq, _⟩ := heffect.outstanding.job hp
      simp [hnone] at hq
    · simp [hlive] at habsent
  case recorded =>
    intro d hcleaning
    rcases heffect.kept d with hkept | ⟨_, _, _, _, _, hcontrol⟩
    · rw [← cleaning_quiet, hkept.quiet, cleaning_quiet] at hcleaning
      have hcurrent : currentPicture s' d = currentPicture s d :=
        currentPicture_of_control (quiet_picture hkept.quiet)
      rw [hcurrent]
      exact hfailed _ (hbasic.recorded d hcleaning)
    · rw [hcontrol] at hcleaning
      rcases hcleaning with h | ⟨_, _, _, h⟩ <;> cases h
  case known =>
    intro d hmem
    rcases heffect.kept d with hkept | ⟨_, _, _, _, _, hcontrol⟩
    · have hcurrent : currentPicture s' d = currentPicture s d :=
        currentPicture_of_control (quiet_picture hkept.quiet)
      rw [hcurrent] at hmem
      rw [← failing_quiet, ← settled_quiet, hkept.quiet, failing_quiet, settled_quiet]
      rcases heffect.failed with hsame | ⟨c, p, hp, hnew⟩
      · exact hbasic.known d (hsame ▸ hmem)
      · rw [hnew, List.mem_cons] at hmem
        rcases hmem with heq | hold
        · have hcontext := (hbasic.jobs c p hp).1
          rw [← heq] at hcontext
          change d = c at hcontext
          subst hcontext
          exact .inr (currentPicture_mem_jobs hbasic hp heq.symm)
        · exact hbasic.known d hold
    · rw [hcontrol]
      exact .inr (.inr rfl)
  case begun =>
    intro d hstate
    rcases heffect.kept d with hkept | ⟨_, _, _, _, _, hcontrol⟩
    · have hpicture := quiet_picture hkept.quiet
      have hsame := congrArg Control.pictureState hkept.quiet
      change (s'.contexts d).picture = (s.contexts d).picture at hpicture
      change (s'.contexts d).pictureState = (s.contexts d).pictureState at hsame
      rw [hpicture]
      exact hbasic.begun d (hsame ▸ hstate)
    · exact absurd (congrArg Control.pictureState hcontrol) hstate
  case failed =>
    intro p hp
    have hold : p ∈ s.failed → 0 < p.serial ∧ p.serial ≤ (s'.contexts p.context).picture := by
      intro hmem
      obtain ⟨hpos, hle⟩ := hbasic.failed p hmem
      exact ⟨hpos, hle.trans (heffect.picture hbasic _)⟩
    rcases heffect.failed with hsame | ⟨c, q, hq, hnew⟩
    · exact hold (hsame ▸ hp)
    · rw [hnew, List.mem_cons] at hp
      rcases hp with rfl | hmem
      · obtain ⟨hcontext, hpos, hle, _⟩ := hbasic.jobs c q hq
        rw [hcontext]
        exact ⟨hpos, hle.trans (heffect.picture hbasic _)⟩
      · exact hold hmem
  case started =>
    intro r p hp
    rw [(heffect.generation r).1] at hp
    obtain ⟨hpos, hle⟩ := hbasic.started r p hp
    exact ⟨hpos, hle.trans (heffect.picture hbasic _)⟩
  case jobs =>
    intro d p hp
    obtain ⟨q, hq, hsame⟩ := heffect.outstanding.job hp
    rcases heffect.kept d with hkept | ⟨habsent, _⟩
    · have hpicture := quiet_picture hkept.quiet
      change (s'.contexts d).picture = (s.contexts d).picture at hpicture
      rw [← settled_quiet, hkept.quiet, settled_quiet, hpicture, ← hsame]
      exact hbasic.jobs d q hq
    · simp [(hbasic.absent d habsent).2] at hq
  case distinct =>
    exact fun d => heffect.outstanding.distinct (hbasic.distinct d)
  case submitting =>
    intro d job hstage
    rcases heffect.kept d with hkept | ⟨_, _, _, _, _, hcontrol⟩
    · have hsame := congrArg Control.stage hkept.quiet
      change (s'.contexts d).control.stage = (s.contexts d).control.stage at hsame
      have hcurrent : currentPicture s' d = currentPicture s d :=
        currentPicture_of_control (quiet_picture hkept.quiet)
      rw [hcurrent]
      exact hbasic.submitting d job (hsame ▸ hstage)
    · rw [hcontrol] at hstage
      cases hstage
  case filled =>
    intro d job hstage hstarted
    obtain ⟨hsame, hgeneration, _⟩ := heffect.generation job.surface
    rcases heffect.kept d with hkept | ⟨_, _, _, _, _, hcontrol⟩
    · have hstage' := congrArg Control.stage hkept.quiet
      change (s'.contexts d).control.stage = (s.contexts d).control.stage at hstage'
      rw [currentPicture_of_control (quiet_picture hkept.quiet), hsame] at hstarted
      rw [hgeneration]
      exact hbasic.filled d job (hstage'.symm.trans hstage) hstarted
    · rw [hcontrol] at hstage
      cases hstage
  case destroying =>
    intro d hdestroys
    obtain ⟨hlife, hrunning | ⟨_, hlive⟩⟩ := heffect.destroys hdestroys
    · exact hlife.trans (hbasic.destroying d hrunning)
    · exact hlife.trans hlive

/-! ## Every reachable state -/

theorem SyncEffect.outstanding {thread : Nat} (heffect : SyncEffect thread s s')
    (d : ContextRef) : s'.outstanding d = s.outstanding d :=
  outstanding_eq (by rw [heffect.contexts]) (cancelledJobs_of_writer heffect.lifetimeWriter d)

theorem Basic.sync {thread : Nat} (hbasic : Basic s) (heffect : SyncEffect thread s s') :
    Basic s' := by
  have hcurrent : ∀ d, currentPicture s' d = currentPicture s d := fun d =>
    currentPicture_of_control (by rw [heffect.contexts])
  constructor
  case lock =>
    intro d hopen
    rw [heffect.contexts] at hopen
    obtain ⟨hreader, hlive, hwriter⟩ := hbasic.lock d hopen
    rw [heffect.contexts, heffect.lifetimeWriter]
    exact ⟨heffect.readers d hreader, hlive, hwriter⟩
  case recorded =>
    intro d hcleaning
    rw [hcurrent d, heffect.failed]
    rw [heffect.contexts] at hcleaning
    exact hbasic.recorded d hcleaning
  all_goals
    intro d
    simp only [heffect.contexts, heffect.surfaces, heffect.failed, heffect.outstanding, hcurrent]
  · exact hbasic.ok d
  · exact hbasic.absent d
  · exact hbasic.known d
  · exact hbasic.begun d
  · exact hbasic.failed d
  · exact hbasic.started d
  · exact hbasic.jobs d
  · exact hbasic.distinct d
  · exact hbasic.submitting d
  · exact hbasic.filled d
  · exact fun h => hbasic.destroying d (destroys_of_writer heffect.lifetimeWriter h)

theorem Basic.step (hbasic : Basic s) (hstep : Driver.step s a = some s') :
    Basic s' := by
  cases step_effect hbasic.ok hstep with
  | call c _ effect => exact hbasic.call effect
  | thread _ effect => exact hbasic.thread effect
  | sync _ thread effect => exact hbasic.sync effect

theorem basic_init (config : DriverConfig) (images : ImageRef → BackingImage) :
    Basic (driver config images).init := by
  have houtstanding : ∀ c, (driver config images).init.outstanding c = [] := fun _ => rfl
  constructor
  case ok => exact fun _ => .inl ⟨rfl, rfl, rfl⟩
  case lock => exact fun _ h => absurd rfl h
  case absent => exact fun _ _ => ⟨rfl, rfl⟩
  case recorded =>
    rintro c (h | ⟨_, _, _, h⟩) <;> cases h
  case known => exact fun _ _ => .inr (.inr rfl)
  case begun => exact fun _ h => absurd rfl h
  case failed => exact fun _ h => absurd h List.not_mem_nil
  case started => exact fun _ _ h => by cases h
  case jobs =>
    intro c p hp
    simp [houtstanding] at hp
  case distinct =>
    intro c
    simp [houtstanding]
  case submitting => exact fun _ _ h => by cases h
  case filled => exact fun _ _ h => by cases h
  case destroying =>
    rintro c ⟨stage, h⟩
    cases h

end Preservation

end Driver
end NvidiaVaapi
