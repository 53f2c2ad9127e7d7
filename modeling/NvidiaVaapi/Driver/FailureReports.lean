import NvidiaVaapi.Driver.Exclusive

/-!
# Failed pictures are not reported as decoded

Ending a generation publishes success unless the failure has been stored in the
surface before.  `FailsPending` names the sections that get this order wrong: a
clean-up that ends a generation of a failed picture as decoded, a failure after
one of the picture's generations has ended, and a new generation started between
the wait of a synchronising call and its reading of the status.  In every run
without them a picture that has failed is reported by its surfaces as failed
from the moment they stop being pending.
-/

namespace NvidiaVaapi
namespace Driver

/-- The surface whose generation the next section of the call ends as decoded. -/
def State.finishes (s : State) (c : ContextRef) : Option SurfaceRef :=
  match (s.contexts c).phase with
  | .clearing (.finish r :: _) _ => some r
  | .handOverFinish _ => (s.contexts c).renderTarget
  | _ => none

/-- The surface on which the next section of the call starts a generation. -/
def State.starts (s : State) (c : ContextRef) : Option SurfaceRef :=
  match (s.contexts c).phase with
  | .beginStart r => some r
  | .handOverStart _ => (s.contexts c).outputTarget
  | _ => none

/-- A synchronising call has found the surface resolved and not read its status yet. -/
def State.reading (s : State) (r : SurfaceRef) : Prop :=
  ∃ t seen, s.syncs t = .waitImage r seen ∨ s.syncs t = .read r seen

/-- Exclusive use, and none of the sections that report a failed picture as decoded. -/
structure FailsPending (s : State) (a : Label) : Prop where
  exclusive : ExclusiveUse s a
  /-- No pending generation of a failed picture is ended as decoded. -/
  unfinished : ∀ c r, a.callOn = some c → s.finishes c = some r →
    (s.surfaces r).resolving = true → currentPicture s c ∉ s.failed
  /-- No picture fails after one of its generations has ended. -/
  pending : ∀ s' p, step s a = some s' → p ∈ s'.failed → p ∉ s.failed →
    (∀ r, (s.surfaces r).startedBy = some p → (s.surfaces r).resolving = true) ∧
      ∀ c, ∀ q ∈ s.outstanding c, q.job.picture = p → q.job.handedOver = false
  unread : ∀ c r, a.callOn = some c → s.starts c = some r → ¬s.reading r

/-- The surface shows the generation of the picture as complete and successful. -/
def ReportsDecoded (s : State) (r : SurfaceRef) (p : Picture) : Prop :=
  (s.surfaces r).startedBy = some p ∧ (s.surfaces r).resolving = false ∧
    (s.surfaces r).completionStatus = .success

/-- A picture that has not failed and is out of danger: its remaining jobs are those
of a film-grain hand-over, and if its calls still run, then on a surface whose
generation is over. -/
structure State.Safe (s : State) (p : Picture) : Prop where
  unfailed : p ∉ s.failed
  begun : 0 < p.serial ∧ p.serial ≤ (s.contexts p.context).picture
  jobs : ∀ q ∈ s.outstanding p.context, q.job.picture = p → q.job.handedOver = true
  current : p = currentPicture s p.context →
    (s.contexts p.context).control.settled ∨ (s.contexts p.context).life ≠ .live ∨
      ∃ r, (s.contexts p.context).renderTarget = some r ∧ (s.surfaces r).resolving = false

/-- A failed picture shows in the surface. -/
def NVSurface.showsFailure (surface : NVSurface) : Prop :=
  surface.decodeFailed = true ∧ surface.completionStatus ≠ .success

/-- The invariant of runs without the sections named above. -/
structure Reported (s : State) : Prop where
  exclusive : Exclusive s
  rendered : ∀ c r, (s.contexts c).life = .live → (s.contexts c).renderTarget = some r →
    (s.surfaces r).startedBy = some (currentPicture s c)
  jobs : ∀ c, ∀ q ∈ s.outstanding c, q.job.picture ∈ s.failed → q.failed = true
  marked : ∀ c, ∀ q ∈ s.outstanding c, q.marked = true →
    (s.surfaces q.job.surface).decodeFailed = q.failed
  complete : ∀ r p, (s.surfaces r).startedBy = some p → (s.surfaces r).resolving = false →
    s.Safe p ∨ (p ∈ s.failed ∧ (s.surfaces r).showsFailure)
  reading : ∀ t r seen, s.syncs t = .waitImage r seen ∨ s.syncs t = .read r seen →
    (s.surfaces r).startedBy = seen ∧ (s.surfaces r).resolving = false
  returned : ∀ t r p, s.syncs t = .returned r (some p) .success → s.Safe p

/-! ## The calls -/

section Calls

variable {s s' : State} {c : ContextRef}

namespace CallEffect

/-- A section of a call starts a generation only where `State.starts` says so. -/
theorem started (heffect : CallEffect c s s') (r : SurfaceRef) :
    s.starts c = some r ∨
      ((s'.surfaces r).startedBy = (s.surfaces r).startedBy ∧
        ((s'.surfaces r).resolving = true → (s.surfaces r).resolving = true)) := by
  have hsame : ∀ {q : SurfaceRef}, (s'.surfaces q).flags = (s.surfaces q).flags →
      (s'.surfaces q).startedBy = (s.surfaces q).startedBy ∧
        ((s'.surfaces q).resolving = true → (s.surfaces q).resolving = true) := by
    intro q h
    have hresolving : (s'.surfaces q).resolving = (s.surfaces q).resolving :=
      congrArg Flags.resolving h
    exact ⟨congrArg Flags.startedBy h, fun hq => hresolving ▸ hq⟩
  cases heffect with
  | advance _ flags => exact .inr (hsame (flags r))
  | begin _ flags => exact .inr (hsame (flags r))
  | acquire _ _ flags => exact .inr (hsame (flags r))
  | take _ _ flags => exact .inr (hsame (flags r))
  | push _ _ flags => exact .inr (hsame (flags r))
  | start q _ others _ _ _ phase =>
      by_cases hr : r = q
      · subst hr
        exact .inl (by simp [State.starts, phase])
      · exact .inr (hsame (others r hr))
  | redirect q _ others _ status _ output _ phase =>
      by_cases hr : r = q
      · subst hr
        refine .inl ?_
        simp only [State.starts, phase]
        exact output
      · exact .inr (hsame (others r hr))
  | clear section_ _ _ _ flags =>
      by_cases hclears : section_.clears = some r
      · have hdone : (s'.surfaces r).resolving = false :=
          (congrArg Flags.resolving (flags r)).trans (section_.run_resolving s hclears)
        refine .inr ⟨?_, fun h => by simp [hdone] at h⟩
        exact (congrArg Flags.startedBy (flags r)).trans (section_.run_startedBy s r).1
      · exact .inr (hsame ((flags r).trans
          (congrArg NVSurface.flags (section_.run_surfaces_ne s hclears))))
  | handOver q _ others flags =>
      by_cases hr : r = q
      · subst hr
        have hdone : (s'.surfaces r).resolving = false := congrArg Flags.resolving flags
        exact .inr ⟨congrArg Flags.startedBy flags, fun h => by simp [hdone] at h⟩
      · exact .inr (hsame (others r hr))
  | publish q _ _ others flags =>
      by_cases hr : r = q
      · subst hr
        have hkept : (s'.surfaces r).resolving = (s.surfaces r).resolving :=
          congrArg Flags.resolving flags
        exact .inr ⟨congrArg Flags.startedBy flags, fun h => hkept ▸ h⟩
      · exact .inr (hsame (others r hr))
  | make q _ _ others flags =>
      by_cases hr : r = q
      · subst hr
        have hkept : (s'.surfaces r).resolving = (s.surfaces r).resolving :=
          congrArg Flags.resolving flags
        exact .inr ⟨congrArg Flags.startedBy flags, fun h => hkept ▸ h⟩
      · exact .inr (hsame (others r hr))

/-- A render target has been one before, or its generation has just been started. -/
theorem render (heffect : CallEffect c s s') {r : SurfaceRef}
    (hrender : (s'.contexts c).renderTarget = some r) :
    (s.contexts c).renderTarget = some r ∨
      ((s'.surfaces r).startedBy = some (currentPicture s c) ∧
        currentPicture s' c = currentPicture s c) := by
  have hsame : ∀ {κ : Control}, (s'.contexts c).control = κ →
      κ.renderTarget = (s.contexts c).renderTarget → (s.contexts c).renderTarget = some r := by
    intro κ hcontrol hkept
    exact hkept.symm.trans ((congrArg Control.renderTarget hcontrol).symm.trans hrender)
  have hmoves : ∀ {κ : Control}, Advance κ (s'.contexts c).control →
      κ.renderTarget = (s.contexts c).renderTarget → (s.contexts c).renderTarget = some r := by
    intro κ moves hkept
    rcases moves.render with hrender' | hidle
    · exact hkept.symm.trans (hrender'.symm.trans hrender)
    · exact absurd hidle (Control.pictureState_of_holds moves.okAt (.inl (.inl hrender)))
  cases heffect with
  | advance _ _ moves => exact .inl (hmoves moves rfl)
  | take _ _ _ _ _ _ _ _ moves => exact .inl (hmoves moves rfl)
  | start q _ _ flags _ control =>
      have hq := (congrArg Control.renderTarget control).symm.trans hrender
      cases hq
      exact .inr ⟨congrArg Flags.startedBy flags, currentPicture_of_control (by rw [control])⟩
  | begin _ _ _ _ _ control => exact .inl (hsame control rfl)
  | acquire _ _ _ _ _ control => exact .inl (hsame control rfl)
  | redirect _ _ _ _ _ _ _ control => exact .inl (hsame control rfl)
  | clear _ _ _ _ _ _ control => exact .inl (hsame control rfl)
  | handOver _ _ _ _ _ _ _ control => exact .inl (hsame control rfl)
  | publish _ _ _ _ _ _ _ control => exact .inl (hsame control rfl)
  | make _ _ _ _ _ _ _ control => exact .inl (hsame control rfl)
  | push _ _ _ _ control => exact .inl (hsame control rfl)

/-- A render target whose generation is over stays one until the picture is out of
the hands of its calls, and no section of the call starts its generation again. -/
theorem render_kept (heffect : CallEffect c s s')
    (hok : (s.contexts c).control.okAt (s.contexts c).control.stage) {r : SurfaceRef}
    (hrender : (s.contexts c).renderTarget = some r) (hdone : (s.surfaces r).resolving = false) :
    ((s'.contexts c).renderTarget = some r ∨ (s'.contexts c).control.settled) ∧
      (s'.surfaces r).resolving = false := by
  have hstays : ∀ {κ : Control}, (s'.contexts c).control = κ →
      κ.renderTarget = (s.contexts c).renderTarget → (s'.contexts c).renderTarget = some r := by
    intro κ hcontrol hkept
    exact (congrArg Control.renderTarget hcontrol).trans (hkept.trans hrender)
  have hmoves : ∀ {κ : Control}, Advance κ (s'.contexts c).control →
      κ.renderTarget = (s.contexts c).renderTarget →
        (s'.contexts c).renderTarget = some r ∨ (s'.contexts c).control.settled := by
    intro κ moves hkept
    rcases moves.render with hrender' | hidle
    · exact .inl (hrender'.trans (hkept.trans hrender))
    · exact .inr (.inr hidle)
  have hresolved : s.starts c ≠ some r → (s'.surfaces r).resolving = false := by
    intro hnot
    rcases heffect.started r with hstarts | ⟨_, hpending⟩
    · exact absurd hstarts hnot
    · cases hnow : (s'.surfaces r).resolving with
      | false => rfl
      | true => simp [hpending hnow] at hdone
  have hnever : s.starts c ≠ some r := by
    intro hstarts
    unfold State.starts at hstarts
    split at hstarts
    · rename_i q heq
      have hstage : (s.contexts c).control.stage = .acquiring q := by
        simp [NVContext.control, heq, Phase.stage]
      rw [hstage] at hok
      have hnone : (s.contexts c).renderTarget = none := hok.2.1
      simp [hnone] at hrender
    · rename_i status heq
      have hstage : (s.contexts c).control.stage = .redirecting false status := by
        simp [NVContext.control, heq, Phase.stage]
      rw [hstage] at hok
      exact hok.2.2.2 (hstarts.trans hrender.symm)
    · cases hstarts
  refine ⟨?_, hresolved hnever⟩
  cases heffect with
  | advance _ _ moves => exact hmoves moves rfl
  | take _ _ _ _ _ _ _ _ moves => exact hmoves moves rfl
  | start q _ _ _ stage _ phase =>
      rw [stage] at hok
      have hnone : (s.contexts c).renderTarget = none := hok.2.1
      simp [hnone] at hrender
  | begin _ _ _ _ _ control => exact .inl (hstays control rfl)
  | acquire _ _ _ _ _ control => exact .inl (hstays control rfl)
  | redirect _ _ _ _ _ _ _ control => exact .inl (hstays control rfl)
  | clear _ _ _ _ _ _ control => exact .inl (hstays control rfl)
  | handOver _ _ _ _ _ _ _ control => exact .inl (hstays control rfl)
  | publish _ _ _ _ _ _ _ control => exact .inl (hstays control rfl)
  | make _ _ _ _ _ _ _ control => exact .inl (hstays control rfl)
  | push _ _ _ _ control => exact .inl (hstays control rfl)

end CallEffect

/-- The picture of a failing section of a call, which is not safe. -/
theorem Reported.unsafe_of_failing (hreported : Reported s) (heffect : CallEffect c s s')
    (hcond : ∀ p, p ∈ s'.failed → p ∉ s.failed →
      ∀ r, (s.surfaces r).startedBy = some p → (s.surfaces r).resolving = true)
    {p : Picture} (hsafe : s.Safe p) : p ∉ s'.failed := by
  intro hfailed
  rcases mem_failed_call heffect hfailed with hold | ⟨hcurrent, _, hrunning, hbuilding⟩
  · exact hsafe.unfailed hold
  · have hcontext : p.context = c := congrArg Picture.context hcurrent
    have hlive : (s.contexts c).life = .live := by
      rcases hrunning with hopen | hlive
      · exact (hreported.exclusive.basic.lock c hopen).2.1
      · exact hlive
    have hdanger := hsafe.current
    rw [hcontext] at hdanger
    rcases hdanger hcurrent with hsettled | hdead | ⟨r, hrender, hdone⟩
    · rcases hsettled with h | h <;> simp [h] at hbuilding
    · exact hdead hlive
    · have hstarted := hreported.rendered c r hlive hrender
      rw [← hcurrent] at hstarted
      rw [hcond p hfailed hsafe.unfailed r hstarted] at hdone
      cases hdone

/-- The job that a safe picture pushes is one of a film-grain hand-over. -/
theorem Reported.handedOver_of_push (hreported : Reported s) {job : ResolveJob}
    (hstage : (s.contexts c).control.stage = .submitting job) {p : Picture} (hsafe : s.Safe p)
    (hcurrent : p = currentPicture s c) : job.handedOver = true := by
  have hok := hreported.exclusive.basic.ok c
  rw [hstage] at hok
  obtain ⟨hbuilding, hvld, _, houtput, _, hhanded⟩ := hok
  have hlive := (hreported.exclusive.basic.lock c (by simp [hstage])).2.1
  have hcontext : p.context = c := congrArg Picture.context hcurrent
  have hdanger := hsafe.current
  rw [hcontext] at hdanger
  rcases hdanger hcurrent with hsettled | hdead | ⟨r, hrender, hdone⟩
  · rcases hsettled with h | h <;> simp [h] at hbuilding
  · exact absurd hlive hdead
  · refine hhanded.mpr fun hsame => ?_
    have hsurface : job.surface = r :=
      Option.some.inj (houtput.symm.trans (hsame.trans hrender))
    have hpending := hreported.exclusive.expects c r hlive
      ⟨hvld, hbuilding, by rw [hstage]; exact houtput.trans (congrArg some hsurface)⟩
    simp [hpending] at hdone

/-- A safe picture stays safe in a section of a call. -/
theorem Reported.safe_call (hreported : Reported s) (heffect : CallEffect c s s')
    (hcond : ∀ p, p ∈ s'.failed → p ∉ s.failed →
      ∀ r, (s.surfaces r).startedBy = some p → (s.surfaces r).resolving = true)
    {p : Picture} (hsafe : s.Safe p) : s'.Safe p where
  unfailed := hreported.unsafe_of_failing heffect hcond hsafe
  begun := ⟨hsafe.begun.1, hsafe.begun.2.trans (heffect.pictureOf _)⟩
  jobs := by
    intro q hq hpicture
    by_cases hd : p.context = c
    · subst hd
      rcases heffect.outstanding.2 with hsame | ⟨job, hstage, _, _, _, hperm⟩
      · exact hsafe.jobs q (hsame ▸ hq) hpicture
      · rcases List.mem_cons.mp (hperm.mem_iff.mp hq) with rfl | hbefore
        · have hcurrent := hreported.exclusive.basic.submitting _ job hstage
          exact hreported.handedOver_of_push hstage hsafe (hpicture.symm.trans hcurrent)
        · exact hsafe.jobs q hbefore hpicture
    · exact hsafe.jobs q (heffect.outstanding.1 _ hd ▸ hq) hpicture
  current := by
    intro hcurrent
    have hok := hreported.exclusive.basic.ok c
    rw [heffect.life p.context]
    by_cases hd : p.context = c
    · rcases heffect.picture with hsame | ⟨hnew, _⟩
      · have hbefore : p = currentPicture s p.context := by
          rw [hcurrent, hd]
          exact currentPicture_of_control hsame
        have hdanger := hsafe.current hbefore
        rw [hd] at hdanger ⊢
        rcases hdanger with hsettled | hdead | ⟨r, hrender, hdone⟩
        · exact .inl ((heffect.pictureState hok hsame).2 hsettled)
        · exact .inr (.inl hdead)
        · obtain ⟨hkept, hdone'⟩ := heffect.render_kept hok hrender hdone
          rcases hkept with hrender' | hsettled
          · exact .inr (.inr ⟨r, hrender', hdone'⟩)
          · exact .inl hsettled
      · -- a new picture has begun
        have hserial := congrArg Picture.serial hcurrent
        have hbegun := hsafe.begun.2
        rw [hd] at hserial hbegun
        change p.serial = (s'.contexts c).picture at hserial
        change (s'.contexts c).picture = (s.contexts c).picture + 1 at hnew
        omega
    · have hcontrol := heffect.frame.control p.context hd
      have hbefore : p = currentPicture s p.context := by
        rw [hcurrent]
        exact currentPicture_of_control (congrArg Control.picture hcontrol)
      rw [hcontrol]
      have hrenderSame : (s'.contexts p.context).renderTarget =
          (s.contexts p.context).renderTarget := congrArg Control.renderTarget hcontrol
      rcases hsafe.current hbefore with hsettled | hdead | ⟨r, hrender, hdone⟩
      · exact .inl hsettled
      · exact .inr (.inl hdead)
      · by_cases hlive : (s.contexts p.context).life = .live
        · refine .inr (.inr ⟨r, hrenderSame.trans hrender, ?_⟩)
          rcases hreported.exclusive.flags_call heffect r with hsame | ⟨hholds, _⟩
          · exact (congrArg Flags.resolving hsame).trans hdone
          · have hunique := hreported.exclusive.unique r p.context c
              ⟨hlive, .inl (.inl hrender)⟩ hholds
            exact absurd hunique hd
        · exact .inr (.inl hlive)

/-- The current picture of a call is safe once the generation of its render target
is over and the picture has not failed. -/
theorem safe_of_render (hbasic : Basic s) {p : Picture} (hcurrent : p = currentPicture s c)
    (hunfailed : p ∉ s.failed) (hunsettled : ¬(s.contexts c).control.settled) {r : SurfaceRef}
    (hrender : (s.contexts c).renderTarget = some r) (hdone : (s.surfaces r).resolving = false) :
    s.Safe p := by
  subst hcurrent
  refine ⟨hunfailed, ⟨hbasic.begun c ?_, le_refl _⟩, ?_, fun _ => .inr (.inr ⟨r, hrender, hdone⟩)⟩
  · exact fun hidle => hunsettled (.inr hidle)
  · intro q hq hpicture
    exact absurd (currentPicture_mem_jobs hbasic hq hpicture) hunsettled

theorem Reported.rendered_call (hreported : Reported s) (heffect : CallEffect c s s')
    (d : ContextRef) (r : SurfaceRef) (hlive : (s'.contexts d).life = .live)
    (hrender : (s'.contexts d).renderTarget = some r) :
    (s'.surfaces r).startedBy = some (currentPicture s' d) := by
  have hok := hreported.exclusive.basic.ok c
  rw [heffect.life d] at hlive
  by_cases hd : d = c
  · subst hd
    rcases heffect.render hrender with hbefore | ⟨hstarted, hcurrent⟩
    · rw [heffect.current hok (.inl (.inl hbefore))]
      rcases heffect.generation hok r with ⟨hsame, _⟩ | ⟨hstarted, _⟩
      · exact hsame.trans (hreported.rendered d r hlive hbefore)
      · exact hstarted
    · rw [hcurrent]
      exact hstarted
  · have hcontrol := heffect.frame.control d hd
    have hbefore : (s.contexts d).renderTarget = some r :=
      (congrArg Control.renderTarget hcontrol).symm.trans hrender
    rw [currentPicture_of_control (congrArg Control.picture hcontrol)]
    rcases hreported.exclusive.flags_call heffect r with hsame | ⟨hholds, _⟩
    · exact (congrArg Flags.startedBy hsame).trans (hreported.rendered d r hlive hbefore)
    · exact absurd (hreported.exclusive.unique r d c ⟨hlive, .inl (.inl hbefore)⟩ hholds) hd

theorem Reported.jobs_call (hreported : Reported s) (heffect : CallEffect c s s')
    (d : ContextRef) (q : Pending) (hq : q ∈ s'.outstanding d)
    (hfailed : q.job.picture ∈ s'.failed) : q.failed = true := by
  have hbasic := hreported.exclusive.basic
  have hold : q ∈ s.outstanding d → q.failed = true := by
    intro hbefore
    rcases mem_failed_call heffect hfailed with hmem | ⟨hcurrent, _, _, hbuilding⟩
    · exact hreported.jobs d q hbefore hmem
    · have hd : d = c :=
        (hbasic.jobs d q hbefore).1.symm.trans (congrArg Picture.context hcurrent)
      subst hd
      rcases currentPicture_mem_jobs hbasic hbefore hcurrent with h | h <;> simp [h] at hbuilding
  by_cases hd : d = c
  · subst hd
    rcases heffect.outstanding.2 with hsame | ⟨job, hstage, ⟨hstate', hstage'⟩, _, _, hperm⟩
    · exact hold (hsame ▸ hq)
    · rcases List.mem_cons.mp (hperm.mem_iff.mp hq) with rfl | hbefore
      · have hpicture : job.picture = currentPicture s d := hbasic.submitting d job hstage
        have hok := hbasic.ok d
        rw [hstage] at hok
        have hbuilding := hok.1
        have hmem : currentPicture s d ∈ s.failed := by
          change job.picture ∈ s'.failed at hfailed
          rw [hpicture] at hfailed
          rcases mem_failed_call heffect hfailed with hmem | ⟨_, hfailing, _⟩
          · exact hmem
          · simp [Control.failing, Control.cleaning, hstate', hstage'] at hfailing
        have hstatus : job.decodeStatus ≠ .success := by
          rcases hbasic.known d hmem with hfailing | hsettled
          · simpa [Control.failing, Control.cleaning, hstage, hbuilding] using hfailing
          · rcases hsettled with h | h <;> simp [h] at hbuilding
        simpa [Pending.queued] using hstatus
      · exact hold hbefore
  · exact hold (heffect.outstanding.1 d hd ▸ hq)

theorem Reported.marked_call (hreported : Reported s) (heffect : CallEffect c s s')
    (d : ContextRef) (q : Pending) (hq : q ∈ s'.outstanding d) (hmarked : q.marked = true) :
    (s'.surfaces q.job.surface).decodeFailed = q.failed := by
  have hold : q ∈ s.outstanding d → (s'.surfaces q.job.surface).decodeFailed = q.failed := by
    intro hbefore
    have hsame := hreported.exclusive.job_call heffect hbefore
    exact (congrArg Flags.decodeFailed hsame).trans (hreported.marked d q hbefore hmarked)
  by_cases hd : d = c
  · subst hd
    rcases heffect.outstanding.2 with hsame | ⟨job, _, _, _, _, hperm⟩
    · exact hold (hsame ▸ hq)
    · rcases List.mem_cons.mp (hperm.mem_iff.mp hq) with rfl | hbefore
      · cases hmarked
      · exact hold hbefore
  · exact hold (heffect.outstanding.1 d hd ▸ hq)

/-- A clearing section of a call that is not cleaning up clears the render target. -/
theorem clearing_target {κ : Control} (hok : κ.okAt κ.stage) {section_ : ClearSection}
    {rest : List ClearSection} {next : Stage} (hstage : κ.stage = .clearing (section_ :: rest) next)
    {r : SurfaceRef} (hclears : section_.clears = some r) :
    κ.target r ∧ ¬κ.settled ∧ (¬κ.cleaning → κ.renderTarget = some r) := by
  have hcleaning : κ.entrypoint = .vld → κ.cleaning := fun hvld => .inr ⟨hvld, _, _, hstage⟩
  have hunsettled := unsettled_of_clearing hok hstage
  rw [hstage] at hok
  obtain ⟨htargeted, hcleared, hnext⟩ := hok
  have htarget : κ.target r := hcleared r ((mem_clearedBy_cons _ _ _).mpr (.inl hclears))
  refine ⟨htarget, hunsettled, fun hnot => ?_⟩
  rcases htarget with hrender | hdisplay
  · exact hrender
  · exact absurd (hcleaning (htargeted.2.mp (by simp [hdisplay]))) hnot

/-- What a surface whose generation is over shows of its picture. -/
def State.Shown (s : State) (r : SurfaceRef) (p : Picture) : Prop :=
  s.Safe p ∨ (p ∈ s.failed ∧ (s.surfaces r).showsFailure)

theorem NVSurface.showsFailure_failResolve (surface : NVSurface) {status : VAStatus} :
    (surface.failResolve status).showsFailure := by
  refine ⟨rfl, ?_⟩
  unfold NVSurface.failResolve
  simp only
  split
  · nofun
  · assumption

theorem NVSurface.showsFailure_finish {surface : NVSurface} (hfailed : surface.decodeFailed = true) :
    surface.finish.showsFailure := by
  refine ⟨hfailed, ?_⟩
  simp [NVSurface.finish, hfailed]

theorem showsFailure_of_flags {first second : NVSurface} (hflags : first.flags = second.flags)
    (hshows : second.showsFailure) : first.showsFailure := by
  have hdecode : first.decodeFailed = second.decodeFailed := congrArg Flags.decodeFailed hflags
  have hstatus : first.completionStatus = second.completionStatus :=
    congrArg Flags.completionStatus hflags
  exact ⟨hdecode.trans hshows.1, hstatus ▸ hshows.2⟩

/-- The section that ends a generation as decoded does so for a picture that has not
failed, or leaves the failure of an earlier one on display. -/
theorem Reported.shown_finish (hreported : Reported s) (heffect : CallEffect c s s')
    (hcond : ∀ p, p ∈ s'.failed → p ∉ s.failed →
      ∀ r, (s.surfaces r).startedBy = some p → (s.surfaces r).resolving = true)
    (hbasic : Basic s') {r : SurfaceRef} (hlive : (s.contexts c).life = .live)
    (htarget : (s.contexts c).control.target r)
    (hunfinished : (s.surfaces r).resolving = true → currentPicture s c ∉ s.failed)
    (hfailed : s'.failed = s.failed) (hflags : (s'.surfaces r).flags = (s.surfaces r).finish.flags)
    (hrender : (s.surfaces r).resolving = true → currentPicture s c ∉ s.failed →
      (s'.contexts c).renderTarget = some r ∧ ¬(s'.contexts c).control.settled)
    {p : Picture} (hstarted : (s'.surfaces r).startedBy = some p) : s'.Shown r p := by
  have hstartedBefore : (s.surfaces r).startedBy = some p :=
    (congrArg Flags.startedBy hflags).symm.trans hstarted
  have hdone : (s'.surfaces r).resolving = false := congrArg Flags.resolving hflags
  cases hpending : (s.surfaces r).resolving with
  | true =>
      have hown := hreported.exclusive.held c r ⟨hlive, .inl htarget⟩ hpending
      have hcurrent : p = currentPicture s c := Option.some.inj (hstartedBefore.symm.trans hown)
      have hunfailed := hunfinished hpending
      obtain ⟨hrender', hunsettled⟩ := hrender hpending hunfailed
      have hsame : currentPicture s' c = currentPicture s c :=
        heffect.current (hreported.exclusive.basic.ok c) (.inl htarget)
      refine .inl (safe_of_render hbasic (hcurrent.trans hsame.symm) ?_ hunsettled hrender' hdone)
      rw [hfailed, hcurrent]
      exact hunfailed
  | false =>
      rcases hreported.complete r p hstartedBefore hpending with hsafe | ⟨hmem, hshows⟩
      · exact .inl (hreported.safe_call heffect hcond hsafe)
      · exact .inr ⟨hfailed ▸ hmem, showsFailure_of_flags hflags
          (NVSurface.showsFailure_finish hshows.1)⟩

theorem Reported.complete_call (hreported : Reported s) (heffect : CallEffect c s s')
    (hbasic : Basic s')
    (hunfinished : ∀ r, s.finishes c = some r → (s.surfaces r).resolving = true →
      currentPicture s c ∉ s.failed)
    (hcond : ∀ p, p ∈ s'.failed → p ∉ s.failed →
      ∀ r, (s.surfaces r).startedBy = some p → (s.surfaces r).resolving = true)
    (r : SurfaceRef) (p : Picture) (hstarted : (s'.surfaces r).startedBy = some p)
    (hdone : (s'.surfaces r).resolving = false) : s'.Shown r p := by
  have hok := hreported.exclusive.basic.ok c
  have hsame : (s'.surfaces r).flags = (s.surfaces r).flags → s'.Shown r p := by
    intro hflags
    have hstartedBefore := (congrArg Flags.startedBy hflags).symm.trans hstarted
    have hdoneBefore := (congrArg Flags.resolving hflags).symm.trans hdone
    rcases hreported.complete r p hstartedBefore hdoneBefore with hsafe | ⟨hmem, hshows⟩
    · exact .inl (hreported.safe_call heffect hcond hsafe)
    · exact .inr ⟨failed_subset_call heffect hmem, showsFailure_of_flags hflags hshows⟩
  have hlive : (s.contexts c).control.stage ≠ .between → (s.contexts c).life = .live :=
    fun hopen => (hreported.exclusive.basic.lock c hopen).2.1
  have hfinish := fun hrunning htarget hunfinishedAt hfailed hflags hrender =>
    hreported.shown_finish heffect hcond hbasic (r := r) hrunning htarget hunfinishedAt hfailed
      hflags hrender hstarted
  cases heffect with
  | advance _ flags => exact hsame (flags r)
  | begin _ flags => exact hsame (flags r)
  | acquire _ _ flags => exact hsame (flags r)
  | take _ _ flags => exact hsame (flags r)
  | push _ _ flags => exact hsame (flags r)
  | start q _ others flags =>
      by_cases hr : r = q
      · subst hr
        have hnow : (s'.surfaces r).resolving = true := congrArg Flags.resolving flags
        simp [hnow] at hdone
      · exact hsame (others r hr)
  | redirect q _ others flags =>
      by_cases hr : r = q
      · subst hr
        have hnow : (s'.surfaces r).resolving = true := congrArg Flags.resolving flags
        simp [hnow] at hdone
      · exact hsame (others r hr)
  | make q status _ others flags phase output =>
      by_cases hr : r = q
      · subst hr
        have hstage : (s.contexts c).control.stage = .making status := by
          simp [NVContext.control, phase, Phase.stage]
        rw [hstage] at hok
        have hpending := hreported.exclusive.expects c r (hlive (by simp [hstage]))
          ⟨hok.2.1, hok.1, by rw [hstage]; exact output⟩
        have hnow : (s'.surfaces r).resolving = (s.surfaces r).resolving :=
          congrArg Flags.resolving flags
        simp [hnow, hpending] at hdone
      · exact hsame (others r hr)
  | publish q src _ others flags stage render =>
      by_cases hr : r = q
      · subst hr
        rw [stage] at hok
        have hcurrent := hreported.rendered c r (hlive (by simp [stage])) render
        have hstartedBefore : (s.surfaces r).startedBy = some p :=
          (congrArg Flags.startedBy flags).symm.trans hstarted
        have hpicture : p = currentPicture s c :=
          Option.some.inj (hstartedBefore.symm.trans hcurrent)
        have hdoneBefore : (s.surfaces r).resolving = false :=
          (congrArg Flags.resolving flags).symm.trans hdone
        rcases hreported.complete r p hstartedBefore hdoneBefore with hsafe | ⟨hmem, _⟩
        · exact .inl (hreported.safe_call (.publish r src ‹_› others flags stage render ‹_›)
            hcond hsafe)
        · rw [hpicture] at hmem
          rcases hreported.exclusive.basic.known c hmem with hfailing | hsettled
          · simp [Control.failing, Control.cleaning, stage, hok.1, hok.2.1] at hfailing
          · have hbuilding := hok.1
            rcases hsettled with h | h <;> simp [h] at hbuilding
      · exact hsame (others r hr)
  | clear section_ rest next frame flags stage control unfailed =>
      by_cases hclears : section_.clears = some r
      · have hopen : (s.contexts c).control.stage ≠ .between := by simp [stage]
        obtain ⟨next', hphase⟩ := phase_of_stage_clearing stage
        obtain ⟨htarget, hunsettled, hrender⟩ := clearing_target hok stage hclears
        have hrenderNow : currentPicture s c ∉ s.failed →
            (s'.contexts c).renderTarget = some r ∧ ¬(s'.contexts c).control.settled := by
          intro hunfailed
          have hbefore := hrender fun hcleaning =>
            hunfailed (hreported.exclusive.basic.recorded c hcleaning)
          refine ⟨(congrArg Control.renderTarget control).trans hbefore, ?_⟩
          rw [control]
          exact hunsettled
        cases section_ with
        | image q => cases hclears
        | finish q =>
            cases hclears
            refine hfinish (hlive hopen) htarget (hunfinished r ?_) unfailed ?_
              (fun _ => hrenderNow)
            · simp [State.finishes, hphase]
            · have hrun := flags r
              simpa [ClearSection.run] using hrun
        | fail q status =>
            cases hclears
            have hfail : (s'.surfaces r).flags = ((s.surfaces r).failResolve status).flags := by
              have hrun := flags r
              simpa [ClearSection.run] using hrun
            by_cases hmem : p ∈ s'.failed
            · exact .inr ⟨hmem, showsFailure_of_flags hfail
                (NVSurface.showsFailure_failResolve _)⟩
            · have hstartedBefore : (s.surfaces r).startedBy = some p :=
                (congrArg Flags.startedBy hfail).symm.trans hstarted
              cases hpending : (s.surfaces r).resolving with
              | true =>
                  have hown := hreported.exclusive.held c r ⟨hlive hopen, .inl htarget⟩ hpending
                  have hcurrent : p = currentPicture s c :=
                    Option.some.inj (hstartedBefore.symm.trans hown)
                  have hunfailed : currentPicture s c ∉ s.failed := by
                    rw [← hcurrent, ← unfailed]
                    exact hmem
                  obtain ⟨hrender', hunsettled'⟩ := hrenderNow hunfailed
                  have hpicture : currentPicture s' c = currentPicture s c :=
                    currentPicture_of_control (by rw [control])
                  exact .inl (safe_of_render hbasic (hcurrent.trans hpicture.symm) hmem
                    hunsettled' hrender' hdone)
              | false =>
                  rcases hreported.complete r p hstartedBefore hpending with hsafe | ⟨hbefore, _⟩
                  · exact .inl (hreported.safe_call
                      (.clear (.fail r status) rest next frame flags stage control unfailed)
                      hcond hsafe)
                  · exact absurd (unfailed ▸ hbefore) hmem
      · exact hsame ((flags r).trans
          (congrArg NVSurface.flags (section_.run_surfaces_ne s hclears)))
  | handOver q _ others flags status phase render control unfailed =>
      by_cases hr : r = q
      · subst hr
        have hstage : (s.contexts c).control.stage = .redirecting true status := by
          simp [NVContext.control, phase, Phase.stage]
        rw [hstage] at hok
        refine hfinish (hlive (by simp [hstage])) (.inl render) (hunfinished r ?_) unfailed flags
          fun _ _ => ⟨(congrArg Control.renderTarget control).trans render, ?_⟩
        · simp only [State.finishes, phase]
          exact render
        · rw [control]
          have hbuilding := hok.1
          rintro (h | h) <;> change (s.contexts c).control.pictureState = _ at h <;>
            simp [h] at hbuilding
      · exact hsame (others r hr)

theorem Reported.call (hreported : Reported s) (heffect : CallEffect c s s')
    (hexclusive : Exclusive s')
    (hunfinished : ∀ r, s.finishes c = some r → (s.surfaces r).resolving = true →
      currentPicture s c ∉ s.failed)
    (hcond : ∀ p, p ∈ s'.failed → p ∉ s.failed →
      ∀ r, (s.surfaces r).startedBy = some p → (s.surfaces r).resolving = true)
    (hunread : ∀ r, s.starts c = some r → ¬s.reading r) : Reported s' where
  exclusive := hexclusive
  rendered := hreported.rendered_call heffect
  jobs := hreported.jobs_call heffect
  marked := hreported.marked_call heffect
  complete := hreported.complete_call heffect hexclusive.basic hunfinished hcond
  reading := by
    intro t r seen hsync
    rw [heffect.frame.syncs] at hsync
    obtain ⟨hstarted, hdone⟩ := hreported.reading t r seen hsync
    rcases heffect.started r with hstarts | ⟨hsame, hpending⟩
    · exact absurd ⟨t, seen, hsync⟩ (hunread r hstarts)
    · refine ⟨hsame.trans hstarted, ?_⟩
      cases hnow : (s'.surfaces r).resolving with
      | false => rfl
      | true => simp [hpending hnow] at hdone
  returned := by
    intro t r p hsync
    rw [heffect.frame.syncs] at hsync
    exact hreported.safe_call heffect hcond (hreported.returned t r p hsync)

end Calls

/-! ## The other threads -/

section Threads

variable {s s' : State} {a : Label}

theorem ThreadEffect.syncs (heffect : ThreadEffect a s s') : s'.syncs = s.syncs := by
  cases heffect with
  | pass frame => exact frame.syncs
  | worsen _ _ frame => exact frame.syncs
  | mark _ _ _ frame => exact frame.syncs
  | drop _ _ frame => exact frame.syncs
  | finish _ _ frame => exact frame.syncs
  | fail _ _ frame => exact frame.syncs
  | _ => assumption

/-- A job that changes hands is the only one of its picture. -/
theorem JobsChange.moved {c : ContextRef} {p p' q : Pending} (hbasic : Basic s)
    (hjobs : JobsChange c [p] [p'] s s') {d : ContextRef} (hq : q ∈ s'.outstanding d) :
    q = p' ∨ (q ∈ s.outstanding d ∧ q.job.picture ≠ p.job.picture) := by
  by_cases hd : d = c
  · subst hd
    obtain ⟨rest, hbefore, hnow⟩ := hjobs.own
    rcases List.mem_cons.mp (hnow.mem_iff.mp hq) with hmoved | hrest
    · exact .inl hmoved
    · have hmem : q ∈ s.outstanding d := hbefore.mem_iff.mpr (List.mem_cons_of_mem _ hrest)
      refine .inr ⟨hmem, fun hsame => ?_⟩
      have hdistinct := (hbefore.map fun p => p.job.picture).nodup_iff.mp (hbasic.distinct d)
      exact (List.nodup_cons.mp hdistinct).1 (List.mem_map.mpr ⟨q, hrest, hsame⟩)
  · have hmem : q ∈ s.outstanding d := hjobs.others d hd ▸ hq
    refine .inr ⟨hmem, fun hsame => hd ?_⟩
    rw [← (hbasic.jobs d q hmem).1, hsame]
    exact (hbasic.jobs c p hjobs.mem).1

/-- When a job ends, the others are those of other pictures. -/
theorem JobsChange.ended {c : ContextRef} {p q : Pending} (hbasic : Basic s)
    (hjobs : JobsChange c [p] [] s s') {d : ContextRef} (hq : q ∈ s'.outstanding d) :
    q ∈ s.outstanding d ∧ q.job.picture ≠ p.job.picture := by
  have hmem : q ∈ s.outstanding d := by
    by_cases hd : d = c
    · subst hd
      obtain ⟨rest, hbefore, hnow⟩ := hjobs.own
      exact hbefore.mem_iff.mpr (List.mem_cons_of_mem _ (hnow.mem_iff.mp hq))
    · exact hjobs.others d hd ▸ hq
  exact ⟨hmem, hjobs.picture_ne hbasic hq (hbasic.jobs d q hmem).1⟩

/-- A safe picture stays safe in a section of another thread. -/
theorem Reported.safe_thread (hreported : Reported s) (heffect : ThreadEffect a s s')
    (hcond : ∀ p, p ∈ s'.failed → p ∉ s.failed →
      ∀ c, ∀ q ∈ s.outstanding c, q.job.picture = p → q.job.handedOver = false)
    {p : Picture} (hsafe : s.Safe p) : s'.Safe p where
  unfailed := by
    intro hfailed
    rcases heffect.failed with hsame | ⟨c, q, hq, hnew⟩
    · exact hsafe.unfailed (hsame ▸ hfailed)
    · have hmem := hfailed
      rw [hnew, List.mem_cons] at hmem
      rcases hmem with hpicture | hold
      · have hcontext : p.context = c := by
          rw [hpicture]
          exact (hreported.exclusive.basic.jobs c q hq).1
        have hhanded := hsafe.jobs q (hcontext.symm ▸ hq) hpicture.symm
        rw [hcond p hfailed hsafe.unfailed c q hq hpicture.symm] at hhanded
        cases hhanded
      · exact hsafe.unfailed hold
  begun := ⟨hsafe.begun.1, hsafe.begun.2.trans (heffect.picture hreported.exclusive.basic _)⟩
  jobs := by
    intro q hq hpicture
    obtain ⟨q', hq', hsame⟩ := heffect.outstanding.job hq
    rw [← hsame] at hpicture ⊢
    exact hsafe.jobs q' hq' hpicture
  current := by
    intro hcurrent
    rcases heffect.kept p.context with hkept | ⟨habsent, _⟩
    · have hbefore : p = currentPicture s p.context := by
        rw [hcurrent]
        exact currentPicture_of_control (quiet_picture hkept.quiet)
      have hrenderSame := congrArg Control.renderTarget hkept.quiet
      rcases hsafe.current hbefore with hsettled | hdead | ⟨r, hrender, hdone⟩
      · refine .inl ?_
        rw [← settled_quiet, hkept.quiet, settled_quiet]
        exact hsettled
      · refine .inr (.inl ?_)
        rcases hkept.life with hsame | ⟨_, hfreed⟩
        · exact hsame ▸ hdead
        · simp [hfreed]
      · refine .inr (.inr ⟨r, hrenderSame.trans hrender, ?_⟩)
        cases hnow : (s'.surfaces r).resolving with
        | false => rfl
        | true => simp [(heffect.generation r).2.2 hnow] at hdone
    · have hnone := (hreported.exclusive.basic.absent _ habsent).1
      have hbegun := hsafe.begun
      omega

theorem Reported.complete_thread (hreported : Reported s) (heffect : ThreadEffect a s s')
    (hcond : ∀ p, p ∈ s'.failed → p ∉ s.failed →
      ∀ c, ∀ q ∈ s.outstanding c, q.job.picture = p → q.job.handedOver = false)
    (r : SurfaceRef) (p : Picture) (hstarted : (s'.surfaces r).startedBy = some p)
    (hdone : (s'.surfaces r).resolving = false) : s'.Shown r p := by
  have hfailed : ∀ q ∈ s.failed, q ∈ s'.failed := by
    intro q hq
    rcases heffect.failed with hsame | ⟨_, _, _, hnew⟩
    · exact hsame ▸ hq
    · exact hnew ▸ List.mem_cons_of_mem _ hq
  have hsame : (s'.surfaces r).flags = (s.surfaces r).flags → s'.Shown r p := by
    intro hflags
    have hstartedBefore := (congrArg Flags.startedBy hflags).symm.trans hstarted
    have hdoneBefore := (congrArg Flags.resolving hflags).symm.trans hdone
    rcases hreported.complete r p hstartedBefore hdoneBefore with hsafe | ⟨hmem, hshows⟩
    · exact .inl (hreported.safe_thread heffect hcond hsafe)
    · exact .inr ⟨hfailed p hmem, showsFailure_of_flags hflags hshows⟩
  have hpicture : ∀ {c : ContextRef} {q : Pending}, q ∈ s.outstanding c →
      (s'.surfaces q.job.surface).startedBy = some p → p = q.job.picture := by
    intro c q hq h
    rw [(heffect.generation _).1, (hreported.exclusive.jobs c q hq).2.1] at h
    exact (Option.some.inj h).symm
  cases heffect with
  | pass _ flags => exact hsame (flags r)
  | worsen _ _ _ flags => exact hsame (flags r)
  | drop _ _ _ flags => exact hsame (flags r)
  | createSurface _ _ _ _ flags => exact hsame (flags r)
  | createContext _ _ _ _ _ _ _ _ surfaces => exact hsame (by rw [surfaces])
  | remove _ _ _ _ _ flags => exact hsame (flags r)
  | free _ _ _ _ _ flags => exact hsame (flags r)
  | destroy _ _ _ _ _ _ _ surfaces => exact hsame (by rw [surfaces])
  | delete _ _ _ _ _ surfaces => exact hsame (by rw [surfaces])
  | mark c q _ _ others flags jobs =>
      by_cases hr : r = q.job.surface
      · subst hr
        have hkept : (s'.surfaces q.job.surface).resolving =
            (s.surfaces q.job.surface).resolving := congrArg Flags.resolving flags
        simp [hkept, (hreported.exclusive.jobs c q jobs.mem).1] at hdone
      · exact hsame (others r hr)
  | finish c q frame others flags jobs marked on worker unfailed =>
      by_cases hr : r = q.job.surface
      · subst hr
        have hown := hpicture jobs.mem hstarted
        by_cases hmem : p ∈ s.failed
        · have hjobFailed := hreported.jobs c q jobs.mem (hown ▸ hmem)
          have hstored := hreported.marked c q jobs.mem marked
          exact .inr ⟨unfailed ▸ hmem, showsFailure_of_flags flags
            (NVSurface.showsFailure_finish (hstored.trans hjobFailed))⟩
        · -- the picture's last job is done
          obtain ⟨hcontext, hpos, hle, hsettled⟩ :=
            hreported.exclusive.basic.jobs c q jobs.mem
          have hquiet := frame.quiet c
          refine .inl ⟨unfailed ▸ hmem, ?_, ?_, ?_⟩
          · rw [hown, hcontext]
            refine ⟨hpos, hle.trans ?_⟩
            exact le_of_eq (quiet_picture hquiet).symm
          · intro q' hq' hsamePicture
            exact absurd (hsamePicture.trans hown) (jobs.ended hreported.exclusive.basic hq').2
          · intro hcurrent
            rw [hown, hcontext] at hcurrent ⊢
            rw [currentPicture_of_control (quiet_picture hquiet)] at hcurrent
            refine .inl ?_
            rw [← settled_quiet, hquiet, settled_quiet]
            exact currentPicture_mem_jobs hreported.exclusive.basic jobs.mem hcurrent
      · exact hsame (others r hr)
  | fail c q _ others flags jobs failed =>
      by_cases hr : r = q.job.surface
      · subst hr
        have hown := hpicture jobs.mem hstarted
        exact .inr ⟨by rw [failed, hown]; exact List.mem_cons_self,
          showsFailure_of_flags flags (NVSurface.showsFailure_failResolve _)⟩
      · exact hsame (others r hr)

/-- The jobs of failed pictures are going to fail, and outcomes that the worker has
stored are on their surfaces. -/
theorem Reported.jobs_thread (hreported : Reported s) (heffect : OutstandingEffect s s')
    {d : ContextRef} {q : Pending} (hq : q ∈ s'.outstanding d) :
    (q.job.picture ∈ s'.failed → q.failed = true) ∧
      (q.marked = true → (s'.surfaces q.job.surface).decodeFailed = q.failed) := by
  have hbasic := hreported.exclusive.basic
  have hkept : q ∈ s.outstanding d →
      (q.job.picture ∈ s'.failed → q.job.picture ∈ s.failed) →
      (s'.surfaces q.job.surface).flags = (s.surfaces q.job.surface).flags →
      (q.job.picture ∈ s'.failed → q.failed = true) ∧
        (q.marked = true → (s'.surfaces q.job.surface).decodeFailed = q.failed) := by
    intro hmem hold hflags
    refine ⟨fun h => hreported.jobs d q hmem (hold h), fun hmarked => ?_⟩
    exact (congrArg Flags.decodeFailed hflags).trans (hreported.marked d q hmem hmarked)
  -- jobs of different pictures are for different surfaces
  have hsurface : ∀ {c : ContextRef} {p : Pending}, p ∈ s.outstanding c → q ∈ s.outstanding d →
      q.job.picture ≠ p.job.picture → q.job.surface ≠ p.job.surface := by
    intro c p hp hmem hne hsame
    have hown := (hreported.exclusive.jobs d q hmem).2.1
    rw [hsame, (hreported.exclusive.jobs c p hp).2.1] at hown
    exact hne (Option.some.inj hown).symm
  cases heffect with
  | same jobs flags failed =>
      exact hkept ((jobs d).mem_iff.mp hq) (fun h => failed ▸ h) (flags _)
  | moved c p p' job jobs others change =>
      rcases jobs.moved hbasic hq with rfl | ⟨hmem, hne⟩
      · rw [job]
        rcases change with ⟨hfailed, hunmarked, _⟩ | ⟨_, hkeeps, hstored, hfailed⟩
        · exact ⟨fun _ => hfailed, fun h => by simp [hunmarked] at h⟩
        · exact ⟨fun h => hkeeps (hreported.jobs c p jobs.mem (hfailed ▸ h)), fun _ => hstored⟩
      · refine hkept hmem ?_ (others _ (hsurface jobs.mem hmem hne))
        intro h
        rcases change with ⟨_, _, hfailed⟩ | ⟨_, _, _, hfailed⟩
        · rw [hfailed, List.mem_cons] at h
          exact h.resolve_left hne
        · exact hfailed ▸ h
  | ended c p jobs _ others failed =>
      obtain ⟨hmem, hne⟩ := jobs.ended hbasic hq
      exact hkept hmem (fun h => (failed _ h).resolve_left hne)
        (others _ (hsurface jobs.mem hmem hne))
  | created c absent none others surfaces failed =>
      by_cases hd : d = c
      · subst hd
        simp [none] at hq
      · exact hkept (others d hd ▸ hq) (fun h => failed ▸ h) (by rw [surfaces])

theorem Reported.thread (hreported : Reported s) (heffect : ThreadEffect a s s')
    (hcond : ∀ p, p ∈ s'.failed → p ∉ s.failed →
      ∀ c, ∀ q ∈ s.outstanding c, q.job.picture = p → q.job.handedOver = false) :
    Reported s' where
  exclusive := hreported.exclusive.thread heffect
  rendered := by
    intro d r hlive hrender
    obtain ⟨⟨hbefore, _⟩, hquiet⟩ := heffect.holdsAt ⟨hlive, .inl (.inl hrender)⟩
    have hrenderSame := congrArg Control.renderTarget hquiet
    rw [currentPicture_of_control (quiet_picture hquiet), (heffect.generation r).1]
    exact hreported.rendered d r hbefore (hrenderSame.symm.trans hrender)
  jobs := fun _ _ hq => (hreported.jobs_thread heffect.outstanding hq).1
  marked := fun _ _ hq => (hreported.jobs_thread heffect.outstanding hq).2
  complete := hreported.complete_thread heffect hcond
  reading := by
    intro t r seen hsync
    rw [heffect.syncs] at hsync
    obtain ⟨hstarted, hdone⟩ := hreported.reading t r seen hsync
    refine ⟨(heffect.generation r).1.trans hstarted, ?_⟩
    cases hnow : (s'.surfaces r).resolving with
    | false => rfl
    | true => simp [(heffect.generation r).2.2 hnow] at hdone
  returned := by
    intro t r p hsync
    rw [heffect.syncs] at hsync
    exact hreported.safe_thread heffect hcond (hreported.returned t r p hsync)

/-! ## Every run -/

theorem SyncEffect.safe {thread : Nat} (heffect : SyncEffect thread s s') {p : Picture} :
    s'.Safe p ↔ s.Safe p := by
  have hcurrent : ∀ d, currentPicture s' d = currentPicture s d := fun d =>
    currentPicture_of_control (by rw [heffect.contexts])
  constructor
  · rintro ⟨hunfailed, hbegun, hjobs, hdanger⟩
    rw [heffect.failed] at hunfailed
    rw [heffect.contexts] at hbegun
    rw [heffect.outstanding] at hjobs
    rw [heffect.contexts, heffect.surfaces, hcurrent] at hdanger
    exact ⟨hunfailed, hbegun, hjobs, hdanger⟩
  · rintro ⟨hunfailed, hbegun, hjobs, hdanger⟩
    rw [← heffect.failed] at hunfailed
    rw [← heffect.contexts] at hbegun
    rw [← heffect.outstanding] at hjobs
    rw [← heffect.contexts, ← heffect.surfaces, ← hcurrent] at hdanger
    exact ⟨hunfailed, hbegun, hjobs, hdanger⟩

theorem Reported.sync {thread : Nat} (hreported : Reported s)
    (heffect : SyncEffect thread s s') : Reported s' where
  exclusive := hreported.exclusive.sync heffect
  rendered := by
    intro d r hlive hrender
    have hcurrent : currentPicture s' d = currentPicture s d :=
      currentPicture_of_control (by rw [heffect.contexts])
    rw [heffect.contexts] at hlive hrender
    rw [heffect.surfaces, hcurrent]
    exact hreported.rendered d r hlive hrender
  jobs := by
    intro d q hq
    rw [heffect.outstanding] at hq
    rw [heffect.failed]
    exact hreported.jobs d q hq
  marked := by
    intro d q hq
    rw [heffect.outstanding] at hq
    rw [heffect.surfaces]
    exact hreported.marked d q hq
  complete := by
    intro r p
    rw [heffect.surfaces, heffect.failed, heffect.safe]
    exact hreported.complete r p
  reading := by
    intro t r seen hsync
    rw [heffect.surfaces]
    by_cases ht : t = thread
    · subst ht
      rcases heffect.own with hsame | ⟨q, hnow⟩ | ⟨q, hdone, hnow⟩ | ⟨q, seen', hbefore, hnow⟩ |
        ⟨q, seen', _, hnow⟩
      · exact hreported.reading t r seen (hsame ▸ hsync)
      · rw [hnow] at hsync
        rcases hsync with h | h <;> cases h
      · rw [hnow] at hsync
        rcases hsync with h | h <;> cases h
        exact ⟨rfl, hdone⟩
      · rw [hnow] at hsync
        rcases hsync with h | h <;> cases h
        exact hreported.reading t r seen (.inl hbefore)
      · rw [hnow] at hsync
        rcases hsync with h | h <;> cases h
    · rw [heffect.others t ht] at hsync
      exact hreported.reading t r seen hsync
  returned := by
    intro t r p hsync
    rw [heffect.safe]
    by_cases ht : t = thread
    · subst ht
      rcases heffect.own with hsame | ⟨q, hnow⟩ | ⟨q, _, hnow⟩ | ⟨q, seen, _, hnow⟩ |
        ⟨q, seen, hbefore, hnow⟩
      · exact hreported.returned t r p (hsame ▸ hsync)
      · rw [hnow] at hsync
        cases hsync
      · rw [hnow] at hsync
        cases hsync
      · rw [hnow] at hsync
        cases hsync
      · rw [hnow] at hsync
        injection hsync with hr hseen hstatus
        subst hr
        obtain ⟨hstarted, hdone⟩ := hreported.reading t q seen (.inr hbefore)
        rcases hreported.complete q p (hstarted.trans hseen) hdone with hsafe | ⟨_, hshows⟩
        · exact hsafe
        · exact absurd hstatus hshows.2
    · rw [heffect.others t ht] at hsync
      exact hreported.returned t r p hsync

theorem Reported.step (hreported : Reported s) (hcond : FailsPending s a)
    (hstep : Driver.step s a = some s') : Reported s' := by
  have hexclusive := hreported.exclusive.step hcond.exclusive hstep
  have hpending := fun p hp hnew => hcond.pending s' p hstep hp hnew
  cases step_effect hreported.exclusive.basic.ok hstep with
  | call c on effect =>
      exact hreported.call effect hexclusive (fun r => hcond.unfinished c r on)
        (fun p hp hnew => (hpending p hp hnew).1) (fun r => hcond.unread c r on)
  | thread _ effect => exact hreported.thread effect fun p hp hnew => (hpending p hp hnew).2
  | sync _ thread effect => exact hreported.sync effect

theorem Reported.safe_step (hreported : Reported s) (hcond : FailsPending s a)
    (hstep : Driver.step s a = some s') {p : Picture} (hsafe : s.Safe p) : s'.Safe p := by
  have hpending := fun p hp hnew => hcond.pending s' p hstep hp hnew
  cases step_effect hreported.exclusive.basic.ok hstep with
  | call c on effect =>
      exact hreported.safe_call effect (fun p hp hnew => (hpending p hp hnew).1) hsafe
  | thread _ effect =>
      exact hreported.safe_thread effect (fun p hp hnew => (hpending p hp hnew).2) hsafe
  | sync _ thread effect => exact effect.safe.mpr hsafe

theorem reported_init (config : DriverConfig) (images : ImageRef → BackingImage) :
    Reported (driver config images).init where
  exclusive := exclusive_init config images
  rendered := fun _ _ h => nomatch h
  jobs := by
    intro c p hp
    have hnone : (driver config images).init.outstanding c = [] := rfl
    simp [hnone] at hp
  marked := by
    intro c p hp
    have hnone : (driver config images).init.outstanding c = [] := rfl
    simp [hnone] at hp
  complete := fun _ _ h => nomatch h
  reading := fun _ _ _ h => by rcases h with h | h <;> cases h
  returned := fun _ _ _ h => nomatch h

end Threads

/-! ## Runs with finitely many contexts -/

/-- `FailsPending` for a step at which no picture fails, where only the contexts
below `n` are ever created and no call synchronises. -/
def NoFailureAmong (n : Nat) (s : State) (a : Label) : Prop :=
  ExclusiveAmong n s a ∧ a.synchronises = false ∧
    (∀ c ∈ a.callOn, ∀ r ∈ s.finishes c, (s.surfaces r).resolving = true →
      currentPicture s c ∉ s.failed) ∧
    ∀ s' ∈ step s a, ∀ p ∈ s'.failed, p ∈ s.failed

instance (n : Nat) (s : State) (a : Label) : Decidable (NoFailureAmong n s a) :=
  inferInstanceAs (Decidable (_ ∧ _ ∧ _ ∧ _))

/-- No call synchronises. -/
structure Unsynchronised (n : Nat) (s : State) : Prop where
  below : ContextsBelow n s
  idle : ∀ t, s.syncs t = .idle

section Finite

variable {n : Nat} {s s' : State} {a : Label}

theorem Unsynchronised.step (hunsync : Unsynchronised n s) (hcreates : ∀ c ∈ a.creates, c < n)
    (hlabel : a.synchronises = false) (hstep : Driver.step s a = some s') :
    Unsynchronised n s' where
  below := hunsync.below.step hcreates hstep
  idle := by
    intro t
    cases step_effect hunsync.below.basic.ok hstep with
    | call c _ effect => exact (congrFun effect.frame.syncs t).trans (hunsync.idle t)
    | thread _ effect => exact (congrFun effect.syncs t).trans (hunsync.idle t)
    | sync _ _ _ synchronises => simp [hlabel] at synchronises

theorem Unsynchronised.init (n : Nat) (config : DriverConfig) (images : ImageRef → BackingImage) :
    Unsynchronised n (driver config images).init :=
  ⟨.init n config images, fun _ => rfl⟩

theorem Unsynchronised.unread (hunsync : Unsynchronised n s) (r : SurfaceRef) :
    ¬s.reading r := by
  rintro ⟨t, seen, h⟩
  rw [hunsync.idle t] at h
  rcases h with h | h <;> cases h

theorem Unsynchronised.failsPending (hunsync : Unsynchronised n s)
    (hamong : NoFailureAmong n s a) : FailsPending s a where
  exclusive := hunsync.below.exclusiveUse hamong.1
  unfinished := fun c r hcall hfinishes => hamong.2.2.1 c hcall r hfinishes
  pending := fun s' p hstep hfailed hunfailed =>
    absurd (hamong.2.2.2 s' hstep p hfailed) hunfailed
  unread := fun _ r _ _ => hunsync.unread r

end Finite

/-- A picture that has begun on surface 0. -/
def begunRun : List Label :=
  [.createContext 0 .vld .av1 ⟨0, 0, 8⟩ 0, .createSurface 0 ⟨0, 0, 8⟩ none] ++ beginScript 0 0 8

/-- Its `nvRenderPicture` is refused and clears the flag of the surface. -/
def refusedRun : List Label :=
  begunRun ++ [.renderPicture 0 false] ++ List.replicate 2 (.call 0 .ok)

/-- The picture has nothing to finish and no job, and its surface is pending. -/
def begunScenario :
    (driver {} fun _ => {}).Scenario (NoFailureAmong 1) fun s =>
      s.finishes 0 = none ∧ s.outstanding 0 = [] ∧ (s.surfaces 0).resolving = true ∧
        ExclusiveAmong 1 s (.renderPicture 0 false) where
  labels := begunRun
  enabled := by decide +kernel
  ends := by decide +kernel

/-- After the refusal no further picture fails. -/
def refusalScenario :
    (driver {} fun _ => {}).Scenario (fun _ _ => True) fun s =>
      ((driver {} fun _ => {}).executeIf (NoFailureAmong 1) s
        (List.replicate 2 (.call 0 .ok))).isSome where
  labels := begunRun ++ [.renderPicture 0 false]
  enabled := by decide +kernel
  ends := by decide +kernel

/-- In the end the picture is recorded as failed. -/
def refusedScenario :
    (driver {} fun _ => {}).Scenario (fun _ _ => True) fun s => (⟨0, 1⟩ : Picture) ∈ s.failed where
  labels := refusedRun
  enabled := by decide +kernel
  ends := by decide +kernel

/-- A slice buffer is rejected by its handler, and the call has cleared the flag of
the surface but not yet stored the failure. -/
def rejectedRun : List Label :=
  begunRun ++ [.renderPicture 0 true, .call 0 (.decodeBuffer (.handled 0 .rejected))] ++
    List.replicate 2 (.call 0 .ok)

/-- The surface is reported as decoded then. -/
def rejectedScenario :
    (driver {} fun _ => {}).Scenario (fun _ _ => True) fun s =>
      (⟨0, 1⟩ : Picture) ∈ s.failed ∧ (s.surfaces 0).startedBy = some ⟨0, 1⟩ ∧
        (s.surfaces 0).resolving = false ∧ (s.surfaces 0).completionStatus = .success where
  labels := rejectedRun
  enabled := by decide +kernel
  ends := by decide +kernel

end Driver
end NvidiaVaapi
