import NvidiaVaapi.Driver.DestroyWaits
import NvidiaVaapi.Driver.Exclusive
import NvidiaVaapi.Driver.ImageSections
import NvidiaVaapi.Driver.PictureStates

/-!
# Shared surfaces

A surface is shared once it is exported or backed by imported memory.  Whether
`nvEndPicture` waits for its copy is decided by looking at the surface after the job has
been pushed, while `nvExportSurfaceHandle` waits first and publishes the export last.
-/

namespace NvidiaVaapi
namespace Driver

/-- `nvEndPicture` for the surface is in progress. -/
def State.ending (s : State) (r : SurfaceRef) : Prop :=
  ∃ c, (s.contexts c).phase.course = .ending ∧ (s.contexts c).outputTarget = some r

/-- The two surfaces are one, or have one backing image. -/
def State.sameImage (s : State) (q r : SurfaceRef) : Prop :=
  q = r ∨ ∃ i, surfaceSyncBackingImage s q = some i ∧ surfaceSyncBackingImage s r = some i

/-- No outstanding job writes the backing image of a shared surface while `nvEndPicture`
for the surface is not in progress. -/
def State.sharedFinal (s : State) : Prop :=
  ∀ r, surfaceShared s r = true → ¬s.ending r →
    ∀ c, ∀ p ∈ s.outstanding c, ¬s.sameImage p.job.surface r

/-! ## The condition -/

/-- `nvEndPicture` has pushed its job, and has still to look whether the surface is
shared or to wait for it. -/
def Phase.watching : Phase → Bool
  | .endShared _ => true
  | .endWaitSurface => true
  | _ => false

/-- The call on the context watches the surface. -/
def State.watches (s : State) (c : ContextRef) (r : SurfaceRef) : Prop :=
  (s.contexts c).phase.watching = true ∧ (s.contexts c).outputTarget = some r

/-- The job that the next section of the call on the context pushes. -/
def Phase.pushes : Phase → Option ResolveJob
  | .endPushJob job => some job
  | _ => none

/-- No outstanding job of another surface than `r` writes the image. -/
def State.unwritten (s : State) (r : SurfaceRef) (i : ImageRef) : Prop :=
  ∀ c, ∀ p ∈ s.outstanding c, p.job.surface ≠ r →
    surfaceSyncBackingImage s p.job.surface ≠ some i

/-- No other surface than `r` that is shared has the image. -/
def State.unshared (s : State) (r : SurfaceRef) (i : ImageRef) : Prop :=
  ∀ q, q ≠ r → surfaceShared s q = true → surfaceSyncBackingImage s q ≠ some i

/-- A surface is used by one picture at a time, an export is published while no job of
the surface is outstanding that `nvEndPicture` no longer watches, and an image that a
shared surface has is written by the jobs of that surface only. -/
structure SharedQuietly (s : State) (a : Label) : Prop where
  exclusive : ExclusiveUse s a
  exported : ∀ thread r, a = .markExported thread r →
    (∀ c, ∀ p ∈ s.outstanding c, p.job.surface = r → s.watches c r) ∧
      ∀ i ∈ surfaceSyncBackingImage s r, s.unwritten r i
  created : ∀ r format image, a = .createSurface r format (some image) →
    s.unwritten r (s.imaging.syncOf image)
  realised : ∀ r image, a = .realiseSurface r image →
    (surfaceShared s r = true → s.unwritten r (s.imaging.syncOf image)) ∧
      ((∃ c, ∃ p ∈ s.outstanding c, p.job.surface = r) →
        s.unshared r (s.imaging.syncOf image))
  pushed : ∀ c ∈ a.callOn, ∀ job ∈ (s.contexts c).phase.pushes,
    ∀ i ∈ surfaceSyncBackingImage s job.surface, s.unshared job.surface i

/-! ## The invariant -/

/-- What quiet sharing guarantees. -/
structure SharedWatched (s : State) : Prop where
  exclusive : Exclusive s
  coursed : s.coursed
  watched : ∀ c, ∀ p ∈ s.outstanding c, surfaceShared s p.job.surface = true →
    s.watches c p.job.surface
  apart : ∀ c, ∀ p ∈ s.outstanding c, ∀ i ∈ surfaceSyncBackingImage s p.job.surface,
    s.unshared p.job.surface i

theorem course_of_watching {phase : Phase} (hwatching : phase.watching = true) :
    phase.course = .ending := by
  cases phase <;> first | rfl | cases hwatching

theorem stage_of_ending {phase : Phase} (hcourse : phase.course = .ending) :
    phase.stage ≠ .between := by
  intro hstage
  cases phase <;> first | (cases hstage; done) | cases hcourse

theorem pushes_of_watching {phase : Phase} (hwatching : phase.watching = true) :
    phase.pushes = none := by
  cases phase <;> first | rfl | cases hwatching

theorem SharedWatched.sharedFinal {s : State} (hwatched : SharedWatched s) : s.sharedFinal := by
  intro r hshared hended c p hp hsame
  by_cases hr : p.job.surface = r
  · subst hr
    obtain ⟨hwatching, htarget⟩ := hwatched.watched c p hp hshared
    exact hended ⟨c, course_of_watching hwatching, htarget⟩
  · rcases hsame with hr' | ⟨i, hi, hri⟩
    · exact hr hr'
    · exact hwatched.apart c p hp i hi r (Ne.symm hr) hshared hri

section Steps

variable {s s' : State} {c : ContextRef} {a : Label}

/-! ## What a step does to shared surfaces -/

/-- A surface that a step makes shared is created or exported by it. -/
theorem ImageEffect.shared (heffect : ImageEffect s a s') {r : SurfaceRef}
    (hshared : surfaceShared s' r = true) :
    surfaceShared s r = true ∨
      (s.surfaces r = {} ∧ ∃ format image, a = .createSurface r format image) ∨
      ∃ thread, a = .markExported thread r := by
  rw [surfaceShared_imaging] at hshared ⊢
  cases heffect with
  | mark imaging =>
      rw [imaging, marked_shared] at hshared
      exact .inl hshared
  | create q format image on absent imaging =>
      by_cases hr : r = q
      · subst hr
        exact .inr (.inl ⟨absent, format, image, on⟩)
      · rw [imaging] at hshared
        simp only [Imaging.shared, Function.update_of_ne hr] at hshared
        exact .inl hshared
  | realise q image on unrealised own imaging =>
      by_cases hr : r = q
      · subst hr
        rw [imaging] at hshared
        have hown : (s.imaging.images image).isExternalBuffer = false := own
        simp only [Imaging.shared, Function.update_self, hown, Bool.or_false] at hshared
        exact .inl (by simp [Imaging.shared, hshared])
      · rw [imaging] at hshared
        simp only [Imaging.shared, Function.update_of_ne hr] at hshared
        exact .inl hshared
  | «export» thread q on imaging =>
      by_cases hr : r = q
      · exact .inr (.inr ⟨thread, hr ▸ on⟩)
      · rw [imaging] at hshared
        simp only [Imaging.shared, Function.update_of_ne hr] at hshared
        exact .inl hshared
  | free q rest _ _ imaging =>
      rw [imaging] at hshared
      by_cases hr : r = q
      · subst hr
        simp only [Imaging.shared, Function.update_self, Bool.or_false] at hshared
        exact .inl (by simp [Imaging.shared, hshared])
      · simp only [Imaging.shared, Function.update_of_ne hr] at hshared
        exact .inl hshared

/-- An image that a step gives to a surface comes with its creation or realisation. -/
theorem ImageEffect.syncImage (heffect : ImageEffect s a s') {r : SurfaceRef} {i : ImageRef}
    (hsync : surfaceSyncBackingImage s' r = some i) :
    surfaceSyncBackingImage s r = some i ∨ ∃ image, i = s.imaging.syncOf image ∧
      ((∃ format, a = .createSurface r format (some image) ∧ s.surfaces r = {}) ∨
        a = .realiseSurface r image) := by
  rw [surfaceSyncBackingImage_imaging] at hsync ⊢
  cases heffect with
  | mark imaging =>
      rw [imaging, marked_syncImage] at hsync
      exact .inl hsync
  | create q format image on absent imaging =>
      rw [imaging] at hsync
      by_cases hr : r = q
      · subst hr
        cases image with
        | none => simp [Imaging.syncImage] at hsync
        | some image =>
            have hi : s.imaging.syncOf image = i := by
              simpa [Imaging.syncImage, Imaging.syncOf] using hsync
            exact .inr ⟨image, hi.symm, .inl ⟨format, on, absent⟩⟩
      · refine .inl ?_
        simpa [Imaging.syncImage, Imaging.syncOf, Function.update_of_ne hr] using hsync
  | realise q image on unrealised own imaging =>
      rw [imaging] at hsync
      by_cases hr : r = q
      · subst hr
        have hi : s.imaging.syncOf image = i := by
          simpa [Imaging.syncImage, Imaging.syncOf] using hsync
        exact .inr ⟨image, hi.symm, .inr on⟩
      · refine .inl ?_
        simpa [Imaging.syncImage, Imaging.syncOf, Function.update_of_ne hr] using hsync
  | «export» thread q on imaging =>
      rw [imaging] at hsync
      exact .inl hsync
  | free q rest _ _ imaging =>
      rw [imaging] at hsync
      by_cases hr : r = q
      · subst hr
        simp [Imaging.syncImage] at hsync
      · refine .inl ?_
        simpa [Imaging.syncImage, Imaging.syncOf, Function.update_of_ne hr] using hsync

/-! ## What a step does to the jobs -/

/-- A call in progress goes on by `callStep` only. -/
theorem callStep_of_open (hcall : a.callOn = some c) (hopen : (s.contexts c).phase ≠ .idle)
    (hstep : step s a = some s') :
    ∃ outcome, a = .call c outcome ∧ callStep s c outcome = some s' := by
  have hadmitted : admitted s c = false := by simp [admitted, hopen]
  cases a with
  | beginPicture d r =>
      cases hcall
      change nvBeginPicture s c r = some s' at hstep
      simp [nvBeginPicture, hadmitted] at hstep
  | renderPicture d argumentsValid =>
      cases hcall
      change nvRenderPicture s c argumentsValid = some s' at hstep
      simp [nvRenderPicture, hadmitted] at hstep
  | endPicture d =>
      cases hcall
      change nvEndPicture s c = some s' at hstep
      simp [nvEndPicture, hadmitted] at hstep
  | call d outcome =>
      cases hcall
      exact ⟨outcome, rfl, hstep⟩
  | _ => cases hcall

/-- The section that pushes a job goes on to look whether its surface is shared. -/
theorem callStep_pushes {outcome : Outcome} {job : ResolveJob}
    (hstage : (s.contexts c).control.stage = .submitting job)
    (hpushed : (s'.contexts c).control.stage = .submitted)
    (hstep : callStep s c outcome = some s') :
    (s.contexts c).phase.pushes = some job ∧ (s'.contexts c).phase.watching = true ∧
      (s'.contexts c).outputTarget = (s.contexts c).outputTarget := by
  change (s.contexts c).phase.stage = _ at hstage
  change (s'.contexts c).phase.stage = _ at hpushed
  unfold callStep at hstep
  cases hphase : (s.contexts c).phase <;> rw [hphase] at hstep hstage <;> cases hstage
  · -- `activeReferenceMask` is updated before the push
    change endActiveMask s c job = some s' at hstep
    unfold endActiveMask at hstep
    simp only at hstep
    split at hstep <;> cases hstep <;> simp [goto] at hpushed
  · change endPushJob s c job = some s' at hstep
    unfold endPushJob at hstep
    simp only at hstep
    split at hstep
    · cases hstep
      simp [endFailure, Stage.after] at hpushed
    · split at hstep <;> cases hstep
      exact ⟨rfl, by simp [Phase.watching], by simp [NVContext.outputTarget]⟩

/-- The call that watches a pending shared surface goes on watching it. -/
theorem callStep_watches {outcome : Outcome} {r : SurfaceRef} (hwatches : s.watches c r)
    (hshared : surfaceShared s r = true) (hpending : (s.surfaces r).resolving = true)
    (hstep : callStep s c outcome = some s') : s'.watches c r := by
  obtain ⟨hwatching, htarget⟩ := hwatches
  unfold callStep at hstep
  cases hphase : (s.contexts c).phase <;> rw [hphase] at hstep hwatching <;> cases hwatching
  case endShared status =>
    change endShared s c status = some s' at hstep
    unfold endShared at hstep
    rw [htarget] at hstep
    simp only [hshared, if_true] at hstep
    cases hstep
    exact ⟨by simp [goto, Phase.watching], by simpa [goto, NVContext.outputTarget] using htarget⟩
  case endWaitSurface =>
    change endWaitSurface s c = some s' at hstep
    unfold endWaitSurface at hstep
    rw [htarget] at hstep
    simp [surfaceResolved, hpending] at hstep

theorem phase_ne_idle_of_watches {r : SurfaceRef} (hwatches : s.watches c r) :
    (s.contexts c).phase ≠ .idle := by
  intro hidle
  have hwatching := hwatches.1
  rw [hidle] at hwatching
  cases hwatching

/-- A step of another thread keeps the watch. -/
theorem watches_of_other {r : SurfaceRef} (hwatches : s.watches c r)
    (hkept : CallKept s s' c) : s'.watches c r :=
  ⟨hkept.phase ▸ hwatches.1, hkept.outputTarget.trans hwatches.2⟩

/-- The job that a section of the call pushes is watched by it. -/
theorem SharedWatched.job_pushed (hwatched : SharedWatched s) (hcall : a.callOn = some c)
    (hstep : Driver.step s a = some s') {job : ResolveJob}
    (hstage : (s.contexts c).control.stage = .submitting job)
    (hpushed : (s'.contexts c).control.stage = .submitted) :
    (s.contexts c).phase.pushes = some job ∧ s'.watches c job.surface := by
  have hopen : (s.contexts c).phase ≠ .idle := by
    intro hidle
    change (s.contexts c).phase.stage = _ at hstage
    rw [hidle] at hstage
    cases hstage
  obtain ⟨outcome, _, hcallStep⟩ := callStep_of_open hcall hopen hstep
  obtain ⟨hpushes, hwatching, htarget⟩ := callStep_pushes hstage hpushed hcallStep
  have hok := hwatched.exclusive.basic.ok c
  rw [hstage] at hok
  have houtput : (s.contexts c).outputTarget = some job.surface := hok.2.2.2.1
  exact ⟨hpushes, hwatching, htarget.trans houtput⟩

/-- A job after a step is one from before, which stays watched, or one that the step
pushes, which is watched. -/
theorem SharedWatched.job_step (hwatched : SharedWatched s) (hstep : Driver.step s a = some s')
    {p : Pending} (hp : p ∈ s'.outstanding c) :
    (∃ q ∈ s.outstanding c, q.job = p.job ∧
        ((a.callOn = some c → surfaceShared s p.job.surface = true) →
          s.watches c p.job.surface → s'.watches c p.job.surface)) ∨
      (a.callOn = some c ∧ (s.contexts c).phase.pushes = some p.job ∧
        s'.watches c p.job.surface) := by
  have hbasic := hwatched.exclusive.basic
  cases step_effect hbasic.ok hstep with
  | call d on effect =>
      by_cases hc : c = d
      · subst hc
        rcases effect.outstanding.2 with hsame | ⟨job, hstage, ⟨_, hpushed⟩, _, _, hperm⟩
        · rw [hsame] at hp
          refine .inl ⟨p, hp, rfl, fun hshared hwatches => ?_⟩
          obtain ⟨outcome, _, hcallStep⟩ :=
            callStep_of_open on (phase_ne_idle_of_watches hwatches) hstep
          exact callStep_watches hwatches (hshared on) (hwatched.exclusive.jobs c p hp).1 hcallStep
        · obtain ⟨hpushes, hnow⟩ := hwatched.job_pushed on hstep hstage hpushed
          rcases List.mem_cons.mp (hperm.mem_iff.mp hp) with rfl | hbefore
          · exact .inr ⟨on, hpushes, hnow⟩
          · refine .inl ⟨p, hbefore, rfl, fun _ hwatches => ?_⟩
            -- the call cannot push one job while it watches another
            rw [pushes_of_watching hwatches.1] at hpushes
            cases hpushes
      · rw [effect.outstanding.1 c hc] at hp
        refine .inl ⟨p, hp, rfl, fun _ hwatches => watches_of_other hwatches ?_⟩
        refine callKept_step hbasic hwatched.coursed ?_ ?_ hstep
        · rw [on]
          exact fun h => hc (Option.some.inj h).symm
        · simp [creates_of_callOn on]
  | thread on effect =>
      obtain ⟨q, hq, hjob⟩ := effect.outstanding.job hp
      refine .inl ⟨q, hq, hjob, fun _ hwatches => watches_of_other hwatches ?_⟩
      refine callKept_step hbasic hwatched.coursed (by simp [on]) (fun hcreates => ?_) hstep
      cases a with
      | createContext d entrypoint codec format renderTargets =>
          cases hcreates
          simp [(hbasic.absent c (absent_of_create hstep)).2] at hq
      | _ => cases hcreates
  | sync _ thread effect =>
      rw [effect.outstanding] at hp
      refine .inl ⟨p, hp, rfl, fun _ hwatches => ?_⟩
      unfold State.watches
      rw [effect.contexts]
      exact hwatches

/-! ## The invariant -/

theorem SharedWatched.step (hwatched : SharedWatched s) (hcond : SharedQuietly s a)
    (hstep : Driver.step s a = some s') : SharedWatched s' where
  exclusive := hwatched.exclusive.step hcond.exclusive hstep
  coursed := coursed_step hwatched.coursed hstep
  watched := by
    intro c p hp hshared
    rcases hwatched.job_step hstep hp with ⟨q, hq, hjob, hkept⟩ | ⟨_, _, hnow⟩
    · rw [← hjob] at hshared hkept ⊢
      rcases (step_imaging hstep).shared hshared with hbefore | ⟨habsent, _⟩ | ⟨thread, rfl⟩
      · exact hkept (fun _ => hbefore) (hwatched.watched c q hq hbefore)
      · -- a surface that is only now created has no job
        have hpending := (hwatched.exclusive.jobs c q hq).1
        simp [habsent] at hpending
      · exact hkept nofun ((hcond.exported thread _ rfl).1 c q hq rfl)
    · exact hnow
  apart := by
    intro c p hp i hi r hr hshared hri
    have himages := step_imaging hstep
    rcases hwatched.job_step hstep hp with ⟨q, hq, hjob, _⟩ | ⟨hcall, hpushes, _⟩
    · rw [← hjob] at hi hr
      have hpending := (hwatched.exclusive.jobs c q hq).1
      rcases himages.syncImage hi with hi | ⟨image, rfl, ⟨_, _, habsent⟩ | rfl⟩
      · rcases himages.syncImage hri with hri | ⟨image, rfl, ⟨format, rfl, _⟩ | rfl⟩
        · rcases himages.shared hshared with hshared | ⟨habsent, _⟩ | ⟨thread, rfl⟩
          · exact hwatched.apart c q hq i hi r hr hshared hri
          · simp [surfaceSyncBackingImage, habsent] at hri
          · exact (hcond.exported thread r rfl).2 i hri c q hq (Ne.symm hr) hi
        · exact hcond.created r format image rfl c q hq (Ne.symm hr) hi
        · rcases himages.shared hshared with hshared | ⟨_, _, _, hcreates⟩ | ⟨_, hexports⟩
          · exact (hcond.realised r image rfl).1 hshared c q hq (Ne.symm hr) hi
          · cases hcreates
          · cases hexports
      · simp [habsent] at hpending
      · rcases himages.syncImage hri with hri | ⟨_, _, ⟨_, hcreates, _⟩ | hrealises⟩
        · rcases himages.shared hshared with hshared | ⟨_, _, _, hcreates⟩ | ⟨_, hexports⟩
          · exact (hcond.realised _ image rfl).2 ⟨c, q, hq, rfl⟩ r hr hshared hri
          · cases hcreates
          · cases hexports
        · cases hcreates
        · cases hrealises
          exact hr rfl
    · -- a call gives no surface an image and exports none
      rcases himages.syncImage hi with hi | ⟨_, _, ⟨_, rfl, _⟩ | rfl⟩
      · rcases himages.syncImage hri with hri | ⟨_, _, ⟨_, rfl, _⟩ | rfl⟩
        · rcases himages.shared hshared with hshared | ⟨_, _, _, rfl⟩ | ⟨_, rfl⟩
          · exact hcond.pushed c hcall p.job hpushes i hi r hr hshared hri
          · cases hcall
          · cases hcall
        · cases hcall
        · cases hcall
      · cases hcall
      · cases hcall

theorem sharedWatched_init (config : DriverConfig) (images : ImageRef → BackingImage) :
    SharedWatched (driver config images).init where
  exclusive := exclusive_init config images
  coursed := fun _ hopen => absurd rfl hopen
  watched := fun _ _ hp => nomatch hp
  apart := fun _ _ hp => nomatch hp

end Steps

/-! ## Runs with finitely many contexts and surfaces -/

/-- `SharedQuietly` where only contexts below `n` and surfaces below `m` are created and
no surface is exported or realised. -/
def SharedAmong (n m : Nat) (s : State) (a : Label) : Prop :=
  ExclusiveAmong n s a ∧
    (∀ c ∈ a.callOn, ∀ job ∈ (s.contexts c).phase.pushes,
      ∀ i ∈ surfaceSyncBackingImage s job.surface, ∀ q < m, q ≠ job.surface →
        surfaceShared s q = true → surfaceSyncBackingImage s q ≠ some i) ∧
    match a with
    | .createSurface r _ image => r < m ∧ ∀ i ∈ image, ∀ c < n, ∀ p ∈ s.outstanding c,
        surfaceSyncBackingImage s p.job.surface ≠ some (s.imaging.syncOf i)
    | .realiseSurface .. => False
    | .markExported .. => False
    | _ => True

instance (n m : Nat) (s : State) : (a : Label) → Decidable (SharedAmong n m s a) := by
  unfold SharedAmong
  rintro ⟨⟩ <;> infer_instance

/-- No context from `n` on and no surface from `m` on has been created. -/
structure SharedBelow (n m : Nat) (s : State) : Prop where
  contexts : ContextsBelow n s
  images : ∀ r, m ≤ r → (s.surfaces r).backingImage = none

section Finite

variable {n m : Nat} {s s' : State} {a : Label}

theorem SharedBelow.step (hbelow : SharedBelow n m s) (hcreates : ∀ c ∈ a.creates, c < n)
    (hcreated : ∀ r format image, a = .createSurface r format image → r < m)
    (hrealised : ∀ r image, a = .realiseSurface r image → r < m)
    (hstep : Driver.step s a = some s') : SharedBelow n m s' where
  contexts := hbelow.contexts.step hcreates hstep
  images := by
    intro r hr
    have hbefore : s.imaging.backingImage r = none := hbelow.images r hr
    have hne : ∀ {q}, q < m → r ≠ q := by
      rintro q hq rfl
      exact Nat.not_lt.mpr hr hq
    change s'.imaging.backingImage r = none
    cases step_imaging hstep with
    | mark imaging =>
        rw [imaging, marked_backingImage]
        exact hbefore
    | create q format image on absent imaging =>
        rw [imaging]
        simpa [Function.update_of_ne (hne (hcreated q format image on))] using hbefore
    | realise q image on _ _ imaging =>
        rw [imaging]
        simpa [Function.update_of_ne (hne (hrealised q image on))] using hbefore
    | «export» thread q on imaging =>
        rw [imaging]
        exact hbefore
    | free q rest _ _ imaging =>
        rw [imaging]
        by_cases hq : r = q
        · simp [hq]
        · simpa [Function.update_of_ne hq] using hbefore

theorem SharedBelow.step_among (hbelow : SharedBelow n m s) (hamong : SharedAmong n m s a)
    (hstep : Driver.step s a = some s') : SharedBelow n m s' := by
  apply hbelow.step hamong.1.1
  · rintro r format image rfl
    exact hamong.2.2.1
  · rintro r image rfl
    exact hamong.2.2.elim
  · exact hstep

theorem SharedBelow.outstanding (hbelow : SharedBelow n m s) {c : ContextRef} {p : Pending}
    (hp : p ∈ s.outstanding c) : c < n := by
  by_contra hc
  have habsent := hbelow.contexts.absent c (Nat.not_lt.mp hc)
  simp [(hbelow.contexts.basic.absent c habsent).2] at hp

theorem SharedBelow.sharedQuietly (hbelow : SharedBelow n m s) (hamong : SharedAmong n m s a) :
    SharedQuietly s a where
  exclusive := hbelow.contexts.exclusiveUse hamong.1
  exported := by
    rintro thread r rfl
    exact hamong.2.2.elim
  created := by
    rintro r format image rfl c p hp _
    exact hamong.2.2.2 image rfl c (hbelow.outstanding hp) p hp
  realised := by
    rintro r image rfl
    exact hamong.2.2.elim
  pushed := by
    intro c hcall job hpushes i hi q hq hshared hqi
    by_cases hqm : q < m
    · exact hamong.2.1 c hcall job hpushes i hi q hqm hq hshared hqi
    · simp [surfaceSyncBackingImage, hbelow.images q (Nat.not_lt.mp hqm)] at hqi

end Finite

/-- A picture on surface 0, which is imported, and one on surface 1, which is private;
the worker resolves the first one while its `nvEndPicture` waits. -/
def importedRun : List Label :=
  [.createContext 0 .vld .av1 ⟨0, 0, 8⟩ 0, .createSurface 0 ⟨0, 0, 8⟩ (some 0),
    .createSurface 1 ⟨0, 0, 8⟩ none] ++
    beginScript 0 0 8 ++ renderScript 0 plainParameters 9 1 ++ endScript 0 8 ++
    List.replicate 9 (.worker 0 .ok) ++ List.replicate 4 (.call 0 .ok) ++
    beginScript 0 1 8 ++ renderScript 0 plainParameters 9 1 ++ endScript 0 9

/-- Image 0 is imported memory. -/
def importedImages : ImageRef → BackingImage :=
  fun i => { isExternalBuffer := i = 0 }

/-- At its end surface 0 is shared, no call is in progress, and the job of surface 1 is
in the queue. -/
def importedScenario :
    (driver {} importedImages).Scenario (SharedAmong 1 2) fun s =>
      surfaceShared s 0 = true ∧ (s.contexts 0).phase = .idle ∧
        (s.outstanding 0).map (fun p => p.job.surface) = [1] where
  labels := importedRun
  enabled := by decide +kernel
  ends := by decide +kernel

/-- The wait of an export of surface 0 is over before a picture on the surface begins,
and the export is published after `nvEndPicture` has returned. -/
def lateExportRun : List Label :=
  [.createContext 0 .vld .av1 ⟨0, 0, 8⟩ 0, .createSurface 0 ⟨0, 0, 8⟩ none,
    .syncSurface 0 0, .sync 0, .sync 0, .sync 0, .realiseSurface 0 0] ++
    beginScript 0 0 8 ++ renderScript 0 plainParameters 9 1 ++ endScript 0 9 ++
    [.markExported 0 0]

/-- The surface is exported with its job in the queue. -/
def lateExportScenario :
    (driver {} fun _ => {}).Scenario (fun _ a => ∀ c ∈ a.creates, c < 1) fun s =>
      surfaceShared s 0 = true ∧ (s.contexts 0).phase = .idle ∧
        (s.outstanding 0).map (fun p => p.job.surface) = [0] where
  labels := lateExportRun
  enabled := by decide +kernel
  ends := by decide +kernel

end Driver
end NvidiaVaapi
