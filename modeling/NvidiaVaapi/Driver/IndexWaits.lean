import NvidiaVaapi.Driver.OrphanFlags
import NvidiaVaapi.Driver.PictureStates
import Mathlib.Tactic.IntervalCases

/-!
# What an index assignment waits for

`assignSurfacePictureIndex` holds the `surfaceCreationMutex` of its context while it
waits for the flag of the surface whose index it wants to recycle.
`releaseSurfacePictureIndex` needs that mutex, and holds `objectCreationMutex` while
it waits for it; every look-up in the object table needs `objectCreationMutex`.
-/

namespace NvidiaVaapi
namespace Driver

/-! ## Blocked threads -/

/-- The surface whose flag the index assignment in progress waits for. -/
def Phase.waitsFor : Phase → Option SurfaceRef
  | .assignWaitSurface _ _ owner => some owner
  | _ => none

/-- The surface whose index the next section of the call on the context releases. -/
def State.releases (s : State) (c : ContextRef) : Option SurfaceRef :=
  match (s.contexts c).phase with
  | .beginRelease r =>
    if (s.surfaces r).context ≠ none ∧ (s.surfaces r).context ≠ some c then some r else none
  | .blitRelease _ => (s.contexts c).renderTarget
  | _ => none

/-- The call on `d` waits in `releaseSurfacePictureIndex` for the
`surfaceCreationMutex` that the index assignment of `c` holds. -/
def State.blockedOn (s : State) (d c : ContextRef) : Prop :=
  ∃ r ∈ s.releases d, (s.surfaces r).context = some c ∧ releaseSurfacePictureIndex s r = none

/-- The next section of the call, or the entry of the next call, looks something up in
the object table. -/
def Phase.looksUp : Phase → Bool
  | .idle => true
  | .beginRelease _ => true
  | .renderLoop => true
  | .renderLookup .. => true
  | .blitLoop _ => true
  | .blitRelease _ => true
  | _ => false

/-- The call on `d` is blocked on the `surfaceCreationMutex` of `c`, directly or
through `objectCreationMutex`, which a directly blocked call holds. -/
def State.stuckOn (s : State) (d c : ContextRef) : Prop :=
  s.blockedOn d c ∨ ((s.contexts d).phase.looksUp = true ∧ ∃ e, s.blockedOn e c)

/-- The index assignment of `c` waits for a surface whose pending generation only a
call can end that is blocked on the mutex held meanwhile. -/
def State.deadlocked (s : State) (c : ContextRef) : Prop :=
  ∃ owner ∈ (s.contexts c).phase.waitsFor, (s.surfaces owner).resolving = true ∧
    ¬s.submitted owner ∧ ∃ p, s.owedBy owner p ∧ s.stuckOn p.context c

/-! ## The condition -/

/-- `nvEndPicture`, or a failing `nvBeginPicture`, is ending the picture. -/
def Phase.closing (phase : Phase) : Prop :=
  phase.course = .ending ∨ ∃ status, phase.course = .resetting status

/-- The surface that the next section of the call on the context turns to wait for:
every index it could recycle is busy, and this surface owns the one it would take. -/
def State.turnsTo (s : State) (c : ContextRef) : Option SurfaceRef :=
  let ctx := s.contexts c
  match ctx.phase with
  | .assignScan _ limit i busyMask =>
    if i < limit then none
    else if (nvdSelectPictureIndex ctx.currentPictureId limit ctx.activeReferenceMask busyMask
        ctx.pictureIndexRecycleCursor).isSome then none
    else (nvdSelectPictureIndex ctx.currentPictureId limit ctx.activeReferenceMask 0#32
      ctx.pictureIndexRecycleCursor).bind ctx.pictureIndexOwners
  | _ => none

/-- The surface whose generation the next section of `nvBeginPicture` starts. -/
def Phase.starts : Phase → Option SurfaceRef
  | .beginStart r => some r
  | _ => none

/-- An index assignment turns to wait for a pending surface only after the picture
that started its generation has reached its end, and no `nvBeginPicture` starts a
generation of a surface that an index assignment waits for. -/
def WaitsForSubmitted (s : State) (a : Label) : Prop :=
  ∀ c ∈ a.callOn,
    (∀ owner ∈ s.turnsTo c, (s.surfaces owner).resolving = true →
      ∀ p ∈ (s.surfaces owner).startedBy, p = currentPicture s p.context →
        (s.contexts p.context).pictureState = .idle ∨ (s.contexts p.context).phase.closing) ∧
    ∀ r ∈ (s.contexts c).phase.starts, ∀ d, (s.contexts d).phase.waitsFor ≠ some r

/-- The invariant behind the index assignments. -/
structure IndexWaits (s : State) : Prop where
  answered : Answered s
  coursed : s.coursed
  waits : ∀ c, ∀ owner ∈ (s.contexts c).phase.waitsFor, (s.surfaces owner).resolving = true →
    s.submitted owner ∨ ∃ p, s.owedBy owner p ∧ (s.contexts p.context).phase.closing

section Sections

variable {s s' : State} {c d : ContextRef} {a : Label}

theorem waitsFor_setContext (s : State) (c : ContextRef) (ctx : NVContext) :
    ((s.setContext c ctx).contexts c).phase.waitsFor = ctx.phase.waitsFor := by
  simp

theorem waitsFor_goto (s : State) (c : ContextRef) (phase : Phase) :
    ((goto s c phase).contexts c).phase.waitsFor = phase.waitsFor :=
  waitsFor_setContext s c _

theorem waitsFor_after (todo : List ClearSection) (status : VAStatus) :
    (Phase.after todo (.reset status)).waitsFor = none := by
  cases todo <;> rfl

theorem waitsFor_beginFailure (s : State) (c : ContextRef) (ctx : NVContext)
    (status : VAStatus) : ((goto s c (beginFailure ctx status)).contexts c).phase.waitsFor = none :=
  (waitsFor_goto s c _).trans (waitsFor_after _ _)

theorem waitsFor_assignScan {r : SurfaceRef} {limit i : Nat} {busyMask : BitVec 32}
    (hphase : (s.contexts c).phase = .assignScan r limit i busyMask)
    (hstep : assignScan s c r limit i busyMask = some s') {owner : SurfaceRef}
    (hwaits : owner ∈ (s'.contexts c).phase.waitsFor) : owner ∈ s.turnsTo c := by
  unfold assignScan at hstep
  simp only at hstep
  split at hstep
  · split at hstep <;> cases hstep <;> rw [waitsFor_goto] at hwaits <;> cases hwaits
  · rename_i hlimit
    split at hstep
    · cases hstep
      rw [waitsFor_goto] at hwaits
      cases hwaits
    · rename_i hnone
      split at hstep
      · cases hstep
        rw [waitsFor_beginFailure] at hwaits
        cases hwaits
      · rename_i found hfound
        cases hstep
        rw [waitsFor_goto] at hwaits
        cases hwaits
        unfold State.turnsTo
        simp only [hphase, hlimit, if_false, hnone, Option.isSome_none, Bool.false_eq_true]
        exact hfound

theorem waitsFor_beginAssign {r : SurfaceRef} (hstep : beginAssign s c r = some s') :
    (s'.contexts c).phase.waitsFor = none := by
  unfold beginAssign at hstep
  split at hstep
  · cases hstep
    exact waitsFor_beginFailure ..
  · simp only at hstep
    split at hstep
    · cases hstep
      exact waitsFor_goto ..
    · split at hstep
      · cases hstep
        exact waitsFor_beginFailure ..
      · split at hstep
        · cases hstep
          exact waitsFor_goto ..
        · split at hstep
          · split at hstep <;> cases hstep
            · exact waitsFor_beginFailure ..
            · exact waitsFor_goto ..
          · cases hstep
            exact waitsFor_goto ..

/-- A call that waits in its index assignment has just turned to that. -/
theorem turnsTo_of_waitsFor (hok : (s.contexts c).control.okAt (s.contexts c).control.stage)
    (hcoursed : s.coursed) {outcome : Outcome} (hstep : callStep s c outcome = some s')
    {owner : SurfaceRef} (hwaits : owner ∈ (s'.contexts c).phase.waitsFor) :
    owner ∈ s.turnsTo c := by
  have hafter : (s'.contexts c).phase.course = .beginning := by
    cases hphase : (s'.contexts c).phase <;> rw [hphase] at hwaits <;>
      first | rfl | cases hwaits
  have hopen : (s.contexts c).phase ≠ .idle := by
    intro hidle
    unfold callStep at hstep
    rw [hidle] at hstep
    cases hstep
  have hbefore : (s.contexts c).phase.course = .beginning := by
    cases (callStep_move (hcoursed c hopen) hstep).own with
    | within course => exact course ▸ hafter
    | submit _ course' => simp [course'] at hafter
    | begun course => exact course
    | refused _ course => exact course
    | rendered _ course' => simp [course'] at hafter
    | failed _ _ course' => simp [course'] at hafter
    | ended _ _ course' => simp [course'] at hafter
    | returned _ _ phase => simp [phase] at hafter
    | reset _ _ phase => simp [phase] at hafter
  unfold callStep at hstep
  cases hphase : (s.contexts c).phase <;> rw [hphase] at hstep hbefore <;>
    simp only at hstep <;> try cases hbefore
  case clearing todo next =>
    -- a clearing list is not followed by a section of `nvBeginPicture`
    exfalso
    have hstage : (s.contexts c).control.stage = .clearing todo next.stage := by
      simp [NVContext.control, hphase]
    rw [hstage] at hok
    have hnext := hok.2.2
    cases next <;> first | exact hnext | cases hbefore
  case assignScan r limit i busyMask => exact waitsFor_assignScan hphase hstep hwaits
  case beginWaitSurface r =>
    unfold beginWaitSurface at hstep
    split at hstep <;> cases hstep
    rw [waitsFor_goto] at hwaits
    cases hwaits
  case beginWaitImage r =>
    unfold beginWaitImage at hstep
    split at hstep <;> cases hstep
    rw [waitsFor_goto] at hwaits
    split at hwaits <;> cases hwaits
  case beginRelease r =>
    unfold beginRelease at hstep
    split at hstep
    · obtain ⟨t, _, rfl⟩ := Option.map_eq_some_iff.mp hstep
      rw [waitsFor_goto] at hwaits
      cases hwaits
    · cases hstep
      rw [waitsFor_goto] at hwaits
      cases hwaits
  case beginAssign r =>
    rw [waitsFor_beginAssign hstep] at hwaits
    cases hwaits
  case assignWaitSurface r limit found =>
    unfold assignWaitSurface at hstep
    split at hstep <;> cases hstep
    rw [waitsFor_goto] at hwaits
    cases hwaits
  case assignWaitImage r limit found =>
    unfold assignWaitImage at hstep
    split at hstep <;> cases hstep
    rw [waitsFor_goto] at hwaits
    cases hwaits
  case beginStartImage r =>
    cases hstep
    rw [waitsFor_goto] at hwaits
    cases hwaits
  case beginStart r =>
    unfold beginStart at hstep
    simp only at hstep
    split at hstep <;> cases hstep <;> rw [waitsFor_setContext] at hwaits <;> cases hwaits
  case beginInit r =>
    cases hstep
    rw [waitsFor_setContext] at hwaits
    cases hwaits

theorem course_of_waitsFor {phase : Phase} {owner : SurfaceRef}
    (hwaits : owner ∈ phase.waitsFor) : phase.course = .beginning := by
  cases phase <;> first | rfl | cases hwaits

/-- A call that has just entered waits for no owner. -/
theorem waitsFor_entry (hcall : a.callOn = some c)
    (hentry : ∀ outcome, a ≠ .call c outcome) (hstep : Driver.step s a = some s')
    (owner : SurfaceRef) : owner ∉ (s'.contexts c).phase.waitsFor := by
  intro hwaits
  have hcourse := course_of_waitsFor hwaits
  cases a with
  | beginPicture d r =>
      cases hcall
      change nvBeginPicture s c r = some s' at hstep
      unfold nvBeginPicture at hstep
      simp only at hstep
      split at hstep
      · cases hstep
      · rename_i hadmitted
        split at hstep
        · cases hstep
          rw [waitsFor_setContext] at hwaits
          change owner ∈ (s.contexts c).phase.waitsFor at hwaits
          rw [phase_of_admitted hadmitted] at hwaits
          cases hwaits
        · split at hstep
          · cases hstep
            rw [enter, waitsFor_setContext, beginFailure, waitsFor_after] at hwaits
            cases hwaits
          · split at hstep <;> cases hstep <;> rw [enter, waitsFor_setContext] at hwaits
            · rw [beginFailure, waitsFor_after] at hwaits
              cases hwaits
            · cases hwaits
  | renderPicture d argumentsValid =>
      cases hcall
      obtain ⟨_, _, hrefused | hentered⟩ := nvRenderPicture_entry hstep
      · simp [hrefused.phase] at hcourse
      · rcases hentered.course with h | ⟨_, _, h, _⟩ <;> simp [h] at hcourse
  | endPicture d =>
      cases hcall
      obtain ⟨_, _, hrefused | hentered⟩ := nvEndPicture_entry hstep
      · simp [hrefused.phase] at hcourse
      · rcases hentered.course with ⟨_, h⟩ | ⟨_, h | ⟨_, h⟩⟩ <;> simp [h] at hcourse
  | call d outcome =>
      cases hcall
      exact hentry outcome rfl
  | _ => cases hcall

/-- A picture that is being ended is still so after a section of a call, or is gone. -/
theorem closing_call (hcoursed : s.coursed) (hcall : a.callOn = some d)
    (hstep : Driver.step s a = some s') (hclosing : (s.contexts c).phase.closing) :
    (s'.contexts c).phase.closing ∨ (s'.contexts c).cleared := by
  have hothers := (call_build hcoursed hcall hstep).1
  by_cases hc : c = d
  · subst hc
    have hopen : (s.contexts c).phase ≠ .idle := by
      intro hidle
      rcases hclosing with h | ⟨_, h⟩ <;> simp [hidle] at h
    cases a with
    | call e outcome =>
        cases hcall
        cases (callStep_move (hcoursed c hopen) hstep).own with
        | within course =>
            unfold Phase.closing
            rw [course]
            exact .inl hclosing
        | submit _ course' => exact .inl (.inl course')
        | begun course => rcases hclosing with h | ⟨_, h⟩ <;> simp [h] at course
        | refused _ course => rcases hclosing with h | ⟨_, h⟩ <;> simp [h] at course
        | rendered course => rcases hclosing with h | ⟨_, h⟩ <;> simp [h] at course
        | failed _ course => rcases hclosing with h | ⟨_, h⟩ <;> simp [h] at course
        | ended status _ course' => exact .inl (.inr ⟨status, course'⟩)
        | returned _ course => rcases hclosing with h | ⟨_, h⟩ <;> simp [h] at course
        | reset _ _ _ _ cleared => exact .inr cleared
    | beginPicture e r => cases hcall; exact absurd (nvBeginPicture_entry hstep).2.1 hopen
    | renderPicture e argumentsValid =>
        cases hcall
        exact absurd (nvRenderPicture_entry hstep).2.1 hopen
    | endPicture e => cases hcall; exact absurd (nvEndPicture_entry hstep).2.1 hopen
    | _ => cases hcall
  · have hphase : (s'.contexts c).phase = (s.contexts c).phase :=
      congrArg PictureBuild.phase (hothers c hc)
    rw [hphase]
    exact .inl hclosing

theorem not_owedBy_of_cleared {r : SurfaceRef} {p : Picture}
    (hcleared : (s.contexts p.context).cleared) : ¬s.owedBy r p := by
  rintro ⟨_, _, htarget, _⟩
  obtain ⟨_, hrender, hdisplay, _⟩ := hcleared
  rcases htarget with h | h
  · change (s.contexts p.context).renderTarget = some r at h
    simp [hrender] at h
  · change (s.contexts p.context).displayTarget = some r at h
    simp [hdisplay] at h

/-- The generation of a surface is started in `nvBeginPicture` and in the film-grain
hand-over only. -/
theorem CallEffect.starter (heffect : CallEffect c s s') (r : SurfaceRef) :
    ((s'.surfaces r).startedBy = (s.surfaces r).startedBy ∧
        (s'.surfaces r).submittedGeneration = (s.surfaces r).submittedGeneration ∧
        ((s'.surfaces r).resolving = true → (s.surfaces r).resolving = true)) ∨
      (s.contexts c).phase = .beginStart r ∨
        ∃ status, (s.contexts c).phase = .handOverStart status := by
  have hsame : (s'.surfaces r).flags = (s.surfaces r).flags →
      (s'.surfaces r).startedBy = (s.surfaces r).startedBy ∧
        (s'.surfaces r).submittedGeneration = (s.surfaces r).submittedGeneration ∧
        ((s'.surfaces r).resolving = true → (s.surfaces r).resolving = true) := by
    intro hflags
    have hresolving : (s'.surfaces r).resolving = (s.surfaces r).resolving :=
      congrArg Flags.resolving hflags
    exact ⟨congrArg Flags.startedBy hflags, congrArg Flags.submittedGeneration hflags,
      fun h => hresolving ▸ h⟩
  cases heffect with
  | advance _ flags => exact .inl (hsame (flags r))
  | begin _ flags => exact .inl (hsame (flags r))
  | acquire _ _ flags => exact .inl (hsame (flags r))
  | take _ _ flags => exact .inl (hsame (flags r))
  | push _ _ flags => exact .inl (hsame (flags r))
  | start q _ others _ _ _ phase =>
      by_cases hr : r = q
      · exact .inr (.inl (hr ▸ phase))
      · exact .inl (hsame (others r hr))
  | redirect q _ _ _ status _ _ _ phase => exact .inr (.inr ⟨status, phase⟩)
  | clear section_ _ _ _ flags =>
      obtain ⟨hstarted, hgeneration⟩ := section_.run_startedBy s r
      refine .inl ⟨(congrArg Flags.startedBy (flags r)).trans hstarted,
        (congrArg Flags.submittedGeneration (flags r)).trans hgeneration, fun hpending => ?_⟩
      have hrun : ((section_.run s).surfaces r).resolving = true :=
        (congrArg Flags.resolving (flags r)).symm.trans hpending
      by_cases hclears : section_.clears = some r
      · rw [section_.run_resolving s hclears] at hrun
        cases hrun
      · rw [section_.run_surfaces_ne s hclears] at hrun
        exact hrun
  | handOver q _ others flags =>
      by_cases hr : r = q
      · subst hr
        refine .inl ⟨congrArg Flags.startedBy flags, congrArg Flags.submittedGeneration flags,
          fun hpending => ?_⟩
        have hdone : (s'.surfaces r).resolving = false := congrArg Flags.resolving flags
        simp [hdone] at hpending
      · exact .inl (hsame (others r hr))
  | publish q src _ others flags =>
      by_cases hr : r = q
      · subst hr
        have hresolving : (s'.surfaces r).resolving = (s.surfaces r).resolving :=
          congrArg Flags.resolving flags
        exact .inl ⟨congrArg Flags.startedBy flags, congrArg Flags.submittedGeneration flags,
          fun h => hresolving ▸ h⟩
      · exact .inl (hsame (others r hr))
  | make q status _ others flags =>
      by_cases hr : r = q
      · subst hr
        have hresolving : (s'.surfaces r).resolving = (s.surfaces r).resolving :=
          congrArg Flags.resolving flags
        exact .inl ⟨congrArg Flags.startedBy flags, congrArg Flags.submittedGeneration flags,
          fun h => hresolving ▸ h⟩
      · exact .inl (hsame (others r hr))

/-! ## The invariant -/

/-- A section of another call leaves a wait for a submitted or closing generation. -/
theorem IndexWaits.others_call (hwaits : IndexWaits s) (hcall : a.callOn = some d)
    (hstep : Driver.step s a = some s') (heffect : CallEffect d s s')
    (hstart : ∀ r ∈ (s.contexts d).phase.starts,
      ∀ e, (s.contexts e).phase.waitsFor ≠ some r)
    {owner : SurfaceRef} (howner : owner ∈ (s.contexts c).phase.waitsFor)
    (hpending : (s'.surfaces owner).resolving = true) :
    s'.submitted owner ∨ ∃ p, s'.owedBy owner p ∧ (s'.contexts p.context).phase.closing := by
  have hclosing : ∀ p, s'.owedBy owner p → (s.contexts p.context).phase.closing →
      (s'.contexts p.context).phase.closing := fun p howed hbefore =>
    (closing_call hwaits.coursed hcall hstep hbefore).resolve_right
      fun hcleared => not_owedBy_of_cleared hcleared howed
  rcases heffect.owed hwaits.answered.basic hpending with ⟨hbefore, howed, hsubmitted⟩ |
    ⟨hopen, howed⟩
  · rcases hwaits.waits c owner howner hbefore with hjob | ⟨p, hp, hphase⟩
    · exact .inl (hsubmitted hjob)
    · rcases howed p hp with hp' | hjob
      · exact .inr ⟨p, hp', hclosing p hp' hphase⟩
      · exact .inl hjob
  · -- a new generation, which only the film-grain hand-over may have started
    rcases heffect.starter owner with ⟨hstarted, hgeneration, hkept⟩ | hbegin | ⟨status, hover⟩
    · rcases hwaits.waits c owner howner (hkept hpending) with ⟨e, p, hp, hsurface, hmatch⟩ |
        ⟨p, hp, hphase⟩
      · refine .inl ⟨e, p, outstanding_call heffect hp, hsurface, ?_⟩
        rw [hgeneration]
        exact hmatch
      · have hsame : p = currentPicture s d :=
          Option.some.inj (hp.1.symm.trans (hstarted.symm.trans howed.1))
        subst hsame
        exact .inr ⟨_, howed, hclosing _ howed hphase⟩
    · exact absurd howner (hstart owner (by rw [hbegin]; rfl) c)
    · have hphase : (s.contexts d).phase.closing := .inl (by simp [hover])
      exact .inr ⟨_, howed, hclosing _ howed hphase⟩

/-- An index assignment that has just turned to wait does so for a submitted or closing
generation. -/
theorem IndexWaits.turns (hwaits : IndexWaits s) (hcond : WaitsForSubmitted s a)
    (hcall : a.callOn = some c) (hstep : Driver.step s a = some s')
    (heffect : CallEffect c s s') {owner : SurfaceRef}
    (howner : owner ∈ (s'.contexts c).phase.waitsFor)
    (hpending : (s'.surfaces owner).resolving = true) :
    s'.submitted owner ∨ ∃ p, s'.owedBy owner p ∧ (s'.contexts p.context).phase.closing := by
  have hok := hwaits.answered.basic.ok c
  have hentry : ∃ outcome, a = .call c outcome := by
    by_contra hnone
    exact waitsFor_entry hcall (fun outcome h => hnone ⟨outcome, h⟩) hstep owner howner
  obtain ⟨outcome, rfl⟩ := hentry
  have hturns := turnsTo_of_waitsFor hok hwaits.coursed hstep howner
  -- the surface was pending before, since the section starts no generation
  have hunstarted : (s.contexts c).phase ≠ .beginStart owner ∧
      ∀ status, (s.contexts c).phase ≠ .handOverStart status := by
    constructor <;> intros <;> intro hphase <;> simp [State.turnsTo, hphase] at hturns
  have hbefore : (s.surfaces owner).resolving = true := by
    rcases heffect.starter owner with ⟨_, _, hkept⟩ | h | ⟨status, h⟩
    · exact hkept hpending
    · exact absurd h hunstarted.1
    · exact absurd h (hunstarted.2 status)
  rcases heffect.owed hwaits.answered.basic hpending with ⟨_, howed, hsubmitted⟩ | ⟨_, howed⟩
  · rcases hwaits.answered.answered owner hbefore with ⟨p, hp⟩ | hjob
    · rcases howed p hp with hp' | hjob
      · rcases (hcond c hcall).1 owner hturns hbefore p hp.1 hp.2.1 with hidle | hphase
        · exact absurd hidle
            (pictureState_of_owes (hwaits.answered.basic.ok p.context) hp.2.2)
        · refine .inr ⟨p, hp', ?_⟩
          exact (closing_call hwaits.coursed hcall hstep hphase).resolve_right
            fun hcleared => not_owedBy_of_cleared hcleared hp'
      · exact .inl hjob
    · exact .inl (hsubmitted hjob)
  · -- the call that waits has no target yet
    have hbegins : (s'.contexts c).phase.course = .beginning := course_of_waitsFor howner
    have hstage : ∃ r, (s'.contexts c).control.stage = .acquiring r := by
      change ∃ r, (s'.contexts c).phase.stage = .acquiring r
      cases hphase : (s'.contexts c).phase <;> rw [hphase] at howner <;>
        first | exact ⟨_, rfl⟩ | cases howner
    obtain ⟨r, hr⟩ := hstage
    have howes := howed.2.2.2
    change (s'.contexts c).control.owesAt owner (s'.contexts c).control.stage at howes
    rw [hr] at howes
    exact howes.elim

theorem IndexWaits.step (hwaits : IndexWaits s) (hcond : WaitsForSubmitted s a)
    (hstep : Driver.step s a = some s') : IndexWaits s' where
  answered := hwaits.answered.step hstep
  coursed := coursed_step hwaits.coursed hstep
  waits := by
    intro c owner howner hpending
    have hbasic := hwaits.answered.basic
    cases step_effect hbasic.ok hstep with
    | call d on effect =>
        by_cases hc : c = d
        · subst hc
          exact hwaits.turns hcond on hstep effect howner hpending
        · have hphase : (s'.contexts c).phase = (s.contexts c).phase :=
            congrArg PictureBuild.phase ((call_build hwaits.coursed on hstep).1 c hc)
          rw [hphase] at howner
          exact hwaits.others_call on hstep effect (hcond d on).2 howner hpending
    | thread on effect =>
        have hsame : ∀ d, a.creates ≠ some d →
            (s'.contexts d).phase = (s.contexts d).phase := fun d hcreates =>
          congrArg PictureBuild.phase (other_build on hcreates hstep)
        have hphase : (s'.contexts c).phase = (s.contexts c).phase := by
          refine hsame c fun hcreates => ?_
          cases a with
          | createContext e entrypoint codec format renderTargets =>
              cases hcreates
              rw [(create_build hstep).2] at howner
              cases howner
          | _ => cases hcreates
        rw [hphase] at howner
        obtain ⟨hbefore, howed, hsubmitted⟩ := effect.owed hbasic hpending
        rcases hwaits.waits c owner howner hbefore with hjob | ⟨p, hp, hclosing⟩
        · exact .inl (hsubmitted hjob)
        · refine .inr ⟨p, howed p hp, ?_⟩
          rw [hsame p.context ?_]
          · exact hclosing
          · -- no picture has begun on a context that is just created
            intro hcreates
            have hnumbered := hbasic.started owner p hp.1
            rcases effect.kept p.context with hkept | ⟨habsent, _⟩
            · cases a with
              | createContext e entrypoint codec format renderTargets =>
                  cases hcreates
                  have habsent := absent_of_create hstep
                  rw [(hbasic.absent _ habsent).1] at hnumbered
                  omega
              | _ => cases hcreates
            · rw [(hbasic.absent _ habsent).1] at hnumbered
              omega
    | sync on thread effect =>
        rw [effect.contexts] at howner
        rw [effect.surfaces] at hpending
        have hcurrent : ∀ d, currentPicture s' d = currentPicture s d := fun d =>
          currentPicture_of_control (by rw [effect.contexts])
        simp only [State.owedBy, State.submitted, effect.contexts, effect.surfaces,
          effect.outstanding, hcurrent]
        exact hwaits.waits c owner howner hpending

theorem indexWaits_init (config : DriverConfig) (images : ImageRef → BackingImage) :
    IndexWaits (driver config images).init where
  answered := answered_init config images
  coursed := fun _ h => absurd rfl h
  waits := fun _ _ h => nomatch h

theorem not_stuckOn_of_closing (hclosing : (s.contexts d).phase.closing) : ¬s.stuckOn d c := by
  have hreleases : s.releases d = none := by
    unfold State.releases
    cases hphase : (s.contexts d).phase <;> first | rfl | skip
    all_goals
      rw [hphase] at hclosing
      rcases hclosing with h | ⟨_, h⟩ <;> cases h
  rintro (⟨r, hr, _⟩ | ⟨hlooks, _⟩)
  · rw [hreleases] at hr
    cases hr
  · rcases hclosing with h | ⟨_, h⟩ <;>
      cases hphase : (s.contexts d).phase <;> rw [hphase] at h hlooks <;>
      first | (cases h; done) | cases hlooks

/-- As long as index assignments wait for submitted generations only, none of them waits
for a call that is blocked on the mutex it holds. -/
theorem index_assignment_not_deadlocked {config : DriverConfig}
    {images : ImageRef → BackingImage}
    (hs : (driver config images).ReachableUnder WaitsForSubmitted s) :
    ∀ c, ¬s.deadlocked c := by
  have hwaits : IndexWaits s :=
    LabelledSystem.invariant (indexWaits_init config images)
      (fun _ _ _ h hcond hstep => h.step hcond hstep) hs
  rintro c ⟨owner, howner, hpending, hjob, p, hp, hstuck⟩
  rcases hwaits.waits c owner howner hpending with hsubmitted | ⟨q, hq, hclosing⟩
  · exact hjob hsubmitted
  · have hsame : q = p := Option.some.inj (hq.1.symm.trans hp.1)
    subst hsame
    exact not_stuckOn_of_closing hclosing hstuck

end Sections

/-! ## Runs with finitely many contexts -/

instance (phase : Phase) : Decidable phase.closing :=
  match hcourse : phase.course with
  | .ending => isTrue (.inl hcourse)
  | .resetting status => isTrue (.inr ⟨status, hcourse⟩)
  | .between => isFalse (by rintro (h | ⟨_, h⟩) <;> simp [h] at hcourse)
  | .beginning => isFalse (by rintro (h | ⟨_, h⟩) <;> simp [h] at hcourse)
  | .rendering => isFalse (by rintro (h | ⟨_, h⟩) <;> simp [h] at hcourse)
  | .returning _ => isFalse (by rintro (h | ⟨_, h⟩) <;> simp [h] at hcourse)

/-- `WaitsForSubmitted` where only the contexts below `n` are ever created. -/
def WaitsForSubmittedAmong (n : Nat) (s : State) (a : Label) : Prop :=
  (∀ c ∈ a.creates, c < n) ∧ ∀ c ∈ a.callOn,
    (∀ owner ∈ s.turnsTo c, (s.surfaces owner).resolving = true →
      ∀ p ∈ (s.surfaces owner).startedBy, p = currentPicture s p.context →
        (s.contexts p.context).pictureState = .idle ∨ (s.contexts p.context).phase.closing) ∧
    ∀ r ∈ (s.contexts c).phase.starts, ∀ d < n, (s.contexts d).phase.waitsFor ≠ some r

instance (n : Nat) (s : State) (a : Label) : Decidable (WaitsForSubmittedAmong n s a) :=
  inferInstanceAs (Decidable (_ ∧ _))

/-- A context that does not exist waits for nothing. -/
theorem ContextsBelow.lt_of_waitsFor {n : Nat} {s : State} (hbelow : ContextsBelow n s)
    {d : ContextRef} {r : SurfaceRef} (hwaits : (s.contexts d).phase.waitsFor = some r) : d < n := by
  refine hbelow.lt_of_live (hbelow.basic.lock d ?_).2.1
  change (s.contexts d).phase.stage ≠ .between
  cases hphase : (s.contexts d).phase <;> rw [hphase] at hwaits <;>
    first | (cases hwaits; done) | simp

theorem waitsForSubmitted_after {n : Nat} {config : DriverConfig}
    {images : ImageRef → BackingImage} {labels : List Label}
    (hexec : ((driver config images).executeIf (WaitsForSubmittedAmong n)
      (driver config images).init labels).isSome) :
    (driver config images).ReachableUnder WaitsForSubmitted
      ((driver config images).after labels) := by
  refine LabelledSystem.reachableUnder_after (ContextsBelow n)
    (fun _ _ _ hbelow hcheck hstep => hbelow.step hcheck.1 hstep) ?_ (.init n config images) hexec
  intro s a hbelow hcheck c hc
  refine ⟨(hcheck.2 c hc).1, fun r hr d hwaits => ?_⟩
  exact (hcheck.2 c hc).2 r hr d (hbelow.lt_of_waitsFor hwaits) hwaits

/-- The parameters of an H.264 picture without references. -/
def intraParameters : PictureParameterBuffer :=
  { references := .h264 [] }

/-- Two submitted pictures fill a pool of two indices, and `nvBeginPicture` of a third
one waits for the first, which is not a reference. -/
def fullPoolRun : List Label :=
  [.createContext 0 .vld .h264 ⟨0, 0, 8⟩ 0, .createSurface 0 ⟨0, 0, 8⟩ none,
    .createSurface 1 ⟨0, 0, 8⟩ none, .createSurface 2 ⟨0, 0, 8⟩ none] ++
    beginScript 0 0 11 ++ renderScript 0 intraParameters 1 1 ++ endScript 0 9 ++
    beginScript 0 1 11 ++ renderScript 0 intraParameters 1 1 ++
    .endPicture 0 :: List.replicate 10 (.call 0 .ok) ++ beginScript 0 2 7

/-- The assignment waits while the mutex is held. -/
def fullPoolScenario :
    (driver { decodeSurfacesMaximum := 2 } fun _ => {}).Scenario (WaitsForSubmittedAmong 1)
      fun s => (s.contexts 0).phase = .assignWaitSurface 2 2 0 ∧
        (s.surfaces 0).resolving = true where
  labels := fullPoolRun
  enabled := by decide +kernel
  ends := by decide +kernel

/-- The waiting assignment is not deadlocked. -/
theorem index_assignment_not_deadlocked_full :
    (((driver { decodeSurfacesMaximum := 2 } fun _ => {}).after fullPoolRun).surfaces
        0).resolving = true ∧
      ¬((driver { decodeSurfacesMaximum := 2 } fun _ => {}).after fullPoolRun).deadlocked 0 :=
  ⟨fullPoolScenario.ends.2, index_assignment_not_deadlocked
    (waitsForSubmitted_after (n := 1) fullPoolScenario.enabled) 0⟩

/-- Surface 0 keeps the only index of context 0 after a picture that failed.  The
VideoProc context 1 begins a picture on it, context 0 begins one on surface 1, and
the blit of context 1 goes on to release the index of surface 0. -/
def deadlockRun : List Label :=
  [.createContext 0 .vld .h264 ⟨0, 0, 8⟩ 0, .createContext 1 .videoProc .h264 ⟨0, 0, 8⟩ 0,
    .createSurface 0 ⟨0, 0, 8⟩ none, .createSurface 1 ⟨0, 0, 8⟩ none,
    .createSurface 2 ⟨0, 0, 8⟩ none] ++
    beginScript 0 0 10 ++ failScript 0 2 ++ beginScript 1 0 5 ++ beginScript 0 1 6 ++
    [.renderPicture 1 true, .call 1 (.pipelineBuffer (.pipeline 2 true))] ++
    List.replicate 3 (.call 1 .ok)

/-- Context 0 waits for surface 0, and the blit for the mutex of context 0. -/
def deadlockScenario :
    (driver { decodeSurfacesMaximum := 1 } fun _ => {}).Scenario
      (fun _ a => ∀ c ∈ a.creates, c < 2) fun s =>
      (s.contexts 0).phase = .assignWaitSurface 1 1 0 ∧
        (s.contexts 1).phase = .blitRelease 2 ∧ (s.contexts 1).renderTarget = some 0 ∧
        (s.surfaces 0).resolving = true ∧ (s.surfaces 0).startedBy = some ⟨1, 1⟩ ∧
        (s.contexts 1).picture = 1 ∧ (s.surfaces 0).context = some 0 ∧
        (releaseSurfacePictureIndex s 0).isNone ∧
        (s.outstanding 0 = [] ∧ s.outstanding 1 = []) where
  labels := deadlockRun
  enabled := by decide +kernel
  ends := by decide +kernel

/-- A blit onto a surface that keeps an index of a decode context and the index
assignment of that context wait for each other. -/
theorem index_assignment_deadlocked :
    ¬∀ (config : DriverConfig) (images : ImageRef → BackingImage) (s : State),
      (driver config images).Reachable s → ∀ c, ¬s.deadlocked c := by
  intro hclaim
  obtain ⟨hwaits, hblit, hrender, hpending, hstarted, hpicture, hcontext, hrelease, hnone,
    hnone'⟩ := deadlockScenario.ends
  have hbelow := LabelledSystem.preserves_after (ContextsBelow 2)
    (fun _ _ _ h hcheck hstep => h.step hcheck hstep) (.init 2 _ _) deadlockScenario.enabled
  have hreached := deadlockScenario.reachable
  generalize (driver { decodeSurfacesMaximum := 1 } fun _ => {}).after deadlockScenario.labels = s
    at *
  have hjob : ¬s.submitted 0 := by
    rintro ⟨d, p, hp, _⟩
    by_cases hd : d < 2
    · interval_cases d
      · simp [hnone] at hp
      · simp [hnone'] at hp
    · simp [(hbelow.basic.absent d (hbelow.absent d (Nat.not_lt.mp hd))).2] at hp
  have howed : s.owedBy 0 ⟨1, 1⟩ := by
    refine ⟨hstarted, by rw [currentPicture, hpicture], .inl hrender, ?_⟩
    change Control.owesAt _ 0 (s.contexts 1).phase.stage
    rw [hblit]
    exact hrender
  have hblocked : s.blockedOn 1 0 := by
    refine ⟨0, ?_, hcontext, Option.isNone_iff_eq_none.mp hrelease⟩
    unfold State.releases
    rw [hblit]
    exact hrender
  have howner : 0 ∈ (s.contexts 0).phase.waitsFor := by
    rw [hwaits]
    rfl
  exact hclaim _ _ s hreached 0 ⟨0, howner, hpending, hjob, ⟨1, 1⟩, howed, .inl hblocked⟩

end Driver
end NvidiaVaapi
