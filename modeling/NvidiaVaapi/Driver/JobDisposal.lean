import NvidiaVaapi.Driver.DestroyWaits
import NvidiaVaapi.Driver.JobLedger

/-!
# Every resolve job is freed once

A job that `nvEndPicture` has allocated is in exactly one place until exactly one of four
parties frees it: the worker after processing, the worker that cannot start, `destroyContext`,
or the call itself after a failed push.  Whoever frees the job also ends its generation,
unless the surface has been submitted again.  The shutdown of the queue and the join of the
worker leave no job behind.
-/

namespace NvidiaVaapi
namespace Driver

/-! ## Workers and their queues -/

/-- `destroyContext` of the context is past the join of the worker. -/
def State.joined (s : State) (c : ContextRef) : Prop :=
  s.lifetimeWriter = some (.context c .decoder) ∨ s.lifetimeWriter = some (.context c .release) ∨
    s.lifetimeWriter = some (.context c .delete)

/-- What holds between the worker of a context and its queue. -/
structure WorkerKept (c : ContextRef) (s : State) : Prop where
  /-- A queue that accepts no items is empty. -/
  drained : (s.contexts c).resolveQueue.exiting = true → (s.contexts c).resolveQueue.items = []
  stopped : (s.contexts c).worker.cancels = true ∨ (s.contexts c).worker = .exited →
    (s.contexts c).resolveQueue.exiting = true
  absent : (s.contexts c).worker = .absent → (s.contexts c).resolveQueue.items = [] ∧
    ((s.contexts c).life = .absent ∨ (s.contexts c).entrypoint = .videoProc)
  started : (s.contexts c).resolveThreadStarted = false → (s.contexts c).worker.rests = true
  joined : s.joined c → (s.contexts c).worker.rests = true
  freed : (s.contexts c).life = .freed → (s.contexts c).worker.rests = true

section Workers

variable {s t s' : State} {c d : ContextRef} {a : Label}

/-- A worker that does not run has left nothing in the queue. -/
theorem WorkerKept.items (hkept : WorkerKept c s) (hrests : (s.contexts c).worker.rests = true) :
    (s.contexts c).resolveQueue.items = [] := by
  cases hworker : (s.contexts c).worker <;> rw [hworker] at hrests <;> try cases hrests
  · exact (hkept.absent hworker).1
  · exact hkept.drained (hkept.stopped (.inr hworker))

theorem pictures_of_rests {worker : WorkerPhase} (hrests : worker.rests = true) :
    worker.pictures = [] := by
  cases worker <;> first | rfl | cases hrests

/-- Steps that leave a context's worker, its queue and the destroy calls alone. -/
theorem WorkerKept.of_same (hkept : WorkerKept c s)
    (hqueue : (s'.contexts c).resolveQueue = (s.contexts c).resolveQueue)
    (hworker : (s'.contexts c).worker = (s.contexts c).worker)
    (hstarted : (s'.contexts c).resolveThreadStarted = (s.contexts c).resolveThreadStarted)
    (hentry : (s'.contexts c).entrypoint = (s.contexts c).entrypoint)
    (hlife : (s'.contexts c).life = (s.contexts c).life)
    (hjoined : s'.joined c → s.joined c ∨ (s.contexts c).worker.rests = true) :
    WorkerKept c s' where
  drained := by
    rw [hqueue]
    exact hkept.drained
  stopped := by
    rw [hqueue, hworker]
    exact hkept.stopped
  absent := by
    rw [hqueue, hworker, hlife, hentry]
    exact hkept.absent
  started := by
    rw [hworker, hstarted]
    exact hkept.started
  joined := by
    intro h
    rw [hworker]
    exact (hjoined h).elim hkept.joined id
  freed := by
    rw [hworker, hlife]
    exact hkept.freed

theorem joined_of_writer (hwriter : s'.lifetimeWriter = s.lifetimeWriter) (hjoined : s'.joined c) :
    s.joined c := by
  unfold State.joined at hjoined ⊢
  rw [← hwriter]
  exact hjoined

theorem WorkerKept.of_contexts (hkept : WorkerKept c s) (hcontext : s'.contexts c = s.contexts c)
    (hjoined : s'.joined c → s.joined c ∨ (s.contexts c).worker.rests = true) :
    WorkerKept c s' :=
  hkept.of_same (by rw [hcontext]) (by rw [hcontext]) (by rw [hcontext]) (by rw [hcontext])
    (by rw [hcontext]) hjoined

/-- A push finds the queue open. -/
theorem endPushJob_open {job : ResolveJob} (hstep : endPushJob s c job = some s') :
    (s'.contexts c).resolveQueue = (s.contexts c).resolveQueue ∨
      ((s.contexts c).resolveQueue.exiting = false ∧
        (s'.contexts c).resolveQueue.exiting = false) := by
  unfold endPushJob at hstep
  simp only at hstep
  split at hstep
  · cases hstep
    exact .inl (by simp [endFailure])
  · rename_i hopen
    split at hstep <;> cases hstep
    exact .inr ⟨by simpa using hopen, by simpa using hopen⟩

/-- Whether a worker has been started or joined is not for the calls to decide. -/
theorem started_of_call (hbasic : Basic s) (hcall : a.callOn = some d)
    (hstep : Driver.step s a = some s') (c : ContextRef) :
    (s'.contexts c).resolveThreadStarted = (s.contexts c).resolveThreadStarted := by
  cases a with
  | beginPicture e r => exact (nvBeginPicture_carries hstep).started c
  | renderPicture e argumentsValid => exact (nvRenderPicture_carries hstep).started c
  | endPicture e => exact (nvEndPicture_carries hstep).started c
  | call e outcome =>
      rcases callStep_carries (hbasic.ok e) hstep with hcarries | ⟨status, _, _, rfl⟩
      · exact hcarries.started c
      · exact goto_started s e _ c
  | _ => cases hcall

/-- A call changes a queue by a push into an open one only. -/
theorem queue_of_call (hbasic : Basic s) (hcall : a.callOn = some d)
    (hstep : Driver.step s a = some s') (c : ContextRef) :
    (s'.contexts c).resolveQueue = (s.contexts c).resolveQueue ∨
      ((s.contexts c).resolveQueue.exiting = false ∧
        (s'.contexts c).resolveQueue.exiting = false ∧
        ∃ job, (s.contexts c).control.stage = .submitting job) := by
  cases step_effect hbasic.ok hstep with
  | thread on => rw [hcall] at on; cases on
  | sync on => rw [hcall] at on; cases on
  | call e on effect =>
      rw [hcall] at on
      cases on
      rcases effect.queue c with hsame | ⟨rfl, job, hstage⟩
      · exact .inl hsame
      · have hphase : (s.contexts c).phase = .endActiveMask job ∨
            (s.contexts c).phase = .endPushJob job := by
          change (s.contexts c).phase.stage = _ at hstage
          cases hphase : (s.contexts c).phase <;> rw [hphase] at hstage <;> cases hstage
          · exact .inl rfl
          · exact .inr rfl
        have hbusy : (s.contexts c).phase ≠ .idle := by
          rcases hphase with h | h <;> simp [h]
        cases a with
        | beginPicture e r =>
            cases hcall
            exact absurd (nvBeginPicture_entry hstep).2.1 hbusy
        | renderPicture e argumentsValid =>
            cases hcall
            exact absurd (nvRenderPicture_entry hstep).2.1 hbusy
        | endPicture e =>
            cases hcall
            exact absurd (nvEndPicture_entry hstep).2.1 hbusy
        | call e outcome =>
            cases hcall
            change callStep s c outcome = some s' at hstep
            unfold callStep at hstep
            rcases hphase with hphase | hphase <;> rw [hphase] at hstep <;> simp only at hstep
            · unfold endActiveMask at hstep
              simp only at hstep
              split at hstep <;> cases hstep
              · exact .inl (by simp)
              · exact .inl (by simp [goto])
            · rcases endPushJob_open hstep with hsame | ⟨hopen, hopen'⟩
              · exact .inl hsame
              · exact .inr ⟨hopen, hopen', job, hstage⟩
        | _ => cases hcall

theorem WorkerKept.call (hkept : WorkerKept c s) (hbasic : Basic s)
    (hcall : a.callOn = some d) (hstep : Driver.step s a = some s') : WorkerKept c s' := by
  have hstarted := started_of_call hbasic hcall hstep c
  have hqueue := queue_of_call hbasic hcall hstep c
  cases step_effect hbasic.ok hstep with
  | thread on => rw [hcall] at on; cases on
  | sync on => rw [hcall] at on; cases on
  | call e on effect =>
      obtain ⟨hlife, hentry, hworker⟩ := effect.fixed c
      have hjoined : s'.joined c → s.joined c :=
        joined_of_writer effect.frame.lifetimeWriter
      rcases hqueue with hqueue | ⟨hopen, hopen', job, hstage⟩
      · exact hkept.of_same hqueue hworker hstarted hentry hlife fun h => .inl (hjoined h)
      · -- the pushing context is live and decodes
        have hok := hbasic.ok c
        rw [hstage] at hok
        have hlive := (hbasic.lock c (by simp [hstage])).2.1
        refine ⟨?_, ?_, ?_, ?_, ?_, ?_⟩
        · rw [hopen']
          nofun
        · rw [hworker, hopen']
          intro h
          rw [hkept.stopped h] at hopen
          cases hopen
        · rw [hworker]
          intro h
          have hvld : (s.contexts c).entrypoint = .vld := hok.2.1
          rcases (hkept.absent h).2 with habsent | hproc
          · rw [hlive] at habsent
            cases habsent
          · rw [hvld] at hproc
            cases hproc
        · rw [hworker, hstarted]
          exact hkept.started
        · rw [hworker]
          exact fun h => hkept.joined (hjoined h)
        · rw [hworker, hlife]
          exact hkept.freed

theorem WorkerKept.worker (hkept : WorkerKept c s) {outcome : WorkerOutcome}
    (hstep : workerStep s d outcome = some s') : WorkerKept c s' := by
  have hstepped := workerStep_stepped hstep
  have hjoined : s'.joined c → s.joined c := joined_of_writer hstepped.lifetimeWriter
  by_cases hd : c = d
  · subst hd
    -- the worker of this context runs
    have hruns : (s.contexts c).worker.rests = false := by
      unfold workerStep at hstep
      cases hworker : (s.contexts c).worker <;> rw [hworker] at hstep <;> first | rfl | cases hstep
    have hnever : ∀ {p : Prop}, (p → (s.contexts c).worker.rests = true) → ¬p := by
      intro p hrests hp
      rw [hrests hp] at hruns
      cases hruns
    obtain ⟨decoder, hcontexts⟩ := hstepped.context
    have hlife : (s'.contexts c).life = (s.contexts c).life :=
      State.kept_setContext NVContext.life hcontexts rfl c
    have hstarted : (s'.contexts c).resolveThreadStarted = (s.contexts c).resolveThreadStarted :=
      State.kept_setContext NVContext.resolveThreadStarted hcontexts rfl c
    -- and has been started, and its context is neither joined nor freed
    have hothers : ((s'.contexts c).resolveThreadStarted = false →
        (s'.contexts c).worker.rests = true) ∧ (s'.joined c → (s'.contexts c).worker.rests = true) ∧
        ((s'.contexts c).life = .freed → (s'.contexts c).worker.rests = true) := by
      rw [hstarted, hlife]
      exact ⟨fun h => absurd h (hnever hkept.started), fun h =>
        absurd (hjoined h) (hnever hkept.joined), fun h => absurd h (hnever hkept.freed)⟩
    obtain ⟨hstart, hjoin, hfree⟩ := hothers
    cases hstepped.move with
    | within queue jobs running cancels =>
        refine ⟨by rw [queue]; exact hkept.drained, ?_, ?_, hstart, hjoin, hfree⟩
        · rw [queue]
          rintro (h | h)
          · exact hkept.stopped (.inl (cancels h))
          · rw [h] at running
            cases running
        · intro h
          rw [h] at running
          cases running
    | pops job items exiting before after =>
        refine ⟨?_, ?_, ?_, hstart, hjoin, hfree⟩
        · rw [exiting]
          intro h
          rw [hkept.drained h] at items
          cases items
        · rw [after]
          rintro (h | h) <;> cases h
        · rw [after]
          nofun
    | cancelsQueue queue before after =>
        refine ⟨by rw [queue]; exact fun _ => rfl, by rw [queue]; exact fun _ => rfl, ?_, hstart,
          hjoin, hfree⟩
        rw [after]
        nofun
    | exits queue done stopped after =>
        have hexiting : (s.contexts c).resolveQueue.exiting = true :=
          stopped.elim (fun h => hkept.stopped (.inl h)) id
        refine ⟨by rw [queue]; exact hkept.drained, by rw [queue]; exact fun _ => hexiting, ?_,
          hstart, hjoin, hfree⟩
        rw [after]
        nofun
  · exact hkept.of_contexts (hstepped.others hd) fun h => .inl (hjoined h)

/-- Steps that leave a context alone but for its index tables. -/
theorem WorkerKept.of_withoutIndices (hkept : WorkerKept c s)
    (hcontext : (s'.contexts c).withoutIndices = (s.contexts c).withoutIndices)
    (hjoined : s'.joined c → s.joined c ∨ (s.contexts c).worker.rests = true) :
    WorkerKept c s' :=
  hkept.of_same (kept_of_withoutIndices NVContext.resolveQueue (fun _ => rfl) hcontext)
    (kept_of_withoutIndices NVContext.worker (fun _ => rfl) hcontext)
    (kept_of_withoutIndices NVContext.resolveThreadStarted (fun _ => rfl) hcontext)
    (kept_of_withoutIndices NVContext.entrypoint (fun _ => rfl) hcontext)
    (kept_of_withoutIndices NVContext.life (fun _ => rfl) hcontext) hjoined

/-- Steps that replace a context and leave its worker and its queue alone. -/
theorem WorkerKept.replace (hkept : WorkerKept c s) {ctx : NVContext}
    (hcontexts : s'.contexts = (s.setContext d ctx).contexts)
    (hqueue : ctx.resolveQueue = (s.contexts d).resolveQueue)
    (hworker : ctx.worker = (s.contexts d).worker)
    (hstarted : ctx.resolveThreadStarted = (s.contexts d).resolveThreadStarted)
    (hentry : ctx.entrypoint = (s.contexts d).entrypoint)
    (hlife : ctx.life = (s.contexts d).life)
    (hjoined : s'.joined c → s.joined c ∨ (s.contexts c).worker.rests = true) :
    WorkerKept c s' :=
  hkept.of_same (State.kept_setContext NVContext.resolveQueue hcontexts hqueue c)
    (State.kept_setContext NVContext.worker hcontexts hworker c)
    (State.kept_setContext NVContext.resolveThreadStarted hcontexts hstarted c)
    (State.kept_setContext NVContext.entrypoint hcontexts hentry c)
    (State.kept_setContext NVContext.life hcontexts hlife c) hjoined

theorem WorkerKept.destroySurfaces (hkept : WorkerKept c s) {todo : List SurfaceRef}
    {stage : DestroySurfaceStage} (hstep : destroySurfacesStep s todo stage = some s') :
    WorkerKept c s' := by
  unfold destroySurfacesStep at hstep
  split at hstep
  · cases hstep
    exact hkept.of_contexts rfl (by simp [State.joined, endWriter])
  · split at hstep <;> cases hstep
    exact hkept.of_contexts rfl (by simp [State.joined, setWriter])
  · split at hstep <;> cases hstep
    exact hkept.of_contexts rfl (by simp [State.joined, setWriter])
  · obtain ⟨t, hrelease, rfl⟩ := Option.map_eq_some_iff.mp hstep
    exact hkept.of_withoutIndices (release_contexts hrelease c) (by simp [State.joined, setWriter])
  · cases hstep
    exact hkept.of_contexts rfl (by simp [State.joined, setWriter])

/-- `destroyContext` cancels the queue of its context. -/
theorem WorkerKept.cancel (hkept : WorkerKept c s) {call : DestroyCall}
    (hcall : ∀ stage, call = .context d stage → stage ≠ .decoder ∧ stage ≠ .release ∧
      stage ≠ .delete) (hown : ∃ stage, call = .context d stage) :
    WorkerKept c (setWriter (s.setContext d (resolveQueueCancel (s.contexts d))) call) := by
  have hunjoined : ¬(setWriter (s.setContext d (resolveQueueCancel (s.contexts d))) call).joined c := by
    obtain ⟨stage, rfl⟩ := hown
    obtain ⟨hdecoder, hrelease, hdelete⟩ := hcall stage rfl
    rintro (h | h | h) <;> cases h <;> contradiction
  by_cases hd : c = d
  · subst hd
    refine ⟨?_, ?_, ?_, ?_, fun h => absurd h hunjoined, ?_⟩ <;>
      simp only [setWriter, State.setContext_contexts, if_true, resolveQueueCancel]
    · exact fun _ => trivial
    · exact fun _ => trivial
    · exact fun h => ⟨trivial, (hkept.absent h).2⟩
    · exact hkept.started
    · exact hkept.freed
  · exact hkept.of_contexts (by simp [setWriter, hd]) fun h => absurd h hunjoined

theorem WorkerKept.destroyContext (hkept : WorkerKept c s) (hbasic : Basic s)
    {stage : DestroyContextStage}
    {outcome : Outcome} (hwriter : s.lifetimeWriter = some (.context d stage))
    (hstep : destroyContextStep s d stage outcome = some s') : WorkerKept c s' := by
  have hends : ∀ t : State, t.contexts = s.contexts → WorkerKept c (endWriter t) := fun t ht =>
    hkept.of_contexts (congrFun ht c) (by simp [State.joined, endWriter])
  unfold destroyContextStep at hstep
  simp only at hstep
  split at hstep
  · cases hstep
    exact hkept.cancel (by rintro stage h; cases h; exact ⟨(by simp), (by simp), (by simp)⟩) ⟨_, rfl⟩
  · cases hstep
    exact hkept.of_contexts rfl (by simp [State.joined, setWriter])
  · cases hstep
    exact hkept.of_contexts rfl (by simp [State.joined, setWriter])
  · cases hstep
    exact hkept.of_contexts rfl (by simp [State.joined, setWriter])
  · split at hstep
    · cases hstep
      exact hends s rfl
    · split at hstep <;> cases hstep
      rename_i hexited
      by_cases hd : c = d
      · subst hd
        have hdone : (s.contexts c).worker.rests = true := by rw [hexited]; rfl
        refine ⟨?_, ?_, ?_, ?_, ?_, ?_⟩ <;>
          simp only [setWriter, State.setContext_contexts, if_true]
        · exact hkept.drained
        · exact hkept.stopped
        · exact hkept.absent
        · exact fun _ => hdone
        · exact fun _ => hdone
        · exact hkept.freed
      · refine hkept.of_contexts (by simp [setWriter, hd]) ?_
        rintro (h | h | h) <;> cases h
        exact absurd rfl hd
    · cases hstep
  · have hstage : s.joined d := .inl hwriter
    have hown : ∀ t : State, t.contexts c = s.contexts c → ∀ stage,
        WorkerKept c (setWriter t (.context d stage)) := by
      intro t ht stage
      refine hkept.of_contexts ht ?_
      rintro (h | h | h) <;> cases h <;> exact .inl hstage
    split at hstep
    · cases hstep
      exact hends s rfl
    · split at hstep
      · cases hstep
        exact hown s rfl _
      · split at hstep
        · cases hstep
          refine hkept.replace rfl rfl rfl rfl rfl rfl ?_
          rintro (h | h | h) <;> cases h
          exact .inl hstage
        · cases hstep
          exact hends s rfl
        · cases hstep
          exact hends s rfl
        · cases hstep
  · cases hstep
    refine hkept.of_withoutIndices (releaseContext_contexts s d c) ?_
    rintro (h | h | h) <;> cases h
    exact .inl (.inr (.inl hwriter))
  · cases hstep
    by_cases hd : c = d
    · subst hd
      have hdone := hkept.joined (.inr (.inr hwriter))
      refine ⟨?_, ?_, ?_, ?_, ?_, ?_⟩ <;>
        simp only [endWriter, State.setContext_contexts, if_true]
      · exact hkept.drained
      · exact hkept.stopped
      · intro h
        obtain ⟨hitems, habsent | hproc⟩ := hkept.absent h
        · have hlive := hbasic.destroying c ⟨_, hwriter⟩
          rw [habsent] at hlive
          cases hlive
        · exact ⟨hitems, .inr hproc⟩
      · exact hkept.started
      · exact fun _ => hdone
      · exact fun _ => hdone
    · exact hkept.of_contexts (by simp [endWriter, hd]) (by simp [State.joined, endWriter])

/-- Every step keeps what holds between a worker and its queue. -/
theorem WorkerKept.step (hkept : WorkerKept c s) (hbasic : Basic s)
    (hstep : Driver.step s a = some s') : WorkerKept c s' := by
  cases a with
  | beginPicture d r => exact hkept.call hbasic rfl hstep
  | renderPicture d argumentsValid => exact hkept.call hbasic rfl hstep
  | endPicture d => exact hkept.call hbasic rfl hstep
  | call d outcome => exact hkept.call hbasic rfl hstep
  | worker d outcome => exact hkept.worker hstep
  | destroy outcome =>
      change destroyStep s outcome = some s' at hstep
      unfold destroyStep at hstep
      split at hstep
      · cases hstep
      · exact hkept.destroySurfaces hstep
      · exact hkept.destroyContext hbasic ‹_› hstep
  | createContext d entrypoint codec format renderTargets =>
      change nvCreateContext s d entrypoint codec format renderTargets = some s' at hstep
      by_cases hd : c = d
      · subst hd
        unfold nvCreateContext at hstep
        split at hstep
        · cases hstep
        · rename_i hfree
          have hunlocked : s.lifetimeWriter = none := by
            simpa using fun h => hfree (.inl h)
          split at hstep <;> cases hstep <;>
            constructor <;> simp [State.joined, hunlocked, WorkerPhase.cancels, WorkerPhase.rests]
          exact ‹entrypoint = .videoProc›
      · refine hkept.of_contexts ((create_build hstep).1 c hd) fun h => .inl ?_
        refine joined_of_writer ?_ h
        unfold nvCreateContext at hstep
        split at hstep
        · cases hstep
        · split at hstep <;> cases hstep <;> rfl
  | destroySurfaces requested =>
      change nvDestroySurfaces s requested = some s' at hstep
      unfold nvDestroySurfaces at hstep
      split at hstep
      · cases hstep
      · split at hstep <;> cases hstep
        · exact hkept.of_contexts rfl (by simp [State.joined])
        · exact hkept
  | destroyContext d =>
      change nvDestroyContext s d = some s' at hstep
      unfold nvDestroyContext at hstep
      simp only at hstep
      split at hstep
      · cases hstep
      · split at hstep <;> cases hstep
        · exact hkept
        · refine hkept.replace rfl rfl rfl rfl rfl rfl ?_
          by_cases hstarted : (s.contexts d).resolveThreadStarted = true
          · simp [State.joined, hstarted]
          · -- a worker that has been joined before
            simp only [State.joined, hstarted]
            rintro (h | h | h) <;> cases h
            exact .inr (hkept.started (by simpa using hstarted))
  | createSurface r format image =>
      change Driver.createSurface s r format image = some s' at hstep
      unfold Driver.createSurface at hstep
      split at hstep <;> cases hstep
      exact hkept.of_contexts rfl .inl
  | realiseSurface r image =>
      change Driver.realiseSurface s r image = some s' at hstep
      unfold Driver.realiseSurface at hstep
      split at hstep <;> cases hstep
      exact hkept.of_contexts rfl .inl
  | markExported thread r =>
      change Driver.markExported s thread r = some s' at hstep
      unfold Driver.markExported at hstep
      split at hstep <;> cases hstep
      exact hkept.of_contexts rfl .inl
  | workUnsafe =>
      cases hstep
      exact hkept.of_contexts rfl .inl
  | syncSurface thread r =>
      have heffect := nvSyncSurface_effect hstep
      exact hkept.of_contexts (by rw [heffect.contexts]) fun h =>
        .inl (joined_of_writer heffect.lifetimeWriter h)
  | sync thread =>
      have heffect := syncStep_effect hstep
      exact hkept.of_contexts (by rw [heffect.contexts]) fun h =>
        .inl (joined_of_writer heffect.lifetimeWriter h)

end Workers

/-! ## Custody -/

/-- The call is past the allocation of its picture's job, or on its way out. -/
def Phase.spent : Phase → Bool
  | .endMakeJob _ => true
  | .endActiveMask _ => true
  | .endPushJob _ => true
  | .endShared _ => true
  | .endWaitSurface => true
  | .endWaitImage => true
  | .endReadStatus => true
  | .reset _ => true
  | .clearing _ next => next.spent
  | _ => false

/-- The call on the context goes on to fail the generation of the surface, after a push that
failed. -/
def State.failPending (s : State) (c : ContextRef) (r : SurfaceRef) : Prop :=
  ∃ rest next, (s.contexts c).phase =
      .clearing (.image r :: .fail r .operationFailed :: rest) next ∨
    (s.contexts c).phase = .clearing (.fail r .operationFailed :: rest) next

/-- The pictures of the jobs that have been freed. -/
def JobLedger.freed (ledger : JobLedger) : List Picture :=
  ledger.disposed.map fun disposal => disposal.job.picture

/-- The invariant behind the disposal of the jobs of the context `c`. -/
structure JobCustody (c : ContextRef) (s : State) (ledger : JobLedger) : Prop where
  basic : Basic s
  coursed : s.coursed
  workers : WorkerKept c s
  account : ledger.allocated.Perm (ledger.freed ++ s.held c)
  once : ledger.allocated.Nodup
  begun : ∀ p ∈ ledger.allocated, p.context = c ∧ p.serial ≤ (s.contexts c).picture
  spent : currentPicture s c ∈ ledger.allocated →
    (s.contexts c).phase.spent = true ∨ (s.contexts c).pictureState = .idle
  fates : ∀ disposal ∈ ledger.disposed, disposal.fate = .owed →
    disposal.disposer = .endPicture ∧ s.failPending c disposal.job.surface

section Custody

variable {s s' : State} {c d : ContextRef} {a : Label} {ledger : JobLedger}

theorem freed_note (c : ContextRef) (s : State) (a : Label) (s' : State) (ledger : JobLedger) :
    (ledger.note c s a s').freed = freed c s a ++ ledger.freed := by
  unfold JobLedger.freed JobLedger.note Driver.freed
  rw [List.map_append, List.map_map]
  congr 1
  · cases frees c s a <;> rfl
  · exact List.map_congr_left fun disposal _ => congrArg ResolveJob.picture
      (Disposal.settle_job c s a s' disposal)

theorem spent_after (todo : List ClearSection) (next : Phase) :
    (Phase.after todo next).spent = next.spent := by
  cases todo <;> rfl

theorem spent_goto {phase : Phase} (hspent : phase.spent = true) :
    ((goto s c phase).contexts c).phase.spent = true := by
  simpa [goto] using hspent

/-- Past the allocation the call stays there until it drops the picture. -/
theorem callStep_spent {outcome : Outcome} (hspent : (s.contexts c).phase.spent = true)
    (hstep : callStep s c outcome = some s') :
    (s'.contexts c).phase.spent = true ∨ (s'.contexts c).pictureState = .idle := by
  unfold callStep at hstep
  cases hphase : (s.contexts c).phase <;> rw [hphase] at hstep hspent <;>
    simp only at hstep <;> try cases hspent
  case reset status =>
    cases hstep
    exact .inr (by simp [resetPictureBuild, leave])
  -- every other of these sections leads on to another one
  all_goals refine .inl ?_
  case clearing todo next =>
    unfold clearNext at hstep
    split at hstep <;> cases hstep
    · exact spent_goto hspent
    · exact spent_goto ((spent_after _ _).trans hspent)
  case endMakeJob status =>
    unfold endMakeJob at hstep
    split at hstep <;> cases hstep
    exact spent_goto rfl
  case endActiveMask job =>
    unfold endActiveMask at hstep
    simp only at hstep
    split at hstep <;> cases hstep
    · simp [Phase.spent]
    · exact spent_goto rfl
  case endPushJob job =>
    unfold endPushJob at hstep
    simp only at hstep
    split at hstep
    · cases hstep
      simp [endFailure, spent_after, Phase.spent]
    · split at hstep <;> cases hstep
      simp [Phase.spent]
  case endShared status =>
    unfold endShared at hstep
    split at hstep
    · cases hstep
      exact spent_goto rfl
    · split at hstep <;> cases hstep <;> exact spent_goto rfl
  case endWaitSurface =>
    unfold endWaitSurface at hstep
    split at hstep
    · cases hstep
      exact spent_goto rfl
    · split at hstep <;> cases hstep
      exact spent_goto rfl
  case endWaitImage =>
    unfold endWaitImage at hstep
    split at hstep
    · cases hstep
      exact spent_goto rfl
    · split at hstep <;> cases hstep
      exact spent_goto rfl
  case endReadStatus =>
    unfold endReadStatus at hstep
    split at hstep <;> cases hstep <;> exact spent_goto rfl

/-- A step on another context, or of another thread, leaves the call on a context alone. -/
theorem build_of_other (hcoursed : s.coursed) (hcall : a.callOn ≠ some c)
    (hcreates : a.creates ≠ some c) (hstep : Driver.step s a = some s') :
    (s'.contexts c).build = (s.contexts c).build := by
  cases hon : a.callOn with
  | none => exact other_build hon hcreates hstep
  | some d =>
      have hne : c ≠ d := fun h => hcall (h ▸ hon)
      exact (call_build hcoursed hon hstep).1 c hne

/-- The call that a label enters finds its context idle. -/
theorem idle_of_entry (hcall : a.callOn = some c) (hentry : ∀ outcome, a ≠ .call c outcome)
    (hstep : Driver.step s a = some s') : (s.contexts c).phase = .idle := by
  cases a with
  | beginPicture d r => cases hcall; exact (nvBeginPicture_entry hstep).2.1
  | renderPicture d argumentsValid => cases hcall; exact (nvRenderPicture_entry hstep).2.1
  | endPicture d => cases hcall; exact (nvEndPicture_entry hstep).2.1
  | call d outcome =>
      cases hcall
      exact absurd rfl (hentry outcome)
  | _ => cases hcall

theorem mem_allocation {p : Picture} (hp : p ∈ allocation c s a) :
    ∃ status, a = .call c .ok ∧ (s.contexts c).phase = .endAllocJob status ∧
      p = currentPicture s c := by
  unfold allocation at hp
  split at hp
  · split at hp
    · split at hp
      · rename_i hd
        subst hd
        exact ⟨_, rfl, ‹_›, by simpa using hp⟩
      · cases hp
    · cases hp
  · cases hp

/-- An allocated job's picture has not had one before. -/
theorem JobCustody.fresh (hcustody : JobCustody c s ledger) {p : Picture}
    (hp : p ∈ allocation c s a) : p ∉ ledger.allocated := by
  obtain ⟨status, _, hphase, rfl⟩ := mem_allocation hp
  intro hallocated
  have hok := hcustody.basic.ok c
  have hstage : (s.contexts c).control.stage = .making status := by
    simp [NVContext.control, hphase]
  rw [hstage] at hok
  rcases hcustody.spent hallocated with hspent | hidle
  · rw [hphase] at hspent
    cases hspent
  · have hbuilding : (s.contexts c).pictureState = .building := hok.1
    rw [hbuilding] at hidle
    cases hidle

/-- What a creation finds. -/
theorem absent_of_creates (hcreates : a.creates = some c) (hstep : Driver.step s a = some s') :
    (s.contexts c).life = .absent ∧ (s'.contexts c).pictureState = .idle ∧
      (s'.contexts c).phase = .idle := by
  cases a with
  | createContext d entrypoint codec format renderTargets =>
      cases hcreates
      refine ⟨absent_of_create hstep, ?_, (create_build hstep).2⟩
      change nvCreateContext s c entrypoint codec format renderTargets = some s' at hstep
      unfold nvCreateContext at hstep
      split at hstep
      · cases hstep
      · split at hstep <;> cases hstep <;> simp
  | _ => cases hcreates

theorem JobCustody.begun_step (hcustody : JobCustody c s ledger)
    (hstep : Driver.step s a = some s') :
    ∀ p ∈ (ledger.note c s a s').allocated, p.context = c ∧ p.serial ≤ (s'.contexts c).picture := by
  have hmonotone : (s.contexts c).picture ≤ (s'.contexts c).picture := by
    cases step_effect hcustody.basic.ok hstep with
    | call d on effect => exact effect.pictureOf c
    | thread on effect => exact (effect.picture hcustody.basic c).ge
    | sync on thread effect => rw [effect.contexts]
  intro p hp
  rcases List.mem_append.mp hp with hnew | hold
  · obtain ⟨_, _, _, rfl⟩ := mem_allocation hnew
    exact ⟨rfl, hmonotone⟩
  · obtain ⟨hcontext, hserial⟩ := hcustody.begun p hold
    exact ⟨hcontext, hserial.trans hmonotone⟩

theorem JobCustody.spent_step (hcustody : JobCustody c s ledger)
    (hstep : Driver.step s a = some s')
    (hallocated : currentPicture s' c ∈ (ledger.note c s a s').allocated) :
    (s'.contexts c).phase.spent = true ∨ (s'.contexts c).pictureState = .idle := by
  by_cases hcreates : a.creates = some c
  · exact .inr (absent_of_creates hcreates hstep).2.1
  by_cases hcall : a.callOn = some c
  · rcases List.mem_append.mp hallocated with hnew | hold
    · -- the allocation leaves the call with a job to fill in
      obtain ⟨status, rfl, hphase, _⟩ := mem_allocation hnew
      change callStep s c .ok = some s' at hstep
      unfold callStep at hstep
      rw [hphase] at hstep
      cases hstep
      exact .inl (spent_goto rfl)
    · cases step_effect hcustody.basic.ok hstep with
      | thread on => rw [hcall] at on; cases on
      | sync on => rw [hcall] at on; cases on
      | call d on effect =>
          rw [hcall] at on
          cases on
          rcases effect.picture with hsame | ⟨hbegun, _⟩
          · rw [currentPicture_of_control hsame] at hold
            rcases hcustody.spent hold with hspent | hidle
            · by_cases hentry : ∀ outcome, a ≠ .call c outcome
              · rw [idle_of_entry hcall hentry hstep] at hspent
                cases hspent
              · obtain ⟨outcome, rfl⟩ := by simpa using hentry
                exact callStep_spent hspent hstep
            · exact .inr ((effect.pictureState (hcustody.basic.ok c) hsame).1 hidle)
          · -- a picture that has just begun
            have hbound := (hcustody.begun _ hold).2
            change (s'.contexts c).picture ≤ (s.contexts c).picture at hbound
            change (s'.contexts c).picture = (s.contexts c).picture + 1 at hbegun
            omega
  · have hbuild := build_of_other hcustody.coursed hcall hcreates hstep
    have hphase : (s'.contexts c).phase = (s.contexts c).phase :=
      congrArg PictureBuild.phase hbuild
    have hstate : (s'.contexts c).pictureState = (s.contexts c).pictureState :=
      congrArg PictureBuild.pictureState hbuild
    have hpicture : currentPicture s' c = currentPicture s c :=
      congrArg (Picture.mk c) (congrArg PictureBuild.picture hbuild)
    have hnone : allocation c s a = [] := by
      refine List.eq_nil_iff_forall_not_mem.mpr fun p hp => ?_
      obtain ⟨_, rfl, _⟩ := mem_allocation hp
      exact hcall rfl
    rw [hphase, hstate]
    refine hcustody.spent ?_
    rw [hpicture] at hallocated
    simpa [JobLedger.note, hnone] using hallocated

/-- The sections of a call that owes a generation its end come to failing it. -/
theorem callStep_failPending {outcome : Outcome} {disposal : Disposal}
    (hpending : s.failPending c disposal.job.surface)
    (hstep : callStep s c outcome = some s') :
    (Disposal.settle c s (.call c outcome) s' disposal).fate ≠ .owed ∨
      s'.failPending c disposal.job.surface := by
  obtain ⟨rest, next, hphase | hphase⟩ := hpending
  · unfold callStep at hstep
    rw [hphase] at hstep
    cases hstep
    exact .inr ⟨rest, next, .inr (by simp [goto, Phase.after])⟩
  · refine .inl ?_
    have hfails : failsGeneration c s (.call c outcome) = some disposal.job.surface := by
      simp [failsGeneration, hphase]
    unfold callStep at hstep
    rw [hphase] at hstep
    cases hstep
    have hended : fateOf s (goto (ClearSection.run s (.fail disposal.job.surface
        .operationFailed)) c (.after rest next)) disposal.job ≠ .owed :=
      fateOf_failResolve (by simp [goto, ClearSection.run])
    unfold Disposal.settle
    split
    · exact hended
    · rename_i hunsettled
      intro howed
      exact hunsettled ⟨howed, hfails⟩

theorem failPending_of_phase {r : SurfaceRef}
    (hphase : (s'.contexts c).phase = (s.contexts c).phase) (hpending : s.failPending c r) :
    s'.failPending c r := by
  obtain ⟨rest, next, h⟩ := hpending
  exact ⟨rest, next, hphase ▸ h⟩

theorem endPushJob_failPending {job : ResolveJob}
    (hexiting : (s.contexts c).resolveQueue.exiting = true)
    (hstep : endPushJob s c job = some s') : s'.failPending c job.surface := by
  unfold endPushJob at hstep
  simp only [hexiting, if_true] at hstep
  cases hstep
  refine ⟨(s.contexts c).cancelSections, .reset .operationFailed, .inl ?_⟩
  simp [endFailure, Phase.after]

/-- A failed push leaves its call with the generation to fail. -/
theorem failPending_of_frees {job : ResolveJob} (hfrees : frees c s a = some (job, .endPicture))
    (hstep : Driver.step s a = some s') : s'.failPending c job.surface := by
  unfold frees at hfrees
  split at hfrees
  · split at hfrees
    · unfold workerFrees at hfrees
      split at hfrees
      · split at hfrees <;> cases hfrees
      · cases hfrees
      · cases hfrees
      · cases hfrees
    · cases hfrees
  · split at hfrees
    · split at hfrees <;> cases hfrees
    · cases hfrees
  · split at hfrees
    · rename_i hphase
      split at hfrees
      · rename_i hexiting
        obtain ⟨rfl, hexiting⟩ := hexiting
        cases hfrees
        change callStep s _ _ = some s' at hstep
        unfold callStep at hstep
        rw [hphase] at hstep
        exact endPushJob_failPending hexiting hstep
      · cases hfrees
    · cases hfrees
  · cases hfrees

theorem JobCustody.fates_step (hcustody : JobCustody c s ledger)
    (hstep : Driver.step s a = some s') :
    ∀ disposal ∈ (ledger.note c s a s').disposed, disposal.fate = .owed →
      disposal.disposer = .endPicture ∧ s'.failPending c disposal.job.surface := by
  intro disposal hmem howed
  rcases List.mem_append.mp hmem with hnew | hold
  · obtain ⟨⟨job, disposer⟩, hfrees, rfl⟩ : ∃ freed, frees c s a = some freed ∧
        Disposal.record s s' freed = disposal := by simpa using hnew
    by_cases hcall : disposer = .endPicture
    · subst hcall
      exact ⟨rfl, failPending_of_frees hfrees hstep⟩
    · have hfate : fateOf s s' job = .owed := by simpa [Disposal.record, hcall] using howed
      exact absurd hfate (fate_of_frees hfrees hcall hstep)
  · obtain ⟨before, hbefore, rfl⟩ := List.mem_map.mp hold
    by_cases hdebt : before.fate = .owed
    · obtain ⟨hdisposer, hpending⟩ := hcustody.fates before hbefore hdebt
      have hsettled : (Disposal.settle c s a s' before).disposer = .endPicture := by
        unfold Disposal.settle
        split <;> exact hdisposer
      refine ⟨hsettled, ?_⟩
      rw [Disposal.settle_job]
      have hopen : (s.contexts c).phase ≠ .idle := by
        obtain ⟨rest, next, h | h⟩ := hpending <;> simp [h]
      by_cases hcall : a.callOn = some c
      · by_cases hentry : ∀ outcome, a ≠ .call c outcome
        · exact absurd (idle_of_entry hcall hentry hstep) hopen
        · obtain ⟨outcome, rfl⟩ := by simpa using hentry
          exact (callStep_failPending hpending hstep).resolve_left fun h => h howed
      · have hcreates : a.creates ≠ some c := by
          intro hcreates
          have habsent := (absent_of_creates hcreates hstep).1
          have hclosed : (s.contexts c).control.stage ≠ .between := by
            obtain ⟨rest, next, h | h⟩ := hpending <;> simp [NVContext.control, h]
          have hlive := (hcustody.basic.lock c hclosed).2.1
          rw [habsent] at hlive
          cases hlive
        exact failPending_of_phase (congrArg PictureBuild.phase
          (build_of_other hcustody.coursed hcall hcreates hstep)) hpending
    · -- what has been settled stays so
      have hsame : Disposal.settle c s a s' before = before := by
        unfold Disposal.settle
        exact if_neg fun h => hdebt h.1
      rw [hsame] at howed
      exact absurd howed hdebt

theorem JobCustody.step (hcustody : JobCustody c s ledger) (hstep : Driver.step s a = some s') :
    JobCustody c s' (ledger.note c s a s') where
  basic := hcustody.basic.step hstep
  coursed := coursed_step hcustody.coursed hstep
  workers := hcustody.workers.step hcustody.basic hstep
  account := by
    have hheld := held_step (c := c) hcustody.basic hcustody.coursed hstep
    have haccount := hcustody.account
    rw [freed_note, List.perm_iff_count] at *
    intro picture
    have hheld := hheld picture
    have haccount := haccount picture
    simp only [JobLedger.note, List.count_append] at *
    omega
  once := by
    refine List.nodup_append.mpr ⟨?_, hcustody.once, ?_⟩
    · unfold allocation
      split
      · split
        · split <;> simp
        · simp
      · simp
    · rintro p hp q hq rfl
      exact hcustody.fresh hp hq
  begun := hcustody.begun_step hstep
  spent := hcustody.spent_step hstep
  fates := hcustody.fates_step hstep

theorem jobCustody_init (c : ContextRef) (config : DriverConfig)
    (images : ImageRef → BackingImage) :
    JobCustody c (driver config images).init {} where
  basic := basic_init config images
  coursed := fun d h => absurd rfl h
  workers := by constructor <;> simp [driver, State.joined, WorkerPhase.cancels, WorkerPhase.rests]
  account := by simp [JobLedger.freed, State.held, State.inHand, driver, State.outstanding,
    Control.pending, NVContext.control, WorkerPhase.pending, State.cancelledJobs]
  once := List.nodup_nil
  begun := fun _ h => absurd h List.not_mem_nil
  spent := fun h => absurd h List.not_mem_nil
  fates := fun _ h => absurd h List.not_mem_nil

end Custody

/-! ## The disposal of jobs -/

/-- The driver with the ledger of the jobs of the context `c`. -/
def ledgerDriver (config : DriverConfig) (images : ImageRef → BackingImage) (c : ContextRef) :
    LabelledSystem (State × JobLedger) Label :=
  (driver config images).observe {} fun s a s' ledger => ledger.note c s a s'

/-- What is promised of the resolve jobs of the context `c`. -/
structure JobsDisposed (c : ContextRef) (s : State) (ledger : JobLedger) : Prop where
  once : ledger.allocated.Nodup
  /-- The allocated jobs are those that have been freed and those that are held, each once. -/
  account : ledger.allocated.Perm (ledger.freed ++ s.held c)
  /-- Whoever frees a job has completed or failed its generation by then, unless it was
  superseded; only `nvEndPicture` does so in its next sections. -/
  fates : ∀ disposal ∈ ledger.disposed, disposal.fate = .owed →
    disposal.disposer = .endPicture ∧ s.failPending c disposal.job.surface
  /-- A worker runs while there are items in the queue. -/
  served : (s.contexts c).resolveQueue.items ≠ [] → (s.contexts c).worker.rests = false
  /-- `destroyContext` succeeds with no job queued or in anybody's hands. -/
  destroyed : (s.contexts c).life = .freed → s.held c = []

/-- Every resolve job is disposed of exactly once, in every run. -/
theorem jobs_disposed_once {config : DriverConfig} {images : ImageRef → BackingImage}
    {c : ContextRef} {reached : State × JobLedger}
    (hs : (ledgerDriver config images c).Reachable reached) :
    JobsDisposed c reached.1 reached.2 := by
  have hcustody : JobCustody c reached.1 reached.2 :=
    LabelledSystem.invariant (P := fun before => JobCustody c before.1 before.2)
      (jobCustody_init c config images)
      (fun before a after h _ hstep => by
        obtain ⟨hnext, hrecord⟩ := LabelledSystem.observe_step hstep
        rw [hrecord]
        exact h.step hnext) hs
  refine ⟨hcustody.once, hcustody.account, hcustody.fates, ?_, ?_⟩
  · intro hitems
    by_contra hrests
    exact hitems (hcustody.workers.items (by simpa using hrests))
  · intro hfreed
    have hrests := hcustody.workers.freed hfreed
    -- no call is in progress on a context that is not live
    have hstage : (reached.1.contexts c).control.stage = .between := by
      by_contra hopen
      have hlive := (hcustody.basic.lock c hopen).2.1
      rw [hfreed] at hlive
      cases hlive
    have hhand : reached.1.inHand c = [] := by
      refine inHand_nil (fun status hphase => ?_) (by simp [hstage])
      simp [NVContext.control, hphase] at hstage
    have hcancelled : reached.1.cancelledJobs c = [] := by
      unfold State.cancelledJobs
      split
      · rename_i d jobs imageDone hwriter
        split
        · rename_i hd
          subst hd
          have hlive := hcustody.basic.destroying d ⟨_, hwriter⟩
          rw [hfreed] at hlive
          cases hlive
        · rfl
      · rfl
    unfold State.held
    rw [hhand, outstanding_pictures, hcustody.workers.items hrests, pictures_of_rests hrests,
      hcancelled]
    rfl

/-- The worker cannot enter the CUDA context after a first picture has been submitted, a second
picture finds the queue closed, and the context is destroyed. -/
def cancelledJobsRun : List Label :=
  [.createContext 0 .vld .av1 ⟨0, 0, 8⟩ 0, .createSurface 0 ⟨0, 0, 8⟩ none] ++
    beginScript 0 0 8 ++ renderScript 0 plainParameters 9 1 ++ endScript 0 9 ++
    .worker 0 .failed :: List.replicate 3 (.worker 0 .ok) ++
    beginScript 0 0 8 ++ renderScript 0 plainParameters 9 1 ++
    .endPicture 0 :: List.replicate 13 (.call 0 .ok) ++
    .destroyContext 0 :: List.replicate 6 (.destroy .ok)

/-- The worker has freed the first job, and `nvEndPicture` the second. -/
def cancelledJobsScenario :
    (ledgerDriver {} (fun _ => {}) 0).Scenario (fun _ _ => True) fun reached =>
      (reached.1.contexts 0).life = .freed ∧ reached.2.allocated = [⟨0, 2⟩, ⟨0, 1⟩] ∧
        reached.2.disposed.map (fun disposal => (disposal.disposer, disposal.fate)) =
          [(.endPicture, .ended), (.workerCancel, .ended)] where
  labels := cancelledJobsRun
  enabled := by decide +kernel
  ends := by decide +kernel

/-- The disposal of the two jobs. -/
theorem jobs_disposed_once_cancelled :
    ((ledgerDriver {} (fun _ => {}) 0).after cancelledJobsRun).2.allocated = [⟨0, 2⟩, ⟨0, 1⟩] ∧
      JobsDisposed 0 ((ledgerDriver {} (fun _ => {}) 0).after cancelledJobsRun).1
        ((ledgerDriver {} (fun _ => {}) 0).after cancelledJobsRun).2 :=
  ⟨cancelledJobsScenario.ends.2.1, jobs_disposed_once cancelledJobsScenario.reachable⟩

end Driver
end NvidiaVaapi
