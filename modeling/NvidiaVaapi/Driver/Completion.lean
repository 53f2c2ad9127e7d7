import NvidiaVaapi.Driver.Exclusive

/-!
# Who ends a generation

Flags are cleared by surface.  With exclusive use of surfaces the section that
clears a flag belongs to the picture that started the pending generation: to its
own call after its failure, between its blits or in the film-grain hand-over, or
to its resolve job.  Where two contexts hold one surface, the second clean-up of
a failed picture ends a generation that the other picture has started since.
-/

namespace NvidiaVaapi
namespace Driver

/-- The step `a` from `s` to `s'`, which clears the flag of `r`, does so for the
picture `p`, whose own copy or failure is over. -/
inductive CompletedBy (s s' : State) (a : Label) (r : SurfaceRef) (p : Picture) : Prop
  /-- The picture has failed, and its call ends the generations of its targets. -/
  | failure (own : a.callOn = some p.context) (current : p = currentPicture s p.context)
      (failed : p ∈ s.failed)
  /-- The VideoProc call of the picture ends the generation, with no blit under way. -/
  | blit (own : a.callOn = some p.context) (current : p = currentPicture s p.context)
      (videoProc : (s.contexts p.context).entrypoint = .videoProc)
      (between : ∃ todo next, (s.contexts p.context).phase = .clearing todo next)
  /-- The picture is shown on its display target, and the render target is not
  copied at all. -/
  | handOver (own : a.callOn = some p.context) (current : p = currentPicture s p.context)
      (render : (s.contexts p.context).renderTarget = some r)
      (redirected : (s.contexts p.context).outputTarget ≠ some r)
      (submitted : ∃ status, (s.contexts p.context).phase = .handOverFinish status)
  /-- The worker is done with the copy of the picture's job. -/
  | worker (outcome : WorkerOutcome) (own : a = .worker p.context outcome) (job : ResolveJob)
      (failed : Bool) (copied : (s.contexts p.context).worker = .clear job failed)
      (picture : job.picture = p) (surface : job.surface = r)
  /-- The picture's job is taken out of the queue and failed. -/
  | cancelled (pending : Pending) (outstanding : pending ∈ s.outstanding p.context)
      (picture : pending.job.picture = p) (surface : pending.job.surface = r)
      (failed : p ∈ s'.failed)

section Completion

variable {s s' : State} {c : ContextRef} {a : Label} {r : SurfaceRef}

theorem Exclusive.completedBy_call (hexclusive : Exclusive s) (heffect : CallEffect c s s')
    (hon : a.callOn = some c) (hpending : (s.surfaces r).resolving = true)
    (hdone : (s'.surfaces r).resolving = false) :
    ∃ p, (s.surfaces r).startedBy = some p ∧ CompletedBy s s' a r p := by
  have hok := hexclusive.basic.ok c
  obtain ⟨htarget, _, hopen, hwhy⟩ := heffect.completes hok hpending hdone
  have hlive := (hexclusive.basic.lock c hopen).2.1
  refine ⟨currentPicture s c, hexclusive.held c r ⟨hlive, .inl htarget⟩ hpending, ?_⟩
  rcases hwhy with hcleaning | ⟨hproc, todo, next, hstage⟩ | ⟨hrender, status, hphase⟩
  · exact .failure hon rfl (hexclusive.basic.recorded c hcleaning)
  · exact .blit hon rfl hproc ⟨todo, phase_of_stage_clearing hstage⟩
  · have hstage : (s.contexts c).control.stage = .redirecting true status := by
      simp [NVContext.control, hphase, Phase.stage]
    rw [hstage] at hok
    refine .handOver hon rfl hrender (fun houtput => hok.2.2.2 ?_) ⟨status, hphase⟩
    exact houtput.trans hrender.symm

theorem Exclusive.completedBy_thread (hexclusive : Exclusive s) (heffect : ThreadEffect a s s')
    (hpending : (s.surfaces r).resolving = true) (hdone : (s'.surfaces r).resolving = false) :
    ∃ p, (s.surfaces r).startedBy = some p ∧ CompletedBy s s' a r p := by
  obtain ⟨c, p, rfl, hjobs, hwhy⟩ := heffect.completes hpending hdone
  have hcontext : p.job.picture.context = c := (hexclusive.basic.jobs c p hjobs.mem).1
  refine ⟨p.job.picture, (hexclusive.jobs c p hjobs.mem).2.1, ?_⟩
  rcases hwhy with ⟨⟨outcome, hon⟩, hcopied⟩ | hfailed
  · exact .worker outcome (hcontext ▸ hon) p.job p.failed (hcontext ▸ hcopied) rfl rfl
  · exact .cancelled p (hcontext ▸ hjobs.mem) rfl rfl hfailed

end Completion

/-- A picture begun on a surface by an AV1 context, whose first `nvRenderPicture`
fails, up to the section before the flag is cleared. -/
def failedRenderRun : List Label :=
  [.createContext 0 .vld .av1 ⟨0, 0, 8⟩ 0, .createSurface 0 ⟨0, 0, 8⟩ none, .beginPicture 0 0] ++
    List.replicate 8 (.call 0 .ok) ++ [.renderPicture 0 false, .call 0 .ok]

/-- The next section clears the flag. -/
def failedRenderScenario :
    (driver {} fun _ => {}).Scenario (ExclusiveAmong 1) fun s =>
      ∃ s' ∈ step s (.call 0 .ok),
        (s.surfaces 0).resolving = true ∧ (s'.surfaces 0).resolving = false where
  labels := failedRenderRun
  enabled := by decide +kernel
  ends := by decide +kernel

/-- The first picture fails and has cleared the flag of its surface once; another
context begins a picture there; the first call goes on to its second clean-up. -/
def crossedRenderRun : List Label :=
  .createContext 1 .vld .av1 ⟨0, 0, 8⟩ 0 :: failedRenderRun ++
    [.call 0 .ok, .beginPicture 1 0] ++ List.replicate 8 (.call 1 .ok) ++ [.call 0 .ok]

/-- The second clean-up clears the flag of the other context's picture. -/
def crossedRenderScenario :
    (driver {} fun _ => {}).Scenario (fun _ _ => True) fun s =>
      (s.surfaces 0).startedBy = some ⟨1, 1⟩ ∧ ∃ s' ∈ step s (.call 0 .ok),
        (s.surfaces 0).resolving = true ∧ (s'.surfaces 0).resolving = false ∧
          (⟨1, 1⟩ : Picture) ∉ s'.failed where
  labels := crossedRenderRun
  enabled := by decide +kernel
  ends := by decide +kernel

end Driver
end NvidiaVaapi
