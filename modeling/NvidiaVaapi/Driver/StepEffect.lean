import NvidiaVaapi.Driver.ThreadEffect

/-!
# What one step of the driver does

The two destroy calls, the creation of objects and the synchronising calls, and
`step_effect`: the kind of every step of the driver, read off its label.
-/

namespace NvidiaVaapi
namespace Driver

/-- The context on which a label runs a section of a picture call. -/
def Label.callOn : Label → Option ContextRef
  | .beginPicture c _ => some c
  | .renderPicture c _ => some c
  | .endPicture c => some c
  | .call c _ => some c
  | _ => none

/-- The labels of synchronising calls. -/
def Label.synchronises : Label → Bool
  | .syncSurface _ _ => true
  | .sync _ => true
  | _ => false

/-- A section of a synchronising call. -/
structure SyncEffect (thread : Nat) (s s' : State) : Prop where
  surfaces : s'.surfaces = s.surfaces
  contexts : s'.contexts = s.contexts
  lifetimeWriter : s'.lifetimeWriter = s.lifetimeWriter
  failed : s'.failed = s.failed
  readers : ∀ c, .context c ∈ s.lifetimeReaders → .context c ∈ s'.lifetimeReaders
  others : ∀ t, t ≠ thread → s'.syncs t = s.syncs t
  own : s'.syncs thread = s.syncs thread ∨
    (∃ r, s'.syncs thread = .waitSurface r) ∨
    (∃ r, (s.surfaces r).resolving = false ∧
      s'.syncs thread = .waitImage r (s.surfaces r).startedBy) ∨
    (∃ r seen, s.syncs thread = .waitImage r seen ∧ s'.syncs thread = .read r seen) ∨
    (∃ r seen, s.syncs thread = .read r seen ∧
      s'.syncs thread = .returned r seen (s.surfaces r).completionStatus)

/-- The kind of a step. -/
inductive StepEffect (s s' : State) (a : Label) : Prop
  | call (c : ContextRef) (on : a.callOn = some c) (effect : CallEffect c s s')
  | thread (on : a.callOn = none) (effect : ThreadEffect a s s')
  | sync (on : a.callOn = none) (thread : Nat) (effect : SyncEffect thread s s')
      (synchronises : a.synchronises = true)

section Steps

variable {s t s' : State} {c : ContextRef} {a : Label}

theorem ThreadEffect.refl (a : Label) (s : State) : ThreadEffect a s s :=
  .pass (.of_writer (fun _ => rfl) (fun _ => rfl) (fun _ => rfl) rfl rfl rfl) (fun _ => rfl)
    (fun _ => .refl _) rfl

theorem outstanding_eq {d : ContextRef}
    (hcontrol : (s'.contexts d).control = (s.contexts d).control)
    (hcancelled : s'.cancelledJobs d = s.cancelledJobs d) :
    s'.outstanding d = s.outstanding d := by
  unfold State.outstanding
  rw [hcontrol, hcancelled]

theorem SameView.contextLife (hview : SameView s t) (d : ContextRef) :
    (t.contexts d).life = (s.contexts d).life := by
  have hlife := congrArg Control.life (hview.control d)
  exact hlife

/-- A state with the same view leaves every thread's part alone. -/
theorem SameView.threadEffect (hview : SameView s t) : ThreadEffect a s t := by
  refine .pass ⟨fun d => by rw [hview.control d], hview.contextLife, hview.life, ?_, ?_, ?_, ?_,
    hview.readers, hview.syncs⟩ hview.flags ?_ hview.failed
  · intro h
    exact hview.lifetimeWriter ▸ h
  · rintro d ⟨stage, hstage⟩
    exact ⟨stage, hview.lifetimeWriter ▸ hstage⟩
  · rintro r ⟨rest, stage, hstage, h⟩
    exact .inl ⟨rest, stage, hstage, hview.lifetimeWriter ▸ h⟩
  · rintro r ⟨todo, stage, h, hmem⟩
    exact ⟨todo, stage, hview.lifetimeWriter ▸ h, hmem⟩
  · intro d
    rw [outstanding_eq (hview.control d) (cancelledJobs_of_writer hview.lifetimeWriter d)]

/-- A section of a destroy call that, from a state with the same view, goes to
another program point with the same jobs in its hands. -/
theorem SameView.destroyEffect {call : DestroyCall} (hview : SameView s t)
    (hwriter : s.lifetimeWriter = some call) (call' : Option DestroyCall)
    (hdestroys : ∀ d, State.destroys { t with lifetimeWriter := call' } d → s.destroys d)
    (hwaited : ∀ r, State.waited { t with lifetimeWriter := call' } r →
      s.waited r ∨ (s.surfaces r).resolving = false)
    (hrequested : ∀ r, State.requested { t with lifetimeWriter := call' } r → s.requested r)
    (hcancelled : ∀ d, State.cancelledJobs { t with lifetimeWriter := call' } d =
      s.cancelledJobs d) :
    ThreadEffect a s { t with lifetimeWriter := call' } := by
  refine .pass ⟨fun d => ?_, hview.contextLife, hview.life, ?_, hdestroys, hwaited,
    hrequested, hview.readers, hview.syncs⟩ hview.flags ?_ hview.failed
  · change (t.contexts d).control.quiet = _
    rw [hview.control d]
  · intro _
    simp [hwriter]
  · intro d
    have houtstanding : State.outstanding { t with lifetimeWriter := call' } d =
        s.outstanding d := outstanding_eq (hview.control d) (hcancelled d)
    rw [houtstanding]

/-! ## nvDestroySurfaces -/

theorem nvDestroySurfaces_effect {requested : List SurfaceRef}
    (hstep : nvDestroySurfaces s requested = some s') :
    ThreadEffect (.destroySurfaces requested) s s' := by
  unfold nvDestroySurfaces at hstep
  split at hstep
  · cases hstep
  · rename_i hlock
    simp only [not_or, Bool.not_eq_true, Option.isSome_eq_false_iff, Option.isNone_iff_eq_none,
      ne_eq, not_not] at hlock
    split at hstep
    · cases hstep
      refine .remove requested rfl hlock.1 hlock.2 rfl ?_ ?_ rfl rfl rfl rfl
      · intro r
        change (if r ∈ requested then _ else _ : NVSurface).flags = _
        split <;> rfl
      · intro r
        change (if r ∈ requested then _ else _ : NVSurface).life = _
        split <;> rfl
    · cases hstep
      exact .refl _ s

theorem destroySurfacesStep_effect {todo : List SurfaceRef} {stage : DestroySurfaceStage}
    (hwriter : s.lifetimeWriter = some (.surfaces todo stage))
    (hstep : destroySurfacesStep s todo stage = some s') : ThreadEffect a s s' := by
  have hdestroys : ∀ (t : State) (call' : Option DestroyCall),
      (∀ d st, call' ≠ some (.context d st)) →
      ∀ d, State.destroys { t with lifetimeWriter := call' } d → s.destroys d := by
    rintro t call' hnot d ⟨st, hst⟩
    exact absurd hst (hnot d st)
  have hcancelled : ∀ (t : State) (call' : Option DestroyCall),
      (∀ d st, call' ≠ some (.context d st)) →
      ∀ d, State.cancelledJobs { t with lifetimeWriter := call' } d = s.cancelledJobs d := by
    intro t call' hnot d
    unfold State.cancelledJobs
    rw [hwriter]
    split
    · exact absurd ‹_› (hnot _ _)
    · rfl
  have hsame : ∀ (t : State) (st : DestroySurfaceStage) (r : SurfaceRef),
      State.requested { t with lifetimeWriter := some (.surfaces todo st) } r → s.requested r := by
    rintro t st r ⟨todo', st', h, hmem⟩
    cases h
    exact ⟨_, _, hwriter, hmem⟩
  unfold destroySurfacesStep at hstep
  split at hstep
  · cases hstep
    refine (SameView.refl s).destroyEffect hwriter none (hdestroys s _ (by simp)) ?_ ?_
      (hcancelled s _ (by simp))
    · rintro r ⟨rest, st, _, h⟩
      cases h
    · rintro r ⟨todo', st, h, _⟩
      cases h
  · rename_i r rest
    split at hstep
    · rename_i hresolved
      cases hstep
      refine (SameView.refl s).destroyEffect hwriter _ (hdestroys s _ (by simp)) ?_
        (hsame s _) (hcancelled s _ (by simp))
      rintro q ⟨rest', st, _, h⟩
      cases h
      exact .inr (by simpa [surfaceResolved] using hresolved)
    · cases hstep
  · rename_i r rest
    split at hstep
    · cases hstep
      refine (SameView.refl s).destroyEffect hwriter _ (hdestroys s _ (by simp)) ?_
        (hsame s _) (hcancelled s _ (by simp))
      rintro q ⟨rest', st, _, h⟩
      cases h
      exact .inl ⟨rest, .waitImage, (by simp), hwriter⟩
    · cases hstep
  · rename_i r rest
    obtain ⟨t, hrelease, rfl⟩ := Option.map_eq_some_iff.mp hstep
    refine (SameView.release hrelease).destroyEffect hwriter _ (hdestroys t _ (by simp)) ?_
      (hsame t _) (hcancelled t _ (by simp))
    rintro q ⟨rest', st, _, h⟩
    cases h
    exact .inl ⟨rest, .release, (by simp), hwriter⟩
  · rename_i r rest
    cases hstep
    refine .free r rest hwriter rfl rfl ?_ ?_ rfl rfl rfl ?_
    · intro q
      by_cases hq : q = r
      · simp [setWriter, hq, NVSurface.flags]
      · simp [setWriter, hq]
    · intro q hq
      simp [setWriter, hq]
    · simp [setWriter]

/-! ## nvDestroyContext -/

theorem nvDestroyContext_effect (hstep : nvDestroyContext s c = some s') :
    ThreadEffect (.destroyContext c) s s' := by
  unfold nvDestroyContext at hstep
  simp only at hstep
  split at hstep
  · cases hstep
  · rename_i hlock
    simp only [not_or, Bool.not_eq_true, Option.isSome_eq_false_iff, Option.isNone_iff_eq_none,
      ne_eq, not_not] at hlock
    split at hstep
    · cases hstep
      exact .refl _ s
    · rename_i hlive
      cases hstep
      refine .destroy c rfl _ (by simpa using hlive) hlock.1 hlock.2 ?_ rfl rfl ?_ rfl rfl rfl
      · intro d
        by_cases hd : d = c
        · subst hd
          simp [NVContext.control]
        · simp [hd]
      · split
        · exact .inl rfl
        · exact .inr rfl

theorem SameView.releaseContext (s : State) (c : ContextRef) :
    SameView s (releaseContextPictureIndices s c) where
  flags := by
    intro r
    change (if _ then _ else _ : NVSurface).flags = _
    split <;> rfl
  control := by
    intro d
    change (Function.update s.contexts c _ d).control = _
    rw [Function.update_apply]
    split
    · subst d
      rfl
    · rfl
  life := by
    intro r
    change (if _ then _ else _ : NVSurface).life = _
    split <;> rfl
  lifetimeWriter := rfl
  readers := fun _ h => h
  syncs := rfl
  failed := rfl

theorem destroyContextStep_effect {stage : DestroyContextStage} {outcome : Outcome}
    (hwriter : s.lifetimeWriter = some (.context c stage))
    (hstep : destroyContextStep s c stage outcome = some s') : ThreadEffect a s s' := by
  -- every section of this call stays in it or ends it
  have hdestroys : ∀ (t : State) (call' : Option DestroyCall),
      (∀ call, call' = some call → ∃ st, call = .context c st) →
      ∀ d, State.destroys { t with lifetimeWriter := call' } d → s.destroys d := by
    rintro t call' hsame d ⟨st, hst⟩
    obtain ⟨st', h⟩ := hsame _ hst
    cases h
    exact ⟨stage, hwriter⟩
  have hwaited : ∀ (t : State) (call' : Option DestroyCall),
      (∀ call, call' = some call → ∃ st, call = .context c st) →
      ∀ r, State.waited { t with lifetimeWriter := call' } r →
        s.waited r ∨ (s.surfaces r).resolving = false := by
    rintro t call' hsame r ⟨rest, st, _, h⟩
    obtain ⟨st', h'⟩ := hsame _ h
    cases h'
  have hrequested : ∀ (t : State) (call' : Option DestroyCall),
      (∀ call, call' = some call → ∃ st, call = .context c st) →
      ∀ r, State.requested { t with lifetimeWriter := call' } r → s.requested r := by
    rintro t call' hsame r ⟨todo, st, h, _⟩
    obtain ⟨st', h'⟩ := hsame _ h
    cases h'
  have hpass : ∀ {t : State} (call' : Option DestroyCall), SameView s t →
      (∀ call, call' = some call → ∃ st, call = .context c st) →
      (∀ d, State.cancelledJobs { t with lifetimeWriter := call' } d = s.cancelledJobs d) →
      ThreadEffect a s { t with lifetimeWriter := call' } := fun call' hview hsame hcancelled =>
    hview.destroyEffect hwriter call' (hdestroys _ call' hsame) (hwaited _ call' hsame)
      (hrequested _ call' hsame) hcancelled
  have hstays : ∀ st call, some (DestroyCall.context c st) = some call →
      ∃ st', call = .context c st' := by
    rintro st call h
    cases h
    exact ⟨st, rfl⟩
  have hends : ∀ call, (none : Option DestroyCall) = some call → ∃ st, call = .context c st :=
    nofun
  unfold destroyContextStep at hstep
  split at hstep
  · cases hstep
    refine .pass ⟨?_, ?_, fun _ => rfl, fun _ => by simp [hwriter], hdestroys _ _ (hstays _),
      hwaited _ _ (hstays _), hrequested _ _ (hstays _), fun _ h => h, rfl⟩ (fun _ => rfl) ?_ rfl
    · intro d
      by_cases hd : d = c
      · subst hd
        simp [setWriter, resolveQueueCancel, NVContext.control, Control.quiet]
      · simp [setWriter, hd]
    · intro d
      by_cases hd : d = c
      · subst hd
        simp [setWriter, resolveQueueCancel]
      · simp [setWriter, hd]
    · intro d
      by_cases hd : d = c
      · subst hd
        simp only [State.outstanding, State.cancelledJobs, hwriter, setWriter, Control.pending,
          NVContext.control, resolveQueueCancel, State.setContext_contexts, if_true,
          List.map_nil, List.nil_append, List.append_nil]
        exact List.perm_append_comm
      · have hne : ¬c = d := fun h => hd h.symm
        simp [State.outstanding, State.cancelledJobs, hwriter, setWriter, hd, hne]
  · cases hstep
    refine hpass _ (.refl s) (hstays _) ?_
    intro d
    simp [State.cancelledJobs, hwriter]
  · rename_i job rest
    cases hstep
    refine hpass _ (SameView.imageSection s job.surface false) (hstays _) ?_
    intro d
    simp [State.cancelledJobs, hwriter]
  · rename_i job rest
    cases hstep
    have hview : WorkerView s (s.setSurface job.surface
        ((s.surfaces job.surface).failResolve .operationFailed)) := .setSurface rfl
    refine .fail c (.queued job) ⟨fun _ => rfl, fun _ => rfl, hview.life,
      fun _ => by simp [hwriter], hdestroys _ _ (hstays _), hwaited _ _ (hstays _),
      hrequested _ _ (hstays _), fun _ h => h, rfl⟩ (setSurface_flags_others _) ?_
      ⟨⟨(s.contexts c).control.pending ++ rest.map .queued, ?_, ?_⟩, ?_⟩ rfl ⟨rest, .inr hwriter⟩
    · change ((s.setSurface job.surface
        ((s.surfaces job.surface).failResolve .operationFailed)).surfaces job.surface).flags =
          ((s.surfaces job.surface).failResolve .operationFailed).flags
      simp
    · simp only [State.outstanding, State.cancelledJobs, hwriter, if_true, List.map_cons]
      exact List.perm_middle
    · simp only [State.outstanding, State.cancelledJobs, setWriter, if_true]
      exact .refl _
    · intro d hd
      have hne : ¬c = d := fun h => hd h.symm
      simp [State.outstanding, State.cancelledJobs, hwriter, setWriter, recordJobFailure, hne]
  · split at hstep
    · cases hstep
      refine hpass none (.refl s) hends ?_
      intro d
      simp [State.cancelledJobs, hwriter]
    · simp only at hstep
      split at hstep
      · cases hstep
        have hview : SameView s (s.setContext c
            { s.contexts c with resolveThreadStarted := false }) := .setContext rfl
        refine hpass _ hview (hstays _) ?_
        intro d
        simp [State.cancelledJobs, hwriter]
      · cases hstep
    · cases hstep
  · simp only at hstep
    split at hstep
    · cases hstep
      refine hpass none (.refl s) hends ?_
      intro d
      simp [State.cancelledJobs, hwriter]
    · split at hstep
      · cases hstep
        refine hpass _ (.refl s) (hstays _) ?_
        intro d
        simp [State.cancelledJobs, hwriter]
      · split at hstep
        · cases hstep
          have hview : SameView s (s.setContext c { s.contexts c with decoder := none }) :=
            .setContext rfl
          refine hpass _ hview (hstays _) ?_
          intro d
          simp [State.cancelledJobs, hwriter]
        · cases hstep
          refine hpass none (.refl s) hends ?_
          intro d
          simp [State.cancelledJobs, hwriter]
        · cases hstep
          refine hpass none (.refl s) hends ?_
          intro d
          simp [State.cancelledJobs, hwriter]
        · cases hstep
  · cases hstep
    refine hpass _ (SameView.releaseContext s c) (hstays _) ?_
    intro d
    simp [State.cancelledJobs, hwriter]
  · cases hstep
    refine .delete c hwriter rfl ?_ ?_ rfl rfl rfl rfl
    · intro d hd
      simp [endWriter, hd]
    · simp [endWriter, NVContext.control]

/-! ## Creation and synchronisation -/

theorem createSurface_effect {r : SurfaceRef} {format : SurfaceFormat} {image : Option ImageRef}
    (hstep : createSurface s r format image = some s') : ThreadEffect a s s' := by
  unfold createSurface at hstep
  split at hstep
  · cases hstep
  · rename_i hunused
    have habsent : s.surfaces r = {} := by simpa using hunused
    cases hstep
    refine .createSurface r habsent rfl rfl ?_ ?_ (by simp) rfl rfl rfl
    · intro q
      by_cases hq : q = r
      · subst hq
        simp [habsent, NVSurface.flags]
      · simp [hq]
    · intro q hq
      simp [hq]

theorem nvCreateContext_effect {entrypoint : VAEntrypoint} {codec : CudaVideoCodec}
    {format : SurfaceFormat} {renderTargets : Nat}
    (hstep : nvCreateContext s c entrypoint codec format renderTargets = some s') :
    ThreadEffect (.createContext c entrypoint codec format renderTargets) s s' := by
  unfold nvCreateContext at hstep
  split at hstep
  · cases hstep
  · rename_i hlock
    simp only [not_or, Bool.not_eq_true, Option.isSome_eq_false_iff, Option.isNone_iff_eq_none,
      ne_eq, not_not] at hlock
    split at hstep
    · rename_i hproc
      cases hstep
      refine .createContext c .videoProc .absent rfl hlock.2 ?_ ?_ rfl rfl hlock.1 rfl rfl rfl rfl
      · intro d hd
        simp [hd]
      · simp [NVContext.control, hproc, Phase.stage]
    · cases hstep
      refine .createContext c .vld .starting rfl hlock.2 ?_ ?_ rfl rfl hlock.1 rfl rfl rfl rfl
      · intro d hd
        simp [hd]
      · simp [NVContext.control, Phase.stage]

theorem realiseSurface_effect {r : SurfaceRef} {image : ImageRef}
    (hstep : realiseSurface s r image = some s') : ThreadEffect a s s' := by
  unfold realiseSurface at hstep
  split at hstep
  · cases hstep
  · cases hstep
    exact SameView.threadEffect (.setSurface rfl rfl)

theorem markExported_effect {thread : Nat} {r : SurfaceRef}
    (hstep : markExported s thread r = some s') : ThreadEffect a s s' := by
  unfold markExported at hstep
  split at hstep
  · cases hstep
  · cases hstep
    exact SameView.threadEffect (.setSurface rfl rfl)

theorem nvSyncSurface_effect {thread : Nat} {r : SurfaceRef}
    (hstep : nvSyncSurface s thread r = some s') : SyncEffect thread s s' := by
  unfold nvSyncSurface at hstep
  split at hstep
  · cases hstep
  · split at hstep
    · cases hstep
      exact ⟨rfl, rfl, rfl, rfl, fun _ h => h, fun _ _ => rfl, .inl rfl⟩
    · cases hstep
      refine ⟨rfl, rfl, rfl, rfl, fun _ h => List.mem_cons_of_mem _ h, ?_, .inr (.inl ⟨r, ?_⟩)⟩
      · intro t ht
        simp [setSync, ht]
      · simp [setSync]

theorem syncStep_effect {thread : Nat} (hstep : syncStep s thread = some s') :
    SyncEffect thread s s' := by
  have hothers : ∀ call t, t ≠ thread → (setSync s thread call).syncs t = s.syncs t := by
    intro call t ht
    simp [setSync, ht]
  unfold syncStep at hstep
  split at hstep
  · cases hstep
  · rename_i r _
    split at hstep
    · rename_i hresolved
      cases hstep
      refine ⟨rfl, rfl, rfl, rfl, fun _ h => h, hothers _, .inr (.inr (.inl ⟨r, ?_, ?_⟩))⟩
      · simpa [surfaceResolved] using hresolved
      · simp [setSync]
    · cases hstep
  · rename_i r seen hsync
    split at hstep
    · cases hstep
      refine ⟨rfl, rfl, rfl, rfl, fun _ h => h, hothers _,
        .inr (.inr (.inr (.inl ⟨r, seen, hsync, ?_⟩)))⟩
      simp [setSync]
    · cases hstep
  · rename_i r seen hsync
    cases hstep
    refine ⟨rfl, rfl, rfl, rfl, ?_, hothers _, .inr (.inr (.inr (.inr ⟨r, seen, hsync, ?_⟩)))⟩
    · intro c hc
      exact List.mem_filter.mpr ⟨hc, by simp⟩
    · simp [setSync]
  · cases hstep

/-- The kind of every step. -/
theorem step_effect
    (hok : ∀ c, (s.contexts c).control.okAt (s.contexts c).control.stage)
    (hstep : step s a = some s') : StepEffect s s' a := by
  cases a with
  | createSurface r format image => exact .thread rfl (createSurface_effect hstep)
  | createContext c entrypoint codec format renderTargets =>
      exact .thread rfl (nvCreateContext_effect hstep)
  | realiseSurface r image => exact .thread rfl (realiseSurface_effect hstep)
  | markExported thread r => exact .thread rfl (markExported_effect hstep)
  | workUnsafe =>
      cases hstep
      have hview : SameView s { s with cudaWorkUnsafe := true } :=
        ⟨fun _ => rfl, fun _ => rfl, fun _ => rfl, rfl, fun _ h => h, rfl, rfl⟩
      exact .thread rfl hview.threadEffect
  | beginPicture c r => exact .call c rfl (nvBeginPicture_effect (hok c) hstep)
  | renderPicture c argumentsValid => exact .call c rfl (nvRenderPicture_effect (hok c) hstep)
  | endPicture c => exact .call c rfl (nvEndPicture_effect (hok c) hstep)
  | call c outcome => exact .call c rfl (callStep_effect (hok c) hstep)
  | worker c outcome => exact .thread rfl (workerStep_effect hstep)
  | destroySurfaces requested => exact .thread rfl (nvDestroySurfaces_effect hstep)
  | destroyContext c => exact .thread rfl (nvDestroyContext_effect hstep)
  | destroy outcome =>
      change destroyStep s outcome = some s' at hstep
      unfold destroyStep at hstep
      split at hstep
      · cases hstep
      · exact .thread rfl (destroySurfacesStep_effect ‹_› hstep)
      · exact .thread rfl (destroyContextStep_effect ‹_› hstep)
  | syncSurface thread r => exact .sync rfl thread (nvSyncSurface_effect hstep) rfl
  | sync thread => exact .sync rfl thread (syncStep_effect hstep) rfl

end Steps

end Driver
end NvidiaVaapi
