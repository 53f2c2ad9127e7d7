import NvidiaVaapi.Driver.FailedPictures

/-!
# The first decode of a context

When the next picture of a context whose pictures have all failed so far reaches
`cuvidDecodePicture`.
-/

namespace NvidiaVaapi
namespace Driver

/-- A picture of the context on the surface has nothing to wait for: no destroy call runs,
the surface and the owners of the context's indices are resolved, and the context that the
surface records is not assigning an index. -/
structure Unblocked (c : ContextRef) (r : SurfaceRef) (s : State) : Prop where
  lifetimeWriter : s.lifetimeWriter = none
  cudaWorkUnsafe : s.cudaWorkUnsafe = false
  surface : surfaceResolved s r = true
  image : imageResolved s r = true
  owners : ∀ i < s.config.decodeSurfacesMaximum,
    ∀ owner ∈ (s.contexts c).pictureIndexOwners i, surfaceResolved s owner = true
  assigning : ∀ d ∈ (s.surfaces r).context, (s.contexts d).phase.assigning = false

/-- The call on the context runs on, with all that it asks for succeeding, up to a
program point. -/
def RunsTo (c : ContextRef) (s t : State) (phase : Phase) : Prop :=
  sections.Repeats (.call c .ok) s t ∧ (t.contexts c).phase = phase

/-- `nvRenderPicture` behind its picture-parameter buffer, with slice buffers that their
handlers accept, and `nvEndPicture` up to the submission with a decoder created for it. -/
def submitScript (c : ContextRef) (slices : List (Nat × HostBuffers)) (handle : DecoderRef) :
    List Label :=
  (slices.map fun slice => .call c (.decodeBuffer (.handled slice.1 .accepted slice.2))) ++
    [.call c .endOfBuffers, .call c .ok, .endPicture c, .call c (.decoder handle), .call c .ok]

/-- A picture is begun, gets a picture-parameter buffer and slice buffers, and goes as far
as the call of `cuvidDecodePicture`. -/
def Decodes (c : ContextRef) (s : State) (r : SurfaceRef) (buffer : PictureParameterBuffer)
    (slices : List (Nat × HostBuffers)) (handle : DecoderRef) : Prop :=
  ∃ entered begun looking looked t,
    sections.step s (.beginPicture c r) = some entered ∧
    RunsTo c entered begun .idle ∧
    sections.execute begun
      [.renderPicture c true, .call c (.decodeBuffer (.pictureParameter buffer))] =
      some looking ∧
    RunsTo c looking looked .renderLoop ∧
    sections.execute looked (submitScript c slices handle) = some t ∧
    (t.contexts c).phase = .endDecode

/-! ## What an index assignment waits for -/

/-- The flags and images that a wait looks at are the same. -/
structure SameWaits (s t : State) : Prop where
  images : t.images = s.images
  resolving : ∀ q, (t.surfaces q).resolving = (s.surfaces q).resolving
  backingImage : ∀ q, (t.surfaces q).backingImage = (s.surfaces q).backingImage

section Waits

variable {s t u s' : State} {c : ContextRef} {r : SurfaceRef}

namespace SameWaits

theorem refl (s : State) : SameWaits s s :=
  ⟨rfl, fun _ => rfl, fun _ => rfl⟩

theorem trans (hfirst : SameWaits s t) (hsecond : SameWaits t u) : SameWaits s u where
  images := hsecond.images.trans hfirst.images
  resolving := fun q => (hsecond.resolving q).trans (hfirst.resolving q)
  backingImage := fun q => (hsecond.backingImage q).trans (hfirst.backingImage q)

theorem setContext (hsame : SameWaits s t) (ctx : NVContext) :
    SameWaits s (t.setContext c ctx) :=
  ⟨hsame.images, hsame.resolving, hsame.backingImage⟩

theorem setSurface (hsame : SameWaits s t) {surface : NVSurface}
    (hresolving : surface.resolving = (t.surfaces r).resolving)
    (himage : surface.backingImage = (t.surfaces r).backingImage) :
    SameWaits s (t.setSurface r surface) := by
  refine hsame.trans ⟨rfl, fun q => ?_, fun q => ?_⟩
  · by_cases hq : q = r
    · simp [hq, hresolving]
    · simp [hq]
  · by_cases hq : q = r
    · simp [hq, himage]
    · simp [hq]

theorem release (hrelease : releaseSurfacePictureIndex s r = some t) : SameWaits s t := by
  unfold releaseSurfacePictureIndex at hrelease
  simp only at hrelease
  split at hrelease
  · cases hrelease
    exact (refl s).setSurface rfl rfl
  · split at hrelease
    · cases hrelease
      exact (refl s).setSurface rfl rfl
    · split at hrelease
      · cases hrelease
      · split at hrelease
        · cases hrelease
          exact ((refl s).setContext _).setSurface rfl rfl
        · cases hrelease
          exact (refl s).setSurface rfl rfl

theorem takeIndex (hsame : SameWaits s t) (limit index current : Nat) :
    SameWaits s (takeIndex t c r limit index current) := by
  unfold Driver.takeIndex
  apply SameWaits.setContext
  exact hsame.setSurface rfl rfl

theorem forget (s : State) (c : ContextRef) (r : SurfaceRef) (index : Nat) :
    SameWaits s (forgetPreviousOwner s c r index) := by
  unfold forgetPreviousOwner
  split
  · exact refl s
  · split
    · exact (refl s).setSurface rfl rfl
    · exact refl s

theorem surfaceResolved (hsame : SameWaits s t) (q : SurfaceRef) :
    surfaceResolved t q = surfaceResolved s q := by
  unfold Driver.surfaceResolved
  rw [hsame.resolving q]

theorem imageResolved (hsame : SameWaits s t) (q : SurfaceRef) :
    imageResolved t q = imageResolved s q := by
  unfold Driver.imageResolved surfaceSyncBackingImage
  rw [hsame.backingImage q, hsame.images]

end SameWaits

theorem beginAssign_sameWaits (hstep : beginAssign s c r = some s') : SameWaits s s' := by
  unfold beginAssign at hstep
  split at hstep
  · cases hstep
    exact (SameWaits.refl s).setContext _
  · simp only at hstep
    have hset : ∀ ctx, SameWaits s (s.setContext c ctx) := (SameWaits.refl s).setContext
    split at hstep
    · cases hstep
      exact (hset _).setContext _
    · split at hstep
      · cases hstep
        exact (hset _).setContext _
      · split at hstep
        · cases hstep
          exact (hset _).setContext _
        · split at hstep
          · split at hstep <;> cases hstep
            · exact (hset _).setContext _
            · exact ((hset _).takeIndex _ _ _).setContext _
          · cases hstep
            exact (hset _).setContext _

/-- The sections up to the end of the index assignment wait for what was pending before. -/
theorem callStep_sameWaits {limit : Nat} {outcome : Outcome}
    (hphase : (s.contexts c).phase.chooses r limit) (hstep : callStep s c outcome = some s') :
    SameWaits s s' := by
  have hgoto : ∀ phase, SameWaits s (goto s c phase) := fun phase =>
    (SameWaits.refl s).setContext _
  unfold callStep at hstep
  split at hstep
  case h_5 q h =>
    unfold beginWaitSurface at hstep
    split at hstep <;> cases hstep
    exact hgoto _
  case h_6 q h =>
    unfold beginWaitImage at hstep
    split at hstep <;> cases hstep
    exact hgoto _
  case h_7 q h =>
    unfold beginRelease at hstep
    split at hstep
    · obtain ⟨v, hrelease, rfl⟩ := Option.map_eq_some_iff.mp hstep
      exact (SameWaits.release hrelease).setContext _
    · cases hstep
      exact hgoto _
  case h_8 q h => exact beginAssign_sameWaits hstep
  case h_9 q l i busyMask h =>
    unfold assignScan at hstep
    simp only at hstep
    split at hstep
    · split at hstep <;> cases hstep <;> exact hgoto _
    · split at hstep
      · cases hstep
        exact ((SameWaits.forget _ _ _ _).takeIndex _ _ _).setContext _
      · split at hstep <;> cases hstep <;> exact hgoto _
  case h_10 q l owner h =>
    unfold assignWaitSurface at hstep
    split at hstep <;> cases hstep
    exact hgoto _
  case h_11 q l owner h =>
    unfold assignWaitImage at hstep
    split at hstep <;> cases hstep
    exact hgoto _
  all_goals
    rename_i h
    rw [h] at hphase
    exact hphase.elim

end Waits

/-! ## nvBeginPicture -/

/-- With no index in use by a reference or busy, an index is always found. -/
theorem nvdSelectPictureIndex_idle {allocated limit cursor : Nat} (hpos : 1 ≤ limit)
    (hle : limit ≤ nvdMaxDecodeSurfaces) :
    ∃ selected, nvdSelectPictureIndex allocated limit 0#32 0#32 cursor = some selected := by
  unfold nvdMaxDecodeSurfaces at hle
  have hmask := surfaceLimitMask_eq limit hle
  have hstart : cursor % limit < limit := Nat.mod_lt _ hpos
  -- The search finds the first index it looks at.
  have hbit : (surfaceLimitMask limit &&& (1#32 <<< (cursor % limit)) != 0#32) = true := by
    rw [bne_iff_ne]
    intro hzero
    have hin : cursor % limit < 32 := by omega
    have hset : (surfaceLimitMask limit).getLsbD (cursor % limit) = true := by
      rw [hmask, BitVec.getLsbD_ofNat, Nat.testBit_two_pow_sub_one]
      simp [hin, hstart]
    have hone : (1#32 <<< (cursor % limit)).getLsbD (cursor % limit) = true := by
      simp [hin]
    have hclear : (surfaceLimitMask limit &&& (1#32 <<< (cursor % limit))).getLsbD
        (cursor % limit) = true := by
      rw [BitVec.getLsbD_and, hset, hone]
      rfl
    rw [hzero, BitVec.getLsbD_zero] at hclear
    cases hclear
  have havailable : surfaceLimitMask limit &&& ~~~(0#32 ||| 0#32) = surfaceLimitMask limit := by
    have hall : ~~~(0#32 ||| 0#32) = BitVec.allOnes 32 := by decide
    rw [hall, BitVec.and_allOnes]
  unfold nvdSelectPictureIndex nvdMaxDecodeSurfaces
  rw [if_neg (by omega)]
  split
  · exact ⟨_, rfl⟩
  · simp only [havailable]
    rw [if_neg]
    · refine Option.isSome_iff_exists.mp ?_
      rw [List.find?_isSome]
      refine ⟨cursor % limit, ?_, hbit⟩
      refine List.mem_map.mpr ⟨0, List.mem_range.mpr hpos, ?_⟩
      rw [Nat.add_zero, Nat.mod_mod]
    · intro hzero
      rw [hzero] at hbit
      simp at hbit

/-- A picture that is looking for its index, with nothing to wait for. -/
structure Underway (c : ContextRef) (r : SurfaceRef) (s u : State) : Prop where
  choosing : Choosing c r s u
  masks : Masks u
  pictureState : (u.contexts c).pictureState = .building
  lifetimeWriter : u.lifetimeWriter = none
  surface : surfaceResolved u r = true
  image : imageResolved u r = true
  owners : ∀ i < s.config.decodeSurfacesMaximum,
    ∀ owner ∈ (u.contexts c).pictureIndexOwners i, surfaceResolved u owner = true

section Begin

variable {s t u v : State} {c : ContextRef} {r : SurfaceRef} {limit : Nat}

theorem Phase.chooses.course {phase : Phase} (hphase : phase.chooses r limit) :
    phase.course = .beginning := by
  cases phase <;> first | rfl | exact hphase.elim

/-- What a section of the begin leaves of the picture. -/
structure StillBuilding (c : ContextRef) (u v : State) : Prop where
  pictureState : (v.contexts c).pictureState = (u.contexts c).pictureState
  lifetimeWriter : v.lifetimeWriter = u.lifetimeWriter
  phase : ∀ d, d ≠ c → (v.contexts d).phase = (u.contexts d).phase

theorem stillBuilding {outcome : Outcome} (hbefore : (u.contexts c).phase.course = .beginning)
    (hafter : (v.contexts c).phase.course = .beginning)
    (hstep : callStep u c outcome = some v) : StillBuilding c u v := by
  obtain ⟨hothers, hown⟩ := callStep_move (by simp [hbefore]) hstep
  have hactive : ∀ job, (u.contexts c).phase ≠ .endActiveMask job := by
    intro job h
    simp [h] at hbefore
  refine ⟨?_, (callStep_steady hactive hstep).call.lifetimeWriter,
    fun d hd => congrArg PictureBuild.phase (hothers d hd)⟩
  cases hown with
  | within _ _ hsame => exact hsame.pictureState
  | submit hcourse => simp [hbefore] at hcourse
  | begun _ hcourse => simp [hafter] at hcourse
  | refused _ _ hcourse => simp [hafter] at hcourse
  | rendered hcourse => simp [hbefore] at hcourse
  | failed _ hcourse => simp [hbefore] at hcourse
  | ended _ hcourse => simp [hbefore] at hcourse
  | returned _ hcourse => simp [hbefore] at hcourse
  | reset _ hcourse => simp [hbefore] at hcourse

namespace Underway

/-- The next section of the index assignment, if it does not end there. -/
theorem next (hunderway : Underway c r s u) (hvalid : s.config.Valid)
    (hpending : DecoderPending s c) (hstep : callStep u c .ok = some v)
    (hphase : (v.contexts c).phase.prepares = false) : Underway c r s v := by
  have hbefore := hunderway.choosing.phase
  have hchoosing : Choosing c r s v := by
    rcases hunderway.choosing.callStep hvalid hpending hunderway.masks hstep with h | ⟨-, h⟩
    · exact h
    · rw [h] at hphase
      cases hphase
  have hbuilding := stillBuilding hbefore.course hchoosing.phase.course hstep
  have hwaits := callStep_sameWaits hbefore hstep
  constructor
  · exact hchoosing
  · exact hunderway.masks.call hstep
  · exact hbuilding.pictureState.trans hunderway.pictureState
  · exact hbuilding.lifetimeWriter.trans hunderway.lifetimeWriter
  · rw [hwaits.surfaceResolved]
    exact hunderway.surface
  · rw [hwaits.imageResolved]
    exact hunderway.image
  · intro i hi owner howner
    rw [hwaits.surfaceResolved]
    rw [hchoosing.kept.context.owners, ← hunderway.choosing.kept.context.owners] at howner
    exact hunderway.owners i hi owner howner

/-- The two waits of `nvBeginPicture`. -/
theorem waits (hunderway : Underway c r s u) (hvalid : s.config.Valid)
    (hpending : DecoderPending s c) (hphase : (u.contexts c).phase = .beginWaitSurface r) :
    ∃ v, sections.Repeats (.call c .ok) u v ∧ Underway c r s v ∧
      (v.contexts c).phase = .beginRelease r ∧ v.surfaces = u.surfaces ∧
      ∀ d, d ≠ c → v.contexts d = u.contexts d := by
  have hfirst : callStep u c .ok = some (goto u c (.beginWaitImage r)) := by
    unfold callStep
    rw [hphase]
    exact if_pos hunderway.surface
  have hwaiting := hunderway.next hvalid hpending hfirst (by simp [goto, Phase.prepares])
  have hvld : ((goto u c (.beginWaitImage r)).contexts c).entrypoint = .vld :=
    (congrArg PictureSetting.entrypoint hwaiting.choosing.kept.context.setting).trans
      hpending.entrypoint
  have hsecond : callStep (goto u c (.beginWaitImage r)) c .ok =
      some (goto (goto u c (.beginWaitImage r)) c (.beginRelease r)) := by
    have hwaits : ((goto u c (.beginWaitImage r)).contexts c).phase = .beginWaitImage r := by
      simp [goto]
    unfold callStep
    rw [hwaits]
    simp only [beginWaitImage]
    rw [if_pos hwaiting.image, if_neg (by simp [hvld])]
  have hwaited := hwaiting.next hvalid hpending hsecond (by simp [goto, Phase.prepares])
  refine ⟨_, .step hfirst (.step hsecond (.refl _ _)), hwaited, by simp [goto], rfl, ?_⟩
  intro d hd
  simp [goto, hd]

/-- An index in another context is released at once: no assignment holds its mutex. -/
theorem beginRelease (hunderway : Underway c r s u) (hvalid : s.config.Valid)
    (hpending : DecoderPending s c) (hphase : (u.contexts c).phase = .beginRelease r)
    (hfree : ∀ d ∈ (u.surfaces r).context, d ≠ c → (u.contexts d).phase.assigning = false) :
    ∃ v, callStep u c .ok = some v ∧ Underway c r s v ∧
      (v.contexts c).phase = .beginAssign r := by
  have hstep : ∃ w, callStep u c .ok = some (goto w c (.beginAssign r)) := by
    unfold callStep
    rw [hphase]
    simp only [Driver.beginRelease]
    split
    · rename_i hforeign
      have hrelease : ∃ w, releaseSurfacePictureIndex u r = some w := by
        unfold releaseSurfacePictureIndex
        simp only
        split
        · exact ⟨_, rfl⟩
        · rename_i d hd
          have hunheld := hfree d hd fun h => hforeign.2 (h ▸ hd)
          split
          · exact ⟨_, rfl⟩
          · rw [if_neg (by simp [hunheld])]
            split <;> exact ⟨_, rfl⟩
      obtain ⟨w, hw⟩ := hrelease
      exact ⟨w, by rw [hw]; rfl⟩
    · exact ⟨u, rfl⟩
  obtain ⟨w, hw⟩ := hstep
  exact ⟨_, hw, hunderway.next hvalid hpending hw (by simp [goto, Phase.prepares]),
    by simp [goto]⟩

/-- The surface has its index, or the search begins. -/
theorem beginAssign (hunderway : Underway c r s u) (hvalid : s.config.Valid)
    (hpending : DecoderPending s c) (hphase : (u.contexts c).phase = .beginAssign r) :
    ∃ v, callStep u c .ok = some v ∧
      ((Underway c r s v ∧ (v.contexts c).phase =
        .assignScan r s.config.decodeSurfacesMaximum 0 0#32) ∨
      (StillBuilding c u v ∧ Chosen c r s v ∧ (v.contexts c).phase = .beginStartImage r)) := by
  have hcall : callStep u c .ok = Driver.beginAssign u c r := by
    unfold callStep
    rw [hphase]
  have hstep : ∃ v, Driver.beginAssign u c r = some v := by
    unfold Driver.beginAssign
    split
    · exact ⟨_, rfl⟩
    · simp only
      repeat' split
      all_goals exact ⟨_, rfl⟩
  obtain ⟨v, hv⟩ := hstep
  refine ⟨v, hcall.trans hv, ?_⟩
  rcases hunderway.choosing.beginAssign hvalid hpending hphase hv with ⟨-, h⟩ | ⟨hchosen, h⟩
  · exact .inl ⟨hunderway.next hvalid hpending (hcall.trans hv) (by rw [h]; rfl), h⟩
  · refine .inr ⟨?_, hchosen, h⟩
    exact stillBuilding (by rw [hphase]; rfl) (by rw [h]; rfl) (hcall.trans hv)

/-- One turn of the `busyMask` loop finds no busy owner. -/
theorem assignScan_turn (hunderway : Underway c r s u) (hvalid : s.config.Valid)
    (hpending : DecoderPending s c) {i : Nat} (hi : i < s.config.decodeSurfacesMaximum)
    (hphase : (u.contexts c).phase = .assignScan r s.config.decodeSurfacesMaximum i 0#32) :
    ∃ v, callStep u c .ok = some v ∧ Underway c r s v ∧
      (v.contexts c).phase = .assignScan r s.config.decodeSurfacesMaximum (i + 1) 0#32 := by
  have hstep : callStep u c .ok =
      some (goto u c (.assignScan r s.config.decodeSurfacesMaximum (i + 1) 0#32)) := by
    unfold callStep
    rw [hphase]
    simp only [assignScan, if_pos hi]
    split
    · rfl
    · rename_i owner howner
      have hresolved := hunderway.owners i hi owner howner
      simp only [surfaceResolved, Bool.not_eq_true'] at hresolved
      rw [if_neg (by simp [hresolved])]
  exact ⟨_, hstep, hunderway.next hvalid hpending hstep (by simp [goto, Phase.prepares]),
    by simp [goto]⟩

/-- The whole loop. -/
theorem assignScan_runs (hunderway : Underway c r s u) (hvalid : s.config.Valid)
    (hpending : DecoderPending s c) {i n : Nat} (hn : i + n = s.config.decodeSurfacesMaximum)
    (hphase : (u.contexts c).phase = .assignScan r s.config.decodeSurfacesMaximum i 0#32) :
    ∃ v, sections.Repeats (.call c .ok) u v ∧ Underway c r s v ∧
      (v.contexts c).phase = .assignScan r s.config.decodeSurfacesMaximum
        s.config.decodeSurfacesMaximum 0#32 := by
  induction n generalizing i u with
  | zero =>
      obtain rfl : i = s.config.decodeSurfacesMaximum := hn
      exact ⟨u, .refl _ u, hunderway, hphase⟩
  | succ n ih =>
      obtain ⟨v, hstep, hunderway', hphase'⟩ :=
        hunderway.assignScan_turn hvalid hpending (by omega) hphase
      obtain ⟨w, hruns, hend⟩ := ih hunderway' (by omega) hphase'
      exact ⟨w, .step hstep hruns, hend⟩

/-- The selection after the loop. -/
theorem assignScan_selects (hunderway : Underway c r s u) (hvalid : s.config.Valid)
    (hpending : DecoderPending s c) (hmask : (s.contexts c).activeReferenceMask = 0#32)
    (hphase : (u.contexts c).phase = .assignScan r s.config.decodeSurfacesMaximum
      s.config.decodeSurfacesMaximum 0#32) :
    ∃ v, callStep u c .ok = some v ∧ StillBuilding c u v ∧ Chosen c r s v ∧
      (v.contexts c).phase = .beginStartImage r := by
  have hminimum := hvalid.minimum
  have hordered := hvalid.ordered
  have hactive : (u.contexts c).activeReferenceMask = 0#32 :=
    (congrArg PictureSetting.activeReferenceMask
      hunderway.choosing.kept.context.setting).trans hmask
  obtain ⟨selected, hselect⟩ := nvdSelectPictureIndex_idle (by omega) hvalid.maximum
  have hstep : callStep u c .ok = some (goto
      (commitSurfacePictureIndex u c r s.config.decodeSurfacesMaximum selected) c
        (.beginStartImage r)) := by
    unfold callStep
    rw [hphase]
    simp only [assignScan, Nat.lt_irrefl, if_false]
    rw [hactive, hselect]
  have hafter : ((goto (commitSurfacePictureIndex u c r s.config.decodeSurfacesMaximum selected) c
      (.beginStartImage r)).contexts c).phase = .beginStartImage r := by
    simp [goto]
  refine ⟨_, hstep, ?_, ?_, hafter⟩
  · exact stillBuilding (by rw [hphase]; rfl) (by rw [hafter]; rfl) hstep
  · rcases hunderway.choosing.callStep hvalid hpending hunderway.masks hstep with h | ⟨h, -⟩
    · have hchooses := h.phase
      rw [hafter] at hchooses
      exact hchooses.elim
    · exact h

/-- The search ends with an index for the surface. -/
theorem runs_to_start (hunderway : Underway c r s u) (hvalid : s.config.Valid)
    (hpending : DecoderPending s c) (hmask : (s.contexts c).activeReferenceMask = 0#32)
    (hphase : (u.contexts c).phase = .beginWaitSurface r)
    (hfree : ∀ d ∈ (u.surfaces r).context, d ≠ c → (u.contexts d).phase.assigning = false) :
    ∃ v, sections.Repeats (.call c .ok) u v ∧ Chosen c r s v ∧
      (v.contexts c).phase = .beginStartImage r ∧
      (v.contexts c).pictureState = .building ∧ v.lifetimeWriter = none := by
  obtain ⟨u₂, h₂, hu₂, hp₂, hsurfaces, hothers⟩ := hunderway.waits hvalid hpending hphase
  obtain ⟨u₃, h₃, hu₃, hp₃⟩ := hu₂.beginRelease hvalid hpending hp₂ fun d hd hne => by
    rw [hothers d hne]
    rw [hsurfaces] at hd
    exact hfree d hd hne
  obtain ⟨u₄, h₄, hu₄⟩ := hu₃.beginAssign hvalid hpending hp₃
  have hassigned : sections.Repeats (.call c .ok) u u₄ :=
    h₂.trans (.step h₃ (.step h₄ (.refl _ u₄)))
  rcases hu₄ with ⟨hu₄, hp₄⟩ | ⟨hbuilding, hchosen, hp₄⟩
  · obtain ⟨u₅, h₅, hu₅, hp₅⟩ :=
      hu₄.assignScan_runs hvalid hpending (Nat.zero_add _) hp₄
    obtain ⟨v, hstep, hbuilding, hchosen, hpv⟩ :=
      hu₅.assignScan_selects hvalid hpending hmask hp₅
    exact ⟨v, hassigned.trans (h₅.trans (.step hstep (.refl _ v))), hchosen, hpv,
      hbuilding.pictureState.trans hu₅.pictureState,
      hbuilding.lifetimeWriter.trans hu₅.lifetimeWriter⟩
  · exact ⟨u₄, hassigned, hchosen, hp₄, hbuilding.pictureState.trans hu₃.pictureState,
      hbuilding.lifetimeWriter.trans hu₃.lifetimeWriter⟩

end Underway

/-- A picture that `nvBeginPicture` has accepted. -/
structure Begun (c : ContextRef) (r : SurfaceRef) (s u : State) : Prop where
  chosen : Chosen c r s u
  phase : (u.contexts c).phase = .idle
  pictureState : (u.contexts c).pictureState = .building
  lifetimeWriter : u.lifetimeWriter = none
  inputValidationFailed : (u.contexts c).inputValidationFailed = false
  buffersFailed : (u.contexts c).buffersFailed = false

theorem Chosen.next (hchosen : Chosen c r s u) {outcome : Outcome}
    (hphase : (u.contexts c).phase.prepares = true) (hstep : callStep u c outcome = some v)
    (hdecoder : (v.contexts c).decoder = none) : Chosen c r s v := by
  rcases callStep_prepares hphase hstep with hprepares | hcreated
  · exact hchosen.keeps hprepares.kept
  · simp [hdecoder] at hcreated

/-- The sections behind the index assignment. -/
theorem Chosen.starts (hchosen : Chosen c r s u) (hpending : DecoderPending s c)
    (hphase : (u.contexts c).phase = .beginStartImage r)
    (hbuilding : (u.contexts c).pictureState = .building) (hwriter : u.lifetimeWriter = none) :
    ∃ v, sections.Repeats (.call c .ok) u v ∧ Begun c r s v := by
  have hdecoder : (u.contexts c).decoder = none :=
    (congrArg PictureSetting.decoder hchosen.setting).trans hpending.decoder
  have hvld : (u.contexts c).entrypoint = .vld :=
    (congrArg PictureSetting.entrypoint hchosen.setting).trans hpending.entrypoint
  -- The image section of `setSurfaceResolving(surface, true)`.
  obtain ⟨u₁, h₁⟩ : ∃ u₁, callStep u c .ok = some u₁ := by
    unfold callStep
    rw [hphase]
    exact ⟨_, rfl⟩
  obtain ⟨hp₁, hd₁, hv₁, hb₁, hw₁⟩ : (u₁.contexts c).phase = .beginStart r ∧
      (u₁.contexts c).decoder = none ∧ (u₁.contexts c).entrypoint = .vld ∧
      (u₁.contexts c).pictureState = .building ∧ u₁.lifetimeWriter = none := by
    have hstep := h₁
    unfold callStep at hstep
    rw [hphase] at hstep
    cases hstep
    simp [goto, hdecoder, hvld, hbuilding, hwriter]
  -- Its surface section, and the assignments to the context.
  obtain ⟨u₂, h₂⟩ : ∃ u₂, callStep u₁ c .ok = some u₂ := by
    unfold callStep
    rw [hp₁]
    simp only [beginStart]
    split <;> exact ⟨_, rfl⟩
  obtain ⟨hp₂, hd₂, hb₂, hw₂, hi₂, hf₂⟩ : (u₂.contexts c).phase = .beginInit r ∧
      (u₂.contexts c).decoder = none ∧ (u₂.contexts c).pictureState = .building ∧
      u₂.lifetimeWriter = none ∧ (u₂.contexts c).inputValidationFailed = false ∧
      (u₂.contexts c).buffersFailed = false := by
    have hstep := h₂
    unfold callStep at hstep
    rw [hp₁] at hstep
    simp only [beginStart] at hstep
    rw [if_neg (by simp [hv₁])] at hstep
    cases hstep
    simp [hd₁, hb₁, hw₁]
  obtain ⟨u₃, h₃⟩ : ∃ u₃, callStep u₂ c .ok = some u₃ := by
    unfold callStep
    rw [hp₂]
    exact ⟨_, rfl⟩
  obtain ⟨hp₃, hd₃, hb₃, hw₃, hi₃, hf₃⟩ : (u₃.contexts c).phase = .ret .success ∧
      (u₃.contexts c).decoder = none ∧ (u₃.contexts c).pictureState = .building ∧
      u₃.lifetimeWriter = none ∧ (u₃.contexts c).inputValidationFailed = false ∧
      (u₃.contexts c).buffersFailed = false := by
    have hstep := h₃
    unfold callStep at hstep
    rw [hp₂] at hstep
    cases hstep
    simp [hd₂, hb₂, hw₂, hi₂, hf₂]
  -- The return.
  obtain ⟨v, h₄⟩ : ∃ v, callStep u₃ c .ok = some v := by
    unfold callStep
    rw [hp₃]
    exact ⟨_, rfl⟩
  obtain ⟨hp₄, hd₄, hb₄, hw₄, hi₄, hf₄⟩ : (v.contexts c).phase = .idle ∧
      (v.contexts c).decoder = none ∧ (v.contexts c).pictureState = .building ∧
      v.lifetimeWriter = none ∧ (v.contexts c).inputValidationFailed = false ∧
      (v.contexts c).buffersFailed = false := by
    have hstep := h₄
    unfold callStep at hstep
    rw [hp₃] at hstep
    cases hstep
    simp [leave, hd₃, hb₃, hw₃, hi₃, hf₃]
  have hchosen₁ := hchosen.next (by rw [hphase]; rfl) h₁ hd₁
  have hchosen₂ := hchosen₁.next (by rw [hp₁]; rfl) h₂ hd₂
  have hchosen₃ := hchosen₂.next (by rw [hp₂]; rfl) h₃ hd₃
  have hchosen₄ := hchosen₃.next (by rw [hp₃]; rfl) h₄ hd₄
  exact ⟨v, .step h₁ (.step h₂ (.step h₃ (.step h₄ (.refl _ v)))),
    ⟨hchosen₄, hp₄, hb₄, hw₄, hi₄, hf₄⟩⟩

/-- `nvBeginPicture` accepts every live surface. -/
theorem begins (hfree : Unblocked c r s) (hmasks : Masks s) (hvalid : s.config.Valid)
    (hpending : DecoderPending s c) (hlive : (s.surfaces r).life = .live) :
    ∃ entered begun, sections.step s (.beginPicture c r) = some entered ∧
      sections.Repeats (.call c .ok) entered begun ∧ Begun c r s begun := by
  have hmask := hmasks.activeReferenceMask hpending.decoder hpending.destroying
  have hstep : nvBeginPicture s c r = some (enter s c
      { s.contexts c with
        pictureState := .building, picture := (s.contexts c).picture + 1 }
      (.beginWaitSurface r)) := by
    unfold nvBeginPicture
    simp only
    rw [if_neg, if_neg, if_neg, if_neg]
    · simp [hlive]
    · simp [hfree.cudaWorkUnsafe]
    · simp [hpending.pictureState]
    · simp [admitted, hfree.lifetimeWriter, hpending.life, hpending.phase]
  have hchoosing := nvBeginPicture_choosing hpending hlive hfree.cudaWorkUnsafe hstep
  have hentered : Masks (enter s c
      { s.contexts c with
        pictureState := .building, picture := (s.contexts c).picture + 1 }
      (.beginWaitSurface r)) := hmasks.step (a := .beginPicture c r) hstep
  have hunderway : Underway c r s (enter s c
      { s.contexts c with
        pictureState := .building, picture := (s.contexts c).picture + 1 }
      (.beginWaitSurface r)) := by
    refine ⟨hchoosing, hentered, ?_, hfree.lifetimeWriter, hfree.surface, hfree.image, ?_⟩
    · simp [enter]
    · intro i hi owner howner
      rw [hchoosing.kept.context.owners] at howner
      exact hfree.owners i hi owner howner
  obtain ⟨u, hruns, hchosen, hphase, hbuilding, hwriter⟩ :=
    hunderway.runs_to_start hvalid hpending hmask (by simp [enter]) fun d hd hne => by
      simpa [enter, hne, lifetimeReadLock] using hfree.assigning d hd
  obtain ⟨v, hstarts, hbegun⟩ := hchosen.starts hpending hphase hbuilding hwriter
  exact ⟨_, v, hstep, hruns.trans hstarts, hbegun⟩

end Begin

/-! ## nvRenderPicture and nvEndPicture -/

/-- What the handlers of an accepted picture leave alone, with the hint that the picture
parameters set. -/
def NVContext.submission (ctx : NVContext) :
    PictureSetting × Nat × Nat × NVDPictureState × Bool × Bool :=
  (ctx.setting, ctx.currentPictureId, ctx.decodeSurfaceReferenceHint, ctx.pictureState,
    ctx.inputValidationFailed, ctx.buffersFailed)

/-- A picture with its picture parameters on the way to the decoder: `n` indices are in
use and `count` surfaces will be selected. -/
structure Rendering (c : ContextRef) (n count : Nat) (u : State) : Prop where
  life : (u.contexts c).life = .live
  entrypoint : (u.contexts c).entrypoint = .vld
  codec : (u.contexts c).cudaCodec ≠ .av1
  decoder : (u.contexts c).decoder = none
  currentPictureId : (u.contexts c).currentPictureId = n
  count : selectContextDecodeSurfaceCount u.config (u.contexts c) = count
  pictureState : (u.contexts c).pictureState = .building
  inputValidationFailed : (u.contexts c).inputValidationFailed = false
  buffersFailed : (u.contexts c).buffersFailed = false
  lifetimeWriter : u.lifetimeWriter = none
  cudaWorkUnsafe : u.cudaWorkUnsafe = false

theorem selectContextDecodeSurfaceCount_congr {config : DriverConfig} {ctx ctx' : NVContext}
    (hcodec : ctx'.cudaCodec = ctx.cudaCodec)
    (hhint : ctx'.decodeSurfaceReferenceHint = ctx.decodeSurfaceReferenceHint)
    (htargets : ctx'.clientRenderTargetCount = ctx.clientRenderTargetCount) :
    selectContextDecodeSurfaceCount config ctx' = selectContextDecodeSurfaceCount config ctx := by
  unfold selectContextDecodeSurfaceCount
  rw [hcodec, hhint, htargets]

section Render

variable {u v : State} {c : ContextRef} {n count : Nat}

/-- The context is replaced by one that agrees in what matters. -/
theorem Rendering.replace (hrendering : Rendering c n count u) (hconfig : v.config = u.config)
    (hworksafe : v.cudaWorkUnsafe = u.cudaWorkUnsafe) (hwriter : v.lifetimeWriter = u.lifetimeWriter)
    (hview : (v.contexts c).submission = (u.contexts c).submission) : Rendering c n count v := by
  simp only [NVContext.submission, Prod.mk.injEq] at hview
  obtain ⟨hsetting, hcurrent, hhint, hstate, hinput, hbuffers⟩ := hview
  have hcodec := congrArg PictureSetting.cudaCodec hsetting
  constructor
  · exact (congrArg PictureSetting.life hsetting).trans hrendering.life
  · exact (congrArg PictureSetting.entrypoint hsetting).trans hrendering.entrypoint
  · exact fun h => hrendering.codec (hcodec.symm.trans h)
  · exact (congrArg PictureSetting.decoder hsetting).trans hrendering.decoder
  · exact hcurrent.trans hrendering.currentPictureId
  · rw [hconfig, ← hrendering.count]
    exact selectContextDecodeSurfaceCount_congr hcodec hhint
      (congrArg PictureSetting.clientRenderTargetCount hsetting)
  · exact hstate.trans hrendering.pictureState
  · exact hinput.trans hrendering.inputValidationFailed
  · exact hbuffers.trans hrendering.buffersFailed
  · exact hwriter.trans hrendering.lifetimeWriter
  · exact hworksafe.trans hrendering.cudaWorkUnsafe

theorem Rendering.setContext (hrendering : Rendering c n count u) {ctx : NVContext}
    (hview : ctx.submission = (u.contexts c).submission) :
    Rendering c n count (u.setContext c ctx) := by
  refine hrendering.replace rfl rfl rfl ?_
  simpa using hview

theorem Rendering.loop (hrendering : Rendering c n count u) {ctx : NVContext}
    (hview : ctx.submission = (u.contexts c).submission) :
    Rendering c n count (u.setContext c { ctx with phase := .renderLoop }) :=
  hrendering.setContext hview

/-- A handler that reports nothing returns to the loop. -/
theorem Rendering.afterHandler (hrendering : Rendering c n count u) {ctx : NVContext}
    (hview : ctx.submission = (u.contexts c).submission) :
    afterHandler u c ctx = u.setContext c { ctx with phase := .renderLoop } := by
  have hflags := hview
  simp only [NVContext.submission, Prod.mk.injEq] at hflags
  obtain ⟨-, -, -, -, hinput, hbuffers⟩ := hflags
  unfold Driver.afterHandler
  rw [if_neg, if_neg]
  · simp [hbuffers, hrendering.buffersFailed]
  · simp [hinput, hrendering.inputValidationFailed]

/-- The look-ups of the picture-parameter handler. -/
theorem Rendering.lookups (hrendering : Rendering c n count u) {buffer : PictureParameterBuffer}
    {todo : List (Option SurfaceRef)} {found : List (Option SurfaceRef × Int)}
    (hphase : (u.contexts c).phase = .renderLookup buffer todo found) :
    ∃ v, sections.Repeats (.call c .ok) u v ∧ Rendering c n count v ∧
      (v.contexts c).phase = .renderLoop := by
  induction todo generalizing u found with
  | nil =>
      have hfinish : (finishPicParam (u.contexts c) buffer found).submission =
          (u.contexts c).submission := rfl
      have hstep : callStep u c .ok = some (u.setContext c
          { finishPicParam (u.contexts c) buffer found with phase := .renderLoop }) := by
        unfold callStep
        rw [hphase]
        simp only [renderLookup]
        rw [if_neg hrendering.codec, hrendering.afterHandler hfinish]
      exact ⟨_, .step hstep (.refl _ _), hrendering.loop hfinish, by simp⟩
  | cons entry rest ih =>
      have hstep : ∃ ctx : NVContext, ∃ found', callStep u c .ok = some (u.setContext c
          { ctx with phase := .renderLookup buffer rest found' }) ∧
          ctx.submission = (u.contexts c).submission := by
        unfold callStep
        rw [hphase]
        cases entry with
        | none => exact ⟨u.contexts c, _, rfl, rfl⟩
        | some surfId =>
            refine ⟨noteReference (u.contexts c) (pictureIdxFromSurfaceId u c surfId), _, rfl, ?_⟩
            unfold noteReference
            split <;> rfl
      obtain ⟨ctx, found', hstep, hview⟩ := hstep
      have hnext : Rendering c n count (u.setContext c
          { ctx with phase := .renderLookup buffer rest found' }) :=
        hrendering.setContext hview
      have hlater : ((u.setContext c
          { ctx with phase := .renderLookup buffer rest found' }).contexts c).phase =
          .renderLookup buffer rest found' := by simp
      obtain ⟨v, hruns, hend⟩ := ih hnext hlater
      exact ⟨v, .step hstep hruns, hend⟩

/-- Slice buffers that the handlers accept. -/
theorem Rendering.slices (hrendering : Rendering c n count u)
    (hphase : (u.contexts c).phase = .renderLoop) (slices : List (Nat × HostBuffers)) :
    ∃ v, sections.execute u (slices.map fun slice =>
        .call c (.decodeBuffer (.handled slice.1 .accepted slice.2))) = some v ∧
      Rendering c n count v ∧ (v.contexts c).phase = .renderLoop := by
  induction slices generalizing u with
  | nil => exact ⟨u, rfl, hrendering, hphase⟩
  | cons slice rest ih =>
      have hview : { u.contexts c with
          av1TileOffsetsSeen := (u.contexts c).av1TileOffsetsSeen + slice.1
          buffers := slice.2
          inputValidationFailed := (u.contexts c).inputValidationFailed ||
            decide (HandlerOutcome.accepted = HandlerOutcome.rejected)
          buffersFailed := (u.contexts c).buffersFailed ||
            decide (HandlerOutcome.accepted = HandlerOutcome.unstored) }.submission =
          (u.contexts c).submission := by
        simp [NVContext.submission, NVContext.setting]
      have hstep : ∃ v, callStep u c (.decodeBuffer (.handled slice.1 .accepted slice.2)) =
          some v ∧ Rendering c n count v ∧ (v.contexts c).phase = .renderLoop := by
        refine ⟨_, ?_, hrendering.loop hview, ?_⟩
        · unfold callStep
          rw [hphase]
          simp only [renderLoop]
          rw [hrendering.afterHandler hview]
        · simp
      obtain ⟨v, hstep, hnext, hloop⟩ := hstep
      obtain ⟨w, hexec, hend⟩ := ih hnext hloop
      refine ⟨w, ?_, hend⟩
      rw [List.map_cons, LabelledSystem.execute]
      exact Option.bind_eq_some_iff.mpr ⟨v, hstep, hexec⟩

/-- `createDecoderForContext` refuses when more indices are in use than surfaces are
selected, and otherwise the picture is submitted. -/
theorem Rendering.creates (hrendering : Rendering c n count u)
    (hphase : (u.contexts c).phase = .endCreateDecoder) (handle : DecoderRef) :
    (∃ v, sections.execute u [.call c (.decoder handle), .call c .ok] = some v ∧
      (v.contexts c).phase = .endDecode) ↔ n ≤ count := by
  have hcreate : callStep u c (.decoder handle) = endCreateDecoder u c (.decoder handle) := by
    unfold callStep
    rw [hphase]
  have hselected : selectContextDecodeSurfaceCount u.config (u.contexts c).dropBitstream =
      count := by
    rw [← hrendering.count]
    exact selectContextDecodeSurfaceCount_congr rfl rfl rfl
  have hnone : ((u.contexts c).dropBitstream.decoder.isSome = true) ↔ False := by
    simp [NVContext.dropBitstream, hrendering.decoder]
  have hcurrent : (u.contexts c).dropBitstream.currentPictureId = n := hrendering.currentPictureId
  unfold endCreateDecoder at hcreate
  simp only [hnone, if_false, hselected, hcurrent] at hcreate
  constructor
  · rintro ⟨v, hexec, hend⟩
    by_contra hmany
    rw [if_pos (by omega)] at hcreate
    obtain ⟨w, hfirst, hrest⟩ := Option.bind_eq_some_iff.mp hexec
    obtain ⟨v', hsecond, hlast⟩ := Option.bind_eq_some_iff.mp hrest
    cases hlast
    cases hcreate.symm.trans hfirst
    -- The failing exit goes on to the reset of the picture.
    have hmove := (callStep_move (by simp [endFailure]) hsecond).own
    have hcourse : (v.contexts c).phase.course = .ending := by
      rw [hend]
      rfl
    cases hmove with
    | within hsame => simp [endFailure, hcourse] at hsame
    | submit hbefore => simp [endFailure] at hbefore
    | begun hbefore => simp [endFailure] at hbefore
    | refused _ hbefore => simp [endFailure] at hbefore
    | rendered hbefore => simp [endFailure] at hbefore
    | failed _ hbefore => simp [endFailure] at hbefore
    | ended _ hbefore => simp [endFailure] at hbefore
    | returned _ hbefore => simp [endFailure] at hbefore
    | reset _ _ hidle => simp [hend] at hidle
  · intro hfits
    rw [if_neg (by omega)] at hcreate
    obtain ⟨w, hcreated, hpushes⟩ : ∃ w, callStep u c (.decoder handle) = some w ∧
        (w.contexts c).phase = .endPushContext := ⟨_, hcreate, by simp⟩
    have hpush : callStep w c .ok = some (goto w c .endDecode) := by
      unfold callStep
      rw [hpushes]
      rfl
    refine ⟨goto w c .endDecode, ?_, by simp [goto]⟩
    exact Option.bind_eq_some_iff.mpr
      ⟨w, hcreated, Option.bind_eq_some_iff.mpr ⟨_, hpush, rfl⟩⟩

/-- `nvRenderPicture` returns and `nvEndPicture` goes as far as the creation of the
decoder. -/
theorem Rendering.ends (hrendering : Rendering c n count u)
    (hphase : (u.contexts c).phase = .renderLoop) :
    ∃ v, sections.execute u [.call c .endOfBuffers, .call c .ok, .endPicture c] = some v ∧
      Rendering c n count v ∧ (v.contexts c).phase = .endCreateDecoder := by
  have hloop : callStep u c .endOfBuffers = some (goto u c (.ret .success)) := by
    unfold callStep
    rw [hphase]
    rfl
  have hreturning : Rendering c n count (goto u c (.ret .success)) := hrendering.setContext rfl
  generalize hw : goto u c (.ret .success) = w at hloop hreturning
  have hret : (w.contexts c).phase = .ret .success := by
    rw [← hw]
    simp [goto]
  have hleave : callStep w c .ok = some (leave w c (w.contexts c) .success) := by
    unfold callStep
    rw [hret]
  have hleft : Rendering c n count (leave w c (w.contexts c) .success) :=
    hreturning.replace rfl rfl rfl (by simp [leave, NVContext.submission, NVContext.setting])
  have hidle : ((leave w c (w.contexts c) .success).contexts c).phase = .idle := by simp [leave]
  generalize leave w c (w.contexts c) .success = x at hleave hleft hidle
  have hend : nvEndPicture x c = some (enter x c (x.contexts c) .endCreateDecoder) := by
    have hadmitted : admitted x c = true := by
      simp [admitted, hleft.lifetimeWriter, hleft.life, hidle]
    have htiles : av1TilesMissing (x.contexts c) = false := by
      simp [av1TilesMissing, hleft.codec]
    unfold nvEndPicture
    simp only [hadmitted, hleft.pictureState]
    simp [hleft.entrypoint, hleft.cudaWorkUnsafe, hleft.inputValidationFailed, htiles,
      hleft.buffersFailed]
  have hentered : Rendering c n count (enter x c (x.contexts c) .endCreateDecoder) :=
    hleft.replace rfl rfl rfl (by simp [enter, NVContext.submission, NVContext.setting])
  refine ⟨_, ?_, hentered, by simp [enter]⟩
  exact Option.bind_eq_some_iff.mpr ⟨w, hloop, Option.bind_eq_some_iff.mpr
    ⟨x, hleave, Option.bind_eq_some_iff.mpr ⟨_, hend, rfl⟩⟩⟩

/-- The rest of the picture behind its picture parameters. -/
theorem Rendering.submits (hrendering : Rendering c n count u)
    (hphase : (u.contexts c).phase = .renderLoop) (slices : List (Nat × HostBuffers))
    (handle : DecoderRef) :
    (∃ t, sections.execute u (submitScript c slices handle) = some t ∧
      (t.contexts c).phase = .endDecode) ↔ n ≤ count := by
  obtain ⟨v, hslices, hv, hloop⟩ := hrendering.slices hphase slices
  obtain ⟨w, hends, hw, hcreating⟩ := hv.ends hloop
  have hscript : sections.execute u (submitScript c slices handle) =
      sections.execute w [.call c (.decoder handle), .call c .ok] := by
    have hsplit : submitScript c slices handle =
        (slices.map fun slice => .call c (.decodeBuffer (.handled slice.1 .accepted slice.2))) ++
          ([.call c .endOfBuffers, .call c .ok, .endPicture c] ++
            [.call c (.decoder handle), .call c .ok]) := rfl
    rw [hsplit, LabelledSystem.execute_append, hslices, Option.bind_some,
      LabelledSystem.execute_append, hends, Option.bind_some]
  rw [hscript]
  exact hw.creates hcreating handle

end Render

/-- The count selected for a picture depends on what a picture without a decoder keeps. -/
theorem select_startPictureParameter {config : DriverConfig} {ctx ctx' : NVContext}
    {buffer : PictureParameterBuffer} (hcodec : ctx'.cudaCodec = ctx.cudaCodec)
    (hhint : ctx.cudaCodec ≠ .h264 → ctx.cudaCodec ≠ .hevc →
      ctx'.decodeSurfaceReferenceHint = ctx.decodeSurfaceReferenceHint)
    (htargets : ctx'.clientRenderTargetCount = ctx.clientRenderTargetCount) :
    selectContextDecodeSurfaceCount config (startPictureParameter ctx' buffer) =
      selectContextDecodeSurfaceCount config (startPictureParameter ctx buffer) := by
  refine selectContextDecodeSurfaceCount_congr hcodec ?_ htargets
  show ite _ _ _ = ite _ _ _
  rw [hcodec]
  by_cases hhinted : ctx.cudaCodec = .h264 ∨ ctx.cudaCodec = .hevc
  · rw [if_pos hhinted, if_pos hhinted]
  · rw [if_neg hhinted, if_neg hhinted]
    rw [not_or] at hhinted
    exact hhint hhinted.1 hhinted.2

/-! ## The next picture -/

section Next

variable {s t u : State} {c : ContextRef} {r : SurfaceRef}

/-- `nvRenderPicture` takes the picture-parameter buffer of an accepted picture. -/
theorem Begun.renders (hbegun : Begun c r s u) (hpending : DecoderPending s c)
    (hsafe : s.cudaWorkUnsafe = false) {buffer : PictureParameterBuffer}
    (hcodec : buffer.references.cudaCodec = (s.contexts c).cudaCodec)
    (haccepted : buffer.accepted = true) :
    ∃ looking looked, sections.execute u
        [.renderPicture c true, .call c (.decodeBuffer (.pictureParameter buffer))] =
        some looking ∧
      sections.Repeats (.call c .ok) looking looked ∧
      Rendering c (s.nextPictureId c r)
        (selectContextDecodeSurfaceCount s.config (startPictureParameter (s.contexts c) buffer))
        looked ∧
      (looked.contexts c).phase = .renderLoop := by
  have hsetting := hbegun.chosen.setting
  have hlife := (congrArg PictureSetting.life hsetting).trans hpending.life
  have hvld := (congrArg PictureSetting.entrypoint hsetting).trans hpending.entrypoint
  have hsame := congrArg PictureSetting.cudaCodec hsetting
  have hworksafe := hbegun.chosen.cudaWorkUnsafe.trans hsafe
  change (u.contexts c).life = .live at hlife
  change (u.contexts c).entrypoint = .vld at hvld
  change (u.contexts c).cudaCodec = (s.contexts c).cudaCodec at hsame
  have henter : nvRenderPicture u c true = some (enter u c (u.contexts c) .renderLoop) := by
    have hadmitted : admitted u c = true := by
      simp [admitted, hbegun.lifetimeWriter, hlife, hbegun.phase]
    unfold nvRenderPicture
    simp [hadmitted, hbegun.pictureState, hworksafe, hvld]
  -- The loop has the context as the begin has left it.
  obtain ⟨w, hw, hloop⟩ : ∃ w, w = enter u c (u.contexts c) .renderLoop ∧
      w.contexts c = { u.contexts c with phase := .renderLoop } :=
    ⟨_, rfl, by simp [enter]⟩
  have hcount : selectContextDecodeSurfaceCount s.config
      (startPictureParameter (w.contexts c) buffer) =
      selectContextDecodeSurfaceCount s.config
        (startPictureParameter (s.contexts c) buffer) := by
    rw [hloop]
    exact select_startPictureParameter hsame hbegun.chosen.hint
      (congrArg PictureSetting.clientRenderTargetCount hsetting)
  obtain ⟨looking, hlook, hrendering, hlookup⟩ : ∃ looking,
      callStep w c (.decodeBuffer (.pictureParameter buffer)) = some looking ∧
      Rendering c (s.nextPictureId c r) (selectContextDecodeSurfaceCount s.config
        (startPictureParameter (s.contexts c) buffer)) looking ∧
      (looking.contexts c).phase = .renderLookup buffer buffer.references.lookups [] := by
    have hstep : callStep w c (.decodeBuffer (.pictureParameter buffer)) = some
        ((storeProgressiveFrame w (startPictureParameter (w.contexts c) buffer) buffer).setContext
          c { startPictureParameter (w.contexts c) buffer with
              phase := .renderLookup buffer buffer.references.lookups [] }) := by
      have hphase : (w.contexts c).phase = .renderLoop := by rw [hloop]
      have hhandled : ¬buffer.references.cudaCodec ≠ (w.contexts c).cudaCodec := by
        rw [hloop, not_not, hcodec]
        exact hsame.symm
      unfold callStep
      rw [hphase]
      simp only [renderLoop]
      rw [if_neg hhandled, if_neg (by simp [haccepted])]
    have hstored : KeepsIndices c w
        (storeProgressiveFrame w (startPictureParameter (w.contexts c) buffer) buffer) :=
      storeProgressiveFrame_kept _ _
    have hwriter : (storeProgressiveFrame w (startPictureParameter (w.contexts c) buffer)
        buffer).lifetimeWriter = w.lifetimeWriter :=
      (storeProgressiveFrame_steady (c := c) _ _).lifetimeWriter
    refine ⟨_, hstep, ?_, by simp⟩
    constructor
    · simpa [startPictureParameter, hloop] using hlife
    · simpa [startPictureParameter, hloop] using hvld
    · simpa [startPictureParameter, hloop, hsame] using hpending.codec
    · have hdecoder := (congrArg PictureSetting.decoder hsetting).trans hpending.decoder
      change (u.contexts c).decoder = none at hdecoder
      simpa [startPictureParameter, hloop] using hdecoder
    · simpa [startPictureParameter, hloop] using hbegun.chosen.currentPictureId
    · have hconfig : w.config = s.config := by
        rw [hw]
        exact hbegun.chosen.config
      rw [← hcount, State.setContext_config, hstored.config, hconfig]
      simp only [State.setContext_contexts, if_pos]
      exact selectContextDecodeSurfaceCount_congr rfl rfl rfl
    · simpa [startPictureParameter, hloop] using hbegun.pictureState
    · simpa [startPictureParameter, hloop] using hbegun.inputValidationFailed
    · simpa [startPictureParameter, hloop] using hbegun.buffersFailed
    · rw [State.setContext_lifetimeWriter, hwriter, hw]
      exact hbegun.lifetimeWriter
    · rw [State.setContext_cudaWorkUnsafe, hstored.cudaWorkUnsafe, hw]
      exact hworksafe
  obtain ⟨looked, hruns, hlooked, hend⟩ := hrendering.lookups hlookup
  refine ⟨looking, looked, ?_, hruns, hlooked, hend⟩
  rw [hw] at hlook
  exact Option.bind_eq_some_iff.mpr ⟨_, henter, Option.bind_eq_some_iff.mpr ⟨_, hlook, rfl⟩⟩

/-- A call that is not in progress has no section to run. -/
theorem step_idle (hphase : (s.contexts c).phase = .idle) :
    sections.step s (.call c .ok) = none := by
  show callStep s c .ok = none
  unfold callStep
  rw [hphase]

/-- The loop of `nvRenderPicture` goes on with a buffer only. -/
theorem step_renderLoop (hphase : (s.contexts c).phase = .renderLoop) :
    sections.step s (.call c .ok) = none := by
  show callStep s c .ok = none
  unfold callStep
  rw [hphase]
  rfl

/-- The next picture is decoded if and only if the surface count selected for it is at
least the number of indices in use with it. -/
theorem decodes_iff (hfree : Unblocked c r s) (hmasks : Masks s) (hvalid : s.config.Valid)
    (hpending : DecoderPending s c) (hlive : (s.surfaces r).life = .live)
    {buffer : PictureParameterBuffer}
    (hcodec : buffer.references.cudaCodec = (s.contexts c).cudaCodec)
    (haccepted : buffer.accepted = true) (slices : List (Nat × HostBuffers))
    (handle : DecoderRef) :
    Decodes c s r buffer slices handle ↔
      s.nextPictureId c r ≤ selectContextDecodeSurfaceCount s.config
        (startPictureParameter (s.contexts c) buffer) := by
  obtain ⟨entered, begun, hbegin, hruns, hbegun⟩ := begins hfree hmasks hvalid hpending hlive
  obtain ⟨looking, looked, hrender, hlookups, hrendering, hloop⟩ :=
    hbegun.renders hpending hfree.cudaWorkUnsafe hcodec haccepted
  rw [← hrendering.submits hloop slices handle]
  constructor
  · rintro ⟨entered', begun', looking', looked', t, hbegin', ⟨hruns', hidle⟩, hrender',
      ⟨hlookups', hloop'⟩, hsubmit, hend⟩
    -- The calls have no other way to go.
    cases hbegin.symm.trans hbegin'
    obtain rfl : begun = begun' :=
      hruns.unique hruns' (step_idle hbegun.phase) (step_idle hidle)
    cases hrender.symm.trans hrender'
    obtain rfl : looked = looked' :=
      hlookups.unique hlookups' (step_renderLoop hloop) (step_renderLoop hloop')
    exact ⟨t, hsubmit, hend⟩
  · rintro ⟨t, hsubmit, hend⟩
    exact ⟨entered, begun, looking, looked, t, hbegin, ⟨hruns, hbegun.phase⟩, hrender,
      ⟨hlookups, hloop⟩, hsubmit, hend⟩

/-- After any number of failed pictures of a context without a decoder, the next picture
reaches `cuvidDecodePicture` if and only if the indices handed out before, with one more
for each surface of the failed pictures and of the next one that had none, are at most as
many as the surfaces that the selection chooses. -/
theorem next_picture_decodes_iff {config : DriverConfig} {images : ImageRef → BackingImage}
    {rs : List SurfaceRef} (hreach : (driver config images).Reachable s)
    (hvalid : s.config.Valid) (hpending : DecoderPending s c) (hfailed : FailedPictures c s rs t)
    (hfree : Unblocked c r t) (hlive : (t.surfaces r).life = .live)
    {buffer : PictureParameterBuffer}
    (hcodec : buffer.references.cudaCodec = (s.contexts c).cudaCodec)
    (haccepted : buffer.accepted = true) (slices : List (Nat × HostBuffers))
    (handle : DecoderRef) :
    Decodes c t r buffer slices handle ↔
      indicesAfter s.config.decodeSurfacesMaximum (s.contexts c).currentPictureId
          (s.newSurfaces c (r :: rs)).card ≤
        selectContextDecodeSurfaceCount s.config
          (startPictureParameter (s.contexts c) buffer) := by
  obtain ⟨hmasks, hpending', hindexed⟩ :=
    hfailed.indexed (masks_of_reachable hreach) hvalid hpending
  have hsame : (t.contexts c).cudaCodec = (s.contexts c).cudaCodec :=
    congrArg PictureSetting.cudaCodec hindexed.setting
  have hselect : selectContextDecodeSurfaceCount s.config
      (startPictureParameter (t.contexts c) buffer) =
      selectContextDecodeSurfaceCount s.config
        (startPictureParameter (s.contexts c) buffer) :=
    select_startPictureParameter hsame hindexed.hint
      (congrArg PictureSetting.clientRenderTargetCount hindexed.setting)
  rw [decodes_iff hfree hmasks (hindexed.config ▸ hvalid) hpending' hlive
    (hcodec.trans hsame.symm) haccepted, hindexed.nextPictureId r, hindexed.config, hselect]

end Next

/-! ## Two failed pictures -/

instance (s : State) (c : ContextRef) : Decidable (DecoderPending s c) :=
  decidable_of_iff
    ((s.contexts c).life = .live ∧ (s.contexts c).entrypoint = .vld ∧
      (s.contexts c).cudaCodec ≠ .av1 ∧ (s.contexts c).decoder = none ∧
      (s.contexts c).destroying = false ∧ (s.contexts c).phase = .idle ∧
      (s.contexts c).pictureState = .idle)
    ⟨fun ⟨h₁, h₂, h₃, h₄, h₅, h₆, h₇⟩ => ⟨h₁, h₂, h₃, h₄, h₅, h₆, h₇⟩,
      fun h => ⟨h.life, h.entrypoint, h.codec, h.decoder, h.destroying, h.phase,
        h.pictureState⟩⟩

instance (c : ContextRef) (r : SurfaceRef) (s : State) : Decidable (Unblocked c r s) :=
  decidable_of_iff
    (s.lifetimeWriter = none ∧ s.cudaWorkUnsafe = false ∧ surfaceResolved s r = true ∧
      imageResolved s r = true ∧
      (∀ i < s.config.decodeSurfacesMaximum,
        ∀ owner ∈ (s.contexts c).pictureIndexOwners i, surfaceResolved s owner = true) ∧
      ∀ d ∈ (s.surfaces r).context, (s.contexts d).phase.assigning = false)
    ⟨fun ⟨h₁, h₂, h₃, h₄, h₅, h₆⟩ => ⟨h₁, h₂, h₃, h₄, h₅, h₆⟩,
      fun h => ⟨h.lifetimeWriter, h.cudaWorkUnsafe, h.surface, h.image, h.owners, h.assigning⟩⟩

/-- A JPEG context, for one render target, and three surfaces. -/
def jpegSetup : List Label :=
  [.createContext 0 .vld .jpeg ⟨0, 0, 8⟩ 1, .createSurface 0 ⟨0, 0, 8⟩ none,
    .createSurface 1 ⟨0, 0, 8⟩ none, .createSurface 2 ⟨0, 0, 8⟩ none]

/-- A picture whose `nvRenderPicture` gets invalid arguments. -/
def failedJpeg (r : SurfaceRef) : List Label :=
  beginScript 0 r 41 ++ failScript 0 2

/-- The parameters of a JPEG picture. -/
def jpegParameters : PictureParameterBuffer :=
  { references := .jpeg }

/-- No index has been handed out, and two surfaces are selected for a picture. -/
def jpegScenario :
    sections.Scenario (fun _ _ => True) fun s =>
      DecoderPending s 0 ∧ (s.surfaces 0).life = .live ∧ s.cudaWorkUnsafe = false ∧
        s.config = {} ∧ (s.contexts 0).currentPictureId = 0 ∧
        (s.contexts 0).cudaCodec = .jpeg ∧ (s.newSurfaces 0 [1, 0]).card = 2 ∧
        selectContextDecodeSurfaceCount {} (startPictureParameter (s.contexts 0) jpegParameters) =
          2 where
  labels := jpegSetup
  enabled := by decide +kernel
  ends := by decide +kernel

/-- One index is in use after a failed picture. -/
def oneFailedScenario :
    sections.Scenario (fun _ _ => True) fun s =>
      DecoderPending s 0 ∧ (s.surfaces 1).life = .live ∧ Unblocked 0 1 s where
  labels := jpegSetup ++ failedJpeg 0
  enabled := by decide +kernel
  ends := by decide +kernel

/-- Two indices are in use after two of them. -/
def twoFailedScenario :
    sections.Scenario (fun _ _ => True) fun s =>
      DecoderPending s 0 ∧ (s.surfaces 2).life = .live ∧ Unblocked 0 2 s ∧
        s.config = {} ∧ s.nextPictureId 0 2 = 3 ∧ (s.contexts 0).cudaCodec = .jpeg ∧
        selectContextDecodeSurfaceCount {} (startPictureParameter (s.contexts 0) jpegParameters) =
          2 where
  labels := jpegSetup ++ failedJpeg 0 ++ failedJpeg 1
  enabled := by decide +kernel
  ends := by decide +kernel

theorem defaultConfig_valid : ({} : DriverConfig).Valid :=
  ⟨Nat.le_refl _, by decide, Nat.le_refl _⟩

/-- A picture of the scenario has failed. -/
theorem failedJpeg_failed {labels : List Label} {r : SurfaceRef}
    (hexec : (sections.execute sections.init (labels ++ failedJpeg r)).isSome)
    (hlive : ((sections.after labels).surfaces r).life = .live)
    (hsafe : (sections.after labels).cudaWorkUnsafe = false)
    (hpending : DecoderPending (sections.after (labels ++ failedJpeg r)) 0) :
    FailedPicture 0 (sections.after labels) r (sections.after (labels ++ failedJpeg r)) where
  live := hlive
  cudaWorkUnsafe := hsafe
  run := by
    refine ⟨(failedJpeg r).tail, ?_, LabelledSystem.execute_after_append hexec⟩
    have hlabels : ∀ a ∈ (failedJpeg 0).tail, a.continues 0 = true := by decide
    exact hlabels
  pending := hpending

/-- A picture after one failed picture is decoded: two indices are in use. -/
theorem next_picture_decodes_jpeg :
    Decodes 0 (sections.after oneFailedScenario.labels) 1 jpegParameters [] 0 := by
  obtain ⟨hpending, hlive, hsafe, hconfig, hcurrent, hcodec, hnew, hselect⟩ := jpegScenario.ends
  obtain ⟨hpending', hlive', hfree⟩ := oneFailedScenario.ends
  have hvalid : (sections.after jpegScenario.labels).config.Valid := by
    rw [hconfig]
    exact defaultConfig_valid
  have hfailed : FailedPictures 0 (sections.after jpegScenario.labels) [0]
      (sections.after oneFailedScenario.labels) :=
    .cons .nil (failedJpeg_failed oneFailedScenario.execute hlive hsafe hpending')
  have hparameters : jpegParameters.references.cudaCodec =
      ((sections.after jpegScenario.labels).contexts 0).cudaCodec := hcodec.symm
  refine (next_picture_decodes_iff jpegScenario.reachable hvalid hpending hfailed hfree hlive'
    hparameters rfl [] 0).mpr ?_
  rw [hconfig, hcurrent, hnew, hselect]
  decide

/-- A picture after two failed pictures on other surfaces is not: three indices are in
use, and two surfaces are selected. -/
theorem next_picture_refused :
    ¬∀ (s t : State) (c : ContextRef) (rs : List SurfaceRef) (r : SurfaceRef)
      (buffer : PictureParameterBuffer) (slices : List (Nat × HostBuffers))
      (handle : DecoderRef), sections.Reachable s → s.config.Valid → DecoderPending s c →
      FailedPictures c s rs t → Unblocked c r t → (t.surfaces r).life = .live →
      buffer.references.cudaCodec = (s.contexts c).cudaCodec → buffer.accepted = true →
      Decodes c t r buffer slices handle := by
  intro hclaim
  obtain ⟨hpending, hlive, hsafe, hconfig, -, hcodec, -, -⟩ := jpegScenario.ends
  obtain ⟨hpending₁, hlive₁, hfree₁⟩ := oneFailedScenario.ends
  obtain ⟨hpending₂, hlive₂, hfree₂, hconfig₂, hnext, hcodec₂, hselect⟩ :=
    twoFailedScenario.ends
  have hfirst : FailedPicture 0 (sections.after jpegScenario.labels) 0
      (sections.after oneFailedScenario.labels) :=
    failedJpeg_failed oneFailedScenario.execute hlive hsafe hpending₁
  have hsecond : FailedPicture 0 (sections.after oneFailedScenario.labels) 1
      (sections.after twoFailedScenario.labels) :=
    failedJpeg_failed twoFailedScenario.execute hlive₁ hfree₁.cudaWorkUnsafe hpending₂
  have hvalid : (sections.after jpegScenario.labels).config.Valid := by
    rw [hconfig]
    exact defaultConfig_valid
  have hvalid₂ : (sections.after twoFailedScenario.labels).config.Valid := by
    rw [hconfig₂]
    exact defaultConfig_valid
  have hdecodes := hclaim _ _ 0 [1, 0] 2 jpegParameters [] 0 jpegScenario.reachable hvalid
    hpending (.cons (.cons .nil hfirst) hsecond) hfree₂ hlive₂ hcodec.symm rfl
  have hparameters : jpegParameters.references.cudaCodec =
      ((sections.after twoFailedScenario.labels).contexts 0).cudaCodec := hcodec₂.symm
  rw [decodes_iff hfree₂ (masks_of_reachable twoFailedScenario.reachable) hvalid₂ hpending₂
    hlive₂ hparameters rfl, hconfig₂, hnext, hselect] at hdecodes
  exact absurd hdecodes (by decide)

end Driver
end NvidiaVaapi
