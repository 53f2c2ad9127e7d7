import NvidiaVaapi.Driver.ReferenceMasks
import Mathlib.Data.Finset.Card

/-!
# Failed pictures before the decoder exists

Until a context has a decoder, picture indices are handed out below
`decodeSurfacesMaximum`; `createDecoderForContext` then selects a surface count and
refuses when more indices than that are in use.  A picture that fails keeps the index
that its surface was given.
-/

namespace NvidiaVaapi
namespace Driver

/-- The bounds that `nvDriverInit` establishes for the decode-surface settings. -/
structure DriverConfig.Valid (config : DriverConfig) : Prop where
  minimum : 1 ≤ config.decodeSurfacesMinimum
  ordered : config.decodeSurfacesMinimum ≤ config.decodeSurfacesMaximum
  maximum : config.decodeSurfacesMaximum ≤ nvdMaxDecodeSurfaces

/-- The corrections that `nvDriverInit` makes to the two settings it has parsed. -/
def DriverConfig.clamped (config : DriverConfig) : DriverConfig :=
  let minimum := if config.decodeSurfacesMinimum = 0 then 1 else config.decodeSurfacesMinimum
  let maximum :=
    if config.decodeSurfacesMaximum < minimum then minimum else config.decodeSurfacesMaximum
  let maximum := if nvdMaxDecodeSurfaces < maximum then nvdMaxDecodeSurfaces else maximum
  let minimum := if maximum < minimum then maximum else minimum
  { config with decodeSurfacesMinimum := minimum, decodeSurfacesMaximum := maximum }

theorem DriverConfig.clamped_valid (config : DriverConfig) : config.clamped.Valid := by
  unfold clamped nvdMaxDecodeSurfaces
  constructor
  · show 1 ≤ ite _ _ _
    split_ifs <;> omega
  · show ite _ _ _ ≤ ite _ _ _
    split_ifs <;> omega
  · show ite _ _ _ ≤ nvdMaxDecodeSurfaces
    unfold nvdMaxDecodeSurfaces
    split_ifs <;> omega

/-- A decode context between two pictures that has no decoder yet. -/
structure DecoderPending (s : State) (c : ContextRef) : Prop where
  life : (s.contexts c).life = .live
  entrypoint : (s.contexts c).entrypoint = .vld
  codec : (s.contexts c).cudaCodec ≠ .av1
  decoder : (s.contexts c).decoder = none
  destroying : (s.contexts c).destroying = false
  phase : (s.contexts c).phase = .idle
  pictureState : (s.contexts c).pictureState = .idle

/-- The steps of the driver, for runs from any state. -/
abbrev sections : LabelledSystem State Label :=
  driver {} fun _ => {}

/-- A label of the picture that has been begun on the context. -/
def Label.continues (c : ContextRef) : Label → Bool
  | .renderPicture d _ => d = c
  | .endPicture d => d = c
  | .call d _ => d = c
  | _ => false

/-- A picture on a live surface that ends without a decoder, and so has failed. -/
structure FailedPicture (c : ContextRef) (s : State) (r : SurfaceRef) (t : State) : Prop where
  live : (s.surfaces r).life = .live
  cudaWorkUnsafe : s.cudaWorkUnsafe = false
  run : ∃ labels : List Label, (∀ a ∈ labels, a.continues c = true) ∧
    sections.execute s (.beginPicture c r :: labels) = some t
  pending : DecoderPending t c

/-- Failed pictures on the surfaces of a list, the last one first. -/
inductive FailedPictures (c : ContextRef) (s : State) : List SurfaceRef → State → Prop
  | nil : FailedPictures c s [] s
  | cons {rs : List SurfaceRef} {t : State} {r : SurfaceRef} {u : State} :
      FailedPictures c s rs t → FailedPicture c t r u → FailedPictures c s (r :: rs) u

/-- The surface needs no new index for a picture of the context. -/
def State.holdsIndex (s : State) (c : ContextRef) (r : SurfaceRef) : Bool :=
  (s.surfaces r).pictureIdx ≠ -1 ∧
    ((s.surfaces r).context = none ∨ (s.surfaces r).context = some c)

/-- The surfaces of a list that need a new index. -/
def State.newSurfaces (s : State) (c : ContextRef) (rs : List SurfaceRef) : Finset SurfaceRef :=
  rs.toFinset.filter fun r => s.holdsIndex c r = false

/-- How many indices a context has handed out after `new` more surfaces: below the limit
each takes a fresh one. -/
def indicesAfter (limit allocated new : Nat) : Nat :=
  if allocated < limit then min limit (allocated + new) else allocated

/-- At the limit the count stays. -/
theorem indicesAfter_of_full {limit allocated new : Nat}
    (hfull : limit ≤ indicesAfter limit allocated new) {more : Nat} (hle : new ≤ more) :
    indicesAfter limit allocated more = indicesAfter limit allocated new := by
  unfold indicesAfter at hfull ⊢
  split at hfull
  · rename_i hbelow
    rw [if_pos hbelow, if_pos hbelow]
    omega
  · rename_i hreached
    rw [if_neg hreached, if_neg hreached]

/-- Below the limit one surface more takes one index more. -/
theorem indicesAfter_succ {limit allocated new : Nat}
    (hbelow : indicesAfter limit allocated new < limit) :
    indicesAfter limit (indicesAfter limit allocated new) 1 =
      indicesAfter limit allocated (new + 1) := by
  have hnext : indicesAfter limit (indicesAfter limit allocated new) 1 =
      min limit (indicesAfter limit allocated new + 1) := by
    show ite _ _ _ = _
    rw [if_pos hbelow]
  rw [hnext]
  unfold indicesAfter at hbelow ⊢
  split at hbelow
  · rename_i hstart
    rw [if_pos hstart, if_pos hstart]
    omega
  · rename_i hreached
    exact absurd hbelow hreached

/-! ## What a picture without a decoder leaves alone -/

/-- The fields of a context that no picture changes before the decoder exists. -/
structure PictureSetting where
  life : ObjectLife
  entrypoint : VAEntrypoint
  cudaCodec : CudaVideoCodec
  decoder : Option DecoderRef
  destroying : Bool
  activeReferenceMask : BitVec 32
  clientRenderTargetCount : Nat

def NVContext.setting (ctx : NVContext) : PictureSetting where
  life := ctx.life
  entrypoint := ctx.entrypoint
  cudaCodec := ctx.cudaCodec
  decoder := ctx.decoder
  destroying := ctx.destroying
  activeReferenceMask := ctx.activeReferenceMask
  clientRenderTargetCount := ctx.clientRenderTargetCount

/-- What stays of a context through all sections but the one that hands out an index. -/
structure NVContext.Kept (ctx ctx' : NVContext) : Prop where
  setting : ctx'.setting = ctx.setting
  hint : ctx.cudaCodec ≠ .h264 → ctx.cudaCodec ≠ .hevc →
    ctx'.decodeSurfaceReferenceHint = ctx.decodeSurfaceReferenceHint
  currentPictureId : ctx'.currentPictureId = ctx.currentPictureId
  owners : ctx'.pictureIndexOwners = ctx.pictureIndexOwners

theorem NVContext.Kept.refl (ctx : NVContext) : ctx.Kept ctx :=
  ⟨rfl, fun _ _ => rfl, rfl, rfl⟩

theorem NVContext.Kept.trans {ctx ctx' ctx'' : NVContext} (hfirst : ctx.Kept ctx')
    (hsecond : ctx'.Kept ctx'') : ctx.Kept ctx'' where
  setting := hsecond.setting.trans hfirst.setting
  hint := by
    have hcodec : ctx'.cudaCodec = ctx.cudaCodec :=
      congrArg PictureSetting.cudaCodec hfirst.setting
    intro h264 hhevc
    rw [← hfirst.hint h264 hhevc]
    exact hsecond.hint (hcodec ▸ h264) (hcodec ▸ hhevc)
  currentPictureId := hsecond.currentPictureId.trans hfirst.currentPictureId
  owners := hsecond.owners.trans hfirst.owners

/-- The rest of what stays: the settings of the driver and the indices of surfaces. -/
structure KeepsIndices (c : ContextRef) (s t : State) : Prop where
  context : (s.contexts c).Kept (t.contexts c)
  config : t.config = s.config
  cudaWorkUnsafe : t.cudaWorkUnsafe = s.cudaWorkUnsafe
  life : ∀ q, (t.surfaces q).life = (s.surfaces q).life
  holds : ∀ q, t.holdsIndex c q = s.holdsIndex c q

section Sections

variable {s t u s' : State} {c : ContextRef} {r : SurfaceRef}

namespace KeepsIndices

theorem refl (c : ContextRef) (s : State) : KeepsIndices c s s :=
  ⟨.refl _, rfl, rfl, fun _ => rfl, fun _ => rfl⟩

theorem trans (hfirst : KeepsIndices c s t) (hsecond : KeepsIndices c t u) :
    KeepsIndices c s u where
  context := hfirst.context.trans hsecond.context
  config := hsecond.config.trans hfirst.config
  cudaWorkUnsafe := hsecond.cudaWorkUnsafe.trans hfirst.cudaWorkUnsafe
  life := fun q => (hsecond.life q).trans (hfirst.life q)
  holds := fun q => (hsecond.holds q).trans (hfirst.holds q)

theorem setContext (hkept : KeepsIndices c s t) {ctx : NVContext}
    (hctx : (t.contexts c).Kept ctx) : KeepsIndices c s (t.setContext c ctx) := by
  refine hkept.trans ⟨?_, rfl, rfl, fun _ => rfl, fun _ => rfl⟩
  simpa using hctx

theorem goto (hkept : KeepsIndices c s t) (phase : Phase) : KeepsIndices c s (goto t c phase) :=
  hkept.setContext ⟨rfl, fun _ _ => rfl, rfl, rfl⟩

/-- A surface is replaced by one with the same index. -/
theorem setSurface (hkept : KeepsIndices c s t) {surface : NVSurface}
    (hlife : surface.life = (t.surfaces r).life)
    (hindex : surface.pictureIdx = (t.surfaces r).pictureIdx)
    (hcontext : surface.context = (t.surfaces r).context) :
    KeepsIndices c s (t.setSurface r surface) := by
  refine hkept.trans ⟨.refl _, rfl, rfl, fun q => ?_, fun q => ?_⟩
  · by_cases hq : q = r
    · simp [hq, hlife]
    · simp [hq]
  · unfold State.holdsIndex
    by_cases hq : q = r
    · simp [hq, hindex, hcontext]
    · simp [hq]

theorem imageSection (hkept : KeepsIndices c s t) (resolving : Bool) :
    KeepsIndices c s (setSurfaceBackingImageResolving t r resolving) :=
  hkept.trans ⟨.refl _, rfl, rfl, fun _ => rfl, fun _ => rfl⟩

theorem clear (hkept : KeepsIndices c s t) (section_ : ClearSection) :
    KeepsIndices c s (section_.run t) := by
  cases section_ with
  | image r => exact hkept.imageSection false
  | finish r => exact hkept.setSurface rfl rfl rfl
  | fail r status => exact hkept.setSurface rfl rfl rfl

theorem record (hkept : KeepsIndices c s t) : KeepsIndices c s (recordFailure t c) :=
  hkept.trans ⟨.refl _, rfl, rfl, fun _ => rfl, fun _ => rfl⟩

theorem read (hkept : KeepsIndices c s t) : KeepsIndices c s (lifetimeReadLock t c) :=
  hkept.trans ⟨.refl _, rfl, rfl, fun _ => rfl, fun _ => rfl⟩

theorem leave (hkept : KeepsIndices c s t) {ctx : NVContext} (status : VAStatus)
    (hctx : (t.contexts c).Kept ctx) : KeepsIndices c s (leave t c ctx status) := by
  have hset : KeepsIndices c s (t.setContext c { ctx with phase := .idle, result := status }) :=
    hkept.setContext ⟨hctx.setting, hctx.hint, hctx.currentPictureId, hctx.owners⟩
  exact hset.trans ⟨.refl _, rfl, rfl, fun _ => rfl, fun _ => rfl⟩

end KeepsIndices

/-- The program points of a decode picture behind the index assignment, up to the
creation of the decoder. -/
@[simp] def Phase.prepares : Phase → Bool
  | .idle => true
  | .clearing _ next => next.prepares
  | .reset _ => true
  | .ret _ => true
  | .beginStartImage _ => true
  | .beginStart _ => true
  | .beginInit _ => true
  | .renderLoop => true
  | .renderLookup .. => true
  | .endCreateDecoder => true
  | _ => false

@[simp] theorem Phase.prepares_after (todo : List ClearSection) (next : Phase) :
    (Phase.after todo next).prepares = next.prepares := by
  cases todo <;> rfl

/-- A section that changes no index and stays before the decoder. -/
structure Prepares (c : ContextRef) (s s' : State) : Prop where
  kept : KeepsIndices c s s'
  phase : (s'.contexts c).phase.prepares = true

namespace Prepares

theorem replace (hkept : KeepsIndices c s t) {ctx : NVContext} (hctx : (t.contexts c).Kept ctx)
    (hphase : ctx.phase.prepares = true) : Prepares c s (t.setContext c ctx) :=
  ⟨hkept.setContext hctx, by simpa using hphase⟩

theorem goto (hkept : KeepsIndices c s t) {phase : Phase} (hphase : phase.prepares = true) :
    Prepares c s (goto t c phase) :=
  .replace hkept ⟨rfl, fun _ _ => rfl, rfl, rfl⟩ hphase

theorem renderFailure {ctx : NVContext} {first : List ClearSection} {status : VAStatus}
    (hkept : KeepsIndices c s t) (hctx : (t.contexts c).Kept ctx) :
    Prepares c s (renderFailure t c ctx first status) :=
  .replace (t := recordFailure t c) hkept.record
    ⟨hctx.setting, hctx.hint, hctx.currentPictureId, hctx.owners⟩
    (by simp [Phase.prepares])

theorem endFailure {ctx : NVContext} {first : List ClearSection} {status : VAStatus}
    (hkept : KeepsIndices c s t) (hctx : (t.contexts c).Kept ctx) :
    Prepares c s (endFailure t c ctx first status) :=
  .replace (t := recordFailure t c) hkept.record
    ⟨hctx.setting, hctx.hint, hctx.currentPictureId, hctx.owners⟩
    (by simp [Phase.prepares])

theorem leave {ctx : NVContext} {status : VAStatus} (hkept : KeepsIndices c s t)
    (hctx : (t.contexts c).Kept ctx) : Prepares c s (leave t c ctx status) :=
  ⟨hkept.leave status hctx, by simp [Driver.leave, Phase.prepares]⟩

theorem enter {ctx : NVContext} {phase : Phase} (hctx : (s.contexts c).Kept ctx)
    (hphase : phase.prepares = true) : Prepares c s (enter s c ctx phase) :=
  .replace (KeepsIndices.refl c s).read
    ⟨hctx.setting, hctx.hint, hctx.currentPictureId, hctx.owners⟩ hphase

theorem afterHandler (hkept : KeepsIndices c s t) {ctx : NVContext}
    (hctx : (t.contexts c).Kept ctx) : Prepares c s (afterHandler t c ctx) := by
  unfold Driver.afterHandler
  split
  · exact .renderFailure hkept hctx
  · split
    · exact .renderFailure hkept hctx
    · exact .replace hkept ⟨hctx.setting, hctx.hint, hctx.currentPictureId, hctx.owners⟩ rfl

end Prepares

theorem startPictureParameter_kept (ctx : NVContext) (buffer : PictureParameterBuffer) :
    ctx.Kept (startPictureParameter ctx buffer) := by
  refine ⟨rfl, fun h264 hhevc => ?_, rfl, rfl⟩
  show ite _ _ _ = _
  rw [if_neg]
  rintro (h | h)
  · exact h264 h
  · exact hhevc h

theorem storeProgressiveFrame_kept (ctx : NVContext) (buffer : PictureParameterBuffer) :
    KeepsIndices c s (storeProgressiveFrame s ctx buffer) := by
  unfold storeProgressiveFrame
  split
  · exact .refl c s
  · split
    · exact (KeepsIndices.refl c s).setSurface rfl rfl rfl
    · exact .refl c s

theorem renderLoop_prepares {outcome : Outcome} (hstep : renderLoop s c outcome = some s') :
    Prepares c s s' := by
  have hreject : ∀ status, Prepares c s (rejectBuffer s c status) := fun status =>
    .renderFailure (.refl c s) ⟨rfl, fun _ _ => rfl, rfl, rfl⟩
  unfold renderLoop at hstep
  split at hstep
  · cases hstep
    exact .goto (.refl c s) rfl
  · cases hstep
    exact hreject _
  · cases hstep
    exact hreject _
  · cases hstep
    exact hreject _
  · cases hstep
    exact hreject _
  · cases hstep
    exact hreject _
  · cases hstep
    exact .renderFailure (.refl c s) ⟨rfl, fun _ _ => rfl, rfl, rfl⟩
  · rename_i buffer
    split at hstep
    · cases hstep
    · simp only at hstep
      have hstart := startPictureParameter_kept (s.contexts c) buffer
      have hstore : KeepsIndices c s (storeProgressiveFrame s
          (startPictureParameter (s.contexts c) buffer) buffer) :=
        storeProgressiveFrame_kept _ _
      have hcontexts := storeProgressiveFrame_contexts s
        (startPictureParameter (s.contexts c) buffer) buffer
      split at hstep
      · cases hstep
        refine .afterHandler hstore ?_
        rw [hcontexts]
        exact ⟨hstart.setting, hstart.hint, hstart.currentPictureId, hstart.owners⟩
      · cases hstep
        refine .replace hstore ?_ rfl
        rw [hcontexts]
        exact ⟨hstart.setting, hstart.hint, hstart.currentPictureId, hstart.owners⟩
  · cases hstep
    exact .afterHandler (.refl c s) ⟨rfl, fun _ _ => rfl, rfl, rfl⟩
  · cases hstep

theorem renderLookup_prepares {buffer : PictureParameterBuffer}
    {found : List (Option SurfaceRef × Int)} {todo : List (Option SurfaceRef)}
    (hstep : renderLookup s c buffer found todo = some s') : Prepares c s s' := by
  unfold renderLookup at hstep
  split at hstep
  · cases hstep
    exact .goto (.refl c s) rfl
  · cases hstep
    refine .replace (.refl c s) ?_ rfl
    unfold noteReference
    split <;> exact ⟨rfl, fun _ _ => rfl, rfl, rfl⟩
  · simp only at hstep
    split at hstep
    · cases hstep
      refine .afterHandler (.refl c s) ?_
      unfold finishAV1PicParam
      split <;> exact ⟨rfl, fun _ _ => rfl, rfl, rfl⟩
    · cases hstep
      exact .afterHandler (.refl c s) ⟨rfl, fun _ _ => rfl, rfl, rfl⟩

/-- The decoder is refused while more indices are in use than surfaces are selected. -/
theorem endCreateDecoder_prepares {outcome : Outcome}
    (hstep : endCreateDecoder s c outcome = some s') :
    Prepares c s s' ∨ (s'.contexts c).decoder.isSome = true := by
  unfold endCreateDecoder at hstep
  simp only at hstep
  split at hstep
  · rename_i hsome
    cases hstep
    exact .inr (by simpa using hsome)
  · split at hstep
    · cases hstep
      exact .inl (.endFailure (.refl c s) ⟨rfl, fun _ _ => rfl, rfl, rfl⟩)
    · split at hstep
      · cases hstep
        exact .inr (by simp)
      · cases hstep
        exact .inl (.endFailure (.refl c s) ⟨rfl, fun _ _ => rfl, rfl, rfl⟩)
      · cases hstep
        exact .inl (.endFailure (.refl c s) ⟨rfl, fun _ _ => rfl, rfl, rfl⟩)
      · cases hstep

/-- Behind the index assignment no section changes an index until the decoder exists. -/
theorem callStep_prepares {outcome : Outcome} (hphase : (s.contexts c).phase.prepares = true)
    (hstep : callStep s c outcome = some s') :
    Prepares c s s' ∨ (s'.contexts c).decoder.isSome = true := by
  unfold callStep at hstep
  split at hstep
  case h_1 h => cases hstep
  case h_2 todo next h =>
    have hnext : next.prepares = true := by
      rw [h] at hphase
      exact hphase
    unfold clearNext at hstep
    split at hstep
    · cases hstep
      exact .inl (.goto (.refl c s) hnext)
    · rename_i section_ rest
      cases hstep
      exact .inl (.goto ((KeepsIndices.refl c s).clear _) (by rw [Phase.prepares_after, hnext]))
  case h_3 status h =>
    cases hstep
    exact .inl (.leave (.refl c s) ⟨rfl, fun _ _ => rfl, rfl, rfl⟩)
  case h_4 status h =>
    cases hstep
    exact .inl (.leave (.refl c s) (.refl _))
  case h_12 q h =>
    cases hstep
    exact .inl (.goto ((KeepsIndices.refl c s).imageSection true) rfl)
  case h_13 q h =>
    unfold beginStart at hstep
    simp only at hstep
    have hstart : KeepsIndices c s (s.setSurface q ((s.surfaces q).start (currentPicture s c))) :=
      (KeepsIndices.refl c s).setSurface rfl rfl rfl
    split at hstep <;> cases hstep <;>
      exact .inl (.replace hstart ⟨rfl, fun _ _ => rfl, rfl, rfl⟩ rfl)
  case h_14 q h =>
    cases hstep
    have hstore : KeepsIndices c s
        (s.setSurface q { s.surfaces q with progressiveFrame := true }) :=
      (KeepsIndices.refl c s).setSurface rfl rfl rfl
    exact .inl (.replace hstore ⟨rfl, fun _ _ => rfl, rfl, rfl⟩ rfl)
  case h_15 h => exact .inl (renderLoop_prepares hstep)
  case h_16 buffer todo found h => exact .inl (renderLookup_prepares hstep)
  case h_23 h => exact endCreateDecoder_prepares hstep
  all_goals
    rename_i h
    rw [h] at hphase
    cases hphase

/-! ## The index assignment -/

/-- The program points of `nvBeginPicture` up to the end of the index assignment. -/
def Phase.chooses (r : SurfaceRef) (limit : Nat) : Phase → Prop
  | .beginWaitSurface q => q = r
  | .beginWaitImage q => q = r
  | .beginRelease q => q = r
  | .beginAssign q => q = r
  | .assignScan q l _ _ => q = r ∧ l = limit
  | .assignWaitSurface q l _ => q = r ∧ l = limit
  | .assignWaitImage q l _ => q = r ∧ l = limit
  | _ => False

/-- The index of the surface has not been looked for, or has not been found yet. -/
structure Choosing (c : ContextRef) (r : SurfaceRef) (s u : State) : Prop where
  kept : KeepsIndices c s u
  phase : (u.contexts c).phase.chooses r s.config.decodeSurfacesMaximum
  own : (u.contexts c).phase = .beginAssign r →
    (u.surfaces r).context = none ∨ (u.surfaces r).context = some c
  assigning : (u.contexts c).phase.assigning = true → s.holdsIndex c r = false

/-- The number of indices in use after a picture on the surface. -/
def State.nextPictureId (s : State) (c : ContextRef) (r : SurfaceRef) : Nat :=
  if s.holdsIndex c r = true then (s.contexts c).currentPictureId
  else indicesAfter s.config.decodeSurfacesMaximum (s.contexts c).currentPictureId 1

/-- The surface has its index.  Once the limit is reached an index is taken from another
surface, so which surfaces have one is known only below it. -/
structure Chosen (c : ContextRef) (r : SurfaceRef) (s u : State) : Prop where
  setting : (u.contexts c).setting = (s.contexts c).setting
  hint : (s.contexts c).cudaCodec ≠ .h264 → (s.contexts c).cudaCodec ≠ .hevc →
    (u.contexts c).decodeSurfaceReferenceHint = (s.contexts c).decodeSurfaceReferenceHint
  config : u.config = s.config
  cudaWorkUnsafe : u.cudaWorkUnsafe = s.cudaWorkUnsafe
  life : ∀ q, (u.surfaces q).life = (s.surfaces q).life
  currentPictureId : (u.contexts c).currentPictureId = s.nextPictureId c r
  holds : s.nextPictureId c r < s.config.decodeSurfacesMaximum →
    ∀ q, u.holdsIndex c q = (s.holdsIndex c q || q = r)

theorem Chosen.keeps (hchosen : Chosen c r s t) (hkept : KeepsIndices c t u) :
    Chosen c r s u where
  setting := hkept.context.setting.trans hchosen.setting
  hint := by
    have hcodec : (t.contexts c).cudaCodec = (s.contexts c).cudaCodec :=
      congrArg PictureSetting.cudaCodec hchosen.setting
    intro h264 hhevc
    rw [← hchosen.hint h264 hhevc]
    exact hkept.context.hint (hcodec ▸ h264) (hcodec ▸ hhevc)
  config := hkept.config.trans hchosen.config
  cudaWorkUnsafe := hkept.cudaWorkUnsafe.trans hchosen.cudaWorkUnsafe
  life := fun q => (hkept.life q).trans (hchosen.life q)
  currentPictureId := hkept.context.currentPictureId.trans hchosen.currentPictureId
  holds := fun hbelow q => (hkept.holds q).trans (hchosen.holds hbelow q)

/-- No index is taken: the surface has one, or every index below the limit is in use. -/
theorem KeepsIndices.chosen (hkept : KeepsIndices c s u)
    (hchosen : s.holdsIndex c r = true ∨
      s.config.decodeSurfacesMaximum ≤ (s.contexts c).currentPictureId) : Chosen c r s u where
  setting := hkept.context.setting
  hint := hkept.context.hint
  config := hkept.config
  cudaWorkUnsafe := hkept.cudaWorkUnsafe
  life := hkept.life
  currentPictureId := by
    rw [hkept.context.currentPictureId]
    unfold State.nextPictureId indicesAfter
    rcases hchosen with hholds | hfull
    · rw [if_pos hholds]
    · rw [if_neg (Nat.not_lt.mpr hfull), ite_self]
  holds := by
    intro hbelow q
    rw [hkept.holds q]
    rcases hchosen with hholds | hfull
    · by_cases hq : q = r
      · simp [hq, hholds]
      · simp [hq]
    · have hnext : s.nextPictureId c r = (s.contexts c).currentPictureId := by
        unfold State.nextPictureId indicesAfter
        rw [if_neg (Nat.not_lt.mpr hfull), ite_self]
      omega

/-- `releaseSurfacePictureIndex` on a surface of another context. -/
theorem release_keeps (hforeign : (s.surfaces r).context ≠ none ∧ (s.surfaces r).context ≠ some c)
    (hrelease : releaseSurfacePictureIndex s r = some t) :
    KeepsIndices c s t ∧ (t.surfaces r).context = none := by
  have hdetach : ∀ v : State, v.contexts c = s.contexts c → v.surfaces = s.surfaces →
      v.config = s.config → v.cudaWorkUnsafe = s.cudaWorkUnsafe →
      KeepsIndices c s (v.setSurface r (s.surfaces r).detached) ∧
        ((v.setSurface r (s.surfaces r).detached).surfaces r).context = none := by
    intro v hcontext hsurfaces hconfig hworksafe
    refine ⟨⟨?_, hconfig, hworksafe, fun q => ?_, fun q => ?_⟩, ?_⟩
    · rw [State.setSurface_contexts, hcontext]
      exact .refl _
    · by_cases hq : q = r
      · simp [hq, NVSurface.detached]
      · simp [hq, hsurfaces]
    · unfold State.holdsIndex
      by_cases hq : q = r
      · simp [hq, NVSurface.detached, hforeign.1, hforeign.2]
      · simp [hq, hsurfaces]
    · simp [NVSurface.detached]
  unfold releaseSurfacePictureIndex at hrelease
  simp only at hrelease
  split at hrelease
  · rename_i hnone
    exact absurd hnone hforeign.1
  · rename_i d hd
    have hne : c ≠ d := fun h => hforeign.2 (h ▸ hd)
    split at hrelease
    · cases hrelease
      exact hdetach s rfl rfl rfl rfl
    · split at hrelease
      · cases hrelease
      · split at hrelease
        · cases hrelease
          exact hdetach _ (by simp [hne]) rfl rfl rfl
        · cases hrelease
          exact hdetach s rfl rfl rfl rfl

/-- A selected index is taken by the surface: a fresh one below the limit, and otherwise
one that another surface loses. -/
theorem Choosing.commit (hchoosing : Choosing c r s u) (hmasks : Masks u)
    (hassigning : (u.contexts c).phase.assigning = true) {cursor selected : Nat}
    {active busy : BitVec 32}
    (hselect : nvdSelectPictureIndex (u.contexts c).currentPictureId
      s.config.decodeSurfacesMaximum active busy cursor = some selected) :
    Chosen c r s (commitSurfacePictureIndex u c r s.config.decodeSurfacesMaximum selected) := by
  have hnew := hchoosing.assigning hassigning
  have hcurrent := hchoosing.kept.context.currentPictureId
  obtain ⟨-, hlimit, hselected⟩ := nvdSelectPictureIndex_spec hselect
  rw [hcurrent] at hselected
  have hnext : s.nextPictureId c r =
      if selected = (s.contexts c).currentPictureId then (s.contexts c).currentPictureId + 1
      else (s.contexts c).currentPictureId := by
    unfold State.nextPictureId indicesAfter
    rw [if_neg (by simp [hnew])]
    rcases hselected with ⟨hbelow, heq⟩ | ⟨hfull, -⟩
    · rw [if_pos hbelow, if_pos heq]
      omega
    · rw [if_neg (by omega), if_neg (by omega)]
  have hforget := forgetPreviousOwner_contexts u c r selected
  -- Looking at other surfaces changes only whether they keep an index.
  have hlife : ∀ q, ((forgetPreviousOwner u c r selected).surfaces q).life =
      (u.surfaces q).life := by
    intro q
    unfold forgetPreviousOwner
    split
    · rfl
    · split
      · rename_i owner _ _
        by_cases hq : q = owner <;> simp [hq]
      · rfl
  have hrest : (forgetPreviousOwner u c r selected).config = u.config ∧
      (forgetPreviousOwner u c r selected).cudaWorkUnsafe = u.cudaWorkUnsafe := by
    unfold forgetPreviousOwner
    split
    · exact ⟨rfl, rfl⟩
    · split <;> exact ⟨rfl, rfl⟩
  unfold commitSurfacePictureIndex takeIndex
  constructor
  · simp only [State.setContext_contexts, if_pos]
    rw [hforget]
    exact hchoosing.kept.context.setting
  · intro h264 hhevc
    simp only [State.setContext_contexts, if_pos]
    rw [hforget]
    exact hchoosing.kept.context.hint h264 hhevc
  · exact hrest.1.trans hchoosing.kept.config
  · exact hrest.2.trans hchoosing.kept.cudaWorkUnsafe
  · intro q
    by_cases hq : q = r
    · simp [hq, hlife, hchoosing.kept.life]
    · simp [hq, hlife, hchoosing.kept.life]
  · simp only [State.setContext_contexts, if_pos]
    rw [hnext, hcurrent]
  · intro hbelow q
    -- Below the limit the index is fresh, and a fresh index has no owner.
    have hfresh : selected = (s.contexts c).currentPictureId := by
      rcases hselected with ⟨-, heq⟩ | ⟨hfull, -⟩
      · exact heq
      · rw [hnext, if_neg (by omega)] at hbelow
        omega
    have hunowned : (u.contexts c).pictureIndexOwners selected = none := by
      by_contra howned
      have hlt := (hmasks.contexts c).owners selected howned
      omega
    have hsame : forgetPreviousOwner u c r selected = u := by
      unfold forgetPreviousOwner
      rw [hunowned]
    rw [hsame, ← hchoosing.kept.holds q]
    unfold State.holdsIndex
    by_cases hq : q = r
    · simp only [State.setContext_surfaces, State.setSurface_surfaces, if_pos hq]
      simp [hq]
    · simp [hq]

theorem KeepsIndices.choosing (hkept : KeepsIndices c s u) {phase : Phase}
    (hphase : phase.chooses r s.config.decodeSurfacesMaximum)
    (hown : phase = .beginAssign r →
      (u.surfaces r).context = none ∨ (u.surfaces r).context = some c)
    (hassigning : phase.assigning = true → s.holdsIndex c r = false) :
    Choosing c r s (Driver.goto u c phase) := by
  refine ⟨hkept.goto phase, ?_, ?_, ?_⟩
  · simpa [Driver.goto] using hphase
  · simpa [Driver.goto] using hown
  · simpa [Driver.goto] using hassigning

/-- `nvdSelectPictureIndex` finds a fresh index below a valid limit. -/
theorem nvdSelectPictureIndex_none {allocated limit : Nat} {active busy : BitVec 32}
    {cursor : Nat} (hpos : 1 ≤ limit) (hle : limit ≤ nvdMaxDecodeSurfaces)
    (hselect : nvdSelectPictureIndex allocated limit active busy cursor = none) :
    limit ≤ allocated := by
  unfold nvdSelectPictureIndex at hselect
  rw [if_neg (by omega)] at hselect
  by_contra hbelow
  rw [if_pos (by omega)] at hselect
  cases hselect

theorem Choosing.beginAssign (hchoosing : Choosing c r s u) (hvalid : s.config.Valid)
    (hpending : DecoderPending s c) (hphase : (u.contexts c).phase = .beginAssign r)
    (hstep : beginAssign u c r = some s') :
    (Choosing c r s s' ∧ (s'.contexts c).phase =
      .assignScan r s.config.decodeSurfacesMaximum 0 0#32) ∨
    (Chosen c r s s' ∧ (s'.contexts c).phase = .beginStartImage r) := by
  have hsetting := hchoosing.kept.context.setting
  have hdecoder : (u.contexts c).decoder = none :=
    (congrArg PictureSetting.decoder hsetting).trans hpending.decoder
  have hdestroying : (u.contexts c).destroying = false :=
    (congrArg PictureSetting.destroying hsetting).trans hpending.destroying
  have hcodec : (u.contexts c).cudaCodec ≠ .av1 := by
    have hsame : (u.contexts c).cudaCodec = (s.contexts c).cudaCodec :=
      congrArg PictureSetting.cudaCodec hsetting
    rw [hsame]
    exact hpending.codec
  have hminimum := hvalid.minimum
  have hordered := hvalid.ordered
  have hmaximum := hvalid.maximum
  have hholds := hchoosing.kept.holds r
  have hown := hchoosing.own hphase
  unfold Driver.beginAssign at hstep
  split at hstep
  · rename_i hrecreate
    simp [recreateDecoderForSurface, hdecoder] at hrecreate
  · rename_i ctx hrecreate
    -- The format follows the surface; the rest of the context stays.
    have hctx : { u.contexts c with decoderFormat := (u.surfaces r).format } = ctx := by
      simpa [recreateDecoderForSurface, hdecoder] using hrecreate
    have hformat : (u.contexts c).Kept ctx := by
      rw [← hctx]
      exact ⟨rfl, fun _ _ => rfl, rfl, rfl⟩
    have hkept : KeepsIndices c s (u.setContext c ctx) := hchoosing.kept.setContext hformat
    have hlimit : surfaceLimit (u.setContext c ctx) c = s.config.decodeSurfacesMaximum := by
      unfold surfaceLimit
      rw [← hctx]
      simp [hdecoder, hchoosing.kept.config]
    have hctxDestroying : ctx.destroying = false := by
      rw [← hctx]
      exact hdestroying
    have hctxCodec : ctx.cudaCodec ≠ .av1 := by
      rw [← hctx]
      exact hcodec
    simp only [State.setContext_surfaces] at hstep
    rw [hlimit] at hstep
    split at hstep
    · rename_i hindex
      cases hstep
      have hheld : s.holdsIndex c r = true := by
        rw [← hholds]
        unfold State.holdsIndex
        simpa [hown] using hindex
      exact .inr ⟨(hkept.goto _).chosen (.inl hheld), by simp [Driver.goto]⟩
    · rename_i hindex
      have hlost : (u.surfaces r).pictureIdx = -1 := by simpa using hindex
      have hnew : s.holdsIndex c r = false := by
        rw [← hholds]
        unfold State.holdsIndex
        simp [hlost]
      split at hstep
      · rename_i hrefused
        rcases hrefused with h | h | h
        · omega
        · omega
        · simp [hctxDestroying] at h
      · split at hstep
        · rename_i hassigned
          simp [alreadyAssigned, hlost] at hassigned
        · cases hstep
          exact .inl ⟨hkept.choosing ⟨rfl, rfl⟩ (by simp) fun _ => hnew, by simp [Driver.goto]⟩

theorem Choosing.assignScan (hchoosing : Choosing c r s u) (hvalid : s.config.Valid)
    (hmasks : Masks u) {i : Nat} {busyMask : BitVec 32}
    (hphase : (u.contexts c).phase = .assignScan r s.config.decodeSurfacesMaximum i busyMask)
    (hstep : assignScan u c r s.config.decodeSurfacesMaximum i busyMask = some s') :
    Choosing c r s s' ∨ (Chosen c r s s' ∧ (s'.contexts c).phase.prepares = true) := by
  have hassigning : (u.contexts c).phase.assigning = true := by
    rw [hphase]
    rfl
  have hminimum := hvalid.minimum
  have hordered := hvalid.ordered
  have hnew := hchoosing.assigning hassigning
  unfold Driver.assignScan at hstep
  simp only at hstep
  split at hstep
  · split at hstep <;> cases hstep <;>
      exact .inl (hchoosing.kept.choosing ⟨rfl, rfl⟩ (by simp) fun _ => hnew)
  · split at hstep
    · rename_i selected hselect
      cases hstep
      have hchosen := hchoosing.commit hmasks hassigning hselect
      exact .inr ⟨hchosen.keeps ((KeepsIndices.refl c _).goto _),
        by simp [Driver.goto, Phase.prepares]⟩
    · rename_i hselect
      have hfull := nvdSelectPictureIndex_none (by omega) hvalid.maximum hselect
      rw [hchoosing.kept.context.currentPictureId] at hfull
      split at hstep
      · cases hstep
        exact .inr ⟨(hchoosing.kept.goto _).chosen (.inr hfull),
          by simp [Driver.goto, beginFailure, Phase.prepares]⟩
      · cases hstep
        exact .inl (hchoosing.kept.choosing ⟨rfl, rfl⟩ (by simp) fun _ => hnew)

/-- Every section of the index assignment stays in it or ends it. -/
theorem Choosing.callStep (hchoosing : Choosing c r s u) (hvalid : s.config.Valid)
    (hpending : DecoderPending s c) (hmasks : Masks u) {outcome : Outcome}
    (hstep : callStep u c outcome = some s') :
    Choosing c r s s' ∨ (Chosen c r s s' ∧ (s'.contexts c).phase.prepares = true) := by
  have hchooses := hchoosing.phase
  have hvld : (u.contexts c).entrypoint = .vld :=
    (congrArg PictureSetting.entrypoint hchoosing.kept.context.setting).trans hpending.entrypoint
  unfold Driver.callStep at hstep
  split at hstep
  case h_5 q hphase =>
    rw [hphase] at hchooses
    cases hchooses
    unfold beginWaitSurface at hstep
    split at hstep <;> cases hstep
    exact .inl (hchoosing.kept.choosing rfl (by simp) (by simp [Phase.assigning]))
  case h_6 q hphase =>
    rw [hphase] at hchooses
    cases hchooses
    unfold beginWaitImage at hstep
    split at hstep <;> cases hstep
    rw [if_neg (by simp [hvld])]
    exact .inl (hchoosing.kept.choosing rfl (by simp) (by simp [Phase.assigning]))
  case h_7 q hphase =>
    rw [hphase] at hchooses
    cases hchooses
    unfold beginRelease at hstep
    split at hstep
    · rename_i hforeign
      obtain ⟨v, hrelease, rfl⟩ := Option.map_eq_some_iff.mp hstep
      obtain ⟨hkept, hdetached⟩ := release_keeps hforeign hrelease
      exact .inl ((hchoosing.kept.trans hkept).choosing rfl (fun _ => .inl hdetached)
        (by simp [Phase.assigning]))
    · rename_i hown
      cases hstep
      refine .inl (hchoosing.kept.choosing rfl (fun _ => ?_) (by simp [Phase.assigning]))
      by_cases hnone : (u.surfaces r).context = none
      · exact .inl hnone
      · exact .inr (by simpa [hnone] using hown)
  case h_8 q hphase =>
    have hq := hchooses
    rw [hphase] at hq
    cases hq
    refine (hchoosing.beginAssign hvalid hpending hphase hstep).imp And.left ?_
    rintro ⟨hchosen, hstarts⟩
    exact ⟨hchosen, by rw [hstarts]; rfl⟩
  case h_9 q limit i busyMask hphase =>
    have hq := hchooses
    rw [hphase] at hq
    obtain ⟨rfl, rfl⟩ := hq
    exact hchoosing.assignScan hvalid hmasks hphase hstep
  case h_10 q limit owner hphase =>
    have hnew := hchoosing.assigning (by rw [hphase]; rfl)
    rw [hphase] at hchooses
    unfold assignWaitSurface at hstep
    split at hstep <;> cases hstep
    exact .inl (hchoosing.kept.choosing hchooses (by simp) fun _ => hnew)
  case h_11 q limit owner hphase =>
    have hnew := hchoosing.assigning (by rw [hphase]; rfl)
    rw [hphase] at hchooses
    unfold assignWaitImage at hstep
    split at hstep <;> cases hstep
    exact .inl (hchoosing.kept.choosing hchooses (by simp) fun _ => hnew)
  all_goals
    rename_i hphase
    rw [hphase] at hchooses
    exact hchooses.elim

/-! ## A picture from its begin on -/

theorem nvRenderPicture_prepares {valid : Bool} (hvld : (s.contexts c).entrypoint = .vld)
    (hstep : nvRenderPicture s c valid = some s') : Prepares c s s' := by
  have hread : KeepsIndices c s (lifetimeReadLock s c) := (KeepsIndices.refl c s).read
  unfold nvRenderPicture at hstep
  simp only at hstep
  split at hstep
  · cases hstep
  · rename_i hadmitted
    have hidle := phase_of_admitted hadmitted
    split at hstep
    · cases hstep
      exact .replace (.refl c s) ⟨rfl, fun _ _ => rfl, rfl, rfl⟩ (by simp [hidle, Phase.prepares])
    · split at hstep
      · cases hstep
        exact .renderFailure hread (.refl _)
      · split at hstep
        · cases hstep
          exact .renderFailure hread (.refl _)
        · rw [if_neg (by simp [hvld])] at hstep
          cases hstep
          exact .enter (.refl _) rfl

theorem nvEndPicture_prepares (hvld : (s.contexts c).entrypoint = .vld)
    (hstep : nvEndPicture s c = some s') : Prepares c s s' := by
  have hread : KeepsIndices c s (lifetimeReadLock s c) := (KeepsIndices.refl c s).read
  unfold nvEndPicture at hstep
  simp only at hstep
  split at hstep
  · cases hstep
  · rename_i hadmitted
    have hidle := phase_of_admitted hadmitted
    split at hstep
    · cases hstep
      exact .replace (.refl c s) ⟨rfl, fun _ _ => rfl, rfl, rfl⟩ (by simp [hidle, Phase.prepares])
    · cases hstep
      exact .replace (.refl c s) ⟨rfl, fun _ _ => rfl, rfl, rfl⟩ (by simp [hidle, Phase.prepares])
    · cases hstep
      exact .enter (.refl _) (by simp [Phase.prepares])
    · rw [if_neg (by simp [hvld])] at hstep
      split at hstep
      · cases hstep
        exact .endFailure hread (.refl _)
      · split at hstep
        · cases hstep
          exact .endFailure hread ⟨rfl, fun _ _ => rfl, rfl, rfl⟩
        · split at hstep
          · cases hstep
            exact .endFailure hread ⟨rfl, fun _ _ => rfl, rfl, rfl⟩
          · cases hstep
            exact .enter (.refl _) rfl

/-- Where the picture begun on a surface stands. -/
structure PictureCourse (c : ContextRef) (r : SurfaceRef) (s u : State) : Prop where
  masks : Masks u
  stands : (u.contexts c).decoder.isSome = true ∨ Choosing c r s u ∨
    (Chosen c r s u ∧ (u.contexts c).phase.prepares = true)

theorem PictureCourse.step (hcourse : PictureCourse c r s u) (hvalid : s.config.Valid)
    (hpending : DecoderPending s c) {a : Label} (ha : a.continues c = true)
    (hstep : Driver.step u a = some s') : PictureCourse c r s s' := by
  refine ⟨hcourse.masks.step hstep, ?_⟩
  have hprepared : Chosen c r s u →
      Prepares c u s' ∨ (s'.contexts c).decoder.isSome = true →
      (s'.contexts c).decoder.isSome = true ∨ Choosing c r s s' ∨
        (Chosen c r s s' ∧ (s'.contexts c).phase.prepares = true) := by
    rintro hchosen (hprepares | hdecoder)
    · exact .inr (.inr ⟨hchosen.keeps hprepares.kept, hprepares.phase⟩)
    · exact .inl hdecoder
  have hvld : Chosen c r s u → (u.contexts c).entrypoint = .vld := fun hchosen =>
    (congrArg PictureSetting.entrypoint hchosen.setting).trans hpending.entrypoint
  -- A call that is entered was not in progress, so the index assignment is over.
  have hentry : ∀ hchoosing : Choosing c r s u, (u.contexts c).phase ≠ .idle := by
    intro hchoosing hidle
    have hchooses := hchoosing.phase
    rw [hidle] at hchooses
    exact hchooses
  cases a with
  | renderPicture d valid =>
      obtain rfl : d = c := by simpa [Label.continues] using ha
      rcases hcourse.stands with hdecoder | hchoosing | ⟨hchosen, -⟩
      · exact .inl (((entry_steady (.inr (.inl ⟨valid, rfl⟩)) hstep).call.steady d).decoder hdecoder)
      · refine absurd (phase_of_admitted ?_) (hentry hchoosing)
        intro hrefused
        simp [Driver.step, nvRenderPicture, hrefused] at hstep
      · exact hprepared hchosen (.inl (nvRenderPicture_prepares (hvld hchosen) hstep))
  | endPicture d =>
      obtain rfl : d = c := by simpa [Label.continues] using ha
      rcases hcourse.stands with hdecoder | hchoosing | ⟨hchosen, -⟩
      · exact .inl (((entry_steady (.inr (.inr rfl)) hstep).call.steady d).decoder hdecoder)
      · refine absurd (phase_of_admitted ?_) (hentry hchoosing)
        intro hrefused
        simp [Driver.step, nvEndPicture, hrefused] at hstep
      · exact hprepared hchosen (.inl (nvEndPicture_prepares (hvld hchosen) hstep))
  | call d outcome =>
      obtain rfl : d = c := by simpa [Label.continues] using ha
      rcases hcourse.stands with hdecoder | hchoosing | ⟨hchosen, hprepares⟩
      · exact .inl (callStep_decoder hdecoder hstep)
      · exact .inr (hchoosing.callStep hvalid hpending hcourse.masks hstep)
      · exact hprepared hchosen (callStep_prepares hprepares hstep)
  | _ => cases ha

/-- `nvBeginPicture` on a live surface starts the index assignment. -/
theorem nvBeginPicture_choosing (hpending : DecoderPending s c)
    (hlive : (s.surfaces r).life = .live) (hsafe : s.cudaWorkUnsafe = false)
    (hstep : nvBeginPicture s c r = some s') : Choosing c r s s' := by
  unfold nvBeginPicture at hstep
  simp only at hstep
  split at hstep
  · cases hstep
  · rw [if_neg (by simp [hpending.pictureState]), if_neg (by simp [hsafe]),
      if_neg (by simp [hlive])] at hstep
    cases hstep
    have hkept : KeepsIndices c s (enter s c
        { s.contexts c with
          pictureState := .building, picture := (s.contexts c).picture + 1 }
        (.beginWaitSurface r)) :=
      (KeepsIndices.refl c s).read.setContext ⟨rfl, fun _ _ => rfl, rfl, rfl⟩
    refine ⟨hkept, ?_, ?_, ?_⟩ <;> simp [enter, Phase.chooses, Phase.assigning]

theorem PictureCourse.execute (hcourse : PictureCourse c r s t) (hvalid : s.config.Valid)
    (hpending : DecoderPending s c) {labels : List Label}
    (hlabels : ∀ a ∈ labels, a.continues c = true)
    (hexec : sections.execute t labels = some u) : PictureCourse c r s u := by
  induction labels generalizing t with
  | nil =>
      cases hexec
      exact hcourse
  | cons a rest ih =>
      obtain ⟨v, hstep, hrest⟩ := Option.bind_eq_some_iff.mp hexec
      exact ih (hcourse.step hvalid hpending (hlabels a List.mem_cons_self) hstep)
        (fun b hb => hlabels b (List.mem_cons_of_mem _ hb)) hrest

/-- A failed picture leaves its surface with an index. -/
theorem FailedPicture.chosen (hfailed : FailedPicture c s r t) (hmasks : Masks s)
    (hvalid : s.config.Valid) (hpending : DecoderPending s c) : Masks t ∧ Chosen c r s t := by
  obtain ⟨labels, hlabels, hexec⟩ := hfailed.run
  obtain ⟨v, hfirst, hrest⟩ := Option.bind_eq_some_iff.mp hexec
  have hbegin : Driver.step s (.beginPicture c r) = some v := hfirst
  have hchoosing : Choosing c r s v :=
    nvBeginPicture_choosing hpending hfailed.live hfailed.cudaWorkUnsafe hbegin
  have hcourse : PictureCourse c r s v := ⟨hmasks.step hbegin, .inr (.inl hchoosing)⟩
  have hended := hcourse.execute hvalid hpending hlabels hrest
  refine ⟨hended.masks, ?_⟩
  rcases hended.stands with hdecoder | hchoosing | ⟨hchosen, -⟩
  · simp [hfailed.pending.decoder] at hdecoder
  · have hchooses := hchoosing.phase
    rw [hfailed.pending.phase] at hchooses
    exact hchooses.elim
  · exact hchosen

/-! ## Any number of failed pictures -/

/-- What a context has after pictures on the surfaces of a list. -/
structure Indexed (c : ContextRef) (s : State) (rs : List SurfaceRef) (u : State) : Prop where
  setting : (u.contexts c).setting = (s.contexts c).setting
  hint : (s.contexts c).cudaCodec ≠ .h264 → (s.contexts c).cudaCodec ≠ .hevc →
    (u.contexts c).decodeSurfaceReferenceHint = (s.contexts c).decodeSurfaceReferenceHint
  config : u.config = s.config
  currentPictureId : (u.contexts c).currentPictureId =
    indicesAfter s.config.decodeSurfacesMaximum (s.contexts c).currentPictureId
      (s.newSurfaces c rs).card
  holds : (u.contexts c).currentPictureId < s.config.decodeSurfacesMaximum →
    ∀ q, u.holdsIndex c q = (s.holdsIndex c q || q ∈ rs)

theorem Indexed.nil (c : ContextRef) (s : State) : Indexed c s [] s where
  setting := rfl
  hint := fun _ _ => rfl
  config := rfl
  currentPictureId := by
    have hnone : (s.newSurfaces c []).card = 0 := by simp [State.newSurfaces]
    rw [hnone]
    unfold indicesAfter
    split
    · omega
    · rfl
  holds := by simp

/-- One surface more needs one index more, unless it has one or has been counted. -/
theorem card_newSurfaces (s : State) (c : ContextRef) (r : SurfaceRef) (rs : List SurfaceRef) :
    (s.newSurfaces c (r :: rs)).card =
      (s.newSurfaces c rs).card + if s.holdsIndex c r = true ∨ r ∈ rs then 0 else 1 := by
  unfold State.newSurfaces
  rw [List.toFinset_cons, Finset.filter_insert]
  by_cases hholds : s.holdsIndex c r = true
  · rw [if_neg (by simp [hholds]), if_pos (.inl hholds), Nat.add_zero]
  · rw [if_pos (by simpa using hholds)]
    by_cases hmem : r ∈ rs
    · rw [if_pos (.inr hmem), Nat.add_zero, Finset.insert_eq_of_mem]
      simpa [hholds] using hmem
    · rw [if_neg (by simp [hholds, hmem]), Finset.card_insert_of_notMem]
      simp [hmem]

/-- The count of indices with one picture more.  At the limit no picture changes it, and
below it the surfaces with an index are known. -/
theorem Indexed.nextPictureId {rs : List SurfaceRef} (hindexed : Indexed c s rs t)
    (r : SurfaceRef) :
    t.nextPictureId c r =
      indicesAfter s.config.decodeSurfacesMaximum (s.contexts c).currentPictureId
        (s.newSurfaces c (r :: rs)).card := by
  have hbefore := hindexed.currentPictureId
  have hcard := card_newSurfaces s c r rs
  unfold State.nextPictureId
  rw [hindexed.config]
  by_cases hfull : s.config.decodeSurfacesMaximum ≤ (t.contexts c).currentPictureId
  · have hstay : indicesAfter s.config.decodeSurfacesMaximum (t.contexts c).currentPictureId 1 =
        (t.contexts c).currentPictureId := by
      unfold indicesAfter
      rw [if_neg (by omega)]
    rw [hstay, ite_self, hbefore]
    rw [hbefore] at hfull
    exact (indicesAfter_of_full hfull (by omega)).symm
  · have hmem : t.holdsIndex c r = true ↔ s.holdsIndex c r = true ∨ r ∈ rs := by
      rw [hindexed.holds (by omega) r]
      simp
    rw [hcard]
    by_cases hheld : s.holdsIndex c r = true ∨ r ∈ rs
    · rw [if_pos (hmem.mpr hheld), if_pos hheld, Nat.add_zero, hbefore]
    · rw [if_neg (fun h => hheld (hmem.mp h)), if_neg hheld, hbefore]
      rw [hbefore] at hfull
      exact indicesAfter_succ (Nat.lt_of_not_le hfull)

/-- One picture more. -/
theorem Indexed.cons {rs : List SurfaceRef} (hindexed : Indexed c s rs t)
    (hchosen : Chosen c r t u) : Indexed c s (r :: rs) u where
  setting := hchosen.setting.trans hindexed.setting
  hint := by
    have hcodec : (t.contexts c).cudaCodec = (s.contexts c).cudaCodec :=
      congrArg PictureSetting.cudaCodec hindexed.setting
    intro h264 hhevc
    rw [← hindexed.hint h264 hhevc]
    exact hchosen.hint (hcodec ▸ h264) (hcodec ▸ hhevc)
  config := hchosen.config.trans hindexed.config
  currentPictureId := hchosen.currentPictureId.trans (hindexed.nextPictureId r)
  holds := by
    intro hbelow q
    rw [hchosen.currentPictureId] at hbelow
    have hle : (t.contexts c).currentPictureId ≤ t.nextPictureId c r := by
      unfold State.nextPictureId indicesAfter
      split
      · exact Nat.le_refl _
      · split <;> omega
    rw [hchosen.holds (by rw [hindexed.config]; exact hbelow) q, hindexed.holds (by omega) q]
    simp [Bool.or_assoc, Bool.or_comm, List.mem_cons]

theorem FailedPictures.indexed {rs : List SurfaceRef} (hfailed : FailedPictures c s rs t)
    (hmasks : Masks s) (hvalid : s.config.Valid) (hpending : DecoderPending s c) :
    Masks t ∧ DecoderPending t c ∧ Indexed c s rs t := by
  induction hfailed with
  | nil => exact ⟨hmasks, hpending, .nil c s⟩
  | cons _ hlast ih =>
      obtain ⟨hmasks', hpending', hindexed⟩ := ih
      have hvalid' := hindexed.config ▸ hvalid
      obtain ⟨hmasks'', hchosen⟩ := hlast.chosen hmasks' hvalid' hpending'
      exact ⟨hmasks'', hlast.pending, hindexed.cons hchosen⟩

end Sections

end Driver
end NvidiaVaapi
