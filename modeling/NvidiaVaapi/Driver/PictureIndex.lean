import NvidiaVaapi.Driver.State
import Mathlib.Data.BitVec

/-!
# Decoder picture indices

The functions that hand out NVDEC picture indices and take them back:
`nvdSelectPictureIndex`, the two index assignments, `releaseSurfacePictureIndex`,
`releaseContextPictureIndices` and `pictureIdxFromSurfaceId`.  Each is one
section under `surfaceCreationMutex`, except that `assignSurfacePictureIndex`
looks at one owner at a time and may wait for one while it holds that mutex.
-/

namespace NvidiaVaapi
namespace Driver

/-- The `limitMask` of `nvdSelectPictureIndex`: the bits below the limit. -/
def surfaceLimitMask (surfaceLimit : Nat) : BitVec 32 :=
  if surfaceLimit = 32 then BitVec.allOnes 32 else (1#32 <<< surfaceLimit) - 1#32

/-- `nvdSelectPictureIndex`, with `none` for the result `-1`. -/
def nvdSelectPictureIndex (allocatedCount surfaceLimit : Nat)
    (activeMask busyMask : BitVec 32) (recycleCursor : Nat) : Option Nat :=
  if surfaceLimit = 0 ∨ nvdMaxDecodeSurfaces < surfaceLimit then none
  else if allocatedCount < surfaceLimit then some allocatedCount
  else
    let available := surfaceLimitMask surfaceLimit &&& ~~~(activeMask ||| busyMask)
    if available = 0#32 then none
    else
      let start := recycleCursor % surfaceLimit
      ((List.range surfaceLimit).map fun offset => (start + offset) % surfaceLimit).find?
        fun index => available &&& (1#32 <<< index) != 0#32

/-- The bit of a picture index is set in a mask. -/
def maskHas (mask : BitVec 32) (index : Nat) : Bool :=
  mask.getLsbD index

/-- A surface that records no decoder. -/
def NVSurface.detached (surface : NVSurface) : NVSurface :=
  { surface with context := none, contextId := none, pictureIdx := -1 }

/-- The call on the context is inside `assignSurfacePictureIndex`, and so holds
the context's `surfaceCreationMutex`. -/
def Phase.assigning : Phase → Bool
  | .assignScan .. => true
  | .assignWaitSurface .. => true
  | .assignWaitImage .. => true
  | _ => false

/-- Does `pictureIndexOwners` map the surface's recorded index to it? -/
def NVContext.ownsIndex (ctx : NVContext) (r : SurfaceRef) (pictureIdx : Int) : Bool :=
  0 ≤ pictureIdx ∧ pictureIdx < nvdMaxDecodeSurfaces ∧
    ctx.pictureIndexOwners pictureIdx.toNat = some r

/-- The result of `pictureIdxFromSurfaceId`. -/
def pictureIdxFromSurfaceId (s : State) (c : ContextRef) (surfId : SurfaceRef) : Int :=
  let ctx := s.contexts c
  let surf := s.surfaces surfId
  if surf.life = .live ∧ ctx.life = .live ∧ ctx.destroying = false ∧
      surf.context = some c ∧ surf.contextId = some c ∧
      ctx.ownsIndex surfId surf.pictureIdx = true then
    surf.pictureIdx
  else -1

/-- The effect of `pictureIdxFromSurfaceId` on the context: a reference that was
found is marked in the mask of the picture being built. -/
def noteReference (ctx : NVContext) (pictureIdx : Int) : NVContext :=
  if 0 ≤ pictureIdx ∧ ctx.cudaCodec ≠ .av1 then
    { ctx with
      buildingReferenceMask := ctx.buildingReferenceMask ||| (1#32 <<< pictureIdx.toNat) }
  else ctx

/-- Take an index out of `pictureIndexOwners` and both reference masks. -/
def NVContext.dropIndex (ctx : NVContext) (index : Nat) : NVContext :=
  { ctx with
    pictureIndexOwners := Function.update ctx.pictureIndexOwners index none
    activeReferenceMask := ctx.activeReferenceMask &&& ~~~(1#32 <<< index)
    buildingReferenceMask := ctx.buildingReferenceMask &&& ~~~(1#32 <<< index) }

/-- `releaseSurfacePictureIndex`; `none` while the recorded context's
`surfaceCreationMutex` is held by its index assignment. -/
def releaseSurfacePictureIndex (s : State) (r : SurfaceRef) : Option State :=
  let surface := s.surfaces r
  match surface.context with
  | none => some (s.setSurface r surface.detached)
  | some c =>
    let ctx := s.contexts c
    if ctx.life ≠ .live ∨ surface.contextId ≠ some c ∨ ctx.destroying = true then
      some (s.setSurface r surface.detached)
    else if ctx.phase.assigning = true then none
    else if ctx.ownsIndex r surface.pictureIdx = true then
      some ((s.setContext c (ctx.dropIndex surface.pictureIdx.toNat)).setSurface r
        surface.detached)
    else some (s.setSurface r surface.detached)

/-- `releaseContextPictureIndices`: every live surface that records the context
is detached, and the owner table and the reference masks are emptied. -/
def releaseContextPictureIndices (s : State) (c : ContextRef) : State :=
  { s with
    surfaces := fun r =>
      if (s.surfaces r).life = .live ∧ (s.surfaces r).context = some c then
        (s.surfaces r).detached
      else s.surfaces r
    contexts := Function.update s.contexts c
      { s.contexts c with
        pictureIndexOwners := fun _ => none
        activeReferenceMask := 0#32
        buildingReferenceMask := 0#32 } }

/-- The owner of a recycled index forgets the index but keeps its context. -/
def forgetPreviousOwner (s : State) (c : ContextRef) (r : SurfaceRef) (index : Nat) : State :=
  match (s.contexts c).pictureIndexOwners index with
  | none => s
  | some previousOwner =>
    if previousOwner ≠ r ∧ (s.surfaces previousOwner).pictureIdx = (index : Int) then
      s.setSurface previousOwner { s.surfaces previousOwner with pictureIdx := -1 }
    else s

/-- The end of both index assignments: the surface takes the selected index. -/
def takeIndex (s : State) (c : ContextRef) (r : SurfaceRef) (limit index : Nat)
    (currentPictureId : Nat) : State :=
  (s.setSurface r
    { s.surfaces r with
      pictureIdx := (index : Int), context := some c, contextId := some c }).setContext c
    { s.contexts c with
      pictureIndexOwners := Function.update (s.contexts c).pictureIndexOwners index (some r)
      currentPictureId := currentPictureId
      pictureIndexRecycleCursor := (index + 1) % limit }

/-- The last part of `assignSurfacePictureIndex`, from the selected index on. -/
def commitSurfacePictureIndex (s : State) (c : ContextRef) (r : SurfaceRef)
    (limit selected : Nat) : State :=
  takeIndex (forgetPreviousOwner s c r selected) c r limit selected
    (if selected = (s.contexts c).currentPictureId then (s.contexts c).currentPictureId + 1
      else (s.contexts c).currentPictureId)

/-- The index search of `assignAV1SurfacePictureIndex`. -/
def selectAV1PictureIndex (ctx : NVContext) (limit : Nat) : Option Nat :=
  ((List.range limit).map fun offset => (ctx.pictureIndexRecycleCursor + offset) % limit).find?
    fun candidate => ctx.pictureIndexOwners candidate = none

/-- The last part of `assignAV1SurfacePictureIndex`. -/
def commitAV1SurfacePictureIndex (s : State) (c : ContextRef) (r : SurfaceRef)
    (limit selected : Nat) : State :=
  takeIndex s c r limit selected
    (if (s.contexts c).currentPictureId ≤ selected then selected + 1
      else (s.contexts c).currentPictureId)

/-- The common first part of both assignments: whether the surface already owns
an index below the limit. -/
def alreadyAssigned (s : State) (c : ContextRef) (r : SurfaceRef) (limit : Nat) : Bool :=
  0 ≤ (s.surfaces r).pictureIdx ∧ (s.surfaces r).pictureIdx < limit ∧
    (s.contexts c).pictureIndexOwners (s.surfaces r).pictureIdx.toNat = some r

/-! ## What a selected index satisfies -/

/-- The mask of the indices below a limit. -/
theorem surfaceLimitMask_eq : ∀ limit ≤ 32,
    surfaceLimitMask limit = BitVec.ofNat 32 (2 ^ limit - 1) := by
  decide

/-- The bit test of the source, `(mask & (1U << index)) != 0`, reads the bit. -/
theorem and_shiftLeft_ne_zero (mask : BitVec 32) (index : Nat)
    (hbit : (mask &&& (1#32 <<< index) != 0#32) = true) : maskHas mask index = true := by
  by_contra hclear
  have hclear' : mask.getLsbD index = false := by simpa [maskHas] using hclear
  have hzero : mask &&& (1#32 <<< index) = 0#32 := by
    apply BitVec.eq_of_getLsbD_eq
    intro j hj
    by_cases hji : j = index
    · subst hji
      simp [hclear']
    · have hlt : j < index ∨ index < j := by omega
      rcases hlt with hlt | hlt
      · simp [hlt]
      · have hne : j - index ≠ 0 := by omega
        simp [hne]
  simp [hzero] at hbit

/-- A recycled index is below the limit and in neither mask; a fresh one is the
allocation count, which is below the limit. -/
theorem nvdSelectPictureIndex_spec {allocated limit : Nat} {active busy : BitVec 32}
    {cursor index : Nat}
    (hselect : nvdSelectPictureIndex allocated limit active busy cursor = some index) :
    limit ≤ 32 ∧ index < limit ∧
      ((allocated < limit ∧ index = allocated) ∨
        (limit ≤ allocated ∧ maskHas active index = false ∧ maskHas busy index = false)) := by
  unfold nvdSelectPictureIndex at hselect
  split at hselect
  · cases hselect
  · rename_i hlimit
    have hle : limit ≤ 32 := by
      simp only [nvdMaxDecodeSurfaces] at hlimit
      omega
    split at hselect
    · rename_i hfresh
      cases hselect
      exact ⟨hle, hfresh, .inl ⟨hfresh, rfl⟩⟩
    · rename_i hfull
      simp only at hselect
      split at hselect
      · cases hselect
      · have hmem := List.mem_of_find?_eq_some hselect
        have hbit : maskHas (surfaceLimitMask limit &&& ~~~(active ||| busy)) index = true :=
          and_shiftLeft_ne_zero _ _ (List.find?_some (p := fun i =>
            surfaceLimitMask limit &&& ~~~(active ||| busy) &&& (1#32 <<< i) != 0#32) hselect)
        obtain ⟨offset, _, hoffset⟩ := List.mem_map.mp hmem
        have hlt : index < limit := by
          rw [← hoffset]
          exact Nat.mod_lt _ (by omega)
        have hclear : maskHas active index = false ∧ maskHas busy index = false := by
          simp only [maskHas, BitVec.getLsbD_and, BitVec.getLsbD_not, BitVec.getLsbD_or,
            Bool.and_eq_true, Bool.not_eq_true', Bool.or_eq_false_iff] at hbit
          exact hbit.2.2
        exact ⟨hle, hlt, .inr ⟨by omega, hclear⟩⟩

/-! ## What the index functions leave of a context -/

/-- A context without its index tables. -/
def NVContext.withoutIndices (ctx : NVContext) : NVContext :=
  { ctx with
    currentPictureId := 0
    pictureIndexOwners := fun _ => none
    activeReferenceMask := 0#32
    buildingReferenceMask := 0#32
    pictureIndexRecycleCursor := 0 }

/-- What does not depend on the index tables is kept with the rest of the context. -/
theorem kept_of_withoutIndices {α : Sort*} {ctx ctx' : NVContext} (f : NVContext → α)
    (hindices : ∀ ctx, f ctx.withoutIndices = f ctx)
    (hrest : ctx'.withoutIndices = ctx.withoutIndices) : f ctx' = f ctx := by
  rw [← hindices ctx', hrest, hindices ctx]

section Contexts

variable {s t : State}

theorem release_contexts {r : SurfaceRef} (hrelease : releaseSurfacePictureIndex s r = some t)
    (d : ContextRef) : (t.contexts d).withoutIndices = (s.contexts d).withoutIndices := by
  unfold releaseSurfacePictureIndex at hrelease
  simp only at hrelease
  split at hrelease
  · cases hrelease
    rfl
  · rename_i e _
    split at hrelease
    · cases hrelease
      rfl
    · split at hrelease
      · cases hrelease
      · split at hrelease
        · cases hrelease
          by_cases hd : d = e
          · subst hd
            simp [NVContext.withoutIndices, NVContext.dropIndex]
          · simp [hd]
        · cases hrelease
          rfl

theorem takeIndex_contexts (s : State) (c : ContextRef) (r : SurfaceRef)
    (limit index current : Nat) (d : ContextRef) :
    ((takeIndex s c r limit index current).contexts d).withoutIndices =
      (s.contexts d).withoutIndices := by
  by_cases hd : d = c
  · subst hd
    simp [takeIndex, NVContext.withoutIndices]
  · simp [takeIndex, hd]

theorem forgetPreviousOwner_contexts (s : State) (c : ContextRef) (r : SurfaceRef)
    (index : Nat) : (forgetPreviousOwner s c r index).contexts = s.contexts := by
  unfold forgetPreviousOwner
  split
  · rfl
  · split <;> rfl

theorem releaseContext_contexts (s : State) (c d : ContextRef) :
    ((releaseContextPictureIndices s c).contexts d).withoutIndices =
      (s.contexts d).withoutIndices := by
  by_cases hd : d = c
  · subst hd
    simp [releaseContextPictureIndices, NVContext.withoutIndices]
  · simp [releaseContextPictureIndices, hd]

end Contexts

end Driver
end NvidiaVaapi
