import NvidiaVaapi.Av1.Picture

/-!
# Registration and compaction

What the loop of `setAV1SliceOffsetsImpl` and `compactAV1BitstreamToCurrentFrame` do to a
context, stated once for the proofs about whole pictures.
-/

namespace NvidiaVaapi
namespace Av1

open Codec

/-! ## Compaction -/

/-- Where the bitstream of a picture is cut off, once it consists of the given bytes:
`none` where it stays as it is. -/
def compactionStart (ctx : NVContext) (bytes : List UInt8) : Option Nat :=
  if ctx.av1BitstreamCompacted ∨ ctx.av1TileOffsetsSeen = 0 ∨
      ctx.av1TileMaxEnd > bytes.length ∨ ctx.av1TileMinOffset ≥ ctx.av1TileMaxEnd then none
  else
    let start := av1FindObuStartForTile bytes ctx.av1TileMinOffset
    if start = 0 ∨ start ≥ ctx.av1TileMaxEnd then none else some start

theorem compact_of_none {ctx : NVContext}
    (hstart : compactionStart ctx ctx.bitstreamBuffer.bytes = none) :
    compactAV1BitstreamToCurrentFrame ctx = ctx := by
  unfold compactionStart at hstart
  unfold compactAV1BitstreamToCurrentFrame
  rw [AppendableBuffer.length_bytes] at hstart
  split
  · rfl
  · rename_i hearly
    split
    · rfl
    · rename_i hends
      rw [if_neg (by tauto)] at hstart
      simp only at hstart ⊢
      split
      · rfl
      · rename_i hinside
        rw [if_neg hinside] at hstart
        cases hstart

/-- The bounds that a cut respects. -/
theorem compactionStart_bounds {ctx : NVContext} {bytes : List UInt8} {start : Nat}
    (hstart : compactionStart ctx bytes = some start) :
    ctx.av1BitstreamCompacted = false ∧ 0 < start ∧ start ≤ ctx.av1TileMinOffset ∧
      start < ctx.av1TileMaxEnd ∧ ctx.av1TileMaxEnd ≤ bytes.length := by
  unfold compactionStart at hstart
  split at hstart
  · cases hstart
  · rename_i hends
    simp only at hstart
    split at hstart
    · cases hstart
    · rename_i hinside
      cases hstart
      have hlow := av1FindObuStartForTile_le bytes ctx.av1TileMinOffset
      refine ⟨?_, ?_, hlow, ?_, ?_⟩
      · cases hcompacted : ctx.av1BitstreamCompacted with
        | false => rfl
        | true => exact absurd (.inl hcompacted) hends
      all_goals omega

/-- The context with the bitstream cut to the range from `start` to the last tile's end. -/
def NVContext.compactFrom (ctx : NVContext) (start : Nat)
    (hroom : ctx.av1TileMaxEnd - start ≤ ctx.bitstreamBuffer.size) : NVContext :=
  { ctx with
    sliceOffsets := { ctx.sliceOffsets with
      words := ctx.sliceOffsets.words.mapIdx fun i offset =>
        if i < ctx.pPicParams.nNumSlices * 2 ∧ offset ≥ start then offset - start else offset }
    bitstreamDataOffset := start
    bitstreamBuffer := ctx.bitstreamBuffer.shrink (ctx.av1TileMaxEnd - start) hroom
    pPicParams := { ctx.pPicParams with nBitstreamDataLen := ctx.av1TileMaxEnd - start }
    av1BitstreamCompacted := true }

theorem compact_of_some {ctx : NVContext} {start : Nat}
    (hstart : compactionStart ctx ctx.bitstreamBuffer.bytes = some start) :
    ∃ hroom, compactAV1BitstreamToCurrentFrame ctx = ctx.compactFrom start hroom := by
  obtain ⟨_, _, _, _, hend⟩ := compactionStart_bounds hstart
  rw [AppendableBuffer.length_bytes] at hend
  refine ⟨by omega, ?_⟩
  unfold compactionStart at hstart
  rw [AppendableBuffer.length_bytes] at hstart
  split at hstart
  · cases hstart
  · rename_i hearly
    simp only at hstart
    split at hstart
    · cases hstart
    · rename_i hinside
      cases hstart
      have hallocated : ¬ctx.bitstreamBuffer.allocated = 0 := by
        have hsize := ctx.bitstreamBuffer.size_le
        unfold AppendableBuffer.allocated
        omega
      unfold compactAV1BitstreamToCurrentFrame
      rw [if_neg (by tauto), dif_neg (by tauto)]
      simp only
      rw [if_neg hinside]
      rfl

/-! ## Handlers that have stopped a picture -/

/-- A handler has noted a failure. -/
def NVContext.blocked (ctx : NVContext) : Prop :=
  ctx.inputValidationFailed = true ∨ ctx.sliceOffsets.failed = true ∨
    ctx.bitstreamBuffer.failed = true

theorem handlerStatus_eq_success {ctx : NVContext} :
    handlerStatus ctx = .success ↔ ¬ctx.blocked ∧ ctx.sliceParamsBuffer.failed = false := by
  unfold handlerStatus NVContext.blocked
  cases ctx.inputValidationFailed <;> cases ctx.sliceOffsets.failed <;>
    cases ctx.bitstreamBuffer.failed <;> cases ctx.sliceParamsBuffer.failed <;> simp

theorem compact_blocked (ctx : NVContext) :
    (compactAV1BitstreamToCurrentFrame ctx).blocked ↔ ctx.blocked := by
  cases hstart : compactionStart ctx ctx.bitstreamBuffer.bytes with
  | none => rw [compact_of_none hstart]
  | some start =>
    obtain ⟨hroom, hcompact⟩ := compact_of_some hstart
    rw [hcompact]
    rfl

/-! ## The loop -/

/-- The fields that the registration of tiles changes are taken from another context. -/
def NVContext.withTiles (ctx tiles : NVContext) : NVContext :=
  { ctx with
    sliceOffsets := tiles.sliceOffsets
    av1TileOffsetsSeen := tiles.av1TileOffsetsSeen
    av1TileIntervals := tiles.av1TileIntervals
    av1TileSeen := tiles.av1TileSeen
    av1TileMinOffset := tiles.av1TileMinOffset
    av1TileMaxEnd := tiles.av1TileMaxEnd
    inputValidationFailed := tiles.inputValidationFailed }

/-- A round that goes on has registered its tile at the range that was given. -/
theorem setAV1SliceOffset_true {heap : Heap} {numSlices : Nat} {offsetAdjustment : Int}
    {sliceDataSize : Nat} {ctx ctx' : NVContext} {param : VASliceParameterBufferAV1}
    (hset : setAV1SliceOffset heap numSlices offsetAdjustment sliceDataSize ctx param =
      (ctx', true)) :
    ∃ tileIndex intervals,
      getAV1SliceTileIndex ctx.pPicParams.av1 param = some tileIndex ∧ tileIndex < numSlices ∧
      ctx.av1TileSeen.getLsbD tileIndex = false ∧ 0 < param.sliceDataSize ∧
      param.sliceDataOffset + param.sliceDataSize ≤ sliceDataSize ∧
      0 ≤ offsetAdjustment + param.sliceDataOffset ∧
      offsetAdjustment + param.sliceDataOffset + param.sliceDataSize ≤ uint32Max ∧
      nvdIntervalIndexInsert heap ctx.av1TileIntervals
        (offsetAdjustment + param.sliceDataOffset).toNat
        ((offsetAdjustment + param.sliceDataOffset).toNat + param.sliceDataSize) =
          (intervals, true) ∧
      ctx' = ctx.noteTile intervals tileIndex (offsetAdjustment + param.sliceDataOffset).toNat
        ((offsetAdjustment + param.sliceDataOffset).toNat + param.sliceDataSize) := by
  unfold setAV1SliceOffset at hset
  split at hset
  · cases hset
  · rename_i hrange
    split at hset
    · cases hset
    · rename_i tileIndex hindex
      split at hset
      · cases hset
      · rename_i hinside
        split at hset
        · cases hset
        · rename_i hunseen
          simp only at hset
          split at hset
          · cases hset
          · rename_i hadjusted
            split at hset
            · cases hset
            · rename_i hnonempty
              split at hset
              · rename_i intervals hinsert
                cases hset
                refine ⟨tileIndex, intervals, hindex, by omega, by simpa using hunseen, by omega,
                  by omega, by omega, by omega, hinsert, rfl⟩
              · split at hset <;> cases hset

/-- A round that ends the loop has noted why. -/
theorem setAV1SliceOffset_false {heap : Heap} {numSlices : Nat} {offsetAdjustment : Int}
    {sliceDataSize : Nat} {ctx ctx' : NVContext} {param : VASliceParameterBufferAV1}
    (hset : setAV1SliceOffset heap numSlices offsetAdjustment sliceDataSize ctx param =
      (ctx', false)) :
    ctx'.blocked := by
  unfold setAV1SliceOffset at hset
  split at hset
  · cases hset
    exact .inl rfl
  · split at hset
    · cases hset
      exact .inl rfl
    · split at hset
      · cases hset
        exact .inl rfl
      · split at hset
        · cases hset
          exact .inl rfl
        · simp only at hset
          split at hset
          · cases hset
            exact .inl rfl
          · split at hset
            · cases hset
              exact .inl rfl
            · split at hset
              · cases hset
              · split at hset
                · cases hset
                  exact .inr (.inl rfl)
                · cases hset
                  exact .inl rfl

/-- A round changes only what belongs to the registration. -/
theorem setAV1SliceOffset_frame (heap : Heap) (numSlices : Nat) (offsetAdjustment : Int)
    (sliceDataSize : Nat) (ctx : NVContext) (param : VASliceParameterBufferAV1) :
    (setAV1SliceOffset heap numSlices offsetAdjustment sliceDataSize ctx param).1 =
      ctx.withTiles
        (setAV1SliceOffset heap numSlices offsetAdjustment sliceDataSize ctx param).1 := by
  unfold setAV1SliceOffset
  simp only
  split
  · rfl
  · split
    · rfl
    · split
      · rfl
      · split
        · rfl
        · split
          · rfl
          · split
            · rfl
            · split
              · rfl
              · split <;> rfl

theorem setAV1SliceOffsetsLoop_frame (heap : Heap) (numSlices : Nat) (offsetAdjustment : Int)
    (sliceDataSize : Nat) (ctx : NVContext) (sliceParams : List VASliceParameterBufferAV1) :
    (setAV1SliceOffsetsLoop heap numSlices offsetAdjustment sliceDataSize ctx sliceParams).1 =
      ctx.withTiles
        (setAV1SliceOffsetsLoop heap numSlices offsetAdjustment sliceDataSize ctx
          sliceParams).1 := by
  induction sliceParams generalizing ctx with
  | nil => rfl
  | cons param sliceParams ih =>
      unfold setAV1SliceOffsetsLoop
      have hround := setAV1SliceOffset_frame heap numSlices offsetAdjustment sliceDataSize ctx param
      split
      · rename_i next hset
        rw [hset] at hround
        change next = ctx.withTiles next at hround
        have hrest := ih next
        generalize (setAV1SliceOffsetsLoop heap numSlices offsetAdjustment sliceDataSize next
          sliceParams).1 = last at hrest
        calc
          last = next.withTiles last := hrest
          _ = (ctx.withTiles next).withTiles last :=
            congrArg (fun c => NVContext.withTiles c last) hround
          _ = ctx.withTiles last := rfl
      · rename_i next hset
        rw [hset] at hround
        exact hround

theorem setAV1SliceOffsetsLoop_false {heap : Heap} {numSlices : Nat} {offsetAdjustment : Int}
    {sliceDataSize : Nat} {ctx ctx' : NVContext} {sliceParams : List VASliceParameterBufferAV1}
    (hset : setAV1SliceOffsetsLoop heap numSlices offsetAdjustment sliceDataSize ctx sliceParams =
      (ctx', false)) :
    ctx'.blocked := by
  induction sliceParams generalizing ctx with
  | nil => cases hset
  | cons param sliceParams ih =>
      unfold setAV1SliceOffsetsLoop at hset
      split at hset
      · exact ih hset
      · rename_i next hround
        cases hset
        exact setAV1SliceOffset_false hround

/-- What a round needs in order to go on is enough for it. -/
theorem setAV1SliceOffset_of_insert {heap : Heap} {numSlices : Nat} {offsetAdjustment : Int}
    {sliceDataSize : Nat} {ctx : NVContext} {param : VASliceParameterBufferAV1}
    {tileIndex : Nat} {intervals : NVDIntervalIndex}
    (hindex : getAV1SliceTileIndex ctx.pPicParams.av1 param = some tileIndex)
    (hinside : tileIndex < numSlices) (hunseen : ctx.av1TileSeen.getLsbD tileIndex = false)
    (hnonempty : 0 < param.sliceDataSize)
    (hrange : param.sliceDataOffset + param.sliceDataSize ≤ sliceDataSize)
    (hlow : 0 ≤ offsetAdjustment + param.sliceDataOffset)
    (hhigh : offsetAdjustment + param.sliceDataOffset + param.sliceDataSize ≤ uint32Max)
    (hinsert : nvdIntervalIndexInsert heap ctx.av1TileIntervals
      (offsetAdjustment + param.sliceDataOffset).toNat
      ((offsetAdjustment + param.sliceDataOffset).toNat + param.sliceDataSize) =
        (intervals, true)) :
    setAV1SliceOffset heap numSlices offsetAdjustment sliceDataSize ctx param =
      (ctx.noteTile intervals tileIndex (offsetAdjustment + param.sliceDataOffset).toNat
        ((offsetAdjustment + param.sliceDataOffset).toNat + param.sliceDataSize), true) := by
  unfold setAV1SliceOffset
  rw [if_neg (by omega), hindex]
  simp only
  rw [if_neg (by omega), hunseen, if_neg (by simp), if_neg (by omega), if_neg (by omega), hinsert]

/-! ## The whole registration -/

theorem ensureAV1SliceOffsetStorage_false {heap : Heap} {ctx ctx' : NVContext} {numSlices : Nat}
    (hensure : ensureAV1SliceOffsetStorage heap ctx numSlices = (ctx', false)) :
    ctx'.blocked := by
  unfold ensureAV1SliceOffsetStorage at hensure
  simp only at hensure
  split at hensure
  · cases hensure
    exact .inr (.inl rfl)
  · split at hensure
    · cases hensure
    · split at hensure
      · cases hensure
        exact .inr (.inl rfl)
      · cases hensure

theorem finishRegistration_blocked (numSlices : Nat) (ctx : NVContext) :
    (finishRegistration numSlices ctx).blocked ↔ ctx.blocked := by
  unfold finishRegistration
  split
  · exact compact_blocked ctx
  · rfl

/-- A registration that notes no failure has found the room and has taken every tile. -/
theorem setAV1SliceOffsets_cases {memory : Memory} {ctx : NVContext}
    {sliceParams : List VASliceParameterBufferAV1} {offsetAdjustment : Int} {sliceDataSize : Nat}
    (hfree : ¬(setAV1SliceOffsets memory ctx sliceParams offsetAdjustment sliceDataSize).blocked) :
    ∃ ready looped,
      registeredSlices ctx sliceParams ≤ nvdIntervalIndexCapacity ∧
      ensureAV1SliceOffsetStorage memory.sliceOffsets
        (ctx.withSlices (registeredSlices ctx sliceParams)) (registeredSlices ctx sliceParams) =
          (ready, true) ∧
      setAV1SliceOffsetsLoop memory.intervals (registeredSlices ctx sliceParams) offsetAdjustment
        sliceDataSize ready sliceParams = (looped, true) ∧
      setAV1SliceOffsets memory ctx sliceParams offsetAdjustment sliceDataSize =
        finishRegistration (registeredSlices ctx sliceParams) looped := by
  unfold setAV1SliceOffsets at hfree ⊢
  simp only at hfree ⊢
  split at hfree
  · exact absurd (.inl rfl) hfree
  · rename_i hcapacity
    rw [if_neg hcapacity]
    split at hfree
    · rename_i hensure
      exact absurd (ensureAV1SliceOffsetStorage_false hensure) hfree
    · rename_i ready hensure
      split at hfree
      · rename_i hloop
        exact absurd (setAV1SliceOffsetsLoop_false hloop) hfree
      · rename_i looped hloop
        exact ⟨ready, looped, Nat.not_lt.mp hcapacity, hensure, hloop, rfl⟩

/-- Room, and a loop that comes to its end, are enough for a registration. -/
theorem setAV1SliceOffsets_of_loop {memory : Memory} {ctx ready looped : NVContext}
    {sliceParams : List VASliceParameterBufferAV1} {offsetAdjustment : Int} {sliceDataSize : Nat}
    (hcapacity : registeredSlices ctx sliceParams ≤ nvdIntervalIndexCapacity)
    (hensure : ensureAV1SliceOffsetStorage memory.sliceOffsets
      (ctx.withSlices (registeredSlices ctx sliceParams)) (registeredSlices ctx sliceParams) =
        (ready, true))
    (hloop : setAV1SliceOffsetsLoop memory.intervals (registeredSlices ctx sliceParams)
      offsetAdjustment sliceDataSize ready sliceParams = (looped, true)) :
    setAV1SliceOffsets memory ctx sliceParams offsetAdjustment sliceDataSize =
      finishRegistration (registeredSlices ctx sliceParams) looped := by
  unfold setAV1SliceOffsets
  simp only
  rw [if_neg (Nat.not_lt.mpr hcapacity), hensure]
  simp only
  rw [hloop]

/-! ## The data -/

/-- The bitstream with its length noted. -/
def NVContext.withBitstream (ctx : NVContext) (buffer : AppendableBuffer) : NVContext :=
  { ctx with
    bitstreamBuffer := buffer
    pPicParams := { ctx.pPicParams with nBitstreamDataLen := buffer.size } }

/-- A picture that has all its tiles is compacted. -/
def finishSliceData (ctx : NVContext) : NVContext :=
  if ctx.av1TileOffsetsSeen ≥ ctx.pPicParams.nNumSlices then compactAV1BitstreamToCurrentFrame ctx
  else ctx

theorem finishSliceData_blocked (ctx : NVContext) :
    (finishSliceData ctx).blocked ↔ ctx.blocked := by
  unfold finishSliceData
  split
  · exact compact_blocked ctx
  · rfl

/-- Data that is appended without a failure comes behind the bytes in use. -/
theorem appendSliceData_cases {memory : Memory} {ctx : NVContext} {data : List UInt8}
    (hfree : ¬(appendSliceData memory ctx data).blocked) :
    ∃ buffer, ctx.bitstreamBuffer.append memory.bitstream data = (buffer, true) ∧
      appendSliceData memory ctx data = finishSliceData (ctx.withBitstream buffer) := by
  cases happend : ctx.bitstreamBuffer.append memory.bitstream data with
  | mk buffer appended =>
  change ¬(finishSliceData (nvCommitCuvidBitstreamLength { ctx with
    bitstreamBuffer := (ctx.bitstreamBuffer.append memory.bitstream data).1 })).blocked at hfree
  rw [finishSliceData_blocked, happend] at hfree
  change ∃ buffer', _ ∧ finishSliceData (nvCommitCuvidBitstreamLength { ctx with
    bitstreamBuffer := (ctx.bitstreamBuffer.append memory.bitstream data).1 }) = _
  rw [happend]
  unfold nvCommitCuvidBitstreamLength at hfree ⊢
  simp only at hfree ⊢
  split at hfree
  · exact absurd (.inl rfl) hfree
  · rename_i hfits
    rw [if_neg hfits]
    cases appended with
    | true => exact ⟨buffer, rfl, rfl⟩
    | false =>
        have hfailed := AppendableBuffer.append_failed happend
        refine absurd (.inr (.inr ?_)) hfree
        change buffer.failed = true
        rw [hfailed]

/-- Slice data that is taken has room, and is registered before it is appended where slice
parameters wait for it. -/
theorem copyAV1SliceData_cases {memory : Memory} {ctx : NVContext} {data : List UInt8}
    (hfree : ¬(copyAV1SliceData memory ctx data).blocked) :
    nvCanAppendCuvidBitstream ctx data.length = true ∧
      ((ctx.lastSliceParams = [] ∧
        copyAV1SliceData memory ctx data = appendSliceData memory ctx data) ∨
      (ctx.lastSliceParams ≠ [] ∧
        copyAV1SliceData memory ctx data =
          appendSliceData memory (setAV1SliceOffsets memory ctx ctx.lastSliceParams
            ctx.bitstreamBuffer.size data.length) data)) := by
  unfold copyAV1SliceData at hfree ⊢
  split at hfree
  · exact absurd (.inl rfl) hfree
  · rename_i hroom
    refine ⟨by simpa using hroom, ?_⟩
    rw [if_neg hroom]
    split
    · rename_i hnone
      exact .inl ⟨hnone, rfl⟩
    · rename_i hsome
      exact .inr ⟨hsome, rfl⟩

/-- A failure is not forgotten while the data is appended. -/
theorem appendSliceData_blocked {memory : Memory} {ctx : NVContext} {data : List UInt8}
    (hblocked : ctx.blocked) : (appendSliceData memory ctx data).blocked := by
  by_contra hfree
  obtain ⟨buffer, happend, hresult⟩ := appendSliceData_cases hfree
  rw [hresult, finishSliceData_blocked] at hfree
  apply hfree
  obtain ⟨_, _, hfailed⟩ := AppendableBuffer.append_spec happend
  rcases hblocked with h | h | h
  · exact .inl h
  · exact .inr (.inl h)
  · exact .inr (.inr (hfailed.trans h))

/-! ## Fields that are left alone -/

/-- A field that the registration of tiles and the cut leave alone. -/
structure Untouched {β : Type} (field : NVContext → β) : Prop where
  slices : ∀ ctx numSlices, field (NVContext.withSlices ctx numSlices) = field ctx
  tiles : ∀ ctx tiles, field (NVContext.withTiles ctx tiles) = field ctx
  cut : ∀ ctx start hroom, field (NVContext.compactFrom ctx start hroom) = field ctx

namespace Untouched

variable {β : Type} {field : NVContext → β}

theorem compact (h : Untouched field) (ctx : NVContext) :
    field (compactAV1BitstreamToCurrentFrame ctx) = field ctx := by
  cases hstart : compactionStart ctx ctx.bitstreamBuffer.bytes with
  | none => rw [compact_of_none hstart]
  | some start =>
      obtain ⟨hroom, hcompact⟩ := compact_of_some hstart
      rw [hcompact]
      exact h.cut ctx start hroom

theorem finishRegistration (h : Untouched field) (numSlices : Nat) (ctx : NVContext) :
    field (finishRegistration numSlices ctx) = field ctx := by
  unfold Av1.finishRegistration
  split
  · exact h.compact ctx
  · rfl

theorem ensure (h : Untouched field) (heap : Heap) (numSlices : Nat) (ctx : NVContext) :
    field (ensureAV1SliceOffsetStorage heap ctx numSlices).1 = field ctx := by
  have hoffsets (offsets : SliceOffsets) :
      field { ctx with sliceOffsets := offsets } = field ctx :=
    h.tiles ctx { ctx with sliceOffsets := offsets }
  unfold ensureAV1SliceOffsetStorage
  simp only
  split
  · exact hoffsets _
  · split
    · exact hoffsets _
    · split
      · exact hoffsets _
      · exact hoffsets _

theorem loop (h : Untouched field) (heap : Heap) (numSlices : Nat) (offsetAdjustment : Int)
    (sliceDataSize : Nat) (ctx : NVContext) (sliceParams : List VASliceParameterBufferAV1) :
    field (setAV1SliceOffsetsLoop heap numSlices offsetAdjustment sliceDataSize ctx
      sliceParams).1 = field ctx := by
  rw [setAV1SliceOffsetsLoop_frame]
  exact h.tiles _ _

theorem setAV1SliceOffsets (h : Untouched field) (memory : Memory) (ctx : NVContext)
    (sliceParams : List VASliceParameterBufferAV1) (offsetAdjustment : Int) (sliceDataSize : Nat) :
    field (setAV1SliceOffsets memory ctx sliceParams offsetAdjustment sliceDataSize) =
      field ctx := by
  have hslices := h.slices ctx (registeredSlices ctx sliceParams)
  have hensure := h.ensure memory.sliceOffsets (registeredSlices ctx sliceParams)
    (ctx.withSlices (registeredSlices ctx sliceParams))
  unfold Av1.setAV1SliceOffsets
  simp only
  split
  · exact (h.tiles _ (ctx.withSlices (registeredSlices ctx sliceParams)).invalid).trans hslices
  · split
    · rename_i ready hready
      rw [hready] at hensure
      exact hensure.trans hslices
    · rename_i ready hready
      rw [hready] at hensure
      have hloop := h.loop memory.intervals (registeredSlices ctx sliceParams) offsetAdjustment
        sliceDataSize ready sliceParams
      split
      · rename_i looped hlooped
        rw [hlooped] at hloop
        exact hloop.trans (hensure.trans hslices)
      · rename_i looped hlooped
        rw [hlooped] at hloop
        exact (h.finishRegistration _ looped).trans (hloop.trans (hensure.trans hslices))

end Untouched

end Av1
end NvidiaVaapi
