import NvidiaVaapi.Av1.PictureRuns

/-!
# The order of the buffers of a picture

Slice parameters and slice data of an AV1 picture come in pairs.  A parameter buffer that
comes before any data waits for it, and its offsets count from the data that follows.  One
that finds data already there is registered at once, with offsets that count from the
beginning.
-/

namespace NvidiaVaapi
namespace Av1

open Codec

/-! ## Pairs of buffers -/

/-- Slice parameters with the slice data that their offsets are for. -/
structure SlicePair where
  elementSize : Nat
  sliceParams : List VASliceParameterBufferAV1
  data : List UInt8

/-- The parameters first. -/
def SlicePair.buffers (pair : SlicePair) : List NVBuffer :=
  [.sliceParameter pair.elementSize pair.sliceParams, .sliceData pair.data]

/-- The data first. -/
def SlicePair.dataFirst (pair : SlicePair) : List NVBuffer :=
  [.sliceData pair.data, .sliceParameter pair.elementSize pair.sliceParams]

/-- Neither buffer is empty, and the tiles lie in the data. -/
def SlicePair.wellFormed (pair : SlicePair) : Prop :=
  pair.sliceParams ≠ [] ∧ pair.data ≠ [] ∧
    ∀ param ∈ pair.sliceParams, param.sliceDataOffset + param.sliceDataSize ≤ pair.data.length

/-- The buffers of all pairs in turn. -/
def pairedBuffers (pairs : List SlicePair) : List NVBuffer :=
  pairs.flatMap SlicePair.buffers

/-- The slice parameter for data that stands behind so many bytes. -/
def VASliceParameterBufferAV1.shift (base : Nat) (param : VASliceParameterBufferAV1) :
    VASliceParameterBufferAV1 :=
  { param with sliceDataOffset := base + param.sliceDataOffset }

/-- The parameters of all pairs for their data in one piece. -/
def joinedParams : Nat → List SlicePair → List VASliceParameterBufferAV1
  | _, [] => []
  | base, pair :: pairs =>
    pair.sliceParams.map (VASliceParameterBufferAV1.shift base) ++
      joinedParams (base + pair.data.length) pairs

/-- All pairs as one: the data in one piece with the offsets shifted accordingly. -/
def joinedPair (elementSize : Nat) (pairs : List SlicePair) : SlicePair where
  elementSize := elementSize
  sliceParams := joinedParams 0 pairs
  data := pairs.flatMap SlicePair.data

/-! ## What a delivery registers -/

/-- The tile of a slice parameter is at a place of the block, and its bytes there are those
that the parameter selects in the data. -/
def NVContext.registers (ctx : NVContext) (start : Nat) (data : List UInt8)
    (param : VASliceParameterBufferAV1) : Prop :=
  ctx.places param start ∧
    (ctx.bitstreamBuffer.buf.drop start).take param.sliceDataSize =
      (data.drop param.sliceDataOffset).take param.sliceDataSize

/-- The tiles of all pairs are at their data, the data of the pairs being one behind the
other. -/
def NVContext.registersPairs (ctx : NVContext) : Nat → List SlicePair → Prop
  | _, [] => True
  | base, pair :: pairs =>
    (∀ param ∈ pair.sliceParams, ctx.registers (base + param.sliceDataOffset) pair.data param) ∧
      ctx.registersPairs (base + pair.data.length) pairs

/-- A delivery of the buffers is taken for some answers of the allocator. -/
def NVContext.accepts (ctx : NVContext) (buffers : List NVBuffer) : Prop :=
  ∃ deliveries : List (Memory × NVBuffer), deliveries.map Prod.snd = buffers ∧
    (nvRenderPicture none deliveries ctx).2 = .success

/-- Every delivery of the buffers that no allocation fails in is taken, and every delivery
that is taken registers the tiles of the pairs. -/
def NVContext.registersBy (ctx : NVContext) (buffers : List NVBuffer) (pairs : List SlicePair) :
    Prop :=
  ∀ deliveries : List (Memory × NVBuffer), deliveries.map Prod.snd = buffers →
    ((∀ delivery ∈ deliveries, delivery.1.ample) →
      (nvRenderPicture none deliveries ctx).2 = .success) ∧
    ((nvRenderPicture none deliveries ctx).2 = .success →
      (nvRenderPicture none deliveries ctx).1.registersPairs 0 pairs)

/-- The pairs are registered at their data, and a single pair also where its data comes
first. -/
def NVContext.orderIndependent (ctx : NVContext) (pairs : List SlicePair) : Prop :=
  ctx.registersBy (pairedBuffers pairs) pairs ∧
    ∀ pair, pairs = [pair] → ctx.registersBy pair.dataFirst pairs

/-- The context right after the picture parameters of a picture have been taken, in any run
of calls on a context. -/
def afterPictureParameters (ctx : NVContext) : Prop :=
  ∃ width height threshold frames history surface memory surfaces buf,
    let before := ((newContext width height threshold frames).calls history).1
    before.pictureState = .idle ∧
      nvRenderPicture none [(memory, .pictureParameter surfaces buf)]
        (nvBeginPicture (.ok surface) before).1 = (ctx, .success)

/-! ## A picture that waits for its tiles -/

/-- The parameters of the picture have come, and nothing else. -/
structure AwaitsTiles (ctx : NVContext) : Prop where
  building : ctx.pictureState = .building
  ledger : TileLedger ctx
  count : ctx.av1TileOffsetsSeen = 0
  bitstream : ctx.bitstreamBuffer.size = 0
  lastSliceParams : ctx.lastSliceParams = []
  uncut : ctx.av1BitstreamCompacted = false
  free : ¬ctx.blocked
  params : ctx.sliceParamsBuffer.failed = false

theorem renderBuffers_cons {ctx ctx' : NVContext} {memory : Memory} {buffer : NVBuffer}
    {buffers : List (Memory × NVBuffer)} :
    renderBuffers ctx ((memory, buffer) :: buffers) = (ctx', .success) ↔
      ∃ next, renderBuffer memory ctx buffer = (next, .success) ∧
        renderBuffers next buffers = (ctx', .success) := by
  constructor
  · intro hrender
    unfold renderBuffers at hrender
    split at hrender
    · rename_i next hround
      exact ⟨next, hround, hrender⟩
    · rename_i next status hfailed hround
      cases hrender
      exact absurd rfl hfailed
  · rintro ⟨next, hround, hrest⟩
    unfold renderBuffers
    rw [hround]
    exact hrest

theorem nvRenderPicture_success {ctx ctx' : NVContext} {buffers : List (Memory × NVBuffer)}
    (hbuilding : ctx.pictureState = .building) :
    nvRenderPicture none buffers ctx = (ctx', .success) ↔
      renderBuffers ctx buffers = (ctx', .success) := by
  unfold nvRenderPicture nvRenderPictureImpl
  rw [if_neg (by simp [hbuilding])]
  simp only
  split
  · rfl
  · rename_i hfailed
    constructor
    · intro hrender
      exact absurd (congrArg Prod.snd hrender) hfailed
    · intro hrender
      exact absurd (congrArg Prod.snd hrender) hfailed

/-- The parameters of a picture leave it waiting for its tiles. -/
theorem awaitsTiles_of_afterPictureParameters {ctx : NVContext}
    (hctx : afterPictureParameters ctx) : AwaitsTiles ctx := by
  obtain ⟨width, height, threshold, frames, history, surface, memory, surfaces, buf, hidle,
    hrender⟩ := hctx
  have hquiet := quiet_of_idle hidle
  generalize ((newContext width height threshold frames).calls history).1 = before at *
  unfold nvBeginPicture at hrender
  rw [if_neg (by simp [hidle])] at hrender
  simp only at hrender
  rw [nvRenderPicture_success rfl] at hrender
  obtain ⟨next, hround, hrest⟩ := renderBuffers_cons.mp hrender
  cases hrest
  have hstatus := congrArg Prod.snd hround
  have hnext := congrArg Prod.fst hround
  change copyAV1PicParam surfaces _ buf = ctx at hnext
  change handlerStatus (copyAV1PicParam surfaces _ buf) = .success at hstatus
  rw [hnext] at hstatus
  obtain ⟨hfree, hparams⟩ := handlerStatus_eq_success.mp hstatus
  unfold copyAV1PicParam at hnext
  split at hnext
  · refine absurd (.inl ?_) hfree
    rw [← hnext]
    rfl
  · rename_i hvalid
    obtain ⟨hcols, hrows, hcolsLe, hrowsLe⟩ :=
      validateAV1PictureParams_tiles (by simpa using hvalid)
    have hslices : ctx.pPicParams.nNumSlices = buf.tileCols * buf.tileRows := by
      rw [← hnext]
      exact fillAV1PicParams_nNumSlices _ _ _ _ _ _ _
    have hnone (tileIndex : Nat) : ¬ctx.hasTile tileIndex := by
      rw [← hnext]
      unfold NVContext.hasTile
      simp
    have hmany : buf.tileCols * buf.tileRows ≤ 63 * 63 := Nat.mul_le_mul hcolsLe hrowsLe
    refine ⟨?_, ⟨?_, ?_, ?_, fun t h => absurd h (hnone t), fun t h => absurd h (hnone t), ?_,
      fun _ t h => absurd h (hnone t)⟩, ?_, ?_, ?_, ?_, hfree, hparams⟩
    · rw [← hnext]
    · rw [hslices]
      exact Nat.mul_pos hcols hrows
    · rw [hslices]
      unfold nvdIntervalIndexCapacity
      omega
    · rw [Finset.filter_false_of_mem fun t _ => hnone t, ← hnext]
      rfl
    · intro _
      rw [← hnext]
    · rw [← hnext]
    · rw [← hnext]
      exact hquiet.bitstream
    · rw [← hnext]
      exact hquiet.lastSliceParams
    · rw [← hnext]

/-! ## One buffer -/

theorem renderBuffer_sliceParameter {memory : Memory} {ctx ctx' : NVContext} {elementSize : Nat}
    {sliceParams : List VASliceParameterBufferAV1}
    (hrender : renderBuffer memory ctx (.sliceParameter elementSize sliceParams) =
      (ctx', .success)) :
    ∃ buffer, sliceParams ≠ [] ∧ buffer.failed = ctx.sliceParamsBuffer.failed ∧
      ctx' = copyAV1SliceParam memory (ctx.withSliceParamsBuffer buffer) sliceParams ∧
      ¬ctx'.blocked ∧ ctx'.sliceParamsBuffer.failed = false := by
  unfold renderBuffer at hrender
  simp only at hrender
  split at hrender
  · cases hrender
  · rename_i hsome
    split at hrender
    · cases hrender
    · rename_i buffer hown
      have hfailed : buffer.failed = ctx.sliceParamsBuffer.failed := by
        unfold ownSliceParams at hown
        split at hown <;> cases hown
        rfl
      have hstatus := congrArg Prod.snd hrender
      have hctx := congrArg Prod.fst hrender
      change handlerStatus (copyAV1SliceParam _ _ _) = .success at hstatus
      change copyAV1SliceParam _ _ _ = ctx' at hctx
      rw [hctx] at hstatus
      obtain ⟨hfree, hparams⟩ := handlerStatus_eq_success.mp hstatus
      exact ⟨buffer, hsome, hfailed, hctx.symm, hfree, hparams⟩

theorem renderBuffer_sliceData {memory : Memory} {ctx ctx' : NVContext} {data : List UInt8}
    (hrender : renderBuffer memory ctx (.sliceData data) = (ctx', .success)) :
    data ≠ [] ∧ ctx' = copyAV1SliceData memory ctx data ∧ ¬ctx'.blocked := by
  unfold renderBuffer at hrender
  simp only at hrender
  split at hrender
  · cases hrender
  · rename_i hsome
    have hstatus := congrArg Prod.snd hrender
    have hctx := congrArg Prod.fst hrender
    change handlerStatus (copyAV1SliceData _ _ _) = .success at hstatus
    change copyAV1SliceData _ _ _ = ctx' at hctx
    rw [hctx] at hstatus
    exact ⟨hsome, hctx.symm, (handlerStatus_eq_success.mp hstatus).1⟩

/-- Slice parameters and slice data that are taken keep the tiles that are there. -/
theorem TileLedger.renderBuffer {memory : Memory} {ctx ctx' : NVContext} {pair : SlicePair}
    {buffer : NVBuffer} (h : TileLedger ctx) (hbuffer : buffer ∈ pair.buffers)
    (hrender : renderBuffer memory ctx buffer = (ctx', .success)) :
    TileLedger ctx' ∧ KeepsTiles ctx ctx' := by
  unfold SlicePair.buffers at hbuffer
  rw [List.mem_pair] at hbuffer
  rcases hbuffer with rfl | rfl
  · obtain ⟨own, _, _, rfl, hfree, _⟩ := renderBuffer_sliceParameter hrender
    obtain ⟨hledger, hkeeps⟩ := (h.withSliceParamsBuffer own).copyAV1SliceParam hfree
    exact ⟨hledger, (keepsTiles_withSliceParamsBuffer ctx own).trans hkeeps⟩
  · obtain ⟨_, rfl, hfree⟩ := renderBuffer_sliceData hrender
    exact h.copyAV1SliceData hfree

/-- So does a whole list of them. -/
theorem TileLedger.renderBuffers {ctx ctx' : NVContext} {pairs : List SlicePair}
    {deliveries : List (Memory × NVBuffer)} (h : TileLedger ctx)
    (hbuffers : ∀ delivery ∈ deliveries, ∃ pair ∈ pairs, delivery.2 ∈ pair.buffers)
    (hrender : renderBuffers ctx deliveries = (ctx', .success)) : KeepsTiles ctx ctx' := by
  induction deliveries generalizing ctx with
  | nil =>
      cases hrender
      exact .refl _
  | cons delivery deliveries ih =>
      obtain ⟨memory, buffer⟩ := delivery
      obtain ⟨next, hround, hrest⟩ := renderBuffers_cons.mp hrender
      obtain ⟨pair, _, hbuffer⟩ := hbuffers _ List.mem_cons_self
      obtain ⟨hledger, hkeeps⟩ := h.renderBuffer hbuffer hround
      exact hkeeps.trans
        (ih hledger (fun other hother => hbuffers other (List.mem_cons_of_mem _ hother)) hrest)

/-! ## The first pair -/

/-- The context while slice parameters wait for their data. -/
def NVContext.waitingFor (ctx : NVContext) (own : SliceParamsBuffer)
    (sliceParams : List VASliceParameterBufferAV1) : NVContext :=
  (ctx.withSliceParamsBuffer own).withLastSliceParams sliceParams

theorem TileLedger.waitingFor {ctx : NVContext} (h : TileLedger ctx) (own : SliceParamsBuffer)
    (sliceParams : List VASliceParameterBufferAV1) : TileLedger (ctx.waitingFor own sliceParams) :=
  (h.withSliceParamsBuffer own).withLastSliceParams sliceParams

theorem keepsTiles_waitingFor (ctx : NVContext) (own : SliceParamsBuffer)
    (sliceParams : List VASliceParameterBufferAV1) :
    KeepsTiles ctx (ctx.waitingFor own sliceParams) :=
  (keepsTiles_withSliceParamsBuffer ctx own).trans (keepsTiles_withLastSliceParams _ sliceParams)

/-- The first slice parameters wait for their data. -/
theorem AwaitsTiles.sliceParameter {memory : Memory} {ctx ctx' : NVContext} {elementSize : Nat}
    {sliceParams : List VASliceParameterBufferAV1} (h : AwaitsTiles ctx)
    (hrender : renderBuffer memory ctx (.sliceParameter elementSize sliceParams) =
      (ctx', .success)) :
    ∃ own, sliceParams ≠ [] ∧ ctx' = ctx.waitingFor own sliceParams := by
  obtain ⟨own, hsome, _, hctx, _, _⟩ := renderBuffer_sliceParameter hrender
  refine ⟨own, hsome, ?_⟩
  have hempty : ¬(ctx.waitingFor own sliceParams).bitstreamBuffer.size > 0 := by
    change ¬ctx.bitstreamBuffer.size > 0
    rw [h.bitstream]
    omega
  rw [hctx]
  exact if_neg hempty

/-- The first data with the parameters that wait for it: the tiles are registered where the
parameters say, and the bitstream is the data. -/
structure FirstPair (sliceParams : List VASliceParameterBufferAV1) (data : List UInt8)
    (ctx looped : NVContext) (buffer : AppendableBuffer) : Prop where
  effect : LoopEffect 0 data.length sliceParams ctx looped
  offset : looped.bitstreamDataOffset = 0
  uncut : looped.av1BitstreamCompacted = false
  lastSliceParams : looped.lastSliceParams = sliceParams
  bytes : buffer.bytes = data

/-- A registration in a picture without data adds nothing but the tiles. -/
theorem Registration.result_empty {memory : Memory} {ctx looped : NVContext}
    {sliceParams : List VASliceParameterBufferAV1} {offsetAdjustment : Int} {sliceDataSize : Nat}
    (hreg : Registration memory sliceParams offsetAdjustment sliceDataSize ctx looped)
    (hempty : ctx.bitstreamBuffer.size = 0) :
    setAV1SliceOffsets memory ctx sliceParams offsetAdjustment sliceDataSize = looped := by
  have hsize : looped.bitstreamBuffer.size = 0 := by
    rw [hreg.frame]
    exact hempty
  rw [hreg.result]
  unfold finishRegistration
  rw [if_neg (by simp [hsize])]

theorem AwaitsTiles.sliceData {memory : Memory} {ctx ctx' : NVContext} {own : SliceParamsBuffer}
    {sliceParams : List VASliceParameterBufferAV1} {data : List UInt8} (h : AwaitsTiles ctx)
    (hsome : sliceParams ≠ [])
    (hrender : renderBuffer memory (ctx.waitingFor own sliceParams) (.sliceData data) =
      (ctx', .success)) :
    nvCanAppendCuvidBitstream ctx data.length = true ∧ ∃ looped buffer,
      Registration memory sliceParams 0 data.length (ctx.waitingFor own sliceParams) looped ∧
      FirstPair sliceParams data ctx looped buffer ∧
      ctx' = finishSliceData (looped.withBitstream buffer) := by
  obtain ⟨_, rfl, hfree⟩ := renderBuffer_sliceData hrender
  have hempty : (ctx.waitingFor own sliceParams).bitstreamBuffer.size = 0 := h.bitstream
  obtain ⟨hroom, ⟨hnone, _⟩ | ⟨_, hresult⟩⟩ := copyAV1SliceData_cases hfree
  · exact absurd hnone hsome
  · rw [hempty] at hresult
    change _ = appendSliceData memory (setAV1SliceOffsets memory (ctx.waitingFor own sliceParams)
      sliceParams 0 data.length) data at hresult
    rw [hresult] at hfree ⊢
    obtain ⟨looped, hreg⟩ := registration_of_free fun hblocked =>
      hfree (appendSliceData_blocked hblocked)
    have hframe := hreg.frame
    rw [hreg.result_empty hempty] at hfree ⊢
    obtain ⟨buffer, happend, happended⟩ := appendSliceData_cases hfree
    obtain ⟨hbytes, _, _⟩ := AppendableBuffer.append_spec happend
    have heffect := (h.ledger.waitingFor own sliceParams).registration hreg
    have hbefore : looped.bitstreamBuffer.bytes = [] := by
      rw [hframe]
      apply List.eq_nil_of_length_eq_zero
      rw [AppendableBuffer.length_bytes]
      exact hempty
    refine ⟨hroom, looped, buffer, hreg, ⟨?_, ?_, ?_, ?_, ?_⟩, happended⟩
    · exact ⟨heffect.ledger, (keepsTiles_waitingFor ctx own sliceParams).trans heffect.keeps,
        heffect.count, heffect.placed⟩
    · rw [hframe]
      exact h.ledger.uncut h.uncut
    · rw [hframe]
      exact h.uncut
    · rw [hframe]
      rfl
    · rw [hbytes, hbefore, List.nil_append]

/-! ## The bytes of the tiles -/

theorem compact_buf (ctx : NVContext) :
    (compactAV1BitstreamToCurrentFrame ctx).bitstreamBuffer.buf = ctx.bitstreamBuffer.buf := by
  cases hstart : compactionStart ctx ctx.bitstreamBuffer.bytes with
  | none => rw [compact_of_none hstart]
  | some start =>
      obtain ⟨_, hcompact⟩ := compact_of_some hstart
      rw [hcompact]
      rfl

theorem finishSliceData_buf (ctx : NVContext) :
    (finishSliceData ctx).bitstreamBuffer.buf = ctx.bitstreamBuffer.buf := by
  unfold finishSliceData
  split
  · exact compact_buf ctx
  · rfl

theorem finishRegistration_buf (numSlices : Nat) (ctx : NVContext) :
    (finishRegistration numSlices ctx).bitstreamBuffer.buf = ctx.bitstreamBuffer.buf := by
  unfold finishRegistration
  split
  · exact compact_buf ctx
  · rfl

/-- A range that lies in the bytes in use is the same in the block. -/
theorem take_drop_buf {buffer : AppendableBuffer} {data : List UInt8}
    (hbytes : buffer.bytes = data) {start count : Nat} (hrange : start + count ≤ data.length) :
    (buffer.buf.drop start).take count = (data.drop start).take count := by
  subst hbytes
  rw [AppendableBuffer.length_bytes] at hrange
  unfold AppendableBuffer.bytes
  rw [List.drop_take, List.take_take, Nat.min_eq_left (by omega)]

/-- Tiles that are placed by their offsets in the only data there is have its bytes. -/
theorem registers_of_placed {ctx final : NVContext} {buffer : AppendableBuffer}
    {data : List UInt8} {param : VASliceParameterBufferAV1}
    (hplaces : ctx.places param param.sliceDataOffset) (hkeeps : KeepsTiles ctx final)
    (hbuf : final.bitstreamBuffer.buf = buffer.buf) (hbytes : buffer.bytes = data)
    (hrange : param.sliceDataOffset + param.sliceDataSize ≤ data.length) :
    final.registers param.sliceDataOffset data param := by
  refine ⟨hkeeps.places hplaces, ?_⟩
  rw [hbuf]
  exact take_drop_buf hbytes hrange

theorem LoopEffect.placed_zero {sliceParams : List VASliceParameterBufferAV1} {sliceDataSize : Nat}
    {ctx looped : NVContext} (h : LoopEffect 0 sliceDataSize sliceParams ctx looped)
    (hoffset : ctx.bitstreamDataOffset = 0) {param : VASliceParameterBufferAV1}
    (hparam : param ∈ sliceParams) :
    param.sliceDataOffset + param.sliceDataSize ≤ sliceDataSize ∧ 0 < param.sliceDataSize ∧
      looped.places param param.sliceDataOffset := by
  obtain ⟨hrange, hsize, _, hplaces⟩ := h.placed param hparam
  refine ⟨hrange, hsize, ?_⟩
  rw [hoffset] at hplaces
  simpa using hplaces

/-- The first pair is registered at its data. -/
theorem AwaitsTiles.registers_pair {ctx ctx' : NVContext} {pair : SlicePair}
    {deliveries : List (Memory × NVBuffer)} (h : AwaitsTiles ctx)
    (hbuffers : deliveries.map Prod.snd = pair.buffers)
    (hrender : renderBuffers ctx deliveries = (ctx', .success)) :
    ∀ param ∈ pair.sliceParams, ctx'.registers param.sliceDataOffset pair.data param := by
  obtain ⟨⟨memory, _⟩, rest, rfl, rfl, hrest⟩ := List.map_eq_cons_iff.mp hbuffers
  obtain ⟨⟨memory', _⟩, rest', rfl, rfl, hnil⟩ := List.map_eq_cons_iff.mp hrest
  obtain ⟨next, hround, hrender'⟩ := renderBuffers_cons.mp hrender
  obtain ⟨own, hsome, rfl⟩ := h.sliceParameter hround
  obtain ⟨last, hround', hrender''⟩ := renderBuffers_cons.mp hrender'
  obtain ⟨_, looped, buffer, _, hfirst, rfl⟩ := h.sliceData hsome hround'
  rw [List.map_eq_nil_iff.mp hnil] at hrender''
  cases hrender''
  intro param hparam
  obtain ⟨hrange, _, hplaces⟩ :=
    hfirst.effect.placed_zero (h.ledger.uncut h.uncut) hparam
  obtain ⟨_, hkeeps⟩ := (hfirst.effect.ledger.withBitstream buffer).finishSliceData
  exact registers_of_placed hplaces ((keepsTiles_withBitstream looped buffer).trans hkeeps)
    (finishSliceData_buf _) hfirst.bytes hrange

/-! ## The data first -/

/-- Data that comes before any parameters is kept as it is. -/
theorem AwaitsTiles.dataFirst {memory : Memory} {ctx ctx' : NVContext} {data : List UInt8}
    (h : AwaitsTiles ctx) (hrender : renderBuffer memory ctx (.sliceData data) = (ctx', .success)) :
    nvCanAppendCuvidBitstream ctx data.length = true ∧
      ∃ buffer, buffer.bytes = data ∧ ctx' = ctx.withBitstream buffer := by
  obtain ⟨_, rfl, hfree⟩ := renderBuffer_sliceData hrender
  obtain ⟨hroom, ⟨_, hresult⟩ | ⟨hsome, _⟩⟩ := copyAV1SliceData_cases hfree
  · rw [hresult] at hfree ⊢
    obtain ⟨buffer, happend, happended⟩ := appendSliceData_cases hfree
    obtain ⟨hbytes, _, _⟩ := AppendableBuffer.append_spec happend
    have hempty : ctx.bitstreamBuffer.bytes = [] := by
      apply List.eq_nil_of_length_eq_zero
      rw [AppendableBuffer.length_bytes]
      exact h.bitstream
    refine ⟨hroom, buffer, by rw [hbytes, hempty, List.nil_append], ?_⟩
    rw [happended]
    unfold finishSliceData
    rw [if_neg]
    have hcount := h.count
    have hslices := h.ledger.slices_pos
    change ¬ctx.av1TileOffsetsSeen ≥ ctx.pPicParams.nNumSlices
    omega
  · exact absurd h.lastSliceParams hsome

/-- Parameters that find data in a bitstream that has not been cut are registered by their
offsets from its beginning. -/
theorem TileLedger.sliceParameter {memory : Memory} {ctx ctx' : NVContext} {elementSize : Nat}
    {sliceParams : List VASliceParameterBufferAV1} (h : TileLedger ctx)
    (hoffset : ctx.bitstreamDataOffset = 0) (hnonempty : ctx.bitstreamBuffer.size > 0)
    (hrender : Av1.renderBuffer memory ctx (.sliceParameter elementSize sliceParams) =
      (ctx', .success)) :
    TileLedger ctx' ∧ ctx'.bitstreamBuffer.buf = ctx.bitstreamBuffer.buf ∧
      ∀ param ∈ sliceParams,
        param.sliceDataOffset + param.sliceDataSize ≤ ctx.bitstreamBuffer.size ∧
          ctx'.places param param.sliceDataOffset := by
  obtain ⟨own, _, _, rfl, hfree, _⟩ := renderBuffer_sliceParameter hrender
  let waiting := ctx.waitingFor own sliceParams
  have hresult : Av1.copyAV1SliceParam memory (ctx.withSliceParamsBuffer own) sliceParams =
      (Av1.setAV1SliceOffsets memory waiting sliceParams 0
        ctx.bitstreamBuffer.size).withLastSliceParams [] :=
    if_pos hnonempty
  rw [hresult] at hfree ⊢
  obtain ⟨looped, hreg⟩ := registration_of_free hfree
  have heffect := (h.waitingFor own sliceParams).registration hreg
  have hbuffer : looped.bitstreamBuffer = ctx.bitstreamBuffer := by
    rw [hreg.frame]
    rfl
  obtain ⟨hledger, hkeeps⟩ :=
    heffect.ledger.finishRegistration (registeredSlices waiting sliceParams)
  rw [hreg.result]
  refine ⟨hledger.withLastSliceParams [], ?_, fun param hparam => ?_⟩
  · exact (finishRegistration_buf _ looped).trans (congrArg AppendableBuffer.buf hbuffer)
  · obtain ⟨hrange, _, hplaces⟩ := heffect.placed_zero hoffset hparam
    exact ⟨hrange, (hkeeps.trans (keepsTiles_withLastSliceParams _ [])).places hplaces⟩

/-- A single pair is registered at its data also where the data comes first. -/
theorem AwaitsTiles.registers_dataFirst {ctx ctx' : NVContext} {pair : SlicePair}
    {deliveries : List (Memory × NVBuffer)} (h : AwaitsTiles ctx) (hpair : pair.wellFormed)
    (hbuffers : deliveries.map Prod.snd = pair.dataFirst)
    (hrender : renderBuffers ctx deliveries = (ctx', .success)) :
    ∀ param ∈ pair.sliceParams, ctx'.registers param.sliceDataOffset pair.data param := by
  obtain ⟨⟨memory, _⟩, rest, rfl, rfl, hrest⟩ := List.map_eq_cons_iff.mp hbuffers
  obtain ⟨⟨memory', _⟩, rest', rfl, rfl, hnil⟩ := List.map_eq_cons_iff.mp hrest
  obtain ⟨next, hround, hrender'⟩ := renderBuffers_cons.mp hrender
  obtain ⟨_, buffer, hbytes, rfl⟩ := h.dataFirst hround
  obtain ⟨last, hround', hrender''⟩ := renderBuffers_cons.mp hrender'
  rw [List.map_eq_nil_iff.mp hnil] at hrender''
  cases hrender''
  have hsize : buffer.size = pair.data.length := by
    rw [← hbytes, AppendableBuffer.length_bytes]
  have hnonempty : buffer.size > 0 := by
    rw [hsize]
    exact List.length_pos_iff.mpr hpair.2.1
  obtain ⟨_, hbuf, hplaced⟩ := (h.ledger.withBitstream buffer).sliceParameter
    (h.ledger.uncut h.uncut) hnonempty hround'
  intro param hparam
  exact registers_of_placed (hplaced param hparam).2 (.refl _) hbuf hbytes
    (hpair.2.2 param hparam)

/-! ## Deliveries that no allocation fails in -/

theorem ownSliceParams_ample {heap : Heap} (hample : ample heap) (buffer : SliceParamsBuffer)
    (elementSize : Nat) (sliceParams : List VASliceParameterBufferAV1) :
    ∃ own, ownSliceParams heap buffer elementSize sliceParams = (own, true) ∧
      own.failed = buffer.failed := by
  obtain ⟨capacity, hreserve⟩ :=
    reserveStorage_ample hample buffer.allocated (elementSize * sliceParams.length)
  unfold ownSliceParams
  rw [hreserve]
  exact ⟨_, rfl, rfl⟩

theorem renderBuffer_sliceData_success (memory : Memory) (ctx : NVContext) {data : List UInt8}
    (hdata : data ≠ []) (hfree : ¬(copyAV1SliceData memory ctx data).blocked)
    (hparams : (copyAV1SliceData memory ctx data).sliceParamsBuffer.failed = false) :
    renderBuffer memory ctx (.sliceData data) =
      (copyAV1SliceData memory ctx data, .success) := by
  unfold renderBuffer
  simp only
  rw [if_neg hdata, handlerStatus_eq_success.mpr ⟨hfree, hparams⟩]

theorem renderBuffer_sliceParameter_success (memory : Memory) (ctx : NVContext)
    (elementSize : Nat) {sliceParams : List VASliceParameterBufferAV1} {own : SliceParamsBuffer}
    (hsome : sliceParams ≠ [])
    (hown : ownSliceParams memory.sliceParams ctx.sliceParamsBuffer elementSize sliceParams =
      (own, true))
    (hfree : ¬(copyAV1SliceParam memory (ctx.withSliceParamsBuffer own) sliceParams).blocked)
    (hparams : (copyAV1SliceParam memory (ctx.withSliceParamsBuffer own)
      sliceParams).sliceParamsBuffer.failed = false) :
    renderBuffer memory ctx (.sliceParameter elementSize sliceParams) =
      (copyAV1SliceParam memory (ctx.withSliceParamsBuffer own) sliceParams, .success) := by
  unfold renderBuffer
  simp only
  rw [if_neg hsome, hown]
  simp only
  rw [handlerStatus_eq_success.mpr ⟨hfree, hparams⟩]

/-- Parameters that find no data are kept. -/
theorem AwaitsTiles.sliceParameter_ample {memory : Memory} {ctx : NVContext}
    (h : AwaitsTiles ctx) (hample : memory.ample) (elementSize : Nat)
    {sliceParams : List VASliceParameterBufferAV1} (hsome : sliceParams ≠ []) :
    ∃ own, own.failed = false ∧
      renderBuffer memory ctx (.sliceParameter elementSize sliceParams) =
        (ctx.waitingFor own sliceParams, .success) := by
  obtain ⟨own, hown, hfailed⟩ :=
    ownSliceParams_ample hample.1 ctx.sliceParamsBuffer elementSize sliceParams
  have hempty : ¬(ctx.waitingFor own sliceParams).bitstreamBuffer.size > 0 := by
    change ¬ctx.bitstreamBuffer.size > 0
    rw [h.bitstream]
    omega
  have hcopied : copyAV1SliceParam memory (ctx.withSliceParamsBuffer own) sliceParams =
      ctx.waitingFor own sliceParams := if_neg hempty
  have hown' : own.failed = false := hfailed.trans h.params
  refine ⟨own, hown', ?_⟩
  rw [renderBuffer_sliceParameter_success memory ctx elementSize hsome hown]
  · rw [hcopied]
  · rw [hcopied]
    exact h.free
  · rw [hcopied]
    exact hown'

/-- The registration of the first pair depends on the tiles only. -/
theorem tilesAgree_waitingFor (ctx : NVContext) (own own' : SliceParamsBuffer)
    (sliceParams : List VASliceParameterBufferAV1) :
    TilesAgree (ctx.waitingFor own sliceParams) (ctx.waitingFor own' sliceParams) :=
  ⟨rfl, rfl, rfl, ⟨rfl, rfl, rfl, rfl⟩, rfl, rfl, rfl⟩

theorem finishSliceData_failed (ctx : NVContext) :
    (finishSliceData ctx).sliceParamsBuffer.failed = ctx.sliceParamsBuffer.failed := by
  unfold finishSliceData
  split
  · rw [untouched_sliceParamsBuffer.compact]
  · rfl

theorem canAppend_le {ctx : NVContext} {count : Nat}
    (hroom : nvCanAppendCuvidBitstream ctx count = true) :
    ctx.bitstreamBuffer.size + count ≤ uint32Max := by
  unfold nvCanAppendCuvidBitstream at hroom
  simp only [Bool.not_eq_true', decide_eq_false_iff_not, not_or] at hroom
  omega

theorem uint32Max_le_sizeMax : uint32Max ≤ sizeMax := by
  unfold uint32Max sizeMax
  omega

/-- Data without a failure in its registration is taken. -/
theorem appendSliceData_ample {memory : Memory} {ctx : NVContext} (data : List UInt8)
    (hample : ample memory.bitstream)
    (hroom : ctx.bitstreamBuffer.size + data.length ≤ uint32Max) (hfree : ¬ctx.blocked) :
    ∃ buffer, ctx.bitstreamBuffer.append memory.bitstream data = (buffer, true) ∧
      appendSliceData memory ctx data = finishSliceData (ctx.withBitstream buffer) ∧
      ¬(appendSliceData memory ctx data).blocked := by
  obtain ⟨buffer, happend⟩ :=
    append_ample hample ctx.bitstreamBuffer (Nat.le_trans hroom uint32Max_le_sizeMax)
  obtain ⟨_, hsize, hfailed⟩ := AppendableBuffer.append_spec happend
  have hcommit : nvCommitCuvidBitstreamLength { ctx with bitstreamBuffer := buffer } =
      ctx.withBitstream buffer := if_neg (by
    change ¬buffer.size > uint32Max
    omega)
  have hresult : appendSliceData memory ctx data = finishSliceData (ctx.withBitstream buffer) := by
    rw [← hcommit]
    unfold appendSliceData
    rw [happend]
    rfl
  refine ⟨buffer, happend, hresult, ?_⟩
  rw [hresult, finishSliceData_blocked]
  rintro (hblocked | hblocked | hblocked)
  · exact hfree (.inl hblocked)
  · exact hfree (.inr (.inl hblocked))
  · exact hfree (.inr (.inr (hfailed.symm.trans hblocked)))

/-- The first pair is taken where it could be registered. -/
theorem AwaitsTiles.pair_ample {ctx looped : NVContext} {memory₀ : Memory}
    {own₀ : SliceParamsBuffer} {pair : SlicePair} {deliveries : List (Memory × NVBuffer)}
    (h : AwaitsTiles ctx) (hsome : pair.sliceParams ≠ []) (hdata : pair.data ≠ [])
    (hroom : nvCanAppendCuvidBitstream ctx pair.data.length = true)
    (hreg : Registration memory₀ pair.sliceParams 0 pair.data.length
      (ctx.waitingFor own₀ pair.sliceParams) looped)
    (hbuffers : deliveries.map Prod.snd = pair.buffers)
    (hample : ∀ delivery ∈ deliveries, delivery.1.ample) :
    ∃ ctx', renderBuffers ctx deliveries = (ctx', .success) := by
  obtain ⟨⟨memory, _⟩, rest, rfl, rfl, hrest⟩ := List.map_eq_cons_iff.mp hbuffers
  obtain ⟨⟨memory', _⟩, rest', rfl, rfl, hnil⟩ := List.map_eq_cons_iff.mp hrest
  cases List.map_eq_nil_iff.mp hnil
  have hample₁ : memory.ample := hample _ List.mem_cons_self
  have hample₂ : memory'.ample := hample _ (List.mem_cons_of_mem _ List.mem_cons_self)
  obtain ⟨own, hown, hround⟩ := h.sliceParameter_ample hample₁ pair.elementSize hsome
  obtain ⟨looped', hreg'⟩ := (tilesAgree_waitingFor ctx own₀ own pair.sliceParams).registration_ample
    rfl hample₂ hreg
  have hempty : (ctx.waitingFor own pair.sliceParams).bitstreamBuffer.size = 0 := h.bitstream
  have hresult := hreg'.result_empty hempty
  have hfree : ¬looped'.blocked := by
    rw [← hresult, hreg'.blocked]
    exact h.free
  have hlooped : looped'.bitstreamBuffer.size = 0 := by
    rw [hreg'.frame]
    exact hempty
  have hfits := canAppend_le hroom
  rw [h.bitstream] at hfits
  obtain ⟨buffer, _, happended, hfree'⟩ :=
    appendSliceData_ample pair.data hample₂.2.2.2 (by omega) hfree
  have hcopied : copyAV1SliceData memory' (ctx.waitingFor own pair.sliceParams) pair.data =
      appendSliceData memory' looped' pair.data := by
    have hlast : (ctx.waitingFor own pair.sliceParams).lastSliceParams ≠ [] := hsome
    unfold copyAV1SliceData
    rw [if_neg (by
      change ¬nvCanAppendCuvidBitstream ctx pair.data.length = false
      rw [hroom]
      nofun), if_neg hlast, ← hresult, hempty]
    rfl
  have hround' := renderBuffer_sliceData_success memory'
    (ctx.waitingFor own pair.sliceParams) hdata (by rw [hcopied]; exact hfree') (by
      rw [hcopied, happended, finishSliceData_failed]
      change looped'.sliceParamsBuffer.failed = false
      rw [hreg'.frame]
      exact hown)
  exact ⟨_, renderBuffers_cons.mpr ⟨_, hround, renderBuffers_cons.mpr ⟨_, hround', rfl⟩⟩⟩

/-- So is its data with the parameters behind it. -/
theorem AwaitsTiles.dataFirst_ample {ctx looped : NVContext} {memory₀ : Memory}
    {own₀ : SliceParamsBuffer} {pair : SlicePair} {deliveries : List (Memory × NVBuffer)}
    (h : AwaitsTiles ctx) (hsome : pair.sliceParams ≠ []) (hdata : pair.data ≠ [])
    (hroom : nvCanAppendCuvidBitstream ctx pair.data.length = true)
    (hreg : Registration memory₀ pair.sliceParams 0 pair.data.length
      (ctx.waitingFor own₀ pair.sliceParams) looped)
    (hbuffers : deliveries.map Prod.snd = pair.dataFirst)
    (hample : ∀ delivery ∈ deliveries, delivery.1.ample) :
    ∃ ctx', renderBuffers ctx deliveries = (ctx', .success) := by
  obtain ⟨⟨memory, _⟩, rest, rfl, rfl, hrest⟩ := List.map_eq_cons_iff.mp hbuffers
  obtain ⟨⟨memory', _⟩, rest', rfl, rfl, hnil⟩ := List.map_eq_cons_iff.mp hrest
  cases List.map_eq_nil_iff.mp hnil
  have hample₁ : memory.ample := hample _ List.mem_cons_self
  have hample₂ : memory'.ample := hample _ (List.mem_cons_of_mem _ List.mem_cons_self)
  have hfits := canAppend_le hroom
  obtain ⟨buffer, happend, happended, hfree⟩ :=
    appendSliceData_ample pair.data hample₁.2.2.2 hfits h.free
  obtain ⟨_, hsize, _⟩ := AppendableBuffer.append_spec happend
  rw [h.bitstream, Nat.zero_add] at hsize
  have hcopied : copyAV1SliceData memory ctx pair.data = ctx.withBitstream buffer := by
    have hunfinished : finishSliceData (ctx.withBitstream buffer) = ctx.withBitstream buffer :=
      if_neg (by
        have hcount := h.count
        have hslices := h.ledger.slices_pos
        change ¬ctx.av1TileOffsetsSeen ≥ ctx.pPicParams.nNumSlices
        omega)
    unfold copyAV1SliceData
    rw [if_neg (by rw [hroom]; nofun), if_pos h.lastSliceParams, happended, hunfinished]
  have hround := renderBuffer_sliceData_success memory ctx hdata
    (by
      have hresult := happended
      unfold copyAV1SliceData
      rw [if_neg (by rw [hroom]; nofun), if_pos h.lastSliceParams]
      exact hfree)
    (by rw [hcopied]; exact h.params)
  rw [hcopied] at hround
  have hfreeData : ¬(ctx.withBitstream buffer).blocked := by
    rw [happended, finishSliceData_blocked] at hfree
    exact hfree
  obtain ⟨own, hown, hownFailed⟩ := ownSliceParams_ample hample₂.1
    (ctx.withBitstream buffer).sliceParamsBuffer pair.elementSize pair.sliceParams
  have hownFailed' : own.failed = false := hownFailed.trans h.params
  have hagree : TilesAgree (ctx.waitingFor own₀ pair.sliceParams)
      ((ctx.withBitstream buffer).waitingFor own pair.sliceParams) :=
    ⟨rfl, rfl, rfl, ⟨rfl, rfl, rfl, rfl⟩, rfl, rfl, rfl⟩
  obtain ⟨looped', hreg'⟩ := hagree.registration_ample rfl hample₂ hreg
  have hnonempty : buffer.size > 0 := by
    rw [hsize]
    exact List.length_pos_iff.mpr hdata
  have hparams : copyAV1SliceParam memory' ((ctx.withBitstream buffer).withSliceParamsBuffer own)
      pair.sliceParams = (setAV1SliceOffsets memory'
        ((ctx.withBitstream buffer).waitingFor own pair.sliceParams) pair.sliceParams 0
          pair.data.length).withLastSliceParams [] := by
    rw [← hsize]
    exact if_pos hnonempty
  have hround' := renderBuffer_sliceParameter_success memory'
    (ctx.withBitstream buffer) pair.elementSize hsome hown
    (by
      rw [hparams]
      intro hblocked
      exact hfreeData (hreg'.blocked.mp hblocked))
    (by
      rw [hparams, hreg'.result]
      change (finishRegistration _ looped').sliceParamsBuffer.failed = false
      rw [untouched_sliceParamsBuffer.finishRegistration, hreg'.frame]
      exact hownFailed')
  exact ⟨_, renderBuffers_cons.mpr ⟨_, hround, renderBuffers_cons.mpr ⟨_, hround', rfl⟩⟩⟩

/-! ## All pairs in one -/

/-- Tiles that are registered in the data in one piece are registered in their own data. -/
theorem registersPairs_of_joined {ctx : NVContext} (before : List UInt8)
    {pairs : List SlicePair} (hpairs : ∀ pair ∈ pairs, pair.wellFormed)
    (hjoined : ∀ param ∈ joinedParams before.length pairs,
      ctx.registers param.sliceDataOffset (before ++ pairs.flatMap SlicePair.data) param) :
    ctx.registersPairs before.length pairs := by
  induction pairs generalizing before with
  | nil => trivial
  | cons pair pairs ih =>
      obtain ⟨_, _, hranges⟩ := hpairs pair List.mem_cons_self
      refine ⟨fun param hparam => ?_, ?_⟩
      · obtain ⟨hplaces, hbytes⟩ := hjoined (param.shift before.length)
          (List.mem_append_left _ (List.mem_map_of_mem hparam))
        refine ⟨hplaces, hbytes.trans ?_⟩
        have hrange := hranges param hparam
        change List.take param.sliceDataSize
          (List.drop (before.length + param.sliceDataOffset) _) = _
        rw [← List.drop_drop, List.drop_left, List.flatMap_cons,
          List.drop_append_of_le_length (by omega),
          List.take_append_of_le_length (by rw [List.length_drop]; omega)]
      · have hlength : before.length + pair.data.length = (before ++ pair.data).length :=
          List.length_append.symm
        rw [hlength]
        have hrest : ∀ other ∈ pairs, other.wellFormed := fun other hother =>
          hpairs other (List.mem_cons_of_mem _ hother)
        apply ih (before ++ pair.data) hrest
        intro param hparam
        rw [← hlength] at hparam
        have hregisters := hjoined param (List.mem_append_right _ hparam)
        rw [List.append_assoc]
        exact hregisters

theorem joinedPair_wellFormed (elementSize : Nat) {pairs : List SlicePair} (hsome : pairs ≠ [])
    (hpairs : ∀ pair ∈ pairs, pair.wellFormed) :
    (joinedPair elementSize pairs).sliceParams ≠ [] ∧ (joinedPair elementSize pairs).data ≠ [] := by
  cases pairs with
  | nil => exact absurd rfl hsome
  | cons pair pairs =>
      obtain ⟨hparams, hdata, _⟩ := hpairs pair List.mem_cons_self
      constructor
      · intro hnone
        exact hparams (List.map_eq_nil_iff.mp (List.append_eq_nil_iff.mp hnone).1)
      · intro hnone
        exact hdata (List.append_eq_nil_iff.mp hnone).1

/-- What a delivery of the first pair that is taken says of its registration. -/
theorem AwaitsTiles.registration_of_pair {ctx ctx' : NVContext} {pair : SlicePair}
    {deliveries : List (Memory × NVBuffer)} (h : AwaitsTiles ctx)
    (hbuffers : deliveries.map Prod.snd = pair.buffers)
    (hrender : renderBuffers ctx deliveries = (ctx', .success)) :
    nvCanAppendCuvidBitstream ctx pair.data.length = true ∧ ∃ memory own looped buffer,
      Registration memory pair.sliceParams 0 pair.data.length
        (ctx.waitingFor own pair.sliceParams) looped ∧
      FirstPair pair.sliceParams pair.data ctx looped buffer := by
  obtain ⟨⟨memory, _⟩, rest, rfl, rfl, hrest⟩ := List.map_eq_cons_iff.mp hbuffers
  obtain ⟨⟨memory', _⟩, rest', rfl, rfl, hnil⟩ := List.map_eq_cons_iff.mp hrest
  obtain ⟨next, hround, hrender'⟩ := renderBuffers_cons.mp hrender
  obtain ⟨own, hsome, rfl⟩ := h.sliceParameter hround
  obtain ⟨last, hround', _⟩ := renderBuffers_cons.mp hrender'
  obtain ⟨hroom, looped, buffer, hreg, hfirst, _⟩ := h.sliceData hsome hround'
  exact ⟨hroom, memory', own, looped, buffer, hreg, hfirst⟩

theorem AwaitsTiles.registersBy_joined {ctx : NVContext} {elementSize : Nat}
    {pairs : List SlicePair} (h : AwaitsTiles ctx) (hsome : pairs ≠ [])
    (hpairs : ∀ pair ∈ pairs, pair.wellFormed)
    (haccepts : ctx.accepts (joinedPair elementSize pairs).buffers) :
    ctx.registersBy (joinedPair elementSize pairs).buffers pairs := by
  obtain ⟨hparams, hdata⟩ := joinedPair_wellFormed elementSize hsome hpairs
  obtain ⟨deliveries₀, hbuffers₀, hsuccess₀⟩ := haccepts
  obtain ⟨hroom, memory₀, own₀, looped, _, hreg, _⟩ := h.registration_of_pair hbuffers₀
    ((nvRenderPicture_success h.building).mp (Prod.ext rfl hsuccess₀))
  intro deliveries hbuffers
  constructor
  · intro hample
    obtain ⟨ctx', hrender⟩ := h.pair_ample hparams hdata hroom hreg hbuffers hample
    exact congrArg Prod.snd ((nvRenderPicture_success h.building).mpr hrender)
  · intro hsuccess
    have hregisters := h.registers_pair hbuffers
      ((nvRenderPicture_success h.building).mp (Prod.ext rfl hsuccess))
    exact registersPairs_of_joined [] hpairs hregisters

/-! ## One pair, and more -/

theorem joinedPair_single (elementSize : Nat) (pair : SlicePair) :
    (joinedPair elementSize [pair]).sliceParams = pair.sliceParams ∧
      (joinedPair elementSize [pair]).data = pair.data := by
  constructor
  · change pair.sliceParams.map (VASliceParameterBufferAV1.shift 0) ++ [] = _
    have hshift : VASliceParameterBufferAV1.shift 0 = id := by
      funext param
      unfold VASliceParameterBufferAV1.shift
      rw [Nat.zero_add]
      rfl
    rw [List.append_nil, hshift, List.map_id]
  · exact List.append_nil pair.data

theorem registersPairs_single {ctx : NVContext} {pair : SlicePair}
    (h : ∀ param ∈ pair.sliceParams, ctx.registers param.sliceDataOffset pair.data param) :
    ctx.registersPairs 0 [pair] := by
  refine ⟨fun param hparam => ?_, trivial⟩
  rw [Nat.zero_add]
  exact h param hparam

/-- A single pair is registered in both orders. -/
theorem AwaitsTiles.orderIndependent_single {ctx : NVContext} {elementSize : Nat}
    {pair : SlicePair} (h : AwaitsTiles ctx) (hpair : pair.wellFormed)
    (haccepts : ctx.accepts (joinedPair elementSize [pair]).buffers) :
    ctx.orderIndependent [pair] := by
  obtain ⟨deliveries₀, hbuffers₀, hsuccess₀⟩ := haccepts
  obtain ⟨hroom, memory₀, own₀, looped, _, hreg, _⟩ := h.registration_of_pair hbuffers₀
    ((nvRenderPicture_success h.building).mp (Prod.ext rfl hsuccess₀))
  obtain ⟨hparams, hdata⟩ := joinedPair_single elementSize pair
  rw [hparams, hdata] at hreg
  rw [hdata] at hroom
  constructor
  · intro deliveries hbuffers
    rw [show pairedBuffers [pair] = pair.buffers from List.append_nil _] at hbuffers
    constructor
    · intro hample
      obtain ⟨ctx', hrender⟩ := h.pair_ample hpair.1 hpair.2.1 hroom hreg hbuffers hample
      exact congrArg Prod.snd ((nvRenderPicture_success h.building).mpr hrender)
    · intro hsuccess
      exact registersPairs_single (h.registers_pair hbuffers
        ((nvRenderPicture_success h.building).mp (Prod.ext rfl hsuccess)))
  · intro other hother deliveries hbuffers
    cases hother
    constructor
    · intro hample
      obtain ⟨ctx', hrender⟩ := h.dataFirst_ample hpair.1 hpair.2.1 hroom hreg hbuffers hample
      exact congrArg Prod.snd ((nvRenderPicture_success h.building).mpr hrender)
    · intro hsuccess
      exact registersPairs_single (h.registers_dataFirst hpair hbuffers
        ((nvRenderPicture_success h.building).mp (Prod.ext rfl hsuccess)))

/-- Where there are further pairs, the first pair does not have all tiles. -/
theorem AwaitsTiles.first_incomplete {ctx : NVContext} {elementSize : Nat}
    {first second : SlicePair} {pairs : List SlicePair} (h : AwaitsTiles ctx)
    (hsecond : second.wellFormed)
    (haccepts : ctx.accepts (joinedPair elementSize (first :: second :: pairs)).buffers) :
    first.sliceParams.length < ctx.pPicParams.nNumSlices := by
  obtain ⟨deliveries₀, hbuffers₀, hsuccess₀⟩ := haccepts
  obtain ⟨_, _, _, looped, _, _, hfirst⟩ := h.registration_of_pair hbuffers₀
    ((nvRenderPicture_success h.building).mp (Prod.ext rfl hsuccess₀))
  have hall := hfirst.effect.ledger.count_le
  rw [hfirst.effect.count, hfirst.effect.keeps.slices, h.count] at hall
  have hone : 0 < second.sliceParams.length := List.length_pos_iff.mpr hsecond.1
  have hlength : (joinedPair elementSize (first :: second :: pairs)).sliceParams.length =
      first.sliceParams.length + (second.sliceParams.length +
        (joinedParams (0 + first.data.length + second.data.length) pairs).length) := by
    simp only [joinedPair, joinedParams, List.length_append, List.length_map]
  omega

/-- The parameters of a second pair find the data of the first, and their offsets count from
its beginning. -/
theorem AwaitsTiles.second_misplaced {ctx ctx' : NVContext} {elementSize : Nat}
    {first second : SlicePair} {pairs : List SlicePair} {deliveries : List (Memory × NVBuffer)}
    (h : AwaitsTiles ctx) (hfirst : first.wellFormed) (hsecond : second.wellFormed)
    (haccepts : ctx.accepts (joinedPair elementSize (first :: second :: pairs)).buffers)
    (hbuffers : deliveries.map Prod.snd = pairedBuffers (first :: second :: pairs))
    (hrender : renderBuffers ctx deliveries = (ctx', .success)) :
    ∀ param ∈ second.sliceParams, ctx'.places param param.sliceDataOffset := by
  have hincomplete := h.first_incomplete hsecond haccepts
  obtain ⟨⟨memory₁, _⟩, rest₁, rfl, rfl, hrest₁⟩ := List.map_eq_cons_iff.mp hbuffers
  obtain ⟨⟨memory₂, _⟩, rest₂, rfl, rfl, hrest₂⟩ := List.map_eq_cons_iff.mp hrest₁
  obtain ⟨⟨memory₃, _⟩, rest₃, rfl, rfl, hrest₃⟩ := List.map_eq_cons_iff.mp hrest₂
  obtain ⟨next, hround₁, hrender₁⟩ := renderBuffers_cons.mp hrender
  obtain ⟨own, hsome, rfl⟩ := h.sliceParameter hround₁
  obtain ⟨middle, hround₂, hrender₂⟩ := renderBuffers_cons.mp hrender₁
  obtain ⟨_, looped, buffer, _, hpair, hmiddle⟩ := h.sliceData hsome hround₂
  have hunfinished : finishSliceData (looped.withBitstream buffer) =
      looped.withBitstream buffer := if_neg (by
    have hcount := hpair.effect.count
    rw [h.count] at hcount
    have hslices := hpair.effect.keeps.slices
    change ¬looped.av1TileOffsetsSeen ≥ looped.pPicParams.nNumSlices
    omega)
  rw [hunfinished] at hmiddle
  subst hmiddle
  obtain ⟨last, hround₃, hrender₃⟩ := renderBuffers_cons.mp hrender₂
  have hledger := hpair.effect.ledger.withBitstream buffer
  have hnonempty : buffer.size > 0 := by
    have hlength := congrArg List.length hpair.bytes
    rw [AppendableBuffer.length_bytes] at hlength
    rw [hlength]
    exact List.length_pos_iff.mpr hfirst.2.1
  obtain ⟨hledger', _, hplaced⟩ := hledger.sliceParameter hpair.offset hnonempty hround₃
  change List.map Prod.snd rest₃ = NVBuffer.sliceData second.data :: pairedBuffers pairs at hrest₃
  have hothers : ∀ delivery ∈ rest₃, ∃ pair ∈ second :: pairs, delivery.2 ∈ pair.buffers := by
    intro delivery hdelivery
    have hmem : delivery.2 ∈ NVBuffer.sliceData second.data :: pairedBuffers pairs := by
      rw [← hrest₃]
      exact List.mem_map_of_mem hdelivery
    rcases List.mem_cons.mp hmem with hdata | hmem
    · refine ⟨second, List.mem_cons_self, ?_⟩
      rw [hdata]
      exact List.mem_cons_of_mem _ List.mem_cons_self
    · obtain ⟨pair, hpair, hbuffer⟩ := List.mem_flatMap.mp hmem
      exact ⟨pair, List.mem_cons_of_mem _ hpair, hbuffer⟩
  have hkeeps := hledger'.renderBuffers hothers hrender₃
  exact fun param hparam => hkeeps.places (hplaced param hparam).2

/-- Answers of the allocator that refuse nothing. -/
def amplyZeroed : Memory :=
  let heap : Heap := ⟨fun _ => true, fun _ => 0⟩
  ⟨heap, heap, heap, heap⟩

theorem ample_amplyZeroed : amplyZeroed.ample :=
  ⟨fun _ => rfl, fun _ => rfl, fun _ => rfl, fun _ => rfl⟩

/-- Buffers with these answers. -/
def amplyDelivered (buffers : List NVBuffer) : List (Memory × NVBuffer) :=
  buffers.map fun buffer => (amplyZeroed, buffer)

theorem amplyDelivered_snd (buffers : List NVBuffer) :
    (amplyDelivered buffers).map Prod.snd = buffers := by
  unfold amplyDelivered
  rw [List.map_map]
  exact List.map_id _

theorem amplyDelivered_ample (buffers : List NVBuffer) :
    ∀ delivery ∈ amplyDelivered buffers, delivery.1.ample := by
  intro delivery hdelivery
  obtain ⟨_, _, rfl⟩ := List.mem_map.mp hdelivery
  exact ample_amplyZeroed

theorem AwaitsTiles.not_orderIndependent {ctx : NVContext} {elementSize : Nat}
    {first second : SlicePair} {pairs : List SlicePair} (h : AwaitsTiles ctx)
    (hfirst : first.wellFormed) (hsecond : second.wellFormed)
    (haccepts : ctx.accepts (joinedPair elementSize (first :: second :: pairs)).buffers) :
    ¬ctx.orderIndependent (first :: second :: pairs) := by
  rintro ⟨hpaired, _⟩
  have hbuffers := amplyDelivered_snd (pairedBuffers (first :: second :: pairs))
  obtain ⟨htaken, hregisters⟩ := hpaired _ hbuffers
  have hsuccess := htaken (amplyDelivered_ample _)
  have hplaced := h.second_misplaced hfirst hsecond haccepts hbuffers
    ((nvRenderPicture_success h.building).mp (Prod.ext rfl hsuccess))
  obtain ⟨_, hplaces, _⟩ := hregisters hsuccess
  obtain ⟨param, hparam⟩ := List.exists_mem_of_ne_nil _ hsecond.1
  obtain ⟨hplaces', _⟩ := hplaces param hparam
  have hunique := NVContext.places_unique (hplaced param hparam) hplaces'
  have hdata : 0 < first.data.length := List.length_pos_iff.mpr hfirst.2.1
  omega

/-- In every run of calls, after the picture parameters, and for all pairs of buffers that
are taken in one piece: in one piece they are registered at their data, and delivered pair by
pair exactly where there is one pair. -/
theorem orderIndependent_iff {ctx : NVContext} (hctx : afterPictureParameters ctx)
    {elementSize : Nat} {pairs : List SlicePair} (hsome : pairs ≠ [])
    (hpairs : ∀ pair ∈ pairs, pair.wellFormed)
    (haccepts : ctx.accepts (joinedPair elementSize pairs).buffers) :
    ctx.registersBy (joinedPair elementSize pairs).buffers pairs ∧
      (ctx.orderIndependent pairs ↔ pairs.length = 1) := by
  have h := awaitsTiles_of_afterPictureParameters hctx
  refine ⟨h.registersBy_joined hsome hpairs haccepts, ?_⟩
  match pairs with
  | [] => exact absurd rfl hsome
  | [pair] =>
      exact ⟨fun _ => rfl,
        fun _ => h.orderIndependent_single (hpairs pair List.mem_cons_self) haccepts⟩
  | first :: second :: pairs =>
      constructor
      · intro hindependent
        exact absurd hindependent (h.not_orderIndependent (hpairs first List.mem_cons_self)
          (hpairs second (List.mem_cons_of_mem _ List.mem_cons_self)) haccepts)
      · intro hlength
        cases hlength

/-! ## Two pairs of one picture -/

/-- A picture of one row of tiles, on a new context. -/
def rowOfTiles (tiles : Nat) : NVContext :=
  (nvRenderPicture none
    [(amplyZeroed, .pictureParameter ⟨fun _ => none, fun _ => -1⟩
      { tileCols := tiles, tileRows := 1 })]
    (nvBeginPicture (.ok { pictureIdx := 0 }) (newContext 64 64 0 0)).1).1

theorem rowOfTiles_after {tiles : Nat}
    (htaken : (nvRenderPicture none
      [(amplyZeroed, .pictureParameter ⟨fun _ => none, fun _ => -1⟩
        { tileCols := tiles, tileRows := 1 })]
      (nvBeginPicture (.ok { pictureIdx := 0 }) (newContext 64 64 0 0)).1).2 = .success) :
    afterPictureParameters (rowOfTiles tiles) :=
  ⟨64, 64, 0, 0, [], { pictureIdx := 0 }, amplyZeroed, ⟨fun _ => none, fun _ => -1⟩,
    { tileCols := tiles, tileRows := 1 }, rfl, Prod.ext rfl htaken⟩

/-- The tile of a column with two bytes of data of its own. -/
def tilePair (column : Nat) : SlicePair where
  elementSize := 40
  sliceParams := [⟨2, 0, 0, column⟩]
  data := [0, 0]

theorem tilePair_wellFormed (column : Nat) : (tilePair column).wellFormed := by
  refine ⟨nofun, nofun, fun param hparam => ?_⟩
  cases List.mem_singleton.mp hparam
  exact Nat.le_refl 2

/-- A delivery that is taken. -/
structure TakenDelivery (ctx : NVContext) (buffers : List NVBuffer) where
  deliveries : List (Memory × NVBuffer)
  delivered : deliveries.map Prod.snd = buffers
  taken : (nvRenderPicture none deliveries ctx).2 = .success

theorem TakenDelivery.accepts {ctx : NVContext} {buffers : List NVBuffer}
    (delivery : TakenDelivery ctx buffers) : ctx.accepts buffers :=
  ⟨delivery.deliveries, delivery.delivered, delivery.taken⟩

/-- Two tiles in one piece. -/
def twoTilesJoined :
    TakenDelivery (rowOfTiles 2) (joinedPair 40 [tilePair 0, tilePair 1]).buffers where
  deliveries := amplyDelivered _
  delivered := amplyDelivered_snd _
  taken := by decide +kernel

/-- One tile. -/
def oneTileJoined : TakenDelivery (rowOfTiles 1) (joinedPair 40 [tilePair 0]).buffers where
  deliveries := amplyDelivered _
  delivered := amplyDelivered_snd _
  taken := by decide +kernel

/-- Two tiles with their data are taken in one piece, and not one after the other. -/
theorem pairs_misplaced :
    afterPictureParameters (rowOfTiles 2) ∧
      (∀ pair ∈ [tilePair 0, tilePair 1], pair.wellFormed) ∧
      (rowOfTiles 2).accepts (joinedPair 40 [tilePair 0, tilePair 1]).buffers ∧
      ¬(rowOfTiles 2).orderIndependent [tilePair 0, tilePair 1] := by
  have hafter : afterPictureParameters (rowOfTiles 2) := rowOfTiles_after (by decide)
  have haccepts : (rowOfTiles 2).accepts (joinedPair 40 [tilePair 0, tilePair 1]).buffers :=
    twoTilesJoined.accepts
  refine ⟨hafter, ?_, haccepts, ?_⟩
  · intro pair hpair
    rcases List.mem_pair.mp hpair with rfl | rfl
    · exact tilePair_wellFormed 0
    · exact tilePair_wellFormed 1
  · exact (awaitsTiles_of_afterPictureParameters hafter).not_orderIndependent
      (tilePair_wellFormed 0) (tilePair_wellFormed 1) haccepts

/-- A single pair is registered in both orders. -/
theorem orderIndependent_iff_single :
    (rowOfTiles 1).registersBy (joinedPair 40 [tilePair 0]).buffers [tilePair 0] ∧
      ((rowOfTiles 1).orderIndependent [tilePair 0] ↔ [tilePair 0].length = 1) := by
  apply orderIndependent_iff (rowOfTiles_after (by decide))
  · nofun
  · intro pair hpair
    cases List.mem_singleton.mp hpair
    exact tilePair_wellFormed 0
  · exact oneTileJoined.accepts

end Av1
end NvidiaVaapi
