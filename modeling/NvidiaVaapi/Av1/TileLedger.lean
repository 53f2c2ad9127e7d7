import Mathlib.Data.Finset.Card
import Mathlib.Data.Finset.Range
import NvidiaVaapi.Av1.Agreement

/-!
# The ledger of the tiles

Between its picture parameters and its end a picture keeps a ledger of its tiles.  A tile
that has been registered keeps its place in the memory of the bitstream, also where the
bitstream is cut.
-/

namespace NvidiaVaapi
namespace Av1

open Codec

/-! ## Places -/

/-- One word of the slice offsets. -/
def NVContext.word (ctx : NVContext) (i : Nat) : Nat :=
  ctx.sliceOffsets.words.getD i 0

/-- Where a tile begins in the block of the bitstream. -/
def NVContext.tileStart (ctx : NVContext) (tileIndex : Nat) : Nat :=
  ctx.bitstreamDataOffset + ctx.word (tileIndex * 2)

/-- Where a tile ends in the block of the bitstream. -/
def NVContext.tileStop (ctx : NVContext) (tileIndex : Nat) : Nat :=
  ctx.bitstreamDataOffset + ctx.word (tileIndex * 2 + 1)

/-- The tiles that have been registered. -/
def NVContext.hasTile (ctx : NVContext) (tileIndex : Nat) : Prop :=
  ctx.av1TileSeen.getLsbD tileIndex = true

instance (ctx : NVContext) : DecidablePred ctx.hasTile :=
  fun _ => inferInstanceAs (Decidable (_ = true))

/-- The tiles of one context are tiles of the other, with the same layout and at the same
places. -/
structure KeepsTiles (ctx ctx' : NVContext) : Prop where
  pps : ctx'.pPicParams.av1 = ctx.pPicParams.av1
  slices : ctx'.pPicParams.nNumSlices = ctx.pPicParams.nNumSlices
  tiles : ∀ tileIndex, ctx.hasTile tileIndex → ctx'.hasTile tileIndex ∧
    ctx'.tileStart tileIndex = ctx.tileStart tileIndex ∧
    ctx'.tileStop tileIndex = ctx.tileStop tileIndex

theorem KeepsTiles.refl (ctx : NVContext) : KeepsTiles ctx ctx :=
  ⟨rfl, rfl, fun _ htile => ⟨htile, rfl, rfl⟩⟩

theorem KeepsTiles.trans {first second third : NVContext} (h : KeepsTiles first second)
    (h' : KeepsTiles second third) : KeepsTiles first third := by
  refine ⟨h'.pps.trans h.pps, h'.slices.trans h.slices, fun tileIndex htile => ?_⟩
  obtain ⟨htile', hstart, hstop⟩ := h.tiles tileIndex htile
  obtain ⟨htile'', hstart', hstop'⟩ := h'.tiles tileIndex htile'
  exact ⟨htile'', hstart'.trans hstart, hstop'.trans hstop⟩

/-- The tile of a slice parameter is at a place in the block, with its whole size. -/
def NVContext.places (ctx : NVContext) (param : VASliceParameterBufferAV1) (start : Nat) : Prop :=
  ∃ tileIndex, getAV1SliceTileIndex ctx.pPicParams.av1 param = some tileIndex ∧
    ctx.hasTile tileIndex ∧ ctx.tileStart tileIndex = start ∧
    ctx.tileStop tileIndex = start + param.sliceDataSize

theorem KeepsTiles.places {ctx ctx' : NVContext} (h : KeepsTiles ctx ctx')
    {param : VASliceParameterBufferAV1} {start : Nat} (hplaces : ctx.places param start) :
    ctx'.places param start := by
  obtain ⟨tileIndex, hindex, htile, hstart, hstop⟩ := hplaces
  obtain ⟨htile', hstart', hstop'⟩ := h.tiles tileIndex htile
  exact ⟨tileIndex, h.pps ▸ hindex, htile', hstart'.trans hstart, hstop'.trans hstop⟩

/-- A tile is at one place only. -/
theorem NVContext.places_unique {ctx : NVContext} {param : VASliceParameterBufferAV1}
    {start start' : Nat} (h : ctx.places param start) (h' : ctx.places param start') :
    start = start' := by
  obtain ⟨tileIndex, hindex, _, hstart, _⟩ := h
  obtain ⟨tileIndex', hindex', _, hstart', _⟩ := h'
  rw [hindex] at hindex'
  cases hindex'
  rw [← hstart, ← hstart']

/-- What holds of the tiles of a picture that has its parameters.  Until the bitstream is
cut, the offsets are places in the block themselves. -/
structure TileLedger (ctx : NVContext) : Prop where
  slices_pos : 0 < ctx.pPicParams.nNumSlices
  slices_le : ctx.pPicParams.nNumSlices ≤ nvdIntervalIndexCapacity
  count : ctx.av1TileOffsetsSeen =
    ((Finset.range ctx.pPicParams.nNumSlices).filter ctx.hasTile).card
  inside : ∀ tileIndex, ctx.hasTile tileIndex → tileIndex < ctx.pPicParams.nNumSlices
  room : ∀ tileIndex, ctx.hasTile tileIndex →
    ctx.sliceOffsets.words.length = ctx.pPicParams.nNumSlices * 2
  uncut : ctx.av1BitstreamCompacted = false → ctx.bitstreamDataOffset = 0
  bounds : ctx.av1BitstreamCompacted = false → ∀ tileIndex, ctx.hasTile tileIndex →
    ctx.av1TileMinOffset ≤ ctx.word (tileIndex * 2) ∧
      ctx.word (tileIndex * 2) < ctx.word (tileIndex * 2 + 1) ∧
      ctx.word (tileIndex * 2 + 1) ≤ ctx.av1TileMaxEnd

/-- No more tiles are registered than the picture has. -/
theorem TileLedger.count_le {ctx : NVContext} (h : TileLedger ctx) :
    ctx.av1TileOffsetsSeen ≤ ctx.pPicParams.nNumSlices := by
  rw [h.count]
  calc
    _ ≤ (Finset.range ctx.pPicParams.nNumSlices).card := Finset.card_filter_le _ _
    _ = ctx.pPicParams.nNumSlices := Finset.card_range _

/-! ## One tile more -/

section NoteTile

variable {ctx : NVContext} {intervals : NVDIntervalIndex} {tileIndex offset stop : Nat}

theorem hasTile_noteTile (hinside : tileIndex < nvdIntervalIndexCapacity) (other : Nat) :
    (ctx.noteTile intervals tileIndex offset stop).hasTile other ↔
      ctx.hasTile other ∨ tileIndex = other := by
  unfold NVContext.hasTile
  change (ctx.av1TileSeen ||| BitVec.twoPow _ tileIndex).getLsbD other = true ↔ _
  rw [BitVec.getLsbD_or, BitVec.getLsbD_twoPow]
  simp [hinside]

theorem word_noteTile_other {i : Nat} (hstart : i ≠ tileIndex * 2) (hstop : i ≠ tileIndex * 2 + 1) :
    (ctx.noteTile intervals tileIndex offset stop).word i = ctx.word i := by
  unfold NVContext.word
  change ((ctx.sliceOffsets.words.set _ offset).set _ stop).getD i 0 = _
  rw [List.getD_eq_getElem?_getD, List.getElem?_set_ne hstop.symm, List.getElem?_set_ne hstart.symm,
    List.getD_eq_getElem?_getD]

theorem word_noteTile_start (hroom : tileIndex * 2 + 1 < ctx.sliceOffsets.words.length) :
    (ctx.noteTile intervals tileIndex offset stop).word (tileIndex * 2) = offset := by
  unfold NVContext.word
  change ((ctx.sliceOffsets.words.set _ offset).set _ stop).getD _ 0 = _
  rw [List.getD_eq_getElem?_getD, List.getElem?_set_ne (by omega), List.getElem?_set_self (by omega)]
  rfl

theorem word_noteTile_stop (hroom : tileIndex * 2 + 1 < ctx.sliceOffsets.words.length) :
    (ctx.noteTile intervals tileIndex offset stop).word (tileIndex * 2 + 1) = stop := by
  unfold NVContext.word
  change ((ctx.sliceOffsets.words.set _ offset).set _ stop).getD _ 0 = _
  rw [List.getD_eq_getElem?_getD, List.getElem?_set_self (by simpa using hroom)]
  rfl

/-- The tiles that were there stay where they are. -/
theorem keepsTiles_noteTile (hinside : tileIndex < nvdIntervalIndexCapacity)
    (hunseen : ¬ctx.hasTile tileIndex) :
    KeepsTiles ctx (ctx.noteTile intervals tileIndex offset stop) := by
  refine ⟨rfl, rfl, fun other htile => ?_⟩
  have hother : tileIndex ≠ other := by
    rintro rfl
    exact hunseen htile
  refine ⟨(hasTile_noteTile hinside other).mpr (.inl htile), ?_, ?_⟩
  · exact congrArg (ctx.bitstreamDataOffset + ·) (word_noteTile_other (by omega) (by omega))
  · exact congrArg (ctx.bitstreamDataOffset + ·) (word_noteTile_other (by omega) (by omega))

theorem TileLedger.noteTile (h : TileLedger ctx)
    (hwords : ctx.sliceOffsets.words.length = ctx.pPicParams.nNumSlices * 2)
    (hinside : tileIndex < ctx.pPicParams.nNumSlices) (hunseen : ¬ctx.hasTile tileIndex)
    (hrange : offset < stop) : TileLedger (ctx.noteTile intervals tileIndex offset stop) := by
  have hcapacity : tileIndex < nvdIntervalIndexCapacity := Nat.lt_of_lt_of_le hinside h.slices_le
  have hroom : tileIndex * 2 + 1 < ctx.sliceOffsets.words.length := by omega
  refine ⟨h.slices_pos, h.slices_le, ?_, ?_, ?_, h.uncut, ?_⟩
  · have hinsert : (Finset.range ctx.pPicParams.nNumSlices).filter
        (ctx.noteTile intervals tileIndex offset stop).hasTile =
          insert tileIndex ((Finset.range ctx.pPicParams.nNumSlices).filter ctx.hasTile) := by
      ext other
      simp only [Finset.mem_filter, Finset.mem_range, Finset.mem_insert,
        hasTile_noteTile hcapacity]
      constructor
      · rintro ⟨hlt, htile | rfl⟩
        · exact .inr ⟨hlt, htile⟩
        · exact .inl rfl
      · rintro (rfl | ⟨hlt, htile⟩)
        · exact ⟨hinside, .inr rfl⟩
        · exact ⟨hlt, .inl htile⟩
    change ctx.av1TileOffsetsSeen + 1 = ((Finset.range ctx.pPicParams.nNumSlices).filter _).card
    rw [hinsert, Finset.card_insert_of_notMem, h.count]
    intro hmem
    exact hunseen (Finset.mem_filter.mp hmem).2
  · intro other htile
    rcases (hasTile_noteTile hcapacity other).mp htile with htile | rfl
    · exact h.inside other htile
    · exact hinside
  · intro other _
    change ((ctx.sliceOffsets.words.set _ offset).set _ stop).length = _
    rw [List.length_set, List.length_set]
    exact hwords
  · intro huncut other htile
    change min offset ctx.av1TileMinOffset ≤ _ ∧ _ ∧ _ ≤ max stop ctx.av1TileMaxEnd
    by_cases hother : tileIndex = other
    · subst hother
      rw [word_noteTile_start hroom, word_noteTile_stop hroom]
      omega
    · have htile' : ctx.hasTile other :=
        ((hasTile_noteTile hcapacity other).mp htile).resolve_right hother
      rw [word_noteTile_other (by omega) (by omega), word_noteTile_other (by omega) (by omega)]
      have hbounds := h.bounds huncut other htile'
      omega

end NoteTile

/-! ## All the tiles of a buffer -/

section Loop

variable {heap : Heap} {offsetAdjustment : Int} {sliceDataSize : Nat}

/-- What a loop that comes to its end has done to the ledger. -/
structure LoopEffect (offsetAdjustment : Int) (sliceDataSize : Nat)
    (sliceParams : List VASliceParameterBufferAV1) (ctx ctx' : NVContext) : Prop where
  ledger : TileLedger ctx'
  keeps : KeepsTiles ctx ctx'
  count : ctx'.av1TileOffsetsSeen = ctx.av1TileOffsetsSeen + sliceParams.length
  placed : ∀ param ∈ sliceParams,
    param.sliceDataOffset + param.sliceDataSize ≤ sliceDataSize ∧
      0 < param.sliceDataSize ∧ 0 ≤ offsetAdjustment + param.sliceDataOffset ∧
      ctx'.places param
        (ctx.bitstreamDataOffset + (offsetAdjustment + param.sliceDataOffset).toNat)

theorem TileLedger.setAV1SliceOffset {ctx ctx' : NVContext} (h : TileLedger ctx)
    (hwords : ctx.sliceOffsets.words.length = ctx.pPicParams.nNumSlices * 2)
    {param : VASliceParameterBufferAV1}
    (hset : setAV1SliceOffset heap ctx.pPicParams.nNumSlices offsetAdjustment sliceDataSize ctx
      param = (ctx', true)) :
    LoopEffect offsetAdjustment sliceDataSize [param] ctx ctx' ∧
      ctx'.bitstreamDataOffset = ctx.bitstreamDataOffset ∧
      ctx'.sliceOffsets.words.length = ctx'.pPicParams.nNumSlices * 2 := by
  obtain ⟨tileIndex, intervals, hindex, hinside, hunseen, hsize, hrange, hlow, _, _, rfl⟩ :=
    setAV1SliceOffset_true hset
  have hcapacity : tileIndex < nvdIntervalIndexCapacity := Nat.lt_of_lt_of_le hinside h.slices_le
  have hfresh : ¬ctx.hasTile tileIndex := by
    unfold NVContext.hasTile
    rw [hunseen]
    nofun
  have hroom : tileIndex * 2 + 1 < ctx.sliceOffsets.words.length := by omega
  refine ⟨⟨h.noteTile hwords hinside hfresh (by omega), keepsTiles_noteTile hcapacity hfresh, rfl,
    fun other hother => ?_⟩, rfl, ?_⟩
  · rw [List.mem_singleton] at hother
    subst hother
    refine ⟨hrange, hsize, hlow, tileIndex, hindex, (hasTile_noteTile hcapacity _).mpr (.inr rfl),
      congrArg (ctx.bitstreamDataOffset + ·) (word_noteTile_start hroom), ?_⟩
    rw [Nat.add_assoc]
    exact congrArg (ctx.bitstreamDataOffset + ·) (word_noteTile_stop hroom)
  · change ((ctx.sliceOffsets.words.set _ _).set _ _).length = _
    rw [List.length_set, List.length_set]
    exact hwords

theorem TileLedger.loop {ctx ctx' : NVContext} (h : TileLedger ctx)
    (hwords : ctx.sliceOffsets.words.length = ctx.pPicParams.nNumSlices * 2)
    {sliceParams : List VASliceParameterBufferAV1}
    (hloop : setAV1SliceOffsetsLoop heap ctx.pPicParams.nNumSlices offsetAdjustment sliceDataSize
      ctx sliceParams = (ctx', true)) :
    LoopEffect offsetAdjustment sliceDataSize sliceParams ctx ctx' := by
  induction sliceParams generalizing ctx with
  | nil =>
      cases hloop
      exact ⟨h, .refl _, rfl, nofun⟩
  | cons param sliceParams ih =>
      obtain ⟨next, hround, hrest⟩ := setAV1SliceOffsetsLoop_cons_true hloop
      obtain ⟨hfirst, hoffset, hwords'⟩ := h.setAV1SliceOffset hwords hround
      rw [← hfirst.keeps.slices] at hrest
      have hothers := ih hfirst.ledger hwords' hrest
      refine ⟨hothers.ledger, hfirst.keeps.trans hothers.keeps, ?_, fun other hother => ?_⟩
      · rw [hothers.count, hfirst.count]
        simp only [List.length_cons, List.length_nil]
        omega
      · rcases List.mem_cons.mp hother with rfl | hother
        · obtain ⟨hrange, hsize, hlow, hplaces⟩ := hfirst.placed other List.mem_cons_self
          exact ⟨hrange, hsize, hlow, hothers.keeps.places hplaces⟩
        · rw [← hoffset]
          exact hothers.placed other hother

end Loop

/-- The room for the offsets of a picture moves none of its tiles. -/
theorem TileLedger.ensure {heap : Heap} {ctx ctx' : NVContext} (h : TileLedger ctx)
    (hensure : ensureAV1SliceOffsetStorage heap ctx ctx.pPicParams.nNumSlices = (ctx', true)) :
    TileLedger ctx' ∧ KeepsTiles ctx ctx' ∧
      ctx'.sliceOffsets.words.length = ctx'.pPicParams.nNumSlices * 2 := by
  obtain ⟨_, allocated, rfl⟩ := ensureAV1SliceOffsetStorage_true hensure
  have hwords (hall : ctx.sliceOffsets.words.length = ctx.pPicParams.nNumSlices * 2) :
      (ctx.sliceOffsets.words ++ List.replicate
        (ctx.pPicParams.nNumSlices * 2 - ctx.sliceOffsets.words.length) 0).take
          (ctx.pPicParams.nNumSlices * 2) = ctx.sliceOffsets.words := by
    rw [hall, Nat.sub_self, List.replicate_zero, List.append_nil, ← hall]
    exact List.take_of_length_le (Nat.le_refl _)
  have hword (tileIndex : Nat) (htile : ctx.hasTile tileIndex) (i : Nat) :
      ((ctx.sliceOffsets.words ++ List.replicate
        (ctx.pPicParams.nNumSlices * 2 - ctx.sliceOffsets.words.length) 0).take
          (ctx.pPicParams.nNumSlices * 2)).getD i 0 = ctx.word i := by
    rw [hwords (h.room tileIndex htile)]
    rfl
  refine ⟨⟨h.slices_pos, h.slices_le, h.count, h.inside, ?_, h.uncut, ?_⟩, ⟨rfl, rfl, ?_⟩, ?_⟩
  · intro tileIndex htile
    change (List.take _ _).length = _
    rw [hwords (h.room tileIndex htile)]
    exact h.room tileIndex htile
  · intro huncut tileIndex htile
    have hbounds := h.bounds huncut tileIndex htile
    unfold NVContext.word
    simp only
    rw [hword tileIndex htile, hword tileIndex htile]
    exact hbounds
  · intro tileIndex htile
    refine ⟨htile, ?_, ?_⟩
    · exact congrArg (ctx.bitstreamDataOffset + ·) (hword tileIndex htile _)
    · exact congrArg (ctx.bitstreamDataOffset + ·) (hword tileIndex htile _)
  · change (List.take _ _).length = _
    rw [List.length_take, List.length_append, List.length_replicate]
    change min (ctx.pPicParams.nNumSlices * 2) _ = ctx.pPicParams.nNumSlices * 2
    omega

/-! ## The cut -/

theorem word_compactFrom {ctx : NVContext} {start : Nat}
    (hroom : ctx.av1TileMaxEnd - start ≤ ctx.bitstreamBuffer.size) {i : Nat}
    (hi : i < ctx.pPicParams.nNumSlices * 2) (hstart : start ≤ ctx.word i)
    (hlength : i < ctx.sliceOffsets.words.length) :
    (ctx.compactFrom start hroom).word i = ctx.word i - start := by
  unfold NVContext.word at hstart ⊢
  change (List.mapIdx _ ctx.sliceOffsets.words).getD i 0 = _
  rw [List.getD_eq_getElem?_getD, List.getD_eq_getElem?_getD] at *
  rw [List.getElem?_mapIdx, List.getElem?_eq_getElem hlength]
  rw [List.getElem?_eq_getElem hlength] at hstart
  simp only [Option.map_some, Option.getD_some] at hstart ⊢
  rw [if_pos ⟨hi, hstart⟩]

/-- A cut keeps the tiles: their offsets are lowered by what the pointer is raised by. -/
theorem TileLedger.compact {ctx : NVContext} (h : TileLedger ctx) :
    TileLedger (compactAV1BitstreamToCurrentFrame ctx) ∧
      KeepsTiles ctx (compactAV1BitstreamToCurrentFrame ctx) := by
  cases hcut : compactionStart ctx ctx.bitstreamBuffer.bytes with
  | none =>
      rw [compact_of_none hcut]
      exact ⟨h, .refl ctx⟩
  | some start =>
      obtain ⟨hroom, hcompact⟩ := compact_of_some hcut
      obtain ⟨huncut, _, hmin, _, _⟩ := compactionStart_bounds hcut
      rw [hcompact]
      refine ⟨⟨h.slices_pos, h.slices_le, h.count, h.inside, ?_, nofun, nofun⟩, rfl, rfl, ?_⟩
      · intro tileIndex htile
        change (List.mapIdx _ ctx.sliceOffsets.words).length = _
        rw [List.length_mapIdx]
        exact h.room tileIndex htile
      · intro tileIndex htile
        have hinside := h.inside tileIndex htile
        have hlength := h.room tileIndex htile
        obtain ⟨hlow, hrange, _⟩ := h.bounds huncut tileIndex htile
        have hzero := h.uncut huncut
        refine ⟨htile, ?_, ?_⟩
        · unfold NVContext.tileStart
          rw [word_compactFrom hroom (by omega) (by omega) (by omega), hzero]
          change start + _ = _
          omega
        · unfold NVContext.tileStop
          rw [word_compactFrom hroom (by omega) (by omega) (by omega), hzero]
          change start + _ = _
          omega

theorem TileLedger.finishRegistration {ctx : NVContext} (h : TileLedger ctx) (numSlices : Nat) :
    TileLedger (finishRegistration numSlices ctx) ∧
      KeepsTiles ctx (finishRegistration numSlices ctx) := by
  unfold Av1.finishRegistration
  split
  · exact h.compact
  · exact ⟨h, .refl ctx⟩

theorem TileLedger.finishSliceData {ctx : NVContext} (h : TileLedger ctx) :
    TileLedger (finishSliceData ctx) ∧ KeepsTiles ctx (finishSliceData ctx) := by
  unfold Av1.finishSliceData
  split
  · exact h.compact
  · exact ⟨h, .refl ctx⟩

/-! ## Handlers -/

section Handlers

variable {memory : Memory} {ctx : NVContext}

/-- The tiles that a registration adds are placed as the loop places them. -/
theorem TileLedger.registration {sliceParams : List VASliceParameterBufferAV1}
    {offsetAdjustment : Int} {sliceDataSize : Nat} {looped : NVContext} (h : TileLedger ctx)
    (hreg : Registration memory sliceParams offsetAdjustment sliceDataSize ctx looped) :
    LoopEffect offsetAdjustment sliceDataSize sliceParams ctx looped := by
  have hslices : registeredSlices ctx sliceParams = ctx.pPicParams.nNumSlices :=
    if_neg (Nat.pos_iff_ne_zero.mp h.slices_pos)
  obtain ⟨ready, hensure, hloop⟩ := hreg.loop
  rw [hslices] at hensure hloop
  change ensureAV1SliceOffsetStorage _ ctx _ = _ at hensure
  obtain ⟨hledger, hkeeps, hwords⟩ := h.ensure hensure
  rw [← hkeeps.slices] at hloop
  obtain ⟨_, allocated, hready⟩ := ensureAV1SliceOffsetStorage_true hensure
  have hoffset : ready.bitstreamDataOffset = ctx.bitstreamDataOffset := by
    rw [hready]
  have hcount : ready.av1TileOffsetsSeen = ctx.av1TileOffsetsSeen := by
    rw [hready]
  have heffect := hledger.loop hwords hloop
  refine ⟨heffect.ledger, hkeeps.trans heffect.keeps, hcount ▸ heffect.count, ?_⟩
  rw [← hoffset]
  exact heffect.placed

theorem TileLedger.setAV1SliceOffsets {sliceParams : List VASliceParameterBufferAV1}
    {offsetAdjustment : Int} {sliceDataSize : Nat} (h : TileLedger ctx)
    (hfree : ¬(setAV1SliceOffsets memory ctx sliceParams offsetAdjustment sliceDataSize).blocked) :
    TileLedger (setAV1SliceOffsets memory ctx sliceParams offsetAdjustment sliceDataSize) ∧
      KeepsTiles ctx
        (setAV1SliceOffsets memory ctx sliceParams offsetAdjustment sliceDataSize) := by
  obtain ⟨looped, hreg⟩ := registration_of_free hfree
  have heffect := h.registration hreg
  obtain ⟨hledger, hkeeps⟩ :=
    heffect.ledger.finishRegistration (registeredSlices ctx sliceParams)
  rw [hreg.result]
  exact ⟨hledger, heffect.keeps.trans hkeeps⟩

theorem TileLedger.withBitstream (h : TileLedger ctx) (buffer : AppendableBuffer) :
    TileLedger (ctx.withBitstream buffer) :=
  ⟨h.slices_pos, h.slices_le, h.count, h.inside, h.room, h.uncut, h.bounds⟩

theorem keepsTiles_withBitstream (ctx : NVContext) (buffer : AppendableBuffer) :
    KeepsTiles ctx (ctx.withBitstream buffer) :=
  ⟨rfl, rfl, fun _ htile => ⟨htile, rfl, rfl⟩⟩

theorem TileLedger.appendSliceData {data : List UInt8} (h : TileLedger ctx)
    (hfree : ¬(appendSliceData memory ctx data).blocked) :
    TileLedger (appendSliceData memory ctx data) ∧
      KeepsTiles ctx (appendSliceData memory ctx data) := by
  obtain ⟨buffer, _, hresult⟩ := appendSliceData_cases hfree
  obtain ⟨hledger, hkeeps⟩ := (h.withBitstream buffer).finishSliceData
  rw [hresult]
  exact ⟨hledger, (keepsTiles_withBitstream ctx buffer).trans hkeeps⟩

theorem TileLedger.copyAV1SliceData {data : List UInt8} (h : TileLedger ctx)
    (hfree : ¬(copyAV1SliceData memory ctx data).blocked) :
    TileLedger (copyAV1SliceData memory ctx data) ∧
      KeepsTiles ctx (copyAV1SliceData memory ctx data) := by
  obtain ⟨_, ⟨_, hresult⟩ | ⟨_, hresult⟩⟩ := copyAV1SliceData_cases hfree
  · rw [hresult] at hfree ⊢
    exact h.appendSliceData hfree
  · rw [hresult] at hfree ⊢
    obtain ⟨hledger, hkeeps⟩ := h.setAV1SliceOffsets fun hblocked =>
      hfree (appendSliceData_blocked hblocked)
    obtain ⟨hledger', hkeeps'⟩ := hledger.appendSliceData hfree
    exact ⟨hledger', hkeeps.trans hkeeps'⟩

theorem TileLedger.withLastSliceParams (h : TileLedger ctx)
    (sliceParams : List VASliceParameterBufferAV1) :
    TileLedger (ctx.withLastSliceParams sliceParams) :=
  ⟨h.slices_pos, h.slices_le, h.count, h.inside, h.room, h.uncut, h.bounds⟩

theorem keepsTiles_withLastSliceParams (ctx : NVContext)
    (sliceParams : List VASliceParameterBufferAV1) :
    KeepsTiles ctx (ctx.withLastSliceParams sliceParams) :=
  ⟨rfl, rfl, fun _ htile => ⟨htile, rfl, rfl⟩⟩

theorem TileLedger.withSliceParamsBuffer (h : TileLedger ctx) (buffer : SliceParamsBuffer) :
    TileLedger (ctx.withSliceParamsBuffer buffer) :=
  ⟨h.slices_pos, h.slices_le, h.count, h.inside, h.room, h.uncut, h.bounds⟩

theorem keepsTiles_withSliceParamsBuffer (ctx : NVContext) (buffer : SliceParamsBuffer) :
    KeepsTiles ctx (ctx.withSliceParamsBuffer buffer) :=
  ⟨rfl, rfl, fun _ htile => ⟨htile, rfl, rfl⟩⟩

theorem TileLedger.copyAV1SliceParam {sliceParams : List VASliceParameterBufferAV1}
    (h : TileLedger ctx) (hfree : ¬(copyAV1SliceParam memory ctx sliceParams).blocked) :
    TileLedger (copyAV1SliceParam memory ctx sliceParams) ∧
      KeepsTiles ctx (copyAV1SliceParam memory ctx sliceParams) := by
  unfold Av1.copyAV1SliceParam at hfree ⊢
  simp only at hfree ⊢
  split
  · rename_i hsize
    rw [if_pos hsize] at hfree
    obtain ⟨hledger, hkeeps⟩ := (h.withLastSliceParams sliceParams).setAV1SliceOffsets hfree
    exact ⟨hledger.withLastSliceParams [], (keepsTiles_withLastSliceParams ctx sliceParams).trans
      (hkeeps.trans (keepsTiles_withLastSliceParams _ []))⟩
  · exact ⟨h.withLastSliceParams sliceParams, keepsTiles_withLastSliceParams ctx sliceParams⟩

end Handlers

end Av1
end NvidiaVaapi
