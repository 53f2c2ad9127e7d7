import NvidiaVaapi.Av1.Registration

/-!
# Agreeing registrations

Two contexts that agree on their tiles register further tiles alike, whatever blocks of
memory they have: both come to the same tiles, and where memory does not run out the second
goes as far as the first.
-/

namespace NvidiaVaapi
namespace Av1

open Codec

/-- No allocation fails. -/
def ample (heap : Heap) : Prop :=
  ∀ capacity, heap.available capacity = true

def Memory.ample (memory : Memory) : Prop :=
  Av1.ample memory.sliceParams ∧ Av1.ample memory.sliceOffsets ∧ Av1.ample memory.intervals ∧
    Av1.ample memory.bitstream

theorem reserveStorage_ample {heap : Heap} (hample : ample heap) (allocated required : Nat) :
    ∃ capacity, reserveStorage heap allocated required = some capacity := by
  unfold reserveStorage
  split
  · exact ⟨_, rfl⟩
  · simp only
    rw [if_pos (hample _)]
    exact ⟨_, rfl⟩

theorem append_ample {heap : Heap} (hample : ample heap) (buffer : AppendableBuffer)
    {data : List UInt8} (hfits : buffer.size + data.length ≤ sizeMax) :
    ∃ buffer', buffer.append heap data = (buffer', true) := by
  unfold AppendableBuffer.append
  split
  · exact ⟨_, rfl⟩
  · rw [if_neg (by omega)]
    split
    · exact ⟨_, rfl⟩
    · rename_i failed hreserve
      unfold AppendableBuffer.reserve at hreserve
      simp only at hreserve
      rw [if_pos (hample _)] at hreserve
      split at hreserve <;> cases hreserve

/-! ## The interval index -/

/-- The test of `nvdIntervalIndexInsert` that does not ask for memory. -/
def insertRefused (index : NVDIntervalIndex) (start stop : Nat) : Bool :=
  (start ≥ stop ∨ index.nodes.length ≥ nvdIntervalIndexCapacity) ∨
    (start < index.maxEnd ∧
      disjointBelow index.nodes start stop (index.nodes.length + 1) index.root = false)

/-- The index with one range more. -/
def insertedIndex (index : NVDIntervalIndex) (start stop allocated : Nat) : NVDIntervalIndex :=
  let inserted := insertNode (index.nodes.length + 1)
    (index.nodes ++ [{ start := start, stop := stop }]) index.root (index.nodes.length + 1)
  { index with
    nodes := inserted.1
    root := inserted.2
    allocated := allocated
    maxEnd := max stop index.maxEnd }

theorem nvdIntervalIndexInsert_true {heap : Heap} {index index' : NVDIntervalIndex}
    {start stop : Nat} (hinsert : nvdIntervalIndexInsert heap index start stop = (index', true)) :
    insertRefused index start stop = false ∧
      ∃ allocated, reserveStorage heap index.allocated
        ((index.nodes.length + 1) * sizeofIntervalNode) = some allocated ∧
        index' = insertedIndex index start stop allocated := by
  unfold nvdIntervalIndexInsert at hinsert
  simp only at hinsert
  split at hinsert
  · cases hinsert
  · rename_i hrange
    split at hinsert
    · cases hinsert
    · rename_i hdisjoint
      split at hinsert
      · cases hinsert
      · rename_i allocated hreserve
        cases hinsert
        refine ⟨?_, allocated, hreserve, rfl⟩
        unfold insertRefused
        rw [decide_eq_false_iff_not]
        tauto

theorem nvdIntervalIndexInsert_of_reserve {heap : Heap} {index : NVDIntervalIndex}
    {start stop allocated : Nat} (hrefused : insertRefused index start stop = false)
    (hreserve : reserveStorage heap index.allocated
      ((index.nodes.length + 1) * sizeofIntervalNode) = some allocated) :
    nvdIntervalIndexInsert heap index start stop =
      (insertedIndex index start stop allocated, true) := by
  unfold insertRefused at hrefused
  rw [decide_eq_false_iff_not, not_or] at hrefused
  unfold nvdIntervalIndexInsert
  simp only
  rw [if_neg hrefused.1, if_neg hrefused.2, hreserve]
  rfl

theorem NVDIntervalIndex.same.insertRefused {first second : NVDIntervalIndex}
    (hsame : first.same second) (start stop : Nat) :
    insertRefused first start stop = insertRefused second start stop := by
  obtain ⟨hnodes, _, hmaxEnd, hroot⟩ := hsame
  unfold Av1.insertRefused
  rw [hnodes, hmaxEnd, hroot]

theorem NVDIntervalIndex.same.inserted {first second : NVDIntervalIndex}
    (hsame : first.same second) (start stop allocated allocated' : Nat) :
    (insertedIndex first start stop allocated).same
      (insertedIndex second start stop allocated') := by
  obtain ⟨hnodes, hfailed, hmaxEnd, hroot⟩ := hsame
  unfold insertedIndex
  rw [hnodes, hmaxEnd, hroot]
  exact ⟨rfl, hfailed, rfl, rfl⟩

/-! ## One tile -/

/-- The tiles of two contexts agree: what is known of the tiles is the same, and so are the
offsets and the layout that the tiles are numbered by. -/
structure TilesAgree (first second : NVContext) : Prop where
  pps : first.pPicParams.av1 = second.pPicParams.av1
  words : first.sliceOffsets.words = second.sliceOffsets.words
  count : first.av1TileOffsetsSeen = second.av1TileOffsetsSeen
  intervals : first.av1TileIntervals.same second.av1TileIntervals
  seen : first.av1TileSeen = second.av1TileSeen
  minOffset : first.av1TileMinOffset = second.av1TileMinOffset
  maxEnd : first.av1TileMaxEnd = second.av1TileMaxEnd

theorem TilesAgree.noteTile {first second : NVContext} (h : TilesAgree first second)
    {intervals intervals' : NVDIntervalIndex} (hsame : intervals.same intervals')
    (tileIndex offset stop : Nat) :
    TilesAgree (first.noteTile intervals tileIndex offset stop)
      (second.noteTile intervals' tileIndex offset stop) where
  pps := h.pps
  words := by
    simp only [NVContext.noteTile, h.words]
  count := by
    simp only [NVContext.noteTile, h.count]
  intervals := hsame
  seen := by
    simp only [NVContext.noteTile, h.seen]
  minOffset := by
    simp only [NVContext.noteTile, h.minOffset]
  maxEnd := by
    simp only [NVContext.noteTile, h.maxEnd]

variable {heap heap' : Heap} {numSlices : Nat} {offsetAdjustment : Int} {sliceDataSize : Nat}

theorem TilesAgree.setAV1SliceOffset {first second first' second' : NVContext}
    (h : TilesAgree first second) {param : VASliceParameterBufferAV1}
    (hfirst : setAV1SliceOffset heap numSlices offsetAdjustment sliceDataSize first param =
      (first', true))
    (hsecond : setAV1SliceOffset heap' numSlices offsetAdjustment sliceDataSize second param =
      (second', true)) :
    TilesAgree first' second' := by
  obtain ⟨tile, intervals, hindex, _, _, _, _, _, _, hinsert, rfl⟩ := setAV1SliceOffset_true hfirst
  obtain ⟨tile', intervals', hindex', _, _, _, _, _, _, hinsert', rfl⟩ :=
    setAV1SliceOffset_true hsecond
  rw [h.pps, hindex'] at hindex
  cases hindex
  apply h.noteTile
  obtain ⟨_, _, _, rfl⟩ := nvdIntervalIndexInsert_true hinsert
  obtain ⟨_, _, _, rfl⟩ := nvdIntervalIndexInsert_true hinsert'
  exact h.intervals.inserted _ _ _ _

/-- Where memory does not run out, the second round goes on if the first does. -/
theorem TilesAgree.setAV1SliceOffset_ample {first second first' : NVContext}
    (h : TilesAgree first second) (hample : ample heap') {param : VASliceParameterBufferAV1}
    (hfirst : Av1.setAV1SliceOffset heap numSlices offsetAdjustment sliceDataSize first param =
      (first', true)) :
    ∃ second', Av1.setAV1SliceOffset heap' numSlices offsetAdjustment sliceDataSize second param =
      (second', true) := by
  obtain ⟨tile, intervals, hindex, hinside, hunseen, hnonempty, hrange, hlow, hhigh, hinsert, _⟩ :=
    setAV1SliceOffset_true hfirst
  obtain ⟨hrefused, _, _, _⟩ := nvdIntervalIndexInsert_true hinsert
  obtain ⟨allocated, hreserve⟩ := reserveStorage_ample hample second.av1TileIntervals.allocated
    ((second.av1TileIntervals.nodes.length + 1) * sizeofIntervalNode)
  rw [h.intervals.insertRefused] at hrefused
  exact ⟨_, setAV1SliceOffset_of_insert (h.pps ▸ hindex) hinside (h.seen ▸ hunseen) hnonempty
    hrange hlow hhigh (nvdIntervalIndexInsert_of_reserve hrefused hreserve)⟩

/-! ## The loop -/

theorem setAV1SliceOffsetsLoop_cons_true {ctx ctx' : NVContext} {param : VASliceParameterBufferAV1}
    {sliceParams : List VASliceParameterBufferAV1}
    (hloop : setAV1SliceOffsetsLoop heap numSlices offsetAdjustment sliceDataSize ctx
      (param :: sliceParams) = (ctx', true)) :
    ∃ next, setAV1SliceOffset heap numSlices offsetAdjustment sliceDataSize ctx param =
        (next, true) ∧
      setAV1SliceOffsetsLoop heap numSlices offsetAdjustment sliceDataSize next sliceParams =
        (ctx', true) := by
  unfold setAV1SliceOffsetsLoop at hloop
  split at hloop
  · rename_i next hround
    exact ⟨next, hround, hloop⟩
  · cases hloop

theorem TilesAgree.loop_ample {first second first' : NVContext} (h : TilesAgree first second)
    (hample : ample heap') {sliceParams : List VASliceParameterBufferAV1}
    (hfirst : setAV1SliceOffsetsLoop heap numSlices offsetAdjustment sliceDataSize first
      sliceParams = (first', true)) :
    ∃ second', setAV1SliceOffsetsLoop heap' numSlices offsetAdjustment sliceDataSize second
      sliceParams = (second', true) := by
  induction sliceParams generalizing first second with
  | nil => exact ⟨second, rfl⟩
  | cons param sliceParams ih =>
      obtain ⟨next, hround, hrest⟩ := setAV1SliceOffsetsLoop_cons_true hfirst
      obtain ⟨next', hround'⟩ := h.setAV1SliceOffset_ample hample hround
      obtain ⟨last, hlast⟩ := ih (h.setAV1SliceOffset hround hround') hrest
      refine ⟨last, ?_⟩
      unfold setAV1SliceOffsetsLoop
      rw [hround']
      exact hlast

/-! ## The storage of the offsets -/

theorem ensureAV1SliceOffsetStorage_true {ctx ctx' : NVContext}
    (hensure : ensureAV1SliceOffsetStorage heap ctx numSlices = (ctx', true)) :
    numSlices ≤ uint32Max / 8 ∧
      ∃ allocated, ctx' = { ctx with sliceOffsets := { ctx.sliceOffsets with
        words := (ctx.sliceOffsets.words ++
          List.replicate (numSlices * 2 - ctx.sliceOffsets.words.length) 0).take (numSlices * 2)
        allocated := allocated } } := by
  unfold ensureAV1SliceOffsetStorage at hensure
  simp only at hensure
  split at hensure
  · cases hensure
  · rename_i hfits
    refine ⟨by omega, ?_⟩
    split at hensure
    · rename_i hzero
      cases hensure
      refine ⟨ctx.sliceOffsets.allocated, ?_⟩
      rw [hzero]
      simp
    · split at hensure
      · cases hensure
      · cases hensure
        exact ⟨_, rfl⟩

theorem ensureAV1SliceOffsetStorage_ample (hample : ample heap) (ctx : NVContext)
    (hfits : numSlices ≤ uint32Max / 8) :
    ∃ ctx', ensureAV1SliceOffsetStorage heap ctx numSlices = (ctx', true) := by
  unfold ensureAV1SliceOffsetStorage
  simp only
  rw [if_neg (Nat.not_lt.mpr hfits)]
  split
  · exact ⟨_, rfl⟩
  · obtain ⟨capacity, hreserve⟩ :=
      reserveStorage_ample hample ctx.sliceOffsets.allocated (numSlices * 8)
    rw [hreserve]
    exact ⟨_, rfl⟩

theorem TilesAgree.ensure {first second first' second' : NVContext} (h : TilesAgree first second)
    (hfirst : ensureAV1SliceOffsetStorage heap first numSlices = (first', true))
    (hsecond : ensureAV1SliceOffsetStorage heap' second numSlices = (second', true)) :
    TilesAgree first' second' := by
  obtain ⟨_, _, rfl⟩ := ensureAV1SliceOffsetStorage_true hfirst
  obtain ⟨_, _, rfl⟩ := ensureAV1SliceOffsetStorage_true hsecond
  exact ⟨h.pps, by simp only [h.words], h.count, h.intervals, h.seen, h.minOffset, h.maxEnd⟩

/-! ## The whole registration -/

/-- A loop that comes to its end notes no failure. -/
theorem setAV1SliceOffsetsLoop_blocked {ctx ctx' : NVContext}
    {sliceParams : List VASliceParameterBufferAV1}
    (hloop : setAV1SliceOffsetsLoop heap numSlices offsetAdjustment sliceDataSize ctx sliceParams =
      (ctx', true)) : ctx'.blocked ↔ ctx.blocked := by
  induction sliceParams generalizing ctx with
  | nil =>
      cases hloop
      rfl
  | cons param sliceParams ih =>
      obtain ⟨next, hround, hrest⟩ := setAV1SliceOffsetsLoop_cons_true hloop
      obtain ⟨_, _, _, _, _, _, _, _, _, _, rfl⟩ := setAV1SliceOffset_true hround
      exact (ih hrest).trans Iff.rfl

/-- The registration of tiles in a context that nothing has stopped. -/
structure Registration (memory : Memory) (sliceParams : List VASliceParameterBufferAV1)
    (offsetAdjustment : Int) (sliceDataSize : Nat) (ctx looped : NVContext) : Prop where
  capacity : registeredSlices ctx sliceParams ≤ nvdIntervalIndexCapacity
  loop : ∃ ready,
    ensureAV1SliceOffsetStorage memory.sliceOffsets
      (ctx.withSlices (registeredSlices ctx sliceParams)) (registeredSlices ctx sliceParams) =
        (ready, true) ∧
    setAV1SliceOffsetsLoop memory.intervals (registeredSlices ctx sliceParams) offsetAdjustment
      sliceDataSize ready sliceParams = (looped, true)
  result : setAV1SliceOffsets memory ctx sliceParams offsetAdjustment sliceDataSize =
    finishRegistration (registeredSlices ctx sliceParams) looped

variable {memory memory' : Memory} {sliceParams : List VASliceParameterBufferAV1}

theorem registration_of_free {ctx : NVContext}
    (hfree : ¬(setAV1SliceOffsets memory ctx sliceParams offsetAdjustment sliceDataSize).blocked) :
    ∃ looped, Registration memory sliceParams offsetAdjustment sliceDataSize ctx looped := by
  obtain ⟨ready, looped, hcapacity, hensure, hloop, hresult⟩ := setAV1SliceOffsets_cases hfree
  exact ⟨looped, hcapacity, ⟨ready, hensure, hloop⟩, hresult⟩

namespace Registration

variable {ctx looped : NVContext}

/-- Only what belongs to the tiles has changed. -/
theorem frame (h : Registration memory sliceParams offsetAdjustment sliceDataSize ctx looped) :
    looped = (ctx.withSlices (registeredSlices ctx sliceParams)).withTiles looped := by
  obtain ⟨ready, hensure, hloop⟩ := h.loop
  obtain ⟨_, allocated, hready⟩ := ensureAV1SliceOffsetStorage_true hensure
  have hframe := setAV1SliceOffsetsLoop_frame memory.intervals (registeredSlices ctx sliceParams)
    offsetAdjustment sliceDataSize ready sliceParams
  rw [hloop] at hframe
  change looped = ready.withTiles looped at hframe
  rw [hready] at hframe
  exact hframe

theorem blocked (h : Registration memory sliceParams offsetAdjustment sliceDataSize ctx looped) :
    (setAV1SliceOffsets memory ctx sliceParams offsetAdjustment sliceDataSize).blocked ↔
      ctx.blocked := by
  obtain ⟨ready, hensure, hloop⟩ := h.loop
  obtain ⟨_, allocated, rfl⟩ := ensureAV1SliceOffsetStorage_true hensure
  rw [h.result, finishRegistration_blocked, setAV1SliceOffsetsLoop_blocked hloop]
  rfl

end Registration

theorem registeredSlices_eq {first second : NVContext} (h : TilesAgree first second)
    (hslices : first.pPicParams.nNumSlices = second.pPicParams.nNumSlices)
    (sliceParams : List VASliceParameterBufferAV1) :
    registeredSlices first sliceParams = registeredSlices second sliceParams := by
  unfold registeredSlices
  rw [hslices, h.pps]

theorem TilesAgree.withSlices {first second : NVContext} (h : TilesAgree first second)
    (numSlices : Nat) : TilesAgree (first.withSlices numSlices) (second.withSlices numSlices) :=
  ⟨h.pps, h.words, h.count, h.intervals, h.seen, h.minOffset, h.maxEnd⟩

/-- Where memory does not run out, the second registration succeeds if the first does. -/
theorem TilesAgree.registration_ample {first second looped : NVContext}
    (h : TilesAgree first second)
    (hslices : first.pPicParams.nNumSlices = second.pPicParams.nNumSlices)
    (hample : memory'.ample)
    (hfirst : Registration memory sliceParams offsetAdjustment sliceDataSize first looped) :
    ∃ looped', Registration memory' sliceParams offsetAdjustment sliceDataSize second looped' := by
  obtain ⟨_, hoffsets, hintervals, _⟩ := hample
  have hcapacity := hfirst.capacity
  obtain ⟨ready, hensure, hloop⟩ := hfirst.loop
  rw [registeredSlices_eq h hslices] at hensure hloop hcapacity
  obtain ⟨hfits, _⟩ := ensureAV1SliceOffsetStorage_true hensure
  obtain ⟨ready', hensure'⟩ := ensureAV1SliceOffsetStorage_ample hoffsets
    (second.withSlices (registeredSlices second sliceParams)) hfits
  obtain ⟨looped', hloop'⟩ :=
    ((h.withSlices _).ensure hensure hensure').loop_ample hintervals hloop
  exact ⟨looped', hcapacity, ⟨ready', hensure', hloop'⟩,
    setAV1SliceOffsets_of_loop hcapacity hensure' hloop'⟩

end Av1
end NvidiaVaapi
