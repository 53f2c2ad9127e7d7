import NvidiaVaapi.Av1.IntervalIndex
import NvidiaVaapi.Av1.ObuScan
import NvidiaVaapi.Av1.PictureParameters

/-!
# The buffers of an AV1 picture

The handlers of `av1.c`: how the picture parameters, the slice parameters and the slice
data of one picture come together in the context, in whatever order they arrive.
-/

namespace NvidiaVaapi
namespace Av1

open Codec

/-! ## The context -/

/-- `VASliceParameterBufferAV1`. -/
structure VASliceParameterBufferAV1 where
  sliceDataSize : Nat
  sliceDataOffset : Nat
  tileRow : Nat
  tileColumn : Nat
  deriving DecidableEq, Repr

/-- The results of the calls of a picture. -/
inductive VAStatus where
  | success
  | operationFailed
  | allocationFailed
  | invalidParameter
  | invalidBuffer
  | unsupportedBuffertype
  | maxNumExceeded
  | decodingError
  deriving DecidableEq, Repr

/-- `NVDPictureState`, as it is between two calls. -/
inductive NVDPictureState where
  | idle
  | building
  | failed
  deriving DecidableEq, Repr

/-- The buffer `sliceOffsets`: the words in use. -/
structure SliceOffsets where
  words : List Nat := []
  allocated : Nat := 0
  failed : Bool := false

/-- The buffer `sliceParamsBuffer`, which holds the copy of the slice parameters. -/
structure SliceParamsBuffer where
  params : List VASliceParameterBufferAV1 := []
  size : Nat := 0
  allocated : Nat := 0
  failed : Bool := false

/-- The fields of `NVContext` and its driver that an AV1 picture uses.  `displayTarget` is
the id of a display surface other than the render target. -/
structure NVContext where
  width : Nat
  height : Nat
  hostBufferTrimThresholdBytes : Nat := 0
  hostBufferTrimFrames : Nat := 0
  renderTarget : RenderTarget := {}
  displayTarget : Option Nat := none
  lastSliceParams : List VASliceParameterBufferAV1 := []
  bitstreamBuffer : AppendableBuffer := {}
  bitstreamDataOffset : Nat := 0
  sliceOffsets : SliceOffsets := {}
  sliceParamsBuffer : SliceParamsBuffer := {}
  av1SequenceEnableRestoration : Bool := false
  av1TileOffsetsSeen : Nat := 0
  av1TileIntervals : NVDIntervalIndex := {}
  av1TileSeen : BitVec nvdIntervalIndexCapacity := 0
  av1TileMinOffset : Nat := 0
  av1TileMaxEnd : Nat := 0
  av1BitstreamCompacted : Bool := false
  pPicParams : CUVIDPICPARAMS := {}
  hostBufferUnderuseFrames : Nat := 0
  inputValidationFailed : Bool := false
  pictureState : NVDPictureState := .idle
  pictureFailure : VAStatus := .success

/-- The answers of `memalign`, apart for each of the buffers that ask. -/
structure Memory where
  sliceParams : Heap
  sliceOffsets : Heap
  intervals : Heap
  bitstream : Heap

/-! ## Compaction -/

/-- `compactAV1BitstreamToCurrentFrame`.  An offset that is lowered is not below `start`,
so that `start` fits into its 32 bits. -/
def compactAV1BitstreamToCurrentFrame (ctx : NVContext) : NVContext :=
  if ctx.av1BitstreamCompacted ∨ ctx.bitstreamBuffer.allocated = 0 ∨
      ctx.av1TileOffsetsSeen = 0 then ctx
  else if hends : ctx.av1TileMaxEnd > ctx.bitstreamBuffer.size ∨
      ctx.av1TileMinOffset ≥ ctx.av1TileMaxEnd then ctx
  else
    let start := av1FindObuStartForTile ctx.bitstreamBuffer.bytes ctx.av1TileMinOffset
    let stop := ctx.av1TileMaxEnd
    if start = 0 ∨ start ≥ stop then ctx
    else
      let numOffsets := ctx.pPicParams.nNumSlices * 2
      { ctx with
        sliceOffsets := { ctx.sliceOffsets with
          words := ctx.sliceOffsets.words.mapIdx fun i offset =>
            if i < numOffsets ∧ offset ≥ start then offset - start else offset }
        bitstreamDataOffset := start
        bitstreamBuffer := ctx.bitstreamBuffer.shrink (stop - start) (by omega)
        pPicParams := { ctx.pPicParams with nBitstreamDataLen := stop - start }
        av1BitstreamCompacted := true }

/-! ## Registration of tiles -/

/-- `ensureAV1SliceOffsetStorage`: room for the offsets of so many tiles, those that are
new being zero.  The flag is its result. -/
def ensureAV1SliceOffsetStorage (heap : Heap) (ctx : NVContext) (numSlices : Nat) :
    NVContext × Bool :=
  let offsets := ctx.sliceOffsets
  if numSlices > uint32Max / 8 then
    ({ ctx with sliceOffsets := { offsets with failed := true, words := [] } }, false)
  else if numSlices = 0 then ({ ctx with sliceOffsets := { offsets with words := [] } }, true)
  else
    match reserveStorage heap offsets.allocated (numSlices * 8) with
    | none => ({ ctx with sliceOffsets := { offsets with failed := true, words := [] } }, false)
    | some allocated =>
      ({ ctx with sliceOffsets := { offsets with
          words := (offsets.words ++
            List.replicate (numSlices * 2 - offsets.words.length) 0).take (numSlices * 2)
          allocated := allocated } }, true)

/-- `getAV1SliceTileIndex`. -/
def getAV1SliceTileIndex (pps : CUVIDAV1PICPARAMS) (param : VASliceParameterBufferAV1) :
    Option Nat :=
  if param.tileRow ≥ pps.numTileRows ∨ param.tileColumn ≥ pps.numTileCols then none
  else some (param.tileRow * pps.numTileCols + param.tileColumn)

/-- The tile is noted with its range. -/
def NVContext.noteTile (ctx : NVContext) (intervals : NVDIntervalIndex)
    (tileIndex offset stop : Nat) : NVContext :=
  { ctx with
    av1TileIntervals := intervals
    sliceOffsets := { ctx.sliceOffsets with
      words := (ctx.sliceOffsets.words.set (tileIndex * 2) offset).set (tileIndex * 2 + 1) stop }
    av1TileSeen := ctx.av1TileSeen ||| BitVec.twoPow _ tileIndex
    av1TileMinOffset := min offset ctx.av1TileMinOffset
    av1TileMaxEnd := max stop ctx.av1TileMaxEnd
    av1TileOffsetsSeen := ctx.av1TileOffsetsSeen + 1 }

/-- `ctx->inputValidationFailed = true`. -/
def NVContext.invalid (ctx : NVContext) : NVContext :=
  { ctx with inputValidationFailed := true }

/-- One round of the loop of `setAV1SliceOffsetsImpl`; the flag tells that the loop goes
on. -/
def setAV1SliceOffset (heap : Heap) (numSlices : Nat) (offsetAdjustment : Int)
    (sliceDataSize : Nat) (ctx : NVContext) (param : VASliceParameterBufferAV1) :
    NVContext × Bool :=
  if param.sliceDataOffset > sliceDataSize ∨
      param.sliceDataSize > sliceDataSize - param.sliceDataOffset then (ctx.invalid, false)
  else
    match getAV1SliceTileIndex ctx.pPicParams.av1 param with
    | none => (ctx.invalid, false)
    | some tileIndex =>
      if tileIndex ≥ numSlices then (ctx.invalid, false)
      else if ctx.av1TileSeen.getLsbD tileIndex then (ctx.invalid, false)
      else
        let adjustedOffset := offsetAdjustment + param.sliceDataOffset
        if adjustedOffset < 0 ∨ adjustedOffset > uint32Max ∨
            param.sliceDataSize > uint32Max - adjustedOffset.toNat then (ctx.invalid, false)
        else
          let offset := adjustedOffset.toNat
          let stop := offset + param.sliceDataSize
          if offset = stop then (ctx.invalid, false)
          else
            match nvdIntervalIndexInsert heap ctx.av1TileIntervals offset stop with
            | (intervals, true) => (ctx.noteTile intervals tileIndex offset stop, true)
            | (intervals, false) =>
              let ctx := { ctx with av1TileIntervals := intervals }
              if intervals.failed then
                ({ ctx with sliceOffsets := { ctx.sliceOffsets with failed := true } }, false)
              else (ctx.invalid, false)

/-- The loop of `setAV1SliceOffsetsImpl`; the flag tells that it came to its end. -/
def setAV1SliceOffsetsLoop (heap : Heap) (numSlices : Nat) (offsetAdjustment : Int)
    (sliceDataSize : Nat) : NVContext → List VASliceParameterBufferAV1 → NVContext × Bool
  | ctx, [] => (ctx, true)
  | ctx, param :: sliceParams =>
    match setAV1SliceOffset heap numSlices offsetAdjustment sliceDataSize ctx param with
    | (ctx, true) =>
      setAV1SliceOffsetsLoop heap numSlices offsetAdjustment sliceDataSize ctx sliceParams
    | (ctx, false) => (ctx, false)

/-- The number of tiles that a registration goes by. -/
def registeredSlices (ctx : NVContext) (sliceParams : List VASliceParameterBufferAV1) : Nat :=
  if ctx.pPicParams.nNumSlices = 0 then
    max sliceParams.length (ctx.pPicParams.av1.numTileCols * ctx.pPicParams.av1.numTileRows)
  else ctx.pPicParams.nNumSlices

/-- `picParams->nNumSlices = numSlices`. -/
def NVContext.withSlices (ctx : NVContext) (numSlices : Nat) : NVContext :=
  { ctx with pPicParams := { ctx.pPicParams with nNumSlices := numSlices } }

/-- The end of a registration that came to the end of its loop. -/
def finishRegistration (numSlices : Nat) (ctx : NVContext) : NVContext :=
  if ctx.bitstreamBuffer.size > 0 ∧ ctx.av1TileOffsetsSeen ≥ numSlices then
    compactAV1BitstreamToCurrentFrame ctx
  else ctx

/-- `setAV1SliceOffsetsImpl`. -/
def setAV1SliceOffsets (memory : Memory) (ctx : NVContext)
    (sliceParams : List VASliceParameterBufferAV1) (offsetAdjustment : Int)
    (sliceDataSize : Nat) : NVContext :=
  let numSlices := registeredSlices ctx sliceParams
  let ctx := ctx.withSlices numSlices
  if numSlices > nvdIntervalIndexCapacity then ctx.invalid
  else
    match ensureAV1SliceOffsetStorage memory.sliceOffsets ctx numSlices with
    | (ctx, false) => ctx
    | (ctx, true) =>
      match setAV1SliceOffsetsLoop memory.intervals numSlices offsetAdjustment sliceDataSize ctx
          sliceParams with
      | (ctx, false) => ctx
      | (ctx, true) => finishRegistration numSlices ctx

/-! ## Handlers -/

/-- `copyAV1PicParam`. -/
def copyAV1PicParam (surfaces : Surfaces) (ctx : NVContext)
    (buf : VADecPictureParameterBufferAV1) : NVContext :=
  if validateAV1PictureParams buf = false then ctx.invalid
  else
    let enableRestoration := ctx.av1SequenceEnableRestoration || usesRestoration buf
    let renderTarget := { ctx.renderTarget with orderHint := buf.orderHint }
    { ctx with
      av1SequenceEnableRestoration := enableRestoration
      renderTarget := renderTarget
      displayTarget :=
        if (grainDisplay surfaces renderTarget buf).isSome then some buf.currentDisplayPicture
        else ctx.displayTarget
      pPicParams := fillAV1PicParams ctx.width ctx.height enableRestoration surfaces renderTarget
        buf ctx.pPicParams
      av1TileOffsetsSeen := 0
      av1TileIntervals := nvdIntervalIndexReset ctx.av1TileIntervals
      av1TileSeen := 0
      av1TileMinOffset := uint32Max
      av1TileMaxEnd := 0
      av1BitstreamCompacted := false }

/-- `ctx->lastSliceParams` and `ctx->lastSliceParamsCount` are set. -/
def NVContext.withLastSliceParams (ctx : NVContext)
    (sliceParams : List VASliceParameterBufferAV1) : NVContext :=
  { ctx with lastSliceParams := sliceParams }

/-- `copyAV1SliceParam`. -/
def copyAV1SliceParam (memory : Memory) (ctx : NVContext)
    (sliceParams : List VASliceParameterBufferAV1) : NVContext :=
  let ctx := ctx.withLastSliceParams sliceParams
  if ctx.bitstreamBuffer.size > 0 then
    (setAV1SliceOffsets memory ctx sliceParams 0 ctx.bitstreamBuffer.size).withLastSliceParams []
  else ctx

/-- `nvCanAppendCuvidBitstream`. -/
def nvCanAppendCuvidBitstream (ctx : NVContext) (additionalBytes : Nat) : Bool :=
  !(ctx.bitstreamBuffer.size > uint32Max ∨ additionalBytes > uint32Max - ctx.bitstreamBuffer.size)

/-- `nvCommitCuvidBitstreamLength`. -/
def nvCommitCuvidBitstreamLength (ctx : NVContext) : NVContext :=
  if ctx.bitstreamBuffer.size > uint32Max then ctx.invalid
  else
    { ctx with
      pPicParams := { ctx.pPicParams with nBitstreamDataLen := ctx.bitstreamBuffer.size } }

/-- The end of `copyAV1SliceData`: the data is appended, and a picture that has all its
tiles is compacted. -/
def appendSliceData (memory : Memory) (ctx : NVContext) (data : List UInt8) : NVContext :=
  let ctx := nvCommitCuvidBitstreamLength
    { ctx with bitstreamBuffer := (ctx.bitstreamBuffer.append memory.bitstream data).1 }
  if ctx.av1TileOffsetsSeen ≥ ctx.pPicParams.nNumSlices then compactAV1BitstreamToCurrentFrame ctx
  else ctx

/-- `copyAV1SliceData`. -/
def copyAV1SliceData (memory : Memory) (ctx : NVContext) (data : List UInt8) : NVContext :=
  if nvCanAppendCuvidBitstream ctx data.length = false then ctx.invalid
  else if ctx.lastSliceParams = [] then appendSliceData memory ctx data
  else
    appendSliceData memory
      (setAV1SliceOffsets memory ctx ctx.lastSliceParams ctx.bitstreamBuffer.size data.length) data

end Av1
end NvidiaVaapi
