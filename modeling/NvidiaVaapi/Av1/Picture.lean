import NvidiaVaapi.Av1.Bitstream

/-!
# The calls of an AV1 picture

`nvBeginPicture`, `nvRenderPicture` and `nvEndPicture` of `vabackend.c` on an AV1 context,
as far as the buffers of the picture go.  What these calls learn from the rest of the
driver comes as answers.
-/

namespace NvidiaVaapi
namespace Av1

open Codec

/-- What `nvRenderPicture` finds at the id of a buffer. -/
inductive NVBuffer where
  /-- A buffer that is turned down before its handler, or that has none. -/
  | refused (status : VAStatus)
  | pictureParameter (surfaces : Surfaces) (buf : VADecPictureParameterBufferAV1)
  | sliceParameter (elementSize : Nat) (sliceParams : List VASliceParameterBufferAV1)
  | sliceData (data : List UInt8)

/-- `resetPictureBuild`. -/
def resetPictureBuild (ctx : NVContext) : NVContext :=
  { ctx with
    bitstreamBuffer := { ctx.bitstreamBuffer.clear with failed := false }
    sliceOffsets := { ctx.sliceOffsets with words := [], failed := false }
    sliceParamsBuffer := { ctx.sliceParamsBuffer with params := [], size := 0, failed := false }
    lastSliceParams := []
    inputValidationFailed := false
    renderTarget := {}
    displayTarget := none
    pictureState := .idle
    pictureFailure := .success }

/-- `nvBeginPicture`.  The answer is the failure of one of its checks, or the surface with
its picture index. -/
def nvBeginPicture (answer : Except VAStatus RenderTarget) (ctx : NVContext) :
    NVContext × VAStatus :=
  if ctx.pictureState ≠ .idle then (ctx, .operationFailed)
  else
    match answer with
    | .error status => (resetPictureBuild ctx, status)
    | .ok surface =>
      ({ ctx with
          pictureState := .building
          bitstreamBuffer := { ctx.bitstreamBuffer with failed := false }
          sliceOffsets := { ctx.sliceOffsets with failed := false }
          sliceParamsBuffer := { ctx.sliceParamsBuffer with failed := false }
          inputValidationFailed := false
          bitstreamDataOffset := 0
          pPicParams := { currPicIdx := surface.pictureIdx }
          renderTarget := surface
          displayTarget := none }, .success)

/-- The copy of the slice parameters; the flag is the result of `appendBuffer`. -/
def ownSliceParams (heap : Heap) (buffer : SliceParamsBuffer) (elementSize : Nat)
    (sliceParams : List VASliceParameterBufferAV1) : SliceParamsBuffer × Bool :=
  match reserveStorage heap buffer.allocated (elementSize * sliceParams.length) with
  | none => ({ buffer with params := [], size := 0, failed := true }, false)
  | some allocated =>
    ({ buffer with
        params := sliceParams
        size := elementSize * sliceParams.length
        allocated := allocated }, true)

/-- The slice parameters of the context are replaced. -/
def NVContext.withSliceParamsBuffer (ctx : NVContext) (buffer : SliceParamsBuffer) : NVContext :=
  { ctx with sliceParamsBuffer := buffer }

/-- The failures that are checked behind a handler. -/
def handlerStatus (ctx : NVContext) : VAStatus :=
  if ctx.inputValidationFailed then .invalidParameter
  else if ctx.bitstreamBuffer.failed ∨ ctx.sliceOffsets.failed ∨ ctx.sliceParamsBuffer.failed then
    .allocationFailed
  else .success

/-- One round of the loop of `nvRenderPictureImpl`.  Slice parameters and slice data have
an element at least. -/
def renderBuffer (memory : Memory) (ctx : NVContext) : NVBuffer → NVContext × VAStatus
  | .refused status => (ctx.invalid, status)
  | .pictureParameter surfaces buf =>
    let ctx := copyAV1PicParam surfaces ctx buf
    (ctx, handlerStatus ctx)
  | .sliceParameter elementSize sliceParams =>
    if sliceParams = [] then (ctx.invalid, .invalidParameter)
    else
      match ownSliceParams memory.sliceParams ctx.sliceParamsBuffer elementSize sliceParams with
      | (buffer, false) => (ctx.withSliceParamsBuffer buffer, .allocationFailed)
      | (buffer, true) =>
        let ctx := copyAV1SliceParam memory (ctx.withSliceParamsBuffer buffer) sliceParams
        (ctx, handlerStatus ctx)
  | .sliceData data =>
    if data = [] then (ctx.invalid, .invalidParameter)
    else
      let ctx := copyAV1SliceData memory ctx data
      (ctx, handlerStatus ctx)

/-- The loop of `nvRenderPictureImpl`. -/
def renderBuffers : NVContext → List (Memory × NVBuffer) → NVContext × VAStatus
  | ctx, [] => (ctx, .success)
  | ctx, (memory, buffer) :: buffers =>
    match renderBuffer memory ctx buffer with
    | (ctx, .success) => renderBuffers ctx buffers
    | (ctx, status) => (ctx, status)

/-- `nvRenderPictureImpl`.  A refusal is one of the call as a whole, for its arguments or
since the state of the GPU is unknown. -/
def nvRenderPictureImpl (refusal : Option VAStatus) (buffers : List (Memory × NVBuffer))
    (ctx : NVContext) : NVContext × VAStatus :=
  match refusal with
  | some status => (ctx, status)
  | none => renderBuffers ctx buffers

/-- `nvRenderPicture`. -/
def nvRenderPicture (refusal : Option VAStatus) (buffers : List (Memory × NVBuffer))
    (ctx : NVContext) : NVContext × VAStatus :=
  if ctx.pictureState ≠ .building then (ctx, .operationFailed)
  else
    let rendered := nvRenderPictureImpl refusal buffers ctx
    if rendered.2 = .success then rendered
    else
      ({ rendered.1 with pictureState := .failed, pictureFailure := rendered.2 }, rendered.2)

/-! ## The end of a picture -/

/-- `hostBufferIsUnderused`. -/
def hostBufferIsUnderused (allocated used threshold : Nat) : Bool :=
  threshold ≠ 0 && allocated > threshold && used ≤ allocated / 4

/-- `hostBufferTrimTarget`. -/
def hostBufferTrimTarget (used threshold : Nat) : Nat :=
  let target := if used ≤ sizeMax / 2 then used * 2 else used
  max target (max (threshold / 8) 256)

/-- `trimBuffer` for storage of which only the size matters: the capacity afterwards. -/
def trimStorage (heap : Heap) (allocated size targetCapacity : Nat) : Nat :=
  let target := max targetCapacity size
  if target ≥ allocated then allocated
  else if target = 0 ∨ heap.available target then target
  else allocated

/-- `maybeTrimContextHostBuffers`, with the bytes that the buffers had in use. -/
def maybeTrimContextHostBuffers (memory : Memory) (bitstreamBytes sliceOffsetBytes
    sliceParamBytes : Nat) (ctx : NVContext) : NVContext :=
  let threshold := ctx.hostBufferTrimThresholdBytes
  let bitstreamUnderused :=
    hostBufferIsUnderused ctx.bitstreamBuffer.allocated bitstreamBytes threshold
  let offsetsUnderused :=
    hostBufferIsUnderused ctx.sliceOffsets.allocated sliceOffsetBytes threshold
  let paramsUnderused :=
    hostBufferIsUnderused ctx.sliceParamsBuffer.allocated sliceParamBytes threshold
  if !bitstreamUnderused && !offsetsUnderused && !paramsUnderused then
    { ctx with hostBufferUnderuseFrames := 0 }
  else
    let frames := min (ctx.hostBufferUnderuseFrames + 1) uint32Max
    if ctx.hostBufferTrimFrames ≠ 0 ∧ frames < ctx.hostBufferTrimFrames then
      { ctx with hostBufferUnderuseFrames := frames }
    else
      { ctx with
        bitstreamBuffer :=
          if bitstreamUnderused then
            ctx.bitstreamBuffer.trim memory.bitstream (hostBufferTrimTarget bitstreamBytes threshold)
          else ctx.bitstreamBuffer
        sliceOffsets := { ctx.sliceOffsets with
          allocated :=
            if offsetsUnderused then
              trimStorage memory.sliceOffsets ctx.sliceOffsets.allocated
                (ctx.sliceOffsets.words.length * 4)
                (hostBufferTrimTarget sliceOffsetBytes threshold)
            else ctx.sliceOffsets.allocated }
        sliceParamsBuffer := { ctx.sliceParamsBuffer with
          allocated :=
            if paramsUnderused then
              trimStorage memory.sliceParams ctx.sliceParamsBuffer.allocated
                ctx.sliceParamsBuffer.size (hostBufferTrimTarget sliceParamBytes threshold)
            else ctx.sliceParamsBuffer.allocated }
        hostBufferUnderuseFrames := 0 }

/-- What `cuvidDecodePicture` is given: the parameters, the words at `pSliceDataOffsets`
and the `nBitstreamDataLen` bytes at `pBitstreamData`. -/
structure Submission where
  picParams : CUVIDPICPARAMS
  sliceDataOffsets : List Nat
  bitstreamData : List UInt8

/-- The answers that `nvEndPicture` gets: a refusal since the state of the GPU is unknown,
the result of `createDecoderForContext`, whether the CUDA context could be pushed and
popped, and the status of the rest. -/
structure EndAnswers where
  refusal : Option VAStatus := none
  decoderStatus : VAStatus := .success
  pushed : Bool := true
  popped : Bool := true
  finished : VAStatus := .success

/-- Why `nvEndPictureImpl` gives a picture up, by its parts. -/
def endRefusal (ctx : NVContext) : Option VAStatus :=
  let allocationFailed := ctx.bitstreamBuffer.failed || ctx.sliceOffsets.failed ||
    ctx.sliceParamsBuffer.failed
  let incomplete := ctx.pPicParams.nNumSlices = 0 ∨
    ctx.av1TileOffsetsSeen ≠ ctx.pPicParams.nNumSlices
  if ctx.inputValidationFailed ∨ (allocationFailed = false ∧ incomplete) then
    some .invalidParameter
  else if allocationFailed then some .allocationFailed
  else none

/-- The picture as it is handed over. -/
def submission (ctx : NVContext) : Submission where
  picParams := ctx.pPicParams
  sliceDataOffsets := ctx.sliceOffsets.words
  bitstreamData :=
    (ctx.bitstreamBuffer.buf.drop ctx.bitstreamDataOffset).take ctx.pPicParams.nBitstreamDataLen

/-- The buffers are empty for the next picture. -/
def NVContext.emptied (ctx : NVContext) : NVContext :=
  { ctx with
    bitstreamBuffer := ctx.bitstreamBuffer.clear
    sliceOffsets := { ctx.sliceOffsets with words := [] } }

/-- `nvEndPictureImpl`, with the picture if it is handed over. -/
def nvEndPictureImpl (answers : EndAnswers) (memory : Memory) (ctx : NVContext) :
    NVContext × VAStatus × Option Submission :=
  match answers.refusal with
  | some status => (ctx, status, none)
  | none =>
    match endRefusal ctx with
    | some status => (ctx.emptied, status, none)
    | none =>
      if answers.decoderStatus ≠ .success then (ctx.emptied, answers.decoderStatus, none)
      else if !answers.pushed then (ctx.emptied, .operationFailed, none)
      else if !answers.popped then (ctx.emptied, .operationFailed, some (submission ctx))
      else
        (maybeTrimContextHostBuffers memory ctx.bitstreamBuffer.size
          (ctx.sliceOffsets.words.length * 4) ctx.sliceParamsBuffer.size ctx.emptied,
          answers.finished, some (submission ctx))

/-- `nvEndPicture`. -/
def nvEndPicture (answers : EndAnswers) (memory : Memory) (ctx : NVContext) :
    NVContext × VAStatus × Option Submission :=
  match ctx.pictureState with
  | .idle => (ctx, .operationFailed, none)
  | .failed => (resetPictureBuild ctx, ctx.pictureFailure, none)
  | .building =>
    let ended := nvEndPictureImpl answers memory ctx
    (resetPictureBuild ended.1, ended.2)

/-! ## Runs -/

/-- A call on the context. -/
inductive PictureCall where
  | beginPicture (answer : Except VAStatus RenderTarget)
  | renderPicture (refusal : Option VAStatus) (buffers : List (Memory × NVBuffer))
  | endPicture (answers : EndAnswers) (memory : Memory)

/-- One call: the context afterwards and the picture that is handed over. -/
def NVContext.call (ctx : NVContext) : PictureCall → NVContext × Option Submission
  | .beginPicture answer => ((nvBeginPicture answer ctx).1, none)
  | .renderPicture refusal buffers => ((nvRenderPicture refusal buffers ctx).1, none)
  | .endPicture answers memory =>
    let ended := nvEndPicture answers memory ctx
    (ended.1, ended.2.2)

/-- A run of calls: the context afterwards and the pictures that are handed over. -/
def NVContext.calls (ctx : NVContext) : List PictureCall → NVContext × List Submission
  | [] => (ctx, [])
  | call :: calls =>
    let first := ctx.call call
    let rest := first.1.calls calls
    (rest.1, first.2.toList ++ rest.2)

end Av1
end NvidiaVaapi
