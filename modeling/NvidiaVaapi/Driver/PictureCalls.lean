import NvidiaVaapi.Driver.Generation
import NvidiaVaapi.Driver.PictureIndex

/-!
# Picture calls

`nvBeginPicture`, `nvRenderPicture` and `nvEndPicture`, one section at a time.
`none` means that the section is not enabled: the call waits for a flag or a
mutex, or the outcome offered does not belong to the program point.

Results of CUDA, NVDEC and allocator calls, the contents of client buffers and
the outcome of codec handlers are supplied with each step.
-/

namespace NvidiaVaapi
namespace Driver

/-- Outcome of a codec handler that registers no reference. -/
inductive HandlerOutcome
  | accepted
  /-- The handler set `inputValidationFailed`. -/
  | rejected
  /-- A host buffer could not grow and its `failed` flag is set. -/
  | unstored
  deriving DecidableEq, Repr

/-- One entry of the buffer list of a decode `nvRenderPicture`, as the loop of
`nvRenderPictureImpl` classifies it. -/
inductive DecodeBuffer
  | invalid
  | foreign
  | illTyped
  | unhandled
  | illShaped
  | sliceParamsUnstored
  | pictureParameter (buffer : PictureParameterBuffer)
  | handled (registered : Nat) (outcome : HandlerOutcome) (buffers : HostBuffers := {})
  deriving DecidableEq, Repr

/-- One entry of the buffer list of a VideoProc `nvRenderPicture`. -/
inductive PipelineBuffer
  | invalid
  | foreign
  | illShaped
  | pipeline (src : SurfaceRef) (regionsSupported : Bool)
  deriving DecidableEq, Repr

/-- What a step of a call is told by its environment. -/
inductive Outcome
  | ok
  | failed
  /-- `cuCtxPushCurrent` or `cuCtxPopCurrent` failed around the operation. -/
  | contextFailed
  | decodeBuffer (buffer : DecodeBuffer)
  | pipelineBuffer (buffer : PipelineBuffer)
  | endOfBuffers
  | decoder (handle : DecoderRef)
  deriving DecidableEq, Repr

/-- The codec whose picture-parameter structure this is. -/
def PictureReferences.cudaCodec : PictureReferences → CudaVideoCodec
  | .mpeg2 .. => .mpeg2
  | .vc1 .. => .vc1
  | .h264 .. => .h264
  | .hevc .. => .hevc
  | .jpeg => .jpeg
  | .vp8 .. => .vp8
  | .vp9 .. => .vp9
  | .av1 .. => .av1

/-- The reference entries a handler fills in, in order: the surface it looks up,
or `none` where it stores `-1` without a look-up. -/
def PictureReferences.lookups : PictureReferences → List (Option SurfaceRef)
  | .mpeg2 forward backward => [some forward, some backward]
  | .vc1 forward backward => [some forward, some backward]
  | .h264 frames => frames.map fun frame => if frame.invalid then none else some frame.pictureId
  | .hevc frames => frames.map some ++ [none]
  | .jpeg => []
  | .vp8 last golden alt => [some last, some golden, some alt]
  | .vp9 frames last golden alt => [frames[last]?, frames[golden]?, frames[alt]?]
  | .av1 frames => frames.map some

/-- Number of reference entries of the codec's part of `CUVIDPICPARAMS`. -/
def referenceSlots : CudaVideoCodec → Nat
  | .mpeg2 => 2
  | .vc1 => 2
  | .h264 => 16
  | .hevc => 16
  | .jpeg => 0
  | .vp8 => 3
  | .vp9 => 3
  | .av1 => 8

/-- `memset(&nvCtx->pPicParams, 0, sizeof(CUVIDPICPARAMS))`. -/
def CuvidPicParams.zeroed (codec : CudaVideoCodec) : CuvidPicParams :=
  { references := List.replicate (referenceSlots codec) (none, 0) }

/-- The picture whose call or target this context is working on. -/
def currentPicture (s : State) (c : ContextRef) : Picture :=
  ⟨c, (s.contexts c).picture⟩

/-- Run a list of sections before a program point. -/
def Phase.after : List ClearSection → Phase → Phase
  | [], next => next
  | todo, next => .clearing todo next

namespace NVContext

/-- End the generations of both targets: the display target first, then the
render target where it is a different surface. -/
def targetSections (ctx : NVContext) (section_ : SurfaceRef → ClearSection) :
    List ClearSection :=
  (match ctx.displayTarget with
    | some display => [.image display, section_ display]
    | none => []) ++
  match ctx.renderTarget with
  | some render =>
    if ctx.renderTarget = ctx.displayTarget then [] else [.image render, section_ render]
  | none => []

/-- `cancelCurrentPictureResolve`. -/
def cancelSections (ctx : NVContext) : List ClearSection :=
  ctx.targetSections fun r => .fail r .decodingError

/-- The failing exits that call `setSurfaceResolving(target, false)`. -/
def finishSections (ctx : NVContext) : List ClearSection :=
  ctx.targetSections .finish

/-- `displayTarget != NULL ? displayTarget : renderTarget`. -/
def outputTarget (ctx : NVContext) : Option SurfaceRef :=
  ctx.displayTarget <|> ctx.renderTarget

/-- The sections of `setSurfaceResolving(surface, false)` for an optional surface. -/
def finishOf (target : Option SurfaceRef) : List ClearSection :=
  match target with
  | some r => [.image r, .finish r]
  | none => []

/-- The sections of `failSurfaceResolve(surface, status)` for an optional surface. -/
def failOf (target : Option SurfaceRef) (status : VAStatus) : List ClearSection :=
  match target with
  | some r => [.image r, .fail r status]
  | none => []

end NVContext

/-- The call moves to another program point. -/
def goto (s : State) (c : ContextRef) (phase : Phase) : State :=
  s.setContext c { s.contexts c with phase := phase }

/-- The call returns: `pictureMutex` and the object-lifetime lock are released. -/
def leave (s : State) (c : ContextRef) (ctx : NVContext) (status : VAStatus) : State :=
  { s.setContext c { ctx with phase := .idle, result := status } with
    lifetimeReaders := s.lifetimeReaders.filter fun id => id ≠ .context c }

/-- A step of the picture has failed. -/
def recordFailure (s : State) (c : ContextRef) : State :=
  { s with failed := currentPicture s c :: s.failed }

/-- A call on a context is admitted: the object-lifetime lock is free for
readers, the context is in the object table and its `pictureMutex` is free. -/
def admitted (s : State) (c : ContextRef) : Bool :=
  s.lifetimeWriter.isNone ∧ (s.contexts c).life = .live ∧ (s.contexts c).phase = .idle

/-- The call has taken the object-lifetime lock as a reader. -/
def lifetimeReadLock (s : State) (c : ContextRef) : State :=
  { s with lifetimeReaders := .context c :: s.lifetimeReaders }

/-- Enter a call at its first program point. -/
def enter (s : State) (c : ContextRef) (ctx : NVContext) (phase : Phase) : State :=
  (lifetimeReadLock s c).setContext c { ctx with phase := phase }

/-! ## nvBeginPicture -/

/-- A failing exit of `nvBeginPictureImpl`: `resetPictureBuild(nvCtx, true)`. -/
def beginFailure (ctx : NVContext) (status : VAStatus) : Phase :=
  .after ctx.cancelSections (.reset status)

/-- Entry of `nvBeginPicture`. -/
def nvBeginPicture (s : State) (c : ContextRef) (r : SurfaceRef) : Option State :=
  let ctx := s.contexts c
  if admitted s c = false then none
  else if ctx.pictureState ≠ .idle then
    some (s.setContext c { ctx with result := .operationFailed })
  else
    let begun := { ctx with pictureState := .building, picture := ctx.picture + 1 }
    if s.cudaWorkUnsafe = true then
      some (enter s c begun (beginFailure begun .operationFailed))
    else if (s.surfaces r).life ≠ .live then
      some (enter s c begun (beginFailure begun .invalidSurface))
    else some (enter s c begun (.beginWaitSurface r))

def beginWaitSurface (s : State) (c : ContextRef) (r : SurfaceRef) : Option State :=
  if surfaceResolved s r = true then some (goto s c (.beginWaitImage r)) else none

def beginWaitImage (s : State) (c : ContextRef) (r : SurfaceRef) : Option State :=
  if imageResolved s r = true then
    some (goto s c (if (s.contexts c).entrypoint = .videoProc then .beginStartImage r
      else .beginRelease r))
  else none

def beginRelease (s : State) (c : ContextRef) (r : SurfaceRef) : Option State :=
  if (s.surfaces r).context ≠ none ∧ (s.surfaces r).context ≠ some c then
    (releaseSurfacePictureIndex s r).map fun s' => goto s' c (.beginAssign r)
  else some (goto s c (.beginAssign r))

/-- The `surfaceLimit` that `nvBeginPictureImpl` passes on. -/
def surfaceLimit (s : State) (c : ContextRef) : Nat :=
  if (s.contexts c).decoder.isSome then (s.contexts c).surfaceCount
  else s.config.decodeSurfacesMaximum

/-- `recreateDecoderForSurface`: the format follows the surface until a decoder
exists; `none` on a mismatch afterwards. -/
def recreateDecoderForSurface (ctx : NVContext) (surface : NVSurface) : Option NVContext :=
  if ctx.decoder.isSome then
    if ctx.decoderFormat = surface.format then some ctx else none
  else some { ctx with decoderFormat := surface.format }

/-- `recreateDecoderForSurface`, the index test and the first section of the
index assignment. -/
def beginAssign (s : State) (c : ContextRef) (r : SurfaceRef) : Option State :=
  match recreateDecoderForSurface (s.contexts c) (s.surfaces r) with
  | none => some (goto s c (beginFailure (s.contexts c) .operationFailed))
  | some ctx =>
    let s := s.setContext c ctx
    if (s.surfaces r).pictureIdx ≠ -1 then some (goto s c (.beginStartImage r))
    else
      let limit := surfaceLimit s c
      if limit = 0 ∨ nvdMaxDecodeSurfaces < limit ∨ ctx.destroying = true then
        some (goto s c (beginFailure ctx .maxNumExceeded))
      else if alreadyAssigned s c r limit = true then some (goto s c (.beginStartImage r))
      else if ctx.cudaCodec = .av1 then
        match selectAV1PictureIndex ctx limit with
        | none => some (goto s c (beginFailure ctx .maxNumExceeded))
        | some selected =>
          some (goto (commitAV1SurfacePictureIndex s c r limit selected) c (.beginStartImage r))
      else some (goto s c (.assignScan r limit 0 0#32))

/-- One turn of the `busyMask` loop, and after the last one the selection. -/
def assignScan (s : State) (c : ContextRef) (r : SurfaceRef) (limit i : Nat)
    (busyMask : BitVec 32) : Option State :=
  let ctx := s.contexts c
  if i < limit then
    match ctx.pictureIndexOwners i with
    | none => some (goto s c (.assignScan r limit (i + 1) busyMask))
    | some owner =>
      some (goto s c (.assignScan r limit (i + 1)
        (if (s.surfaces owner).resolving = true then busyMask ||| (1#32 <<< i) else busyMask)))
  else
    match nvdSelectPictureIndex ctx.currentPictureId limit ctx.activeReferenceMask busyMask
        ctx.pictureIndexRecycleCursor with
    | some selected =>
      some (goto (commitSurfacePictureIndex s c r limit selected) c (.beginStartImage r))
    | none =>
      match (nvdSelectPictureIndex ctx.currentPictureId limit ctx.activeReferenceMask 0#32
          ctx.pictureIndexRecycleCursor).bind ctx.pictureIndexOwners with
      | none => some (goto s c (beginFailure ctx .maxNumExceeded))
      | some owner => some (goto s c (.assignWaitSurface r limit owner))

def assignWaitSurface (s : State) (c : ContextRef) (r : SurfaceRef) (limit : Nat)
    (owner : SurfaceRef) : Option State :=
  if surfaceResolved s owner = true then some (goto s c (.assignWaitImage r limit owner))
  else none

def assignWaitImage (s : State) (c : ContextRef) (r : SurfaceRef) (limit : Nat)
    (owner : SurfaceRef) : Option State :=
  if imageResolved s owner = true then some (goto s c (.assignScan r limit 0 0#32)) else none

def beginStartImage (s : State) (c : ContextRef) (r : SurfaceRef) : Option State :=
  some (goto (setSurfaceBackingImageResolving s r true) c (.beginStart r))

/-- The surface section of `setSurfaceResolving(surface, true)`, with the
assignments to the context that follow it under `pictureMutex` alone. -/
def beginStart (s : State) (c : ContextRef) (r : SurfaceRef) : Option State :=
  let s' := s.setSurface r ((s.surfaces r).start (currentPicture s c))
  let ctx := s.contexts c
  if ctx.entrypoint = .videoProc then
    some (s'.setContext c { ctx with renderTarget := some r, phase := .ret .success })
  else
    some (s'.setContext c
      { ctx with
        renderTarget := some r
        displayTarget := some r
        inputValidationFailed := false
        buffersFailed := false
        buffers := { ctx.buffers with
          sliceParams := if ctx.cudaCodec ≠ .av1 then 0 else ctx.buffers.sliceParams }
        phase := .beginInit r })

/-- The reset of `buildingReferenceMask`, then `memset` and the current index. -/
def beginInit (s : State) (c : ContextRef) (r : SurfaceRef) : Option State :=
  let ctx := s.contexts c
  let s' := s.setSurface r { s.surfaces r with progressiveFrame := true }
  some (s'.setContext c
    { ctx with
      buildingReferenceMask :=
        if ctx.cudaCodec ≠ .av1 then 0#32 else ctx.buildingReferenceMask
      pPicParams :=
        { CuvidPicParams.zeroed ctx.cudaCodec with currPicIdx := (s.surfaces r).pictureIdx }
      phase := .ret .success })

/-! ## nvRenderPicture -/

/-- A failing `nvRenderPictureImpl` whose own sections are `first`, followed by
the failing branch of `nvRenderPicture`. -/
def renderFailure (s : State) (c : ContextRef) (ctx : NVContext) (first : List ClearSection)
    (status : VAStatus) : State :=
  (recordFailure s c).setContext c
    { ctx with
      pictureState := .failed
      pictureFailure := status
      phase := .after (first ++ ctx.cancelSections) (.ret status) }

/-- Entry of `nvRenderPicture`; `argumentsValid` is the check of `num_buffers`
and `buffers`. -/
def nvRenderPicture (s : State) (c : ContextRef) (argumentsValid : Bool) : Option State :=
  let ctx := s.contexts c
  if admitted s c = false then none
  else if ctx.pictureState ≠ .building then
    some (s.setContext c { ctx with result := .operationFailed })
  else if s.cudaWorkUnsafe = true then
    some (renderFailure (lifetimeReadLock s c) c ctx ctx.cancelSections .operationFailed)
  else if argumentsValid = false then
    some (renderFailure (lifetimeReadLock s c) c ctx ctx.cancelSections .invalidParameter)
  else if ctx.entrypoint = .videoProc then some (enter s c ctx (.blitLoop false))
  else some (enter s c ctx .renderLoop)

/-- What follows a handler call: the two failure checks of the loop. -/
def afterHandler (s : State) (c : ContextRef) (ctx : NVContext) : State :=
  if ctx.inputValidationFailed = true then
    renderFailure s c ctx ctx.finishSections .invalidParameter
  else if ctx.buffersFailed = true then
    renderFailure s c ctx ctx.cancelSections .allocationFailed
  else s.setContext c { ctx with phase := .renderLoop }

/-- The checks that reject a buffer before its handler runs. -/
def rejectBuffer (s : State) (c : ContextRef) (status : VAStatus) : State :=
  let ctx := { s.contexts c with inputValidationFailed := true }
  renderFailure s c ctx ctx.cancelSections status

/-- The fields a picture-parameter handler stores before any look-up. -/
def startPictureParameter (ctx : NVContext) (buffer : PictureParameterBuffer) : NVContext :=
  { ctx with
    decodeSurfaceReferenceHint :=
      if ctx.cudaCodec = .h264 ∨ ctx.cudaCodec = .hevc then buffer.decodeSurfaceReferenceHint
      else ctx.decodeSurfaceReferenceHint }

/-- `ctx->renderTarget->progressiveFrame = ...`, which the interlaced codecs store. -/
def storeProgressiveFrame (s : State) (ctx : NVContext) (buffer : PictureParameterBuffer) :
    State :=
  match ctx.renderTarget with
  | none => s
  | some r =>
    if ctx.cudaCodec = .mpeg2 ∨ ctx.cudaCodec = .vc1 ∨ ctx.cudaCodec = .h264 ∨
        ctx.cudaCodec = .hevc then
      s.setSurface r { s.surfaces r with progressiveFrame := buffer.progressiveFrame }
    else s

/-- One iteration of the decode loop of `nvRenderPictureImpl`. -/
def renderLoop (s : State) (c : ContextRef) : Outcome → Option State
  | .endOfBuffers => some (goto s c (.ret .success))
  | .decodeBuffer .invalid => some (rejectBuffer s c .invalidBuffer)
  | .decodeBuffer .foreign => some (rejectBuffer s c .invalidBuffer)
  | .decodeBuffer .illTyped => some (rejectBuffer s c .unsupportedBufferType)
  | .decodeBuffer .unhandled => some (rejectBuffer s c .unsupportedBufferType)
  | .decodeBuffer .illShaped => some (rejectBuffer s c .invalidParameter)
  | .decodeBuffer .sliceParamsUnstored =>
    let ctx := { s.contexts c with
      buffersFailed := true, buffers := { (s.contexts c).buffers with sliceParams := 0 } }
    some (renderFailure s c ctx ctx.cancelSections .allocationFailed)
  | .decodeBuffer (.pictureParameter buffer) =>
    if buffer.references.cudaCodec ≠ (s.contexts c).cudaCodec then none
    else
      let ctx := startPictureParameter (s.contexts c) buffer
      let s' := storeProgressiveFrame s ctx buffer
      if buffer.accepted = false then
        some (afterHandler s' c { ctx with inputValidationFailed := true })
      else some (s'.setContext c
        { ctx with phase := .renderLookup buffer buffer.references.lookups [] })
  | .decodeBuffer (.handled registered outcome buffers) =>
    let ctx := s.contexts c
    some (afterHandler s c
      { ctx with
        av1TileOffsetsSeen := ctx.av1TileOffsetsSeen + registered
        buffers := buffers
        inputValidationFailed := ctx.inputValidationFailed || outcome = .rejected
        buffersFailed := ctx.buffersFailed || outcome = .unstored })
  | _ => none

/-- The film-grain redirection of `copyAV1PicParam`: the display surface it
switches to, if it does. -/
def filmGrainDisplay (s : State) (ctx : NVContext) (buffer : PictureParameterBuffer) :
    Option SurfaceRef :=
  let display := buffer.currentDisplayPicture
  if buffer.applyGrain = true ∧ (s.surfaces display).life = .live ∧
      ctx.renderTarget ≠ some display ∧ 0 ≤ (s.surfaces display).pictureIdx then
    some display
  else none

/-- The index of the render target, as the handlers read it. -/
def renderTargetIdx (s : State) (ctx : NVContext) : Int :=
  match ctx.renderTarget with
  | some r => (s.surfaces r).pictureIdx
  | none => -1

/-- The end of `copyAV1PicParam` as far as indices and targets go. -/
def finishAV1PicParam (s : State) (ctx : NVContext) (buffer : PictureParameterBuffer)
    (found : List (Option SurfaceRef × Int)) : NVContext :=
  let params := { ctx.pPicParams with
    references := found, nNumSlices := buffer.tiles, decodePicIdx := ctx.pPicParams.currPicIdx }
  match filmGrainDisplay s ctx buffer with
  | none => { ctx with av1TileOffsetsSeen := 0, pPicParams := params }
  | some display =>
    { ctx with
      av1TileOffsetsSeen := 0
      displayTarget := some display
      pPicParams := { params with
        currPicIdx := (s.surfaces display).pictureIdx
        decodePicIdx := renderTargetIdx s ctx } }

/-- The end of the other picture-parameter handlers. -/
def finishPicParam (ctx : NVContext) (buffer : PictureParameterBuffer)
    (found : List (Option SurfaceRef × Int)) : NVContext :=
  { ctx with
    pPicParams := { ctx.pPicParams with
      references := found
      bottomFieldFlag := buffer.bottomFieldFlag
      secondField := buffer.secondField } }

/-- One reference look-up of a picture-parameter handler, or its end. -/
def renderLookup (s : State) (c : ContextRef) (buffer : PictureParameterBuffer)
    (found : List (Option SurfaceRef × Int)) : List (Option SurfaceRef) → Option State
  | none :: rest => some (goto s c (.renderLookup buffer rest (found ++ [(none, -1)])))
  | some surfId :: rest =>
    let pictureIdx := pictureIdxFromSurfaceId s c surfId
    some (s.setContext c
      { noteReference (s.contexts c) pictureIdx with
        phase := .renderLookup buffer rest (found ++ [(some surfId, pictureIdx)]) })
  | [] =>
    let ctx := s.contexts c
    if ctx.cudaCodec = .av1 then
      some (afterHandler s c (finishAV1PicParam s ctx buffer found))
    else some (afterHandler s c (finishPicParam ctx buffer found))

/-- A failing `copySurfaceBackingImage`. -/
def blitFailure (s : State) (c : ContextRef) : State :=
  renderFailure s c (s.contexts c) (NVContext.finishOf (s.contexts c).renderTarget)
    .operationFailed

/-- A rejected VideoProc buffer. -/
def rejectPipeline (s : State) (c : ContextRef) (status : VAStatus) : State :=
  renderFailure s c (s.contexts c) (s.contexts c).cancelSections status

/-- One iteration of the VideoProc loop, up to the first wait of the blit. -/
def blitLoop (s : State) (c : ContextRef) (processed : Bool) : Outcome → Option State
  | .endOfBuffers =>
    if processed = true then some (goto s c (.ret .success))
    else some (goto s c
      (.after (NVContext.finishOf (s.contexts c).renderTarget) (.ret .success)))
  | .pipelineBuffer .invalid => some (rejectPipeline s c .invalidBuffer)
  | .pipelineBuffer .foreign => some (rejectPipeline s c .invalidBuffer)
  | .pipelineBuffer .illShaped => some (rejectPipeline s c .invalidParameter)
  | .pipelineBuffer (.pipeline src regionsSupported) =>
    if (s.surfaces src).life ≠ .live ∨ (s.contexts c).renderTarget = some src ∨
        regionsSupported = false then
      some (blitFailure s c)
    else some (goto s c (.blitWaitSurface src))
  | _ => none

def blitWaitSurface (s : State) (c : ContextRef) (src : SurfaceRef) : Option State :=
  if surfaceResolved s src = true then some (goto s c (.blitWaitImage src)) else none

def blitWaitImage (s : State) (c : ContextRef) (src : SurfaceRef) : Option State :=
  if imageResolved s src = true then some (goto s c (.blitCopy src)) else none

def blitCopy (s : State) (c : ContextRef) (src : SurfaceRef) : Outcome → Option State
  | .ok => some (goto s c (.blitRelease src))
  | .failed => some (blitFailure s c)
  | _ => none

def blitRelease (s : State) (c : ContextRef) (src : SurfaceRef) : Option State :=
  match (s.contexts c).renderTarget with
  | none => some (goto s c (.blitPublish src))
  | some dst => (releaseSurfacePictureIndex s dst).map fun s' => goto s' c (.blitPublish src)

/-- The section that copies the source's decode state to the destination. -/
def blitPublish (s : State) (c : ContextRef) (src : SurfaceRef) : Option State :=
  match (s.contexts c).renderTarget with
  | none => some (goto s c (.blitLoop true))
  | some dst =>
    some (goto
      (s.setSurface dst
        { s.surfaces dst with
          progressiveFrame := (s.surfaces src).progressiveFrame
          topFieldFirst := (s.surfaces src).topFieldFirst
          secondField := (s.surfaces src).secondField
          decodeFailed := (s.surfaces src).decodeFailed })
      c (.clearing [.image dst, .finish dst] (.blitLoop true)))

/-! ## nvEndPicture -/

/-- A failing exit of `nvEndPictureImpl` in a decode context, whose own sections
are `first`, followed by `resetPictureBuild(nvCtx, true)`. -/
def endFailure (s : State) (c : ContextRef) (ctx : NVContext) (first : List ClearSection)
    (status : VAStatus) : State :=
  (recordFailure s c).setContext c
    { ctx with phase := .after (first ++ ctx.cancelSections) (.reset status) }

/-- The AV1 check at the start of `nvEndPictureImpl`. -/
def av1TilesMissing (ctx : NVContext) : Bool :=
  ctx.cudaCodec = .av1 ∧ ctx.buffersFailed = false ∧
    (ctx.pPicParams.nNumSlices = 0 ∨ ctx.av1TileOffsetsSeen ≠ ctx.pPicParams.nNumSlices)

/-- `bitstreamBuffer.size = 0; sliceOffsets.size = 0`. -/
def NVContext.dropBitstream (ctx : NVContext) : NVContext :=
  { ctx with buffers := { ctx.buffers with bitstream := 0, sliceOffsets := 0 } }

/-- Entry of `nvEndPicture`, up to the creation of the decoder. -/
def nvEndPicture (s : State) (c : ContextRef) : Option State :=
  let ctx := s.contexts c
  if admitted s c = false then none
  else
    match ctx.pictureState with
    | .idle => some (s.setContext c { ctx with result := .operationFailed })
    | .submitted => some (s.setContext c { ctx with result := .operationFailed })
    | .failed =>
      some (enter s c ctx (.after ctx.cancelSections (.reset ctx.pictureFailure)))
    | .building =>
      if ctx.entrypoint = .videoProc then
        if s.cudaWorkUnsafe = true then
          some (enter s c ctx (.after (NVContext.failOf ctx.renderTarget .operationFailed)
            (.reset .operationFailed)))
        else
          some (enter s c ctx (.after (NVContext.finishOf ctx.renderTarget) (.reset .success)))
      else if s.cudaWorkUnsafe = true then
        some (endFailure (lifetimeReadLock s c) c ctx
          (NVContext.failOf ctx.renderTarget .operationFailed) .operationFailed)
      else if ctx.inputValidationFailed = true ∨ av1TilesMissing ctx = true then
        some (endFailure (lifetimeReadLock s c) c
          { ctx.dropBitstream with inputValidationFailed := false }
          ctx.finishSections .invalidParameter)
      else if ctx.buffersFailed = true then
        some (endFailure (lifetimeReadLock s c) c
          { ctx.dropBitstream with buffersFailed := false }
          ctx.finishSections .allocationFailed)
      else some (enter s c ctx .endCreateDecoder)

/-- `defaultDecodeSurfaceCount`. -/
def defaultDecodeSurfaceCount : CudaVideoCodec → Nat
  | .h264 => 20
  | .hevc => 20
  | .vp9 => 10
  | .av1 => 32
  | .jpeg => 2
  | .mpeg2 => 8
  | .vc1 => 8
  | .vp8 => 8

/-- `nvdSelectDecodeSurfaceCount`. -/
def nvdSelectDecodeSurfaceCount (codecDefault referenceHint clientTargets overrideCount
    minimum maximum : Nat) : Nat :=
  let minimum := if minimum = 0 then 1 else minimum
  let maximum := if maximum < minimum then minimum else maximum
  let selected :=
    if overrideCount = 0 then max (max codecDefault referenceHint) clientTargets
    else overrideCount
  let selected := if selected < minimum then minimum else selected
  if maximum < selected then maximum else selected

/-- `selectContextDecodeSurfaceCount`. -/
def selectContextDecodeSurfaceCount (config : DriverConfig) (ctx : NVContext) : Nat :=
  let automatic := nvdSelectDecodeSurfaceCount (defaultDecodeSurfaceCount ctx.cudaCodec)
    ctx.decodeSurfaceReferenceHint ctx.clientRenderTargetCount 0
    config.decodeSurfacesMinimum config.decodeSurfacesMaximum
  if config.decodeSurfacesAuto = true then automatic
  else
    let overrideCount :=
      if config.decodeSurfacesOverride ≠ 0 then config.decodeSurfacesOverride else 32
    nvdSelectDecodeSurfaceCount automatic 0 0 overrideCount
      config.decodeSurfacesMinimum config.decodeSurfacesMaximum

/-- `createDecoderForContext` and the checks around it.  The bitstream and the
slice offsets are taken by the submission, or dropped. -/
def endCreateDecoder (s : State) (c : ContextRef) (outcome : Outcome) : Option State :=
  let ctx := (s.contexts c).dropBitstream
  if ctx.decoder.isSome then some (s.setContext c { ctx with phase := .endPushContext })
  else
    let ctx := { ctx with surfaceCount := selectContextDecodeSurfaceCount s.config ctx }
    if ctx.surfaceCount < ctx.currentPictureId then
      some (endFailure s c ctx ctx.finishSections .maxNumExceeded)
    else
      match outcome with
      | .decoder handle =>
        some (s.setContext c { ctx with decoder := some handle, phase := .endPushContext })
      | .contextFailed => some (endFailure s c ctx ctx.finishSections .operationFailed)
      | .failed => some (endFailure s c ctx ctx.finishSections .allocationFailed)
      | _ => none

/-- A failed `cuCtxPushCurrent` or `cuCtxPopCurrent` around the submission, which
clears the flag of the output surface only. -/
def submissionContextFailure (s : State) (c : ContextRef) : State :=
  endFailure s c (s.contexts c) (NVContext.finishOf (s.contexts c).outputTarget)
    .operationFailed

def endPushContext (s : State) (c : ContextRef) : Outcome → Option State
  | .ok => some (goto s c .endDecode)
  | .contextFailed => some (submissionContextFailure s c)
  | _ => none

/-- `cuvidDecodePicture`. -/
def endDecode (s : State) (c : ContextRef) : Outcome → Option State
  | .ok => some (goto s c (.endPopContext .success))
  | .failed => some (goto (recordFailure s c) c (.endPopContext .decodingError))
  | _ => none

def endPopContext (s : State) (c : ContextRef) (status : VAStatus) : Outcome → Option State
  | .ok =>
    some (goto s c
      (if (s.contexts c).outputTarget = (s.contexts c).renderTarget then .endAllocJob status
        else .handOverStartImage status))
  | .contextFailed => some (submissionContextFailure s c)
  | _ => none

def handOverStartImage (s : State) (c : ContextRef) (status : VAStatus) : Option State :=
  match (s.contexts c).outputTarget with
  | none => some (goto s c (.handOverStart status))
  | some display =>
    some (goto (setSurfaceBackingImageResolving s display true) c (.handOverStart status))

def handOverStart (s : State) (c : ContextRef) (status : VAStatus) : Option State :=
  match (s.contexts c).outputTarget with
  | none => some (goto s c (.handOverFinishImage status))
  | some display =>
    some (goto (s.setSurface display ((s.surfaces display).start (currentPicture s c))) c
      (.handOverFinishImage status))

def handOverFinishImage (s : State) (c : ContextRef) (status : VAStatus) : Option State :=
  match (s.contexts c).renderTarget with
  | none => some (goto s c (.handOverFinish status))
  | some render =>
    some (goto (setSurfaceBackingImageResolving s render false) c (.handOverFinish status))

def handOverFinish (s : State) (c : ContextRef) (status : VAStatus) : Option State :=
  match (s.contexts c).renderTarget with
  | none => some (goto s c (.endAllocJob status))
  | some render =>
    some (goto (s.setSurface render (s.surfaces render).finish) c (.endAllocJob status))

/-- `calloc` of the job. -/
def endAllocJob (s : State) (c : ContextRef) (status : VAStatus) : Outcome → Option State
  | .ok => some (goto s c (.endMakeJob status))
  | .failed =>
    let ctx := s.contexts c
    some (endFailure s c ctx
      (NVContext.failOf ctx.outputTarget .allocationFailed ++
        (if ctx.outputTarget = ctx.renderTarget then []
          else NVContext.failOf ctx.renderTarget .allocationFailed))
      .allocationFailed)
  | _ => none

/-- The job that `nvEndPictureImpl` fills in for its output surface. -/
def makeJob (s : State) (c : ContextRef) (r : SurfaceRef) (status : VAStatus) : ResolveJob :=
  let ctx := s.contexts c
  { surface := r
    decoder := ctx.decoder
    generation := (s.surfaces r).submittedGeneration
    pictureIdx := (s.surfaces r).pictureIdx
    progressiveFrame := (s.surfaces r).progressiveFrame
    topFieldFirst := !ctx.pPicParams.bottomFieldFlag
    secondField := ctx.pPicParams.secondField
    decodeStatus := status
    picture := currentPicture s c
    handedOver := ctx.renderTarget ≠ some r }

/-- The section that records the context in the output surface and fills in the
job from it. -/
def endMakeJob (s : State) (c : ContextRef) (status : VAStatus) : Option State :=
  match (s.contexts c).outputTarget with
  | none => none
  | some r =>
    some (goto
      (s.setSurface r
        { s.surfaces r with
          context := some c
          contextId := some c
          topFieldFirst := !(s.contexts c).pPicParams.bottomFieldFlag
          secondField := (s.contexts c).pPicParams.secondField
          decodeFailed := status ≠ .success })
      c (.endActiveMask (makeJob s c r status)))

/-- The update of `activeReferenceMask` after a successful submission. -/
def endActiveMask (s : State) (c : ContextRef) (job : ResolveJob) : Option State :=
  let ctx := s.contexts c
  let pictureIdx := renderTargetIdx s ctx
  if job.decodeStatus = .success ∧ ctx.cudaCodec ≠ .av1 ∧ 0 ≤ pictureIdx ∧
      pictureIdx < nvdMaxDecodeSurfaces then
    some (s.setContext c
      { ctx with
        activeReferenceMask := ctx.buildingReferenceMask ||| (1#32 <<< pictureIdx.toNat)
        phase := .endPushJob job })
  else some (goto s c (.endPushJob job))

/-- `resolveQueuePushTimed`: waits while the queue is full and not exiting. -/
def endPushJob (s : State) (c : ContextRef) (job : ResolveJob) : Option State :=
  let ctx := s.contexts c
  if ctx.resolveQueue.exiting = true then
    some (endFailure s c ctx [.image job.surface, .fail job.surface .operationFailed]
      .operationFailed)
  else if ctx.resolveQueue.items.length = resolveQueueCapacity then none
  else some (s.setContext c
    { ctx with
      resolveQueue := { ctx.resolveQueue with items := ctx.resolveQueue.items ++ [job] }
      pictureState := .submitted
      phase := .endShared job.decodeStatus })

/-- Is the surface exported, or backed by imported memory? -/
def surfaceShared (s : State) (r : SurfaceRef) : Bool :=
  (s.surfaces r).exported ||
    match (s.surfaces r).backingImage with
    | none => false
    | some i => (s.images i).isExternalBuffer

def endShared (s : State) (c : ContextRef) (status : VAStatus) : Option State :=
  match (s.contexts c).outputTarget with
  | none => some (goto s c (.reset status))
  | some r =>
    if surfaceShared s r = true then some (goto s c .endWaitSurface)
    else some (goto s c (.reset status))

def endWaitSurface (s : State) (c : ContextRef) : Option State :=
  match (s.contexts c).outputTarget with
  | none => some (goto s c .endWaitImage)
  | some r => if surfaceResolved s r = true then some (goto s c .endWaitImage) else none

def endWaitImage (s : State) (c : ContextRef) : Option State :=
  match (s.contexts c).outputTarget with
  | none => some (goto s c .endReadStatus)
  | some r => if imageResolved s r = true then some (goto s c .endReadStatus) else none

def endReadStatus (s : State) (c : ContextRef) : Option State :=
  match (s.contexts c).outputTarget with
  | none => some (goto s c (.reset .success))
  | some r => some (goto s c (.reset (s.surfaces r).completionStatus))

/-! ## Sections shared by the three calls -/

/-- Run the next clearing section. -/
def clearNext (s : State) (c : ContextRef) (todo : List ClearSection) (next : Phase) :
    Option State :=
  match todo with
  | [] => some (goto s c next)
  | section_ :: rest => some (goto (section_.run s) c (.after rest next))

/-- The field updates of `resetPictureBuild`, and the return of the call. -/
def resetPictureBuild (s : State) (c : ContextRef) (status : VAStatus) : State :=
  leave s c
    { s.contexts c with
      buffers := {}
      buffersFailed := false
      inputValidationFailed := false
      renderTarget := none
      displayTarget := none
      pictureState := .idle
      pictureFailure := .success }
    status

/-- The next section of the call in progress on a context. -/
def callStep (s : State) (c : ContextRef) (outcome : Outcome) : Option State :=
  match (s.contexts c).phase with
  | .idle => none
  | .clearing todo next => clearNext s c todo next
  | .reset status => some (resetPictureBuild s c status)
  | .ret status => some (leave s c (s.contexts c) status)
  | .beginWaitSurface r => beginWaitSurface s c r
  | .beginWaitImage r => beginWaitImage s c r
  | .beginRelease r => beginRelease s c r
  | .beginAssign r => beginAssign s c r
  | .assignScan r limit i busyMask => assignScan s c r limit i busyMask
  | .assignWaitSurface r limit owner => assignWaitSurface s c r limit owner
  | .assignWaitImage r limit owner => assignWaitImage s c r limit owner
  | .beginStartImage r => beginStartImage s c r
  | .beginStart r => beginStart s c r
  | .beginInit r => beginInit s c r
  | .renderLoop => renderLoop s c outcome
  | .renderLookup buffer todo found => renderLookup s c buffer found todo
  | .blitLoop processed => blitLoop s c processed outcome
  | .blitWaitSurface src => blitWaitSurface s c src
  | .blitWaitImage src => blitWaitImage s c src
  | .blitCopy src => blitCopy s c src outcome
  | .blitRelease src => blitRelease s c src
  | .blitPublish src => blitPublish s c src
  | .endCreateDecoder => endCreateDecoder s c outcome
  | .endPushContext => endPushContext s c outcome
  | .endDecode => endDecode s c outcome
  | .endPopContext status => endPopContext s c status outcome
  | .handOverStartImage status => handOverStartImage s c status
  | .handOverStart status => handOverStart s c status
  | .handOverFinishImage status => handOverFinishImage s c status
  | .handOverFinish status => handOverFinish s c status
  | .endAllocJob status => endAllocJob s c status outcome
  | .endMakeJob status => endMakeJob s c status
  | .endActiveMask job => endActiveMask s c job
  | .endPushJob job => endPushJob s c job
  | .endShared status => endShared s c status
  | .endWaitSurface => endWaitSurface s c
  | .endWaitImage => endWaitImage s c
  | .endReadStatus => endReadStatus s c

end Driver
end NvidiaVaapi
