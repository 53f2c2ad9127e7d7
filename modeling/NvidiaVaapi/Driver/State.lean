import NvidiaVaapi.Lib.LabelledSystem
import Mathlib.Data.List.Basic
import Mathlib.Logic.Function.Basic

/-!
# Driver state

The shared state of the driver as far as picture submission reads and writes
it: surfaces, backing images, contexts with their decoder index tables, resolve
queues and worker threads, and the object-lifetime lock.

Objects are named by references.  A reference stands for the pointer and for
the object id, since the object table keeps the two in bijection while the
object is live; a reference is used for one allocation only.

Thread control is explicit.  A context admits one `nvBeginPicture`,
`nvRenderPicture` or `nvEndPicture` call at a time (its `pictureMutex`), so the
program point of that call is a field of the context.  Each program point is
one section between two mutex operations that another thread could observe.
-/

namespace NvidiaVaapi
namespace Driver

abbrev SurfaceRef := Nat
abbrev ContextRef := Nat
abbrev ImageRef := Nat
abbrev DecoderRef := Nat

/-- `NVD_MAX_DECODE_SURFACES`. -/
def nvdMaxDecodeSurfaces : Nat := 32

/-- `RESOLVE_QUEUE_CAPACITY`. -/
def resolveQueueCapacity : Nat := 16

/-- `UINT64_MAX`, where `submittedGeneration` saturates. -/
def uint64Max : Nat := 2 ^ 64 - 1

inductive VAStatus
  | success
  | operationFailed
  | allocationFailed
  | invalidContext
  | invalidSurface
  | invalidBuffer
  | invalidParameter
  | unsupportedBufferType
  | maxNumExceeded
  | decodingError
  deriving DecidableEq, Repr

inductive VAEntrypoint
  | vld
  | videoProc
  deriving DecidableEq, Repr

/-- The codecs of the `nvd_codecs` table. -/
inductive CudaVideoCodec
  | mpeg2
  | vc1
  | h264
  | hevc
  | jpeg
  | vp8
  | vp9
  | av1
  deriving DecidableEq, Repr

/-- Life of an object: in the object table, taken out of it by a destroy call
that is still running, or freed. -/
inductive ObjectLife
  | absent
  | live
  | removed
  | freed
  deriving DecidableEq, Repr

/-- Which picture: the context it belongs to and its number among the pictures
begun on that context. -/
structure Picture where
  context : ContextRef
  serial : Nat
  deriving DecidableEq, Repr

/-- `cudaVideoSurfaceFormat`, `cudaVideoChromaFormat` and the bit depth. -/
structure SurfaceFormat where
  format : Nat
  chromaFormat : Nat
  bitDepth : Nat
  deriving DecidableEq, Repr

/-- `NVSurface`.  `startedBy` is not a field of the source: it records which
picture started the generation counted by `submittedGeneration`, is written
with it and is read by no step. -/
structure NVSurface where
  life : ObjectLife := .absent
  format : SurfaceFormat := ⟨0, 0, 8⟩
  pictureIdx : Int := -1
  context : Option ContextRef := none
  contextId : Option ContextRef := none
  progressiveFrame : Bool := false
  topFieldFirst : Bool := false
  secondField : Bool := false
  backingImage : Option ImageRef := none
  resolving : Bool := false
  decodeFailed : Bool := false
  exported : Bool := false
  submittedGeneration : Nat := 0
  completedGeneration : Nat := 0
  completionStatus : VAStatus := .success
  startedBy : Option Picture := none
  deriving DecidableEq, Repr

/-- The synchronisation part of `BackingImage`. -/
structure BackingImage where
  syncInitialized : Bool := true
  resolving : Bool := false
  isExternalBuffer : Bool := false
  borrowedBackingImage : Option ImageRef := none
  deriving DecidableEq, Repr

/-- `ResolveJob`.  `picture` and `handedOver` are not fields of the source: they
record the picture that created the job and whether its output is a film-grain
display target. -/
structure ResolveJob where
  surface : SurfaceRef
  decoder : Option DecoderRef
  generation : Nat
  pictureIdx : Int
  progressiveFrame : Bool
  topFieldFirst : Bool
  secondField : Bool
  decodeStatus : VAStatus
  picture : Picture
  handedOver : Bool
  deriving DecidableEq, Repr

/-- `ResolveQueue`: the items between `readIdx` and `writeIdx`, oldest first. -/
structure ResolveQueue where
  items : List ResolveJob := []
  exiting : Bool := false
  deriving DecidableEq, Repr

/-- `VAPictureH264`: the surface named and whether `VA_PICTURE_H264_INVALID` is set. -/
structure VAPictureH264 where
  pictureId : SurfaceRef
  invalid : Bool
  deriving DecidableEq, Repr

/-- The reference pictures of a picture-parameter buffer, codec by codec. -/
inductive PictureReferences
  | mpeg2 (forwardReferencePicture backwardReferencePicture : SurfaceRef)
  | vc1 (forwardReferencePicture backwardReferencePicture : SurfaceRef)
  | h264 (referenceFrames : List VAPictureH264)
  | hevc (referenceFrames : List SurfaceRef)
  | jpeg
  | vp8 (lastRefFrame goldenRefFrame altRefFrame : SurfaceRef)
  | vp9 (referenceFrames : List SurfaceRef) (lastRefFrame goldenRefFrame altRefFrame : Nat)
  | av1 (refFrameMap : List SurfaceRef)
  deriving DecidableEq, Repr

/-- A picture-parameter buffer as its handler reads it: the references, the
outcome of the checks made before any reference is looked up, and the fields
that later steps use. -/
structure PictureParameterBuffer where
  references : PictureReferences
  accepted : Bool := true
  progressiveFrame : Bool := true
  bottomFieldFlag : Bool := false
  secondField : Bool := false
  decodeSurfaceReferenceHint : Nat := 0
  tiles : Nat := 0
  applyGrain : Bool := false
  currentDisplayPicture : SurfaceRef := 0
  deriving DecidableEq, Repr

/-- The decoder indices of `CUVIDPICPARAMS`, with the surface the application
named for each reference entry. -/
structure CuvidPicParams where
  currPicIdx : Int := 0
  decodePicIdx : Int := 0
  references : List (Option SurfaceRef × Int) := []
  nNumSlices : Nat := 0
  bottomFieldFlag : Bool := false
  secondField : Bool := false
  deriving DecidableEq, Repr

/-- The sizes of the host buffers `bitstreamBuffer`, `sliceOffsets` and
`sliceParamsBuffer`. -/
structure HostBuffers where
  bitstream : Nat := 0
  sliceOffsets : Nat := 0
  sliceParams : Nat := 0
  deriving DecidableEq, Repr

/-- `NVDPictureState`. -/
inductive NVDPictureState
  | idle
  | building
  | failed
  | submitted
  deriving DecidableEq, Repr

/-- The mutex-protected sections that end a generation of a surface. -/
inductive ClearSection
  /-- `setSurfaceBackingImageResolving(surface, false)`. -/
  | image (surface : SurfaceRef)
  /-- The surface section of `setSurfaceResolving(surface, false)`. -/
  | finish (surface : SurfaceRef)
  /-- The surface section of `failSurfaceResolve(surface, status)`. -/
  | fail (surface : SurfaceRef) (status : VAStatus)
  deriving DecidableEq, Repr

/-- Program points of the API call in progress on a context. -/
inductive Phase
  | idle
  | clearing (todo : List ClearSection) (next : Phase)
  | reset (status : VAStatus)
  | ret (status : VAStatus)
  -- nvBeginPictureImpl
  | beginWaitSurface (surface : SurfaceRef)
  | beginWaitImage (surface : SurfaceRef)
  | beginRelease (surface : SurfaceRef)
  | beginAssign (surface : SurfaceRef)
  | assignScan (surface : SurfaceRef) (limit i : Nat) (busyMask : BitVec 32)
  | assignWaitSurface (surface : SurfaceRef) (limit : Nat) (owner : SurfaceRef)
  | assignWaitImage (surface : SurfaceRef) (limit : Nat) (owner : SurfaceRef)
  | beginStartImage (surface : SurfaceRef)
  | beginStart (surface : SurfaceRef)
  | beginInit (surface : SurfaceRef)
  -- nvRenderPictureImpl
  | renderLoop
  | renderLookup (buffer : PictureParameterBuffer) (todo : List (Option SurfaceRef))
      (found : List (Option SurfaceRef × Int))
  | blitLoop (processed : Bool)
  | blitWaitSurface (src : SurfaceRef)
  | blitWaitImage (src : SurfaceRef)
  | blitCopy (src : SurfaceRef)
  | blitRelease (src : SurfaceRef)
  | blitPublish (src : SurfaceRef)
  -- nvEndPictureImpl
  | endCreateDecoder
  | endPushContext
  | endDecode
  | endPopContext (status : VAStatus)
  | handOverStartImage (status : VAStatus)
  | handOverStart (status : VAStatus)
  | handOverFinishImage (status : VAStatus)
  | handOverFinish (status : VAStatus)
  | endAllocJob (status : VAStatus)
  | endMakeJob (status : VAStatus)
  | endActiveMask (job : ResolveJob)
  | endPushJob (job : ResolveJob)
  | endShared (status : VAStatus)
  | endWaitSurface
  | endWaitImage
  | endReadStatus
  deriving DecidableEq, Repr

/-- Program points of `resolveSurfaces`; `copied` tells whether the export got as far as
`copyFrameToSurface`. -/
inductive WorkerPhase
  | absent
  | starting
  | cancelled (jobs : List ResolveJob) (imageDone : Bool)
  | pop
  | popped (job : ResolveJob)
  | exporting (job : ResolveJob)
  | copying (job : ResolveJob)
  | unmapping (job : ResolveJob) (failed copied : Bool)
  | publish (job : ResolveJob) (failed : Bool)
  | clearImage (job : ResolveJob) (failed : Bool)
  | clear (job : ResolveJob) (failed : Bool)
  | exited
  deriving DecidableEq, Repr

/-- `NVContext`.  `picture` is not a field of the source: it counts the calls of
`nvBeginPicture` that passed the state check. -/
structure NVContext where
  life : ObjectLife := .absent
  entrypoint : VAEntrypoint := .vld
  cudaCodec : CudaVideoCodec := .h264
  destroying : Bool := false
  decoder : Option DecoderRef := none
  decoderFormat : SurfaceFormat := ⟨0, 0, 8⟩
  surfaceCount : Nat := 0
  clientRenderTargetCount : Nat := 0
  decodeSurfaceReferenceHint : Nat := 0
  currentPictureId : Nat := 0
  pictureIndexOwners : Nat → Option SurfaceRef := fun _ => none
  activeReferenceMask : BitVec 32 := 0#32
  buildingReferenceMask : BitVec 32 := 0#32
  pictureIndexRecycleCursor : Nat := 0
  resolveThreadStarted : Bool := false
  resolveQueue : ResolveQueue := {}
  worker : WorkerPhase := .absent
  pictureState : NVDPictureState := .idle
  pictureFailure : VAStatus := .success
  renderTarget : Option SurfaceRef := none
  displayTarget : Option SurfaceRef := none
  pPicParams : CuvidPicParams := {}
  av1TileOffsetsSeen : Nat := 0
  inputValidationFailed : Bool := false
  buffersFailed : Bool := false
  buffers : HostBuffers := {}
  phase : Phase := .idle
  result : VAStatus := .success
  picture : Nat := 0

/-- A reader of the object-lifetime lock: the call in progress on a context, or
a synchronising call of another thread. -/
inductive CallId
  | context (c : ContextRef)
  | sync (thread : Nat)
  deriving DecidableEq, Repr

/-- Progress of a call of `nvSyncSurface` (which `nvGetImage` calls and whose
waits and status read `nvExportSurfaceHandle` repeats).  `seen` is the picture
whose generation the call waited for. -/
inductive SyncCall
  | idle
  | waitSurface (surface : SurfaceRef)
  | waitImage (surface : SurfaceRef) (seen : Option Picture)
  | read (surface : SurfaceRef) (seen : Option Picture)
  | returned (surface : SurfaceRef) (seen : Option Picture) (status : VAStatus)
  deriving DecidableEq, Repr

inductive DestroySurfaceStage
  | waitSurface
  | waitImage
  | release
  | free
  deriving DecidableEq, Repr

inductive DestroyContextStage
  | cancel
  | cancelled (jobs : List ResolveJob) (imageDone : Bool)
  | join
  | decoder
  | release
  | delete
  deriving DecidableEq, Repr

/-- The call that holds the object-lifetime lock exclusively. -/
inductive DestroyCall
  | surfaces (todo : List SurfaceRef) (stage : DestroySurfaceStage)
  | context (c : ContextRef) (stage : DestroyContextStage)
  deriving DecidableEq, Repr

/-- The decode-surface settings of `NVDriver`. -/
structure DriverConfig where
  decodeSurfacesOverride : Nat := 0
  decodeSurfacesAuto : Bool := true
  decodeSurfacesMinimum : Nat := 1
  decodeSurfacesMaximum : Nat := 32
  deriving DecidableEq, Repr

/-- The driver.  `failed` is not a field of the source: it lists the pictures one
of whose steps has failed. -/
structure State where
  config : DriverConfig := {}
  surfaces : SurfaceRef → NVSurface := fun _ => {}
  images : ImageRef → BackingImage := fun _ => {}
  contexts : ContextRef → NVContext := fun _ => {}
  cudaWorkUnsafe : Bool := false
  lifetimeReaders : List CallId := []
  lifetimeWriter : Option DestroyCall := none
  syncs : Nat → SyncCall := fun _ => .idle
  failed : List Picture := []

namespace State

def setSurface (s : State) (r : SurfaceRef) (surface : NVSurface) : State :=
  { s with surfaces := Function.update s.surfaces r surface }

def setContext (s : State) (c : ContextRef) (ctx : NVContext) : State :=
  { s with contexts := Function.update s.contexts c ctx }

def setImage (s : State) (i : ImageRef) (image : BackingImage) : State :=
  { s with images := Function.update s.images i image }

section Updates

variable (s : State) (r r' : SurfaceRef) (surface : NVSurface) (c c' : ContextRef)
  (ctx : NVContext) (i : ImageRef) (image : BackingImage)

@[simp] theorem setSurface_surfaces :
    (s.setSurface r surface).surfaces r' = if r' = r then surface else s.surfaces r' := by
  simp [setSurface, Function.update_apply]

@[simp] theorem setSurface_contexts : (s.setSurface r surface).contexts = s.contexts := rfl
@[simp] theorem setSurface_images : (s.setSurface r surface).images = s.images := rfl
@[simp] theorem setSurface_syncs : (s.setSurface r surface).syncs = s.syncs := rfl
@[simp] theorem setSurface_failed : (s.setSurface r surface).failed = s.failed := rfl
@[simp] theorem setSurface_config : (s.setSurface r surface).config = s.config := rfl
@[simp] theorem setSurface_cudaWorkUnsafe :
    (s.setSurface r surface).cudaWorkUnsafe = s.cudaWorkUnsafe := rfl
@[simp] theorem setSurface_lifetimeReaders :
    (s.setSurface r surface).lifetimeReaders = s.lifetimeReaders := rfl
@[simp] theorem setSurface_lifetimeWriter :
    (s.setSurface r surface).lifetimeWriter = s.lifetimeWriter := rfl

@[simp] theorem setContext_contexts :
    (s.setContext c ctx).contexts c' = if c' = c then ctx else s.contexts c' := by
  simp [setContext, Function.update_apply]

@[simp] theorem setContext_surfaces : (s.setContext c ctx).surfaces = s.surfaces := rfl
@[simp] theorem setContext_images : (s.setContext c ctx).images = s.images := rfl
@[simp] theorem setContext_syncs : (s.setContext c ctx).syncs = s.syncs := rfl
@[simp] theorem setContext_failed : (s.setContext c ctx).failed = s.failed := rfl
@[simp] theorem setContext_config : (s.setContext c ctx).config = s.config := rfl
@[simp] theorem setContext_cudaWorkUnsafe :
    (s.setContext c ctx).cudaWorkUnsafe = s.cudaWorkUnsafe := rfl
@[simp] theorem setContext_lifetimeReaders :
    (s.setContext c ctx).lifetimeReaders = s.lifetimeReaders := rfl
@[simp] theorem setContext_lifetimeWriter :
    (s.setContext c ctx).lifetimeWriter = s.lifetimeWriter := rfl

@[simp] theorem setImage_surfaces : (s.setImage i image).surfaces = s.surfaces := rfl
@[simp] theorem setImage_contexts : (s.setImage i image).contexts = s.contexts := rfl
@[simp] theorem setImage_syncs : (s.setImage i image).syncs = s.syncs := rfl
@[simp] theorem setImage_failed : (s.setImage i image).failed = s.failed := rfl
@[simp] theorem setImage_config : (s.setImage i image).config = s.config := rfl
@[simp] theorem setImage_cudaWorkUnsafe :
    (s.setImage i image).cudaWorkUnsafe = s.cudaWorkUnsafe := rfl
@[simp] theorem setImage_lifetimeReaders :
    (s.setImage i image).lifetimeReaders = s.lifetimeReaders := rfl
@[simp] theorem setImage_lifetimeWriter :
    (s.setImage i image).lifetimeWriter = s.lifetimeWriter := rfl

end Updates

/-- What a replaced context shares with the one before, every context shares. -/
theorem kept_setContext {α : Sort*} {s t : State} {c : ContextRef} {ctx : NVContext}
    (f : NVContext → α) (hcontexts : t.contexts = (s.setContext c ctx).contexts)
    (hkept : f ctx = f (s.contexts c)) (d : ContextRef) : f (t.contexts d) = f (s.contexts d) := by
  rw [hcontexts]
  by_cases hd : d = c
  · subst hd
    simpa using hkept
  · simp [hd]

end State

end Driver
end NvidiaVaapi
