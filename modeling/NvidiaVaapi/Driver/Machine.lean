import NvidiaVaapi.Driver.PictureCalls

/-!
# The driver as a transition system

The resolve worker, the two destroy calls that take the object-lifetime lock
exclusively, the synchronising calls of other threads and the remaining entry
points that touch the modelled state, put together into one labelled system in
which every mutex-protected section is one step.
-/

namespace NvidiaVaapi
namespace Driver

/-! ## resolveSurfaces -/

/-- Results of the calls that one step of the worker makes. -/
inductive WorkerOutcome
  | ok
  | failed
  /-- `cuStreamSynchronize` failed as well, so completion is unknown. -/
  | unsafeFailed
  deriving DecidableEq, Repr

def setWorker (s : State) (c : ContextRef) (worker : WorkerPhase) : State :=
  s.setContext c { s.contexts c with worker := worker }

/-- A step of the picture of a job has failed. -/
def recordJobFailure (s : State) (job : ResolveJob) : State :=
  { s with failed := job.picture :: s.failed }

/-- `resolveQueueCancel`: the queue stops accepting items and is emptied. -/
def resolveQueueCancel (ctx : NVContext) : NVContext :=
  { ctx with resolveQueue := { items := [], exiting := true } }

/-- `cuCtxPushCurrent` at the start of `resolveSurfaces`. -/
def workerStart (s : State) (c : ContextRef) : WorkerOutcome → Option State
  | .ok => some (setWorker s c .pop)
  | .failed =>
    some (s.setContext c
      { resolveQueueCancel (s.contexts c) with
        worker := .cancelled (s.contexts c).resolveQueue.items false })
  | _ => none

/-- One section of the loop that fails the cancelled jobs of a worker that did
not start. -/
def workerCancelled (s : State) (c : ContextRef) (jobs : List ResolveJob) (imageDone : Bool) :
    Option State :=
  match jobs, imageDone with
  | [], _ => some (setWorker s c .exited)
  | job :: rest, false =>
    some (setWorker (setSurfaceBackingImageResolving s job.surface false) c
      (.cancelled (job :: rest) true))
  | job :: rest, true =>
    some (setWorker
      (recordJobFailure
        (s.setSurface job.surface ((s.surfaces job.surface).failResolve .operationFailed)) job)
      c (.cancelled rest false))

/-- `resolveQueuePop`, and the release of the decoder once the queue is drained. -/
def workerPop (s : State) (c : ContextRef) (outcome : WorkerOutcome) : Option State :=
  let ctx := s.contexts c
  match ctx.resolveQueue.items with
  | job :: rest =>
    some (s.setContext c
      { ctx with
        resolveQueue := { ctx.resolveQueue with items := rest }
        worker := .popped job })
  | [] =>
    if ctx.resolveQueue.exiting = false then none
    else
      match outcome with
      | .unsafeFailed =>
        some { setWorker s c .exited with cudaWorkUnsafe := true }
      | _ =>
        if s.cudaWorkUnsafe = true then some (setWorker s c .exited)
        else some (s.setContext c { ctx with decoder := none, worker := .exited })

/-- The first `failed` of the loop body, and `cuvidMapVideoFrame`. -/
def workerPopped (s : State) (c : ContextRef) (job : ResolveJob) : WorkerOutcome → Option State
  | .ok =>
    if job.decodeStatus ≠ .success ∨ s.cudaWorkUnsafe = true then
      some (setWorker (recordJobFailure s job) c (.publish job true))
    else some (setWorker s c (.exporting job))
  | .failed => some (setWorker (recordJobFailure s job) c (.publish job true))
  | _ => none

/-- `exportCudaPtr` up to the section that marks the image as being written. -/
def workerExporting (s : State) (c : ContextRef) (job : ResolveJob) :
    WorkerOutcome → Option State
  | .ok =>
    if s.cudaWorkUnsafe = true then
      some (setWorker (recordJobFailure s job) c (.unmapping job true false))
    else
      some (setWorker (setSurfaceBackingImageResolving s job.surface true) c (.copying job))
  | .failed => some (setWorker (recordJobFailure s job) c (.unmapping job true false))
  | _ => none

/-- `copyFrameToSurface`. -/
def workerCopying (s : State) (c : ContextRef) (job : ResolveJob) : WorkerOutcome → Option State
  | .ok => some (setWorker s c (.unmapping job false true))
  | .failed => some (setWorker (recordJobFailure s job) c (.unmapping job true true))
  | _ => none

/-- The synchronisation of a failed export, and `cuvidUnmapVideoFrame`. -/
def workerUnmapping (s : State) (c : ContextRef) (job : ResolveJob) (failed : Bool) :
    WorkerOutcome → Option State
  | .unsafeFailed =>
    if failed = true then
      some (setWorker { s with cudaWorkUnsafe := true } c (.publish job true))
    else none
  | .failed =>
    if s.cudaWorkUnsafe = true then some (setWorker s c (.publish job failed))
    else some (setWorker (recordJobFailure s job) c (.publish job true))
  | .ok => some (setWorker s c (.publish job failed))

/-- The section that compares the generations. -/
def workerPublish (s : State) (c : ContextRef) (job : ResolveJob) (failed : Bool) :
    Option State :=
  let surface := s.surfaces job.surface
  if surface.submittedGeneration = job.generation then
    let decodeFailed := failed || s.cudaWorkUnsafe
    some (setWorker (s.setSurface job.surface { surface with decodeFailed := decodeFailed }) c
      (.clearImage job decodeFailed))
  else some (setWorker s c .pop)

def workerClearImage (s : State) (c : ContextRef) (job : ResolveJob) (failed : Bool) :
    Option State :=
  some (setWorker (setSurfaceBackingImageResolving s job.surface false) c (.clear job failed))

def workerClear (s : State) (c : ContextRef) (job : ResolveJob) : Option State :=
  some (setWorker (s.setSurface job.surface (s.surfaces job.surface).finish) c .pop)

/-- The next section of the worker thread of a context. -/
def workerStep (s : State) (c : ContextRef) (outcome : WorkerOutcome) : Option State :=
  match (s.contexts c).worker with
  | .absent => none
  | .starting => workerStart s c outcome
  | .cancelled jobs imageDone => workerCancelled s c jobs imageDone
  | .pop => workerPop s c outcome
  | .popped job => workerPopped s c job outcome
  | .exporting job => workerExporting s c job outcome
  | .copying job => workerCopying s c job outcome
  | .unmapping job failed _ => workerUnmapping s c job failed outcome
  | .publish job failed => workerPublish s c job failed
  | .clearImage job failed => workerClearImage s c job failed
  | .clear job _ => workerClear s c job
  | .exited => none

/-! ## nvDestroySurfaces and nvDestroyContext -/

/-- Every surface of a valid request leaves the object table at once. -/
def removeSurfaces (s : State) (requested : List SurfaceRef) : State :=
  { s with
    surfaces := fun r =>
      if r ∈ requested then { s.surfaces r with life := .removed } else s.surfaces r }

/-- Entry of `nvDestroySurfaces`: nothing changes when an id is unknown or is
named twice. -/
def nvDestroySurfaces (s : State) (requested : List SurfaceRef) : Option State :=
  if s.lifetimeWriter.isSome ∨ s.lifetimeReaders ≠ [] then none
  else if requested.Nodup ∧ ∀ r ∈ requested, (s.surfaces r).life = .live then
    some { removeSurfaces s requested with
      lifetimeWriter := some (.surfaces requested .waitSurface) }
  else some s

/-- `destroyContext` up to `markContextDestroying`. -/
def nvDestroyContext (s : State) (c : ContextRef) : Option State :=
  let ctx := s.contexts c
  if s.lifetimeWriter.isSome ∨ s.lifetimeReaders ≠ [] then none
  else if ctx.life ≠ .live then some s
  else
    some { s.setContext c { ctx with destroying := true } with
      lifetimeWriter := some (.context c
        (if ctx.resolveThreadStarted = true then .cancel else .decoder)) }

def setWriter (s : State) (call : DestroyCall) : State :=
  { s with lifetimeWriter := some call }

/-- The call returns and gives up the object-lifetime lock. -/
def endWriter (s : State) : State :=
  { s with lifetimeWriter := none }

/-- The next section of `nvDestroySurfaces`. -/
def destroySurfacesStep (s : State) (todo : List SurfaceRef) (stage : DestroySurfaceStage) :
    Option State :=
  match todo, stage with
  | [], _ => some (endWriter s)
  | r :: rest, .waitSurface =>
    if surfaceResolved s r = true then some (setWriter s (.surfaces (r :: rest) .waitImage))
    else none
  | r :: rest, .waitImage =>
    if imageResolved s r = true then some (setWriter s (.surfaces (r :: rest) .release))
    else none
  | r :: rest, .release =>
    (releaseSurfacePictureIndex s r).map fun s' => setWriter s' (.surfaces (r :: rest) .free)
  | r :: rest, .free =>
    some (setWriter
      (s.setSurface r { s.surfaces r with backingImage := none, life := .freed })
      (.surfaces rest .waitSurface))

/-- The next section of `destroyContext`. -/
def destroyContextStep (s : State) (c : ContextRef) (stage : DestroyContextStage)
    (outcome : Outcome) : Option State :=
  let ctx := s.contexts c
  match stage with
  | .cancel =>
    some (setWriter (s.setContext c (resolveQueueCancel ctx))
      (.context c (.cancelled ctx.resolveQueue.items false)))
  | .cancelled [] _ => some (setWriter s (.context c .join))
  | .cancelled (job :: rest) false =>
    some (setWriter (setSurfaceBackingImageResolving s job.surface false)
      (.context c (.cancelled (job :: rest) true)))
  | .cancelled (job :: rest) true =>
    some (setWriter
      (recordJobFailure
        (s.setSurface job.surface ((s.surfaces job.surface).failResolve .operationFailed)) job)
      (.context c (.cancelled rest false)))
  | .join =>
    match outcome with
    | .failed => some (endWriter s)
    | .ok =>
      if ctx.worker = .exited then
        some (setWriter (s.setContext c { ctx with resolveThreadStarted := false })
          (.context c .decoder))
      else none
    | _ => none
  | .decoder =>
    if s.cudaWorkUnsafe = true then some (endWriter s)
    else if ctx.decoder.isNone then some (setWriter s (.context c .release))
    else
      match outcome with
      | .ok =>
        some (setWriter (s.setContext c { ctx with decoder := none }) (.context c .release))
      | .failed => some (endWriter s)
      | .contextFailed => some (endWriter s)
      | _ => none
  | .release =>
    some (setWriter (releaseContextPictureIndices s c) (.context c .delete))
  | .delete =>
    some (endWriter (s.setContext c { ctx with life := .freed }))

/-- The next section of the call that holds the lifetime lock exclusively. -/
def destroyStep (s : State) (outcome : Outcome) : Option State :=
  match s.lifetimeWriter with
  | none => none
  | some (.surfaces todo stage) => destroySurfacesStep s todo stage
  | some (.context c stage) => destroyContextStep s c stage outcome

/-! ## Creation, export and synchronisation -/

/-- `nvCreateSurfaces2` for one surface, at a reference not used so far, with an
imported image if there is one. -/
def createSurface (s : State) (r : SurfaceRef) (format : SurfaceFormat)
    (image : Option ImageRef) : Option State :=
  if s.surfaces r ≠ {} then none
  else some (s.setSurface r { format := format, life := .live, backingImage := image })

/-- `nvCreateContext`; the worker thread of a decode context is started. -/
def nvCreateContext (s : State) (c : ContextRef) (entrypoint : VAEntrypoint)
    (codec : CudaVideoCodec) (format : SurfaceFormat) (renderTargets : Nat) : Option State :=
  if s.lifetimeWriter.isSome ∨ (s.contexts c).life ≠ .absent then none
  else if entrypoint = .videoProc then
    some (s.setContext c { entrypoint := entrypoint, life := .live })
  else
    some (s.setContext c
      { cudaCodec := codec
        decoderFormat := format
        clientRenderTargetCount := renderTargets
        worker := .starting
        resolveThreadStarted := true
        life := .live })

/-- `realiseSurface`, from whichever call needs a backing image; the image is the
driver's own. -/
def realiseSurface (s : State) (r : SurfaceRef) (image : ImageRef) : Option State :=
  if (s.surfaces r).backingImage.isSome ∨ (s.images image).isExternalBuffer = true then none
  else some (s.setSurface r { s.surfaces r with backingImage := some image })

/-- Have the waits and the status read of a synchronising call on the surface
succeeded? -/
def SyncCall.succeeded (call : SyncCall) (r : SurfaceRef) : Bool :=
  match call with
  | .returned surface _ status => surface = r ∧ status = .success
  | _ => false

/-- The last section of `nvExportSurfaceHandle`, some time after the thread has
waited for the surface and read its status. -/
def markExported (s : State) (thread : Nat) (r : SurfaceRef) : Option State :=
  if s.lifetimeWriter.isSome ∨ (s.surfaces r).life ≠ .live ∨
      (s.syncs thread).succeeded r = false then none
  else some (s.setSurface r { s.surfaces r with exported := true })

def setSync (s : State) (thread : Nat) (call : SyncCall) : State :=
  { s with syncs := Function.update s.syncs thread call }

/-- Entry of `nvSyncSurface`. -/
def nvSyncSurface (s : State) (thread : Nat) (r : SurfaceRef) : Option State :=
  if s.lifetimeWriter.isSome ∨ .sync thread ∈ s.lifetimeReaders then none
  else if (s.surfaces r).life ≠ .live then some s
  else
    some { setSync s thread (.waitSurface r) with
      lifetimeReaders := .sync thread :: s.lifetimeReaders }

/-- The next section of `nvSyncSurface`. -/
def syncStep (s : State) (thread : Nat) : Option State :=
  match s.syncs thread with
  | .idle => none
  | .waitSurface r =>
    if surfaceResolved s r = true then
      some (setSync s thread (.waitImage r (s.surfaces r).startedBy))
    else none
  | .waitImage r seen =>
    if imageResolved s r = true then some (setSync s thread (.read r seen)) else none
  | .read r seen =>
    some { setSync s thread (.returned r seen (s.surfaces r).completionStatus) with
      lifetimeReaders := s.lifetimeReaders.filter fun id => id ≠ .sync thread }
  | .returned .. => none

/-! ## The system -/

inductive Label
  | createSurface (r : SurfaceRef) (format : SurfaceFormat) (image : Option ImageRef)
  | createContext (c : ContextRef) (entrypoint : VAEntrypoint) (codec : CudaVideoCodec)
      (format : SurfaceFormat) (renderTargets : Nat)
  | realiseSurface (r : SurfaceRef) (image : ImageRef)
  | markExported (thread : Nat) (r : SurfaceRef)
  /-- A failed completion check outside the modelled calls. -/
  | workUnsafe
  | beginPicture (c : ContextRef) (r : SurfaceRef)
  | renderPicture (c : ContextRef) (argumentsValid : Bool)
  | endPicture (c : ContextRef)
  | call (c : ContextRef) (outcome : Outcome)
  | worker (c : ContextRef) (outcome : WorkerOutcome)
  | destroySurfaces (requested : List SurfaceRef)
  | destroyContext (c : ContextRef)
  | destroy (outcome : Outcome)
  | syncSurface (thread : Nat) (r : SurfaceRef)
  | sync (thread : Nat)
  deriving DecidableEq, Repr

/-- One section of some thread of the driver. -/
def step (s : State) : Label → Option State
  | .createSurface r format image => createSurface s r format image
  | .createContext c entrypoint codec format renderTargets =>
    nvCreateContext s c entrypoint codec format renderTargets
  | .realiseSurface r image => realiseSurface s r image
  | .markExported thread r => markExported s thread r
  | .workUnsafe => some { s with cudaWorkUnsafe := true }
  | .beginPicture c r => nvBeginPicture s c r
  | .renderPicture c argumentsValid => nvRenderPicture s c argumentsValid
  | .endPicture c => nvEndPicture s c
  | .call c outcome => callStep s c outcome
  | .worker c outcome => workerStep s c outcome
  | .destroySurfaces requested => nvDestroySurfaces s requested
  | .destroyContext c => nvDestroyContext s c
  | .destroy outcome => destroyStep s outcome
  | .syncSurface thread r => nvSyncSurface s thread r
  | .sync thread => syncStep s thread

/-- The driver with a given configuration and backing images, before any object
has been created. -/
def driver (config : DriverConfig) (images : ImageRef → BackingImage) :
    LabelledSystem State Label where
  init := { config := config, images := images }
  step := step

end Driver
end NvidiaVaapi
