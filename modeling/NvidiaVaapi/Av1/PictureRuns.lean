import NvidiaVaapi.Av1.TileLedger

/-!
# Pictures on one context

What every run of calls keeps: between two pictures the buffers are empty, and no slice
parameters are left.
-/

namespace NvidiaVaapi
namespace Av1

open Codec

/-- A context that has had no picture, with its size and the thresholds of the driver. -/
def newContext (width height hostBufferTrimThresholdBytes hostBufferTrimFrames : Nat) :
    NVContext where
  width := width
  height := height
  hostBufferTrimThresholdBytes := hostBufferTrimThresholdBytes
  hostBufferTrimFrames := hostBufferTrimFrames

/-- Nothing of a picture is left in the buffers. -/
structure Quiet (ctx : NVContext) : Prop where
  bitstream : ctx.bitstreamBuffer.size = 0
  words : ctx.sliceOffsets.words = []
  lastSliceParams : ctx.lastSliceParams = []

theorem quiet_resetPictureBuild (ctx : NVContext) : Quiet (resetPictureBuild ctx) :=
  ⟨rfl, rfl, rfl⟩

/-- The state of the picture stays as the handlers find it. -/
theorem untouched_pictureState : Untouched NVContext.pictureState :=
  ⟨fun _ _ => rfl, fun _ _ => rfl, fun _ _ _ => rfl⟩

theorem untouched_sliceParamsBuffer : Untouched NVContext.sliceParamsBuffer :=
  ⟨fun _ _ => rfl, fun _ _ => rfl, fun _ _ _ => rfl⟩

/-- So they are by the data. -/
theorem appendSliceData_field {β : Type} {field : NVContext → β} (h : Untouched field)
    (hbitstream : ∀ ctx buffer, field { ctx with bitstreamBuffer := buffer } = field ctx)
    (hpicParams : ∀ ctx picParams, field { ctx with pPicParams := picParams } = field ctx)
    (hinvalid : ∀ ctx, field (NVContext.invalid ctx) = field ctx)
    (memory : Memory) (ctx : NVContext) (data : List UInt8) :
    field (appendSliceData memory ctx data) = field ctx := by
  have hcommit (other : NVContext) :
      field (nvCommitCuvidBitstreamLength other) = field other := by
    unfold nvCommitCuvidBitstreamLength
    split
    · exact hinvalid other
    · exact hpicParams other _
  unfold appendSliceData
  simp only
  split
  · rw [h.compact, hcommit]
    exact hbitstream ctx _
  · rw [hcommit]
    exact hbitstream ctx _

theorem appendSliceData_pictureState (memory : Memory) (ctx : NVContext) (data : List UInt8) :
    (appendSliceData memory ctx data).pictureState = ctx.pictureState :=
  appendSliceData_field untouched_pictureState (fun _ _ => rfl) (fun _ _ => rfl) (fun _ => rfl)
    memory ctx data

theorem renderBuffer_pictureState (memory : Memory) (ctx : NVContext) (buffer : NVBuffer) :
    (renderBuffer memory ctx buffer).1.pictureState = ctx.pictureState := by
  cases buffer with
  | refused status => rfl
  | pictureParameter surfaces buf =>
      unfold renderBuffer copyAV1PicParam
      simp only
      split <;> rfl
  | sliceParameter elementSize sliceParams =>
      unfold renderBuffer
      simp only
      split
      · rfl
      · split
        · rfl
        · unfold copyAV1SliceParam
          simp only
          split
          · exact untouched_pictureState.setAV1SliceOffsets _ _ _ _ _
          · rfl
  | sliceData data =>
      unfold renderBuffer copyAV1SliceData
      simp only
      split
      · rfl
      · split
        · rfl
        · split
          · exact appendSliceData_pictureState _ _ _
          · exact (appendSliceData_pictureState _ _ _).trans
              (untouched_pictureState.setAV1SliceOffsets _ _ _ _ _)

theorem renderBuffers_pictureState (ctx : NVContext) (buffers : List (Memory × NVBuffer)) :
    (renderBuffers ctx buffers).1.pictureState = ctx.pictureState := by
  induction buffers generalizing ctx with
  | nil => rfl
  | cons buffer buffers ih =>
      obtain ⟨memory, buffer⟩ := buffer
      have hround := renderBuffer_pictureState memory ctx buffer
      unfold renderBuffers
      split
      · rename_i next hrender
        rw [hrender] at hround
        exact (ih next).trans hround
      · rename_i next status _ hrender
        rw [hrender] at hround
        exact hround

theorem nvRenderPictureImpl_pictureState (refusal : Option VAStatus)
    (buffers : List (Memory × NVBuffer)) (ctx : NVContext) :
    (nvRenderPictureImpl refusal buffers ctx).1.pictureState = ctx.pictureState := by
  cases refusal with
  | some status => rfl
  | none => exact renderBuffers_pictureState ctx buffers

/-- Between two pictures nothing is left. -/
def QuietIdle (ctx : NVContext) : Prop :=
  ctx.pictureState = .idle → Quiet ctx

theorem QuietIdle.call {ctx : NVContext} (h : QuietIdle ctx) (call : PictureCall) :
    QuietIdle (ctx.call call).1 := by
  cases call with
  | beginPicture answer =>
      unfold NVContext.call nvBeginPicture
      simp only
      split
      · exact h
      · split
        · exact fun _ => quiet_resetPictureBuild ctx
        · intro hidle
          cases hidle
  | renderPicture refusal buffers =>
      unfold NVContext.call nvRenderPicture
      simp only
      split
      · exact h
      · rename_i hbuilding
        split
        · intro hidle
          rw [nvRenderPictureImpl_pictureState] at hidle
          rw [hidle] at hbuilding
          exact absurd (by simp) hbuilding
        · intro hidle
          cases hidle
  | endPicture answers memory =>
      unfold NVContext.call nvEndPicture
      simp only
      cases ctx.pictureState with
      | idle => exact h
      | building => exact fun _ => quiet_resetPictureBuild _
      | failed => exact fun _ => quiet_resetPictureBuild _

theorem quietIdle_calls {ctx : NVContext} (h : QuietIdle ctx) (calls : List PictureCall) :
    QuietIdle (ctx.calls calls).1 := by
  induction calls generalizing ctx with
  | nil => exact h
  | cons call calls ih => exact ih (h.call call)

/-- After every run of calls from a new context, a context without a picture is quiet. -/
theorem quiet_of_idle {width height threshold frames : Nat} {history : List PictureCall}
    (hidle : ((newContext width height threshold frames).calls history).1.pictureState = .idle) :
    Quiet ((newContext width height threshold frames).calls history).1 :=
  quietIdle_calls (fun _ => ⟨rfl, rfl, rfl⟩) history hidle

end Av1
end NvidiaVaapi
