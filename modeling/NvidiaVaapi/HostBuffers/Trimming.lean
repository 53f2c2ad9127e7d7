import Mathlib.Data.List.Induction
import NvidiaVaapi.HostBuffers.BufferCalls

/-!
# Trimming of the host buffers

`maybeTrimContextHostBuffers` shrinks the buffers of a context that have been too large for
some frames.  One counter serves the three buffers: it counts the frames in which any of them
is underused.
-/

namespace NvidiaVaapi
namespace HostBuffers

open Codec Slices

/-- The host buffers of a context. -/
inductive HostBuffer where
  | bitstreamBuffer | sliceOffsets | sliceParamsBuffer
  deriving DecidableEq, Repr

/-- `NVD_HOST_BUFFER_TRIM_THRESHOLD_BYTES` and `NVD_HOST_BUFFER_TRIM_FRAMES`. -/
structure TrimConfig where
  hostBufferTrimThresholdBytes : UInt64
  hostBufferTrimFrames : UInt32

/-- The buffers of `NVContext`, and the counter. -/
structure HostContext where
  bitstreamBuffer : AppendableBuffer := {}
  sliceOffsets : AppendableBuffer := {}
  sliceParamsBuffer : AppendableBuffer := {}
  hostBufferUnderuseFrames : Nat := 0

def HostContext.buffer (ctx : HostContext) : HostBuffer → AppendableBuffer
  | .bitstreamBuffer => ctx.bitstreamBuffer
  | .sliceOffsets => ctx.sliceOffsets
  | .sliceParamsBuffer => ctx.sliceParamsBuffer

def hostBufferIsUnderused (buffer : AppendableBuffer) (used threshold : Nat) : Bool :=
  threshold ≠ 0 && buffer.allocated > threshold && used ≤ buffer.allocated / 4

/-- The floor of a trimmed capacity. -/
def trimFloor (threshold : Nat) : Nat :=
  let floor64 := threshold / 8
  let floor64 := if floor64 < 256 then 256 else floor64
  if floor64 > sizeMax then sizeMax else floor64

def hostBufferTrimTarget (used threshold : Nat) : Nat :=
  let target := if used ≤ sizeMax / 2 then used * 2 else used
  if target < trimFloor threshold then trimFloor threshold else target

/-- The part of the call for one of the buffers, where they are trimmed. -/
def trimUnderused (heap : Heap) (buffer : AppendableBuffer) (used threshold : Nat) :
    AppendableBuffer :=
  if hostBufferIsUnderused buffer used threshold then
    (trimBuffer heap buffer (hostBufferTrimTarget used threshold)).1
  else buffer

/-- `maybeTrimContextHostBuffers`; `heaps` answers for each of the buffers. -/
def maybeTrimContextHostBuffers (config : TrimConfig) (heaps : HostBuffer → Heap)
    (nvCtx : HostContext) (bitstreamBytes sliceOffsetBytes sliceParamBytes : Nat) : HostContext :=
  let threshold := config.hostBufferTrimThresholdBytes.toNat
  let bitstreamUnderused := hostBufferIsUnderused nvCtx.bitstreamBuffer bitstreamBytes threshold
  let offsetsUnderused := hostBufferIsUnderused nvCtx.sliceOffsets sliceOffsetBytes threshold
  let paramsUnderused := hostBufferIsUnderused nvCtx.sliceParamsBuffer sliceParamBytes threshold
  if !bitstreamUnderused && !offsetsUnderused && !paramsUnderused then
    { nvCtx with hostBufferUnderuseFrames := 0 }
  else
    let frames :=
      if nvCtx.hostBufferUnderuseFrames < uint32Max then nvCtx.hostBufferUnderuseFrames + 1
      else nvCtx.hostBufferUnderuseFrames
    if config.hostBufferTrimFrames.toNat ≠ 0 ∧ frames < config.hostBufferTrimFrames.toNat then
      { nvCtx with hostBufferUnderuseFrames := frames }
    else
      { bitstreamBuffer :=
          trimUnderused (heaps .bitstreamBuffer) nvCtx.bitstreamBuffer bitstreamBytes threshold
        sliceOffsets :=
          trimUnderused (heaps .sliceOffsets) nvCtx.sliceOffsets sliceOffsetBytes threshold
        sliceParamsBuffer :=
          trimUnderused (heaps .sliceParamsBuffer) nvCtx.sliceParamsBuffer sliceParamBytes
            threshold
        hostBufferUnderuseFrames := 0 }

/-- The calls that build a picture. -/
def BufferCall.builds : BufferCall → Bool
  | .trim _ | .free => false
  | _ => true

/-- A picture that is submitted: the calls on each buffer since the one before, and the answers
of `memalign` when it ends. -/
structure Frame where
  calls : HostBuffer → List (Heap × BufferCall)
  heaps : HostBuffer → Heap
  calls_build : ∀ b, ∀ call ∈ calls b, call.2.builds = true

/-- What `maybeTrimContextHostBuffers` finds at the end of a frame, what the frame has used, and
what it leaves. -/
structure FrameRecord where
  start : HostContext
  before : HostContext
  used : HostBuffer → Nat
  after : HostContext

/-- A run of a context; the latest frame comes first. -/
structure Run where
  ctx : HostContext := {}
  records : List FrameRecord := []

/-- The buffers when the picture is complete. -/
def HostContext.build (ctx : HostContext) (frame : Frame) : HostContext :=
  { ctx with
    bitstreamBuffer := (performAll ctx.bitstreamBuffer (frame.calls .bitstreamBuffer)).1
    sliceOffsets := (performAll ctx.sliceOffsets (frame.calls .sliceOffsets)).1
    sliceParamsBuffer := (performAll ctx.sliceParamsBuffer (frame.calls .sliceParamsBuffer)).1 }

/-- The end of `nvEndPictureImpl`, for a picture that the decoder is given: the sizes are kept
aside, and two of the buffers are emptied before they are trimmed. -/
def endFrame (config : TrimConfig) (ctx : HostContext) (frame : Frame) : FrameRecord :=
  let built := ctx.build frame
  let used := fun b => (built.buffer b).size
  let before :=
    { built with
      bitstreamBuffer := built.bitstreamBuffer.clear
      sliceOffsets := built.sliceOffsets.clear }
  { start := ctx
    before := before
    used := used
    after := maybeTrimContextHostBuffers config frame.heaps before (used .bitstreamBuffer)
      (used .sliceOffsets) (used .sliceParamsBuffer) }

def Run.step (config : TrimConfig) (run : Run) (frame : Frame) : Run :=
  let record := endFrame config run.ctx frame
  ⟨record.after, record :: run.records⟩

def runFrames (config : TrimConfig) (frames : List Frame) : Run :=
  frames.foldl (Run.step config) {}

/-! ## What is asked of a run -/

namespace FrameRecord

variable (record : FrameRecord) (config : TrimConfig) (b : HostBuffer)

/-- The buffer is above the threshold, and at most a quarter of it is used. -/
def underused : Bool :=
  hostBufferIsUnderused (record.before.buffer b) (record.used b)
    config.hostBufferTrimThresholdBytes.toNat

/-- The buffer is smaller than it was in the frame. -/
def shrinks : Prop :=
  (record.after.buffer b).allocated < (record.start.buffer b).allocated ∨
    (record.after.buffer b).allocated < (record.before.buffer b).allocated

end FrameRecord

/-- A buffer that shrinks has been underused for the frames that are configured, up to this one;
it keeps room for twice what is used, and its contents. -/
structure SustainedTrim (config : TrimConfig) (record : FrameRecord) (past : List FrameRecord)
    (b : HostBuffer) : Prop where
  underused : ∀ i < config.hostBufferTrimFrames.toNat, ∃ earlier : FrameRecord,
    (record :: past)[i]? = some earlier ∧ earlier.underused config b = true
  now : record.underused config b = true
  capacity : max (2 * record.used b) (trimFloor config.hostBufferTrimThresholdBytes.toNat) ≤
    (record.after.buffer b).allocated
  contents : (record.after.buffer b).bytes = (record.before.buffer b).bytes

/-- Every frame of a run shrinks a buffer only after sustained underuse of that buffer. -/
def TrimsSustained (config : TrimConfig) (records : List FrameRecord) : Prop :=
  ∀ record past, (record :: past) <:+ records → ∀ b, record.shrinks b →
    SustainedTrim config record past b

/-- No buffer becomes underused in a frame that continues the count of another one. -/
def CountsTogether (config : TrimConfig) (records : List FrameRecord) : Prop :=
  ∀ record past, (record :: past) <:+ records → record.before.hostBufferUnderuseFrames ≠ 0 →
    ∀ b, record.underused config b = true →
      ∃ previous, past.head? = some previous ∧ previous.underused config b = true

/-! ## A frame -/

/-- A reservation does not make the block smaller. -/
theorem le_allocated_reserve (heap : Heap) (buffer : AppendableBuffer) (required : Nat) :
    buffer.allocated ≤ (buffer.reserve heap required).1.allocated := by
  unfold AppendableBuffer.reserve
  simp only
  split
  · exact Nat.le_refl _
  · split
    · rw [allocated_move]
      have hgrown := le_grownCapacity buffer.allocated required
      omega
    · exact Nat.le_refl _

theorem le_allocated_reserveAdditional (heap : Heap) (buffer : AppendableBuffer)
    (additional : Nat) :
    buffer.allocated ≤ (reserveAdditionalBuffer heap buffer additional).1.allocated := by
  unfold reserveAdditionalBuffer
  split
  · exact Nat.le_refl _
  · exact le_allocated_reserve heap buffer _

theorem le_allocated_append (heap : Heap) (buffer : AppendableBuffer) (data : List UInt8) :
    buffer.allocated ≤ (buffer.append heap data).1.allocated := by
  have hreserved := le_allocated_reserve heap buffer (buffer.size + data.length)
  unfold AppendableBuffer.append
  split
  · exact Nat.le_refl _
  · split
    · exact Nat.le_refl _
    · split
      · rename_i hreserve
        rw [hreserve] at hreserved
        rw [allocated_write]
        exact hreserved
      · rename_i hreserve
        rw [hreserve] at hreserved
        exact hreserved

/-- What builds a picture does not make a block smaller. -/
theorem le_allocated_perform (heap : Heap) (buffer : AppendableBuffer) {call : BufferCall}
    (hbuilds : call.builds = true) : buffer.allocated ≤ (perform heap buffer call).1.allocated := by
  cases call with
  | reserve required => exact le_allocated_reserve heap buffer _
  | reserveAdditional additional => exact le_allocated_reserveAdditional heap buffer _
  | reserveElements elements elementSize =>
      show _ ≤ (reserveBufferElements heap buffer _ _).1.allocated
      unfold reserveBufferElements
      split
      · exact Nat.le_refl _
      · exact le_allocated_reserveAdditional heap buffer _
  | append data => exact le_allocated_append heap buffer _
  | appendNull size =>
      show _ ≤ (if size = 0 then (buffer, true)
        else ({ buffer with failed := true }, false)).1.allocated
      split <;> exact Nat.le_refl _
  | reset => exact Nat.le_refl _
  | restart => exact Nat.le_refl _
  | trim targetCapacity => cases hbuilds
  | free => cases hbuilds

theorem le_allocated_performAll (calls : List (Heap × BufferCall)) (buffer : AppendableBuffer)
    (hbuild : ∀ call ∈ calls, call.2.builds = true) :
    buffer.allocated ≤ (performAll buffer calls).1.allocated := by
  induction calls generalizing buffer with
  | nil => exact Nat.le_refl _
  | cons first rest ih =>
      obtain ⟨heap, call⟩ := first
      calc
        buffer.allocated ≤ (perform heap buffer call).1.allocated :=
          le_allocated_perform heap buffer (hbuild _ List.mem_cons_self)
        _ ≤ _ := ih _ fun call hcall => hbuild call (List.mem_cons_of_mem _ hcall)

/-- What the end of a frame finds: each buffer has grown at most, is a block of `size_t` bytes
if it was one, and uses no more than it has. -/
structure Built (record : FrameRecord) (b : HostBuffer) : Prop where
  grown : (record.start.buffer b).allocated ≤ (record.before.buffer b).allocated
  fits : (record.start.buffer b).allocated ≤ sizeMax →
    (record.before.buffer b).allocated ≤ sizeMax
  within : (record.before.buffer b).size ≤ record.used b

theorem endFrame_built (config : TrimConfig) (ctx : HostContext) (frame : Frame)
    (b : HostBuffer) : Built (endFrame config ctx frame) b := by
  have hgrown := le_allocated_performAll (frame.calls b) (ctx.buffer b) (frame.calls_build b)
  have hfits : (ctx.buffer b).allocated ≤ sizeMax →
      (performAll (ctx.buffer b) (frame.calls b)).1.allocated ≤ sizeMax :=
    fun h => (performAll_follows _ _ h).2.2
  cases b with
  | bitstreamBuffer => exact ⟨hgrown, hfits, Nat.zero_le _⟩
  | sliceOffsets => exact ⟨hgrown, hfits, Nat.zero_le _⟩
  | sliceParamsBuffer => exact ⟨hgrown, hfits, Nat.le_refl _⟩

/-- The target of a trim has room for the floor and twice what is used. -/
theorem le_hostBufferTrimTarget {used : Nat} (threshold : Nat) (hused : used ≤ sizeMax / 2) :
    max (2 * used) (trimFloor threshold) ≤ hostBufferTrimTarget used threshold := by
  unfold hostBufferTrimTarget
  rw [if_pos hused]
  simp only
  split <;> omega

/-- A trim keeps the bytes in use; where the block gets smaller, it keeps the target. -/
theorem trimBuffer_smaller (heap : Heap) (buffer : AppendableBuffer) (target : Nat) :
    (trimBuffer heap buffer target).1.bytes = buffer.bytes ∧
      (trimBuffer heap buffer target).1.allocated ≤ buffer.allocated ∧
      ((trimBuffer heap buffer target).1.allocated < buffer.allocated →
        target ≤ (trimBuffer heap buffer target).1.allocated) := by
  unfold trimBuffer
  simp only
  have hfloor : target ≤ if target < buffer.size then buffer.size else target := by
    split <;> omega
  generalize (if target < buffer.size then buffer.size else target) = room at hfloor ⊢
  have hsize : buffer.size ≤ buffer.allocated := buffer.size_le
  split
  · exact ⟨rfl, Nat.le_refl _, fun h => absurd h (Nat.lt_irrefl _)⟩
  · split
    · refine ⟨AppendableBuffer.move_bytes .., ?_, fun _ => ?_⟩ <;> rw [allocated_move] <;> omega
    · split
      · refine ⟨AppendableBuffer.move_bytes .., ?_, fun _ => ?_⟩ <;> rw [allocated_move] <;> omega
      · exact ⟨rfl, Nat.le_refl _, fun h => absurd h (Nat.lt_irrefl _)⟩

/-- The counter after a frame in which a buffer is underused. -/
def countedFrames (frames : Nat) : Nat :=
  if frames < uint32Max then frames + 1 else frames

/-- How a frame ends: no buffer is underused, the frame is counted, or the buffers are trimmed. -/
theorem endFrame_cases (config : TrimConfig) (ctx : HostContext) (frame : Frame) :
    let record := endFrame config ctx frame
    ((∀ b, record.underused config b = false) ∧
        record.after = { record.before with hostBufferUnderuseFrames := 0 }) ∨
      (countedFrames ctx.hostBufferUnderuseFrames < config.hostBufferTrimFrames.toNat ∧
        record.after = { record.before with
          hostBufferUnderuseFrames := countedFrames ctx.hostBufferUnderuseFrames }) ∨
      (config.hostBufferTrimFrames.toNat ≤ countedFrames ctx.hostBufferUnderuseFrames ∧
        record.after.hostBufferUnderuseFrames = 0 ∧
        ∀ b, record.after.buffer b = trimUnderused (frame.heaps b) (record.before.buffer b)
          (record.used b) config.hostBufferTrimThresholdBytes.toNat) := by
  intro record
  have hafter : record.after = maybeTrimContextHostBuffers config frame.heaps record.before
      (record.used .bitstreamBuffer) (record.used .sliceOffsets)
      (record.used .sliceParamsBuffer) := rfl
  have hcounter : record.before.hostBufferUnderuseFrames = ctx.hostBufferUnderuseFrames := rfl
  unfold maybeTrimContextHostBuffers at hafter
  rw [hcounter] at hafter
  simp only at hafter
  split at hafter
  · rename_i hnone
    simp only [Bool.and_eq_true, Bool.not_eq_true'] at hnone
    obtain ⟨⟨hbitstream, hoffsets⟩, hparams⟩ := hnone
    refine .inl ⟨fun b => ?_, hafter⟩
    cases b
    · exact hbitstream
    · exact hoffsets
    · exact hparams
  · have hcounted : (if ctx.hostBufferUnderuseFrames < uint32Max then
        ctx.hostBufferUnderuseFrames + 1 else ctx.hostBufferUnderuseFrames) =
          countedFrames ctx.hostBufferUnderuseFrames := rfl
    rw [hcounted] at hafter
    split at hafter
    · rename_i hwaits
      exact .inr (.inl ⟨hwaits.2, hafter⟩)
    · rename_i htrims
      refine .inr (.inr ⟨by omega, by rw [hafter], fun b => ?_⟩)
      rw [hafter]
      cases b <;> rfl

/-- A frame that shrinks a buffer trims it. -/
theorem endFrame_shrinks {config : TrimConfig} {ctx : HostContext} {frame : Frame}
    {b : HostBuffer} (hshrinks : (endFrame config ctx frame).shrinks b) :
    (endFrame config ctx frame).underused config b = true ∧
      config.hostBufferTrimFrames.toNat ≤ ctx.hostBufferUnderuseFrames + 1 ∧
      (endFrame config ctx frame).after.buffer b =
        (trimBuffer (frame.heaps b) ((endFrame config ctx frame).before.buffer b)
          (hostBufferTrimTarget ((endFrame config ctx frame).used b)
            config.hostBufferTrimThresholdBytes.toNat)).1 ∧
      ((endFrame config ctx frame).after.buffer b).allocated <
        ((endFrame config ctx frame).before.buffer b).allocated := by
  have hcases := endFrame_cases config ctx frame
  have hbuilt := endFrame_built config ctx frame b
  simp only at hcases
  generalize endFrame config ctx frame = record at *
  have hsmaller : (record.after.buffer b).allocated < (record.before.buffer b).allocated := by
    have hgrown := hbuilt.grown
    rcases hshrinks with h | h <;> omega
  rcases hcases with ⟨-, hafter⟩ | ⟨-, hafter⟩ | ⟨hcount, -, hafter⟩
  · rw [hafter] at hsmaller
    cases b <;> exact absurd hsmaller (Nat.lt_irrefl _)
  · rw [hafter] at hsmaller
    cases b <;> exact absurd hsmaller (Nat.lt_irrefl _)
  · have hunder : record.underused config b = true := by
      by_contra hidle
      rw [hafter, trimUnderused,
        if_neg (show ¬ hostBufferIsUnderused _ _ _ = true from hidle)] at hsmaller
      exact absurd hsmaller (Nat.lt_irrefl _)
    have htrimmed := hafter b
    rw [trimUnderused, if_pos (show hostBufferIsUnderused _ _ _ = true from hunder)] at htrimmed
    refine ⟨hunder, ?_, htrimmed, hsmaller⟩
    unfold countedFrames at hcount
    split at hcount <;> omega

/-- What a trim leaves of an underused buffer that it makes smaller. -/
theorem endFrame_kept {config : TrimConfig} {ctx : HostContext} {frame : Frame} {b : HostBuffer}
    (hfits : (ctx.buffer b).allocated ≤ sizeMax)
    (hshrinks : (endFrame config ctx frame).shrinks b) :
    max (2 * (endFrame config ctx frame).used b)
        (trimFloor config.hostBufferTrimThresholdBytes.toNat) ≤
      ((endFrame config ctx frame).after.buffer b).allocated ∧
    ((endFrame config ctx frame).after.buffer b).bytes =
      ((endFrame config ctx frame).before.buffer b).bytes := by
  obtain ⟨hunder, -, hafter, hsmaller⟩ := endFrame_shrinks hshrinks
  have hblock := (endFrame_built config ctx frame b).fits hfits
  have hused : (endFrame config ctx frame).used b ≤ sizeMax / 2 := by
    unfold FrameRecord.underused hostBufferIsUnderused at hunder
    simp only [Bool.and_eq_true, decide_eq_true_eq] at hunder
    omega
  obtain ⟨hbytes, -, hroom⟩ := trimBuffer_smaller (frame.heaps b)
    ((endFrame config ctx frame).before.buffer b)
    (hostBufferTrimTarget ((endFrame config ctx frame).used b)
      config.hostBufferTrimThresholdBytes.toNat)
  rw [← hafter] at hbytes hroom
  exact ⟨Nat.le_trans (le_hostBufferTrimTarget _ hused) (hroom hsmaller), hbytes⟩

/-! ## A run -/

/-- What the counter says about the latest frames. -/
structure Counted (config : TrimConfig) (run : Run) : Prop where
  sustained : ∀ last past, run.records = last :: past → ∀ b, last.underused config b = true →
    ∀ i < run.ctx.hostBufferUnderuseFrames, ∃ earlier : FrameRecord,
      run.records[i]? = some earlier ∧ earlier.underused config b = true
  fits : ∀ b, (run.ctx.buffer b).allocated ≤ sizeMax

theorem counted_start (config : TrimConfig) : Counted config {} where
  sustained last past hrecords := by
    cases hrecords
  fits b := by
    cases b <;> exact Nat.zero_le _

/-- An underused buffer of a frame that counts with the others has been underused as long as
the counter says. -/
theorem Counted.next {config : TrimConfig} {run : Run} (hcounted : Counted config run)
    {record : FrameRecord}
    (hbefore : record.before.hostBufferUnderuseFrames = run.ctx.hostBufferUnderuseFrames)
    (htogether : CountsTogether config (record :: run.records)) {b : HostBuffer}
    (hunder : record.underused config b = true) :
    ∀ i < run.ctx.hostBufferUnderuseFrames + 1, ∃ earlier : FrameRecord,
      (record :: run.records)[i]? = some earlier ∧ earlier.underused config b = true := by
  intro i hi
  cases i with
  | zero => exact ⟨record, rfl, hunder⟩
  | succ i =>
      have hrunning : record.before.hostBufferUnderuseFrames ≠ 0 := by omega
      obtain ⟨previous, hhead, hprevious⟩ :=
        htogether record run.records (List.suffix_refl _) hrunning b hunder
      obtain ⟨past, hpast⟩ := List.head?_eq_some_iff.mp hhead
      exact hcounted.sustained previous past hpast b hprevious i (by omega)

/-- The end of a frame makes no buffer larger. -/
theorem endFrame_after_le (config : TrimConfig) (ctx : HostContext) (frame : Frame)
    (b : HostBuffer) : ((endFrame config ctx frame).after.buffer b).allocated ≤
      ((endFrame config ctx frame).before.buffer b).allocated := by
  rcases endFrame_cases config ctx frame with ⟨-, hafter⟩ | ⟨-, hafter⟩ | ⟨-, -, hafter⟩
  · rw [hafter]
    cases b <;> exact Nat.le_refl _
  · rw [hafter]
    cases b <;> exact Nat.le_refl _
  · rw [hafter]
    unfold trimUnderused
    split
    · exact (trimBuffer_smaller ..).2.1
    · exact Nat.le_refl _

theorem Counted.step {config : TrimConfig} {run : Run} (hcounted : Counted config run)
    {frame : Frame} (htogether : CountsTogether config (run.step config frame).records) :
    Counted config (run.step config frame) := by
  have hcases := endFrame_cases config run.ctx frame
  have hfits (b : HostBuffer) : ((run.step config frame).ctx.buffer b).allocated ≤ sizeMax :=
    Nat.le_trans (endFrame_after_le config run.ctx frame b)
      ((endFrame_built config run.ctx frame b).fits (hcounted.fits b))
  refine ⟨fun last past hrecords b hunder i hi => ?_, hfits⟩
  obtain ⟨rfl, rfl⟩ := List.cons.inj hrecords
  have hcounter : (endFrame config run.ctx frame).before.hostBufferUnderuseFrames =
      run.ctx.hostBufferUnderuseFrames := rfl
  apply hcounted.next hcounter htogether hunder
  -- the counter has gone up by one at most
  have hctx : (run.step config frame).ctx = (endFrame config run.ctx frame).after := rfl
  rw [hctx] at hi
  rcases hcases with ⟨-, hafter⟩ | ⟨-, hafter⟩ | ⟨-, hzero, -⟩
  · rw [hafter] at hi
    exact absurd hi (Nat.not_lt_zero _)
  · rw [hafter] at hi
    unfold countedFrames at hi
    dsimp only at hi
    split at hi <;> omega
  · omega

/-- A frame that counts with the others trims after sustained underuse. -/
theorem Counted.sustainedTrim {config : TrimConfig} {run : Run} (hcounted : Counted config run)
    {frame : Frame} (htogether : CountsTogether config (run.step config frame).records)
    {b : HostBuffer} (hshrinks : (endFrame config run.ctx frame).shrinks b) :
    SustainedTrim config (endFrame config run.ctx frame) run.records b := by
  obtain ⟨hunder, hframes, -, -⟩ := endFrame_shrinks hshrinks
  obtain ⟨hroom, hbytes⟩ := endFrame_kept (hcounted.fits b) hshrinks
  refine ⟨fun i hi => ?_, hunder, hroom, hbytes⟩
  exact hcounted.next rfl htogether hunder i (by omega)

theorem CountsTogether.of_suffix {config : TrimConfig} {records records' : List FrameRecord}
    (htogether : CountsTogether config records') (hsuffix : records <:+ records') :
    CountsTogether config records :=
  fun record past h => htogether record past (h.trans hsuffix)

/-- In every run in which no buffer becomes underused while another one is counted, a buffer is
shrunk only after it has been underused itself for the configured number of frames. -/
theorem trimsSustained_of_countsTogether (config : TrimConfig) (frames : List Frame)
    (htogether : CountsTogether config (runFrames config frames).records) :
    TrimsSustained config (runFrames config frames).records := by
  -- induction on the frames, from the latest one: with the property the counter is carried along
  suffices hrun : Counted config (runFrames config frames) ∧
      TrimsSustained config (runFrames config frames).records from hrun.2
  induction frames using List.reverseRecOn with
  | nil => exact ⟨counted_start config, fun record past hnone => absurd hnone (by simp [runFrames])⟩
  | append_singleton frames frame ih =>
      have hlast : runFrames config (frames ++ [frame]) =
          (runFrames config frames).step config frame := List.foldl_concat ..
      rw [hlast] at htogether ⊢
      obtain ⟨hcounted, hearlier⟩ := ih (htogether.of_suffix (List.suffix_cons _ _))
      refine ⟨hcounted.step htogether, fun record past hsuffix b hshrinks => ?_⟩
      rcases List.suffix_cons_iff.mp hsuffix with hwhole | hsuffix
      · obtain ⟨rfl, rfl⟩ := List.cons.inj hwhole
        exact hcounted.sustainedTrim htogether hshrinks
      · exact hearlier record past hsuffix b hshrinks

/-! ## Two buffers -/

/-- The second frame in a row. -/
def twoFrames : TrimConfig :=
  ⟨256, 2⟩

def ready : Heap :=
  ⟨fun _ => true, fun _ => 0⟩

/-- A frame that appends so many bytes to the bitstream and to the slice offsets. -/
def appends (bitstreamBytes sliceOffsetBytes : Nat) (hbitstream : bitstreamBytes ≤ sizeMax)
    (hoffsets : sliceOffsetBytes ≤ sizeMax) : Frame where
  calls
    | .bitstreamBuffer =>
      [(ready, .restart), (ready, .append ⟨List.replicate bitstreamBytes 0, by simpa⟩)]
    | .sliceOffsets =>
      [(ready, .restart), (ready, .append ⟨List.replicate sliceOffsetBytes 0, by simpa⟩)]
    | .sliceParamsBuffer => []
  heaps _ := ready
  calls_build := by
    intro b call hcall
    cases b <;> simp only [List.mem_cons, List.not_mem_nil, or_false] at hcall
    · rcases hcall with rfl | rfl <;> rfl
    · rcases hcall with rfl | rfl <;> rfl

/-- The bitstream has become small when the slice offsets are still in use; both are small in
the last frame. -/
def lateOffsets : List Frame :=
  [appends 300 0 (by decide) (by decide), appends 1 300 (by decide) (by decide),
    appends 1 4 (by decide) (by decide)]

/-- What a record shows of a buffer: the counter, underuse, and the capacity before and after. -/
def FrameRecord.shape (record : FrameRecord) (config : TrimConfig) (b : HostBuffer) :
    Nat × Bool × Nat × Nat :=
  (record.before.hostBufferUnderuseFrames, record.underused config b,
    (record.before.buffer b).allocated, (record.after.buffer b).allocated)

set_option maxRecDepth 20000 in
theorem lateOffsets_shape :
    (runFrames twoFrames lateOffsets).records.map (·.shape twoFrames .sliceOffsets) =
      [(1, true, 384, 256), (0, false, 384, 384), (0, false, 0, 0)] := by
  rfl

/-- The slice offsets are trimmed in the first frame that does not use them. -/
theorem lateOffsets_trimmed :
    ¬ ∀ (config : TrimConfig) (frames : List Frame),
      TrimsSustained config (runFrames config frames).records := by
  intro hclaim
  have hshape := lateOffsets_shape
  have hsustained := hclaim twoFrames lateOffsets
  generalize (runFrames twoFrames lateOffsets).records = records at hshape hsustained
  obtain ⟨record, past, rfl, hrecord, hpast⟩ := List.map_eq_cons_iff.mp hshape
  obtain ⟨previous, rest, rfl, hprevious, -⟩ := List.map_eq_cons_iff.mp hpast
  simp only [FrameRecord.shape, Prod.mk.injEq] at hrecord hprevious
  have hshrinks : record.shrinks .sliceOffsets := by
    right
    omega
  obtain ⟨earlier, hearlier, hunder⟩ :=
    (hsustained record _ (List.suffix_refl _) .sliceOffsets hshrinks).underused 1 (by decide)
  obtain rfl := Option.some.inj hearlier
  rw [hprevious.2.1] at hunder
  cases hunder

/-- A bitstream that stays small, with the other buffers not in use. -/
def smallBitstream : List Frame :=
  [appends 300 0 (by decide) (by decide), appends 1 0 (by decide) (by decide),
    appends 1 0 (by decide) (by decide)]

set_option maxRecDepth 20000 in
theorem smallBitstream_shape :
    (runFrames twoFrames smallBitstream).records.map (fun record =>
      [record.shape twoFrames .bitstreamBuffer, record.shape twoFrames .sliceOffsets,
        record.shape twoFrames .sliceParamsBuffer]) =
      [[(1, true, 384, 256), (1, false, 0, 0), (1, false, 0, 0)],
        [(0, true, 384, 384), (0, false, 0, 0), (0, false, 0, 0)],
        [(0, false, 384, 384), (0, false, 0, 0), (0, false, 0, 0)]] := by
  rfl

theorem smallBitstream_countsTogether :
    CountsTogether twoFrames (runFrames twoFrames smallBitstream).records := by
  have hshape := smallBitstream_shape
  generalize (runFrames twoFrames smallBitstream).records = records at hshape
  obtain ⟨third, past, rfl, hthird, hpast⟩ := List.map_eq_cons_iff.mp hshape
  obtain ⟨second, past, rfl, hsecond, hpast⟩ := List.map_eq_cons_iff.mp hpast
  obtain ⟨first, past, rfl, hfirst, hpast⟩ := List.map_eq_cons_iff.mp hpast
  obtain rfl := List.map_eq_nil_iff.mp hpast
  simp only [FrameRecord.shape, List.cons.injEq, Prod.mk.injEq, and_true] at hthird hsecond hfirst
  intro record past hsuffix hrunning b hunder
  rcases List.suffix_cons_iff.mp hsuffix with hwhole | hsuffix
  · obtain ⟨rfl, rfl⟩ := List.cons.inj hwhole
    refine ⟨second, rfl, ?_⟩
    cases b with
    | bitstreamBuffer => exact hsecond.1.2.1
    | sliceOffsets => simp_all
    | sliceParamsBuffer => simp_all
  · -- the earlier frames do not continue a count
    have hmem : record ∈ [second, first] := hsuffix.subset List.mem_cons_self
    simp only [List.mem_cons, List.not_mem_nil, or_false] at hmem
    rcases hmem with rfl | rfl
    · exact absurd hsecond.1.1 hrunning
    · exact absurd hfirst.1.1 hrunning

theorem smallBitstream_trimmed :
    TrimsSustained twoFrames (runFrames twoFrames smallBitstream).records :=
  trimsSustained_of_countsTogether twoFrames smallBitstream smallBitstream_countsTogether

end HostBuffers
end NvidiaVaapi
