import NvidiaVaapi.Codec.AppendableBuffer

/-!
# Slice parameters and slice data

The slice handlers of the codecs other than AV1, with the part of `nvRenderPicture` that calls
them and the helpers of `codec-utils.c`.  A buffer of slice parameters is copied and kept as it
is; a buffer of slice data is cut by the parameters that are kept at that time.
-/

namespace NvidiaVaapi
namespace Slices

open Codec

inductive NVCodec where
  | h264 | hevc | mpeg2 | mpeg4 | vc1 | vp8 | vp9 | jpeg | av1
  deriving DecidableEq, Repr

/-- What the handlers need of the headers of VA-API: the size of the structure of slice
parameters of each codec, of which the first three numbers of 32 bits are the size of the slice,
its offset and a flag, and the size of the first partition that `copyVP8SliceParam` computes. -/
structure VaHeaders where
  sizeof : NVCodec → Nat
  base_le : ∀ codec, 12 ≤ sizeof codec
  vp8FirstPartitionSize : List UInt8 → Nat

/-- `NVBuffer`, as the handlers see it: `ptr` is the memory from its pointer on. -/
structure NVBuffer where
  elements : Nat
  elementSize : Nat
  size : Nat
  ptr : Option (List UInt8)
  size_le : ∀ memory, ptr = some memory → size ≤ memory.length

structure BufferSchema where
  minElementSize : Nat
  minElements : Nat
  maxElements : Nat
  deriving DecidableEq, Repr

/-- `nvValidateBufferSchema`. -/
def nvValidateBufferSchema (buffer : NVBuffer) (schema : BufferSchema) : Bool :=
  !(schema.minElementSize = 0 || buffer.elements < schema.minElements ||
    (schema.maxElements ≠ 0 && buffer.elements > schema.maxElements) ||
    buffer.elementSize < schema.minElementSize ||
    (buffer.elements ≠ 0 && buffer.elementSize > sizeMax / buffer.elements) ||
    buffer.size ≠ buffer.elementSize * buffer.elements ||
    (buffer.size ≠ 0 && buffer.ptr.isNone))

/-- The schema of the slice parameters, the same for each codec up to the structure. -/
def sliceParameterSchema (headers : VaHeaders) (codec : NVCodec) : BufferSchema :=
  ⟨headers.sizeof codec, 1, 0⟩

def sliceDataSchema : BufferSchema :=
  ⟨1, 1, 0⟩

/-- A number of 32 bits in memory, and back. -/
def le32 (n : Nat) : List UInt8 :=
  [UInt8.ofNat n, UInt8.ofNat (n / 2 ^ 8), UInt8.ofNat (n / 2 ^ 16), UInt8.ofNat (n / 2 ^ 24)]

def read32 (bytes : List UInt8) (start : Nat) : Nat :=
  (bytes.getD start 0).toNat + 2 ^ 8 * (bytes.getD (start + 1) 0).toNat +
    2 ^ 16 * (bytes.getD (start + 2) 0).toNat + 2 ^ 24 * (bytes.getD (start + 3) 0).toNat

/-- The bytes of a structure. -/
def structAt (memory : List UInt8) (start sizeof : Nat) : List UInt8 :=
  (memory.drop start).take sizeof

/-- `&((const T *) ctx->lastSliceParams)[i]`. -/
def sliceParameterAt (headers : VaHeaders) (codec : NVCodec) (memory : List UInt8) (i : Nat) :
    List UInt8 :=
  structAt memory (i * headers.sizeof codec) (headers.sizeof codec)

/-- The structures that a handler goes through. -/
def sliceStructs (headers : VaHeaders) (codec : NVCodec) (memory : List UInt8) (count : Nat) :
    List (List UInt8) :=
  (List.range count).map (sliceParameterAt headers codec memory)

/-- What the handlers of slice data use of the parameters of a slice. -/
structure SliceParameter where
  sliceDataSize : Nat
  sliceDataOffset : Nat
  deriving DecidableEq, Repr

def SliceParameter.ofStruct (bytes : List UInt8) : SliceParameter :=
  ⟨read32 bytes 0, read32 bytes 4⟩

/-- The fields of `CUVIDVP8PICPARAMS` that the header of a frame is built from. -/
structure VP8Frame where
  width : Nat := 0
  height : Nat := 0
  keyFrame : Bool := true
  version : Nat := 0
  showFrame : Bool := false
  firstPartitionSize : Nat := 0
  deriving DecidableEq, Repr

/-- The part of `NVContext` and of its `CUVIDPICPARAMS` that these handlers share. -/
structure SliceContext where
  sliceParamsBuffer : AppendableBuffer := {}
  lastSliceParams : Option (List UInt8) := none
  lastSliceParamsCount : Nat := 0
  sliceOffsets : AppendableBuffer := {}
  bitstreamBuffer : AppendableBuffer := {}
  inputValidationFailed : Bool := false
  nNumSlices : Nat := 0
  nBitstreamDataLen : Nat := 0
  vp8 : VP8Frame := {}

/-- The answers of `memalign` for each of the three buffers. -/
structure Heaps where
  sliceParams : Heap
  sliceOffsets : Heap
  bitstream : Heap

namespace SliceContext

variable (ctx : SliceContext)

/-- The slice parameters that are kept. -/
def sliceParams (headers : VaHeaders) (codec : NVCodec) : List (List UInt8) :=
  sliceStructs headers codec (ctx.lastSliceParams.getD []) ctx.lastSliceParamsCount

def slices (headers : VaHeaders) (codec : NVCodec) : List SliceParameter :=
  (ctx.sliceParams headers codec).map SliceParameter.ofStruct

def invalid : SliceContext :=
  { ctx with inputValidationFailed := true }

/-- One of the three buffers could not grow. -/
def outOfMemory : Bool :=
  ctx.bitstreamBuffer.failed || ctx.sliceOffsets.failed || ctx.sliceParamsBuffer.failed

def appendOffset (heaps : Heaps) (offset : Nat) : SliceContext :=
  { ctx with sliceOffsets := (ctx.sliceOffsets.append heaps.sliceOffsets (le32 offset)).1 }

def appendBitstream (heaps : Heaps) (data : List UInt8) : SliceContext :=
  { ctx with bitstreamBuffer := (ctx.bitstreamBuffer.append heaps.bitstream data).1 }

end SliceContext

/-- `nvValidateSliceRange`; `none` is the answer `false`, after which the handler returns. -/
def nvValidateSliceRange (buffer : NVBuffer) (slice : SliceParameter) : Option (List UInt8) :=
  match buffer.ptr with
  | none => none
  | some memory =>
    if slice.sliceDataOffset > buffer.size ∨
        slice.sliceDataSize > buffer.size - slice.sliceDataOffset then none
    else some (structAt memory slice.sliceDataOffset slice.sliceDataSize)

/-- `nvAddCuvidSlices`. -/
def nvAddCuvidSlices (ctx : SliceContext) (count : Nat) : SliceContext :=
  if count > uint32Max ∨ count > uint32Max - ctx.nNumSlices then ctx.invalid
  else { ctx with nNumSlices := ctx.nNumSlices + count }

/-- `nvCanAppendCuvidBitstream`. -/
def nvCanAppendCuvidBitstream (ctx : SliceContext) (additionalBytes : Nat) : Bool :=
  !(ctx.bitstreamBuffer.size > uint32Max || additionalBytes > uint32Max - ctx.bitstreamBuffer.size)

/-- `nvCommitCuvidBitstreamLength`. -/
def nvCommitCuvidBitstreamLength (ctx : SliceContext) : SliceContext :=
  if ctx.bitstreamBuffer.size > uint32Max then ctx.invalid
  else { ctx with nBitstreamDataLen := ctx.bitstreamBuffer.size }

/-- `reserveAdditionalBuffer`; the flag is its result. -/
def reserveAdditionalBuffer (heap : Heap) (buffer : AppendableBuffer) (additional : Nat) :
    AppendableBuffer × Bool :=
  if buffer.size > sizeMax - additional then ({ buffer with failed := true }, false)
  else buffer.reserve heap (buffer.size + additional)

/-- `reserveBufferElements`. -/
def reserveBufferElements (heap : Heap) (buffer : AppendableBuffer) (elements elementSize : Nat) :
    AppendableBuffer × Bool :=
  if elements ≠ 0 ∧ elementSize > sizeMax / elements then ({ buffer with failed := true }, false)
  else reserveAdditionalBuffer heap buffer (elements * elementSize)

/-! ## Slice parameters -/

/-- The handler of slice parameters that most codecs share.  What those of H.264 and VP8 read
of the first structure besides goes to other fields of `CUVIDPICPARAMS`. -/
def copySliceParam (ctx : SliceContext) (buffer : NVBuffer) : SliceContext :=
  nvAddCuvidSlices
    { ctx with lastSliceParams := buffer.ptr, lastSliceParamsCount := buffer.elements }
    buffer.elements

def copyH264SliceParam := copySliceParam
def copyHEVCSliceParam := copySliceParam
def copyMPEG2SliceParam := copySliceParam
def copyMPEG4SliceParam := copySliceParam
def copyVC1SliceParam := copySliceParam
def copyVP9SliceParam := copySliceParam

def copyVP8SliceParam (headers : VaHeaders) (ctx : SliceContext) (buffer : NVBuffer) :
    SliceContext :=
  let first := sliceParameterAt headers .vp8 (buffer.ptr.getD []) 0
  copySliceParam
    { ctx with vp8 := { ctx.vp8 with firstPartitionSize := headers.vp8FirstPartitionSize first } }
    buffer

/-- The slices of a JPEG are counted when the frame is rebuilt. -/
def copyJPEGSliceParam (ctx : SliceContext) (buffer : NVBuffer) : SliceContext :=
  { ctx with lastSliceParams := buffer.ptr, lastSliceParamsCount := buffer.elements }

/-! ## Slice data -/

/-- The first loop of a handler of slice data: every slice is checked, and the bytes are added
up; `none` where it returns. -/
def checkSlices (buffer : NVBuffer) (prefixSize : Nat) :
    List SliceParameter → Nat → SliceContext → SliceContext × Option Nat
  | [], bitstreamBytes, ctx => (ctx, some bitstreamBytes)
  | slice :: rest, bitstreamBytes, ctx =>
    match nvValidateSliceRange buffer slice with
    | none => (ctx.invalid, none)
    | some _ =>
      if bitstreamBytes > sizeMax - prefixSize ∨
          slice.sliceDataSize > sizeMax - bitstreamBytes - prefixSize then
        ({ ctx with bitstreamBuffer := { ctx.bitstreamBuffer with failed := true } }, none)
      else
        checkSlices buffer prefixSize rest (bitstreamBytes + slice.sliceDataSize + prefixSize) ctx

/-- The second loop: the offset, the prefix and the bytes of each slice. -/
def appendSlices (heaps : Heaps) (buffer : NVBuffer) (startCode : List UInt8) :
    List SliceParameter → SliceContext → SliceContext
  | [], ctx => ctx
  | slice :: rest, ctx =>
    let offset := ctx.bitstreamBuffer.size % 2 ^ 32
    let data := structAt (buffer.ptr.getD []) slice.sliceDataOffset slice.sliceDataSize
    let ctx := (ctx.appendOffset heaps offset).appendBitstream heaps startCode
    appendSlices heaps buffer startCode rest (ctx.appendBitstream heaps data)

/-- A handler of slice data that puts a fixed prefix before each slice, and the bytes that it
appended; `none` where it returned before the end. -/
def cutSlices (startCode : List UInt8) (heaps : Heaps) (slices : List SliceParameter)
    (ctx : SliceContext) (buffer : NVBuffer) : SliceContext × Option Nat :=
  match checkSlices buffer startCode.length slices 0 ctx with
  | (ctx, none) => (ctx, none)
  | (ctx, some bitstreamBytes) =>
    if nvCanAppendCuvidBitstream ctx bitstreamBytes = false then (ctx.invalid, none)
    else
      match reserveBufferElements heaps.sliceOffsets ctx.sliceOffsets slices.length 4 with
      | (sliceOffsets, false) => ({ ctx with sliceOffsets }, none)
      | (sliceOffsets, true) =>
        match reserveAdditionalBuffer heaps.bitstream ctx.bitstreamBuffer bitstreamBytes with
        | (bitstreamBuffer, false) => ({ ctx with sliceOffsets, bitstreamBuffer }, none)
        | (bitstreamBuffer, true) =>
          (nvCommitCuvidBitstreamLength (appendSlices heaps buffer startCode slices
            { ctx with sliceOffsets, bitstreamBuffer }), some bitstreamBytes)

/-- 1 as a 24-bit big-endian number. -/
def header : List UInt8 := [0, 0, 1]

def copyH264SliceData (headers : VaHeaders) (heaps : Heaps) (ctx : SliceContext)
    (buffer : NVBuffer) : SliceContext :=
  (cutSlices header heaps (ctx.slices headers .h264) ctx buffer).1

def copyHEVCSliceData (headers : VaHeaders) (heaps : Heaps) (ctx : SliceContext)
    (buffer : NVBuffer) : SliceContext :=
  (cutSlices header heaps (ctx.slices headers .hevc) ctx buffer).1

def copyMPEG2SliceData (headers : VaHeaders) (heaps : Heaps) (ctx : SliceContext)
    (buffer : NVBuffer) : SliceContext :=
  (cutSlices [] heaps (ctx.slices headers .mpeg2) ctx buffer).1

def copyMPEG4SliceData (headers : VaHeaders) (heaps : Heaps) (ctx : SliceContext)
    (buffer : NVBuffer) : SliceContext :=
  (cutSlices [] heaps (ctx.slices headers .mpeg4) ctx buffer).1

def copyVC1SliceData (headers : VaHeaders) (heaps : Heaps) (ctx : SliceContext)
    (buffer : NVBuffer) : SliceContext :=
  (cutSlices [] heaps (ctx.slices headers .vc1) ctx buffer).1

/-- `copyVP9SliceData`; the parser of frame headers answers whether it understood the frame. -/
def copyVP9SliceData (headers : VaHeaders) (heaps : Heaps) (parsed : Bool) (ctx : SliceContext)
    (buffer : NVBuffer) : SliceContext :=
  match cutSlices [] heaps (ctx.slices headers .vp9) ctx buffer with
  | (ctx, none) => ctx
  | (ctx, some frameBytes) =>
    if frameBytes ≤ uint32Max ∧ parsed = false then ctx.invalid else ctx

/-- `nvBuildVP8FrameHeader`, whose width and height have 16 bits; no bytes are its answer 0. -/
def nvBuildVP8FrameHeader (frame : VP8Frame) : List UInt8 :=
  if frame.version > 7 ∨ frame.firstPartitionSize > 0x7ffff ∨
      (frame.keyFrame ∧ (frame.width % 2 ^ 16 > 0x3fff ∨ frame.height % 2 ^ 16 > 0x3fff)) then []
  else
    let frameTag := (if frame.keyFrame then 0 else 1) + frame.version * 2 +
      (if frame.showFrame then 16 else 0) + frame.firstPartitionSize * 32
    let tag := [UInt8.ofNat frameTag, UInt8.ofNat (frameTag / 2 ^ 8), UInt8.ofNat (frameTag / 2 ^ 16)]
    if frame.keyFrame then
      tag ++ [0x9d, 0x01, 0x2a, UInt8.ofNat frame.width, UInt8.ofNat (frame.width / 2 ^ 8),
        UInt8.ofNat frame.height, UInt8.ofNat (frame.height / 2 ^ 8)]
    else tag

/-- The loop of `copyVP8SliceData`; the flag says whether it came to its end. -/
def appendVP8Slices (heaps : Heaps) (buffer : NVBuffer) :
    List SliceParameter → SliceContext → SliceContext × Bool
  | [], ctx => (ctx, true)
  | slice :: rest, ctx =>
    match nvValidateSliceRange buffer slice with
    | none => (ctx.invalid, false)
    | some validatedData =>
      let frameHeader := nvBuildVP8FrameHeader ctx.vp8
      if frameHeader.length = 0 ∨ slice.sliceDataSize > uint32Max - frameHeader.length ∨
          nvCanAppendCuvidBitstream ctx (frameHeader.length + slice.sliceDataSize) = false then
        (ctx.invalid, false)
      else
        let offset := ctx.bitstreamBuffer.size % 2 ^ 32
        let ctx := (ctx.appendOffset heaps offset).appendBitstream heaps frameHeader
        appendVP8Slices heaps buffer rest (ctx.appendBitstream heaps validatedData)

def copyVP8SliceData (headers : VaHeaders) (heaps : Heaps) (ctx : SliceContext)
    (buffer : NVBuffer) : SliceContext :=
  match appendVP8Slices heaps buffer (ctx.slices headers .vp8) ctx with
  | (ctx, false) => ctx
  | (ctx, true) => nvCommitCuvidBitstreamLength ctx

/-- What `reconstructJPEG` makes of the structures of the slices and their data: the bytes of a
frame, or none where it turns them down. -/
abbrev ReconstructJPEG := List (List UInt8) → List UInt8 → Option (List UInt8)

/-- `copyJPEGSliceData`; without `reconstructJPEG` the context of the codec is missing. -/
def copyJPEGSliceData (headers : VaHeaders) (heaps : Heaps)
    (reconstructJPEG : Option ReconstructJPEG) (ctx : SliceContext) (buffer : NVBuffer) :
    SliceContext :=
  match reconstructJPEG with
  | none => if ctx.bitstreamBuffer.failed then ctx else ctx.invalid
  | some reconstruct =>
    if ctx.lastSliceParams = none ∨ ctx.lastSliceParamsCount = 0 then ctx.invalid
    else if buffer.size > uint32Max then ctx.invalid
    else if ctx.bitstreamBuffer.size > uint32Max then ctx.invalid
    else
      match ctx.sliceOffsets.append heaps.sliceOffsets (le32 ctx.bitstreamBuffer.size) with
      | (sliceOffsets, false) => { ctx with sliceOffsets }
      | (sliceOffsets, true) =>
        match reconstruct (ctx.sliceParams headers .jpeg) ((buffer.ptr.getD []).take buffer.size)
          with
        | none => if ctx.bitstreamBuffer.failed then ctx else ctx.invalid
        | some frame =>
          if frame.length > uint32Max ∨ ctx.bitstreamBuffer.size > uint32Max - frame.length then
            if ctx.bitstreamBuffer.failed then ctx else ctx.invalid
          else
            match ctx.bitstreamBuffer.append heaps.bitstream frame with
            | (bitstreamBuffer, false) => { ctx with bitstreamBuffer }
            | (bitstreamBuffer, true) =>
              nvCommitCuvidBitstreamLength
                { ctx with sliceOffsets, bitstreamBuffer, nNumSlices := 1 }

/-! ## The call -/

/-- What the handlers of one buffer are answered: by `memalign`, by the parser of VP9 and by
`reconstructJPEG` with the tables of its context. -/
structure Answers where
  heaps : Heaps
  vp9Parsed : Bool := true
  reconstructJPEG : Option ReconstructJPEG := none

/-- A copy of a buffer has room for its bytes. -/
theorem copied_size_le {heap : Heap} {start copy : AppendableBuffer} {memory : List UInt8}
    {size : Nat} (hcopy : start.clear.append heap (memory.take size) = (copy, true))
    (hsize : size ≤ memory.length) : size ≤ copy.buf.length := by
  have hspec := (AppendableBuffer.append_spec hcopy).2.1
  have hle := copy.size_le
  have htake : (memory.take size).length = size := by
    rw [List.length_take]
    omega
  omega

/-- The copy of the slice parameters that belongs to the context; `none` where there is no
memory for it. -/
def ownSliceParams (heap : Heap) (ctx : SliceContext) (buffer : NVBuffer) :
    Option (NVBuffer × SliceContext) :=
  match hptr : buffer.ptr with
  | none => none
  | some memory =>
    match hcopy : ctx.sliceParamsBuffer.clear.append heap (memory.take buffer.size) with
    | (_, false) => none
    | (copy, true) =>
      some ({ buffer with
          ptr := some copy.buf
          size_le := by
            rintro _ ⟨⟩
            exact copied_size_le hcopy (buffer.size_le memory hptr) },
        { ctx with sliceParamsBuffer := copy })

/-- A buffer of a picture, as far as its handler matters to the slices: the picture parameters
of VP8 describe the frame. -/
inductive DecodeBuffer where
  | sliceParameter (buffer : NVBuffer)
  | sliceData (buffer : NVBuffer)
  | other (vp8 : VP8Frame)

/-- The table of handlers for slice parameters; AV1 has its own. -/
def sliceParameterHandler (headers : VaHeaders) :
    NVCodec → Option (SliceContext → NVBuffer → SliceContext)
  | .h264 => some copyH264SliceParam
  | .hevc => some copyHEVCSliceParam
  | .mpeg2 => some copyMPEG2SliceParam
  | .mpeg4 => some copyMPEG4SliceParam
  | .vc1 => some copyVC1SliceParam
  | .vp8 => some (copyVP8SliceParam headers)
  | .vp9 => some copyVP9SliceParam
  | .jpeg => some copyJPEGSliceParam
  | .av1 => none

/-- The table of handlers for slice data. -/
def sliceDataHandler (headers : VaHeaders) (answers : Answers) :
    NVCodec → Option (SliceContext → NVBuffer → SliceContext)
  | .h264 => some (copyH264SliceData headers answers.heaps)
  | .hevc => some (copyHEVCSliceData headers answers.heaps)
  | .mpeg2 => some (copyMPEG2SliceData headers answers.heaps)
  | .mpeg4 => some (copyMPEG4SliceData headers answers.heaps)
  | .vc1 => some (copyVC1SliceData headers answers.heaps)
  | .vp8 => some (copyVP8SliceData headers answers.heaps)
  | .vp9 => some (copyVP9SliceData headers answers.heaps answers.vp9Parsed)
  | .jpeg => some (copyJPEGSliceData headers answers.heaps answers.reconstructJPEG)
  | .av1 => none

/-- What `nvRenderPictureImpl` checks after a handler. -/
def accepted (ctx : SliceContext) : Option SliceContext :=
  if ctx.inputValidationFailed ∨ ctx.outOfMemory then none else some ctx

/-- One round of the loop of `nvRenderPictureImpl`; `none` where it returns an error, after
which the picture is not decoded. -/
def renderBuffer (headers : VaHeaders) (codec : NVCodec) (answers : Answers) (ctx : SliceContext) :
    DecodeBuffer → Option SliceContext
  | .sliceParameter buffer => do
    let handler ← sliceParameterHandler headers codec
    if buffer.ptr.isNone ∨
        nvValidateBufferSchema buffer (sliceParameterSchema headers codec) = false then none
    else
      let (ownedBuffer, ctx) ← ownSliceParams answers.heaps.sliceParams ctx buffer
      accepted (handler ctx ownedBuffer)
  | .sliceData buffer => do
    let handler ← sliceDataHandler headers answers codec
    if buffer.ptr.isNone ∨ nvValidateBufferSchema buffer sliceDataSchema = false then none
    else accepted (handler ctx buffer)
  | .other vp8 =>
    accepted { ctx with vp8 := { vp8 with firstPartitionSize := ctx.vp8.firstPartitionSize } }

/-- The buffers of a picture, over any number of calls of `nvRenderPicture`. -/
def renderBuffers (headers : VaHeaders) (codec : NVCodec) :
    List (Answers × DecodeBuffer) → SliceContext → Option SliceContext
  | [], ctx => some ctx
  | (answers, buffer) :: rest, ctx =>
    (renderBuffer headers codec answers ctx buffer).bind (renderBuffers headers codec rest)

end Slices
end NvidiaVaapi
