import NvidiaVaapi.Jpeg.Segments
import NvidiaVaapi.Slices.SliceData

/-!
# The reconstruction of a JPEG

`reconstructJPEG` checks the slices, reserves the worst case of the frame and writes it behind
the bitstream; `copyJPEGSliceData` is its caller.
-/

namespace NvidiaVaapi
namespace Jpeg

open Codec
open Slices (reserveAdditionalBuffer le32)

/-! ## Checks -/

/-- `componentInFrame`. -/
def componentInFrame (pic : PictureParameter) (componentId : UInt8) : Bool :=
  (List.range pic.numComponents.toNat).any fun i => (pic.components i).componentId == componentId

/-- The loop of `validateSliceAndCollectHuffmanUsage` over some components. -/
def collectHuffmanUsage (pic : PictureParameter) (slice : SliceParameter) (components : List Nat)
    (required : HuffmanMasks) : Option HuffmanMasks :=
  components.foldlM (fun required i =>
    let component := slice.components i
    if !componentInFrame pic component.componentSelector then none
    else if component.dcTableSelector > 1 || component.acTableSelector > 1 then none
    else some
      { dc := required.dc ||| tableBit component.dcTableSelector.toNat
        ac := required.ac ||| tableBit component.acTableSelector.toNat }) required

/-- `validateSliceAndCollectHuffmanUsage`. -/
def validateSliceAndCollectHuffmanUsage (pic : PictureParameter) (slice : SliceParameter)
    (required : HuffmanMasks) : Option HuffmanMasks :=
  if slice.numComponents = 0 ∨ slice.numComponents.toNat > maxComponents then none
  else collectHuffmanUsage pic slice (List.range slice.numComponents.toNat) required

/-- What the checks of the slices collect. -/
structure Collected where
  totalEcsSize : Nat := 0
  required : HuffmanMasks := {}

/-- The checks of a slice. -/
def checkSlice (pic : PictureParameter) (sliceDataSize : Nat) (collected : Collected)
    (slice : SliceParameter) : Option Collected :=
  if slice.sliceDataFlag ≠ 0 then none
  else
    match validateSliceAndCollectHuffmanUsage pic slice collected.required with
    | none => none
    | some required =>
      if slice.sliceDataOffset.toNat > sliceDataSize then none
      else if slice.sliceDataSize.toNat > sliceDataSize - slice.sliceDataOffset.toNat then none
      else if sizeMax - collected.totalEcsSize < slice.sliceDataSize.toNat then none
      else some ⟨collected.totalEcsSize + slice.sliceDataSize.toNat, required⟩

/-- The checks of `reconstructJPEG` before it computes the worst case. -/
def checkParameters (jpegCtx : JPEGContext) (slices : List SliceParameter)
    (sliceDataSize : Nat) : Option Collected :=
  if !jpegCtx.hasPicParams || !jpegCtx.hasIQMatrix then none
  else if jpegCtx.picParams.pictureWidth = 0 ∨ jpegCtx.picParams.pictureHeight = 0 then none
  else if jpegCtx.picParams.numComponents = 0 ∨
      jpegCtx.picParams.numComponents.toNat > maxComponents then none
  else
    match getUsedQuantTablesMask jpegCtx.picParams with
    | none => none
    | some usedQuantMask =>
      if jpegCtx.validQuantTablesMask &&& usedQuantMask ≠ usedQuantMask then none
      else if slices.length = 0 then none
      else slices.foldlM (checkSlice jpegCtx.picParams sliceDataSize) {}

/-! ## Frames -/

/-- The headers of two scans are the same. -/
def SliceParameter.sameHeader (slice slice0 : SliceParameter) : Bool :=
  slice.numComponents == slice0.numComponents &&
    (List.range slice.numComponents.toNat).all fun c => slice.components c == slice0.components c

def allSameSOSHeader (slice0 : SliceParameter) (slices : List SliceParameter) : Bool :=
  slices.all fun slice => slice.sameHeader slice0

def allSameRestartInterval (slice0 : SliceParameter) (slices : List SliceParameter) : Bool :=
  slices.all fun slice => slice.restartInterval == slice0.restartInterval

/-- The worst case of a frame, as 64 bits add it up. -/
def maxSize64 (pic : PictureParameter) (sliceCount totalEcsSize : Nat) : Nat :=
  let dqtSize := 4 * (2 + 2 + 1 + 64)
  let sof0Size := 2 + 2 + 1 + 2 + 2 + 1 + pic.numComponents.toNat * 3
  let dhtSize := 2 * ((2 + 2 + 1 + 16 + 12) + (2 + 2 + 1 + 16 + 162))
  let driSize := sliceCount * (2 + 2 + 2)
  let sosSize := sliceCount * (2 + 2 + 1 + 4 * 2 + 3)
  (jfifHeader.length + dqtSize + sof0Size + dhtSize + driSize + sosSize + totalEcsSize + 2) % 2 ^ 64

/-- The Huffman tables of the application, where all that the scans use are there and sound,
or the standard ones. -/
def writeHuffmanTables (jpegCtx : JPEGContext) (required : HuffmanMasks) (frame : Frame) : Frame :=
  if jpegCtx.hasHuffmanTable && jpegCtx.validHuffmanDcMask &&& required.dc == required.dc &&
      jpegCtx.validHuffmanAcMask &&& required.ac == required.ac then
    match writeVAHuffmanTables jpegCtx.huffmanTable required
        ⟨jpegCtx.validHuffmanDcMask, jpegCtx.validHuffmanAcMask⟩ [0, 1] frame with
    | (tmp, true) => tmp
    | (tmp, false) => writeStandardHuffmanTables (frame.rewind tmp)
  else writeStandardHuffmanTables frame

/-- `writeDRI`, where the interval is not `0`. -/
def writeRestartInterval (restartInterval : UInt16) (frame : Frame) : Frame :=
  if restartInterval ≠ 0 then frame.emit (driSegment restartInterval) else frame

/-- The scans, of which `slice0` is the first. -/
def writeScans (slice0 : SliceParameter) (slices : List SliceParameter) (sliceData : List UInt8)
    (frame : Frame) : Frame :=
  let sameRestart := allSameRestartInterval slice0 slices
  let frame := if sameRestart then writeRestartInterval slice0.restartInterval frame else frame
  if allSameSOSHeader slice0 slices then
    slices.foldl (fun frame slice => frame.emit (slice.data sliceData))
      (frame.emit (sosSegment slice0))
  else
    slices.foldl (fun frame slice =>
      let frame := if sameRestart then frame else writeRestartInterval slice.restartInterval frame
      (frame.emit (sosSegment slice)).emit (slice.data sliceData)) frame

/-- `EOI`, unless the frame ends with it. -/
def writeEOI (frame : Frame) : Frame :=
  if [0xff, 0xd9] <:+ frame.bytes then frame else frame.emit [0xff, 0xd9]

/-- What `reconstructJPEG` writes; the flag is `false` where it gives up. -/
def writeFrame (jpegCtx : JPEGContext) (slice0 : SliceParameter) (slices : List SliceParameter)
    (sliceData : List UInt8) (required : HuffmanMasks) : Frame × Bool :=
  match writeDQT jpegCtx.iqMatrix jpegCtx.picParams jpegCtx.validQuantTablesMask
      (({} : Frame).emit jfifHeader) with
  | (frame, false) => (frame, false)
  | (frame, true) =>
    let frame := frame.emit (sof0Segment jpegCtx.picParams)
    let frame := writeHuffmanTables jpegCtx required frame
    (writeEOI (writeScans slice0 slices sliceData frame), true)

/-! ## The output -/

/-- How `reconstructJPEG` ends: it turns the slices down, or has rebuilt a frame of some bytes,
or its writes have left the block. -/
inductive Reconstruction
  | refused (output : AppendableBuffer)
  | rebuilt (output : AppendableBuffer) (outSize : Nat)
  | overrun

/-- Bytes behind those in use. -/
def overwrite (output : AppendableBuffer) (memory : List UInt8) : AppendableBuffer :=
  { output with
    buf := output.bytes ++ memory ++ output.buf.drop (output.size + memory.length)
    size_le := by simp }

/-- `output->size = frameOffset + outSize`. -/
def setSize (output : AppendableBuffer) (size : Nat) (h : size ≤ output.buf.length) :
    AppendableBuffer :=
  { output with size := size, size_le := h }

/-- The end of `reconstructJPEG`, with a frame in a block that was reserved. -/
def finishFrame (output : AppendableBuffer) (frame : Frame) (written : Bool) : Reconstruction :=
  if output.size + frame.extent > output.allocated then .overrun
  else
    let memory := overwrite output (frame.bytes ++ frame.behind)
    if !written then .refused memory
    else if frame.bytes.length > uint32Max then .refused memory
    else if output.size > uint32Max - frame.bytes.length then .refused memory
    else
      .rebuilt (setSize memory (output.size + frame.bytes.length) (by
        simp [memory, overwrite])) frame.bytes.length

/-- `reconstructJPEG`. -/
def reconstructJPEG (heap : Heap) (jpegCtx : JPEGContext) (slices : List SliceParameter)
    (sliceData : List UInt8) (output : AppendableBuffer) : Reconstruction :=
  match checkParameters jpegCtx slices sliceData.length, slices with
  | some collected, slice0 :: _ =>
    let maxSize := maxSize64 jpegCtx.picParams slices.length collected.totalEcsSize
    if maxSize > sizeMax then .refused output
    else
      match reserveAdditionalBuffer heap output maxSize with
      | (output, false) => .refused output
      | (output, true) =>
        let (frame, written) := writeFrame jpegCtx slice0 slices sliceData collected.required
        finishFrame output frame written
  | _, _ => .refused output

/-! ## The handler -/

/-- The part of `NVContext` and of its `CUVIDPICPARAMS` that `copyJPEGSliceData` works on. -/
structure SliceContext where
  codecData : Option JPEGContext := none
  lastSliceParams : Option (List SliceParameter) := none
  sliceOffsets : AppendableBuffer := {}
  bitstreamBuffer : AppendableBuffer := {}
  inputValidationFailed : Bool := false
  nNumSlices : Nat := 0
  nBitstreamDataLen : Nat := 0

def SliceContext.invalid (ctx : SliceContext) : SliceContext :=
  { ctx with inputValidationFailed := true }

/-- A failure that is not one of memory is one of the input. -/
def SliceContext.refuse (ctx : SliceContext) : SliceContext :=
  if ctx.bitstreamBuffer.failed then ctx else ctx.invalid

/-- How `copyJPEGSliceData` ends. -/
inductive Handled
  | failed (ctx : SliceContext)
  | done (ctx : SliceContext)
  | overrun

/-- `nvCommitCuvidBitstreamLength`. -/
def nvCommitCuvidBitstreamLength (ctx : SliceContext) : Handled :=
  if ctx.bitstreamBuffer.size > uint32Max then .failed ctx.invalid
  else .done { ctx with nBitstreamDataLen := ctx.bitstreamBuffer.size }

/-- `sliceOffsets.size -= sizeof(offset)`. -/
def dropOffset (sliceOffsets : AppendableBuffer) : AppendableBuffer :=
  sliceOffsets.shrink (sliceOffsets.size - 4) (Nat.sub_le ..)

/-- `copyJPEGSliceData` for the bytes of a buffer of slice data. -/
def copyJPEGSliceData (offsetsHeap bitstreamHeap : Heap) (ctx : SliceContext)
    (sliceData : List UInt8) : Handled :=
  match ctx.codecData with
  | none => .failed ctx.refuse
  | some jpegCtx =>
    match ctx.lastSliceParams with
    | none => .failed ctx.invalid
    | some slices =>
      if slices.length = 0 then .failed ctx.invalid
      else if sliceData.length > uint32Max then .failed ctx.invalid
      else if ctx.bitstreamBuffer.size > uint32Max then .failed ctx.invalid
      else
        match ctx.sliceOffsets.append offsetsHeap (le32 ctx.bitstreamBuffer.size) with
        | (sliceOffsets, false) => .failed { ctx with sliceOffsets }
        | (sliceOffsets, true) =>
          match reconstructJPEG bitstreamHeap jpegCtx slices sliceData ctx.bitstreamBuffer with
          | .overrun => .overrun
          | .refused bitstreamBuffer =>
            .failed
              { ctx with sliceOffsets := dropOffset sliceOffsets, bitstreamBuffer }.refuse
          | .rebuilt bitstreamBuffer _ =>
            nvCommitCuvidBitstreamLength
              { ctx with sliceOffsets, bitstreamBuffer, nNumSlices := 1 }

end Jpeg
end NvidiaVaapi
