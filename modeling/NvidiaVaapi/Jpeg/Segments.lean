import Mathlib.Algebra.GroupWithZero.Nat
import NvidiaVaapi.Codec.AppendableBuffer

/-!
# The segments of a rebuilt JPEG

VA-API hands over the parameters of a JPEG apart from its entropy coded data.  `jpeg.c` builds
the segments of a frame from them, and writes them one behind the other.
-/

namespace NvidiaVaapi
namespace Jpeg

/-! ## Parameters -/

/-- `JPEG_MAX_COMPONENTS`. -/
def maxComponents : Nat := 4

/-- A component of `VAPictureParameterBufferJPEGBaseline`. -/
structure FrameComponent where
  componentId : UInt8
  hSamplingFactor : UInt8
  vSamplingFactor : UInt8
  quantiserTableSelector : UInt8
  deriving DecidableEq, Repr

/-- `VAPictureParameterBufferJPEGBaseline`. -/
structure PictureParameter where
  pictureWidth : UInt16
  pictureHeight : UInt16
  numComponents : UInt8
  components : Nat → FrameComponent

/-- A component of `VASliceParameterBufferJPEGBaseline`. -/
structure ScanComponent where
  componentSelector : UInt8
  dcTableSelector : UInt8
  acTableSelector : UInt8
  deriving DecidableEq, Repr

/-- `VASliceParameterBufferJPEGBaseline`. -/
structure SliceParameter where
  sliceDataSize : UInt32
  sliceDataOffset : UInt32
  sliceDataFlag : UInt32 := 0
  numComponents : UInt8
  components : Nat → ScanComponent
  restartInterval : UInt16

/-- A table of `VAHuffmanTableBufferJPEGBaseline`. -/
structure HuffmanTable where
  numDcCodes : Vector UInt8 16
  dcValues : Vector UInt8 12
  numAcCodes : Vector UInt8 16
  acValues : Vector UInt8 162

/-- `JPEGContext`; `iqMatrix` and `huffmanTable` are the tables by their numbers. -/
structure JPEGContext where
  picParams : PictureParameter
  iqMatrix : Nat → Vector UInt8 64
  huffmanTable : Nat → HuffmanTable
  hasPicParams : Bool := false
  hasIQMatrix : Bool := false
  hasHuffmanTable : Bool := false
  validQuantTablesMask : UInt8 := 0
  validHuffmanDcMask : UInt8 := 0
  validHuffmanAcMask : UInt8 := 0

/-- The bit of a table in a mask. -/
def tableBit (table : Nat) : UInt8 :=
  UInt8.ofNat (2 ^ table)

/-! ## The standard tables -/

/-- `jfifHeader`. -/
def jfifHeader : List UInt8 :=
  [0xff, 0xd8, 0xff, 0xe0, 0x00, 0x10, 0x4a, 0x46, 0x49, 0x46, 0x00, 0x01, 0x01, 0x00, 0x00, 0x01,
    0x00, 0x01, 0x00, 0x00]

def dcLuminanceBits : List UInt8 :=
  [0, 1, 5, 1, 1, 1, 1, 1, 1, 0, 0, 0, 0, 0, 0, 0]

def dcLuminanceVals : List UInt8 :=
  [0, 1, 2, 3, 4, 5, 6, 7, 8, 9, 10, 11]

def dcChrominanceBits : List UInt8 :=
  [0, 3, 1, 1, 1, 1, 1, 1, 1, 1, 1, 0, 0, 0, 0, 0]

def dcChrominanceVals : List UInt8 :=
  [0, 1, 2, 3, 4, 5, 6, 7, 8, 9, 10, 11]

def acLuminanceBits : List UInt8 :=
  [0, 2, 1, 3, 3, 2, 4, 3, 5, 5, 4, 4, 0, 0, 1, 125]

def acLuminanceVals : List UInt8 :=
  [0x01, 0x02, 0x03, 0x00, 0x04, 0x11, 0x05, 0x12, 0x21, 0x31, 0x41, 0x06, 0x13, 0x51, 0x61,
    0x07, 0x22, 0x71, 0x14, 0x32, 0x81, 0x91, 0xa1, 0x08, 0x23, 0x42, 0xb1, 0xc1, 0x15, 0x52,
    0xd1, 0xf0, 0x24, 0x33, 0x62, 0x72, 0x82, 0x09, 0x0a, 0x16, 0x17, 0x18, 0x19, 0x1a, 0x25,
    0x26, 0x27, 0x28, 0x29, 0x2a, 0x34, 0x35, 0x36, 0x37, 0x38, 0x39, 0x3a, 0x43, 0x44, 0x45,
    0x46, 0x47, 0x48, 0x49, 0x4a, 0x53, 0x54, 0x55, 0x56, 0x57, 0x58, 0x59, 0x5a, 0x63, 0x64,
    0x65, 0x66, 0x67, 0x68, 0x69, 0x6a, 0x73, 0x74, 0x75, 0x76, 0x77, 0x78, 0x79, 0x7a, 0x83,
    0x84, 0x85, 0x86, 0x87, 0x88, 0x89, 0x8a, 0x92, 0x93, 0x94, 0x95, 0x96, 0x97, 0x98, 0x99,
    0x9a, 0xa2, 0xa3, 0xa4, 0xa5, 0xa6, 0xa7, 0xa8, 0xa9, 0xaa, 0xb2, 0xb3, 0xb4, 0xb5, 0xb6,
    0xb7, 0xb8, 0xb9, 0xba, 0xc2, 0xc3, 0xc4, 0xc5, 0xc6, 0xc7, 0xc8, 0xc9, 0xca, 0xd2, 0xd3,
    0xd4, 0xd5, 0xd6, 0xd7, 0xd8, 0xd9, 0xda, 0xe1, 0xe2, 0xe3, 0xe4, 0xe5, 0xe6, 0xe7, 0xe8,
    0xe9, 0xea, 0xf1, 0xf2, 0xf3, 0xf4, 0xf5, 0xf6, 0xf7, 0xf8, 0xf9, 0xfa]

def acChrominanceBits : List UInt8 :=
  [0, 2, 1, 2, 4, 4, 3, 4, 7, 5, 4, 4, 0, 1, 2, 119]

def acChrominanceVals : List UInt8 :=
  [0x00, 0x01, 0x02, 0x03, 0x11, 0x04, 0x05, 0x21, 0x31, 0x06, 0x12, 0x41, 0x51, 0x07, 0x61,
    0x71, 0x13, 0x22, 0x32, 0x81, 0x08, 0x14, 0x42, 0x91, 0xa1, 0xb1, 0xc1, 0x09, 0x23, 0x33,
    0x52, 0xf0, 0x15, 0x62, 0x72, 0xd1, 0x0a, 0x16, 0x24, 0x34, 0xe1, 0x25, 0xf1, 0x17, 0x18,
    0x19, 0x1a, 0x26, 0x27, 0x28, 0x29, 0x2a, 0x35, 0x36, 0x37, 0x38, 0x39, 0x3a, 0x43, 0x44,
    0x45, 0x46, 0x47, 0x48, 0x49, 0x4a, 0x53, 0x54, 0x55, 0x56, 0x57, 0x58, 0x59, 0x5a, 0x63,
    0x64, 0x65, 0x66, 0x67, 0x68, 0x69, 0x6a, 0x73, 0x74, 0x75, 0x76, 0x77, 0x78, 0x79, 0x7a,
    0x82, 0x83, 0x84, 0x85, 0x86, 0x87, 0x88, 0x89, 0x8a, 0x92, 0x93, 0x94, 0x95, 0x96, 0x97,
    0x98, 0x99, 0x9a, 0xa2, 0xa3, 0xa4, 0xa5, 0xa6, 0xa7, 0xa8, 0xa9, 0xaa, 0xb2, 0xb3, 0xb4,
    0xb5, 0xb6, 0xb7, 0xb8, 0xb9, 0xba, 0xc2, 0xc3, 0xc4, 0xc5, 0xc6, 0xc7, 0xc8, 0xc9, 0xca,
    0xd2, 0xd3, 0xd4, 0xd5, 0xd6, 0xd7, 0xd8, 0xd9, 0xda, 0xe2, 0xe3, 0xe4, 0xe5, 0xe6, 0xe7,
    0xe8, 0xe9, 0xea, 0xf2, 0xf3, 0xf4, 0xf5, 0xf6, 0xf7, 0xf8, 0xf9, 0xfa]

/-! ## Segments -/

/-- `write16be`. -/
def be16 (value : UInt16) : List UInt8 :=
  [(value >>> 8).toUInt8, value.toUInt8]

/-- The segment that `writeDQT` writes for a table. -/
def dqtSegment (iqMatrix : Nat → Vector UInt8 64) (table : Nat) : List UInt8 :=
  [0xff, 0xdb] ++ be16 67 ++ [UInt8.ofNat table] ++ (iqMatrix table).toList

/-- The segment of `writeDRI`. -/
def driSegment (restartInterval : UInt16) : List UInt8 :=
  [0xff, 0xdd] ++ be16 4 ++ be16 restartInterval

/-- A component in the segment of `writeSOF0`. -/
def FrameComponent.bytes (component : FrameComponent) : List UInt8 :=
  [component.componentId, component.hSamplingFactor <<< 4 ||| component.vSamplingFactor,
    component.quantiserTableSelector]

/-- The segment of `writeSOF0`. -/
def sof0Segment (pic : PictureParameter) : List UInt8 :=
  [0xff, 0xc0] ++ be16 (8 + pic.numComponents.toUInt16 * 3) ++ [8] ++ be16 pic.pictureHeight ++
    be16 pic.pictureWidth ++ [pic.numComponents] ++
    (List.range pic.numComponents.toNat).flatMap fun i => (pic.components i).bytes

/-- The segment of `writeDHT`. -/
def dhtSegment (bits vals : List UInt8) (tableClass tableId numVals : Nat) : List UInt8 :=
  [0xff, 0xc4] ++ be16 (UInt16.ofNat (19 + numVals)) ++ [UInt8.ofNat (16 * tableClass + tableId)] ++
    bits ++ vals.take numVals

/-- A component in the segment of `writeSOS`. -/
def ScanComponent.bytes (component : ScanComponent) : List UInt8 :=
  [component.componentSelector, component.dcTableSelector <<< 4 ||| component.acTableSelector]

/-- The segment of `writeSOS`. -/
def sosSegment (slice : SliceParameter) : List UInt8 :=
  [0xff, 0xda] ++ be16 (6 + slice.numComponents.toUInt16 * 2) ++ [slice.numComponents] ++
    ((List.range slice.numComponents.toNat).flatMap fun i => (slice.components i).bytes) ++
    [0, 63, 0]

/-- The entropy coded data of a slice. -/
def SliceParameter.data (slice : SliceParameter) (sliceData : List UInt8) : List UInt8 :=
  (sliceData.drop slice.sliceDataOffset.toNat).take slice.sliceDataSize.toNat

/-! ## Writing -/

/-- A frame that is written: its bytes up to the pointer, and what earlier writes have left
behind it. -/
structure Frame where
  bytes : List UInt8 := []
  behind : List UInt8 := []

namespace Frame

/-- How far the writes have got. -/
def extent (frame : Frame) : Nat :=
  frame.bytes.length + frame.behind.length

/-- Bytes are written at the pointer, which moves behind them. -/
def emit (frame : Frame) (data : List UInt8) : Frame :=
  ⟨frame.bytes ++ data, frame.behind.drop data.length⟩

/-- The pointer goes back to where it was in `frame` before the writes of `tmp`. -/
def rewind (frame tmp : Frame) : Frame :=
  ⟨frame.bytes, (tmp.bytes ++ tmp.behind).drop frame.bytes.length⟩

end Frame

/-- The loop of `getUsedQuantTablesMask` over some components. -/
def usedQuantTables (pic : PictureParameter) (components : List Nat) (mask : UInt8) :
    Option UInt8 :=
  components.foldlM (fun mask i =>
    let tableId := (pic.components i).quantiserTableSelector.toNat
    if tableId ≥ 4 then none else some (mask ||| tableBit tableId)) mask

/-- `getUsedQuantTablesMask`. -/
def getUsedQuantTablesMask (pic : PictureParameter) : Option UInt8 :=
  usedQuantTables pic (List.range pic.numComponents.toNat) 0

/-- The loop of `writeDQT` over some tables; an empty table stops it. -/
def writeQuantTables (iqMatrix : Nat → Vector UInt8 64) (usedMask : UInt8) :
    List Nat → Frame → Frame × Bool
  | [], frame => (frame, true)
  | table :: tables, frame =>
    if usedMask &&& tableBit table = 0 then writeQuantTables iqMatrix usedMask tables frame
    else if ((iqMatrix table).toList.map UInt8.toNat).sum = 0 then (frame, false)
    else writeQuantTables iqMatrix usedMask tables (frame.emit (dqtSegment iqMatrix table))

/-- `writeDQT`; the flag is its result. -/
def writeDQT (iqMatrix : Nat → Vector UInt8 64) (pic : PictureParameter) (validMask : UInt8)
    (frame : Frame) : Frame × Bool :=
  match getUsedQuantTablesMask pic with
  | none => (frame, false)
  | some usedMask =>
    if validMask &&& usedMask ≠ usedMask then (frame, false)
    else writeQuantTables iqMatrix usedMask [0, 1, 2, 3] frame

/-- `writeStandardHuffmanTables`. -/
def writeStandardHuffmanTables (frame : Frame) : Frame :=
  (((frame.emit (dhtSegment dcLuminanceBits dcLuminanceVals 0 0 12)).emit
    (dhtSegment dcChrominanceBits dcChrominanceVals 0 1 12)).emit
    (dhtSegment acLuminanceBits acLuminanceVals 1 0 162)).emit
    (dhtSegment acChrominanceBits acChrominanceVals 1 1 162)

/-- `countHuffValues`. -/
def countHuffValues (codes : List UInt8) (maxVals : Nat) : Option Nat :=
  codes.foldlM (fun sum code =>
    if sum + code.toNat > maxVals then none else some (sum + code.toNat)) 0

/-- What `writeVAHuffmanTables` does for a table of a class with room for `maxVals` values; the
flag is `false` where it returns. -/
def writeVAHuffmanTable (codes vals : List UInt8) (maxVals tableClass tableIdx : Nat)
    (requiredMask validMask : UInt8) (frame : Frame) : Frame × Bool :=
  if requiredMask &&& tableBit tableIdx = 0 then (frame, true)
  else if validMask &&& tableBit tableIdx = 0 then (frame, false)
  else
    match countHuffValues codes maxVals with
    | none => (frame, false)
    | some numValues =>
      if numValues = 0 then (frame, false)
      else (frame.emit (dhtSegment codes vals tableClass tableIdx numValues), true)

/-- The tables for the coefficients of a kind that the scans use, and those that are there. -/
structure HuffmanMasks where
  dc : UInt8 := 0
  ac : UInt8 := 0

/-- The loop of `writeVAHuffmanTables` over some tables. -/
def writeVAHuffmanTables (huffman : Nat → HuffmanTable) (required valid : HuffmanMasks) :
    List Nat → Frame → Frame × Bool
  | [], frame => (frame, true)
  | tableIdx :: tables, frame =>
    match writeVAHuffmanTable (huffman tableIdx).numDcCodes.toList
        (huffman tableIdx).dcValues.toList 12 0 tableIdx required.dc valid.dc frame with
    | (frame, false) => (frame, false)
    | (frame, true) =>
      match writeVAHuffmanTable (huffman tableIdx).numAcCodes.toList
          (huffman tableIdx).acValues.toList 162 1 tableIdx required.ac valid.ac frame with
      | (frame, false) => (frame, false)
      | (frame, true) => writeVAHuffmanTables huffman required valid tables frame

end Jpeg
end NvidiaVaapi
