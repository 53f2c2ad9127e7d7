import Mathlib.Algebra.GroupWithZero.Nat
import Mathlib.Algebra.Group.Nat.Defs
import Mathlib.Data.List.Basic

/-!
# The marker grammar of JPEG

A baseline stream is a list of segments between two markers.  A segment has a marker, its
length and a payload, and a scan is followed by entropy coded data, in which the byte `0xff`
only stands before a zero or as a part of a restart marker.  Tables and the restart interval
stay in force until they are replaced.
-/

namespace JpegGrammar

/-! ## Entropy coded data -/

/-- The marker is one of the eight restart markers. -/
def isRestart (marker : UInt8) : Bool :=
  0xd0 ≤ marker && marker ≤ 0xd7

/-- The byte may stand behind `0xff` in entropy coded data. -/
def continues (marker : UInt8) : Bool :=
  marker == 0 || isRestart marker

/-- Entropy coded data up to the first marker that is not a restart marker, and the rest. -/
def splitEntropy : List UInt8 → List UInt8 × List UInt8
  | [] => ([], [])
  | [b] => if b = 0xff then ([], [b]) else ([b], [])
  | b :: m :: rest =>
    if b = 0xff then
      if continues m then (b :: m :: (splitEntropy rest).1, (splitEntropy rest).2)
      else ([], b :: m :: rest)
    else (b :: (splitEntropy (m :: rest)).1, (splitEntropy (m :: rest)).2)

/-- Bytes that are entropy coded data with restart markers. -/
inductive EntropyCoded : List UInt8 → Prop
  | nil : EntropyCoded []
  | byte {b : UInt8} {rest : List UInt8} (h : b ≠ 0xff) : EntropyCoded rest →
      EntropyCoded (b :: rest)
  | pair {m : UInt8} {rest : List UInt8} (h : continues m = true) : EntropyCoded rest →
      EntropyCoded (0xff :: m :: rest)

theorem EntropyCoded.append {data data' : List UInt8} (h : EntropyCoded data)
    (h' : EntropyCoded data') : EntropyCoded (data ++ data') := by
  induction h with
  | nil => exact h'
  | byte hb _ ih => exact .byte hb ih
  | pair hm _ ih => exact .pair hm ih

theorem EntropyCoded.flatten {datas : List (List UInt8)} (h : ∀ data ∈ datas, EntropyCoded data) :
    EntropyCoded datas.flatten := by
  induction datas with
  | nil => exact .nil
  | cons data datas ih =>
      rw [List.flatten_cons]
      exact (h data List.mem_cons_self).append
        (ih fun data' hmem => h data' (List.mem_cons_of_mem _ hmem))

/-- Entropy coded data ends where another marker follows. -/
theorem splitEntropy_append {data : List UInt8} (h : EntropyCoded data) {m : UInt8}
    (hm : continues m = false) (rest : List UInt8) :
    splitEntropy (data ++ 0xff :: m :: rest) = (data, 0xff :: m :: rest) := by
  induction h with
  | nil =>
      show splitEntropy (0xff :: m :: rest) = _
      simp [splitEntropy, hm]
  | @byte b data hb _ ih =>
      cases hdata : data ++ 0xff :: m :: rest with
      | nil => simp at hdata
      | cons b' rest' =>
          show splitEntropy (b :: (data ++ 0xff :: m :: rest)) = _
          rw [hdata] at ih ⊢
          simp [splitEntropy, hb, ih]
  | @pair m' data hm' _ ih =>
      show splitEntropy (0xff :: m' :: (data ++ 0xff :: m :: rest)) = _
      simp [splitEntropy, hm', ih]

/-- Entropy coded data does not end with another marker. -/
theorem EntropyCoded.not_suffix {data : List UInt8} (h : EntropyCoded data) {m : UInt8}
    (hm : continues m = false) : ¬[0xff, m] <:+ data := by
  induction h with
  | nil => simp
  | @byte b data hb _ ih =>
      rw [List.suffix_cons_iff]
      rintro (heq | hsuffix)
      · exact hb (List.cons.inj heq).1.symm
      · exact ih hsuffix
  | @pair m' data hm' _ ih =>
      rw [List.suffix_cons_iff, List.suffix_cons_iff]
      rintro (heq | heq | hsuffix)
      · obtain ⟨-, htail⟩ := List.cons.inj heq
        rw [← (List.cons.inj htail).1, hm] at hm'
        cases hm'
      · rw [← (List.cons.inj heq).1] at hm'
        exact absurd hm' (by decide)
      · exact ih hsuffix

/-! ## Segments -/

/-- A segment of a stream, and the entropy coded data behind the header of a scan. -/
structure Segment where
  marker : UInt8
  payload : List UInt8
  entropy : List UInt8 := []
  deriving DecidableEq, Repr

namespace Segment

/-- The bytes of a segment: its length counts itself and the payload. -/
def bytes (segment : Segment) : List UInt8 :=
  [0xff, segment.marker, UInt8.ofNat ((segment.payload.length + 2) / 256),
    UInt8.ofNat (segment.payload.length + 2)] ++ segment.payload ++ segment.entropy

/-- The length fits, the marker is one of a segment, and entropy coded data is behind the
header of a scan only. -/
structure WellFormed (segment : Segment) : Prop where
  short : segment.payload.length + 2 < 2 ^ 16
  marker : continues segment.marker = false
  notEnd : segment.marker ≠ 0xd9
  scan : segment.marker ≠ 0xda → segment.entropy = []
  entropy : EntropyCoded segment.entropy

end Segment

/-- The segments up to the end of the image, behind which nothing stands; `fuel` bounds their
number. -/
def readSegments : Nat → List UInt8 → Option (List Segment)
  | 0, _ => none
  | fuel + 1, 0xff :: marker :: rest =>
    if marker = 0xd9 then if rest = [] then some [] else none
    else
      match rest with
      | hi :: lo :: rest =>
        let length := 256 * hi.toNat + lo.toNat
        if length < 2 ∨ rest.length < length - 2 then none
        else
          let payload := rest.take (length - 2)
          let rest := rest.drop (length - 2)
          if marker = 0xda then
            (readSegments fuel (splitEntropy rest).2).map
              (⟨marker, payload, (splitEntropy rest).1⟩ :: ·)
          else (readSegments fuel rest).map (⟨marker, payload, []⟩ :: ·)
      | _ => none
  | _ + 1, _ => none

/-- What is behind a segment begins with a marker. -/
def BeginsMarker (bytes : List UInt8) : Prop :=
  ∃ m rest, continues m = false ∧ bytes = 0xff :: m :: rest

/-- A segment is read back. -/
theorem readSegments_cons {segment : Segment} (h : segment.WellFormed) {tail : List UInt8}
    (htail : BeginsMarker tail) (fuel : Nat) :
    readSegments (fuel + 1) (segment.bytes ++ tail) =
      (readSegments fuel tail).map (segment :: ·) := by
  obtain ⟨m, rest, hm, rfl⟩ := htail
  have hshort := h.short
  have hlength : 256 * (UInt8.ofNat ((segment.payload.length + 2) / 256)).toNat +
      (UInt8.ofNat (segment.payload.length + 2)).toNat = segment.payload.length + 2 := by
    rw [UInt8.toNat_ofNat', UInt8.toNat_ofNat']
    omega
  have hbytes : segment.bytes ++ 0xff :: m :: rest =
      0xff :: segment.marker :: UInt8.ofNat ((segment.payload.length + 2) / 256) ::
        UInt8.ofNat (segment.payload.length + 2) ::
          (segment.payload ++ (segment.entropy ++ 0xff :: m :: rest)) := by
    simp [Segment.bytes]
  rw [hbytes]
  simp only [readSegments]
  rw [if_neg h.notEnd, hlength, if_neg (by simp), Nat.add_sub_cancel, List.take_left,
    List.drop_left, splitEntropy_append h.entropy hm]
  split
  · rfl
  · rename_i hscan
    have hnone := h.scan hscan
    rw [hnone]
    obtain ⟨marker, payload, entropy⟩ := segment
    simp only at hnone
    subst hnone
    rfl

/-- The bytes of some segments. -/
def segmentBytes (segments : List Segment) : List UInt8 :=
  segments.flatMap Segment.bytes

theorem beginsMarker_segmentBytes {segments : List Segment}
    (h : ∀ segment ∈ segments, segment.WellFormed) {tail : List UInt8}
    (htail : BeginsMarker tail) : BeginsMarker (segmentBytes segments ++ tail) := by
  cases segments with
  | nil => exact htail
  | cons segment segments =>
      exact ⟨segment.marker, _, (h segment List.mem_cons_self).marker, rfl⟩

/-- Segments are read back up to the end of the image; then nothing may follow. -/
theorem readSegments_segmentBytes {segments : List Segment}
    (h : ∀ segment ∈ segments, segment.WellFormed) (behind : List UInt8) {fuel : Nat}
    (hfuel : segments.length < fuel) :
    readSegments fuel (segmentBytes segments ++ 0xff :: 0xd9 :: behind) =
      if behind = [] then some segments else none := by
  induction segments generalizing fuel with
  | nil =>
      obtain ⟨fuel, rfl⟩ : ∃ k, fuel = k + 1 := ⟨fuel - 1, by omega⟩
      show readSegments (fuel + 1) (0xff :: 0xd9 :: behind) = _
      rfl
  | cons segment segments ih =>
      obtain ⟨fuel, rfl⟩ : ∃ k, fuel = k + 1 := ⟨fuel - 1, by omega⟩
      have hrest : ∀ segment' ∈ segments, segment'.WellFormed :=
        fun segment' hmem => h segment' (List.mem_cons_of_mem _ hmem)
      have hbytes : segmentBytes (segment :: segments) ++ 0xff :: 0xd9 :: behind =
          segment.bytes ++ (segmentBytes segments ++ 0xff :: 0xd9 :: behind) := by
        simp [segmentBytes]
      rw [List.length_cons] at hfuel
      rw [hbytes, readSegments_cons (h segment List.mem_cons_self)
        (beginsMarker_segmentBytes hrest ⟨0xd9, behind, by decide, rfl⟩), ih hrest (by omega)]
      split
      · rfl
      · rfl

/-! ## Images -/

/-- A quantisation table of 8 bits with its number. -/
structure QuantTable where
  id : UInt8
  values : List UInt8
  deriving DecidableEq, Repr

/-- A Huffman table: its class and number, how many codes there are of every length, and the
values of the codes. -/
structure HuffmanTable where
  tableClass : UInt8
  id : UInt8
  bits : List UInt8
  vals : List UInt8
  deriving DecidableEq, Repr

/-- A component of a frame header. -/
structure FrameComponent where
  id : UInt8
  horizontal : UInt8
  vertical : UInt8
  quantTable : UInt8
  deriving DecidableEq, Repr

structure FrameHeader where
  precision : UInt8
  lines : Nat
  samples : Nat
  components : List FrameComponent
  deriving DecidableEq, Repr

/-- A component of a scan header. -/
structure ScanComponent where
  selector : UInt8
  dcTable : UInt8
  acTable : UInt8
  deriving DecidableEq, Repr

/-- A scan with the restart interval that is in force; `0` is none. -/
structure Scan where
  components : List ScanComponent
  spectral : List UInt8
  restartInterval : Nat
  entropy : List UInt8
  deriving DecidableEq, Repr

/-- What the segments of a stream say. -/
structure Image where
  quantTables : List QuantTable := []
  frame : Option FrameHeader := none
  huffmanTables : List HuffmanTable := []
  restartInterval : Nat := 0
  scans : List Scan := []
  deriving DecidableEq, Repr

/-- The upper and the lower half of a byte. -/
def high (b : UInt8) : UInt8 := b / 16

def low (b : UInt8) : UInt8 := b % 16

/-- The quantisation tables of a payload; `fuel` bounds their number. -/
def readQuantTables : Nat → List UInt8 → Option (List QuantTable)
  | _, [] => some []
  | 0, _ => none
  | fuel + 1, b :: rest =>
    if high b ≠ 0 ∨ rest.length < 64 then none
    else (readQuantTables fuel (rest.drop 64)).map (⟨low b, rest.take 64⟩ :: ·)

/-- The number of codes of a Huffman table. -/
def codeCount (bits : List UInt8) : Nat :=
  (bits.map UInt8.toNat).sum

/-- The Huffman tables of a payload; `fuel` bounds their number. -/
def readHuffmanTables : Nat → List UInt8 → Option (List HuffmanTable)
  | _, [] => some []
  | 0, _ => none
  | fuel + 1, b :: rest =>
    let bits := rest.take 16
    let behind := rest.drop 16
    if bits.length < 16 ∨ behind.length < codeCount bits then none
    else (readHuffmanTables fuel (behind.drop (codeCount bits))).map
      (⟨high b, low b, bits, behind.take (codeCount bits)⟩ :: ·)

/-- As many components of a frame as are announced. -/
def readFrameComponents : Nat → List UInt8 → Option (List FrameComponent)
  | 0, [] => some []
  | n + 1, id :: sampling :: table :: rest =>
    (readFrameComponents n rest).map (⟨id, high sampling, low sampling, table⟩ :: ·)
  | _, _ => none

def readFrameHeader : List UInt8 → Option FrameHeader
  | precision :: y1 :: y0 :: x1 :: x0 :: n :: rest =>
    (readFrameComponents n.toNat rest).map
      (⟨precision, 256 * y1.toNat + y0.toNat, 256 * x1.toNat + x0.toNat, ·⟩)
  | _ => none

/-- As many components of a scan as are announced, and what is behind them. -/
def readScanComponents : Nat → List UInt8 → Option (List ScanComponent × List UInt8)
  | 0, rest => some ([], rest)
  | n + 1, selector :: tables :: rest =>
    (readScanComponents n rest).map fun (components, rest) =>
      (⟨selector, high tables, low tables⟩ :: components, rest)
  | _, _ => none

/-- A scan with a restart interval. -/
def readScan (restartInterval : Nat) (entropy : List UInt8) : List UInt8 → Option Scan
  | n :: rest =>
    match readScanComponents n.toNat rest with
    | some (components, [start, stop, approximation]) =>
      some ⟨components, [start, stop, approximation], restartInterval, entropy⟩
    | _ => none
  | _ => none

/-- What a segment adds to an image. -/
def Image.add (image : Image) (segment : Segment) : Option Image :=
  if segment.marker = 0xdb then
    (readQuantTables segment.payload.length segment.payload).map fun tables =>
      { image with quantTables := image.quantTables ++ tables }
  else if segment.marker = 0xc0 then
    if image.frame.isSome then none
    else (readFrameHeader segment.payload).map fun frame => { image with frame := some frame }
  else if segment.marker = 0xc4 then
    (readHuffmanTables segment.payload.length segment.payload).map fun tables =>
      { image with huffmanTables := image.huffmanTables ++ tables }
  else if segment.marker = 0xdd then
    match segment.payload with
    | [hi, lo] => some { image with restartInterval := 256 * hi.toNat + lo.toNat }
    | _ => none
  else if segment.marker = 0xda then
    if image.frame.isNone then none
    else (readScan image.restartInterval segment.entropy segment.payload).map fun scan =>
      { image with scans := image.scans ++ [scan] }
  else if (0xe0 ≤ segment.marker ∧ segment.marker ≤ 0xef) ∨ segment.marker = 0xfe then some image
  else none

/-- An image from its stream. -/
def readImage : List UInt8 → Option Image
  | 0xff :: 0xd8 :: rest => (readSegments rest.length rest).bind fun segments =>
      segments.foldlM Image.add {}
  | _ => none

/-- A stream of segments is read as what the segments say. -/
theorem readImage_segmentBytes {segments : List Segment}
    (h : ∀ segment ∈ segments, segment.WellFormed) (behind : List UInt8) :
    readImage (0xff :: 0xd8 :: (segmentBytes segments ++ 0xff :: 0xd9 :: behind)) =
      if behind = [] then segments.foldlM Image.add {} else none := by
  have hlength : ∀ segments : List Segment, segments.length ≤ (segmentBytes segments).length := by
    intro segments
    induction segments with
    | nil => exact Nat.le_refl _
    | cons segment segments ih =>
        rw [segmentBytes, List.flatMap_cons, List.length_append, List.length_cons]
        unfold segmentBytes at ih
        simp only [Segment.bytes, List.length_append, List.length_cons]
        omega
  show (readSegments (segmentBytes segments ++ 0xff :: 0xd9 :: behind).length
    (segmentBytes segments ++ 0xff :: 0xd9 :: behind)).bind _ = _
  have hle := hlength segments
  rw [readSegments_segmentBytes h behind (by
    rw [List.length_append, List.length_cons, List.length_cons]
    omega)]
  split
  · rfl
  · rfl

end JpegGrammar
