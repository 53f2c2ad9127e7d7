import Mathlib.Data.Nat.Bitwise
import NvidiaVaapi.Jpeg.FrameBounds
import NvidiaVaapi.Lib.JpegGrammar

/-!
# The stream of a rebuilt JPEG

The bytes that are written for a frame, as segments of the marker grammar.
-/

namespace NvidiaVaapi
namespace Jpeg

open Codec
open JpegGrammar (Segment segmentBytes EntropyCoded continues codeCount)

/-! ## Masks -/

/-- A table is in a mask. -/
def hasTable (mask : UInt8) (table : Nat) : Bool :=
  mask.toNat.testBit table

theorem toNat_tableBit {table : Nat} (h : table < 8) : (tableBit table).toNat = 2 ^ table := by
  have hlt : 2 ^ table < 2 ^ 8 := Nat.pow_lt_pow_right (by decide) h
  rw [tableBit, UInt8.toNat_ofNat']
  exact Nat.mod_eq_of_lt hlt

theorem and_tableBit_eq_zero (mask : UInt8) {table : Nat} (h : table < 8) :
    mask &&& tableBit table = 0 ↔ hasTable mask table = false := by
  rw [← UInt8.toNat_inj, UInt8.toNat_and, toNat_tableBit h, Nat.and_two_pow, hasTable]
  cases mask.toNat.testBit table
  · simp
  · simp

theorem hasTable_or_tableBit {mask : UInt8} {table added : Nat} (h : added < 8) :
    hasTable (mask ||| tableBit added) table = (hasTable mask table || added == table) := by
  rw [hasTable, UInt8.toNat_or, toNat_tableBit h, Nat.testBit_or, Nat.testBit_two_pow, hasTable]
  congr 1

/-- A mask has all tables of another one. -/
theorem and_eq_iff {mask needed : UInt8} :
    mask &&& needed = needed ↔ ∀ table, hasTable needed table = true →
      hasTable mask table = true := by
  rw [← UInt8.toNat_inj, UInt8.toNat_and]
  constructor
  · intro h table hneeded
    unfold hasTable at hneeded ⊢
    rw [← h, Nat.testBit_and] at hneeded
    exact (Bool.and_eq_true_iff.mp hneeded).1
  · intro h
    apply Nat.eq_of_testBit_eq
    intro table
    rw [Nat.testBit_and]
    cases hneeded : needed.toNat.testBit table
    · exact Bool.and_false _
    · rw [Bool.and_true]
      exact h table hneeded

/-! ## The tables in use -/

/-- A component of the frame uses a quantisation table. -/
def PictureParameter.usesTable (pic : PictureParameter) (table : Nat) : Bool :=
  (List.range pic.numComponents.toNat).any fun i =>
    (pic.components i).quantiserTableSelector.toNat == table

/-- The components of a scan header with their selectors. -/
def SliceParameter.header (slice : SliceParameter) : List ScanComponent :=
  (List.range slice.numComponents.toNat).map slice.components

/-- A scan uses a Huffman table of the first class. -/
def usesDc (slices : List SliceParameter) (table : Nat) : Bool :=
  slices.any fun slice => slice.header.any fun component =>
    component.dcTableSelector.toNat == table

/-- A scan uses a Huffman table of the second class. -/
def usesAc (slices : List SliceParameter) (table : Nat) : Bool :=
  slices.any fun slice => slice.header.any fun component =>
    component.acTableSelector.toNat == table

/-- The selectors of a scan are those of the two tables of a class. -/
def SliceParameter.TwoTables (slice : SliceParameter) : Prop :=
  ∀ component ∈ slice.header, component.dcTableSelector ≤ 1 ∧ component.acTableSelector ≤ 1

theorem usedQuantTables_spec {pic : PictureParameter} :
    ∀ {components : List Nat} {mask mask' : UInt8},
      usedQuantTables pic components mask = some mask' → ∀ table,
      hasTable mask' table = (hasTable mask table || components.any fun i =>
        (pic.components i).quantiserTableSelector.toNat == table)
  | [], _, _, h, _ => by
      cases h
      exact (Bool.or_false _).symm
  | i :: components, mask, mask', h, table => by
      unfold usedQuantTables at h
      rw [List.foldlM_cons] at h
      obtain ⟨next, hnext, hrest⟩ := Option.bind_eq_some_iff.mp h
      simp only at hnext
      split at hnext
      · cases hnext
      · rename_i hsmall
        cases hnext
        rw [usedQuantTables_spec hrest, hasTable_or_tableBit (by omega), List.any_cons,
          Bool.or_assoc]

theorem getUsedQuantTablesMask_spec {pic : PictureParameter} {mask : UInt8}
    (h : getUsedQuantTablesMask pic = some mask) (table : Nat) :
    hasTable mask table = pic.usesTable table := by
  have hzero : hasTable 0 table = false := Nat.zero_testBit table
  rw [usedQuantTables_spec h table, hzero, Bool.false_or]
  rfl

/-- What the checks of some components collect. -/
theorem collectHuffmanUsage_spec {pic : PictureParameter} {slice : SliceParameter} :
    ∀ {components : List Nat} {required required' : HuffmanMasks},
      collectHuffmanUsage pic slice components required = some required' →
      (∀ component ∈ components.map slice.components,
        component.dcTableSelector ≤ 1 ∧ component.acTableSelector ≤ 1) ∧
      ∀ table,
        hasTable required'.dc table = (hasTable required.dc table ||
          (components.map slice.components).any fun c => c.dcTableSelector.toNat == table) ∧
        hasTable required'.ac table = (hasTable required.ac table ||
          (components.map slice.components).any fun c => c.acTableSelector.toNat == table)
  | [], _, _, h => by
      cases h
      exact ⟨nofun, fun _ => ⟨(Bool.or_false _).symm, (Bool.or_false _).symm⟩⟩
  | i :: components, required, required', h => by
      unfold collectHuffmanUsage at h
      rw [List.foldlM_cons] at h
      obtain ⟨next, hnext, hrest⟩ := Option.bind_eq_some_iff.mp h
      obtain ⟨hsmall, hmasks⟩ := collectHuffmanUsage_spec hrest
      simp only at hnext
      split at hnext
      · cases hnext
      · split at hnext
        · cases hnext
        · rename_i hselectors
          rw [Bool.or_eq_true, decide_eq_true_iff, decide_eq_true_iff, not_or] at hselectors
          have hdc : (slice.components i).dcTableSelector ≤ 1 := UInt8.not_lt.mp hselectors.1
          have hac : (slice.components i).acTableSelector ≤ 1 := UInt8.not_lt.mp hselectors.2
          cases hnext
          refine ⟨?_, fun table => ?_⟩
          · rw [List.map_cons, List.forall_mem_cons]
            exact ⟨⟨hdc, hac⟩, hsmall⟩
          · obtain ⟨hdcMask, hacMask⟩ := hmasks table
            have hdc8 : (slice.components i).dcTableSelector.toNat < 8 :=
              Nat.lt_of_le_of_lt (UInt8.le_iff_toNat_le.mp hdc) (by decide)
            have hac8 : (slice.components i).acTableSelector.toNat < 8 :=
              Nat.lt_of_le_of_lt (UInt8.le_iff_toNat_le.mp hac) (by decide)
            rw [hdcMask, hacMask, hasTable_or_tableBit hdc8, hasTable_or_tableBit hac8,
              List.map_cons, List.any_cons, List.any_cons, Bool.or_assoc, Bool.or_assoc]
            exact ⟨rfl, rfl⟩

/-- What the checks of the slices collect: the Huffman tables in use, of which there are two in
a class. -/
theorem checkSlices_spec {pic : PictureParameter} {sliceDataSize : Nat} :
    ∀ {slices : List SliceParameter} {before collected : Collected},
      slices.foldlM (checkSlice pic sliceDataSize) before = some collected →
      (∀ slice ∈ slices, slice.TwoTables) ∧
      ∀ table,
        hasTable collected.required.dc table =
          (hasTable before.required.dc table || usesDc slices table) ∧
        hasTable collected.required.ac table =
          (hasTable before.required.ac table || usesAc slices table)
  | [], _, _, h => by
      cases h
      exact ⟨nofun, fun _ => ⟨(Bool.or_false _).symm, (Bool.or_false _).symm⟩⟩
  | slice :: slices, before, collected, h => by
      rw [List.foldlM_cons] at h
      obtain ⟨next, hnext, hrest⟩ := Option.bind_eq_some_iff.mp h
      obtain ⟨htwo, hmasks⟩ := checkSlices_spec hrest
      have hslice : validateSliceAndCollectHuffmanUsage pic slice before.required =
          some next.required := by
        unfold checkSlice at hnext
        split at hnext
        · cases hnext
        · split at hnext
          · cases hnext
          · rename_i hvalid
            split at hnext
            · cases hnext
            · split at hnext
              · cases hnext
              · split at hnext
                · cases hnext
                · cases hnext
                  exact hvalid
      unfold validateSliceAndCollectHuffmanUsage at hslice
      split at hslice
      · cases hslice
      · obtain ⟨hsmall, hnextMasks⟩ := collectHuffmanUsage_spec hslice
        refine ⟨List.forall_mem_cons.mpr ⟨hsmall, htwo⟩, fun table => ?_⟩
        rw [(hmasks table).1, (hmasks table).2, (hnextMasks table).1, (hnextMasks table).2,
          Bool.or_assoc, Bool.or_assoc]
        exact ⟨rfl, rfl⟩

/-! ## Segments -/

/-- The `APP0` segment of `jfifHeader`. -/
def app0 : Segment :=
  ⟨0xe0, [0x4a, 0x46, 0x49, 0x46, 0x00, 0x01, 0x01, 0x00, 0x00, 0x01, 0x00, 0x01, 0x00, 0x00], []⟩

def dqt (iqMatrix : Nat → Vector UInt8 64) (table : Nat) : Segment :=
  ⟨0xdb, UInt8.ofNat table :: (iqMatrix table).toList, []⟩

def dri (restartInterval : UInt16) : Segment :=
  ⟨0xdd, be16 restartInterval, []⟩

def sof0 (pic : PictureParameter) : Segment :=
  ⟨0xc0, [8] ++ be16 pic.pictureHeight ++ be16 pic.pictureWidth ++ [pic.numComponents] ++
    (List.range pic.numComponents.toNat).flatMap fun i => (pic.components i).bytes, []⟩

def dht (bits vals : List UInt8) (tableClass tableId numVals : Nat) : Segment :=
  ⟨0xc4, [UInt8.ofNat (16 * tableClass + tableId)] ++ bits ++ vals.take numVals, []⟩

def sos (slice : SliceParameter) (entropy : List UInt8) : Segment :=
  ⟨0xda, [slice.numComponents] ++
    ((List.range slice.numComponents.toNat).flatMap fun i => (slice.components i).bytes) ++
    [0, 63, 0], entropy⟩

theorem jfifHeader_eq : jfifHeader = 0xff :: 0xd8 :: app0.bytes := rfl

/-- The bytes of a number of 16 bits. -/
theorem be16_eq {value : UInt16} {n : Nat} (h : value.toNat = n) :
    be16 value = [UInt8.ofNat (n / 256), UInt8.ofNat n] := by
  subst h
  unfold be16
  congr 1
  · -- The lower byte is the same by definition.
    apply UInt8.toNat_inj.mp
    rw [UInt16.toNat_toUInt8, UInt16.toNat_shiftRight, UInt8.toNat_ofNat']
    show (value.toNat >>> 8) % 256 = value.toNat / 256 % 256
    rw [Nat.shiftRight_eq_div_pow]

theorem dqtSegment_eq (iqMatrix : Nat → Vector UInt8 64) (table : Nat) :
    dqtSegment iqMatrix table = (dqt iqMatrix table).bytes := by
  have hlength : be16 67 = [0, 67] := by decide
  simp [dqtSegment, dqt, Segment.bytes, hlength]

theorem driSegment_eq (restartInterval : UInt16) :
    driSegment restartInterval = (dri restartInterval).bytes := by
  have hlength : be16 4 = [0, 4] := by decide
  have hpayload : (dri restartInterval).payload.length = 2 := rfl
  rw [driSegment, hlength, Segment.bytes, hpayload]
  show _ = _ ++ be16 restartInterval ++ []
  rw [List.append_nil]
  rfl

theorem sof0Segment_eq (pic : PictureParameter) : sof0Segment pic = (sof0 pic).bytes := by
  have hlt := pic.numComponents.toNat_lt
  have hlength : ((sof0 pic).payload.length + 2) = 8 + pic.numComponents.toNat * 3 := by
    simp [sof0, be16, List.length_flatMap, FrameComponent.bytes]
    omega
  have hvalue : (8 + pic.numComponents.toUInt16 * 3).toNat = 8 + pic.numComponents.toNat * 3 := by
    simp
    omega
  unfold Segment.bytes
  rw [hlength, sof0Segment, be16_eq hvalue]
  simp [sof0]

theorem sosSegment_eq (slice : SliceParameter) (entropy : List UInt8) :
    sosSegment slice ++ entropy = (sos slice entropy).bytes := by
  have hlt := slice.numComponents.toNat_lt
  have hlength : ((sos slice entropy).payload.length + 2) = 6 + slice.numComponents.toNat * 2 := by
    simp [sos, List.length_flatMap, ScanComponent.bytes]
    omega
  have hvalue : (6 + slice.numComponents.toUInt16 * 2).toNat =
      6 + slice.numComponents.toNat * 2 := by
    simp
    omega
  unfold Segment.bytes
  rw [hlength, sosSegment, be16_eq hvalue]
  simp [sos]

theorem dhtSegment_eq {bits vals : List UInt8} (tableClass tableId : Nat) {numVals : Nat}
    (hbits : bits.length = 16) (hvals : numVals ≤ vals.length) (hsmall : numVals ≤ 256) :
    dhtSegment bits vals tableClass tableId numVals =
      (dht bits vals tableClass tableId numVals).bytes := by
  have hlength : (dht bits vals tableClass tableId numVals).payload.length + 2 = 19 + numVals := by
    simp [dht, hbits, Nat.min_eq_left hvals]
    omega
  have hvalue : (UInt16.ofNat (19 + numVals)).toNat = 19 + numVals := by
    rw [UInt16.toNat_ofNat']
    omega
  unfold Segment.bytes
  rw [hlength, dhtSegment, be16_eq hvalue]
  simp [dht]

/-! ## The bytes of a frame -/

section Bytes

variable {frame : Frame}

theorem emit_bytes (frame : Frame) (data : List UInt8) :
    (frame.emit data).bytes = frame.bytes ++ data := rfl

theorem segmentBytes_append (segments segments' : List Segment) :
    segmentBytes (segments ++ segments') = segmentBytes segments ++ segmentBytes segments' :=
  List.flatMap_append

theorem segmentBytes_cons (segment : Segment) (segments : List Segment) :
    segmentBytes (segment :: segments) = segment.bytes ++ segmentBytes segments :=
  List.flatMap_cons

/-- The tables of a list that a mask has. -/
def tablesOf (mask : UInt8) (tables : List Nat) : List Nat :=
  tables.filter fun table => hasTable mask table

theorem writeQuantTables_bytes {iqMatrix : Nat → Vector UInt8 64} {usedMask : UInt8}
    {tables : List Nat} (htables : ∀ table ∈ tables, table < 8) {frame' : Frame}
    (hwrite : writeQuantTables iqMatrix usedMask tables frame = (frame', true)) :
    frame'.bytes = frame.bytes ++ segmentBytes ((tablesOf usedMask tables).map (dqt iqMatrix)) := by
  induction tables generalizing frame with
  | nil =>
      cases hwrite
      exact (List.append_nil _).symm
  | cons table tables ih =>
      have hrest : ∀ table ∈ tables, table < 8 :=
        fun table' hmem => htables table' (List.mem_cons_of_mem _ hmem)
      have hbit := and_tableBit_eq_zero usedMask (htables table List.mem_cons_self)
      unfold writeQuantTables at hwrite
      split at hwrite
      · rename_i hunused
        rw [tablesOf, List.filter_cons_of_neg (by rw [hbit.mp hunused]; decide)]
        exact ih hrest hwrite
      · rename_i hused
        split at hwrite
        · cases hwrite
        · have htable : hasTable usedMask table = true := by
            cases htable : hasTable usedMask table with
            | true => rfl
            | false => exact absurd (hbit.mpr htable) hused
          rw [tablesOf, List.filter_cons_of_pos htable, List.map_cons, segmentBytes_cons,
            ← dqtSegment_eq, ih hrest hwrite, emit_bytes, List.append_assoc]
          rfl

/-- The tables of the frame, where they are all there and none is empty. -/
theorem writeDQT_bytes {iqMatrix : Nat → Vector UInt8 64} {pic : PictureParameter}
    {validMask : UInt8} {frame' : Frame}
    (hwrite : writeDQT iqMatrix pic validMask frame = (frame', true)) :
    ∃ usedMask, getUsedQuantTablesMask pic = some usedMask ∧
      frame'.bytes = frame.bytes ++
        segmentBytes ((tablesOf usedMask [0, 1, 2, 3]).map (dqt iqMatrix)) := by
  unfold writeDQT at hwrite
  split at hwrite
  · cases hwrite
  · rename_i usedMask hused
    split at hwrite
    · cases hwrite
    · exact ⟨usedMask, hused, writeQuantTables_bytes (by decide) hwrite⟩

/-- `countHuffValues` sums up, unless there are too many. -/
theorem countHuffValues_eq (codes : List UInt8) (maxVals : Nat) :
    countHuffValues codes maxVals =
      if codeCount codes ≤ maxVals then some (codeCount codes) else none := by
  have hloop : ∀ (codes : List UInt8) (sum : Nat), sum ≤ maxVals →
      codes.foldlM (fun sum code =>
        if sum + code.toNat > maxVals then none else some (sum + code.toNat)) sum =
      if sum + codeCount codes ≤ maxVals then some (sum + codeCount codes) else none := by
    intro codes
    induction codes with
    | nil =>
        intro sum hsum
        exact (if_pos hsum).symm
    | cons code codes ih =>
        intro sum hsum
        have hcount : codeCount (code :: codes) = code.toNat + codeCount codes := by
          simp [codeCount]
        rw [List.foldlM_cons, hcount, ← Nat.add_assoc]
        split
        · rename_i hmany
          rw [if_neg (by omega)]
          rfl
        · rename_i hfew
          exact ih (sum + code.toNat) (Nat.le_of_not_gt hfew)
  have h := hloop codes 0 (Nat.zero_le _)
  rw [Nat.zero_add] at h
  exact h

/-- A table of the application that can be written: it was loaded, and has values, but not too
many. -/
def usable (codes : List UInt8) (maxVals tableIdx : Nat) (validMask : UInt8) : Bool :=
  hasTable validMask tableIdx && 0 < codeCount codes && codeCount codes ≤ maxVals

/-- The segment of a table of the application, where it is required. -/
def vaTable (codes vals : List UInt8) (tableClass tableIdx : Nat) (requiredMask : UInt8) :
    List Segment :=
  if hasTable requiredMask tableIdx then [dht codes vals tableClass tableIdx (codeCount codes)]
  else []

/-- A table that is required is written, if it can be. -/
theorem writeVAHuffmanTable_bytes (codes vals : List UInt8) {maxVals : Nat}
    (tableClass tableIdx : Nat) (requiredMask validMask : UInt8)
    (hcodes : codes.length = 16) (hvals : vals.length = maxVals)
    (hsmall : maxVals ≤ 256) (hidx : tableIdx < 8) (frame : Frame) :
    ∃ frame', writeVAHuffmanTable codes vals maxVals tableClass tableIdx requiredMask validMask
        frame =
      (frame', !hasTable requiredMask tableIdx || usable codes maxVals tableIdx validMask) ∧
      ((!hasTable requiredMask tableIdx || usable codes maxVals tableIdx validMask) = true →
        frame'.bytes = frame.bytes ++
          segmentBytes (vaTable codes vals tableClass tableIdx requiredMask)) := by
  have hrequired := and_tableBit_eq_zero requiredMask hidx
  have hvalid := and_tableBit_eq_zero validMask hidx
  unfold writeVAHuffmanTable vaTable usable
  rw [countHuffValues_eq]
  cases hneeded : hasTable requiredMask tableIdx with
  | false =>
      rw [if_pos (hrequired.mpr hneeded)]
      exact ⟨frame, rfl, fun _ => (List.append_nil _).symm⟩
  | true =>
      rw [if_neg fun h => by rw [hrequired.mp h] at hneeded; cases hneeded]
      cases hloaded : hasTable validMask tableIdx with
      | false =>
          rw [if_pos (hvalid.mpr hloaded)]
          exact ⟨frame, rfl, nofun⟩
      | true =>
          rw [if_neg fun h => by rw [hvalid.mp h] at hloaded; cases hloaded]
          by_cases hmany : codeCount codes ≤ maxVals
          · rw [if_pos hmany]
            by_cases hnone : codeCount codes = 0
            · simp only [if_pos hnone]
              exact ⟨frame, by simp [hnone], by simp [hnone]⟩
            · simp only [if_neg hnone]
              refine ⟨frame.emit (dhtSegment codes vals tableClass tableIdx (codeCount codes)),
                by simp [hmany, Nat.pos_of_ne_zero hnone], fun _ => ?_⟩
              rw [emit_bytes, dhtSegment_eq tableClass tableIdx hcodes (by omega) (by omega)]
              simp [segmentBytes]
          · rw [if_neg hmany]
            exact ⟨frame, by simp [hmany], by simp [hmany]⟩

/-- All tables that are required can be written. -/
def allUsable (huffman : Nat → HuffmanTable) (required valid : HuffmanMasks) (tables : List Nat) :
    Bool :=
  tables.all fun t =>
    (!hasTable required.dc t || usable (huffman t).numDcCodes.toList 12 t valid.dc) &&
      (!hasTable required.ac t || usable (huffman t).numAcCodes.toList 162 t valid.ac)

/-- The segments of the tables of the application. -/
def vaTables (huffman : Nat → HuffmanTable) (required : HuffmanMasks) (tables : List Nat) :
    List Segment :=
  tables.flatMap fun t =>
    vaTable (huffman t).numDcCodes.toList (huffman t).dcValues.toList 0 t required.dc ++
      vaTable (huffman t).numAcCodes.toList (huffman t).acValues.toList 1 t required.ac

theorem writeVAHuffmanTables_bytes (huffman : Nat → HuffmanTable) (required valid : HuffmanMasks)
    {tables : List Nat} (htables : ∀ t ∈ tables, t < 8) (frame : Frame) :
    ∃ frame', writeVAHuffmanTables huffman required valid tables frame =
        (frame', allUsable huffman required valid tables) ∧
      (allUsable huffman required valid tables = true →
        frame'.bytes = frame.bytes ++ segmentBytes (vaTables huffman required tables)) := by
  induction tables generalizing frame with
  | nil => exact ⟨frame, rfl, fun _ => (List.append_nil _).symm⟩
  | cons t tables ih =>
      have ht : t < 8 := htables t List.mem_cons_self
      obtain ⟨dcFrame, hdc, hdcBytes⟩ := writeVAHuffmanTable_bytes (huffman t).numDcCodes.toList
        (huffman t).dcValues.toList 0 t required.dc valid.dc (by simp) (by simp)
        (by decide : 12 ≤ 256) ht frame
      obtain ⟨acFrame, hac, hacBytes⟩ := writeVAHuffmanTable_bytes (huffman t).numAcCodes.toList
        (huffman t).acValues.toList 1 t required.ac valid.ac (by simp) (by simp)
        (by decide : 162 ≤ 256) ht dcFrame
      obtain ⟨frame', hrest, hrestBytes⟩ :=
        ih (fun t' hmem => htables t' (List.mem_cons_of_mem _ hmem)) acFrame
      unfold writeVAHuffmanTables
      rw [hdc, allUsable, List.all_cons, vaTables, List.flatMap_cons]
      generalize hdcOk : (!hasTable required.dc t ||
        usable (huffman t).numDcCodes.toList 12 t valid.dc) = dcOk at hdcBytes
      cases dcOk with
      | false => exact ⟨dcFrame, by simp, (by simp)⟩
      | true =>
          simp only
          rw [hac]
          generalize hacOk : (!hasTable required.ac t ||
            usable (huffman t).numAcCodes.toList 162 t valid.ac) = acOk at hacBytes
          cases acOk with
          | false => exact ⟨acFrame, by simp, (by simp)⟩
          | true =>
              simp only
              rw [hrest]
              refine ⟨frame', by simp [allUsable], fun hall => ?_⟩
              rw [hrestBytes (by simpa [allUsable] using hall), hacBytes rfl, hdcBytes rfl,
                segmentBytes_append, segmentBytes_append]
              simp [vaTables, List.append_assoc]

/-- The segments of `writeStandardHuffmanTables`. -/
def standardTables : List Segment :=
  [dht dcLuminanceBits dcLuminanceVals 0 0 12, dht dcChrominanceBits dcChrominanceVals 0 1 12,
    dht acLuminanceBits acLuminanceVals 1 0 162, dht acChrominanceBits acChrominanceVals 1 1 162]

set_option maxRecDepth 2000 in
theorem length_acVals : acLuminanceVals.length = 162 ∧ acChrominanceVals.length = 162 :=
  ⟨rfl, rfl⟩

theorem writeStandardHuffmanTables_bytes (frame : Frame) :
    (writeStandardHuffmanTables frame).bytes = frame.bytes ++ segmentBytes standardTables := by
  unfold writeStandardHuffmanTables standardTables
  simp only [emit_bytes]
  rw [dhtSegment_eq 0 0 (rfl : dcLuminanceBits.length = 16) (by decide) (by decide),
    dhtSegment_eq 0 1 (rfl : dcChrominanceBits.length = 16) (by decide) (by decide),
    dhtSegment_eq 1 0 (rfl : acLuminanceBits.length = 16) (Nat.le_of_eq length_acVals.1.symm)
      (by decide),
    dhtSegment_eq 1 1 (rfl : acChrominanceBits.length = 16)
      (Nat.le_of_eq length_acVals.2.symm) (by decide)]
  simp only [segmentBytes, List.flatMap_cons, List.flatMap_nil, List.append_nil, List.append_assoc]

/-- The segments of the Huffman tables. -/
def huffmanSegments (jpegCtx : JPEGContext) (required : HuffmanMasks) : List Segment :=
  if jpegCtx.hasHuffmanTable && allUsable jpegCtx.huffmanTable required
      ⟨jpegCtx.validHuffmanDcMask, jpegCtx.validHuffmanAcMask⟩ [0, 1] then
    vaTables jpegCtx.huffmanTable required [0, 1]
  else standardTables

/-- Only the tables 0 and 1 are required. -/
structure HuffmanMasks.Small (required : HuffmanMasks) : Prop where
  dc : ∀ t, hasTable required.dc t = true → t ∈ [0, 1]
  ac : ∀ t, hasTable required.ac t = true → t ∈ [0, 1]

theorem HuffmanMasks.small_of_uses {required : HuffmanMasks} {slices : List SliceParameter}
    (htwo : ∀ slice ∈ slices, slice.TwoTables) (hdc : ∀ t, hasTable required.dc t = usesDc slices t)
    (hac : ∀ t, hasTable required.ac t = usesAc slices t) : required.Small := by
  have hsmall : ∀ {selector : UInt8} {t : Nat}, selector ≤ 1 → (selector.toNat == t) = true →
      t ∈ [0, 1] := by
    intro selector t hselector heq
    rw [UInt8.le_iff_toNat_le] at hselector
    have hone : (1 : UInt8).toNat = 1 := rfl
    rw [beq_iff_eq] at heq
    simp
    omega
  refine ⟨fun t huses => ?_, fun t huses => ?_⟩
  · rw [hdc, usesDc, List.any_eq_true] at huses
    obtain ⟨slice, hslice, hany⟩ := huses
    obtain ⟨component, hcomponent, heq⟩ := List.any_eq_true.mp hany
    exact hsmall (htwo slice hslice component hcomponent).1 heq
  · rw [hac, usesAc, List.any_eq_true] at huses
    obtain ⟨slice, hslice, hany⟩ := huses
    obtain ⟨component, hcomponent, heq⟩ := List.any_eq_true.mp hany
    exact hsmall (htwo slice hslice component hcomponent).2 heq

/-- Tables that can be written were loaded. -/
theorem masks_of_allUsable {huffman : Nat → HuffmanTable} {required valid : HuffmanMasks}
    (hsmall : required.Small) (hall : allUsable huffman required valid [0, 1] = true) :
    valid.dc &&& required.dc = required.dc ∧ valid.ac &&& required.ac = required.ac := by
  simp only [allUsable, List.all_eq_true, Bool.and_eq_true, Bool.or_eq_true, Bool.not_eq_true',
    usable] at hall
  constructor
  · refine and_eq_iff.mpr fun t hneeded => ?_
    rcases (hall t (hsmall.dc t hneeded)).1 with hnot | husable
    · rw [hneeded] at hnot
      cases hnot
    · exact husable.1.1
  · refine and_eq_iff.mpr fun t hneeded => ?_
    rcases (hall t (hsmall.ac t hneeded)).2 with hnot | husable
    · rw [hneeded] at hnot
      cases hnot
    · exact husable.1.1

theorem writeHuffmanTables_bytes (jpegCtx : JPEGContext) {required : HuffmanMasks}
    (hsmall : required.Small) (frame : Frame) :
    (writeHuffmanTables jpegCtx required frame).bytes =
      frame.bytes ++ segmentBytes (huffmanSegments jpegCtx required) := by
  obtain ⟨frame', hwrite, hbytes⟩ := writeVAHuffmanTables_bytes jpegCtx.huffmanTable required
    ⟨jpegCtx.validHuffmanDcMask, jpegCtx.validHuffmanAcMask⟩ (by decide : ∀ t ∈ [0, 1], t < 8) frame
  unfold writeHuffmanTables huffmanSegments
  rw [hwrite]
  cases hall : allUsable jpegCtx.huffmanTable required
      ⟨jpegCtx.validHuffmanDcMask, jpegCtx.validHuffmanAcMask⟩ [0, 1] with
  | true =>
      obtain ⟨hdc, hac⟩ := masks_of_allUsable hsmall hall
      simp only at hdc hac
      rw [hdc, hac]
      cases jpegCtx.hasHuffmanTable with
      | true =>
          simp only [beq_self_eq_true, Bool.and_self, if_true]
          exact hbytes hall
      | false =>
          simp only [beq_self_eq_true, Bool.false_and, Bool.false_eq_true, if_false]
          exact writeStandardHuffmanTables_bytes frame
  | false =>
      simp only [Bool.and_false, Bool.false_eq_true, if_false]
      split
      · exact writeStandardHuffmanTables_bytes (frame.rewind frame')
      · exact writeStandardHuffmanTables_bytes frame

/-- The segment of a restart interval that is not `0`. -/
def dris (restartInterval : UInt16) : List Segment :=
  if restartInterval ≠ 0 then [dri restartInterval] else []

theorem writeRestartInterval_bytes (restartInterval : UInt16) (frame : Frame) :
    (writeRestartInterval restartInterval frame).bytes =
      frame.bytes ++ segmentBytes (dris restartInterval) := by
  unfold writeRestartInterval dris
  split
  · rw [emit_bytes, driSegment_eq]
    simp [segmentBytes]
  · exact (List.append_nil _).symm

/-- What is written for a slice with a header of its own, with its interval unless all slices
share it. -/
def slicePiece (sameRestart : Bool) (sliceData : List UInt8) (slice : SliceParameter) :
    List UInt8 :=
  segmentBytes (if sameRestart then [] else dris slice.restartInterval) ++ sosSegment slice ++
    slice.data sliceData

/-- The bytes of the scans. -/
def scanBytes (slice0 : SliceParameter) (slices : List SliceParameter) (sliceData : List UInt8) :
    List UInt8 :=
  if allSameSOSHeader slice0 slices then
    sosSegment slice0 ++ (slices.map fun slice => slice.data sliceData).flatten
  else slices.flatMap (slicePiece (allSameRestartInterval slice0 slices) sliceData)

/-- The segment of the interval that all slices share. -/
def sharedInterval (slice0 : SliceParameter) (slices : List SliceParameter) : List Segment :=
  if allSameRestartInterval slice0 slices then dris slice0.restartInterval else []

theorem foldl_emit_bytes {step : Frame → SliceParameter → Frame}
    (piece : SliceParameter → List UInt8)
    (hstep : ∀ frame slice, (step frame slice).bytes = frame.bytes ++ piece slice)
    (slices : List SliceParameter) (frame : Frame) :
    (slices.foldl step frame).bytes = frame.bytes ++ slices.flatMap piece := by
  induction slices generalizing frame with
  | nil => exact (List.append_nil _).symm
  | cons slice slices ih =>
      rw [List.foldl_cons, ih, hstep, List.flatMap_cons, List.append_assoc]

theorem writeScans_bytes (slice0 : SliceParameter) (slices : List SliceParameter)
    (sliceData : List UInt8) (frame : Frame) :
    (writeScans slice0 slices sliceData frame).bytes =
      frame.bytes ++ segmentBytes (sharedInterval slice0 slices) ++
        scanBytes slice0 slices sliceData := by
  unfold writeScans sharedInterval scanBytes
  simp only
  generalize allSameRestartInterval slice0 slices = sameRestart
  have hstart : (if sameRestart then writeRestartInterval slice0.restartInterval frame
      else frame).bytes =
      frame.bytes ++ segmentBytes (if sameRestart then dris slice0.restartInterval else []) := by
    cases sameRestart with
    | true => exact writeRestartInterval_bytes slice0.restartInterval frame
    | false => exact (List.append_nil _).symm
  generalize (if sameRestart then writeRestartInterval slice0.restartInterval frame
    else frame) = start at hstart
  split
  · rw [foldl_emit_bytes (fun slice => slice.data sliceData) fun _ _ => rfl, emit_bytes, hstart,
      List.flatMap_def, List.append_assoc]
  · rw [foldl_emit_bytes (slicePiece sameRestart sliceData), hstart]
    intro frame slice
    cases sameRestart with
    | true =>
        show (frame.bytes ++ sosSegment slice) ++ slice.data sliceData = _
        simp [slicePiece, segmentBytes]
    | false =>
        show ((writeRestartInterval slice.restartInterval frame).bytes ++ sosSegment slice) ++
          slice.data sliceData = _
        rw [writeRestartInterval_bytes]
        simp [slicePiece]

end Bytes

end Jpeg
end NvidiaVaapi
