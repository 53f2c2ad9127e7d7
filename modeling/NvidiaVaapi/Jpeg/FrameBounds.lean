import Mathlib.Algebra.BigOperators.Group.List.Basic
import NvidiaVaapi.Jpeg.Reconstruction

/-!
# The bounds of a rebuilt JPEG

Every write of a frame stays within the worst case, and a frame that is given up leaves the
bitstream as it was.
-/

namespace NvidiaVaapi
namespace Jpeg

open Codec
open Slices (reserveAdditionalBuffer le32)

/-! ## Writing -/

/-- The pointer is at most at `p`, and the writes have not got beyond `m`. -/
structure Within (frame : Frame) (p m : Nat) : Prop where
  bytes : frame.bytes.length ≤ p
  extent : frame.extent ≤ m

namespace Within

variable {frame : Frame} {p m : Nat}

theorem emit (h : Within frame p m) {data : List UInt8} {n : Nat} (hdata : data.length ≤ n)
    (hm : p + n ≤ m) : Within (frame.emit data) (p + n) m := by
  have hbytes := h.bytes
  have hextent := h.extent
  unfold Frame.extent at hextent
  constructor
  · rw [Frame.emit, List.length_append]
    omega
  · rw [Frame.extent, Frame.emit, List.length_append, List.length_drop]
    omega

theorem mono (h : Within frame p m) {p' m' : Nat} (hp : p ≤ p') (hm : m ≤ m') :
    Within frame p' m' :=
  ⟨Nat.le_trans h.bytes hp, Nat.le_trans h.extent hm⟩

theorem rewind (h : Within frame p m) {tmp : Frame} {p' m' : Nat} (htmp : Within tmp p' m')
    (hle : p ≤ m') : Within (frame.rewind tmp) p m' := by
  have hbytes := h.bytes
  have hextent := htmp.extent
  unfold Frame.extent at hextent
  refine ⟨hbytes, ?_⟩
  show frame.bytes.length + ((tmp.bytes ++ tmp.behind).drop frame.bytes.length).length ≤ m'
  rw [List.length_drop, List.length_append]
  omega

end Within

/-! ## Segments -/

theorem length_be16 (value : UInt16) : (be16 value).length = 2 := rfl

theorem length_dqtSegment (iqMatrix : Nat → Vector UInt8 64) (table : Nat) :
    (dqtSegment iqMatrix table).length = 69 := by
  simp [dqtSegment, length_be16]

theorem length_driSegment (restartInterval : UInt16) : (driSegment restartInterval).length = 6 :=
  rfl

theorem length_sof0Segment (pic : PictureParameter) :
    (sof0Segment pic).length = 10 + pic.numComponents.toNat * 3 := by
  simp [sof0Segment, length_be16, List.length_flatMap, FrameComponent.bytes]
  omega

theorem length_sosSegment (slice : SliceParameter) :
    (sosSegment slice).length = 8 + slice.numComponents.toNat * 2 := by
  simp [sosSegment, length_be16, List.length_flatMap, ScanComponent.bytes]
  omega

theorem length_dhtSegment_le {bits : List UInt8} (hbits : bits.length = 16)
    (vals : List UInt8) (tableClass tableId : Nat) {numVals maxVals : Nat}
    (hvals : numVals ≤ maxVals) :
    (dhtSegment bits vals tableClass tableId numVals).length ≤ 21 + maxVals := by
  simp only [dhtSegment, List.length_append, length_be16, List.length_cons, List.length_nil, hbits,
    List.length_take]
  omega

/-- The values of a table that are counted have room. -/
theorem countHuffValues_le {codes : List UInt8} {maxVals count : Nat}
    (hcount : countHuffValues codes maxVals = some count) : count ≤ maxVals := by
  have hloop : ∀ (codes : List UInt8) (sum : Nat), sum ≤ maxVals →
      ∀ count, codes.foldlM (fun sum code =>
        if sum + code.toNat > maxVals then none else some (sum + code.toNat)) sum = some count →
      count ≤ maxVals := by
    intro codes
    induction codes with
    | nil =>
        rintro sum hsum count ⟨⟩
        exact hsum
    | cons code codes ih =>
        intro sum _ count hfold
        rw [List.foldlM_cons] at hfold
        split at hfold
        · cases hfold
        · rename_i hroom
          exact ih (sum + code.toNat) (Nat.le_of_not_gt hroom) count hfold
  exact hloop codes 0 (Nat.zero_le _) count hcount

/-! ## Tables -/

section Tables

variable {frame : Frame} {p m : Nat}

/-- Every table of some is written once at most. -/
theorem writeQuantTables_within {iqMatrix : Nat → Vector UInt8 64} {usedMask : UInt8}
    {tables : List Nat} (h : Within frame p m) (hm : p + tables.length * 69 ≤ m) :
    Within (writeQuantTables iqMatrix usedMask tables frame).1 (p + tables.length * 69) m := by
  induction tables generalizing frame p with
  | nil => exact h
  | cons table tables ih =>
      rw [List.length_cons, Nat.add_one_mul] at hm ⊢
      unfold writeQuantTables
      split
      · exact (ih h (by omega)).mono (by omega) (Nat.le_refl _)
      · split
        · exact h.mono (by omega) (Nat.le_refl _)
        · have hnext := h.emit (Nat.le_of_eq (length_dqtSegment iqMatrix table)) (by omega)
          exact (ih hnext (by omega)).mono (by omega) (Nat.le_refl _)

theorem writeDQT_within {iqMatrix : Nat → Vector UInt8 64} {pic : PictureParameter}
    {validMask : UInt8} (h : Within frame p m) (hm : p + 276 ≤ m) :
    Within (writeDQT iqMatrix pic validMask frame).1 (p + 276) m := by
  unfold writeDQT
  split
  · exact h.mono (by omega) (Nat.le_refl _)
  · split
    · exact h.mono (by omega) (Nat.le_refl _)
    · exact writeQuantTables_within h hm

theorem writeStandardHuffmanTables_within (h : Within frame p m) (hm : p + 432 ≤ m) :
    Within (writeStandardHuffmanTables frame) (p + 432) m := by
  have hdc : ∀ vals c i, (dhtSegment dcLuminanceBits vals c i 12).length ≤ 33 :=
    fun vals c i => length_dhtSegment_le rfl vals c i (Nat.le_refl 12)
  have hdc' : ∀ vals c i, (dhtSegment dcChrominanceBits vals c i 12).length ≤ 33 :=
    fun vals c i => length_dhtSegment_le rfl vals c i (Nat.le_refl 12)
  have hac : ∀ vals c i, (dhtSegment acLuminanceBits vals c i 162).length ≤ 183 :=
    fun vals c i => length_dhtSegment_le rfl vals c i (Nat.le_refl 162)
  have hac' : ∀ vals c i, (dhtSegment acChrominanceBits vals c i 162).length ≤ 183 :=
    fun vals c i => length_dhtSegment_le rfl vals c i (Nat.le_refl 162)
  exact (((h.emit (hdc ..) (by omega)).emit (hdc' ..) (by omega)).emit (hac ..) (by omega)).emit
    (hac' ..) (by omega)

theorem writeVAHuffmanTable_within {codes vals : List UInt8} {maxVals tableClass tableIdx : Nat}
    {requiredMask validMask : UInt8} (hcodes : codes.length = 16) (h : Within frame p m)
    (hm : p + (21 + maxVals) ≤ m) :
    Within (writeVAHuffmanTable codes vals maxVals tableClass tableIdx requiredMask validMask
      frame).1 (p + (21 + maxVals)) m := by
  have hstays := h.mono (Nat.le_add_right p (21 + maxVals)) (Nat.le_refl m)
  unfold writeVAHuffmanTable
  split
  · exact hstays
  · split
    · exact hstays
    · split
      · exact hstays
      · rename_i numValues hcount
        split
        · exact hstays
        · exact h.emit (length_dhtSegment_le hcodes _ _ _ (countHuffValues_le hcount)) hm

/-- Every pair of tables takes 216 bytes at most. -/
theorem writeVAHuffmanTables_within {huffman : Nat → HuffmanTable}
    {required valid : HuffmanMasks} {tables : List Nat} (h : Within frame p m)
    (hm : p + tables.length * 216 ≤ m) :
    Within (writeVAHuffmanTables huffman required valid tables frame).1
      (p + tables.length * 216) m := by
  induction tables generalizing frame p with
  | nil => exact h
  | cons tableIdx tables ih =>
      rw [List.length_cons, Nat.add_one_mul] at hm ⊢
      unfold writeVAHuffmanTables
      have hdc : Within (writeVAHuffmanTable (huffman tableIdx).numDcCodes.toList
          (huffman tableIdx).dcValues.toList 12 0 tableIdx required.dc valid.dc frame).1
          (p + 33) m := writeVAHuffmanTable_within (by simp) h (by omega)
      split
      · rename_i frame' heq
        rw [heq] at hdc
        exact hdc.mono (by omega) (Nat.le_refl _)
      · rename_i frame' heq
        rw [heq] at hdc
        have hac : Within (writeVAHuffmanTable (huffman tableIdx).numAcCodes.toList
            (huffman tableIdx).acValues.toList 162 1 tableIdx required.ac valid.ac frame').1
            (p + 33 + 183) m := writeVAHuffmanTable_within (by simp) hdc (by omega)
        split
        · rename_i frame'' heq'
          rw [heq'] at hac
          exact hac.mono (by omega) (Nat.le_refl _)
        · rename_i frame'' heq'
          rw [heq'] at hac
          exact (ih hac (by omega)).mono (by omega) (Nat.le_refl _)

/-- Whatever tables of the application are tried before, the Huffman tables take 432 bytes at
most. -/
theorem writeHuffmanTables_within (jpegCtx : JPEGContext) (required : HuffmanMasks)
    (h : Within frame p m) (hm : p + 432 ≤ m) :
    Within (writeHuffmanTables jpegCtx required frame) (p + 432) m := by
  unfold writeHuffmanTables
  split
  · have htables : Within (writeVAHuffmanTables jpegCtx.huffmanTable required
        ⟨jpegCtx.validHuffmanDcMask, jpegCtx.validHuffmanAcMask⟩ [0, 1] frame).1 (p + 432) m :=
      writeVAHuffmanTables_within h hm
    split
    · rename_i tmp heq
      rw [heq] at htables
      exact htables
    · rename_i tmp heq
      rw [heq] at htables
      exact writeStandardHuffmanTables_within (h.rewind htables (by omega)) hm
  · exact writeStandardHuffmanTables_within h hm

end Tables

/-! ## Scans -/

/-- The sizes of the data of some slices. -/
def dataSizes (slices : List SliceParameter) : Nat :=
  (slices.map fun slice => slice.sliceDataSize.toNat).sum

section Scans

variable {frame : Frame} {p m : Nat}

theorem length_data_le (slice : SliceParameter) (sliceData : List UInt8) :
    (slice.data sliceData).length ≤ slice.sliceDataSize.toNat :=
  List.length_take_le ..

theorem writeRestartInterval_within {restartInterval : UInt16} (h : Within frame p m)
    (hm : p + 6 ≤ m) : Within (writeRestartInterval restartInterval frame) (p + 6) m := by
  unfold writeRestartInterval
  split
  · exact h.emit (Nat.le_of_eq (length_driSegment restartInterval)) hm
  · exact h.mono (by omega) (Nat.le_refl _)

/-- A loop over the slices in which every slice takes its data and `n` bytes at most. -/
theorem foldl_within {step : Frame → SliceParameter → Frame} {n : Nat} :
    ∀ {slices : List SliceParameter} {frame : Frame} {p : Nat},
      (∀ slice ∈ slices, ∀ frame p, Within frame p m → p + (n + slice.sliceDataSize.toNat) ≤ m →
        Within (step frame slice) (p + (n + slice.sliceDataSize.toNat)) m) →
      Within frame p m → p + (slices.length * n + dataSizes slices) ≤ m →
      Within (slices.foldl step frame) (p + (slices.length * n + dataSizes slices)) m
  | [], _, _, _, h, _ => by simpa [dataSizes] using h
  | slice :: slices, frame, p, hstep, h, hm => by
      have hsizes : dataSizes (slice :: slices) =
          slice.sliceDataSize.toNat + dataSizes slices := by simp [dataSizes]
      rw [List.length_cons, Nat.add_one_mul, hsizes] at hm ⊢
      have hnext := hstep slice List.mem_cons_self frame p h (by omega)
      have hrest := foldl_within
        (fun slice' hmem => hstep slice' (List.mem_cons_of_mem _ hmem)) hnext (by omega)
      exact hrest.mono (by omega) (Nat.le_refl _)

/-- The data of the slices under one header. -/
theorem sharedHeader_within (sliceData : List UInt8) {slice0 : SliceParameter}
    {slices : List SliceParameter} (hsos : (sosSegment slice0).length ≤ 16) (h : Within frame p m)
    (hm : p + 16 + dataSizes slices ≤ m) :
    Within (slices.foldl (fun frame slice => frame.emit (slice.data sliceData))
      (frame.emit (sosSegment slice0))) (p + 16 + dataSizes slices) m := by
  have hdata := foldl_within (n := 0)
    (fun slice (_ : slice ∈ slices) frame p hw hle =>
      hw.emit (Nat.le_trans (length_data_le slice sliceData) (Nat.le_add_left _ 0)) hle)
    (h.emit hsos (by omega)) (by omega)
  rw [Nat.mul_zero, Nat.zero_add] at hdata
  exact hdata

/-- The slices under headers of their own, each behind its interval where `n` has room for
it. -/
theorem ownHeaders_within (sliceData : List UInt8) {slices : List SliceParameter} {n : Nat}
    (sameRestart : Bool) (hn : n = if sameRestart then 16 else 22)
    (hsos : ∀ slice ∈ slices, (sosSegment slice).length ≤ 16) (h : Within frame p m)
    (hm : p + (slices.length * n + dataSizes slices) ≤ m) :
    Within (slices.foldl (fun frame slice =>
      let frame := if sameRestart then frame else writeRestartInterval slice.restartInterval frame
      (frame.emit (sosSegment slice)).emit (slice.data sliceData)) frame)
      (p + (slices.length * n + dataSizes slices)) m := by
  refine foldl_within (fun slice hslice frame p hw hle => ?_) h hm
  cases sameRestart with
  | true =>
      change n = 16 at hn
      have hdata := (hw.emit (hsos slice hslice) (by omega)).emit
        (length_data_le slice sliceData) (by omega)
      exact hdata.mono (by omega) (Nat.le_refl _)
  | false =>
      change n = 22 at hn
      have hinterval : Within (writeRestartInterval slice.restartInterval frame) (p + 6) m :=
        writeRestartInterval_within hw (by omega)
      have hdata := (hinterval.emit (hsos slice hslice) (by omega)).emit
        (length_data_le slice sliceData) (by omega)
      exact hdata.mono (by omega) (Nat.le_refl _)

/-- The scans take the data of the slices and 22 bytes a slice at most. -/
theorem writeScans_within (sliceData : List UInt8) {slice0 : SliceParameter}
    {rest : List SliceParameter}
    (hcomponents : ∀ slice ∈ slice0 :: rest, slice.numComponents.toNat ≤ maxComponents)
    (h : Within frame p m)
    (hm : p + ((slice0 :: rest).length * 22 + dataSizes (slice0 :: rest)) ≤ m) :
    Within (writeScans slice0 (slice0 :: rest) sliceData frame)
      (p + ((slice0 :: rest).length * 22 + dataSizes (slice0 :: rest))) m := by
  have hsos : ∀ slice ∈ slice0 :: rest, (sosSegment slice).length ≤ 16 := by
    intro slice hslice
    have hle := hcomponents slice hslice
    rw [length_sosSegment]
    unfold maxComponents at hle
    omega
  have hcount : 1 ≤ (slice0 :: rest).length := Nat.succ_le_succ (Nat.zero_le _)
  have hsos0 := hsos slice0 List.mem_cons_self
  unfold writeScans
  generalize slice0 :: rest = slices at *
  simp only
  cases allSameRestartInterval slice0 slices with
  | true =>
      -- All slices share the interval, which is written once, before the scans.
      have hstart : Within (writeRestartInterval slice0.restartInterval frame) (p + 6) m :=
        writeRestartInterval_within h (by omega)
      rw [if_pos rfl]
      split
      · have hroom : p + 6 + 16 + dataSizes slices ≤ m := by omega
        exact (sharedHeader_within sliceData hsos0 hstart hroom).mono (by omega) (Nat.le_refl _)
      · have hscans := ownHeaders_within (n := 16) sliceData true rfl hsos hstart (by omega)
        exact hscans.mono (by omega) (Nat.le_refl _)
  | false =>
      have hstart : (if false = true then writeRestartInterval slice0.restartInterval frame
        else frame) = frame := rfl
      rw [hstart]
      split
      · exact (sharedHeader_within sliceData hsos0 h (by omega)).mono (by omega) (Nat.le_refl _)
      · exact ownHeaders_within (n := 22) sliceData false rfl hsos h hm

theorem writeEOI_within (h : Within frame p m) (hm : p + 2 ≤ m) :
    Within (writeEOI frame) (p + 2) m := by
  unfold writeEOI
  split
  · exact h.mono (by omega) (Nat.le_refl _)
  · exact h.emit (Nat.le_refl 2) hm

end Scans

/-! ## The worst case -/

/-- The bytes that the segments of a frame and its slices may take. -/
def worstCase (pic : PictureParameter) (slices : List SliceParameter) : Nat :=
  740 + pic.numComponents.toNat * 3 + slices.length * 22 + dataSizes slices

/-- No write of a frame gets beyond the worst case. -/
theorem writeFrame_within (jpegCtx : JPEGContext) {slice0 : SliceParameter}
    {rest : List SliceParameter} (sliceData : List UInt8) (required : HuffmanMasks)
    (hcomponents : ∀ slice ∈ slice0 :: rest, slice.numComponents.toNat ≤ maxComponents) :
    (writeFrame jpegCtx slice0 (slice0 :: rest) sliceData required).1.extent ≤
      worstCase jpegCtx.picParams (slice0 :: rest) := by
  unfold worstCase
  generalize hm : 740 + jpegCtx.picParams.numComponents.toNat * 3 +
    (slice0 :: rest).length * 22 + dataSizes (slice0 :: rest) = m
  have hempty : Within {} 0 m := ⟨Nat.le_refl _, Nat.zero_le _⟩
  have hjfif : Within (({} : Frame).emit jfifHeader) (0 + 20) m :=
    hempty.emit (Nat.le_refl 20) (by omega)
  have hdqt : Within (writeDQT jpegCtx.iqMatrix jpegCtx.picParams jpegCtx.validQuantTablesMask
      (({} : Frame).emit jfifHeader)).1 (0 + 20 + 276) m := writeDQT_within hjfif (by omega)
  unfold writeFrame
  split
  · rename_i frame heq
    rw [heq] at hdqt
    exact hdqt.extent
  · rename_i frame heq
    rw [heq] at hdqt
    have hsof := hdqt.emit (Nat.le_of_eq (length_sof0Segment jpegCtx.picParams)) (by omega)
    have hhuffman := writeHuffmanTables_within jpegCtx required hsof (by omega)
    have hscans := writeScans_within sliceData hcomponents hhuffman (by omega)
    exact (writeEOI_within hscans (by omega)).extent

/-! ## Checks -/

/-- What the checks of the slices let pass: scans of four components at most, and the sum of the
sizes of their data. -/
theorem foldlM_checkSlice {pic : PictureParameter} {sliceDataSize : Nat} :
    ∀ {slices : List SliceParameter} {before collected : Collected},
      slices.foldlM (checkSlice pic sliceDataSize) before = some collected →
      (∀ slice ∈ slices, slice.numComponents.toNat ≤ maxComponents) ∧
        collected.totalEcsSize = before.totalEcsSize + dataSizes slices
  | [], _, _, h => by
      cases h
      exact ⟨fun _ hslice => absurd hslice List.not_mem_nil, rfl⟩
  | slice :: slices, before, collected, h => by
      rw [List.foldlM_cons] at h
      obtain ⟨next, hnext, hrest⟩ := Option.bind_eq_some_iff.mp h
      obtain ⟨hcomponents, htotal⟩ := foldlM_checkSlice hrest
      have hslice : slice.numComponents.toNat ≤ maxComponents ∧
          next.totalEcsSize = before.totalEcsSize + slice.sliceDataSize.toNat := by
        unfold checkSlice at hnext
        split at hnext
        · cases hnext
        · split at hnext
          · cases hnext
          · rename_i hvalid
            split at hnext
            · cases hnext
            · split at hnext
              · cases hnext
              · split at hnext
                · cases hnext
                · cases hnext
                  refine ⟨?_, rfl⟩
                  unfold validateSliceAndCollectHuffmanUsage at hvalid
                  split at hvalid
                  · cases hvalid
                  · rename_i hcount
                    exact Nat.le_of_not_gt fun hgt => hcount (.inr hgt)
      refine ⟨?_, ?_⟩
      · rintro slice' hslice'
        rcases List.mem_cons.mp hslice' with rfl | hmem
        · exact hslice.1
        · exact hcomponents slice' hmem
      · have hsizes : dataSizes (slice :: slices) =
            slice.sliceDataSize.toNat + dataSizes slices := by simp [dataSizes]
        rw [htotal, hslice.2, hsizes, Nat.add_assoc]

theorem checkParameters_foldlM {jpegCtx : JPEGContext} {slices : List SliceParameter}
    {sliceDataSize : Nat} {collected : Collected}
    (hcheck : checkParameters jpegCtx slices sliceDataSize = some collected) :
    slices.foldlM (checkSlice jpegCtx.picParams sliceDataSize) {} = some collected := by
  unfold checkParameters at hcheck
  split at hcheck
  · cases hcheck
  · split at hcheck
    · cases hcheck
    · split at hcheck
      · cases hcheck
      · split at hcheck
        · cases hcheck
        · split at hcheck
          · cases hcheck
          · split at hcheck
            · cases hcheck
            · exact hcheck

theorem checkParameters_spec {jpegCtx : JPEGContext} {slices : List SliceParameter}
    {sliceDataSize : Nat} {collected : Collected}
    (hcheck : checkParameters jpegCtx slices sliceDataSize = some collected) :
    (∀ slice ∈ slices, slice.numComponents.toNat ≤ maxComponents) ∧
      collected.totalEcsSize = dataSizes slices := by
  obtain ⟨hcomponents, htotal⟩ := foldlM_checkSlice (checkParameters_foldlM hcheck)
  exact ⟨hcomponents, htotal.trans (Nat.zero_add _)⟩

/-- The worst case that the code computes is the exact one, up to its 64 bits. -/
theorem maxSize64_eq (pic : PictureParameter) (slices : List SliceParameter) :
    maxSize64 pic slices.length (dataSizes slices) = worstCase pic slices % 2 ^ 64 := by
  unfold maxSize64 worstCase
  simp only
  have hjfif : jfifHeader.length = 20 := rfl
  rw [hjfif]
  congr 1
  omega

/-! ## The output -/

/-- The bytes in use, and how many there are. -/
def SameBytes (buffer buffer' : AppendableBuffer) : Prop :=
  buffer'.bytes = buffer.bytes ∧ buffer'.size = buffer.size

theorem SameBytes.refl (buffer : AppendableBuffer) : SameBytes buffer buffer := ⟨rfl, rfl⟩

theorem SameBytes.trans {a b c : AppendableBuffer} (h : SameBytes a b) (h' : SameBytes b c) :
    SameBytes a c :=
  ⟨h'.1.trans h.1, h'.2.trans h.2⟩

theorem overwrite_sameBytes (output : AppendableBuffer) (memory : List UInt8) :
    SameBytes output (overwrite output memory) := by
  refine ⟨?_, rfl⟩
  show (output.bytes ++ memory ++ output.buf.drop (output.size + memory.length)).take output.size =
    output.bytes
  rw [List.append_assoc, List.take_append_of_le_length (by simp)]
  exact List.take_of_length_le (by simp)

theorem reserveAdditional_sameBytes {heap : Heap} {buffer buffer' : AppendableBuffer}
    {additional : Nat} {ok : Bool}
    (hreserve : reserveAdditionalBuffer heap buffer additional = (buffer', ok)) :
    SameBytes buffer buffer' ∧ (ok = true → buffer.size + additional ≤ buffer'.allocated) := by
  unfold reserveAdditionalBuffer at hreserve
  split at hreserve
  · cases hreserve
    exact ⟨.refl _, nofun⟩
  · cases ok with
    | true =>
        obtain ⟨hbytes, hsize, -, hroom⟩ := AppendableBuffer.reserve_spec hreserve
        exact ⟨⟨hbytes, hsize⟩, fun _ => hroom⟩
    | false =>
        rw [AppendableBuffer.reserve_failed hreserve]
        exact ⟨.refl _, nofun⟩

/-- A frame that has room is written into the block, and where it is given up the bytes in use
stay as they are. -/
theorem finishFrame_spec {output : AppendableBuffer} {frame : Frame} {written : Bool}
    (hroom : output.size + frame.extent ≤ output.allocated) :
    finishFrame output frame written ≠ .overrun ∧
      (∀ output', finishFrame output frame written = .refused output' →
        SameBytes output output') ∧
      ∀ output' outSize, finishFrame output frame written = .rebuilt output' outSize →
        output'.size ≤ uint32Max := by
  unfold finishFrame
  rw [if_neg (Nat.not_lt.mpr hroom)]
  simp only
  split
  · refine ⟨nofun, ?_, nofun⟩
    rintro output' ⟨⟩
    exact overwrite_sameBytes output _
  · split
    · refine ⟨nofun, ?_, nofun⟩
      rintro output' ⟨⟩
      exact overwrite_sameBytes output _
    · split
      · refine ⟨nofun, ?_, nofun⟩
        rintro output' ⟨⟩
        exact overwrite_sameBytes output _
      · rename_i hframe hsum
        refine ⟨nofun, nofun, ?_⟩
        rintro output' outSize ⟨⟩
        show output.size + frame.bytes.length ≤ uint32Max
        omega

/-- Where the worst case fits 64 bits, the frame stays in the block that is reserved, and where
it is given up the bitstream is as it was. -/
theorem reconstructJPEG_spec (heap : Heap) (output : AppendableBuffer) {jpegCtx : JPEGContext}
    {slices : List SliceParameter} {sliceData : List UInt8}
    (hfits : ∀ collected, checkParameters jpegCtx slices sliceData.length = some collected →
      worstCase jpegCtx.picParams slices < 2 ^ 64) :
    reconstructJPEG heap jpegCtx slices sliceData output ≠ .overrun ∧
      (∀ output', reconstructJPEG heap jpegCtx slices sliceData output = .refused output' →
        SameBytes output output') ∧
      ∀ output' outSize,
        reconstructJPEG heap jpegCtx slices sliceData output = .rebuilt output' outSize →
        output'.size ≤ uint32Max := by
  have hsame : Reconstruction.refused output ≠ .overrun ∧
      (∀ output', Reconstruction.refused output = .refused output' → SameBytes output output') ∧
      ∀ output' outSize, Reconstruction.refused output = .rebuilt output' outSize →
        output'.size ≤ uint32Max := by
    refine ⟨nofun, ?_, nofun⟩
    rintro output' ⟨⟩
    exact .refl output
  unfold reconstructJPEG
  split
  · rename_i collected slice0 rest hcheck
    obtain ⟨hcomponents, htotal⟩ := checkParameters_spec hcheck
    have hsize := maxSize64_eq jpegCtx.picParams (slice0 :: rest)
    rw [Nat.mod_eq_of_lt (hfits collected hcheck)] at hsize
    rw [htotal, hsize]
    simp only
    split
    · exact hsame
    · split
      · rename_i reserved hreserve
        refine ⟨nofun, ?_, nofun⟩
        rintro output' ⟨⟩
        exact (reserveAdditional_sameBytes hreserve).1
      · rename_i reserved hreserve
        obtain ⟨hkept, hroom⟩ := reserveAdditional_sameBytes hreserve
        have hextent := writeFrame_within jpegCtx sliceData collected.required hcomponents
        have hle := hroom rfl
        have hstays : reserved.size +
            (writeFrame jpegCtx slice0 (slice0 :: rest) sliceData collected.required).1.extent ≤
              reserved.allocated := by
          rw [hkept.2]
          omega
        obtain ⟨hinside, hrefused, hrebuilt⟩ := finishFrame_spec hstays
        exact ⟨hinside, fun output' heq => hkept.trans (hrefused output' heq), hrebuilt⟩
  · exact hsame

/-- The offset that is appended for a frame is taken back. -/
theorem dropOffset_sameBytes {heap : Heap} {sliceOffsets sliceOffsets' : AppendableBuffer}
    {offset : Nat} (happend : sliceOffsets.append heap (le32 offset) = (sliceOffsets', true)) :
    SameBytes sliceOffsets (dropOffset sliceOffsets') := by
  obtain ⟨hbytes, hsize, -⟩ := AppendableBuffer.append_spec happend
  have hfour : (le32 offset).length = 4 := rfl
  have hdrop : (dropOffset sliceOffsets').size = sliceOffsets.size := by
    show sliceOffsets'.size - 4 = sliceOffsets.size
    omega
  refine ⟨?_, hdrop⟩
  show sliceOffsets'.buf.take (dropOffset sliceOffsets').size = sliceOffsets.bytes
  rw [hdrop]
  calc sliceOffsets'.buf.take sliceOffsets.size
      = (sliceOffsets'.buf.take sliceOffsets'.size).take sliceOffsets.size := by
        rw [List.take_take, Nat.min_eq_left (by omega)]
    _ = (sliceOffsets.bytes ++ le32 offset).take sliceOffsets.size := by rw [← hbytes]; rfl
    _ = sliceOffsets.bytes := by
        rw [List.take_append_of_le_length (by simp)]
        exact List.take_of_length_le (by simp)

/-! ## Main results -/

/-- What is asked of `copyJPEGSliceData`: where the checks let a picture and its slices pass, the
worst case is computed exactly and the writes stay within it; no write leaves the block; and a
failure leaves the bitstream and the offsets as they were. -/
structure BuildsCleanly (offsetsHeap bitstreamHeap : Heap) (ctx : SliceContext)
    (sliceData : List UInt8) : Prop where
  bounded : ∀ jpegCtx slice0 rest collected, ctx.codecData = some jpegCtx →
    ctx.lastSliceParams = some (slice0 :: rest) →
    checkParameters jpegCtx (slice0 :: rest) sliceData.length = some collected →
    maxSize64 jpegCtx.picParams (slice0 :: rest).length collected.totalEcsSize =
        worstCase jpegCtx.picParams (slice0 :: rest) ∧
      (writeFrame jpegCtx slice0 (slice0 :: rest) sliceData collected.required).1.extent ≤
        maxSize64 jpegCtx.picParams (slice0 :: rest).length collected.totalEcsSize
  inside : copyJPEGSliceData offsetsHeap bitstreamHeap ctx sliceData ≠ .overrun
  failsCleanly : ∀ ctx', copyJPEGSliceData offsetsHeap bitstreamHeap ctx sliceData = .failed ctx' →
    SameBytes ctx.bitstreamBuffer ctx'.bitstreamBuffer ∧
      SameBytes ctx.sliceOffsets ctx'.sliceOffsets

theorem refuse_buffers (ctx : SliceContext) :
    ctx.refuse.bitstreamBuffer = ctx.bitstreamBuffer ∧
      ctx.refuse.sliceOffsets = ctx.sliceOffsets := by
  unfold SliceContext.refuse
  split
  · exact ⟨rfl, rfl⟩
  · exact ⟨rfl, rfl⟩

/-- `copyJPEGSliceData` never leaves the block and fails cleanly, where the worst case of every
list of slices that the checks let pass fits 64 bits. -/
theorem copyJPEGSliceData_spec (offsetsHeap bitstreamHeap : Heap) {ctx : SliceContext}
    {sliceData : List UInt8}
    (hfits : ∀ jpegCtx slices collected, ctx.codecData = some jpegCtx →
      ctx.lastSliceParams = some slices →
      checkParameters jpegCtx slices sliceData.length = some collected →
      worstCase jpegCtx.picParams slices < 2 ^ 64) :
    copyJPEGSliceData offsetsHeap bitstreamHeap ctx sliceData ≠ .overrun ∧
      ∀ ctx', copyJPEGSliceData offsetsHeap bitstreamHeap ctx sliceData = .failed ctx' →
        SameBytes ctx.bitstreamBuffer ctx'.bitstreamBuffer ∧
          SameBytes ctx.sliceOffsets ctx'.sliceOffsets := by
  have hinvalid : Handled.failed ctx.invalid ≠ .overrun ∧
      ∀ ctx', Handled.failed ctx.invalid = .failed ctx' →
        SameBytes ctx.bitstreamBuffer ctx'.bitstreamBuffer ∧
          SameBytes ctx.sliceOffsets ctx'.sliceOffsets := by
    refine ⟨nofun, ?_⟩
    rintro ctx' ⟨⟩
    exact ⟨.refl _, .refl _⟩
  unfold copyJPEGSliceData
  split
  · refine ⟨nofun, ?_⟩
    rintro ctx' ⟨⟩
    rw [(refuse_buffers ctx).1, (refuse_buffers ctx).2]
    exact ⟨.refl _, .refl _⟩
  · rename_i jpegCtx hcodec
    split
    · exact hinvalid
    · rename_i slices hslices
      split
      · exact hinvalid
      · split
        · exact hinvalid
        · split
          · exact hinvalid
          · split
            · rename_i sliceOffsets happend
              refine ⟨nofun, ?_⟩
              rintro ctx' ⟨⟩
              rw [AppendableBuffer.append_failed happend]
              exact ⟨.refl _, .refl _⟩
            · rename_i sliceOffsets happend
              obtain ⟨hinside, hrefused, hrebuilt⟩ := reconstructJPEG_spec bitstreamHeap
                ctx.bitstreamBuffer fun collected hcheck =>
                  hfits jpegCtx slices collected hcodec hslices hcheck
              split
              · rename_i heq
                exact absurd heq hinside
              · rename_i output heq
                refine ⟨nofun, ?_⟩
                rintro ctx' ⟨⟩
                rw [(refuse_buffers _).1, (refuse_buffers _).2]
                exact ⟨hrefused output heq, dropOffset_sameBytes happend⟩
              · rename_i output outSize heq
                unfold nvCommitCuvidBitstreamLength
                rw [if_neg (Nat.not_lt.mpr (hrebuilt output outSize heq))]
                exact ⟨nofun, nofun⟩

/-- `copyJPEGSliceData` does what is asked of it exactly where the worst case of the slices that
the checks let pass, 740 bytes, 3 a component, 22 a slice and the data, fits 64 bits. -/
theorem buildsCleanly_iff (offsetsHeap bitstreamHeap : Heap) (ctx : SliceContext)
    (sliceData : List UInt8) :
    BuildsCleanly offsetsHeap bitstreamHeap ctx sliceData ↔
      ∀ jpegCtx slices collected, ctx.codecData = some jpegCtx →
        ctx.lastSliceParams = some slices →
        checkParameters jpegCtx slices sliceData.length = some collected →
        740 + jpegCtx.picParams.numComponents.toNat * 3 + slices.length * 22 +
          (slices.map fun slice => slice.sliceDataSize.toNat).sum < 2 ^ 64 := by
  constructor
  · intro h jpegCtx slices collected hcodec hslices hcheck
    cases slices with
    | nil =>
        show 740 + _ * 3 + 0 * 22 + 0 < 2 ^ 64
        have hle := jpegCtx.picParams.numComponents.toNat_lt
        omega
    | cons slice0 rest =>
        have hexact := (h.bounded jpegCtx slice0 rest collected hcodec hslices hcheck).1
        rw [(checkParameters_spec hcheck).2, maxSize64_eq] at hexact
        have hlt := Nat.mod_lt (worstCase jpegCtx.picParams (slice0 :: rest)) (Nat.two_pow_pos 64)
        rw [hexact] at hlt
        exact hlt
  · intro hfits
    have hspec := copyJPEGSliceData_spec offsetsHeap bitstreamHeap hfits
    refine ⟨?_, hspec.1, hspec.2⟩
    intro jpegCtx slice0 rest collected hcodec hslices hcheck
    obtain ⟨hcomponents, htotal⟩ := checkParameters_spec hcheck
    have hsize := maxSize64_eq jpegCtx.picParams (slice0 :: rest)
    have hlt : worstCase jpegCtx.picParams (slice0 :: rest) < 2 ^ 64 :=
      hfits jpegCtx _ collected hcodec hslices hcheck
    rw [Nat.mod_eq_of_lt hlt] at hsize
    rw [htotal, hsize]
    exact ⟨rfl, writeFrame_within jpegCtx sliceData collected.required hcomponents⟩

/-! ## Slices without number -/

/-- Copies of a slice pass the checks, as long as the sum of their sizes fits 64 bits. -/
theorem foldlM_checkSlice_replicate {pic : PictureParameter} {sliceDataSize : Nat}
    {slice : SliceParameter} (hflag : slice.sliceDataFlag = 0)
    (hvalid : ∀ required, (validateSliceAndCollectHuffmanUsage pic slice required).isSome)
    (hoffset : slice.sliceDataOffset.toNat ≤ sliceDataSize)
    (hsize : slice.sliceDataSize.toNat ≤ sliceDataSize - slice.sliceDataOffset.toNat) :
    ∀ (count : Nat) (before : Collected),
      before.totalEcsSize + count * slice.sliceDataSize.toNat ≤ sizeMax →
      ∃ collected, (List.replicate count slice).foldlM (checkSlice pic sliceDataSize) before =
        some collected := by
  intro count
  induction count with
  | zero => exact fun before _ => ⟨before, rfl⟩
  | succ count ih =>
      intro before hfits
      rw [Nat.add_one_mul] at hfits
      obtain ⟨required, hrequired⟩ := Option.isSome_iff_exists.mp (hvalid before.required)
      have hslice : checkSlice pic sliceDataSize before slice =
          some ⟨before.totalEcsSize + slice.sliceDataSize.toNat, required⟩ := by
        unfold checkSlice
        rw [if_neg (not_not.mpr hflag), hrequired]
        simp only
        rw [if_neg (Nat.not_lt.mpr hoffset), if_neg (Nat.not_lt.mpr hsize), if_neg (by omega)]
      obtain ⟨collected, hcollected⟩ :=
        ih ⟨before.totalEcsSize + slice.sliceDataSize.toNat, required⟩ (by simp only; omega)
      refine ⟨collected, ?_⟩
      rw [List.replicate_succ, List.foldlM_cons, hslice]
      exact hcollected

/-- A picture of one component. -/
def grey : JPEGContext where
  picParams :=
    { pictureWidth := 16, pictureHeight := 16, numComponents := 1
      components := fun _ => ⟨1, 1, 1, 0⟩ }
  iqMatrix _ := Vector.replicate 64 1
  huffmanTable _ :=
    ⟨Vector.replicate 16 0, Vector.replicate 12 0, Vector.replicate 16 0, Vector.replicate 162 0⟩
  hasPicParams := true
  hasIQMatrix := true
  validQuantTablesMask := 1

/-- A scan of all bytes of a buffer of 4 GiB. -/
def wholeBuffer : SliceParameter where
  sliceDataSize := 0xffffffff
  sliceDataOffset := 0
  numComponents := 1
  components _ := ⟨1, 0, 0⟩
  restartInterval := 0

/-- As many slices as a buffer of parameters can have, each with a whole buffer of data. -/
def hugeContext : SliceContext where
  codecData := some grey
  lastSliceParams := some (List.replicate (2 ^ 32 - 1) wholeBuffer)

theorem hugeContext_passes : ∃ collected, checkParameters grey
    (List.replicate (2 ^ 32 - 1) wholeBuffer) (2 ^ 32 - 1) = some collected := by
  have hsize : wholeBuffer.sliceDataSize.toNat = 2 ^ 32 - 1 := rfl
  have hvalid : ∀ required,
      (validateSliceAndCollectHuffmanUsage grey.picParams wholeBuffer required).isSome :=
    fun _ => rfl
  obtain ⟨collected, hcollected⟩ :=
    foldlM_checkSlice_replicate rfl hvalid (Nat.zero_le (2 ^ 32 - 1)) (Nat.le_of_eq hsize)
      (2 ^ 32 - 1) {} (by rw [hsize]; decide)
  refine ⟨collected, ?_⟩
  unfold checkParameters
  rw [if_neg (by decide), if_neg (by decide), if_neg (by decide)]
  show (if grey.validQuantTablesMask &&& 1 ≠ 1 then none
    else if (List.replicate (2 ^ 32 - 1) wholeBuffer).length = 0 then none else _) = _
  rw [if_neg (by decide), List.length_replicate, if_neg (by decide)]
  exact hcollected

/-- A heap with all the memory that is asked for. -/
def plenty : Heap where
  available _ := true
  contents _ := 0

theorem copyJPEGSliceData_overflows :
    ¬BuildsCleanly plenty plenty hugeContext (List.replicate (2 ^ 32 - 1) 0) := by
  intro h
  obtain ⟨collected, hcollected⟩ := hugeContext_passes
  have hcons : List.replicate (2 ^ 32 - 1) wholeBuffer =
      wholeBuffer :: List.replicate (2 ^ 32 - 2) wholeBuffer :=
    List.replicate_succ (n := 2 ^ 32 - 2)
  rw [hcons] at hcollected
  have hexact := (h.bounded grey wholeBuffer _ collected rfl (by rw [← hcons]; rfl)
    (by rw [List.length_replicate]; exact hcollected)).1
  rw [(checkParameters_spec hcollected).2, maxSize64_eq, ← hcons] at hexact
  have hsizes : dataSizes (List.replicate (2 ^ 32 - 1) wholeBuffer) =
      (2 ^ 32 - 1) * (2 ^ 32 - 1) := by
    rw [dataSizes, List.map_replicate, List.sum_replicate_nat]
    rfl
  have hworst : worstCase grey.picParams (List.replicate (2 ^ 32 - 1) wholeBuffer) =
      740 + 3 + (2 ^ 32 - 1) * 22 + (2 ^ 32 - 1) * (2 ^ 32 - 1) := by
    rw [worstCase, hsizes, List.length_replicate]
    rfl
  rw [hworst] at hexact
  revert hexact
  decide

end Jpeg
end NvidiaVaapi
