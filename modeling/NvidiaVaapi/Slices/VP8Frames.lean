import NvidiaVaapi.Lib.Vp8FrameHeader
import NvidiaVaapi.Slices.SliceEmission

/-!
# The frames of VP8

The driver writes the uncompressed part of a frame itself, from the picture parameters and the
size of the first partition that it computes from the slice parameters.
-/

namespace NvidiaVaapi
namespace Slices

open Codec

/-! ## The header -/

/-- The fields of a frame fit their bits; the width and the height have 16 bits when they come
to `nvBuildVP8FrameHeader`. -/
structure VP8Frame.Fits (frame : VP8Frame) : Prop where
  version : frame.version ≤ 7
  firstPartitionSize : frame.firstPartitionSize ≤ 0x7ffff
  width : frame.keyFrame = true → frame.width % 2 ^ 16 ≤ 0x3fff
  height : frame.keyFrame = true → frame.height % 2 ^ 16 ≤ 0x3fff

/-- The header that a frame describes; it is not scaled. -/
def VP8Frame.header (frame : VP8Frame) (hfits : frame.Fits) : Vp8.FrameHeader where
  version := ⟨frame.version, Nat.lt_succ_of_le hfits.version⟩
  showFrame := frame.showFrame
  firstPartSize := ⟨frame.firstPartitionSize, Nat.lt_succ_of_le hfits.firstPartitionSize⟩
  dimensions :=
    if hkey : frame.keyFrame = true then
      some ⟨⟨frame.width % 2 ^ 16, Nat.lt_succ_of_le (hfits.width hkey)⟩, 0,
        ⟨frame.height % 2 ^ 16, Nat.lt_succ_of_le (hfits.height hkey)⟩, 0⟩
    else none

theorem VP8Frame.header_key {frame : VP8Frame} (hfits : frame.Fits)
    (hkey : frame.keyFrame = true) : (frame.header hfits).dimensions =
      some ⟨⟨frame.width % 2 ^ 16, Nat.lt_succ_of_le (hfits.width hkey)⟩, 0,
        ⟨frame.height % 2 ^ 16, Nat.lt_succ_of_le (hfits.height hkey)⟩, 0⟩ :=
  dif_pos hkey

theorem VP8Frame.header_inter {frame : VP8Frame} (hfits : frame.Fits)
    (hkey : ¬ frame.keyFrame = true) : (frame.header hfits).dimensions = none :=
  dif_neg hkey

theorem VP8Frame.header_isSome {frame : VP8Frame} (hfits : frame.Fits) :
    (frame.header hfits).dimensions.isSome = frame.keyFrame := by
  by_cases hkey : frame.keyFrame = true
  · rw [VP8Frame.header_key hfits hkey, hkey]
    rfl
  · rw [VP8Frame.header_inter hfits hkey, Bool.eq_false_iff.mpr hkey]
    rfl

theorem VP8Frame.fits_iff (frame : VP8Frame) :
    frame.Fits ↔ ¬ (frame.version > 7 ∨ frame.firstPartitionSize > 0x7ffff ∨
      (frame.keyFrame ∧ (frame.width % 2 ^ 16 > 0x3fff ∨ frame.height % 2 ^ 16 > 0x3fff))) := by
  constructor
  · rintro ⟨hversion, hsize, hwidth, hheight⟩ (h | h | ⟨hkey, h | h⟩)
    · omega
    · omega
    · have := hwidth hkey
      omega
    · have := hheight hkey
      omega
  · intro hfits
    refine ⟨by omega, by omega, fun hkey => ?_, fun hkey => ?_⟩
    · by_contra hlarge
      exact hfits (.inr (.inr ⟨hkey, .inl (Nat.lt_of_not_le hlarge)⟩))
    · by_contra hlarge
      exact hfits (.inr (.inr ⟨hkey, .inr (Nat.lt_of_not_le hlarge)⟩))

theorem ofNat_mod_16 (n : Nat) : UInt8.ofNat (n % 2 ^ 16) = UInt8.ofNat n ∧
    UInt8.ofNat (n % 2 ^ 16 / 2 ^ 8) = UInt8.ofNat (n / 2 ^ 8) := by
  constructor <;> apply UInt8.toNat.inj <;> rw [UInt8.toNat_ofNat', UInt8.toNat_ofNat'] <;> omega

/-- The driver writes the header that the frame describes. -/
theorem nvBuildVP8FrameHeader_eq {frame : VP8Frame} (hfits : frame.Fits) :
    nvBuildVP8FrameHeader frame = (frame.header hfits).encode := by
  have htag : (frame.header hfits).tag = (if frame.keyFrame then 0 else 1) + frame.version * 2 +
      (if frame.showFrame then 16 else 0) + frame.firstPartitionSize * 32 := by
    unfold Vp8.FrameHeader.tag
    rw [VP8Frame.header_isSome]
    show (if frame.keyFrame then 0 else 1) + 2 * frame.version + 16 * frame.showFrame.toNat +
      32 * frame.firstPartitionSize = _
    cases frame.showFrame <;> simp only [Bool.toNat_true, Bool.toNat_false, if_true,
      Bool.false_eq_true, if_false] <;> omega
  obtain ⟨hwidth, hwidthHigh⟩ := ofNat_mod_16 frame.width
  obtain ⟨hheight, hheightHigh⟩ := ofNat_mod_16 frame.height
  unfold nvBuildVP8FrameHeader Vp8.FrameHeader.encode
  rw [if_neg ((VP8Frame.fits_iff frame).mp hfits), htag]
  simp only
  by_cases hkey : frame.keyFrame = true
  · rw [VP8Frame.header_key hfits hkey, if_pos hkey]
    simp only [Vp8.Dimensions.encode, Vp8.le16, Vp8.startCode, Fin.val_zero, Nat.mul_zero,
      Nat.add_zero, hwidth, hwidthHigh, hheight, hheightHigh]
    rfl
  · rw [VP8Frame.header_inter hfits hkey, if_neg hkey]
    rfl

theorem nvBuildVP8FrameHeader_ne_nil_iff (frame : VP8Frame) :
    nvBuildVP8FrameHeader frame ≠ [] ↔ frame.Fits := by
  constructor
  · intro hbuilt
    by_contra hlarge
    apply hbuilt
    unfold nvBuildVP8FrameHeader
    rw [if_pos (Classical.not_not.mp (mt (VP8Frame.fits_iff frame).mpr hlarge))]
  · intro hfits hnone
    rw [nvBuildVP8FrameHeader_eq hfits] at hnone
    have hlength := (frame.header hfits).length_encode
    rw [hnone, List.length_nil] at hlength
    split at hlength <;> cases hlength

/-- A header that is read back, with the values it was built from. -/
structure ReadsBack (frame : VP8Frame) (header : Vp8.FrameHeader) : Prop where
  version : header.version.val = frame.version
  showFrame : header.showFrame = frame.showFrame
  firstPartSize : header.firstPartSize.val = frame.firstPartitionSize
  keyFrame : header.dimensions.isSome = frame.keyFrame
  dimensions : ∀ dimensions, header.dimensions = some dimensions →
    dimensions.width.val = frame.width % 2 ^ 16 ∧ dimensions.height.val = frame.height % 2 ^ 16 ∧
      dimensions.horizontalScale = 0 ∧ dimensions.verticalScale = 0

theorem VP8Frame.header_readsBack {frame : VP8Frame} (hfits : frame.Fits) :
    ReadsBack frame (frame.header hfits) := by
  refine ⟨rfl, rfl, rfl, VP8Frame.header_isSome hfits, fun dimensions hsome => ?_⟩
  by_cases hkey : frame.keyFrame = true
  · obtain rfl := Option.some.inj ((VP8Frame.header_key hfits hkey).symm.trans hsome)
    exact ⟨rfl, rfl, rfl, rfl⟩
  · cases (VP8Frame.header_inter hfits hkey).symm.trans hsome

/-- `nvBuildVP8FrameHeader` turns down the values that do not fit, and what it builds of others
reads back as these values. -/
def BuildsHeaders : Prop :=
  ∀ (keyFrame : Bool) (version : UInt8) (showFrame : Bool) (firstPartitionSize : UInt32)
    (width height : UInt16),
    let frame : VP8Frame :=
      ⟨width.toNat, height.toNat, keyFrame, version.toNat, showFrame, firstPartitionSize.toNat⟩
    (nvBuildVP8FrameHeader frame = [] ↔ 2 ^ 3 ≤ frame.version ∨
      2 ^ 19 ≤ frame.firstPartitionSize ∨
        frame.keyFrame = true ∧ (2 ^ 14 ≤ frame.width ∨ 2 ^ 14 ≤ frame.height)) ∧
    (nvBuildVP8FrameHeader frame ≠ [] → ∀ rest, ∃ header,
      Vp8.FrameHeader.parse (nvBuildVP8FrameHeader frame ++ rest) = some (header, rest) ∧
        ReadsBack frame header)

theorem buildsHeaders : BuildsHeaders := by
  intro keyFrame version showFrame firstPartitionSize width height frame
  have hwidth : frame.width % 2 ^ 16 = frame.width := Nat.mod_eq_of_lt width.toNat_lt
  have hheight : frame.height % 2 ^ 16 = frame.height := Nat.mod_eq_of_lt height.toNat_lt
  refine ⟨?_, fun hbuilt rest => ?_⟩
  · have hfits := VP8Frame.fits_iff frame
    rw [← nvBuildVP8FrameHeader_ne_nil_iff, hwidth, hheight] at hfits
    refine not_iff_not.mp (hfits.trans (not_congr ?_))
    refine or_congr ?_ (or_congr ?_ (and_congr Iff.rfl (or_congr ?_ ?_))) <;> omega
  · have hfits := (nvBuildVP8FrameHeader_ne_nil_iff frame).mp hbuilt
    refine ⟨frame.header hfits, ?_, VP8Frame.header_readsBack hfits⟩
    rw [nvBuildVP8FrameHeader_eq hfits]
    exact Vp8.FrameHeader.parse_encode _ rest

/-! ## The pictures -/

/-- The slice data of a picture, with the slice parameters and the picture parameters that are
in force when it comes. -/
structure VP8Cut where
  frame : VP8Frame
  params : NVBuffer
  data : NVBuffer

/-- The buffers of slice data of a picture that have slice parameters before them. -/
def vp8Cuts : List DecodeBuffer → VP8Frame → Option NVBuffer → List VP8Cut
  | [], _, _ => []
  | .sliceParameter buffer :: rest, frame, _ => vp8Cuts rest frame (some buffer)
  | .sliceData _ :: rest, frame, none => vp8Cuts rest frame none
  | .sliceData buffer :: rest, frame, some params =>
    ⟨frame, params, buffer⟩ :: vp8Cuts rest frame (some params)
  | .other frame :: rest, _, params => vp8Cuts rest frame params

/-- `macroblock_offset`. -/
def macroblockOffset (struct : List UInt8) : Nat :=
  read32 struct 12

/-- `partition_size[0]`. -/
def partitionSize (struct : List UInt8) : Nat :=
  read32 struct 20

/-- The size of the first partition, in the numbers that have no bound:
`partition_size[0]`, and the bytes of `macroblock_offset` bits. -/
def exactFirstPartitionSize (struct : List UInt8) : Nat :=
  partitionSize struct + (macroblockOffset struct + 7) / 8

namespace VP8Cut

variable (cut : VP8Cut)

/-- The structures of the slice parameters. -/
def structs : List (List UInt8) :=
  sliceStructs vaHeaders .vp8 (cut.params.ptr.getD []) cut.params.elements

/-- The first structure, from which the handler computes the size of the first partition. -/
def first : List UInt8 :=
  sliceParameterAt vaHeaders .vp8 (cut.params.ptr.getD []) 0

/-- The bytes of a slice. -/
def sliceBytes (struct : List UInt8) : List UInt8 :=
  structAt (cut.data.ptr.getD []) (SliceParameter.ofStruct struct).sliceDataOffset
    (SliceParameter.ofStruct struct).sliceDataSize

/-- A frame with a size of its first partition, and the bytes of a slice. -/
def piece (firstPartitionSize : Nat) (struct : List UInt8) : List UInt8 :=
  nvBuildVP8FrameHeader { cut.frame with firstPartitionSize } ++ cut.sliceBytes struct

end VP8Cut

/-- What `cuvidDecodePicture` is given. -/
def submitted (ctx : SliceContext) : List UInt8 :=
  ctx.bitstreamBuffer.buf.take ctx.nBitstreamDataLen

/-- `nvBeginPictureImpl`, with the sizes that the end of a picture resets. -/
def beginPicture (ctx : SliceContext) : SliceContext :=
  { sliceParamsBuffer := { ctx.sliceParamsBuffer.clear with failed := false }
    sliceOffsets := { ctx.sliceOffsets.clear with failed := false }
    bitstreamBuffer := { ctx.bitstreamBuffer.clear with failed := false } }

/-- The decoder is given a header with the exact size of the first partition before the bytes of
each slice, and every such size fits. -/
def GivenExactly (cuts : List VP8Cut) (ctx : SliceContext) : Prop :=
  (∀ cut ∈ cuts, ∀ struct ∈ cut.structs, exactFirstPartitionSize struct ≤ 0x7ffff) ∧
    submitted ctx = cuts.flatMap fun cut =>
      cut.structs.flatMap fun struct => cut.piece (exactFirstPartitionSize struct) struct

/-- The sums for the first slice do not wrap, and those of the other slices are the same. -/
structure VP8Cut.Exact (cut : VP8Cut) : Prop where
  offset : macroblockOffset cut.first + 7 < 2 ^ 32
  sum : exactFirstPartitionSize cut.first < 2 ^ 32
  same : ∀ struct ∈ cut.structs, exactFirstPartitionSize struct = exactFirstPartitionSize cut.first

/-! ## The run -/

/-- The context holds what is in force: the picture parameters, the slice parameters, and the
size that the first of them gives. -/
structure InForce (ctx : SliceContext) (frame : VP8Frame) (params : Option NVBuffer) : Prop where
  frame : ∀ firstPartitionSize, { ctx.vp8 with firstPartitionSize } =
    { frame with firstPartitionSize }
  empty : params = none → ctx.sliceParams vaHeaders .vp8 = []
  structs : ∀ buffer, params = some buffer → ctx.sliceParams vaHeaders .vp8 =
    sliceStructs vaHeaders .vp8 (buffer.ptr.getD []) buffer.elements
  sum : ∀ buffer, params = some buffer → ctx.vp8.firstPartitionSize =
    vaHeaders.vp8FirstPartitionSize (sliceParameterAt vaHeaders .vp8 (buffer.ptr.getD []) 0)
  elements : ∀ buffer, params = some buffer → 0 < buffer.elements
  committed : ctx.nBitstreamDataLen = ctx.bitstreamBuffer.size

theorem beginPicture_inForce (ctx : SliceContext) : InForce (beginPicture ctx) {} none where
  frame _ := rfl
  empty _ := rfl
  structs := nofun
  sum := nofun
  elements := nofun
  committed := rfl

theorem copyVP8SliceParam_kept (headers : VaHeaders) (ctx : SliceContext) (buffer : NVBuffer) :
    (copyVP8SliceParam headers ctx buffer).vp8 = { ctx.vp8 with
        firstPartitionSize := headers.vp8FirstPartitionSize
          (sliceParameterAt headers .vp8 (buffer.ptr.getD []) 0) } ∧
      (copyVP8SliceParam headers ctx buffer).bitstreamBuffer = ctx.bitstreamBuffer ∧
      (copyVP8SliceParam headers ctx buffer).nBitstreamDataLen = ctx.nBitstreamDataLen := by
  unfold copyVP8SliceParam copySliceParam nvAddCuvidSlices
  simp only
  split <;> exact ⟨rfl, rfl, rfl⟩

/-- Slice parameters come into force. -/
theorem InForce.sliceParameter {answers : Answers} {ctx ctx' : SliceContext} {frame : VP8Frame}
    {params : Option NVBuffer} {buffer : NVBuffer} (hforce : InForce ctx frame params)
    (hrender : renderBuffer vaHeaders .vp8 answers ctx (.sliceParameter buffer) = some ctx') :
    InForce ctx' frame (some buffer) ∧ ctx'.bitstreamBuffer = ctx.bitstreamBuffer := by
  unfold renderBuffer at hrender
  simp only [sliceParameterHandler, Option.bind_eq_bind, Option.bind_some] at hrender
  split at hrender
  · cases hrender
  · rename_i hshape
    have hschema : nvValidateBufferSchema buffer (sliceParameterSchema vaHeaders .vp8) = true := by
      simpa using fun h => hshape (.inr h)
    obtain ⟨helements, -, -⟩ := schema_size hschema
    obtain ⟨⟨owned, mid⟩, hown, hrender⟩ := Option.bind_eq_some_iff.mp hrender
    obtain ⟨rfl, -, -⟩ := accepted_eq hrender
    obtain ⟨hmid, -⟩ := ownSliceParams_ctx hown
    obtain ⟨hvp8, hbitstream, hlength⟩ := copyVP8SliceParam_kept vaHeaders mid owned
    have hbuffers : mid.bitstreamBuffer = ctx.bitstreamBuffer := by
      rw [hmid]
    have hcommitted : mid.nBitstreamDataLen = ctx.nBitstreamDataLen := by
      rw [hmid]
    have hframe : mid.vp8 = ctx.vp8 := by
      rw [hmid]
    have hkept : (copyVP8SliceParam vaHeaders mid owned).sliceParams vaHeaders .vp8 =
        sliceStructs vaHeaders .vp8 (owned.ptr.getD []) owned.elements :=
      sliceParameterHandler_sliceParams rfl mid owned
    refine ⟨⟨fun size => ?_, nofun, ?_, ?_, ?_, ?_⟩, hbitstream.trans hbuffers⟩
    · have hold := hforce.frame size
      rw [← hframe] at hold
      exact (congrArg (fun vp8 : VP8Frame => { vp8 with firstPartitionSize := size }) hvp8).trans
        hold
    · rintro _ ⟨⟩
      rw [hkept, sliceStructs_owned hschema hown]
    · rintro _ ⟨⟩
      rw [← sliceParameterAt_owned hschema hown (Nat.lt_of_lt_of_le Nat.zero_lt_one helements)]
      exact congrArg VP8Frame.firstPartitionSize hvp8
    · rintro _ ⟨⟩
      exact helements
    · calc
        _ = mid.nBitstreamDataLen := hlength
        _ = ctx.nBitstreamDataLen := hcommitted
        _ = ctx.bitstreamBuffer.size := hforce.committed
        _ = _ := congrArg AppendableBuffer.size (hbitstream.trans hbuffers).symm

/-- Picture parameters come into force. -/
theorem InForce.other {answers : Answers} {ctx ctx' : SliceContext} {frame next : VP8Frame}
    {params : Option NVBuffer} (hforce : InForce ctx frame params)
    (hrender : renderBuffer vaHeaders .vp8 answers ctx (.other next) = some ctx') :
    InForce ctx' next params ∧ ctx'.bitstreamBuffer = ctx.bitstreamBuffer := by
  unfold renderBuffer at hrender
  obtain ⟨rfl, -, -⟩ := accepted_eq hrender
  exact ⟨⟨fun _ => rfl, hforce.empty, hforce.structs, hforce.sum, hforce.elements,
    hforce.committed⟩, rfl⟩

/-- Slice data is cut by the parameters in force. -/
theorem InForce.sliceData {answers : Answers} {ctx ctx' : SliceContext} {frame : VP8Frame}
    {params : Option NVBuffer} {buffer : NVBuffer} (hforce : InForce ctx frame params)
    (hrender : renderBuffer vaHeaders .vp8 answers ctx (.sliceData buffer) = some ctx') :
    InForce ctx' frame params ∧
      (params = none → ctx'.bitstreamBuffer.bytes = ctx.bitstreamBuffer.bytes) ∧
      ∀ given, params = some given →
        ({ frame with firstPartitionSize :=
            vaHeaders.vp8FirstPartitionSize (VP8Cut.first ⟨frame, given, buffer⟩) } :
              VP8Frame).Fits ∧
        ctx'.bitstreamBuffer.bytes = ctx.bitstreamBuffer.bytes ++
          (VP8Cut.structs ⟨frame, given, buffer⟩).flatMap fun struct =>
            VP8Cut.piece ⟨frame, given, buffer⟩
              (vaHeaders.vp8FirstPartitionSize (VP8Cut.first ⟨frame, given, buffer⟩)) struct := by
  unfold renderBuffer at hrender
  simp only [sliceDataHandler, Option.bind_eq_bind, Option.bind_some] at hrender
  split at hrender
  · cases hrender
  · obtain ⟨rfl, hvalid, hmemory⟩ := accepted_eq hrender
    have hunfailed : Unfailed (copyVP8SliceData vaHeaders answers.heaps ctx buffer) := by
      unfold SliceContext.outOfMemory at hmemory
      simp only [Bool.or_eq_false_iff] at hmemory
      exact ⟨hmemory.1.2, hmemory.1.1⟩
    obtain ⟨hemission, -, hheader⟩ := copyVP8SliceData_emission rfl hvalid hunfailed
    have hparams : (copyVP8SliceData vaHeaders answers.heaps ctx buffer).sliceParams vaHeaders
        .vp8 = ctx.sliceParams vaHeaders .vp8 := by
      unfold SliceContext.sliceParams
      rw [hemission.lastSliceParams, hemission.lastSliceParamsCount]
    refine ⟨⟨?_, ?_, ?_, ?_, hforce.elements, hemission.committed⟩, ?_, ?_⟩
    · rw [hemission.vp8]
      exact hforce.frame
    · rw [hparams]
      exact hforce.empty
    · rw [hparams]
      exact hforce.structs
    · rw [hemission.vp8]
      exact hforce.sum
    · intro hnone
      have hbytes := hemission.bitstream
      rw [SliceContext.slices, hforce.empty hnone, List.map_nil, List.map_nil, List.flatten_nil,
        List.append_nil] at hbytes
      exact hbytes
    · intro given hgiven
      have hstructs := hforce.structs given hgiven
      have hvp8 : ctx.vp8 = { frame with firstPartitionSize :=
          vaHeaders.vp8FirstPartitionSize (VP8Cut.first ⟨frame, given, buffer⟩) } :=
        calc
          ctx.vp8 = { ctx.vp8 with firstPartitionSize := ctx.vp8.firstPartitionSize } := rfl
          _ = _ := by
            rw [hforce.frame, hforce.sum given hgiven]
            rfl
      have hbytes := hemission.bitstream
      rw [hvp8] at hheader hbytes
      have hfirst : SliceParameter.ofStruct (VP8Cut.first ⟨frame, given, buffer⟩) ∈
          ctx.slices vaHeaders .vp8 := by
        rw [SliceContext.slices, hstructs]
        refine List.mem_map_of_mem (List.mem_map.mpr ⟨0, ?_, rfl⟩)
        exact List.mem_range.mpr (hforce.elements given hgiven)
      refine ⟨(nvBuildVP8FrameHeader_ne_nil_iff _).mp (hheader _ hfirst), ?_⟩
      rw [hbytes, SliceContext.slices, hstructs, List.map_map, List.flatMap_def]
      rfl

/-- The size of the first partition that the handler computes for a cut. -/
def VP8Cut.computed (cut : VP8Cut) : Nat :=
  vaHeaders.vp8FirstPartitionSize cut.first

/-- What accepted buffers of a picture leave in the bitstream. -/
theorem renderVP8_bytes {buffers : List (Answers × DecodeBuffer)} {ctx ctx' : SliceContext}
    {frame : VP8Frame} {params : Option NVBuffer} (hforce : InForce ctx frame params)
    (hrender : renderBuffers vaHeaders .vp8 buffers ctx = some ctx') :
    ctx'.bitstreamBuffer.bytes = ctx.bitstreamBuffer.bytes ++
        (vp8Cuts (buffers.map Prod.snd) frame params).flatMap (fun cut =>
          cut.structs.flatMap (cut.piece cut.computed)) ∧
      (∀ cut ∈ vp8Cuts (buffers.map Prod.snd) frame params,
        ({ cut.frame with firstPartitionSize := cut.computed } : VP8Frame).Fits ∧
          0 < cut.params.elements) ∧
      ctx'.nBitstreamDataLen = ctx'.bitstreamBuffer.size := by
  induction buffers generalizing ctx frame params with
  | nil =>
      cases hrender
      exact ⟨(List.append_nil _).symm, nofun, hforce.committed⟩
  | cons first rest ih =>
      obtain ⟨answers, buffer⟩ := first
      obtain ⟨mid, hfirst, hrest⟩ := Option.bind_eq_some_iff.mp hrender
      cases buffer with
      | sliceParameter buffer =>
          obtain ⟨hnext, hsame⟩ := hforce.sliceParameter hfirst
          rw [← hsame]
          exact ih hnext hrest
      | other next =>
          obtain ⟨hnext, hsame⟩ := hforce.other hfirst
          rw [← hsame]
          exact ih hnext hrest
      | sliceData buffer =>
          obtain ⟨hnext, hnone, hgiven⟩ := hforce.sliceData hfirst
          obtain ⟨hbytes, hfits, hlength⟩ := ih hnext hrest
          cases params with
          | none =>
              rw [hnone rfl] at hbytes
              exact ⟨hbytes, hfits, hlength⟩
          | some given =>
              obtain ⟨hfit, hcut⟩ := hgiven given rfl
              rw [hcut, List.append_assoc] at hbytes
              refine ⟨hbytes, fun cut hmem => ?_, hlength⟩
              rcases List.mem_cons.mp hmem with rfl | hmem
              · exact ⟨hfit, hforce.elements given rfl⟩
              · exact hfits cut hmem

theorem read32_lt (bytes : List UInt8) (start : Nat) : read32 bytes start < 2 ^ 32 := by
  unfold read32
  have h0 := (bytes.getD start 0).toNat_lt
  have h1 := (bytes.getD (start + 1) 0).toNat_lt
  have h2 := (bytes.getD (start + 2) 0).toNat_lt
  have h3 := (bytes.getD (start + 3) 0).toNat_lt
  omega

/-- The sum of the handler is exact if and only if neither of its additions wraps. -/
theorem vp8FirstPartitionSize_eq_iff (struct : List UInt8) :
    vaHeaders.vp8FirstPartitionSize struct = exactFirstPartitionSize struct ↔
      macroblockOffset struct + 7 < 2 ^ 32 ∧ exactFirstPartitionSize struct < 2 ^ 32 := by
  have hoffset := read32_lt struct 12
  have hsize := read32_lt struct 20
  show (read32 struct 20 + (read32 struct 12 + 7) % 2 ^ 32 / 8) % 2 ^ 32 =
      read32 struct 20 + (read32 struct 12 + 7) / 8 ↔
    read32 struct 12 + 7 < 2 ^ 32 ∧ read32 struct 20 + (read32 struct 12 + 7) / 8 < 2 ^ 32
  omega

/-- The size of the first partition does not change the length of a header. -/
theorem length_nvBuildVP8FrameHeader {frame frame' : VP8Frame} (hfits : frame.Fits)
    (hfits' : frame'.Fits) (hkey : frame.keyFrame = frame'.keyFrame) :
    (nvBuildVP8FrameHeader frame).length = (nvBuildVP8FrameHeader frame').length := by
  rw [nvBuildVP8FrameHeader_eq hfits, nvBuildVP8FrameHeader_eq hfits',
    Vp8.FrameHeader.length_encode, Vp8.FrameHeader.length_encode, VP8Frame.header_isSome,
    VP8Frame.header_isSome, hkey]

/-- Where sizes fit, the pieces show them. -/
theorem VP8Cut.piece_inj {cut : VP8Cut} {size size' : Nat} {struct : List UInt8}
    (hfits : ({ cut.frame with firstPartitionSize := size } : VP8Frame).Fits)
    (hfits' : ({ cut.frame with firstPartitionSize := size' } : VP8Frame).Fits) :
    (cut.piece size struct).length = (cut.piece size' struct).length ∧
      (cut.piece size struct = cut.piece size' struct → size = size') := by
  have hlength := length_nvBuildVP8FrameHeader hfits hfits' rfl
  refine ⟨?_, fun hsame => ?_⟩
  · unfold VP8Cut.piece
    rw [List.length_append, List.length_append, hlength]
  · obtain ⟨hheader, -⟩ := List.append_inj hsame hlength
    rw [nvBuildVP8FrameHeader_eq hfits, nvBuildVP8FrameHeader_eq hfits'] at hheader
    have hfields := congrArg (fun header => header.firstPartSize.val)
      (Vp8.FrameHeader.encode_inj hheader)
    exact hfields

theorem VP8Cut.first_mem {cut : VP8Cut} (helements : 0 < cut.params.elements) :
    cut.first ∈ cut.structs :=
  List.mem_map.mpr ⟨0, List.mem_range.mpr helements, rfl⟩

/-- For every picture of accepted buffers, the decoder is given the exact sizes if and only if no
sum wraps and the slices of a buffer have the same sum. -/
theorem givenExactly_iff {buffers : List (Answers × DecodeBuffer)} {ctx ctx' : SliceContext}
    (hrender : renderBuffers vaHeaders .vp8 buffers (beginPicture ctx) = some ctx') :
    GivenExactly (vp8Cuts (buffers.map Prod.snd) {} none) ctx' ↔
      ∀ cut ∈ vp8Cuts (buffers.map Prod.snd) {} none, cut.Exact := by
  obtain ⟨hbytes, hfits, hlength⟩ := renderVP8_bytes (beginPicture_inForce ctx) hrender
  have hsubmitted : submitted ctx' = ctx'.bitstreamBuffer.bytes := by
    rw [submitted, hlength]
    rfl
  have hempty : (beginPicture ctx).bitstreamBuffer.bytes = [] := rfl
  rw [hempty, List.nil_append] at hbytes
  generalize vp8Cuts (buffers.map Prod.snd) {} none = cuts at *
  unfold GivenExactly
  rw [hsubmitted, hbytes]
  constructor
  · rintro ⟨hsmall, hsame⟩ cut hcut
    have hexactFits (cut : VP8Cut) (hcut : cut ∈ cuts) (struct : List UInt8)
        (hstruct : struct ∈ cut.structs) : ({ cut.frame with
          firstPartitionSize := exactFirstPartitionSize struct } : VP8Frame).Fits :=
      ⟨(hfits cut hcut).1.version, hsmall cut hcut struct hstruct, (hfits cut hcut).1.width,
        (hfits cut hcut).1.height⟩
    have hlengths : ∀ cut ∈ cuts, (cut.structs.flatMap (cut.piece cut.computed)).length =
        (cut.structs.flatMap fun struct =>
          cut.piece (exactFirstPartitionSize struct) struct).length := by
      intro cut hcut
      rw [List.length_flatMap, List.length_flatMap]
      congr 1
      exact List.map_congr_left fun struct hstruct =>
        (VP8Cut.piece_inj (hfits cut hcut).1 (hexactFits cut hcut struct hstruct)).1
    -- pieces of the same lengths agree one by one
    have hpieces := Pieces.flatMap_inj hlengths hsame cut hcut
    have hpiece := Pieces.flatMap_inj (fun struct hstruct =>
      (VP8Cut.piece_inj (hfits cut hcut).1 (hexactFits cut hcut struct hstruct)).1) hpieces
    have hsizes : ∀ struct ∈ cut.structs, cut.computed = exactFirstPartitionSize struct :=
      fun struct hstruct => (VP8Cut.piece_inj (hfits cut hcut).1
        (hexactFits cut hcut struct hstruct)).2 (hpiece struct hstruct)
    have hfirst := hsizes cut.first (VP8Cut.first_mem (hfits cut hcut).2)
    obtain ⟨hoffset, hsum⟩ := (vp8FirstPartitionSize_eq_iff cut.first).mp hfirst
    exact ⟨hoffset, hsum, fun struct hstruct => (hsizes struct hstruct).symm.trans hfirst⟩
  · intro hexact
    have hsizes : ∀ cut ∈ cuts, ∀ struct ∈ cut.structs,
        cut.computed = exactFirstPartitionSize struct := by
      intro cut hcut struct hstruct
      rw [(hexact cut hcut).same struct hstruct]
      exact (vp8FirstPartitionSize_eq_iff cut.first).mpr
        ⟨(hexact cut hcut).offset, (hexact cut hcut).sum⟩
    refine ⟨fun cut hcut struct hstruct => ?_, ?_⟩
    · rw [← hsizes cut hcut struct hstruct]
      exact (hfits cut hcut).1.firstPartitionSize
    · refine List.flatMap_congr fun cut hcut => List.flatMap_congr fun struct hstruct => ?_
      rw [hsizes cut hcut struct hstruct]

/-- `nvBuildVP8FrameHeader` always does what is asked of it, and for every picture of accepted
buffers the decoder is given exact headers if and only if no sum wraps and the slices of a
buffer have the same sum. -/
theorem vp8Headers_iff {buffers : List (Answers × DecodeBuffer)} {ctx ctx' : SliceContext}
    (hrender : renderBuffers vaHeaders .vp8 buffers (beginPicture ctx) = some ctx') :
    BuildsHeaders ∧ GivenExactly (vp8Cuts (buffers.map Prod.snd) {} none) ctx' ↔
      ∀ cut ∈ vp8Cuts (buffers.map Prod.snd) {} none, cut.Exact := by
  rw [givenExactly_iff hrender |>.symm]
  exact and_iff_right buildsHeaders

/-! ## A sum that wraps -/

/-- The parameters of a slice of one byte, with 100 bytes in the first partition. -/
def vp8Parameters (macroblockOffset : Nat) : NVBuffer where
  elements := 1
  elementSize := 72
  size := 72
  ptr := some (le32 1 ++ le32 0 ++ le32 0 ++ le32 macroblockOffset ++ le32 1 ++ le32 100 ++
    List.replicate 48 0)
  size_le := by
    rintro _ ⟨⟩
    simp [le32]

def vp8Data : NVBuffer where
  elements := 1
  elementSize := 1
  size := 1
  ptr := some [0x2a]
  size_le := by
    rintro _ ⟨⟩
    simp

/-- A key frame of one slice. -/
def vp8Picture (macroblockOffset : Nat) : List (Answers × DecodeBuffer) :=
  [(.available, .other { width := 16, height := 16, showFrame := true }),
    (.available, .sliceParameter (vp8Parameters macroblockOffset)),
    (.available, .sliceData vp8Data)]

set_option maxRecDepth 20000 in
theorem vp8Picture_accepted :
    (renderBuffers vaHeaders .vp8 (vp8Picture 0xFFFFFFFF) (beginPicture {})).isSome = true ∧
      (renderBuffers vaHeaders .vp8 (vp8Picture 9) (beginPicture {})).isSome = true := by
  constructor <;> rfl

/-- With the largest offset the sum is 100, and the picture is accepted. -/
theorem vp8Headers_wrapped :
    ¬ ∀ (buffers : List (Answers × DecodeBuffer)) (ctx ctx' : SliceContext),
      renderBuffers vaHeaders .vp8 buffers (beginPicture ctx) = some ctx' →
        BuildsHeaders ∧ GivenExactly (vp8Cuts (buffers.map Prod.snd) {} none) ctx' := by
  intro hclaim
  obtain ⟨ctx', hrender⟩ := Option.isSome_iff_exists.mp vp8Picture_accepted.1
  obtain ⟨-, hsmall, -⟩ := hclaim _ _ _ hrender
  have hfits := hsmall _ List.mem_cons_self _ (VP8Cut.first_mem Nat.zero_lt_one)
  exact absurd hfits (by decide)

theorem vp8Headers_iff_exact :
    ∃ ctx', renderBuffers vaHeaders .vp8 (vp8Picture 9) (beginPicture {}) = some ctx' ∧
      (BuildsHeaders ∧ GivenExactly (vp8Cuts ((vp8Picture 9).map Prod.snd) {} none) ctx' ↔
        ∀ cut ∈ vp8Cuts ((vp8Picture 9).map Prod.snd) {} none, cut.Exact) := by
  obtain ⟨ctx', hrender⟩ := Option.isSome_iff_exists.mp vp8Picture_accepted.2
  exact ⟨ctx', hrender, vp8Headers_iff hrender⟩

end Slices
end NvidiaVaapi
