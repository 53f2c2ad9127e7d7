import NvidiaVaapi.Lib.Pieces
import NvidiaVaapi.Slices.SliceParameters

/-!
# What the handlers of slice data append

A buffer of slice data that is accepted appends one piece for each slice that is kept (one frame
for all of them, for JPEG): the prefix of the codec and the bytes of the slice.  The offsets are
those at which the pieces begin.
-/

namespace NvidiaVaapi
namespace Slices

open Codec

/-- What a codec puts before each slice. -/
def slicePrefix (codec : NVCodec) (vp8 : VP8Frame) : List UInt8 :=
  match codec with
  | .h264 | .hevc => header
  | .vp8 => nvBuildVP8FrameHeader vp8
  | _ => []

/-- A slice in the bitstream: the prefix and the bytes of the slice. -/
def slicePiece (codec : NVCodec) (vp8 : VP8Frame) (buffer : NVBuffer) (slice : SliceParameter) :
    List UInt8 :=
  slicePrefix codec vp8 ++ structAt (buffer.ptr.getD []) slice.sliceDataOffset slice.sliceDataSize

/-- The pieces for the structures of slice parameters and a buffer of slice data. -/
def slicePieces (codec : NVCodec) (answers : Answers) (vp8 : VP8Frame)
    (structs : List (List UInt8)) (buffer : NVBuffer) : List (List UInt8) :=
  if codec = .jpeg then
    (answers.reconstructJPEG.bind fun reconstruct =>
      reconstruct structs ((buffer.ptr.getD []).take buffer.size)).toList
  else structs.map fun struct => slicePiece codec vp8 buffer (SliceParameter.ofStruct struct)

/-- What a handler of slice data leaves of a context. -/
structure SameSlices (ctx ctx' : SliceContext) : Prop where
  lastSliceParams : ctx'.lastSliceParams = ctx.lastSliceParams
  lastSliceParamsCount : ctx'.lastSliceParamsCount = ctx.lastSliceParamsCount
  vp8 : ctx'.vp8 = ctx.vp8

/-- A context to which pieces were appended. -/
structure Appended (ctx ctx' : SliceContext) (pieces : List (List UInt8)) : Prop
    extends SameSlices ctx ctx' where
  bitstream : ctx'.bitstreamBuffer.bytes = ctx.bitstreamBuffer.bytes ++ pieces.flatten
  offsets : ctx'.sliceOffsets.bytes =
    ctx.sliceOffsets.bytes ++ (Pieces.starts ctx.bitstreamBuffer.size pieces).flatMap le32

theorem le32_mod (n : Nat) : le32 (n % 2 ^ 32) = le32 n := by
  unfold le32
  have hbyte : ∀ k : Nat, k ≤ 24 → UInt8.ofNat (n % 2 ^ 32 / 2 ^ k) = UInt8.ofNat (n / 2 ^ k) := by
    intro k hk
    apply UInt8.toNat.inj
    rw [UInt8.toNat_ofNat', UInt8.toNat_ofNat']
    have hsplit : 2 ^ 32 = 2 ^ k * 2 ^ (32 - k) := by
      rw [← Nat.pow_add]
      congr 1
      omega
    rw [hsplit, Nat.mod_mul_right_div_self]
    exact Nat.mod_mod_of_dvd _ (Nat.pow_dvd_pow 2 (by omega))
  have hzero := hbyte 0 (by omega)
  simp only [Nat.pow_zero, Nat.div_one] at hzero
  rw [hzero, hbyte 8 (by omega), hbyte 16 (by omega), hbyte 24 (by omega)]

namespace Appended

variable {ctx ctx' ctx'' : SliceContext} {pieces rest : List (List UInt8)}

theorem size (h : Appended ctx ctx' pieces) :
    ctx'.bitstreamBuffer.size = ctx.bitstreamBuffer.size + pieces.flatten.length := by
  have hlength := congrArg List.length h.bitstream
  rw [List.length_append, AppendableBuffer.length_bytes, AppendableBuffer.length_bytes] at hlength
  exact hlength

theorem nothing (hsame : SameSlices ctx ctx')
    (hbitstream : ctx'.bitstreamBuffer.bytes = ctx.bitstreamBuffer.bytes)
    (hoffsets : ctx'.sliceOffsets.bytes = ctx.sliceOffsets.bytes) : Appended ctx ctx' [] :=
  ⟨hsame, by rw [hbitstream, List.flatten_nil, List.append_nil],
    by rw [hoffsets, Pieces.starts, List.flatMap_nil, List.append_nil]⟩

theorem trans (h : Appended ctx ctx' pieces) (h' : Appended ctx' ctx'' rest) :
    Appended ctx ctx'' (pieces ++ rest) := by
  refine ⟨⟨h'.lastSliceParams.trans h.lastSliceParams,
    h'.lastSliceParamsCount.trans h.lastSliceParamsCount, h'.vp8.trans h.vp8⟩, ?_, ?_⟩
  · rw [h'.bitstream, h.bitstream, List.flatten_append, List.append_assoc]
  · rw [h'.offsets, h.offsets, h.size, Pieces.starts_append, List.flatMap_append,
      List.append_assoc]

end Appended

/-- The two buffers that a handler of slice data appends to can still grow. -/
def Unfailed (ctx : SliceContext) : Prop :=
  ctx.sliceOffsets.failed = false ∧ ctx.bitstreamBuffer.failed = false

/-- The offset, the prefix and the bytes of one slice. -/
theorem appendPiece {ctx : SliceContext} {heaps : Heaps} {start data : List UInt8}
    (hunfailed : Unfailed (((ctx.appendOffset heaps
      (ctx.bitstreamBuffer.size % 2 ^ 32)).appendBitstream heaps start).appendBitstream heaps
        data)) :
    Unfailed ctx ∧ Appended ctx (((ctx.appendOffset heaps
      (ctx.bitstreamBuffer.size % 2 ^ 32)).appendBitstream heaps start).appendBitstream heaps data)
        [start ++ data] := by
  obtain ⟨hoffset, hbitstream⟩ := hunfailed
  obtain ⟨hoffsetOld, hoffsetBytes, -⟩ := AppendableBuffer.append_unfailed hoffset
  obtain ⟨hstart, hdataBytes, -⟩ := AppendableBuffer.append_unfailed hbitstream
  obtain ⟨hold, hstartBytes, -⟩ := AppendableBuffer.append_unfailed hstart
  refine ⟨⟨hoffsetOld, hold⟩, ⟨rfl, rfl, rfl⟩, ?_, ?_⟩
  · have hstartBytes' : ((ctx.appendOffset heaps (ctx.bitstreamBuffer.size % 2 ^ 32)).appendBitstream
        heaps start).bitstreamBuffer.bytes = ctx.bitstreamBuffer.bytes ++ start := hstartBytes
    rw [List.flatten_singleton, ← List.append_assoc, ← hstartBytes']
    exact hdataBytes
  · rw [Pieces.starts, Pieces.starts, List.flatMap_singleton, ← le32_mod]
    exact hoffsetBytes

/-- The second loop of a handler. -/
theorem appendSlices_appended {heaps : Heaps} {buffer : NVBuffer} {startCode : List UInt8}
    {slices : List SliceParameter} {ctx : SliceContext}
    (hunfailed : Unfailed (appendSlices heaps buffer startCode slices ctx)) :
    Unfailed ctx ∧ Appended ctx (appendSlices heaps buffer startCode slices ctx)
      (slices.map fun slice => startCode ++
        structAt (buffer.ptr.getD []) slice.sliceDataOffset slice.sliceDataSize) := by
  induction slices generalizing ctx with
  | nil => exact ⟨hunfailed, Appended.nothing ⟨rfl, rfl, rfl⟩ rfl rfl⟩
  | cons slice rest ih =>
      obtain ⟨hmiddle, hrest⟩ := ih hunfailed
      obtain ⟨hstart, hfirst⟩ := appendPiece hmiddle
      exact ⟨hstart, hfirst.trans hrest⟩

/-- The length that is committed is that of the bitstream. -/
theorem nvCommitCuvidBitstreamLength_spec {ctx : SliceContext}
    (hvalid : (nvCommitCuvidBitstreamLength ctx).inputValidationFailed = false) :
    nvCommitCuvidBitstreamLength ctx =
      { ctx with nBitstreamDataLen := ctx.bitstreamBuffer.size } ∧
    ctx.bitstreamBuffer.size ≤ uint32Max := by
  unfold nvCommitCuvidBitstreamLength at hvalid ⊢
  split at hvalid
  · cases hvalid
  · rename_i hsmall
    rw [if_neg hsmall]
    exact ⟨rfl, Nat.le_of_not_lt hsmall⟩

/-- The context in which a buffer of slice data was accepted, and what it appended. -/
structure Emission (ctx ctx' : SliceContext) (pieces : List (List UInt8)) : Prop
    extends Appended ctx ctx' pieces where
  committed : ctx'.nBitstreamDataLen = ctx'.bitstreamBuffer.size
  small : ctx'.bitstreamBuffer.size ≤ uint32Max

/-- The first loop of a handler either accepts all slices and changes nothing, or notes why it
does not. -/
theorem checkSlices_spec {buffer : NVBuffer} {prefixSize bitstreamBytes : Nat}
    {slices : List SliceParameter} {ctx ctx' : SliceContext} {result : Option Nat}
    (hcheck : checkSlices buffer prefixSize slices bitstreamBytes ctx = (ctx', result))
    (hvalid : ctx'.inputValidationFailed = false) (hunfailed : Unfailed ctx') :
    ctx' = ctx ∧ result.isSome = true := by
  induction slices generalizing bitstreamBytes ctx with
  | nil =>
      obtain ⟨rfl, rfl⟩ := Prod.mk.inj hcheck
      exact ⟨rfl, rfl⟩
  | cons slice rest ih =>
      unfold checkSlices at hcheck
      split at hcheck
      · obtain ⟨rfl, -⟩ := Prod.mk.inj hcheck
        cases hvalid
      · split at hcheck
        · obtain ⟨rfl, -⟩ := Prod.mk.inj hcheck
          exact absurd hunfailed.2 (by simp)
        · exact ih hcheck

/-- A reservation that leaves the buffer unfailed has succeeded. -/
theorem reserveAdditional_unfailed {heap : Heap} {buffer buffer' : AppendableBuffer}
    {additional : Nat} {result : Bool}
    (hreserve : reserveAdditionalBuffer heap buffer additional = (buffer', result))
    (hunfailed : buffer'.failed = false) :
    result = true ∧ buffer'.bytes = buffer.bytes ∧ buffer'.failed = buffer.failed := by
  unfold reserveAdditionalBuffer at hreserve
  split at hreserve
  · obtain ⟨rfl, -⟩ := Prod.mk.inj hreserve
    cases hunfailed
  · cases result with
    | false =>
        rw [AppendableBuffer.reserve_failed hreserve] at hunfailed
        cases hunfailed
    | true =>
        obtain ⟨hbytes, -, hfailed, -⟩ := AppendableBuffer.reserve_spec hreserve
        exact ⟨rfl, hbytes, hfailed⟩

theorem reserveElements_unfailed {heap : Heap} {buffer buffer' : AppendableBuffer}
    {elements elementSize : Nat} {result : Bool}
    (hreserve : reserveBufferElements heap buffer elements elementSize = (buffer', result))
    (hunfailed : buffer'.failed = false) :
    result = true ∧ buffer'.bytes = buffer.bytes ∧ buffer'.failed = buffer.failed := by
  unfold reserveBufferElements at hreserve
  split at hreserve
  · obtain ⟨rfl, -⟩ := Prod.mk.inj hreserve
    cases hunfailed
  · exact reserveAdditional_unfailed hreserve hunfailed

theorem appendSlices_kept {heaps : Heaps} {buffer : NVBuffer} {startCode : List UInt8}
    {slices : List SliceParameter} {ctx : SliceContext} :
    (appendSlices heaps buffer startCode slices ctx).nNumSlices = ctx.nNumSlices ∧
      (appendSlices heaps buffer startCode slices ctx).inputValidationFailed =
        ctx.inputValidationFailed := by
  induction slices generalizing ctx with
  | nil => exact ⟨rfl, rfl⟩
  | cons slice rest ih => exact ih

/-- A handler with a fixed prefix. -/
theorem cutSlices_emission {startCode : List UInt8} {heaps : Heaps}
    {slices : List SliceParameter} {ctx ctx' : SliceContext} {buffer : NVBuffer}
    {result : Option Nat} (hcut : cutSlices startCode heaps slices ctx buffer = (ctx', result))
    (hvalid : ctx'.inputValidationFailed = false) (hunfailed : Unfailed ctx') :
    Emission ctx ctx' (slices.map fun slice => startCode ++
      structAt (buffer.ptr.getD []) slice.sliceDataOffset slice.sliceDataSize) ∧
      ctx'.nNumSlices = ctx.nNumSlices := by
  unfold cutSlices at hcut
  split at hcut
  · rename_i checked hcheck
    obtain ⟨rfl, rfl⟩ := Prod.mk.inj hcut
    exact absurd (checkSlices_spec hcheck hvalid hunfailed).2 (by simp)
  · rename_i checked bitstreamBytes hcheck
    split at hcut
    · obtain ⟨rfl, -⟩ := Prod.mk.inj hcut
      cases hvalid
    · split at hcut
      · rename_i sliceOffsets hoffsets
        obtain ⟨rfl, -⟩ := Prod.mk.inj hcut
        cases (reserveElements_unfailed hoffsets hunfailed.1).1
      · rename_i sliceOffsets hoffsets
        split at hcut
        · rename_i bitstreamBuffer hbitstream
          obtain ⟨rfl, -⟩ := Prod.mk.inj hcut
          cases (reserveAdditional_unfailed hbitstream hunfailed.2).1
        · rename_i bitstreamBuffer hbitstream
          obtain ⟨rfl, -⟩ := Prod.mk.inj hcut
          obtain ⟨hcommit, hsmall⟩ := nvCommitCuvidBitstreamLength_spec hvalid
          rw [hcommit] at hunfailed hvalid ⊢
          obtain ⟨hreserved, happended⟩ := appendSlices_appended hunfailed
          obtain ⟨hslices, hvalidated⟩ := @appendSlices_kept heaps buffer startCode slices
            { checked with sliceOffsets, bitstreamBuffer }
          obtain ⟨-, hoffsetBytes, hoffsetFailed⟩ :=
            reserveElements_unfailed hoffsets hreserved.1
          obtain ⟨-, hbytes, hbitstreamFailed⟩ :=
            reserveAdditional_unfailed hbitstream hreserved.2
          have hchecked : Unfailed checked :=
            ⟨hoffsetFailed.symm.trans hreserved.1, hbitstreamFailed.symm.trans hreserved.2⟩
          obtain ⟨rfl, -⟩ := checkSlices_spec hcheck (hvalidated.symm.trans hvalid) hchecked
          have hreserve : Appended checked { checked with sliceOffsets, bitstreamBuffer } [] :=
            Appended.nothing ⟨rfl, rfl, rfl⟩ hbytes hoffsetBytes
          have hall := hreserve.trans happended
          exact ⟨⟨⟨⟨hall.lastSliceParams, hall.lastSliceParamsCount, hall.vp8⟩, hall.bitstream,
            hall.offsets⟩, rfl, hsmall⟩, hslices⟩

/-- The loop of the handler of VP8. -/
theorem appendVP8Slices_appended {heaps : Heaps} {buffer : NVBuffer}
    {slices : List SliceParameter} {ctx ctx' : SliceContext} {ended : Bool}
    (hloop : appendVP8Slices heaps buffer slices ctx = (ctx', ended))
    (hvalid : ctx'.inputValidationFailed = false) (hunfailed : Unfailed ctx') :
    ended = true ∧ Unfailed ctx ∧ ctx'.nNumSlices = ctx.nNumSlices ∧
      (∀ slice ∈ slices, nvBuildVP8FrameHeader ctx.vp8 ≠ []) ∧
      Appended ctx ctx' (slices.map fun slice => nvBuildVP8FrameHeader ctx.vp8 ++
        structAt (buffer.ptr.getD []) slice.sliceDataOffset slice.sliceDataSize) := by
  induction slices generalizing ctx with
  | nil =>
      obtain ⟨rfl, rfl⟩ := Prod.mk.inj hloop
      exact ⟨rfl, hunfailed, rfl, nofun, Appended.nothing ⟨rfl, rfl, rfl⟩ rfl rfl⟩
  | cons slice rest ih =>
      unfold appendVP8Slices at hloop
      split at hloop
      · obtain ⟨rfl, -⟩ := Prod.mk.inj hloop
        cases hvalid
      · rename_i validatedData hrange
        simp only at hloop
        split at hloop
        · obtain ⟨rfl, -⟩ := Prod.mk.inj hloop
          cases hvalid
        · rename_i hfits
          obtain ⟨hended, hmiddle, hslices, -, hrest⟩ := ih hloop
          obtain ⟨hstart, hfirst⟩ := appendPiece hmiddle
          have hdata : validatedData =
              structAt (buffer.ptr.getD []) slice.sliceDataOffset slice.sliceDataSize := by
            unfold nvValidateSliceRange at hrange
            split at hrange
            · cases hrange
            · rename_i hptr
              split at hrange
              · cases hrange
              · rw [hptr]
                exact (Option.some.inj hrange).symm
          have hheader : nvBuildVP8FrameHeader ctx.vp8 ≠ [] := by
            intro hempty
            exact hfits (.inl (by rw [hempty]; rfl))
          rw [hdata] at hfirst hrest
          exact ⟨hended, hstart, hslices, fun _ _ => hheader, hfirst.trans hrest⟩

theorem copyVP8SliceData_emission {headers : VaHeaders} {heaps : Heaps} {ctx ctx' : SliceContext}
    {buffer : NVBuffer} (hcopy : copyVP8SliceData headers heaps ctx buffer = ctx')
    (hvalid : ctx'.inputValidationFailed = false) (hunfailed : Unfailed ctx') :
    Emission ctx ctx' ((ctx.slices headers .vp8).map fun slice =>
        nvBuildVP8FrameHeader ctx.vp8 ++
          structAt (buffer.ptr.getD []) slice.sliceDataOffset slice.sliceDataSize) ∧
      ctx'.nNumSlices = ctx.nNumSlices ∧
      ∀ slice ∈ ctx.slices headers .vp8, nvBuildVP8FrameHeader ctx.vp8 ≠ [] := by
  unfold copyVP8SliceData at hcopy
  split at hcopy
  · rename_i appended hloop
    subst hcopy
    cases (appendVP8Slices_appended hloop hvalid hunfailed).1
  · rename_i appended hloop
    subst hcopy
    obtain ⟨hcommit, hsmall⟩ := nvCommitCuvidBitstreamLength_spec hvalid
    rw [hcommit] at hvalid hunfailed ⊢
    obtain ⟨-, -, hslices, hheader, hall⟩ := appendVP8Slices_appended hloop hvalid hunfailed
    exact ⟨⟨⟨⟨hall.lastSliceParams, hall.lastSliceParamsCount, hall.vp8⟩, hall.bitstream,
      hall.offsets⟩, rfl, hsmall⟩, hslices, hheader⟩

/-- The bytes of the slices are in their slice data; a JPEG can be rebuilt from it. -/
def Inside (codec : NVCodec) (answers : Answers) (structs : List (List UInt8))
    (buffer : NVBuffer) : Prop :=
  if codec = .jpeg then
    ∃ reconstruct, answers.reconstructJPEG = some reconstruct ∧
      (reconstruct structs ((buffer.ptr.getD []).take buffer.size)).isSome = true
  else ∀ struct ∈ structs, (SliceParameter.ofStruct struct).sliceDataOffset +
    (SliceParameter.ofStruct struct).sliceDataSize ≤ buffer.size

/-- One piece for each slice, or one frame. -/
theorem length_slicePieces {codec : NVCodec} {answers : Answers} {structs : List (List UInt8)}
    {buffer : NVBuffer} (hinside : Inside codec answers structs buffer) (vp8 : VP8Frame) :
    (slicePieces codec answers vp8 structs buffer).length =
      if codec = .jpeg then 1 else structs.length := by
  unfold Inside at hinside
  unfold slicePieces
  split at hinside
  · rename_i hjpeg
    obtain ⟨reconstruct, hanswer, hframe⟩ := hinside
    obtain ⟨frame, hframe⟩ := Option.isSome_iff_exists.mp hframe
    rw [if_pos hjpeg, if_pos hjpeg, hanswer, Option.bind_some, hframe]
    rfl
  · rename_i hsliced
    rw [if_neg hsliced, if_neg hsliced, List.length_map]

theorem nvValidateSliceRange_inside {buffer : NVBuffer} {slice : SliceParameter}
    {data : List UInt8} (hrange : nvValidateSliceRange buffer slice = some data) :
    slice.sliceDataOffset + slice.sliceDataSize ≤ buffer.size ∧
      data = structAt (buffer.ptr.getD []) slice.sliceDataOffset slice.sliceDataSize := by
  unfold nvValidateSliceRange at hrange
  split at hrange
  · cases hrange
  · rename_i hptr
    split at hrange
    · cases hrange
    · rw [hptr]
      exact ⟨by omega, (Option.some.inj hrange).symm⟩

/-- Slices that pass the first loop of a handler are inside. -/
theorem checkSlices_inside {buffer : NVBuffer} {prefixSize bitstreamBytes total : Nat}
    {slices : List SliceParameter} {ctx ctx' : SliceContext}
    (hcheck : checkSlices buffer prefixSize slices bitstreamBytes ctx = (ctx', some total)) :
    ∀ slice ∈ slices, slice.sliceDataOffset + slice.sliceDataSize ≤ buffer.size := by
  induction slices generalizing bitstreamBytes with
  | nil => exact nofun
  | cons slice rest ih =>
      unfold checkSlices at hcheck
      split at hcheck
      · cases (Prod.mk.inj hcheck).2
      · rename_i hrange
        split at hcheck
        · cases (Prod.mk.inj hcheck).2
        · intro other hmem
          rcases List.mem_cons.mp hmem with rfl | hrest
          · exact (nvValidateSliceRange_inside hrange).1
          · exact ih hcheck other hrest

theorem cutSlices_inside {startCode : List UInt8} {heaps : Heaps} {slices : List SliceParameter}
    {ctx ctx' : SliceContext} {buffer : NVBuffer} {result : Option Nat}
    (hcut : cutSlices startCode heaps slices ctx buffer = (ctx', result))
    (hvalid : ctx'.inputValidationFailed = false) (hunfailed : Unfailed ctx') :
    ∀ slice ∈ slices, slice.sliceDataOffset + slice.sliceDataSize ≤ buffer.size := by
  unfold cutSlices at hcut
  split at hcut
  · rename_i hcheck
    obtain ⟨rfl, rfl⟩ := Prod.mk.inj hcut
    exact absurd (checkSlices_spec hcheck hvalid hunfailed).2 (by simp)
  · rename_i hcheck
    exact checkSlices_inside hcheck

theorem appendVP8Slices_inside {heaps : Heaps} {buffer : NVBuffer}
    {slices : List SliceParameter} {ctx ctx' : SliceContext}
    (hloop : appendVP8Slices heaps buffer slices ctx = (ctx', true)) :
    ∀ slice ∈ slices, slice.sliceDataOffset + slice.sliceDataSize ≤ buffer.size := by
  induction slices generalizing ctx with
  | nil => exact nofun
  | cons slice rest ih =>
      unfold appendVP8Slices at hloop
      split at hloop
      · cases (Prod.mk.inj hloop).2
      · rename_i hrange
        simp only at hloop
        split at hloop
        · cases (Prod.mk.inj hloop).2
        · intro other hmem
          rcases List.mem_cons.mp hmem with rfl | hrest
          · exact (nvValidateSliceRange_inside hrange).1
          · exact ih hloop other hrest

/-- What a handler of slice data does when the buffer is accepted. -/
structure Cut (headers : VaHeaders) (codec : NVCodec) (answers : Answers)
    (ctx ctx' : SliceContext) (buffer : NVBuffer) : Prop where
  emission : Emission ctx ctx'
    (slicePieces codec answers ctx.vp8 (ctx.sliceParams headers codec) buffer)
  inside : Inside codec answers (ctx.sliceParams headers codec) buffer
  slices : ctx'.nNumSlices = if codec = .jpeg then 1 else ctx.nNumSlices
  given : codec = .jpeg → ctx.lastSliceParams ≠ none

/-- The handlers with a fixed prefix. -/
theorem Cut.of_cutSlices {headers : VaHeaders} {codec : NVCodec} {answers : Answers}
    {ctx ctx' : SliceContext} {buffer : NVBuffer} {startCode : List UInt8}
    {result : Option Nat} (hjpeg : codec ≠ .jpeg)
    (hbefore : slicePrefix codec ctx.vp8 = startCode)
    (hcut : cutSlices startCode answers.heaps (ctx.slices headers codec) ctx buffer =
      (ctx', result))
    (hvalid : ctx'.inputValidationFailed = false) (hunfailed : Unfailed ctx') :
    Cut headers codec answers ctx ctx' buffer := by
  obtain ⟨hemission, hslices⟩ := cutSlices_emission hcut hvalid hunfailed
  refine ⟨?_, ?_, ?_, fun h => absurd h hjpeg⟩
  · have hpieces : slicePieces codec answers ctx.vp8 (ctx.sliceParams headers codec) buffer =
        (ctx.slices headers codec).map fun slice => startCode ++
          structAt (buffer.ptr.getD []) slice.sliceDataOffset slice.sliceDataSize := by
      rw [slicePieces, if_neg hjpeg, SliceContext.slices, List.map_map, ← hbefore]
      rfl
    rw [hpieces]
    exact hemission
  · rw [Inside, if_neg hjpeg]
    intro struct hmem
    exact cutSlices_inside hcut hvalid hunfailed _ (List.mem_map_of_mem hmem)
  · rw [if_neg hjpeg]
    exact hslices

theorem Cut.of_copyVP9SliceData {headers : VaHeaders} {answers : Answers}
    {ctx ctx' : SliceContext} {buffer : NVBuffer}
    (hcopy : copyVP9SliceData headers answers.heaps answers.vp9Parsed ctx buffer = ctx')
    (hvalid : ctx'.inputValidationFailed = false) (hunfailed : Unfailed ctx') :
    Cut headers .vp9 answers ctx ctx' buffer := by
  unfold copyVP9SliceData at hcopy
  split at hcopy
  · rename_i hcut
    subst hcopy
    exact .of_cutSlices nofun rfl hcut hvalid hunfailed
  · rename_i hcut
    split at hcopy
    · -- the parser turns the frame down
      subst hcopy
      cases hvalid
    · subst hcopy
      exact .of_cutSlices nofun rfl hcut hvalid hunfailed

theorem Cut.of_copyVP8SliceData {headers : VaHeaders} {answers : Answers}
    {ctx ctx' : SliceContext} {buffer : NVBuffer}
    (hcopy : copyVP8SliceData headers answers.heaps ctx buffer = ctx')
    (hvalid : ctx'.inputValidationFailed = false) (hunfailed : Unfailed ctx') :
    Cut headers .vp8 answers ctx ctx' buffer := by
  obtain ⟨hemission, hslices, -⟩ := copyVP8SliceData_emission hcopy hvalid hunfailed
  refine ⟨?_, ?_, hslices, nofun⟩
  · have hpieces : slicePieces .vp8 answers ctx.vp8 (ctx.sliceParams headers .vp8) buffer =
        (ctx.slices headers .vp8).map fun slice => nvBuildVP8FrameHeader ctx.vp8 ++
          structAt (buffer.ptr.getD []) slice.sliceDataOffset slice.sliceDataSize := by
      rw [slicePieces, if_neg nofun, SliceContext.slices, List.map_map]
      rfl
    rw [hpieces]
    exact hemission
  · rw [Inside, if_neg nofun]
    intro struct hmem
    unfold copyVP8SliceData at hcopy
    split at hcopy
    · rename_i hloop
      subst hcopy
      cases (appendVP8Slices_appended hloop hvalid hunfailed).1
    · rename_i hloop
      exact appendVP8Slices_inside hloop _ (List.mem_map_of_mem hmem)

/-- A JPEG is rebuilt as a whole, and the number of slices is set to one. -/
theorem Cut.of_copyJPEGSliceData {headers : VaHeaders} {answers : Answers}
    {ctx ctx' : SliceContext} {buffer : NVBuffer}
    (hcopy : copyJPEGSliceData headers answers.heaps answers.reconstructJPEG ctx buffer = ctx')
    (hvalid : ctx'.inputValidationFailed = false) (hunfailed : Unfailed ctx') :
    Cut headers .jpeg answers ctx ctx' buffer := by
  unfold copyJPEGSliceData at hcopy
  split at hcopy
  · split at hcopy
    · rename_i hfailed
      subst hcopy
      exact absurd hunfailed.2 (by simp [hfailed])
    · subst hcopy
      cases hvalid
  · rename_i reconstruct hanswer
    split at hcopy
    · subst hcopy
      cases hvalid
    · rename_i hgiven
      split at hcopy
      · subst hcopy
        cases hvalid
      · split at hcopy
        · subst hcopy
          cases hvalid
        · split at hcopy
          · rename_i sliceOffsets hoffset
            subst hcopy
            have hfailed := hunfailed.1
            rw [AppendableBuffer.append_failed hoffset] at hfailed
            cases hfailed
          · rename_i sliceOffsets hoffset
            split at hcopy
            · split at hcopy
              · rename_i hfailed
                subst hcopy
                exact absurd hunfailed.2 (by simp [hfailed])
              · subst hcopy
                cases hvalid
            · rename_i frame hframe
              split at hcopy
              · split at hcopy
                · rename_i hfailed
                  subst hcopy
                  exact absurd hunfailed.2 (by simp [hfailed])
                · subst hcopy
                  cases hvalid
              · split at hcopy
                · rename_i bitstreamBuffer hbitstream
                  subst hcopy
                  have hfailed := hunfailed.2
                  rw [AppendableBuffer.append_failed hbitstream] at hfailed
                  cases hfailed
                · rename_i bitstreamBuffer hbitstream
                  subst hcopy
                  obtain ⟨hcommit, hsmall⟩ := nvCommitCuvidBitstreamLength_spec hvalid
                  rw [hcommit]
                  obtain ⟨hbytes, -, -⟩ := AppendableBuffer.append_spec hbitstream
                  obtain ⟨hoffsetBytes, -, -⟩ := AppendableBuffer.append_spec hoffset
                  have hpieces : slicePieces .jpeg answers ctx.vp8
                      (ctx.sliceParams headers .jpeg) buffer = [frame] := by
                    rw [slicePieces, if_pos rfl, hanswer, Option.bind_some, hframe]
                    rfl
                  refine ⟨?_, ?_, rfl, fun _ => ?_⟩
                  · rw [hpieces]
                    refine ⟨⟨⟨rfl, rfl, rfl⟩, ?_, ?_⟩, rfl, hsmall⟩
                    · rw [List.flatten_singleton]
                      exact hbytes
                    · rw [Pieces.starts, Pieces.starts, List.flatMap_singleton]
                      exact hoffsetBytes
                  · rw [Inside, if_pos rfl]
                    exact ⟨reconstruct, hanswer, by rw [hframe]; rfl⟩
                  · exact fun hnone => hgiven (.inl hnone)

/-- The handlers of all codecs. -/
theorem sliceDataHandler_cut {headers : VaHeaders} {codec : NVCodec} {answers : Answers}
    {handler : SliceContext → NVBuffer → SliceContext} {ctx : SliceContext} {buffer : NVBuffer}
    (hhandler : sliceDataHandler headers answers codec = some handler)
    (hvalid : (handler ctx buffer).inputValidationFailed = false)
    (hunfailed : Unfailed (handler ctx buffer)) :
    Cut headers codec answers ctx (handler ctx buffer) buffer := by
  cases codec <;> cases hhandler
  case vp8 => exact .of_copyVP8SliceData rfl hvalid hunfailed
  case vp9 => exact .of_copyVP9SliceData rfl hvalid hunfailed
  case jpeg => exact .of_copyJPEGSliceData rfl hvalid hunfailed
  all_goals exact .of_cutSlices nofun rfl rfl hvalid hunfailed

end Slices
end NvidiaVaapi
