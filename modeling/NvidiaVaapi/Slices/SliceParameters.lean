import NvidiaVaapi.Av1.Bitstream
import NvidiaVaapi.Slices.SliceData

/-!
# Where slice parameters are read

An application says how large an element of its buffer is, and `nvValidateBufferSchema` lets
every size pass from the structure of the codec on.  The handlers go through the buffer by the
size of the structure.
-/

namespace NvidiaVaapi
namespace Slices

open Codec

/-- `copyAV1SliceParam` with the structures of a buffer; `read` reads the fields of one. -/
def copyAV1SliceParam (headers : VaHeaders) (read : List UInt8 → Av1.VASliceParameterBufferAV1)
    (memory : Av1.Memory) (ctx : Av1.NVContext) (buffer : NVBuffer) : Av1.NVContext :=
  Av1.copyAV1SliceParam memory ctx
    ((sliceStructs headers .av1 (buffer.ptr.getD []) buffer.elements).map read)

/-! ## The copy of a buffer -/

theorem structAt_take {memory : List UInt8} {size start sizeof : Nat}
    (hin : start + sizeof ≤ size) :
    structAt (memory.take size) start sizeof = structAt memory start sizeof := by
  unfold structAt
  rw [List.drop_take, List.take_take, Nat.min_eq_left (by omega)]

/-- The structures of the copy are those of the buffer. -/
theorem ownSliceParams_spec {heap : Heap} {ctx ctx' : SliceContext} {buffer owned : NVBuffer}
    (hown : ownSliceParams heap ctx buffer = some (owned, ctx')) :
    owned.elements = buffer.elements ∧ ∀ start sizeof, start + sizeof ≤ buffer.size →
      structAt (owned.ptr.getD []) start sizeof = structAt (buffer.ptr.getD []) start sizeof := by
  unfold ownSliceParams at hown
  split at hown
  · cases hown
  · rename_i memory hptr
    split at hown
    · cases hown
    · rename_i copy hcopy
      cases hown
      refine ⟨rfl, fun start sizeof hin => ?_⟩
      obtain ⟨hbytes, hsize, -⟩ := AppendableBuffer.append_spec hcopy
      have hmemory := buffer.size_le memory hptr
      have hcopied : copy.buf.take buffer.size = memory.take buffer.size := by
        have hlength : copy.size = buffer.size := by
          rw [hsize, List.length_take, Nat.min_eq_left hmemory]
          exact Nat.zero_add _
        have hclear : ctx.sliceParamsBuffer.clear.bytes = [] := rfl
        rw [AppendableBuffer.bytes, hlength, hclear, List.nil_append] at hbytes
        exact hbytes
      show structAt copy.buf start sizeof = structAt (buffer.ptr.getD []) start sizeof
      rw [hptr, Option.getD_some, ← structAt_take hin, hcopied, structAt_take hin]

/-- Where the copy of the parameters is made, it is all that changes. -/
theorem ownSliceParams_ctx {heap : Heap} {ctx ctx' : SliceContext} {buffer owned : NVBuffer}
    (hown : ownSliceParams heap ctx buffer = some (owned, ctx')) :
    ctx' = { ctx with sliceParamsBuffer := ctx'.sliceParamsBuffer } ∧
      ctx'.sliceParamsBuffer.failed = ctx.sliceParamsBuffer.failed := by
  unfold ownSliceParams at hown
  split at hown
  · cases hown
  · split at hown
    · cases hown
    · rename_i hcopy
      cases hown
      exact ⟨rfl, (AppendableBuffer.append_spec hcopy).2.2⟩

/-- With memory enough, there is a copy. -/
theorem ownSliceParams_available {heap : Heap} (hheap : ∀ capacity, heap.available capacity = true)
    (ctx : SliceContext) {buffer : NVBuffer} {memory : List UInt8}
    (hptr : buffer.ptr = some memory) (hsize : buffer.size ≤ sizeMax) :
    ∃ owned ctx', ownSliceParams heap ctx buffer = some (owned, ctx') := by
  have hfits : ctx.sliceParamsBuffer.clear.size + (memory.take buffer.size).length ≤ sizeMax := by
    have hlength := List.length_take_le buffer.size memory
    have hclear : ctx.sliceParamsBuffer.clear.size = 0 := rfl
    omega
  have happend := AppendableBuffer.append_available hheap hfits
  unfold ownSliceParams
  split
  · rename_i hnone
    rw [hptr] at hnone
    cases hnone
  · rename_i memory' hsome
    obtain rfl : memory = memory' := Option.some.inj (hptr.symm.trans hsome)
    split
    · rename_i hcopy
      rw [hcopy] at happend
      cases happend
    · exact ⟨_, _, rfl⟩

/-! ## The structures that are read -/

theorem copySliceParam_sliceParams (headers : VaHeaders) (codec : NVCodec) (ctx : SliceContext)
    (buffer : NVBuffer) :
    (copySliceParam ctx buffer).sliceParams headers codec =
      sliceStructs headers codec (buffer.ptr.getD []) buffer.elements := by
  unfold copySliceParam nvAddCuvidSlices
  split <;> rfl

/-- Each handler of slice parameters keeps the structures of its buffer. -/
theorem sliceParameterHandler_sliceParams {headers : VaHeaders} {codec : NVCodec}
    {handler : SliceContext → NVBuffer → SliceContext}
    (hhandler : sliceParameterHandler headers codec = some handler) (ctx : SliceContext)
    (buffer : NVBuffer) :
    (handler ctx buffer).sliceParams headers codec =
      sliceStructs headers codec (buffer.ptr.getD []) buffer.elements := by
  cases codec <;> cases hhandler
  case jpeg => rfl
  all_goals exact copySliceParam_sliceParams headers _ _ buffer

theorem accepted_eq {ctx ctx' : SliceContext} (h : accepted ctx = some ctx') :
    ctx' = ctx ∧ ctx.inputValidationFailed = false ∧ ctx.outOfMemory = false := by
  unfold accepted at h
  split at h
  · cases h
  · rename_i hfree
    simp only [not_or, Bool.not_eq_true] at hfree
    exact ⟨(Option.some.inj h).symm, hfree⟩

theorem accepted_some {ctx : SliceContext} (hvalid : ctx.inputValidationFailed = false)
    (hmemory : ctx.outOfMemory = false) : accepted ctx = some ctx := by
  unfold accepted
  rw [if_neg]
  simp [hvalid, hmemory]

/-- For every buffer of a shape that the schema lets pass, the `k`-th structure that the
handlers read is the one at the `k`-th element. -/
def ReadsElements (headers : VaHeaders) (codec : NVCodec) (elements elementSize : Nat) : Prop :=
  ∀ (heap : Heap) (ctx ctx' : SliceContext) (buffer owned : NVBuffer),
    buffer.elements = elements → buffer.elementSize = elementSize →
    nvValidateBufferSchema buffer (sliceParameterSchema headers codec) = true →
    ownSliceParams heap ctx buffer = some (owned, ctx') →
    ∀ k < elements,
      (sliceStructs headers codec (owned.ptr.getD []) owned.elements)[k]? =
        some (structAt (buffer.ptr.getD []) (k * elementSize) (headers.sizeof codec))

theorem schema_size {headers : VaHeaders} {codec : NVCodec} {buffer : NVBuffer}
    (hschema : nvValidateBufferSchema buffer (sliceParameterSchema headers codec) = true) :
    1 ≤ buffer.elements ∧ headers.sizeof codec ≤ buffer.elementSize ∧
      buffer.size = buffer.elementSize * buffer.elements := by
  unfold nvValidateBufferSchema sliceParameterSchema at hschema
  simp only [Bool.not_eq_true', Bool.or_eq_false_iff, decide_eq_false_iff_not] at hschema
  obtain ⟨⟨⟨⟨⟨⟨-, hmin⟩, -⟩, helement⟩, -⟩, hsize⟩, -⟩ := hschema
  exact ⟨by omega, by omega, by simpa using hsize⟩

/-- The schema asks for no more than whole elements with room for the structure. -/
theorem schema_holds {headers : VaHeaders} {codec : NVCodec} {buffer : NVBuffer}
    (helements : 1 ≤ buffer.elements) (helement : headers.sizeof codec ≤ buffer.elementSize)
    (hsize : buffer.size = buffer.elementSize * buffer.elements)
    (hfits : buffer.elementSize * buffer.elements ≤ sizeMax) (hptr : buffer.ptr.isSome = true) :
    nvValidateBufferSchema buffer (sliceParameterSchema headers codec) = true := by
  have hbase := headers.base_le codec
  have hdiv : buffer.elementSize ≤ sizeMax / buffer.elements := by
    rw [Nat.le_div_iff_mul_le helements]
    exact hfits
  have hpresent : buffer.ptr.isNone = false := by
    rw [← Option.not_isSome, hptr]
    rfl
  unfold nvValidateBufferSchema sliceParameterSchema
  simp only [Bool.not_eq_true', Bool.or_eq_false_iff, decide_eq_false_iff_not]
  rw [hpresent, decide_eq_false (Nat.not_lt.mpr hdiv)]
  refine ⟨⟨⟨⟨⟨⟨by omega, by omega⟩, rfl⟩, by omega⟩, ?_⟩, by omega⟩, ?_⟩ <;> exact Bool.and_false _

/-- What a handler reads lies in the elements, at the stride of the structure. -/
theorem sliceParameterAt_owned {headers : VaHeaders} {codec : NVCodec} {heap : Heap}
    {ctx ctx' : SliceContext} {buffer owned : NVBuffer}
    (hschema : nvValidateBufferSchema buffer (sliceParameterSchema headers codec) = true)
    (hown : ownSliceParams heap ctx buffer = some (owned, ctx')) {k : Nat}
    (hk : k < buffer.elements) :
    sliceParameterAt headers codec (owned.ptr.getD []) k =
      sliceParameterAt headers codec (buffer.ptr.getD []) k := by
  obtain ⟨-, helement, hsize⟩ := schema_size hschema
  have hin : k * headers.sizeof codec + headers.sizeof codec ≤ buffer.size := by
    calc k * headers.sizeof codec + headers.sizeof codec
        = (k + 1) * headers.sizeof codec := (Nat.succ_mul _ _).symm
      _ ≤ buffer.elements * buffer.elementSize := Nat.mul_le_mul hk helement
      _ = buffer.size := by rw [hsize, Nat.mul_comm]
  exact (ownSliceParams_spec hown).2 _ _ hin

/-- The structures of the copy are those of the buffer of the application. -/
theorem sliceStructs_owned {headers : VaHeaders} {codec : NVCodec} {heap : Heap}
    {ctx ctx' : SliceContext} {buffer owned : NVBuffer}
    (hschema : nvValidateBufferSchema buffer (sliceParameterSchema headers codec) = true)
    (hown : ownSliceParams heap ctx buffer = some (owned, ctx')) :
    sliceStructs headers codec (owned.ptr.getD []) owned.elements =
      sliceStructs headers codec (buffer.ptr.getD []) buffer.elements := by
  unfold sliceStructs
  rw [(ownSliceParams_spec hown).1]
  exact List.map_congr_left fun k hk =>
    sliceParameterAt_owned hschema hown (List.mem_range.mp hk)

theorem sliceStructs_get {headers : VaHeaders} {codec : NVCodec} {heap : Heap}
    {ctx ctx' : SliceContext} {buffer owned : NVBuffer}
    (hschema : nvValidateBufferSchema buffer (sliceParameterSchema headers codec) = true)
    (hown : ownSliceParams heap ctx buffer = some (owned, ctx')) {k : Nat}
    (hk : k < buffer.elements) :
    (sliceStructs headers codec (owned.ptr.getD []) owned.elements)[k]? =
      some (structAt (buffer.ptr.getD []) (k * headers.sizeof codec) (headers.sizeof codec)) := by
  rw [sliceStructs_owned hschema hown, sliceStructs, List.getElem?_map, List.getElem?_range hk]
  rfl

/-- A buffer with a mark behind the first structure. -/
def markedBuffer (sizeof elements elementSize : Nat) : NVBuffer where
  elements := elements
  elementSize := elementSize
  size := elementSize * elements
  ptr := some ((List.range (elementSize * elements)).map fun i => if i = sizeof then 1 else 0)
  size_le := by
    rintro _ ⟨⟩
    simp

theorem markedBuffer_schema {headers : VaHeaders} {codec : NVCodec} {elements elementSize : Nat}
    (helements : 1 ≤ elements) (helement : headers.sizeof codec ≤ elementSize)
    (hfits : elementSize * elements ≤ sizeMax) :
    nvValidateBufferSchema (markedBuffer (headers.sizeof codec) elements elementSize)
      (sliceParameterSchema headers codec) = true :=
  schema_holds helements helement rfl hfits rfl

/-- The first byte of a structure in it. -/
theorem markedBuffer_head {sizeof elements elementSize start : Nat} (hsizeof : 0 < sizeof)
    (hstart : start < elementSize * elements) :
    (structAt ((markedBuffer sizeof elements elementSize).ptr.getD []) start sizeof)[0]? =
      some (if start = sizeof then 1 else 0) := by
  unfold structAt markedBuffer
  simp [hsizeof, List.getElem?_drop, List.getElem?_range hstart]

/-- If the second structure is read at the second element, the elements are structures. -/
theorem ReadsElements.elementSize_eq {headers : VaHeaders} {codec : NVCodec}
    {elements elementSize : Nat} (hreads : ReadsElements headers codec elements elementSize)
    (helements : 2 ≤ elements) (helement : headers.sizeof codec ≤ elementSize)
    (hfits : elementSize * elements ≤ sizeMax) : elementSize = headers.sizeof codec := by
  have hbase := headers.base_le codec
  have hschema : nvValidateBufferSchema
      (markedBuffer (headers.sizeof codec) elements elementSize)
      (sliceParameterSchema headers codec) = true :=
    markedBuffer_schema (by omega) helement hfits
  obtain ⟨owned, ctx', hown⟩ : ∃ owned ctx', ownSliceParams ⟨fun _ => true, fun _ => 0⟩ {}
      (markedBuffer (headers.sizeof codec) elements elementSize) = some (owned, ctx') :=
    ownSliceParams_available (fun _ => rfl) {} rfl hfits
  have hstored := hreads _ _ _ _ _ rfl rfl hschema hown 1 helements
  have hread := sliceStructs_get hschema hown (k := 1) helements
  have hsame := Option.some.inj (hread.symm.trans hstored)
  -- The first byte of the structure is the mark, and that of the element is not.
  have hlarge : elementSize * 2 ≤ elementSize * elements := Nat.mul_le_mul_left _ helements
  have hhead {start : Nat} (hstart : start < elementSize * elements) :
      (structAt ((markedBuffer (headers.sizeof codec) elements elementSize).ptr.getD [])
        start (headers.sizeof codec))[0]? = some (if start = headers.sizeof codec then 1 else 0) :=
    markedBuffer_head (by omega) hstart
  have hmark : 1 * headers.sizeof codec < elementSize * elements := by omega
  have hother : 1 * elementSize < elementSize * elements := by omega
  have hmark := hhead hmark
  rw [hsame, hhead hother, Nat.one_mul, Nat.one_mul, if_pos rfl] at hmark
  by_contra hne
  rw [if_neg hne] at hmark
  exact absurd (Option.some.inj hmark) (by decide)

/-- The handlers of every codec read the structure of each element where it is if and only if
the elements have the size of the structure or there is one element. -/
theorem readsElements_iff (headers : VaHeaders) (codec : NVCodec) {elements elementSize : Nat}
    (helements : 1 ≤ elements) (helement : headers.sizeof codec ≤ elementSize)
    (hfits : elementSize * elements ≤ sizeMax) :
    ReadsElements headers codec elements elementSize ↔
      elementSize = headers.sizeof codec ∨ elements = 1 := by
  constructor
  · intro hreads
    by_cases hone : elements = 1
    · exact .inr hone
    · exact .inl (hreads.elementSize_eq (by omega) helement hfits)
  · intro hshape heap ctx ctx' buffer owned hcount hsize hschema hown k hk
    rw [sliceStructs_get hschema hown (by rw [hcount]; exact hk)]
    rcases hshape with heq | rfl
    · rw [heq]
    · obtain rfl : k = 0 := by omega
      rw [Nat.zero_mul, Nat.zero_mul]

/-- Every `memalign` succeeds. -/
def Answers.available : Answers where
  heaps := ⟨⟨fun _ => true, fun _ => 0⟩, ⟨fun _ => true, fun _ => 0⟩, ⟨fun _ => true, fun _ => 0⟩⟩

/-- The structures of VA-API, with `partition_size[0]` and `macroblock_offset` of VP8. -/
def vaHeaders : VaHeaders where
  sizeof
    | .h264 => 3128
    | .hevc => 264
    | .mpeg2 => 48
    | .mpeg4 => 40
    | .vc1 => 36
    | .vp8 => 72
    | .vp9 => 316
    | .jpeg => 56
    | .av1 => 40
  base_le := by
    intro codec
    cases codec <;> decide
  vp8FirstPartitionSize bytes := (read32 bytes 20 + (read32 bytes 12 + 7) % 2 ^ 32 / 8) % 2 ^ 32

/-- Three slices of H.264. -/
theorem readsElements_h264 : ReadsElements vaHeaders .h264 3 3128 :=
  (readsElements_iff vaHeaders .h264 (by decide) (by decide) (by decide)).mpr (.inl rfl)

/-- Two slices of HEVC in elements with the range extension behind the structure. -/
theorem not_readsElements_hevc : ¬ ReadsElements vaHeaders .hevc 2 468 := by
  intro hreads
  have heq := hreads.elementSize_eq (by decide) (by decide) (by decide)
  exact absurd heq (by decide)

end Slices
end NvidiaVaapi
