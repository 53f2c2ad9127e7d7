import NvidiaVaapi.Slices.VP8Frames

/-!
# The slices of a picture

The parameters of slices and their data come in buffers of their own.  The slices are counted
when parameters come, and their offsets and bytes are appended when data comes.  What the decoder
is given is in order if every buffer of parameters has one buffer of data.
-/

namespace NvidiaVaapi
namespace Slices

open Codec

/-! ## The buffers of a picture -/

/-- A buffer of slice data, with what its handler is answered and the frame of VP8 in force. -/
structure GivenData where
  answers : Answers
  frame : VP8Frame
  buffer : NVBuffer

/-- A buffer of slice parameters, with the slice data that comes before the next one. -/
structure SliceGroup where
  params : NVBuffer
  data : List GivenData

def SliceGroup.add (group : SliceGroup) (given : GivenData) : SliceGroup :=
  { group with data := group.data ++ [given] }

/-- The frame of VP8 once slice parameters have come: the first structure gives the size of the
first partition. -/
def frameWithParams (headers : VaHeaders) (codec : NVCodec) (frame : VP8Frame)
    (params : NVBuffer) : VP8Frame :=
  if codec = .vp8 then
    { frame with
      firstPartitionSize :=
        headers.vp8FirstPartitionSize (sliceParameterAt headers .vp8 (params.ptr.getD []) 0) }
  else frame

/-- The slice data of a picture by the slice parameters that it comes after; data before all
slice parameters belongs to none. -/
def sliceGroups (headers : VaHeaders) (codec : NVCodec) :
    List (Answers × DecodeBuffer) → VP8Frame → Option SliceGroup → List SliceGroup
  | [], _, current => current.toList
  | (_, .sliceParameter params) :: rest, frame, current =>
    current.toList ++ sliceGroups headers codec rest (frameWithParams headers codec frame params)
      (some ⟨params, []⟩)
  | (answers, .sliceData buffer) :: rest, frame, current =>
    sliceGroups headers codec rest frame
      (current.map fun group => group.add ⟨answers, frame, buffer⟩)
  | (_, .other next) :: rest, frame, current =>
    sliceGroups headers codec rest { next with firstPartitionSize := frame.firstPartitionSize }
      current

/-- The slice parameters of a buffer: a structure in each of its elements. -/
def elementStructs (headers : VaHeaders) (codec : NVCodec) (params : NVBuffer) :
    List (List UInt8) :=
  (List.range params.elements).map fun k =>
    structAt (params.ptr.getD []) (k * params.elementSize) (headers.sizeof codec)

/-- What slice parameters ask for: the prefix of the codec and the bytes of the slice, if they are
in the slice data, for each of them; the rebuilt frame for those of a JPEG. -/
def requestedPieces (codec : NVCodec) (structs : List (List UInt8)) (given : GivenData) :
    List (Option (List UInt8)) :=
  if codec = .jpeg then
    [given.answers.reconstructJPEG.bind fun reconstruct =>
      reconstruct structs ((given.buffer.ptr.getD []).take given.buffer.size)]
  else structs.map fun struct =>
    let slice := SliceParameter.ofStruct struct
    if slice.sliceDataOffset + slice.sliceDataSize ≤ given.buffer.size then
      some (slicePiece codec given.frame given.buffer slice)
    else none

/-- The slices of a group, in the slice data that was submitted for them. -/
def SliceGroup.requested (headers : VaHeaders) (codec : NVCodec) (group : SliceGroup) :
    List (Option (List UInt8)) :=
  match group.data with
  | [] => [none]
  | given :: _ => requestedPieces codec (elementStructs headers codec group.params) given

/-! ## What the decoder is given -/

/-- The numbers of 32 bits in `sliceOffsets`. -/
def offsetEntries (ctx : SliceContext) : List Nat :=
  (List.range (ctx.sliceOffsets.size / 4)).map fun i => read32 ctx.sliceOffsets.bytes (4 * i)

/-- The offsets, the lengths and the number of slices fit each other, and cutting the bitstream
at the offsets yields what was asked for. -/
structure Accounted (ctx : SliceContext) (requested : List (Option (List UInt8))) : Prop where
  entries : ctx.sliceOffsets.size = 4 * ctx.nNumSlices
  ordered : (offsetEntries ctx).Pairwise (· ≤ ·)
  inside : ∀ entry ∈ offsetEntries ctx, entry ≤ ctx.nBitstreamDataLen
  length : ctx.nBitstreamDataLen = ctx.bitstreamBuffer.size
  small : ctx.nBitstreamDataLen < 2 ^ 32
  pieces : (Pieces.cutAt (submitted ctx) (offsetEntries ctx)).map some = requested

/-- There is one buffer of slice data for the slice parameters, and the structures that are read
ask for the same bytes as those in the elements. -/
def SliceGroup.Paired (headers : VaHeaders) (codec : NVCodec) (group : SliceGroup) : Prop :=
  ∃ given, group.data = [given] ∧
    requestedPieces codec
        (sliceStructs headers codec (group.params.ptr.getD []) group.params.elements) given =
      requestedPieces codec (elementStructs headers codec group.params) given

/-- Every buffer of slice parameters is paired, and a JPEG has one of them at most. -/
def Paired (headers : VaHeaders) (codec : NVCodec) (groups : List SliceGroup) : Prop :=
  (∀ group ∈ groups, group.Paired headers codec) ∧ (codec = .jpeg → groups.length ≤ 1)

/-! ## Numbers of 32 bits -/

theorem read32_le32 (n : Nat) (rest : List UInt8) (hsmall : n < 2 ^ 32) :
    read32 (le32 n ++ rest) 0 = n := by
  show (UInt8.ofNat n).toNat + 2 ^ 8 * (UInt8.ofNat (n / 2 ^ 8)).toNat +
    2 ^ 16 * (UInt8.ofNat (n / 2 ^ 16)).toNat + 2 ^ 24 * (UInt8.ofNat (n / 2 ^ 24)).toNat = n
  simp only [UInt8.toNat_ofNat']
  omega

/-- Numbers that were written one behind the other are read again. -/
theorem read32_numbers {numbers : List Nat} (hsmall : ∀ n ∈ numbers, n < 2 ^ 32) :
    (List.range numbers.length).map (fun i => read32 (numbers.flatMap le32) (4 * i)) =
      numbers := by
  induction numbers with
  | nil => rfl
  | cons first rest ih =>
      have hrest := ih fun n hn => hsmall n (List.mem_cons_of_mem _ hn)
      rw [List.length_cons, List.range_succ_eq_map, List.map_cons, List.map_map,
        List.flatMap_cons, read32_le32 _ _ (hsmall first List.mem_cons_self)]
      -- a number takes up four places, so that the others are read as if they stood alone
      exact congrArg (List.cons first) hrest

/-! ## The run -/

/-- The structures that are read for a group. -/
def SliceGroup.structs (headers : VaHeaders) (codec : NVCodec) (group : SliceGroup) :
    List (List UInt8) :=
  sliceStructs headers codec (group.params.ptr.getD []) group.params.elements

/-- The pieces that a buffer of slice data appends. -/
def SliceGroup.pieces (headers : VaHeaders) (codec : NVCodec) (group : SliceGroup)
    (given : GivenData) : List (List UInt8) :=
  slicePieces codec given.answers given.frame (group.structs headers codec) given.buffer

def appendedPieces (headers : VaHeaders) (codec : NVCodec) (groups : List SliceGroup) :
    List (List UInt8) :=
  groups.flatMap fun group => group.data.flatMap (group.pieces headers codec)

/-- What is kept for the slice data to come. -/
structure Kept (headers : VaHeaders) (codec : NVCodec) (frame : VP8Frame)
    (current : Option SliceGroup) (ctx : SliceContext) : Prop where
  vp8 : ctx.vp8 = frame
  empty : current = none → ctx.lastSliceParams = none ∧ ctx.lastSliceParamsCount = 0
  structs : ∀ group, current = some group →
    ctx.sliceParams headers codec = group.structs headers codec

/-- The groups so far are in the buffers of the context. -/
structure Gathered (headers : VaHeaders) (codec : NVCodec) (groups : List SliceGroup)
    (ctx : SliceContext) : Prop where
  bitstream : ctx.bitstreamBuffer.bytes = (appendedPieces headers codec groups).flatten
  offsets : ctx.sliceOffsets.bytes =
    (Pieces.starts 0 (appendedPieces headers codec groups)).flatMap le32
  committed : ctx.nBitstreamDataLen = ctx.bitstreamBuffer.size
  small : ctx.bitstreamBuffer.size ≤ uint32Max
  slices : codec ≠ .jpeg → ctx.nNumSlices = (groups.map fun group => group.params.elements).sum
  frames : codec = .jpeg → ctx.nNumSlices = min 1 (groups.map fun group => group.data.length).sum
  inside : ∀ group ∈ groups, ∀ given ∈ group.data,
    Inside codec given.answers (group.structs headers codec) given.buffer
  elements : ∀ group ∈ groups, 0 < group.params.elements

theorem beginPicture_kept (headers : VaHeaders) (codec : NVCodec) (ctx : SliceContext) :
    Kept headers codec {} none (beginPicture ctx) where
  vp8 := rfl
  empty _ := ⟨rfl, rfl⟩
  structs := by
    intro group hgroup
    cases hgroup

theorem beginPicture_gathered (headers : VaHeaders) (codec : NVCodec) (ctx : SliceContext) :
    Gathered headers codec [] (beginPicture ctx) where
  bitstream := rfl
  offsets := rfl
  committed := rfl
  small := Nat.zero_le _
  slices _ := rfl
  frames _ := rfl
  inside := by
    intro group hgroup
    cases hgroup
  elements := by
    intro group hgroup
    cases hgroup

/-- A handler of slice parameters counts the slices, but for those of a JPEG. -/
theorem copySliceParam_counts {ctx : SliceContext} {buffer : NVBuffer}
    (hvalid : (copySliceParam ctx buffer).inputValidationFailed = false) :
    copySliceParam ctx buffer = { ctx with
      lastSliceParams := buffer.ptr
      lastSliceParamsCount := buffer.elements
      nNumSlices := ctx.nNumSlices + buffer.elements } := by
  unfold copySliceParam nvAddCuvidSlices at hvalid ⊢
  split at hvalid
  · cases hvalid
  · rename_i hfits
    rw [if_neg hfits]

/-- What each handler of slice parameters leaves of a context. -/
structure Noted (headers : VaHeaders) (codec : NVCodec) (ctx ctx' : SliceContext)
    (buffer : NVBuffer) : Prop where
  bitstreamBuffer : ctx'.bitstreamBuffer = ctx.bitstreamBuffer
  sliceOffsets : ctx'.sliceOffsets = ctx.sliceOffsets
  nBitstreamDataLen : ctx'.nBitstreamDataLen = ctx.nBitstreamDataLen
  vp8 : ctx'.vp8 = frameWithParams headers codec ctx.vp8 buffer
  slices : codec ≠ .jpeg → ctx'.nNumSlices = ctx.nNumSlices + buffer.elements
  frames : codec = .jpeg → ctx'.nNumSlices = ctx.nNumSlices

/-- The handler that most codecs share. -/
theorem Noted.of_copySliceParam {headers : VaHeaders} {codec : NVCodec} {ctx : SliceContext}
    {buffer : NVBuffer} (hjpeg : codec ≠ .jpeg) (hvp8 : codec ≠ .vp8)
    (hvalid : (copySliceParam ctx buffer).inputValidationFailed = false) :
    Noted headers codec ctx (copySliceParam ctx buffer) buffer := by
  rw [copySliceParam_counts hvalid]
  refine ⟨rfl, rfl, rfl, ?_, fun _ => rfl, fun h => absurd h hjpeg⟩
  rw [frameWithParams, if_neg hvp8]

theorem sliceParameterHandler_noted {headers : VaHeaders} {codec : NVCodec}
    {handler : SliceContext → NVBuffer → SliceContext} {ctx : SliceContext} {buffer : NVBuffer}
    (hhandler : sliceParameterHandler headers codec = some handler)
    (hvalid : (handler ctx buffer).inputValidationFailed = false) :
    Noted headers codec ctx (handler ctx buffer) buffer := by
  cases codec <;> cases hhandler
  case jpeg => exact ⟨rfl, rfl, rfl, rfl, fun h => absurd rfl h, fun _ => rfl⟩
  case vp8 =>
    have hcopied := copySliceParam_counts hvalid
    rw [copyVP8SliceParam, hcopied]
    exact ⟨rfl, rfl, rfl, rfl, fun _ => rfl, fun h => by cases h⟩
  all_goals exact .of_copySliceParam (by decide) (by decide) hvalid

/-- Slice parameters open a group. -/
theorem Gathered.sliceParameter {headers : VaHeaders} {codec : NVCodec} {answers : Answers}
    {groups : List SliceGroup} {frame : VP8Frame} {current : Option SliceGroup}
    {ctx ctx' : SliceContext} {buffer : NVBuffer} (hgathered : Gathered headers codec groups ctx)
    (hkept : Kept headers codec frame current ctx)
    (hrender : renderBuffer headers codec answers ctx (.sliceParameter buffer) = some ctx') :
    Gathered headers codec (groups ++ [⟨buffer, []⟩]) ctx' ∧
      Kept headers codec (frameWithParams headers codec frame buffer) (some ⟨buffer, []⟩) ctx' := by
  unfold renderBuffer at hrender
  obtain ⟨handler, hhandler, hrender⟩ := Option.bind_eq_some_iff.mp hrender
  split at hrender
  · cases hrender
  · rename_i hshape
    have hschema : nvValidateBufferSchema buffer (sliceParameterSchema headers codec) = true := by
      simpa using fun h => hshape (.inr h)
    obtain ⟨helements, -, -⟩ := schema_size hschema
    obtain ⟨⟨owned, mid⟩, hown, hrender⟩ := Option.bind_eq_some_iff.mp hrender
    obtain ⟨rfl, hvalid, -⟩ := accepted_eq hrender
    obtain ⟨hmid, -⟩ := ownSliceParams_ctx hown
    obtain ⟨hcount, -⟩ := ownSliceParams_spec hown
    have hnoted := sliceParameterHandler_noted hhandler hvalid
    have hpieces : appendedPieces headers codec (groups ++ [⟨buffer, []⟩]) =
        appendedPieces headers codec groups := by
      rw [appendedPieces, List.flatMap_append, List.flatMap_singleton, List.flatMap_nil,
        List.append_nil, appendedPieces]
    have hbitstream : (handler mid owned).bitstreamBuffer = ctx.bitstreamBuffer := by
      rw [hnoted.bitstreamBuffer, hmid]
    have hoffsets : (handler mid owned).sliceOffsets = ctx.sliceOffsets := by
      rw [hnoted.sliceOffsets, hmid]
    have hlength : (handler mid owned).nBitstreamDataLen = ctx.nBitstreamDataLen := by
      rw [hnoted.nBitstreamDataLen, hmid]
    have hslices : mid.nNumSlices = ctx.nNumSlices := by
      rw [hmid]
    have hvp8 : mid.vp8 = ctx.vp8 := by
      rw [hmid]
    refine ⟨⟨?_, ?_, ?_, ?_, fun hsliced => ?_, fun hjpeg => ?_, ?_, ?_⟩, ⟨?_, ?_, ?_⟩⟩
    · rw [hbitstream, hpieces]
      exact hgathered.bitstream
    · rw [hoffsets, hpieces]
      exact hgathered.offsets
    · rw [hlength, hbitstream]
      exact hgathered.committed
    · rw [hbitstream]
      exact hgathered.small
    · rw [hnoted.slices hsliced, hslices, hgathered.slices hsliced, hcount, List.map_append,
        List.sum_append]
      rfl
    · rw [hnoted.frames hjpeg, hslices, hgathered.frames hjpeg, List.map_append, List.sum_append]
      rfl
    · intro group hmem given hgiven
      rcases List.mem_append.mp hmem with hold | hnew
      · exact hgathered.inside group hold given hgiven
      · obtain rfl := List.mem_singleton.mp hnew
        cases hgiven
    · intro group hmem
      rcases List.mem_append.mp hmem with hold | hnew
      · exact hgathered.elements group hold
      · obtain rfl := List.mem_singleton.mp hnew
        exact helements
    · rw [hnoted.vp8, hvp8, hkept.vp8]
      unfold frameWithParams
      split
      · rename_i hcodec
        subst hcodec
        rw [sliceParameterAt_owned hschema hown (Nat.lt_of_lt_of_le Nat.zero_lt_one helements)]
      · rfl
    · intro hnone
      cases hnone
    · rintro _ ⟨⟩
      rw [sliceParameterHandler_sliceParams hhandler mid owned, sliceStructs_owned hschema hown]
      rfl

/-- The pieces of the slice data that is added to the last group come last. -/
theorem appendedPieces_add (headers : VaHeaders) (codec : NVCodec) (groups : List SliceGroup)
    (group : SliceGroup) (given : GivenData) :
    appendedPieces headers codec (groups ++ [group.add given]) =
      appendedPieces headers codec (groups ++ [group]) ++ group.pieces headers codec given := by
  unfold appendedPieces
  rw [List.flatMap_append, List.flatMap_append, List.flatMap_singleton, List.flatMap_singleton,
    List.append_assoc]
  congr 1
  show (group.data ++ [given]).flatMap (group.pieces headers codec) = _
  rw [List.flatMap_append, List.flatMap_singleton]

/-- What a buffer of slice data does to the two buffers that it appends to. -/
theorem Gathered.appended {headers : VaHeaders} {codec : NVCodec} {answers : Answers}
    {groups : List SliceGroup} {ctx ctx' : SliceContext} {buffer : NVBuffer}
    {pieces : List (List UInt8)} (hgathered : Gathered headers codec groups ctx)
    (hcut : Cut headers codec answers ctx ctx' buffer)
    (hpieces : slicePieces codec answers ctx.vp8 (ctx.sliceParams headers codec) buffer = pieces) :
    ctx'.bitstreamBuffer.bytes = (appendedPieces headers codec groups ++ pieces).flatten ∧
      ctx'.sliceOffsets.bytes =
        (Pieces.starts 0 (appendedPieces headers codec groups ++ pieces)).flatMap le32 := by
  have hsize : ctx.bitstreamBuffer.size =
      0 + (appendedPieces headers codec groups).flatten.length := by
    rw [← hgathered.bitstream, AppendableBuffer.length_bytes, Nat.zero_add]
  constructor
  · rw [hcut.emission.bitstream, hgathered.bitstream, hpieces, List.flatten_append]
  · rw [hcut.emission.offsets, hgathered.offsets, hpieces, hsize, Pieces.starts_append,
      List.flatMap_append]

/-- Slice data goes to the group that is open. -/
theorem Gathered.sliceData {headers : VaHeaders} {codec : NVCodec} {answers : Answers}
    {groups : List SliceGroup} {frame : VP8Frame} {current : Option SliceGroup}
    {ctx ctx' : SliceContext} {buffer : NVBuffer}
    (hgathered : Gathered headers codec (groups ++ current.toList) ctx)
    (hkept : Kept headers codec frame current ctx)
    (hrender : renderBuffer headers codec answers ctx (.sliceData buffer) = some ctx') :
    Gathered headers codec
        (groups ++ (current.map fun group => group.add ⟨answers, frame, buffer⟩).toList) ctx' ∧
      Kept headers codec frame (current.map fun group => group.add ⟨answers, frame, buffer⟩)
        ctx' := by
  unfold renderBuffer at hrender
  obtain ⟨handler, hhandler, hrender⟩ := Option.bind_eq_some_iff.mp hrender
  split at hrender
  · cases hrender
  · obtain ⟨rfl, hvalid, hmemory⟩ := accepted_eq hrender
    have hunfailed : Unfailed (handler ctx buffer) := by
      unfold SliceContext.outOfMemory at hmemory
      simp only [Bool.or_eq_false_iff] at hmemory
      exact ⟨hmemory.1.2, hmemory.1.1⟩
    have hcut := sliceDataHandler_cut hhandler hvalid hunfailed
    have hparams : (handler ctx buffer).sliceParams headers codec =
        ctx.sliceParams headers codec := by
      unfold SliceContext.sliceParams
      rw [hcut.emission.lastSliceParams, hcut.emission.lastSliceParamsCount]
    have hvp8 : (handler ctx buffer).vp8 = frame := hcut.emission.vp8.trans hkept.vp8
    cases current with
    | none =>
        -- nothing is kept, so that there are no slices to go through
        obtain ⟨hnone, hcount⟩ := hkept.empty rfl
        have hjpeg : codec ≠ .jpeg := fun hjpeg => hcut.given hjpeg hnone
        have hstructs : ctx.sliceParams headers codec = [] := by
          unfold SliceContext.sliceParams
          rw [hcount]
          rfl
        have hpieces : slicePieces codec answers ctx.vp8 (ctx.sliceParams headers codec) buffer =
            [] := by
          rw [slicePieces, if_neg hjpeg, hstructs, List.map_nil]
        obtain ⟨hbitstream, hoffsets⟩ := hgathered.appended hcut hpieces
        rw [List.append_nil] at hbitstream hoffsets
        refine ⟨⟨hbitstream, hoffsets, hcut.emission.committed, hcut.emission.small,
          fun hsliced => ?_, fun h => absurd h hjpeg, hgathered.inside, hgathered.elements⟩,
          ⟨hvp8, fun _ => ?_, ?_⟩⟩
        · rw [hcut.slices, if_neg hjpeg]
          exact hgathered.slices hsliced
        · exact ⟨hcut.emission.lastSliceParams.trans hnone,
            hcut.emission.lastSliceParamsCount.trans hcount⟩
        · intro group hgroup
          cases hgroup
    | some group =>
        have hstructs := hkept.structs group rfl
        have hpieces : slicePieces codec answers ctx.vp8 (ctx.sliceParams headers codec) buffer =
            group.pieces headers codec ⟨answers, frame, buffer⟩ := by
          rw [hstructs, hkept.vp8]
          rfl
        obtain ⟨hbitstream, hoffsets⟩ := hgathered.appended hcut hpieces
        have hinside := hcut.inside
        rw [hstructs] at hinside
        refine ⟨⟨?_, ?_, hcut.emission.committed, hcut.emission.small, fun hsliced => ?_,
          fun hjpeg => ?_, ?_, ?_⟩, ⟨hvp8, fun hnone => ?_, ?_⟩⟩
        · exact hbitstream.trans (congrArg List.flatten (appendedPieces_add ..).symm)
        · rw [hoffsets]
          exact congrArg (fun pieces => (Pieces.starts 0 pieces).flatMap le32)
            (appendedPieces_add ..).symm
        · rw [hcut.slices, if_neg hsliced, hgathered.slices hsliced, List.map_append,
            List.map_append]
          rfl
        · rw [hcut.slices, if_pos hjpeg, List.map_append, List.sum_append]
          show 1 = min 1 (_ + ((group.data ++ [_]).length + 0))
          rw [List.length_append, List.length_singleton]
          omega
        · intro other hmem given hgiven
          rcases List.mem_append.mp hmem with hold | hnew
          · exact hgathered.inside other (List.mem_append_left _ hold) given hgiven
          · obtain rfl := List.mem_singleton.mp hnew
            rcases List.mem_append.mp hgiven with hbefore | hlast
            · exact hgathered.inside group (List.mem_append_right _ List.mem_cons_self) given
                hbefore
            · obtain rfl := List.mem_singleton.mp hlast
              exact hinside
        · intro other hmem
          rcases List.mem_append.mp hmem with hold | hnew
          · exact hgathered.elements other (List.mem_append_left _ hold)
          · obtain rfl := List.mem_singleton.mp hnew
            exact hgathered.elements group (List.mem_append_right _ List.mem_cons_self)
        · cases hnone
        · rintro _ ⟨⟩
          exact hparams.trans hstructs

/-- The other buffers describe the frame. -/
theorem Kept.other {headers : VaHeaders} {codec : NVCodec} {answers : Answers}
    {groups : List SliceGroup} {frame next : VP8Frame} {current : Option SliceGroup}
    {ctx ctx' : SliceContext} (hgathered : Gathered headers codec groups ctx)
    (hkept : Kept headers codec frame current ctx)
    (hrender : renderBuffer headers codec answers ctx (.other next) = some ctx') :
    Gathered headers codec groups ctx' ∧
      Kept headers codec { next with firstPartitionSize := frame.firstPartitionSize } current
        ctx' := by
  unfold renderBuffer at hrender
  obtain ⟨rfl, -, -⟩ := accepted_eq hrender
  refine ⟨⟨hgathered.bitstream, hgathered.offsets, hgathered.committed, hgathered.small,
    hgathered.slices, hgathered.frames, hgathered.inside, hgathered.elements⟩,
    ⟨?_, hkept.empty, hkept.structs⟩⟩
  rw [← hkept.vp8]

/-- All buffers of a picture, by induction on the list of them. -/
theorem renderBuffers_gathered {headers : VaHeaders} {codec : NVCodec}
    {buffers : List (Answers × DecodeBuffer)} {groups : List SliceGroup} {frame : VP8Frame}
    {current : Option SliceGroup} {ctx ctx' : SliceContext}
    (hgathered : Gathered headers codec (groups ++ current.toList) ctx)
    (hkept : Kept headers codec frame current ctx)
    (hrender : renderBuffers headers codec buffers ctx = some ctx') :
    Gathered headers codec (groups ++ sliceGroups headers codec buffers frame current) ctx' := by
  induction buffers generalizing groups frame current ctx with
  | nil =>
      cases hrender
      exact hgathered
  | cons first rest ih =>
      obtain ⟨answers, buffer⟩ := first
      obtain ⟨mid, hfirst, hrest⟩ := Option.bind_eq_some_iff.mp hrender
      cases buffer with
      | sliceParameter buffer =>
          obtain ⟨hnext, hopen⟩ := hgathered.sliceParameter hkept hfirst
          have hall := ih hnext hopen hrest
          rw [List.append_assoc] at hall
          exact hall
      | sliceData buffer =>
          obtain ⟨hnext, hopen⟩ := hgathered.sliceData hkept hfirst
          exact ih hnext hopen hrest
      | other next =>
          obtain ⟨hnext, hopen⟩ := hkept.other hgathered hfirst
          exact ih hnext hopen hrest

/-! ## When the slices are accounted for -/

/-- How many pieces a buffer of slice data gives for a group. -/
def SliceGroup.weight (codec : NVCodec) (group : SliceGroup) : Nat :=
  if codec = .jpeg then 1 else group.params.elements

theorem SliceGroup.length_structs (headers : VaHeaders) (codec : NVCodec) (group : SliceGroup) :
    (group.structs headers codec).length = group.params.elements := by
  rw [SliceGroup.structs, sliceStructs, List.length_map, List.length_range]

theorem length_requestedPieces (codec : NVCodec) (structs : List (List UInt8))
    (given : GivenData) : (requestedPieces codec structs given).length =
      if codec = .jpeg then 1 else structs.length := by
  unfold requestedPieces
  split
  · rfl
  · rw [List.length_map]

/-- Slices that are inside their data get what they ask for. -/
theorem map_some_slicePieces {codec : NVCodec} {structs : List (List UInt8)} {given : GivenData}
    (hinside : Inside codec given.answers structs given.buffer) :
    (slicePieces codec given.answers given.frame structs given.buffer).map some =
      requestedPieces codec structs given := by
  unfold Inside at hinside
  unfold slicePieces requestedPieces
  split at hinside
  · rename_i hjpeg
    obtain ⟨reconstruct, hanswer, hframe⟩ := hinside
    obtain ⟨frame, hframe⟩ := Option.isSome_iff_exists.mp hframe
    rw [if_pos hjpeg, if_pos hjpeg, hanswer, Option.bind_some, hframe]
    rfl
  · rename_i hsliced
    rw [if_neg hsliced, if_neg hsliced, List.map_map]
    apply List.map_congr_left
    intro struct hstruct
    exact (if_pos (hinside struct hstruct)).symm

section

variable {headers : VaHeaders} {codec : NVCodec} {groups : List SliceGroup} {ctx : SliceContext}

theorem Gathered.length_pieces (hgathered : Gathered headers codec groups ctx)
    {group : SliceGroup} (hgroup : group ∈ groups) :
    (group.data.flatMap (group.pieces headers codec)).length =
      group.weight codec * group.data.length := by
  have heach : ∀ given ∈ group.data,
      (group.pieces headers codec given).length = group.weight codec := by
    intro given hgiven
    rw [SliceGroup.pieces, length_slicePieces (hgathered.inside group hgroup given hgiven),
      SliceGroup.length_structs, SliceGroup.weight]
  rw [List.length_flatMap, List.map_congr_left heach, List.map_const', List.sum_replicate_nat,
    Nat.mul_comm]

theorem Gathered.length_appendedPieces (hgathered : Gathered headers codec groups ctx) :
    (appendedPieces headers codec groups).length =
      (groups.map fun group => group.weight codec * group.data.length).sum := by
  rw [appendedPieces, List.length_flatMap]
  congr 1
  exact List.map_congr_left fun group hgroup => hgathered.length_pieces hgroup

/-- The offsets are those at which the pieces begin. -/
theorem Gathered.offsetEntries_eq (hgathered : Gathered headers codec groups ctx) :
    ctx.sliceOffsets.size = 4 * (appendedPieces headers codec groups).length ∧
      offsetEntries ctx = Pieces.starts 0 (appendedPieces headers codec groups) := by
  have hflat : ∀ numbers : List Nat, (numbers.flatMap le32).length = 4 * numbers.length := by
    intro numbers
    induction numbers with
    | nil => rfl
    | cons first rest ih =>
        rw [List.flatMap_cons, List.length_append, ih, List.length_cons]
        show 4 + 4 * rest.length = _
        omega
  have hsize : ctx.sliceOffsets.size = 4 * (appendedPieces headers codec groups).length := by
    rw [← AppendableBuffer.length_bytes, hgathered.offsets, hflat, Pieces.length_starts]
  have hsmall : ∀ position ∈ Pieces.starts 0 (appendedPieces headers codec groups),
      position < 2 ^ 32 := by
    intro position hmem
    have hbounds := (Pieces.starts_bounds hmem).2
    rw [← hgathered.bitstream, AppendableBuffer.length_bytes] at hbounds
    have hle := hgathered.small
    unfold uint32Max at hle
    omega
  refine ⟨hsize, ?_⟩
  have hread := read32_numbers hsmall
  rw [Pieces.length_starts] at hread
  rw [offsetEntries, hsize, Nat.mul_div_cancel_left _ (Nat.zero_lt_succ 3), hgathered.offsets]
  exact hread

/-- What is left to show is that the pieces have the right number and are those asked for. -/
theorem Gathered.accounted_iff (hgathered : Gathered headers codec groups ctx)
    (requested : List (Option (List UInt8))) :
    Accounted ctx requested ↔
      (appendedPieces headers codec groups).length = ctx.nNumSlices ∧
        (appendedPieces headers codec groups).map some = requested := by
  obtain ⟨hsize, hentries⟩ := hgathered.offsetEntries_eq
  have hsubmitted : submitted ctx = (appendedPieces headers codec groups).flatten := by
    rw [submitted, hgathered.committed]
    exact hgathered.bitstream
  have hcut : Pieces.cutAt (submitted ctx) (offsetEntries ctx) =
      appendedPieces headers codec groups := by
    rw [hsubmitted, hentries]
    exact Pieces.cutAt_starts [] _
  constructor
  · intro haccounted
    have hcount := haccounted.entries
    have hpieces := haccounted.pieces
    rw [hcut] at hpieces
    exact ⟨by omega, hpieces⟩
  · rintro ⟨hcount, hpieces⟩
    refine ⟨by rw [hsize, hcount], ?_, ?_, hgathered.committed, ?_, by rw [hcut, hpieces]⟩
    · rw [hentries]
      exact Pieces.starts_pairwise 0 _
    · intro entry hmem
      rw [hentries] at hmem
      have hbounds := (Pieces.starts_bounds hmem).2
      rw [← hgathered.bitstream, AppendableBuffer.length_bytes] at hbounds
      rw [hgathered.committed]
      omega
    · have hle := hgathered.small
      unfold uint32Max at hle
      rw [hgathered.committed]
      omega

/-- Without slice data for one of them, the slices do not get what they ask for. -/
theorem data_of_requested
    (hpieces : (appendedPieces headers codec groups).map some =
      groups.flatMap (SliceGroup.requested headers codec)) :
    ∀ group ∈ groups, 0 < group.data.length := by
  intro group hgroup
  apply List.length_pos_of_ne_nil
  intro hnone
  have hmem : none ∈ groups.flatMap (SliceGroup.requested headers codec) := by
    refine List.mem_flatMap.mpr ⟨group, hgroup, ?_⟩
    rw [SliceGroup.requested, hnone]
    exact List.mem_cons_self
  rw [← hpieces] at hmem
  obtain ⟨piece, -, hpiece⟩ := List.mem_map.mp hmem
  cases hpiece

/-- Where the numbers agree, there is one buffer of slice data for each group. -/
theorem Gathered.single (hgathered : Gathered headers codec groups ctx)
    (hcount : (appendedPieces headers codec groups).length = ctx.nNumSlices)
    (hdata : ∀ group ∈ groups, 0 < group.data.length) :
    (∀ group ∈ groups, group.data.length = 1) ∧ (codec = .jpeg → groups.length ≤ 1) := by
  rw [hgathered.length_appendedPieces] at hcount
  have hfew := @Pieces.sum_le_counted _ (fun group => group.weight codec)
    (fun group => group.data.length) groups hdata
  by_cases hjpeg : codec = .jpeg
  · -- a JPEG has one frame at most, and each group has a frame at least
    have hweight : ∀ group : SliceGroup, group.weight codec = 1 := by
      intro group
      rw [SliceGroup.weight, if_pos hjpeg]
    have hplain : (groups.map fun group => group.weight codec).sum = groups.length := by
      rw [List.map_congr_left fun group _ => hweight group, List.map_const',
        List.sum_replicate_nat, Nat.mul_one]
    have hframes := hgathered.frames hjpeg
    refine ⟨fun group hgroup => ?_, fun _ => by omega⟩
    have hpos := List.length_pos_of_mem hgroup
    have hsum : (groups.map fun group => group.weight codec * group.data.length).sum ≤
        (groups.map fun group => group.weight codec).sum := by
      omega
    have hone : ∀ group ∈ groups, 0 < group.weight codec := by
      intro group _
      rw [hweight]
      exact Nat.zero_lt_one
    exact Pieces.counted_once hone hdata hsum group hgroup
  · refine ⟨?_, fun h => absurd h hjpeg⟩
    have hweight : ∀ group : SliceGroup, group.weight codec = group.params.elements := by
      intro group
      rw [SliceGroup.weight, if_neg hjpeg]
    rw [hgathered.slices hjpeg] at hcount
    simp only [hweight] at hcount
    exact Pieces.counted_once hgathered.elements hdata (Nat.le_of_eq hcount)

/-- The slices are accounted for if and only if every buffer of slice parameters is paired. -/
theorem Gathered.paired_iff (hgathered : Gathered headers codec groups ctx) :
    Accounted ctx (groups.flatMap (SliceGroup.requested headers codec)) ↔
      Paired headers codec groups := by
  rw [hgathered.accounted_iff]
  have hpieces (group : SliceGroup) (hgroup : group ∈ groups) (given : GivenData)
      (hdata : group.data = [given]) :
      (group.data.flatMap (group.pieces headers codec)).map some =
        requestedPieces codec (group.structs headers codec) given := by
    have hinside := hgathered.inside group hgroup given (by rw [hdata]; exact List.mem_cons_self)
    rw [hdata, List.flatMap_singleton]
    exact map_some_slicePieces hinside
  have hrequested (group : SliceGroup) (given : GivenData) (hdata : group.data = [given]) :
      group.requested headers codec =
        requestedPieces codec (elementStructs headers codec group.params) given := by
    rw [SliceGroup.requested, hdata]
  have hmap : (appendedPieces headers codec groups).map some = groups.flatMap fun group =>
      (group.data.flatMap (group.pieces headers codec)).map some := by
    rw [appendedPieces, List.map_flatMap]
  constructor
  · rintro ⟨hcount, hsame⟩
    obtain ⟨hone, hframes⟩ := hgathered.single hcount (data_of_requested hsame)
    refine ⟨fun group hgroup => ?_, hframes⟩
    rw [hmap] at hsame
    -- groups of the same lengths agree one by one
    have hlengths : ∀ group ∈ groups,
        ((group.data.flatMap (group.pieces headers codec)).map some).length =
          (group.requested headers codec).length := by
      intro group hgroup
      obtain ⟨given, hdata⟩ := List.length_eq_one_iff.mp (hone group hgroup)
      rw [hpieces group hgroup given hdata, hrequested group given hdata,
        length_requestedPieces, length_requestedPieces, SliceGroup.length_structs, elementStructs,
        List.length_map, List.length_range]
    obtain ⟨given, hdata⟩ := List.length_eq_one_iff.mp (hone group hgroup)
    have hagree := Pieces.flatMap_inj hlengths hsame group hgroup
    rw [hpieces group hgroup given hdata, hrequested group given hdata] at hagree
    exact ⟨given, hdata, hagree⟩
  · rintro ⟨hpaired, hframes⟩
    have hone : ∀ group ∈ groups, group.data.length = 1 := by
      intro group hgroup
      obtain ⟨given, hdata, -⟩ := hpaired group hgroup
      rw [hdata, List.length_singleton]
    constructor
    · rw [hgathered.length_appendedPieces,
        List.map_congr_left fun group hgroup => by rw [hone group hgroup, Nat.mul_one]]
      by_cases hjpeg : codec = .jpeg
      · rw [hgathered.frames hjpeg, List.map_congr_left hone, List.map_const',
          List.sum_replicate_nat, Nat.mul_one,
          List.map_congr_left fun group _ => by rw [SliceGroup.weight, if_pos hjpeg],
          List.map_const', List.sum_replicate_nat, Nat.mul_one]
        have hfew := hframes hjpeg
        omega
      · rw [hgathered.slices hjpeg]
        congr 1
        apply List.map_congr_left
        intro group _
        rw [SliceGroup.weight, if_neg hjpeg]
    · rw [hmap]
      apply List.flatMap_congr
      intro group hgroup
      obtain ⟨given, hdata, hagree⟩ := hpaired group hgroup
      rw [hpieces group hgroup given hdata, hrequested group given hdata]
      exact hagree

end

/-- For every picture of accepted buffers, the slices that the decoder is given are accounted for
if and only if every buffer of slice parameters is paired. -/
theorem sliceAccounting_iff {headers : VaHeaders} {codec : NVCodec}
    {buffers : List (Answers × DecodeBuffer)} {ctx ctx' : SliceContext}
    (hrender : renderBuffers headers codec buffers (beginPicture ctx) = some ctx') :
    Accounted ctx' ((sliceGroups headers codec buffers {} none).flatMap
        (SliceGroup.requested headers codec)) ↔
      Paired headers codec (sliceGroups headers codec buffers {} none) := by
  have hgathered : Gathered headers codec ([] ++ sliceGroups headers codec buffers {} none) ctx' :=
    renderBuffers_gathered (beginPicture_gathered headers codec ctx)
      (beginPicture_kept headers codec ctx) hrender
  exact hgathered.paired_iff

/-! ## Slice parameters without data -/

/-- The parameters of a slice of one byte. -/
def vc1Parameters : NVBuffer where
  elements := 1
  elementSize := 36
  size := 36
  ptr := some (le32 1 ++ le32 0 ++ List.replicate 28 0)
  size_le := by
    rintro _ ⟨⟩
    exact Nat.le_refl 36

def vc1Data : NVBuffer where
  elements := 1
  elementSize := 1
  size := 1
  ptr := some [0x31]
  size_le := by
    rintro _ ⟨⟩
    exact Nat.le_refl 1

/-- A picture of VC-1 of which the slice data is missing. -/
def vc1Unpaired : List (Answers × DecodeBuffer) :=
  [(.available, .sliceParameter vc1Parameters)]

def vc1Paired : List (Answers × DecodeBuffer) :=
  [(.available, .sliceParameter vc1Parameters), (.available, .sliceData vc1Data)]

set_option maxRecDepth 20000 in
/-- A slice is counted and has no offset. -/
theorem vc1Unpaired_counts :
    (renderBuffers vaHeaders .vc1 vc1Unpaired (beginPicture {})).map
      (fun ctx => (ctx.sliceOffsets.size, ctx.nNumSlices)) = some (0, 1) := by
  rfl

theorem sliceAccounting_unpaired :
    ¬ ∀ (headers : VaHeaders) (codec : NVCodec) (buffers : List (Answers × DecodeBuffer))
      (ctx ctx' : SliceContext),
      renderBuffers headers codec buffers (beginPicture ctx) = some ctx' →
        Accounted ctx' ((sliceGroups headers codec buffers {} none).flatMap
          (SliceGroup.requested headers codec)) := by
  intro hclaim
  obtain ⟨ctx', hrender, hcounts⟩ := Option.map_eq_some_iff.mp vc1Unpaired_counts
  have hentries := (hclaim vaHeaders .vc1 vc1Unpaired {} ctx' hrender).entries
  obtain ⟨hsize, hslices⟩ := Prod.mk.inj hcounts
  omega

set_option maxRecDepth 20000 in
theorem vc1Paired_accepted :
    (renderBuffers vaHeaders .vc1 vc1Paired (beginPicture {})).isSome = true := by
  rfl

theorem sliceAccounting_vc1 :
    ∃ ctx', renderBuffers vaHeaders .vc1 vc1Paired (beginPicture {}) = some ctx' ∧
      (Accounted ctx' ((sliceGroups vaHeaders .vc1 vc1Paired {} none).flatMap
          (SliceGroup.requested vaHeaders .vc1)) ↔
        Paired vaHeaders .vc1 (sliceGroups vaHeaders .vc1 vc1Paired {} none)) := by
  obtain ⟨ctx', hrender⟩ := Option.isSome_iff_exists.mp vc1Paired_accepted
  exact ⟨ctx', hrender, sliceAccounting_iff hrender⟩

end Slices
end NvidiaVaapi
