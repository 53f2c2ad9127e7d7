import Mathlib.Algebra.Group.Nat.Defs
import Mathlib.Data.List.GetD
import NvidiaVaapi.Slices.SliceParameters

/-!
# The intra flag of H.264

`copyH264PicParam` sets `intra_pic_flag`, and `copyH264SliceParam` clears it where the first
slice of a buffer is neither I nor SI.  The other slices of the buffer are not looked at.
-/

namespace NvidiaVaapi
namespace H264

open Codec Slices

/-- `VAPictureParameterBufferH264`. -/
def pictureParameterSchema : BufferSchema :=
  ⟨672, 1, 1⟩

/-- `VAIQMatrixBufferH264`. -/
def iqMatrixSchema : BufferSchema :=
  ⟨240, 1, 1⟩

/-- The buffers that H.264 has a handler for. -/
inductive H264Buffer where
  | pictureParameter (buffer : NVBuffer)
  | iqMatrix (buffer : NVBuffer)
  | sliceParameter (buffer : NVBuffer)
  | sliceData (buffer : NVBuffer)

/-- The part of the context that belongs to slices, and `intra_pic_flag`. -/
structure H264Context where
  slices : SliceContext := {}
  intraPicFlag : Nat := 0

/-- `slice_type` of the structure of slice parameters at a place. -/
def sliceType (memory : List UInt8) (start : Nat) : UInt8 :=
  memory.getD (start + 16) 0

/-- I and SI. -/
def intraType (type : UInt8) : Bool :=
  type = 2 || type = 4

def copyH264PicParam (ctx : H264Context) : H264Context :=
  { ctx with intraPicFlag := 1 }

def copyH264SliceParam (ctx : H264Context) (buffer : NVBuffer) : H264Context :=
  let type := sliceType (buffer.ptr.getD []) 0
  let ctx := if type ≠ 2 ∧ type ≠ 4 then { ctx with intraPicFlag := 0 } else ctx
  { ctx with slices := Slices.copyH264SliceParam ctx.slices buffer }

/-- What the call checks after a handler. -/
def acceptedPicture (ctx : H264Context) : Option H264Context :=
  (accepted ctx.slices).map fun slices => { ctx with slices }

/-- One round of the loop of `nvRenderPictureImpl`, with the flag. -/
def renderH264Buffer (answers : Answers) (ctx : H264Context) : H264Buffer → Option H264Context
  | .pictureParameter buffer =>
    if buffer.ptr.isNone ∨ nvValidateBufferSchema buffer pictureParameterSchema = false then none
    else acceptedPicture (copyH264PicParam ctx)
  | .iqMatrix buffer =>
    if buffer.ptr.isNone ∨ nvValidateBufferSchema buffer iqMatrixSchema = false then none
    else acceptedPicture ctx
  | .sliceParameter buffer =>
    if buffer.ptr.isNone ∨
        nvValidateBufferSchema buffer (sliceParameterSchema vaHeaders .h264) = false then none
    else do
      let (ownedBuffer, slices) ← ownSliceParams answers.heaps.sliceParams ctx.slices buffer
      acceptedPicture (copyH264SliceParam { ctx with slices } ownedBuffer)
  | .sliceData buffer =>
    if buffer.ptr.isNone ∨ nvValidateBufferSchema buffer sliceDataSchema = false then none
    else
      acceptedPicture
        { ctx with slices := copyH264SliceData vaHeaders answers.heaps ctx.slices buffer }

/-- The buffers of a picture, over any number of calls of `nvRenderPicture`. -/
def renderH264Buffers : List (Answers × H264Buffer) → H264Context → Option H264Context
  | [], ctx => some ctx
  | (answers, buffer) :: rest, ctx =>
    (renderH264Buffer answers ctx buffer).bind (renderH264Buffers rest)

theorem acceptedPicture_eq {ctx ctx' : H264Context} (haccepted : acceptedPicture ctx = some ctx') :
    ctx' = ctx ∧ accepted ctx.slices = some ctx'.slices := by
  obtain ⟨slices, hslices, rfl⟩ := Option.map_eq_some_iff.mp haccepted
  obtain ⟨rfl, -, -⟩ := accepted_eq hslices
  exact ⟨rfl, hslices⟩

theorem copyH264SliceParam_slices (ctx : H264Context) (buffer : NVBuffer) :
    (copyH264SliceParam ctx buffer).slices = Slices.copyH264SliceParam ctx.slices buffer := by
  unfold copyH264SliceParam
  dsimp only
  split <;> rfl

/-! ## The slices of a picture -/

namespace H264Buffer

/-- The types of the slices that the elements of a buffer describe. -/
def sliceTypes : H264Buffer → List UInt8
  | .sliceParameter buffer =>
    (List.range buffer.elements).map fun i =>
      sliceType (buffer.ptr.getD []) (i * buffer.elementSize)
  | .pictureParameter _ | .iqMatrix _ | .sliceData _ => []

def isPictureParameter : H264Buffer → Bool
  | .pictureParameter _ => true
  | .iqMatrix _ | .sliceParameter _ | .sliceData _ => false

theorem sliceTypes_eq_nil {buffer : H264Buffer} (hpicture : buffer.isPictureParameter = true) :
    buffer.sliceTypes = [] := by
  cases buffer with
  | pictureParameter buffer => rfl
  | _ => cases hpicture

/-- The first slice of the buffer is neither I nor SI. -/
def LedByInter (buffer : H264Buffer) : Prop :=
  ∃ type, buffer.sliceTypes.head? = some type ∧ intraType type = false

end H264Buffer

def sliceTypes (buffers : List H264Buffer) : List UInt8 :=
  buffers.flatMap H264Buffer.sliceTypes

/-- There are picture parameters among the buffers. -/
def Restarted (buffers : List H264Buffer) : Prop :=
  ∃ buffer ∈ buffers, buffer.isPictureParameter = true

/-- Every slice of the picture is I or SI. -/
def IntraOnly (buffers : List H264Buffer) : Prop :=
  ∀ type ∈ sliceTypes buffers, intraType type = true

/-- After the last picture parameters there is a buffer whose first slice is neither I nor SI. -/
def InterSeen (buffers : List H264Buffer) : Prop :=
  ∃ earlier buffer later, buffers = earlier ++ buffer :: later ∧ buffer.LedByInter ∧
    ¬ Restarted later

theorem InterSeen.not_intraOnly {buffers : List H264Buffer} (hseen : InterSeen buffers) :
    ¬ IntraOnly buffers := by
  obtain ⟨earlier, buffer, later, rfl, ⟨type, hhead, hinter⟩, -⟩ := hseen
  intro hintra
  have hmem : type ∈ sliceTypes (earlier ++ buffer :: later) :=
    List.mem_flatMap.mpr ⟨buffer, by simp, List.mem_of_head? hhead⟩
  rw [hintra type hmem] at hinter
  cases hinter

/-- The first buffer counts where no picture parameters follow. -/
theorem interSeen_cons (buffer : H264Buffer) (rest : List H264Buffer) :
    InterSeen (buffer :: rest) ↔
      InterSeen rest ∨ (buffer.LedByInter ∧ ¬ Restarted rest) := by
  constructor
  · rintro ⟨earlier, led, later, hsplit, hled, hlater⟩
    cases earlier with
    | nil =>
        obtain ⟨rfl, rfl⟩ := List.cons.inj hsplit
        exact .inr ⟨hled, hlater⟩
    | cons first earlier =>
        obtain ⟨-, rfl⟩ := List.cons.inj hsplit
        exact .inl ⟨earlier, led, later, rfl, hled, hlater⟩
  · rintro (⟨earlier, led, later, rfl, hled, hlater⟩ | ⟨hled, hrest⟩)
    · exact ⟨buffer :: earlier, led, later, rfl, hled, hlater⟩
    · exact ⟨[], buffer, rest, rfl, hled, hrest⟩

theorem restarted_cons (buffer : H264Buffer) (rest : List H264Buffer) :
    Restarted (buffer :: rest) ↔ buffer.isPictureParameter = true ∨ Restarted rest :=
  List.exists_mem_cons_iff ..

theorem not_restarted_nil : ¬ Restarted [] := by
  rintro ⟨buffer, hmem, -⟩
  cases hmem

theorem not_interSeen_nil : ¬ InterSeen [] := by
  rintro ⟨earlier, led, later, hsplit, -⟩
  cases earlier <;> cases hsplit

/-! ## One buffer -/

/-- The type of the first slice lies in its structure. -/
theorem sliceType_eq_structAt (memory : List UInt8) :
    sliceType memory 0 = (structAt memory 0 (vaHeaders.sizeof .h264)).getD 16 0 := by
  show memory.getD 16 0 = ((memory.drop 0).take 3128).getD 16 0
  rw [List.drop_zero, List.getD_eq_getElem?_getD, List.getD_eq_getElem?_getD,
    List.getElem?_take_of_lt (by decide)]

theorem head_sliceTypes {buffer : NVBuffer}
    (hschema : nvValidateBufferSchema buffer (sliceParameterSchema vaHeaders .h264) = true) :
    (H264Buffer.sliceParameter buffer).sliceTypes.head? =
      some (sliceType (buffer.ptr.getD []) 0) := by
  obtain ⟨helements, -, -⟩ := schema_size hschema
  show ((List.range buffer.elements).map _).head? = _
  rw [List.head?_map, List.head?_range, if_neg (by omega), Option.map_some, Nat.zero_mul]

/-- The handler reads the first slice from the copy of the buffer. -/
theorem sliceType_owned {heap : Heap} {ctx ctx' : SliceContext} {buffer owned : NVBuffer}
    (hschema : nvValidateBufferSchema buffer (sliceParameterSchema vaHeaders .h264) = true)
    (hown : ownSliceParams heap ctx buffer = some (owned, ctx')) :
    sliceType (owned.ptr.getD []) 0 = sliceType (buffer.ptr.getD []) 0 := by
  obtain ⟨helements, helement, hsize⟩ := schema_size hschema
  obtain ⟨-, hstructs⟩ := ownSliceParams_spec hown
  have hroom : 0 + vaHeaders.sizeof .h264 ≤ buffer.size := by
    rw [hsize, Nat.zero_add]
    exact Nat.le_trans helement (Nat.le_mul_of_pos_right _ helements)
  rw [sliceType_eq_structAt, sliceType_eq_structAt, hstructs 0 _ hroom]

theorem copyH264SliceParam_intraPicFlag (ctx : H264Context) (buffer : NVBuffer) :
    (copyH264SliceParam ctx buffer).intraPicFlag =
      if intraType (sliceType (buffer.ptr.getD []) 0) = true then ctx.intraPicFlag else 0 := by
  unfold copyH264SliceParam intraType
  by_cases hintra : sliceType (buffer.ptr.getD []) 0 = 2 ∨ sliceType (buffer.ptr.getD []) 0 = 4
  · have hsame : ¬ (sliceType (buffer.ptr.getD []) 0 ≠ 2 ∧ sliceType (buffer.ptr.getD []) 0 ≠ 4) := by
      tauto
    simp [hintra, if_neg hsame]
  · have hcleared : sliceType (buffer.ptr.getD []) 0 ≠ 2 ∧ sliceType (buffer.ptr.getD []) 0 ≠ 4 := by
      tauto
    simp [hcleared]

/-- What an accepted buffer does to the flag. -/
structure FlagStep (buffer : H264Buffer) (before after : Nat) : Prop where
  started : buffer.isPictureParameter = true → after = 1
  cleared : buffer.LedByInter → after = 0
  kept : buffer.isPictureParameter = false → ¬ buffer.LedByInter → after = before

/-- A buffer without slices is led by none. -/
theorem not_ledByInter {buffer : H264Buffer} (hnone : buffer.sliceTypes = []) :
    ¬ buffer.LedByInter := by
  rintro ⟨type, hhead, -⟩
  rw [hnone] at hhead
  cases hhead

theorem renderH264Buffer_flag {answers : Answers} {ctx ctx' : H264Context} {buffer : H264Buffer}
    (hrender : renderH264Buffer answers ctx buffer = some ctx') :
    FlagStep buffer ctx.intraPicFlag ctx'.intraPicFlag := by
  cases buffer with
  | pictureParameter buffer =>
      simp only [renderH264Buffer] at hrender
      split at hrender
      · cases hrender
      · obtain ⟨rfl, -⟩ := acceptedPicture_eq hrender
        exact ⟨fun _ => rfl, fun hled => absurd hled (not_ledByInter rfl), nofun⟩
  | iqMatrix buffer =>
      simp only [renderH264Buffer] at hrender
      split at hrender
      · cases hrender
      · obtain ⟨rfl, -⟩ := acceptedPicture_eq hrender
        exact ⟨nofun, fun hled => absurd hled (not_ledByInter rfl), fun _ _ => rfl⟩
  | sliceParameter buffer =>
      simp only [renderH264Buffer] at hrender
      split at hrender
      · cases hrender
      · rename_i hshape
        obtain ⟨⟨owned, slices⟩, hown, hrender⟩ := Option.bind_eq_some_iff.mp hrender
        obtain ⟨rfl, -⟩ := acceptedPicture_eq hrender
        have hschema :
            nvValidateBufferSchema buffer (sliceParameterSchema vaHeaders .h264) = true := by
          simpa using fun h => hshape (.inr h)
        have hhead := head_sliceTypes hschema
        have hflag := copyH264SliceParam_intraPicFlag { ctx with slices } owned
        rw [sliceType_owned hschema hown] at hflag
        refine ⟨nofun, ?_, ?_⟩
        · rintro ⟨type, htype, hinter⟩
          obtain rfl := Option.some.inj (hhead.symm.trans htype)
          rw [hflag, if_neg (by simp [hinter])]
        · intro _ hled
          have hintra : intraType (sliceType (buffer.ptr.getD []) 0) = true := by
            by_contra hinter
            exact hled ⟨_, hhead, Bool.not_eq_true _ ▸ hinter⟩
          rw [hflag, if_pos hintra]
  | sliceData buffer =>
      simp only [renderH264Buffer] at hrender
      split at hrender
      · cases hrender
      · obtain ⟨rfl, -⟩ := acceptedPicture_eq hrender
        exact ⟨nofun, fun hled => absurd hled (not_ledByInter rfl), fun _ _ => rfl⟩

/-! ## A picture -/

/-- The flag after any accepted buffers: it is set at some time, and not cleared since. -/
theorem renderH264Buffers_flag {buffers : List (Answers × H264Buffer)} {ctx ctx' : H264Context}
    (hrender : renderH264Buffers buffers ctx = some ctx') :
    ctx'.intraPicFlag = 1 ↔
      ¬ InterSeen (buffers.map Prod.snd) ∧
        (ctx.intraPicFlag = 1 ∨ Restarted (buffers.map Prod.snd)) := by
  induction buffers generalizing ctx with
  | nil =>
      cases hrender
      simp [not_interSeen_nil, not_restarted_nil]
  | cons first rest ih =>
      obtain ⟨answers, buffer⟩ := first
      obtain ⟨mid, hfirst, hrest⟩ := Option.bind_eq_some_iff.mp hrender
      have hstep := renderH264Buffer_flag hfirst
      rw [ih hrest, List.map_cons, interSeen_cons, restarted_cons]
      dsimp only
      by_cases hstarts : buffer.isPictureParameter = true
      · have hled : ¬ buffer.LedByInter :=
          not_ledByInter (H264Buffer.sliceTypes_eq_nil hstarts)
        have hmid := hstep.started hstarts
        tauto
      · by_cases hled : buffer.LedByInter
        · have hmid := hstep.cleared hled
          have hunset : mid.intraPicFlag ≠ 1 := by omega
          tauto
        · rw [hstep.kept (Bool.not_eq_true _ ▸ hstarts) hled]
          tauto

/-- After accepted buffers that begin with the picture parameters, the flag says whether all
slices are I or SI if and only if a picture with another slice also has a buffer that begins
with one, after its last picture parameters. -/
theorem intraPicFlag_iff {answers : Answers} {picture : NVBuffer}
    {rest : List (Answers × H264Buffer)} {ctx ctx' : H264Context}
    (hrender : renderH264Buffers ((answers, .pictureParameter picture) :: rest) ctx = some ctx') :
    (ctx'.intraPicFlag = 1 ↔ IntraOnly (rest.map Prod.snd)) ↔
      (¬ IntraOnly (rest.map Prod.snd) → InterSeen (rest.map Prod.snd)) := by
  obtain ⟨mid, hfirst, hrest⟩ := Option.bind_eq_some_iff.mp hrender
  have hstarted : mid.intraPicFlag = 1 := (renderH264Buffer_flag hfirst).started rfl
  have hflag := renderH264Buffers_flag hrest
  have hseen : InterSeen (rest.map Prod.snd) → ¬ IntraOnly (rest.map Prod.snd) :=
    InterSeen.not_intraOnly
  tauto

/-! ## One slice of each kind in one buffer -/

/-- Picture parameters of an application. -/
def pictureBuffer : NVBuffer where
  elements := 1
  elementSize := 672
  size := 672
  ptr := some (List.replicate 672 0)
  size_le := by
    rintro _ ⟨⟩
    exact Nat.le_of_eq List.length_replicate.symm

/-- The parameters of slices without data, of which only the types are not zero. -/
def sliceParameters (types : List UInt8) : List UInt8 :=
  types.flatMap fun type => List.replicate 16 0 ++ type :: List.replicate 3111 0

theorem length_sliceParameters (types : List UInt8) :
    (sliceParameters types).length = 3128 * types.length := by
  induction types with
  | nil => rfl
  | cons type rest ih =>
      show (_ ++ sliceParameters rest).length = _
      rw [List.length_append, ih, List.length_cons, List.length_append, List.length_cons,
        List.length_replicate, List.length_replicate]
      omega

/-- A buffer with one element for each type. -/
def sliceBuffer (types : List UInt8) : NVBuffer where
  elements := types.length
  elementSize := 3128
  size := 3128 * types.length
  ptr := some (sliceParameters types)
  size_le := by
    rintro _ ⟨⟩
    exact Nat.le_of_eq (length_sliceParameters types).symm

/-- The first byte behind the numbers of a structure is its type. -/
theorem sliceType_sliceParameters (types : List UInt8) (i : Nat) (hi : i < types.length) :
    sliceType (sliceParameters types) (i * 3128) = types[i] := by
  induction types generalizing i with
  | nil => cases hi
  | cons type rest ih =>
      have hfirst : (List.replicate 16 (0 : UInt8) ++ type :: List.replicate 3111 0).length =
          3128 := by
        simp only [List.length_append, List.length_cons, List.length_replicate]
      show (_ ++ sliceParameters rest).getD (i * 3128 + 16) 0 = _
      cases i with
      | zero =>
          rw [List.getD_append _ _ _ _ (by rw [hfirst]; decide),
            List.getD_append_right _ _ _ _
              (Nat.le_trans (Nat.le_of_eq List.length_replicate) (by decide)),
            List.length_replicate]
          rfl
      | succ i =>
          rw [List.getD_append_right _ _ _ _ (by rw [hfirst]; omega), hfirst,
            show (i + 1) * 3128 + 16 - 3128 = i * 3128 + 16 by omega]
          exact ih i (by simpa using hi)

theorem sliceTypes_sliceBuffer (types : List UInt8) :
    (H264Buffer.sliceParameter (sliceBuffer types)).sliceTypes = types := by
  show (List.range types.length).map (fun i => sliceType (sliceParameters types) (i * 3128)) = types
  apply List.ext_getElem
  · rw [List.length_map, List.length_range]
  · intro i hi hi'
    rw [List.getElem_map, List.getElem_range, sliceType_sliceParameters types i hi']

theorem sliceBuffer_schema {types : List UInt8} (hsome : types ≠ [])
    (hfits : 3128 * types.length ≤ sizeMax) :
    nvValidateBufferSchema (sliceBuffer types) (sliceParameterSchema vaHeaders .h264) = true :=
  schema_holds (List.length_pos_iff.mpr hsome) (Nat.le_refl _) rfl hfits rfl

/-- A first buffer of slice parameters is accepted. -/
theorem renderH264Buffers_sliceBuffer (types : List UInt8) (hsome : types ≠ [])
    (hfits : 3128 * types.length ≤ uint32Max) :
    ∃ ctx', renderH264Buffers [(.available, .pictureParameter pictureBuffer),
      (.available, .sliceParameter (sliceBuffer types))] {} = some ctx' := by
  have hsize : 3128 * types.length ≤ sizeMax := Nat.le_trans hfits (by decide)
  have hpicture : renderH264Buffer .available {} (.pictureParameter pictureBuffer) =
      some (copyH264PicParam {}) := by
    have hschema : nvValidateBufferSchema pictureBuffer pictureParameterSchema = true := by rfl
    have hshape : ¬ (pictureBuffer.ptr.isNone = true ∨
        nvValidateBufferSchema pictureBuffer pictureParameterSchema = false) := by
      rw [hschema]
      rintro (h | h) <;> cases h
    rw [renderH264Buffer, if_neg hshape]
    rfl
  obtain ⟨owned, slices, hown⟩ : ∃ owned slices, ownSliceParams Answers.available.heaps.sliceParams
      (copyH264PicParam {}).slices (sliceBuffer types) = some (owned, slices) :=
    ownSliceParams_available (fun _ => rfl) _ rfl hsize
  obtain ⟨hslices, hfailed⟩ := ownSliceParams_ctx hown
  have helements : owned.elements = types.length := (ownSliceParams_spec hown).1
  have haccepted : accepted (copySliceParam slices owned) = some (copySliceParam slices owned) := by
    have hcounted : ¬ (owned.elements > uint32Max ∨
        owned.elements > uint32Max - slices.nNumSlices) := by
      rw [helements, hslices]
      show ¬ (types.length > uint32Max ∨ types.length > uint32Max - 0)
      omega
    unfold copySliceParam nvAddCuvidSlices
    rw [if_neg hcounted]
    apply accepted_some
    · rw [hslices]
      rfl
    · show (slices.bitstreamBuffer.failed || slices.sliceOffsets.failed ||
        slices.sliceParamsBuffer.failed) = false
      rw [hfailed, hslices]
      rfl
  have hparameters : ∃ ctx', renderH264Buffer .available (copyH264PicParam {})
      (.sliceParameter (sliceBuffer types)) = some ctx' := by
    refine ⟨copyH264SliceParam { copyH264PicParam {} with slices } owned, ?_⟩
    have hshape : ¬ ((sliceBuffer types).ptr.isNone = true ∨ nvValidateBufferSchema
        (sliceBuffer types) (sliceParameterSchema vaHeaders .h264) = false) := by
      rw [sliceBuffer_schema hsome hsize]
      rintro (h | h) <;> cases h
    rw [renderH264Buffer, if_neg hshape, hown]
    show acceptedPicture _ = _
    unfold acceptedPicture
    rw [copyH264SliceParam_slices]
    show (accepted (copySliceParam slices owned)).map _ = _
    rw [haccepted]
    unfold copyH264SliceParam
    dsimp only
    split <;> rfl
  obtain ⟨ctx', hparameters⟩ := hparameters
  refine ⟨ctx', ?_⟩
  simp only [renderH264Buffers, hpicture, hparameters, Option.bind_some]

/-- An I slice and a P slice in one buffer: the flag is set. -/
theorem intraPicFlag_mixedBuffer :
    ¬ ∀ (rest : List (Answers × H264Buffer)) (ctx' : H264Context),
      renderH264Buffers ((.available, .pictureParameter pictureBuffer) :: rest) {} = some ctx' →
        (ctx'.intraPicFlag = 1 ↔ IntraOnly (rest.map Prod.snd)) := by
  intro hclaim
  obtain ⟨ctx', hrender⟩ := renderH264Buffers_sliceBuffer [2, 0] nofun (by decide)
  have htypes : sliceTypes [.sliceParameter (sliceBuffer [2, 0])] = [2, 0] := by
    rw [sliceTypes, List.flatMap_singleton, sliceTypes_sliceBuffer]
  have hmixed : ¬ IntraOnly [.sliceParameter (sliceBuffer [2, 0])] := by
    unfold IntraOnly
    rw [htypes]
    decide
  have hunseen : ¬ InterSeen
      [.pictureParameter pictureBuffer, .sliceParameter (sliceBuffer [2, 0])] := by
    rw [interSeen_cons, interSeen_cons]
    rintro ((hnil | ⟨⟨type, hhead, hinter⟩, -⟩) | ⟨hled, -⟩)
    · exact not_interSeen_nil hnil
    · rw [sliceTypes_sliceBuffer] at hhead
      obtain rfl := Option.some.inj hhead
      exact absurd hinter (by decide)
    · exact not_ledByInter rfl hled
  have hset : ctx'.intraPicFlag = 1 :=
    (renderH264Buffers_flag hrender).mpr ⟨hunseen, .inr ⟨_, List.mem_cons_self, rfl⟩⟩
  exact hmixed ((hclaim _ ctx' hrender).mp hset)

/-- Two I slices in one buffer. -/
theorem intraPicFlag_iff_intraBuffer :
    ∃ ctx', renderH264Buffers [(.available, .pictureParameter pictureBuffer),
        (.available, .sliceParameter (sliceBuffer [2, 2]))] {} = some ctx' ∧
      ((ctx'.intraPicFlag = 1 ↔ IntraOnly [.sliceParameter (sliceBuffer [2, 2])]) ↔
        (¬ IntraOnly [.sliceParameter (sliceBuffer [2, 2])] →
          InterSeen [.sliceParameter (sliceBuffer [2, 2])])) := by
  obtain ⟨ctx', hrender⟩ := renderH264Buffers_sliceBuffer [2, 2] nofun (by decide)
  exact ⟨ctx', hrender, intraPicFlag_iff hrender⟩

end H264
end NvidiaVaapi
