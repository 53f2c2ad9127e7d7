import NvidiaVaapi.Conversion.Paths
import NvidiaVaapi.Conversion.WordArithmetic

/-!
# Threads of the launches

What the threads of each launch write, in numbers: the kernel over arrays computes the pixel that
the planes of the source have, and the kernels over copies compute what the loop of the CPU
computes from the same buffers.
-/

namespace NvidiaVaapi
namespace Conversion

open Overwrites Ptx Request
open Surface (NVFormat nvPlaneExtent)

/-! ## Requests of the driver -/

/-- Parameters that fit the samples of the source. -/
structure Request.Selected (request : Request) : Prop where
  moderate : Moderate request.matrix request.sampleInfo
  unshifted : request.source.is16Bit = false → request.sampleInfo.sampleShift = 0
  width : request.width < 65536
  height : request.height < 65536

theorem videoProcRequest_selected (source : SourceImage) (destination : Destination)
    (fourcc : Nat) (src : SurfaceColors) (pipeline : PipelineColors) (width height : BitVec 16) :
    (videoProcRequest source destination fourcc src pipeline width height).Selected where
  moderate := selected_moderate _ _ _ _
  unshifted hsource := by
    show (videoProcSampleInfoForFormat source.format _).sampleShift = 0
    have hformat : ¬(source.format = .p010 ∨ source.format = .p012) := of_decide_eq_false hsource
    cases hname : source.format with
    | p010 => exact absurd (.inl hname) hformat
    | p012 => exact absurd (.inr hname) hformat
    | _ => rfl
  width := width.isLt
  height := height.isLt

theorem Request.Selected.pitch_lt {request : Request} (hselected : request.Selected) :
    request.width * request.bpp < 2 ^ 32 := by
  have hwidth := hselected.width
  unfold bpp
  split
  · omega
  · omega

/-- The pixel of the planes of the source: the chrominance of a pair of columns and a pair of
rows. -/
def pictureBytes (request : Request) (y x : Nat) : List (BitVec 8) :=
  let info := request.sampleInfo
  let is16Bit := request.source.is16Bit
  let yy := sampleAt is16Bit (request.source.luma y) x >>> info.sampleShift
  let u := sampleAt is16Bit (request.source.chroma (y / 2)) (x - x % 2) >>> info.sampleShift
  let v := sampleAt is16Bit (request.source.chroma (y / 2)) (x - x % 2 + 1) >>> info.sampleShift
  writeRgbPixel request.fourcc (convertPixel request.matrix info yy u v)

/-! ## Words -/

theorem setWidth_word (n : Int) : (word n).setWidth 32 = BitVec.ofInt 32 n := by
  unfold word
  rw [BitVec.setWidth_setWidth_of_le _ (by decide), BitVec.setWidth_eq]

theorem toNat_setWidth_word {n : Nat} (hn : n < 2 ^ 32) : ((word n).setWidth 32).toNat = n := by
  rw [setWidth_word, BitVec.ofInt_natCast, BitVec.toNat_ofNat]
  omega

theorem sampleAt_lt (is16Bit : Bool) (bytes : Nat → BitVec 8) (i : Nat) :
    sampleAt is16Bit bytes i < 65536 := by
  unfold sampleAt
  split
  · exact (bytes (2 * i + 1) ++ bytes (2 * i)).isLt
  · have hbyte := (bytes i).isLt
    omega

/-- A sample that is shifted down. -/
theorem toInt_shifted {n shift : Nat} (hn : n < 65536) (hshift : shift < 16) :
    (Alu.shrU32.eval (BitVec.ofNat 32 n) ((word shift).setWidth 32)).toInt =
      ((n >>> shift : Nat) : Int) := by
  unfold Alu.eval
  show (BitVec.ofNat 32 n >>> ((word shift).setWidth 32).toNat).toInt = _
  have hsmall : n >>> shift ≤ n := Nat.shiftRight_le n shift
  have hnat : (BitVec.ofNat 32 n >>> shift).toNat = n >>> shift := by
    rw [BitVec.toNat_ushiftRight, BitVec.toNat_ofNat, Nat.mod_eq_of_lt (by omega)]
  rw [toNat_setWidth_word (by omega), BitVec.toInt_eq_toNat_of_lt (by omega), hnat]

/-! ## Places -/

section Places

variable {request : Request} {launch : Launch KernelParam} {place : Place}

theorem column_environment (contents : Contents) :
    column (launch.environment place contents) = BitVec.ofNat 32 (launch.grid.column place) := by
  unfold column Grid.column
  rw [BitVec.ofNat_add, BitVec.ofNat_mul]
  rfl

theorem row_environment (contents : Contents) :
    row (launch.environment place contents) = BitVec.ofNat 32 (launch.grid.row place) := by
  unfold row Grid.row
  rw [BitVec.ofNat_add, BitVec.ofNat_mul]
  rfl

/-- The grid reaches less than a block beyond the picture. -/
theorem place_bounds (hselected : request.Selected) (hplace : place ∈ request.grid.places) :
    request.grid.column place < 65552 ∧ request.grid.row place < 65552 := by
  have hwidth := hselected.width
  have hheight := hselected.height
  obtain ⟨hctaidX, hctaidY, htidX, htidY⟩ := request.grid.mem_places.mp hplace
  unfold Grid.column Grid.row
  unfold Request.grid at *
  simp only at *
  omega

/-- Every pixel has a thread. -/
theorem exists_thread {x y : Nat} (hx : x < request.width) (hy : y < request.height) :
    ∃ place ∈ request.grid.places, request.grid.column place = x ∧ request.grid.row place = y := by
  apply request.grid.exists_place
  · show x < (request.width + 15) / 16 * 16
    omega
  · show y < (request.height + 15) / 16 * 16
    omega

/-- Threads of a launch that have a pixel. -/
def InPicture (request : Request) (place : Place) : Prop :=
  request.grid.column place < request.width ∧ request.grid.row place < request.height

instance (request : Request) (place : Place) : Decidable (InPicture request place) :=
  inferInstanceAs (Decidable (_ ∧ _))

theorem inside_environment (hselected : request.Selected) (hgrid : launch.grid = request.grid)
    (hwidth : launch.param .width = word request.width)
    (hheight : launch.param .height = word request.height)
    (hplace : place ∈ request.grid.places) (contents : Contents) :
    Inside (launch.environment place contents) ↔ InPicture request place := by
  obtain ⟨hcolumn, hrow⟩ := place_bounds hselected hplace
  have hw : ((launch.param .width).setWidth 32).toNat = request.width := by
    rw [hwidth, toNat_setWidth_word (by have := hselected.width; omega)]
  have hh : ((launch.param .height).setWidth 32).toNat = request.height := by
    rw [hheight, toNat_setWidth_word (by have := hselected.height; omega)]
  unfold Inside InPicture
  rw [column_environment, row_environment, hgrid, BitVec.lt_def, BitVec.lt_def, BitVec.toNat_ofNat,
    BitVec.toNat_ofNat, Nat.mod_eq_of_lt (by omega), Nat.mod_eq_of_lt (by omega)]
  show _ < ((launch.param .width).setWidth 32).toNat ∧
    _ < ((launch.param .height).setWidth 32).toNat ↔ _
  rw [hw, hh]

/-- What a thread writes that stores one word if it has a pixel. -/
def threadWrites (request : Request) (store : Nat → Nat → Access) (place : Place) :
    Cell → Option (BitVec 8) :=
  if InPicture request place then
    (store (request.grid.row place) (request.grid.column place)).writes
  else fun _ => none

/-- The stores write the bytes of their pixels at `target`. -/
def Stores (request : Request) (store : Nat → Nat → Access) (target : Nat → Nat → Cell)
    (bytes : Nat → Nat → List (BitVec 8)) : Prop :=
  ∀ y < request.height, ∀ x < request.width, ∀ c v, (store y x).writes c = some v ↔
    ∃ i < 4, c = target y (4 * x + i) ∧ v = (bytes y x).getD i 0

theorem threadWrites_iff {store : Nat → Nat → Access} {target : Nat → Nat → Cell}
    {bytes : Nat → Nat → List (BitVec 8)} (hstore : Stores request store target bytes)
    (place : Place) (c : Cell) (v : BitVec 8) :
    threadWrites request store place c = some v ↔
      ∃ i < if InPicture request place then 4 else 0,
        c = target (request.grid.row place) (4 * request.grid.column place + i) ∧
        v = (bytes (request.grid.row place) (request.grid.column place)).getD i 0 := by
  unfold threadWrites
  by_cases hpicture : InPicture request place
  · rw [if_pos hpicture, if_pos hpicture]
    exact hstore _ hpicture.2 _ hpicture.1 c v
  · rw [if_neg hpicture, if_neg hpicture]
    constructor
    · intro h
      cases h
    · rintro ⟨i, hi, -⟩
      exact absurd hi (Nat.not_lt_zero i)

end Places

/-! ## The bytes of a word -/

section Stored

variable {request : Request}

/-- The word that a kernel stores for three samples. -/
def storedWord (request : Request) (y u v : BitVec 32) : BitVec 32 :=
  packed (rgbOrderForFourcc request.fourcc)
    ((wordInfo request.matrix request.sampleInfo).channels y u v) 255

theorem byteOf_storedWord (hselected : request.Selected) {y u v : BitVec 32} {yy cb cr : Nat}
    (hyy : yy < 65536) (hcb : cb < 65536) (hcr : cr < 65536) (hy : y.toInt = yy)
    (hu : u.toInt = cb) (hv : v.toInt = cr) {i : Nat} (hi : i < 4) :
    byteOf (storedWord request y u v) i =
      (writeRgbPixel request.fourcc
        (convertPixel request.matrix request.sampleInfo yy cb cr)).getD i 0 := by
  have hsample : ∀ n : Nat, n < 65536 → IsSample (n : Int) :=
    fun n hn => ⟨Int.natCast_nonneg n, Int.ofNat_lt.mpr hn⟩
  unfold storedWord
  rw [channels_eq hselected.moderate (hsample yy hyy) (hsample cb hcb) (hsample cr hcr) hy hu hv]
  exact byteOf_packed request.fourcc _ hi

/-- The parameters of a launch with the arguments of a request. -/
theorem givenInfo_environment {launch : Launch KernelParam} {place : Place} {contents : Contents}
    (hmatrix : launch.param .vToR = word request.matrix.vToR ∧
      launch.param .uToG = word request.matrix.uToG ∧
      launch.param .vToG = word request.matrix.vToG ∧
      launch.param .uToB = word request.matrix.uToB)
    (hinfo : launch.param .yScale = word request.sampleInfo.yScale ∧
      launch.param .yOffset = word request.sampleInfo.yOffset ∧
      launch.param .uvOffset = word request.sampleInfo.uvOffset ∧
      launch.param .rounding = word request.sampleInfo.rounding ∧
      launch.param .valueShift = word request.sampleInfo.valueShift) :
    givenInfo (launch.environment place contents) =
      wordInfo request.matrix request.sampleInfo := by
  have hparam : ∀ (p : KernelParam) (n : Int), launch.param p = word n →
      (launch.environment place contents).param32 p = BitVec.ofInt 32 n := by
    intro p n hp
    show (launch.param p).setWidth 32 = _
    rw [hp, setWidth_word]
  obtain ⟨hvToR, huToG, hvToG, huToB⟩ := hmatrix
  obtain ⟨hyScale, hyOffset, huvOffset, hrounding, hvalueShift⟩ := hinfo
  unfold givenInfo wordInfo
  rw [hparam _ _ hvToR, hparam _ _ huToG, hparam _ _ hvToG, hparam _ _ huToB, hparam _ _ hyScale,
    hparam _ _ hyOffset, hparam _ _ huvOffset, hparam _ _ hrounding, hparam _ _ hvalueShift,
    BitVec.ofInt_natCast]

end Stored

/-! ## The launch over arrays -/

section ArrayLaunch

variable {request : Request} {objects : DeviceObjects}

/-- The destination is not in memory of the host. -/
def Request.OnDevice (request : Request) : Prop :=
  ∀ stride, request.destination ≠ .externalHost stride

/-- The textures at a pixel. -/
def arraySamplesAt (request : Request) (objects : DeviceObjects) (y x : Nat) :
    Triple (BitVec 32) :=
  let texture := request.source.texture objects
  let shift := (word request.sampleInfo.sampleShift).setWidth 32
  let luma := texture objects.yTexture (BitVec.ofNat 32 x) (BitVec.ofNat 32 y)
  let chroma := texture objects.uvTexture (Alu.shrU32.eval (BitVec.ofNat 32 x) 1)
    (Alu.shrU32.eval (BitVec.ofNat 32 y) 1)
  ⟨Alu.shrU32.eval (luma 0) shift, Alu.shrU32.eval (chroma 0) shift,
    Alu.shrU32.eval (chroma 1) shift⟩

/-- What the kernel over arrays stores for a pixel. -/
def arrayStoreAt (request : Request) (objects : DeviceObjects) (y x : Nat) : Access :=
  let samples := arraySamplesAt request objects y x
  let value := storedWord request samples.first samples.second samples.third
  match request.destination with
  | .array handle =>
    .surfaceStore handle (Alu.mulLoU32.eval (BitVec.ofNat 32 x) 4) (BitVec.ofNat 32 y) value
  | .externalDevice address stride =>
    .store (elementAddress address ((word stride).setWidth 32) (BitVec.ofNat 32 y)
      ((BitVec.ofNat 32 x).setWidth 64 * BitVec.setWidth 64 4#32)) value
  | .externalHost _ => .load 0 0

theorem surfaceFlag_one : Compare.neU32.eval ((word 1).setWidth 32) 0 = true := by
  unfold Compare.eval
  decide

theorem surfaceFlag_zero : ¬Compare.neU32.eval ((word 0).setWidth 32) 0 = true := by
  unfold Compare.eval
  decide

theorem arrayLaunch_runThread (hselected : request.Selected)
    (hdestination : request.OnDevice) {place : Place}
    (hplace : place ∈ request.grid.places) (contents : Contents) :
    (arrayLaunch request objects).runThread arrayToArgb contents place =
      some (overwrite (threadWrites request (arrayStoreAt request objects) place) contents) := by
  let env := (arrayLaunch request objects).environment place contents
  have hinside : Inside env ↔ InPicture request place :=
    inside_environment hselected rfl rfl rfl hplace contents
  have haccesses := accesses_arrayToArgb env
  have hinfo : givenInfo env = wordInfo request.matrix request.sampleInfo :=
    givenInfo_environment ⟨rfl, rfl, rfl, rfl⟩ ⟨rfl, rfl, rfl, rfl, rfl⟩
  have horder : env.param32 .order = rgbOrderForFourcc request.fourcc := by
    show ((rgbOrderForFourcc request.fourcc).setWidth 64).setWidth 32 = _
    rw [BitVec.setWidth_setWidth_of_le _ (by decide), BitVec.setWidth_eq]
  have hcolumn : column env = BitVec.ofNat 32 (request.grid.column place) :=
    column_environment contents
  have hrow : row env = BitVec.ofNat 32 (request.grid.row place) := row_environment contents
  rw [hinfo, horder, hcolumn, hrow] at haccesses
  let samples := arraySamplesAt request objects (request.grid.row place) (request.grid.column place)
  let value := storedWord request samples.first samples.second samples.third
  have hstore : (if Compare.neU32.eval (env.param32 .dstIsSurface) 0 then
      Access.surfaceStore (env.param64 .dst)
        (Alu.mulLoU32.eval (BitVec.ofNat 32 (request.grid.column place)) 4)
        (BitVec.ofNat 32 (request.grid.row place)) value
      else Access.store (elementAddress (env.param64 .dst) (env.param32 .dstPitch)
        (BitVec.ofNat 32 (request.grid.row place))
        ((BitVec.ofNat 32 (request.grid.column place)).setWidth 64 * BitVec.setWidth 64 4#32))
        value) =
      arrayStoreAt request objects (request.grid.row place) (request.grid.column place) := by
    have hsurface : env.param32 .dstIsSurface = request.arrayTarget.second.setWidth 32 := rfl
    have hdst : env.param64 .dst = request.arrayTarget.first := rfl
    have hpitch : env.param32 .dstPitch = request.arrayTarget.third.setWidth 32 := rfl
    rw [hsurface, hdst, hpitch]
    unfold arrayTarget arrayStoreAt
    cases hname : request.destination with
    | array handle => exact if_pos surfaceFlag_one
    | externalDevice address stride => exact if_neg surfaceFlag_zero
    | externalHost stride => exact absurd hname (hdestination stride)
  unfold threadWrites
  refine Launch.runThread_eq
    [ .fetch objects.yTexture (BitVec.ofNat 32 (request.grid.column place))
        (BitVec.ofNat 32 (request.grid.row place)),
      .fetch objects.uvTexture (Alu.shrU32.eval (BitVec.ofNat 32 (request.grid.column place)) 1)
        (Alu.shrU32.eval (BitVec.ofNat 32 (request.grid.row place)) 1) ]
    (arrayStoreAt request objects (request.grid.row place) (request.grid.column place)) ?_ ?_
  · rw [haccesses, ← hstore]
    by_cases hpicture : InPicture request place
    · rw [if_pos (hinside.mpr hpicture), if_pos hpicture]
      rfl
    · rw [if_neg (mt hinside.mp hpicture), if_neg hpicture]
  · intro a ha c
    simp only [List.mem_cons, List.not_mem_nil, or_false] at ha
    rcases ha with rfl | rfl <;> rfl

theorem clampIndex_eq {x extent : Nat} (hx : x < extent) (hsmall : x < 65536) :
    clampIndex (BitVec.ofNat 32 x) extent = x := by
  have hnat : (BitVec.ofNat 32 x).toNat = x := by
    rw [BitVec.toNat_ofNat]
    omega
  have hint : (BitVec.ofNat 32 x).toInt = x := by
    rw [BitVec.toInt_eq_toNat_of_lt (by omega), hnat]
  unfold clampIndex
  rw [hint, hnat, if_neg (by omega)]
  omega

theorem half_eq {x : Nat} (hx : x < 65536) :
    Alu.shrU32.eval (BitVec.ofNat 32 x) 1 = BitVec.ofNat 32 (x / 2) := by
  unfold Alu.eval
  show BitVec.ofNat 32 x >>> 1 = _
  apply BitVec.eq_of_toNat_eq
  rw [BitVec.toNat_ushiftRight, BitVec.toNat_ofNat, BitVec.toNat_ofNat, Nat.shiftRight_one]
  omega

theorem half_lt_extent {x extent : Nat} (hx : x < extent) : x / 2 < nvPlaneExtent extent 1 := by
  unfold nvPlaneExtent
  rw [if_neg (by decide), if_neg (by decide)]
  split
  · omega
  · omega

theorem fourTimes_toNat {x : Nat} (hx : x < 65536) :
    (Alu.mulLoU32.eval (BitVec.ofNat 32 x) 4).toNat = 4 * x := by
  unfold Alu.eval
  show (BitVec.ofNat 32 x * 4#32).toNat = _
  rw [BitVec.toNat_mul, BitVec.toNat_ofNat]
  show x % 2 ^ 32 * 4 % 2 ^ 32 = _
  omega

/-- The place of an element, without words. -/
theorem elementAddress_eq {stride y : Nat} (base : BitVec 64) (offset : Nat)
    (hstride : stride < 2 ^ 32) (hy : y < 2 ^ 32) :
    elementAddress base ((word stride).setWidth 32) (BitVec.ofNat 32 y) (BitVec.ofNat 64 offset) =
      base + BitVec.ofNat 64 (y * stride + offset) := by
  have hrow : (BitVec.ofNat 32 y).setWidth 64 = BitVec.ofNat 64 y := by
    apply BitVec.eq_of_toNat_eq
    rw [BitVec.toNat_setWidth, BitVec.toNat_ofNat, BitVec.toNat_ofNat, Nat.mod_eq_of_lt hy]
  have hpitch : ((word stride).setWidth 32).setWidth 64 = BitVec.ofNat 64 stride := by
    apply BitVec.eq_of_toNat_eq
    rw [BitVec.toNat_setWidth, toNat_setWidth_word hstride, BitVec.toNat_ofNat]
  unfold elementAddress
  rw [hrow, hpitch, BitVec.ofNat_add, BitVec.ofNat_mul, BitVec.add_assoc]

/-- Four bytes in a row of the destination. -/
theorem pixelOffset_eq {x : Nat} (hx : x < 65536) :
    (BitVec.ofNat 32 x).setWidth 64 * BitVec.setWidth 64 4#32 = BitVec.ofNat 64 (4 * x) := by
  apply BitVec.eq_of_toNat_eq
  rw [BitVec.toNat_mul, BitVec.toNat_setWidth, BitVec.toNat_ofNat, BitVec.toNat_ofNat]
  show x % 2 ^ 32 % 2 ^ 64 * 4 % 2 ^ 64 = _
  omega

/-- The samples that the kernel over arrays sees are those of the planes. -/
theorem arraySamplesAt_toInt (hselected : request.Selected)
    (htextures : objects.uvTexture ≠ objects.yTexture)
    (hwidth : request.width ≤ request.source.width)
    (hheight : request.height ≤ request.source.height) {y x : Nat} (hy : y < request.height)
    (hx : x < request.width) :
    let samples := arraySamplesAt request objects y x
    let is16Bit := request.source.is16Bit
    let shift := request.sampleInfo.sampleShift
    samples.first.toInt = (sampleAt is16Bit (request.source.luma y) x >>> shift : Nat) ∧
      samples.second.toInt =
        (sampleAt is16Bit (request.source.chroma (y / 2)) (x - x % 2) >>> shift : Nat) ∧
      samples.third.toInt =
        (sampleAt is16Bit (request.source.chroma (y / 2)) (x - x % 2 + 1) >>> shift : Nat) := by
  have hshift := hselected.moderate.sampleShift
  have hx' := hselected.width
  have hy' := hselected.height
  have hchroma : ∀ channel < 2, request.source.texture objects objects.uvTexture
      (BitVec.ofNat 32 (x / 2)) (BitVec.ofNat 32 (y / 2)) channel =
      BitVec.ofNat 32 (sampleAt request.source.is16Bit (request.source.chroma (y / 2))
        (x - x % 2 + channel)) := by
    intro channel hchannel
    unfold SourceImage.texture
    rw [if_neg htextures, if_pos rfl, if_pos hchannel,
      clampIndex_eq (half_lt_extent (by omega)) (by omega),
      clampIndex_eq (half_lt_extent (by omega)) (by omega)]
    have hpair : 2 * (x / 2) = x - x % 2 := by omega
    rw [hpair]
  have hluma : request.source.texture objects objects.yTexture (BitVec.ofNat 32 x)
      (BitVec.ofNat 32 y) 0 =
      BitVec.ofNat 32 (sampleAt request.source.is16Bit (request.source.luma y) x) := by
    unfold SourceImage.texture
    rw [if_pos rfl, if_pos Nat.zero_lt_one, clampIndex_eq (by omega) (by omega),
      clampIndex_eq (by omega) (by omega)]
  unfold arraySamplesAt
  simp only
  rw [half_eq (by omega), half_eq (by omega), hluma, hchroma 0 (by decide), hchroma 1 (by decide)]
  exact ⟨toInt_shifted (sampleAt_lt _ _ _) hshift, toInt_shifted (sampleAt_lt _ _ _) hshift,
    toInt_shifted (sampleAt_lt _ _ _) hshift⟩

/-- Where a destination on the device has the bytes of a row. -/
def Destination.row : Destination → Nat → Nat → Cell
  | .array handle => .surface handle
  | .externalDevice address stride => globalCell address stride
  | .externalHost _ => fun _ _ => .global 0

theorem arrayStoreAt_writes (hselected : request.Selected)
    (htextures : objects.uvTexture ≠ objects.yTexture)
    (hwidth : request.width ≤ request.source.width)
    (hheight : request.height ≤ request.source.height)
    (hdestination : request.OnDevice)
    (hstride : ∀ address stride, request.destination = .externalDevice address stride →
      stride < 2 ^ 32) :
    Stores request (arrayStoreAt request objects) request.destination.row
      (pictureBytes request) := by
  intro y hy x hx c v
  have hx' := hselected.width
  have hy' := hselected.height
  obtain ⟨hluma, hu, hv⟩ :=
    arraySamplesAt_toInt hselected htextures hwidth hheight hy hx
  let samples := arraySamplesAt request objects y x
  have hbytes : ∀ i < 4, byteOf (storedWord request samples.first samples.second samples.third) i =
      (pictureBytes request y x).getD i 0 := fun i hi =>
    byteOf_storedWord hselected
      (Nat.lt_of_le_of_lt (Nat.shiftRight_le _ _) (sampleAt_lt _ _ _))
      (Nat.lt_of_le_of_lt (Nat.shiftRight_le _ _) (sampleAt_lt _ _ _))
      (Nat.lt_of_le_of_lt (Nat.shiftRight_le _ _) (sampleAt_lt _ _ _)) hluma hu hv hi
  unfold arrayStoreAt
  cases hname : request.destination with
  | externalHost stride => exact absurd hname (hdestination stride)
  | array handle =>
    have hrow : (BitVec.ofNat 32 y).toNat = y := by
      rw [BitVec.toNat_ofNat]
      omega
    simp only
    rw [surfaceStore_writes_iff, hrow, fourTimes_toNat (by omega)]
    refine exists_congr fun i => and_congr_right fun hi => ?_
    rw [← hbytes i hi]
    rfl
  | externalDevice address stride =>
    simp only
    rw [store_writes_iff, pixelOffset_eq (by omega),
      elementAddress_eq _ _ (hstride address stride hname) (by omega)]
    refine exists_congr fun i => and_congr_right fun hi => ?_
    rw [← hbytes i hi, BitVec.add_assoc, ← BitVec.ofNat_add, Nat.add_assoc]
    rfl

end ArrayLaunch

/-! ## The launch over copies -/

section StagedLaunch

variable {request : Request} {objects : DeviceObjects}

/-- A buffer of the device as bytes behind its address. -/
def deviceBuffer (contents : Contents) (base : BitVec 64) (i : Nat) : BitVec 8 :=
  contents (.global (base + BitVec.ofNat 64 i))

/-- A sample as the kernels over copies load it. -/
def loadedSample (request : Request) (buffer : Nat → BitVec 8) (i : Nat) : BitVec 32 :=
  let sample := BitVec.ofNat 32 (sampleAt request.source.is16Bit buffer i)
  if request.source.is16Bit then
    Alu.shrU32.eval sample ((word request.sampleInfo.sampleShift).setWidth 32)
  else sample

/-- The word that the kernels over copies store for a pixel. -/
def stagedWord (request : Request) (objects : DeviceObjects) (contents : Contents) (y x : Nat) :
    BitVec 32 :=
  let luma := deviceBuffer contents objects.yBuffer
  let chroma := deviceBuffer contents objects.uvBuffer
  let uvIndex := y / 2 * request.width + (x - x % 2)
  storedWord request (loadedSample request luma (y * request.width + x))
    (loadedSample request chroma uvIndex) (loadedSample request chroma (uvIndex + 1))

def stagedStoreAt (request : Request) (objects : DeviceObjects) (contents : Contents) (y x : Nat) :
    Access :=
  let target := request.stagedTarget objects
  .store (elementAddress target.1 ((word target.2).setWidth 32) (BitVec.ofNat 32 y)
    (BitVec.ofNat 64 (4 * x))) (stagedWord request objects contents y x)

theorem even_eq {x : Nat} (hx : x < 65536) :
    Alu.andB32.eval (BitVec.ofNat 32 x) (-2) = BitVec.ofNat 32 (x - x % 2) := by
  have hbits : ∀ w : BitVec 32, w &&& 4294967294#32 = w >>> 1 <<< 1 := by
    intro w
    ext i hi
    have hmask : (4294967294#32)[i] = decide (0 < i) := by
      revert i
      decide
    rw [BitVec.getElem_and, hmask, BitVec.getElem_shiftLeft]
    grind
  unfold Alu.eval
  show BitVec.ofNat 32 x &&& 4294967294#32 = _
  rw [hbits]
  apply BitVec.eq_of_toNat_eq
  rw [BitVec.toNat_shiftLeft, BitVec.toNat_ushiftRight, BitVec.toNat_ofNat, BitVec.toNat_ofNat,
    Nat.shiftRight_one, Nat.shiftLeft_eq]
  omega

theorem setWidth_ofNat {x : Nat} (hx : x < 65536) :
    (BitVec.ofNat 32 x).setWidth 64 = BitVec.ofNat 64 x := by
  apply BitVec.eq_of_toNat_eq
  rw [BitVec.toNat_setWidth, BitVec.toNat_ofNat, BitVec.toNat_ofNat]
  omega

theorem address_succ (base : BitVec 64) (i : Nat) :
    base + BitVec.ofNat 64 i + 1 = base + BitVec.ofNat 64 (i + 1) := by
  rw [BitVec.ofNat_add, ← BitVec.add_assoc]
  rfl

/-- A launch with the arguments of a request for a kernel over copies. -/
structure Gives (launch : Launch KernelParam) (request : Request) (objects : DeviceObjects) :
    Prop where
  grid : launch.grid = request.grid
  width : launch.param .width = word request.width
  height : launch.param .height = word request.height
  y : launch.param .y = objects.yBuffer
  uv : launch.param .uv = objects.uvBuffer
  yPitch : launch.param .yPitch = word (request.width * request.bpp : Nat)
  uvPitch : launch.param .uvPitch = word (request.width * request.bpp : Nat)
  dst : launch.param .dst = (request.stagedTarget objects).1
  dstPitch : launch.param .dstPitch = word (request.stagedTarget objects).2
  order : launch.param .order = request.order
  matrix : launch.param .vToR = word request.matrix.vToR ∧
    launch.param .uToG = word request.matrix.uToG ∧
    launch.param .vToG = word request.matrix.vToG ∧ launch.param .uToB = word request.matrix.uToB
  info : launch.param .yScale = word request.sampleInfo.yScale ∧
    launch.param .yOffset = word request.sampleInfo.yOffset ∧
    launch.param .uvOffset = word request.sampleInfo.uvOffset ∧
    launch.param .rounding = word request.sampleInfo.rounding ∧
    launch.param .valueShift = word request.sampleInfo.valueShift

theorem nv12Launch_gives (request : Request) (objects : DeviceObjects) :
    Gives (nv12Launch request objects) request objects :=
  ⟨rfl, rfl, rfl, rfl, rfl, rfl, rfl, rfl, rfl, rfl, ⟨rfl, rfl, rfl, rfl⟩,
    ⟨rfl, rfl, rfl, rfl, rfl⟩⟩

theorem p010Launch_gives (request : Request) (objects : DeviceObjects) :
    Gives (p010Launch request objects) request objects :=
  ⟨rfl, rfl, rfl, rfl, rfl, rfl, rfl, rfl, rfl, rfl, ⟨rfl, rfl, rfl, rfl⟩,
    ⟨rfl, rfl, rfl, rfl, rfl⟩⟩

section Gives

variable {launch : Launch KernelParam} {place : Place} {contents : Contents}

/-- The address of the luminance of a pixel; `size` counts the bytes of samples. -/
theorem yAddress_eq (hselected : request.Selected) (hgives : Gives launch request objects)
    (hpicture : InPicture request place) (contents : Contents) (bytes : BitVec 64 → BitVec 64)
    (size : Nat → Nat) (hbytes : ∀ n, bytes (BitVec.ofNat 64 n) = BitVec.ofNat 64 (size n)) :
    yAddress (launch.environment place contents) bytes = objects.yBuffer +
      BitVec.ofNat 64 (request.grid.row place * (request.width * request.bpp) +
        size (request.grid.column place)) := by
  obtain ⟨hx, hy⟩ := hpicture
  have hwidth := hselected.width
  have hheight := hselected.height
  unfold yAddress
  rw [column_environment, row_environment, hgives.grid, setWidth_ofNat (by omega), hbytes]
  show elementAddress (launch.param .y) ((launch.param .yPitch).setWidth 32) _ _ = _
  rw [hgives.y, hgives.yPitch]
  exact elementAddress_eq _ _ hselected.pitch_lt (by omega)

/-- The address of the chrominance of a pixel. -/
theorem uvAddress_eq (hselected : request.Selected) (hgives : Gives launch request objects)
    (hpicture : InPicture request place) (contents : Contents) (bytes : BitVec 64 → BitVec 64)
    (size : Nat → Nat) (hbytes : ∀ n, bytes (BitVec.ofNat 64 n) = BitVec.ofNat 64 (size n)) :
    uvAddress (launch.environment place contents) bytes = objects.uvBuffer +
      BitVec.ofNat 64 (request.grid.row place / 2 * (request.width * request.bpp) +
        size (request.grid.column place - request.grid.column place % 2)) := by
  obtain ⟨hx, hy⟩ := hpicture
  have hwidth := hselected.width
  have hheight := hselected.height
  unfold uvAddress
  rw [column_environment, row_environment, hgives.grid, half_eq (by omega), even_eq (by omega),
    setWidth_ofNat (by omega), hbytes]
  show elementAddress (launch.param .uv) ((launch.param .uvPitch).setWidth 32) _ _ = _
  rw [hgives.uv, hgives.uvPitch]
  exact elementAddress_eq _ _ hselected.pitch_lt (by omega)

/-- What is stored for a pixel with the samples of the buffers. -/
theorem runThread_staged (hselected : request.Selected) (hgives : Gives launch request objects)
    {kernel : Kernel} (hplace : place ∈ request.grid.places) (reads : List Access)
    {offset : BitVec 64} {s₁ s₂ s₃ : BitVec 32}
    (haccesses : (exec (launch.environment place contents) kernel none {}).map Thread.accesses =
      some (if Inside (launch.environment place contents) then
        reads ++ [.store (elementAddress ((launch.environment place contents).param64 .dst)
          ((launch.environment place contents).param32 .dstPitch)
          (row (launch.environment place contents)) offset)
          (packed ((launch.environment place contents).param32 .order)
            ((givenInfo (launch.environment place contents)).channels s₁ s₂ s₃) 255)]
        else []))
    (hreads : ∀ a ∈ reads, ∀ c, a.writes c = none)
    (hoffset : InPicture request place →
      offset = BitVec.ofNat 64 (4 * request.grid.column place))
    (hsamples : InPicture request place → storedWord request s₁ s₂ s₃ =
      stagedWord request objects contents (request.grid.row place) (request.grid.column place)) :
    launch.runThread kernel contents place =
      some (overwrite (threadWrites request (stagedStoreAt request objects contents) place)
        contents) := by
  let env := launch.environment place contents
  have hinside : Inside env ↔ InPicture request place :=
    inside_environment hselected hgives.grid hgives.width hgives.height hplace contents
  have hinfo : givenInfo env = wordInfo request.matrix request.sampleInfo :=
    givenInfo_environment hgives.matrix hgives.info
  have horder : env.param32 .order = rgbOrderForFourcc request.fourcc := by
    show (launch.param .order).setWidth 32 = _
    rw [hgives.order]
    show ((rgbOrderForFourcc request.fourcc).setWidth 64).setWidth 32 = _
    rw [BitVec.setWidth_setWidth_of_le _ (by decide), BitVec.setWidth_eq]
  have hdst : env.param64 .dst = (request.stagedTarget objects).1 := hgives.dst
  have hpitch : env.param32 .dstPitch = (word (request.stagedTarget objects).2).setWidth 32 :=
    congrArg (BitVec.setWidth 32) hgives.dstPitch
  have hrow : row env = BitVec.ofNat 32 (request.grid.row place) := by
    rw [← hgives.grid]
    exact row_environment contents
  rw [hinfo, horder, hdst, hpitch, hrow] at haccesses
  unfold threadWrites
  apply Launch.runThread_eq reads _ _ hreads
  rw [haccesses]
  by_cases hpicture : InPicture request place
  · rw [if_pos (hinside.mpr hpicture), if_pos hpicture, hoffset hpicture]
    unfold stagedStoreAt
    rw [← hsamples hpicture]
    rfl
  · rw [if_neg (mt hinside.mp hpicture), if_neg hpicture]

end Gives

theorem nv12_runThread (hselected : request.Selected) (h8Bit : request.source.is16Bit = false)
    {place : Place} (hplace : place ∈ request.grid.places) (contents : Contents) :
    (nv12Launch request objects).runThread nv12ToArgb contents place =
      some (overwrite (threadWrites request (stagedStoreAt request objects contents) place)
        contents) := by
  let env := (nv12Launch request objects).environment place contents
  have hbpp : request.bpp = 1 := by
    unfold bpp
    rw [h8Bit]
    rfl
  have hload : ∀ (base : BitVec 64) (i : Nat),
      (contents (.global (base + BitVec.ofNat 64 i))).setWidth 32 =
        loadedSample request (deviceBuffer contents base) i := by
    intro base i
    unfold loadedSample sampleAt
    rw [h8Bit]
    exact (BitVec.ofNat_toNat ..).symm
  refine runThread_staged hselected (nv12Launch_gives request objects) hplace
    [ .load (yAddress env id) 1, .load (uvAddress env id) 1, .load (uvAddress env id + 1) 1 ]
    (accesses_nv12ToArgb env) ?_ ?_ ?_
  · intro a ha c
    simp only [List.mem_cons, List.not_mem_nil, or_false] at ha
    rcases ha with rfl | rfl | rfl <;> rfl
  · intro hpicture
    have hx := Nat.lt_trans hpicture.1 hselected.width
    rw [column_environment]
    exact pixelOffset_eq hx
  · intro hpicture
    have hgives := nv12Launch_gives request objects
    have hy := yAddress_eq hselected hgives hpicture contents id id fun _ => rfl
    have huv := uvAddress_eq hselected hgives hpicture contents id id fun _ => rfl
    rw [hbpp, Nat.mul_one] at hy huv
    unfold stagedWord
    simp only
    rw [← hload, ← hload, ← hload, ← address_succ, hy, huv]
    rfl

/-- `shl.b64` by one counts samples of two bytes. -/
theorem double_eq (n : Nat) : BitVec.ofNat 64 n <<< 1 = BitVec.ofNat 64 (2 * n) := by
  apply BitVec.eq_of_toNat_eq
  rw [BitVec.toNat_shiftLeft, BitVec.toNat_ofNat, BitVec.toNat_ofNat, Nat.shiftLeft_eq]
  omega

theorem p010_runThread (hselected : request.Selected) (h16Bit : request.source.is16Bit = true)
    {place : Place} (hplace : place ∈ request.grid.places) (contents : Contents) :
    (p010Launch request objects).runThread p010ToArgb contents place =
      some (overwrite (threadWrites request (stagedStoreAt request objects contents) place)
        contents) := by
  let env := (p010Launch request objects).environment place contents
  have hbpp : request.bpp = 2 := by
    unfold bpp
    rw [h16Bit]
    rfl
  have hload : ∀ (base : BitVec 64) (i : Nat),
      Alu.shrU32.eval ((loadU16 env.memory (base + BitVec.ofNat 64 (2 * i))).setWidth 32)
          (env.param32 .sampleShift) =
        loadedSample request (deviceBuffer contents base) i := by
    intro base i
    unfold loadedSample sampleAt loadU16
    rw [h16Bit, address_succ]
    exact congrArg (fun w => Alu.shrU32.eval w _) (BitVec.ofNat_toNat ..).symm
  refine runThread_staged hselected (p010Launch_gives request objects) hplace
    [ .load (yAddress env (· <<< 1)) 2, .load (uvAddress env (· <<< 1)) 2,
      .load (uvAddress env (· <<< 1) + 2) 2 ] (accesses_p010ToArgb env) ?_ ?_ ?_
  · intro a ha c
    simp only [List.mem_cons, List.not_mem_nil, or_false] at ha
    rcases ha with rfl | rfl | rfl <;> rfl
  · intro hpicture
    have hx := Nat.lt_trans hpicture.1 hselected.width
    rw [column_environment]
    show (BitVec.ofNat 32 (request.grid.column place)).setWidth 64 <<< 2 = _
    rw [← pixelOffset_eq hx]
    apply BitVec.eq_of_toNat_eq
    rw [BitVec.toNat_shiftLeft, BitVec.toNat_mul, Nat.shiftLeft_eq]
    rfl
  · intro hpicture
    have hgives := p010Launch_gives request objects
    have hy := yAddress_eq hselected hgives hpicture contents (· <<< 1) (2 * ·) double_eq
    have huv := uvAddress_eq hselected hgives hpicture contents (· <<< 1) (2 * ·) double_eq
    have hindex : ∀ a b : Nat, a * (request.width * 2) + 2 * b = 2 * (a * request.width + b) := by
      intro a b
      rw [Nat.mul_add, ← Nat.mul_assoc, Nat.mul_comm _ 2]
    rw [hbpp, hindex] at hy huv
    unfold stagedWord
    simp only
    rw [← hload, ← hload, ← hload, Nat.mul_succ, ← address_succ, ← address_succ, BitVec.add_assoc,
      hy, huv]
    rfl

/-- The sample of a buffer that a conversion uses. -/
def shiftedSample (request : Request) (buffer : Nat → BitVec 8) (i : Nat) : Nat :=
  let sample := sampleAt request.source.is16Bit buffer i
  if request.source.is16Bit then sample >>> request.sampleInfo.sampleShift else sample

theorem shiftedSample_lt (request : Request) (buffer : Nat → BitVec 8) (i : Nat) :
    shiftedSample request buffer i < 65536 := by
  unfold shiftedSample
  split
  · exact Nat.lt_of_le_of_lt (Nat.shiftRight_le _ _) (sampleAt_lt _ _ _)
  · exact sampleAt_lt _ _ _

theorem loadedSample_toInt (hselected : request.Selected) (buffer : Nat → BitVec 8) (i : Nat) :
    (loadedSample request buffer i).toInt = shiftedSample request buffer i := by
  have hsample := sampleAt_lt request.source.is16Bit buffer i
  unfold loadedSample shiftedSample
  by_cases h16Bit : request.source.is16Bit = true
  · simp only [if_pos h16Bit]
    exact toInt_shifted hsample hselected.moderate.sampleShift
  · have hnat : (BitVec.ofNat 32 (sampleAt request.source.is16Bit buffer i)).toNat =
        sampleAt request.source.is16Bit buffer i := by
      rw [BitVec.toNat_ofNat]
      omega
    simp only [if_neg h16Bit]
    rw [BitVec.toInt_eq_toNat_of_lt (by omega), hnat]

/-- The kernels over copies compute what the loop of the CPU computes from the same bytes. -/
theorem byteOf_stagedWord (hselected : request.Selected) (contents : Contents) (y x : Nat) {i : Nat}
    (hi : i < 4) :
    byteOf (stagedWord request objects contents y x) i =
      (cpuPixel request (deviceBuffer contents objects.yBuffer)
        (deviceBuffer contents objects.uvBuffer) y x).getD i 0 :=
  byteOf_storedWord hselected (shiftedSample_lt _ _ _) (shiftedSample_lt _ _ _)
    (shiftedSample_lt _ _ _) (loadedSample_toInt hselected _ _) (loadedSample_toInt hselected _ _)
    (loadedSample_toInt hselected _ _) hi

/-- Where the kernels over copies store a row. -/
def stagedRow (request : Request) (objects : DeviceObjects) : Nat → Nat → Cell :=
  globalCell (request.stagedTarget objects).1 (request.stagedTarget objects).2

theorem stagedStoreAt_writes (hselected : request.Selected)
    (hpitch : (request.stagedTarget objects).2 < 2 ^ 32) (contents : Contents) :
    Stores request (stagedStoreAt request objects contents) (stagedRow request objects)
      (cpuPixel request (deviceBuffer contents objects.yBuffer)
        (deviceBuffer contents objects.uvBuffer)) := by
  intro y hy x hx c v
  have hheight := hselected.height
  unfold stagedStoreAt
  simp only
  rw [store_writes_iff, elementAddress_eq _ _ hpitch (by omega)]
  refine exists_congr fun i => and_congr_right fun hi => ?_
  rw [← byteOf_stagedWord hselected contents y x hi, BitVec.add_assoc, ← BitVec.ofNat_add,
    Nat.add_assoc]
  rfl

end StagedLaunch

end Conversion
end NvidiaVaapi
