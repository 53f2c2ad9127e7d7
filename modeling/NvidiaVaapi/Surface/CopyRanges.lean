import NvidiaVaapi.Surface.Import

/-!
# What the copies of a surface touch

A picture that is resolved, a readback and VideoProc copy rows of the planes of a backing image.
Where they begin, how long a row is and how many there are is computed from the layout of the
image, in machine words of 32 and 64 bits.
-/

namespace NvidiaVaapi
namespace Surface

/-! ## Words -/

/-- The operations of the 32-bit unsigned integers. -/
def add32 (a b : Nat) : Nat := (a + b) % 2 ^ 32
def mul32 (a b : Nat) : Nat := a * b % 2 ^ 32

/-- A conversion to a 32-bit unsigned integer. -/
def toUInt32 (n : Int) : Nat := (n % 2 ^ 32).toNat

theorem toUInt32_eq {n : Int} (hnonneg : 0 ≤ n) (hsmall : n.toNat ≤ intMax) :
    toUInt32 n = n.toNat := by
  unfold toUInt32 intMax at *
  omega

theorem toUInt64_eq {n : Int} (hnonneg : 0 ≤ n) (hsmall : n.toNat ≤ intMax) :
    toUInt64 n = n.toNat := by
  unfold toUInt64 intMax at *
  omega

/-! ## Copies -/

/-- Rows of bytes in a plane of an image that lies in an object. -/
structure PlaneRegion where
  object : Nat
  offset : Nat
  pitch : Nat
  xInBytes : Nat := 0
  y : Nat := 0
  widthInBytes : Nat
  height : Nat
  deriving DecidableEq, Repr

/-- A byte of a region, from the start of the object. -/
def PlaneRegion.byte (region : PlaneRegion) (row column : Nat) : Nat :=
  region.offset + (region.y + row) * region.pitch + (region.xInBytes + column)

/-- Every byte of a region is one of its object. -/
def PlaneRegion.Inside (region : PlaneRegion) (img : BackingImage) : Prop :=
  ∀ row column, row < region.height → column < region.widthInBytes →
    region.byte row column < img.objectSize region.object

section Copies

variable (surface : NVSurface) (img : BackingImage) (i : Nat)

/-- What `copyFrameToSurface` writes of a plane: `nvBackingImageDevicePlane` or
`nvBackingImageHostPlane` is where it begins. -/
def resolveRegion : PlaneRegion :=
  let info := formatsInfo img.format
  let p := info.planeAt i
  { object := img.planeObjectIndex i
    offset := toUInt64 (img.offsets i)
    pitch := toUInt32 (img.strides i)
    widthInBytes := mul32 (mul32 (nvPlaneExtent surface.width p.ssX) info.bppc) p.channelCount
    height := nvPlaneExtent surface.height p.ssY }

/-- The row of the decoded frame from which `copyFrameToSurface` copies a plane. -/
def resolveSourceY : Nat → Nat
  | 0 => 0
  | i + 1 => add32 (resolveSourceY i) (resolveRegion surface img i).height

/-- What `nvGetImage` reads of a plane. -/
def readbackRegion (x y width height : Nat) : PlaneRegion :=
  let info := formatsInfo img.format
  let p := info.planeAt i
  let bytesPerSample := mul64 info.bppc p.channelCount
  { object := img.planeObjectIndex i
    offset := toUInt64 (img.offsets i)
    pitch := toUInt32 (img.strides i)
    xInBytes := mul64 (nvPlaneCoordinate x p.ssX) bytesPerSample
    y := nvPlaneCoordinate y p.ssY
    widthInBytes := mul64 (nvPlaneExtent width p.ssX) bytesPerSample
    height := nvPlaneExtent height p.ssY }

/-- What `copySurfaceBackingImage` reads or writes of a plane between images of one format. -/
def blitRegion (width height : Nat) : PlaneRegion :=
  let info := formatsInfo img.format
  let p := info.planeAt i
  { object := img.planeObjectIndex i
    offset := toUInt64 (img.offsets i)
    pitch := toUInt32 (img.strides i)
    widthInBytes := mul32 (mul32 (nvPlaneExtent width p.ssX) info.bppc) p.channelCount
    height := nvPlaneExtent height p.ssY }

/-- The formats that `convertNV12ToARGB` reads. -/
def convertible (format : NVFormat) : Bool :=
  format = .nv12 || format = .p010 || format = .p012

/-- What `convertNV12ToARGB` reads of the luminance and of the chrominance of the source. -/
def conversionSource (width height : Nat) : PlaneRegion :=
  let bpp := if img.format = .p010 ∨ img.format = .p012 then 2 else 1
  { object := img.planeObjectIndex i
    offset := toUInt64 (img.offsets i)
    pitch := toUInt32 (img.strides i)
    widthInBytes := mul64 width bpp
    height := if i = 0 then height else add32 height 1 / 2 }

/-- What it writes of the only plane of an RGB destination, pixel for pixel. -/
def conversionDestination (width height : Nat) : PlaneRegion :=
  { object := img.planeObjectIndex 0
    offset := toUInt64 (img.offsets 0)
    pitch := toUInt32 (img.strides 0)
    widthInBytes := mul64 width 4
    height := height }

/-- `ySize`, `uvSize` and `argbSize` of the frames between, and the pitch of the last one. -/
def conversionSizes (width height bpp : Nat) : Nat × Nat × Nat × Nat :=
  (mul64 (mul64 width height) bpp, mul64 (mul64 width (add32 height 1 / 2)) bpp,
    mul64 (mul64 width height) 4, mul32 width 4)

/-- The end of a plane that `validateImportedLayout` and `videoProcImageRangeValid` compute. -/
def checkedEnd (width height : Nat) : Option Nat :=
  let info := formatsInfo img.format
  let p := info.planeAt i
  planeEnd (toUInt64 (img.offsets i)) (toUInt64 (img.strides i)) (planeWidthBytes info i width)
    (nvPlaneExtent height p.ssY)

/-! ## Without words -/

/-- The bytes of a row of a plane. -/
def rowBytes (format : NVFormat) (width : Nat) : Nat :=
  nvPlaneExtent width ((formatsInfo format).planeAt i).ssX *
    ((formatsInfo format).bppc * ((formatsInfo format).planeAt i).channelCount)

/-- A region of a plane of the rectangle at a position. -/
def exactRegion (x y width height : Nat) : PlaneRegion :=
  let p := (formatsInfo img.format).planeAt i
  { object := img.planeObjectIndex i
    offset := (img.offsets i).toNat
    pitch := (img.strides i).toNat
    xInBytes := nvPlaneCoordinate x p.ssX * ((formatsInfo img.format).bppc * p.channelCount)
    y := nvPlaneCoordinate y p.ssY
    widthInBytes := rowBytes i img.format width
    height := nvPlaneExtent height p.ssY }

/-- The end of a plane of a rectangle. -/
def exactEnd (width height : Nat) : Nat :=
  (img.offsets i).toNat +
    (nvPlaneExtent height ((formatsInfo img.format).planeAt i).ssY - 1) * (img.strides i).toNat +
    rowBytes i img.format width

/-- A plane of an image lies in its object, and its layout is one of `int`s. -/
structure PlaneFits : Prop where
  object : img.planeObjectIndex i < img.numObjects
  offset : 0 ≤ img.offsets i ∧ (img.offsets i).toNat ≤ intMax
  stride : 0 < img.strides i ∧ (img.strides i).toNat ≤ intMax
  row : rowBytes i img.format img.width ≤ (img.strides i).toNat
  inside : exactEnd img i img.width img.height ≤ img.objectSize (img.planeObjectIndex i)

end Copies

/-! ## Small surfaces -/

theorem mul32_eq {a b : Nat} (h : a * b < 2 ^ 32) : mul32 a b = a * b := Nat.mod_eq_of_lt h

theorem mul64_eq {a b : Nat} (h : a * b < 2 ^ 64) : mul64 a b = a * b := Nat.mod_eq_of_lt h

theorem add64_eq {a b : Nat} (h : a + b < 2 ^ 64) : add64 a b = a + b := Nat.mod_eq_of_lt h

theorem sub64_eq {a b : Nat} (hle : b ≤ a) (hsmall : a < 2 ^ 64) : sub64 a b = a - b := by
  unfold sub64
  omega

theorem nvPlaneCoordinate_start (shift : Nat) : nvPlaneCoordinate 0 shift = 0 := by
  unfold nvPlaneCoordinate
  split
  · exact Nat.zero_div _
  · rfl

theorem nvPlaneCoordinate_le (value shift : Nat) : nvPlaneCoordinate value shift ≤ value := by
  unfold nvPlaneCoordinate
  split
  · exact Nat.div_le_self _ _
  · exact Nat.zero_le _

section Exact

variable {img : BackingImage} {i width height : Nat}

/-- How large the factors of a row of bytes are. -/
theorem row_factors (hi : i < (formatsInfo img.format).numPlanes) (hwidth : width ≤ 2 ^ 16) :
    nvPlaneExtent width ((formatsInfo img.format).planeAt i).ssX ≤ 2 ^ 16 ∧
      (formatsInfo img.format).bppc ≤ 2 ∧
      ((formatsInfo img.format).planeAt i).channelCount ≤ 4 := by
  have hspec := planeAt_spec hi
  have hformat : img.format ≠ .none := by
    intro hnone
    rw [hnone] at hi
    exact Nat.not_lt_zero i hi
  exact ⟨Nat.le_trans (nvPlaneExtent_le hspec.1).1 hwidth, (formatsInfo_bppc hformat).2.2,
    hspec.2.2.2⟩

/-- A row of bytes is short, and so is what is multiplied for it. -/
theorem row_products (hi : i < (formatsInfo img.format).numPlanes) (hwidth : width ≤ 2 ^ 16) :
    rowBytes i img.format width ≤ 2 ^ 19 ∧
      nvPlaneExtent width ((formatsInfo img.format).planeAt i).ssX *
        (formatsInfo img.format).bppc ≤ 2 ^ 17 ∧
      (formatsInfo img.format).bppc * ((formatsInfo img.format).planeAt i).channelCount ≤ 8 := by
  obtain ⟨hextent, hbppc, hchannels⟩ := row_factors hi hwidth
  have hsample : (formatsInfo img.format).bppc *
      ((formatsInfo img.format).planeAt i).channelCount ≤ 2 * 4 := Nat.mul_le_mul hbppc hchannels
  have hrow : rowBytes i img.format width ≤ 2 ^ 16 * (2 * 4) := Nat.mul_le_mul hextent hsample
  have hproduct : nvPlaneExtent width ((formatsInfo img.format).planeAt i).ssX *
      (formatsInfo img.format).bppc ≤ 2 ^ 16 * 2 := Nat.mul_le_mul hextent hbppc
  exact ⟨hrow, hproduct, hsample⟩

theorem words_rowBytes (hi : i < (formatsInfo img.format).numPlanes) (hwidth : width ≤ 2 ^ 16) :
    mul32 (mul32 (nvPlaneExtent width ((formatsInfo img.format).planeAt i).ssX)
        (formatsInfo img.format).bppc) ((formatsInfo img.format).planeAt i).channelCount =
      rowBytes i img.format width ∧
    planeWidthBytes (formatsInfo img.format) i width = rowBytes i img.format width := by
  obtain ⟨hrow, hproduct, -⟩ := row_products hi hwidth
  have hassoc : nvPlaneExtent width ((formatsInfo img.format).planeAt i).ssX *
      (formatsInfo img.format).bppc * ((formatsInfo img.format).planeAt i).channelCount =
      rowBytes i img.format width := Nat.mul_assoc _ _ _
  have hinner32 := mul32_eq (a := nvPlaneExtent width ((formatsInfo img.format).planeAt i).ssX)
    (b := (formatsInfo img.format).bppc) (by omega)
  have hinner64 := mul64_eq (a := nvPlaneExtent width ((formatsInfo img.format).planeAt i).ssX)
    (b := (formatsInfo img.format).bppc) (by omega)
  rw [planeWidthBytes, hinner32, hinner64, mul32_eq (by omega), mul64_eq (by omega)]
  exact ⟨hassoc, hassoc⟩

/-- The checks of a layout of `int`s add up the end of a plane without a wrap. -/
theorem checkedEnd_eq (hoffset : 0 ≤ img.offsets i ∧ (img.offsets i).toNat ≤ intMax)
    (hstride : 0 < img.strides i ∧ (img.strides i).toNat ≤ intMax)
    (hi : i < (formatsInfo img.format).numPlanes) (hwidth : width ≤ 2 ^ 16)
    (hheight : height ≤ 2 ^ 16) (hpositive : 0 < height) :
    checkedEnd img i width height = some (exactEnd img i width height) := by
  obtain ⟨hrow, -, -⟩ := row_products hi hwidth
  obtain ⟨hssX, hssY, -⟩ := planeAt_spec hi
  have hextent : nvPlaneExtent height ((formatsInfo img.format).planeAt i).ssY ≤ height ∧
      (0 < height → 0 < nvPlaneExtent height ((formatsInfo img.format).planeAt i).ssY) :=
    nvPlaneExtent_le hssY
  have hpos : 0 < (img.strides i).toNat := by
    have hstridePos := hstride.1
    omega
  have hoffsetMax := hoffset.2
  have hstrideMax := hstride.2
  unfold checkedEnd planeEnd
  simp only
  rw [toUInt64_eq hoffset.1 hoffset.2, toUInt64_eq (Int.le_of_lt hstride.1) hstride.2,
    (words_rowBytes hi hwidth).2]
  unfold exactEnd
  generalize hr : rowBytes i img.format width = row at *
  generalize (img.offsets i).toNat = offset at *
  generalize (img.strides i).toNat = stride at *
  generalize hn : nvPlaneExtent height ((formatsInfo img.format).planeAt i).ssY = rows at *
  have hrows : 0 < rows := hextent.2 hpositive
  have hmax : uint64Max = 2 ^ 64 - 1 := rfl
  have hintMax : intMax = 2 ^ 31 - 1 := rfl
  have hproduct : (rows - 1) * stride ≤ 2 ^ 16 * 2 ^ 31 := Nat.mul_le_mul (by omega) (by omega)
  rw [sub64_eq (a := rows) (by omega) (by omega), sub64_eq (a := uint64Max) (by omega) (by omega),
    sub64_eq (a := uint64Max - offset) (by omega) (by omega), if_neg ?_,
    mul64_eq (by omega), add64_eq (a := offset) (by omega), add64_eq (by omega)]
  rw [Nat.not_lt, Nat.le_div_iff_mul_le hpos]
  omega

end Exact

namespace PlaneFits

variable {img : BackingImage} {i : Nat} (h : PlaneFits img i)

include h

theorem words : toUInt64 (img.offsets i) = (img.offsets i).toNat ∧
    toUInt64 (img.strides i) = (img.strides i).toNat ∧
    toUInt32 (img.strides i) = (img.strides i).toNat :=
  ⟨toUInt64_eq h.offset.1 h.offset.2, toUInt64_eq (Int.le_of_lt h.stride.1) h.stride.2,
    toUInt32_eq (Int.le_of_lt h.stride.1) h.stride.2⟩

/-- The rows of a rectangle of the image are bytes of the object. -/
theorem exactRegion_inside (hi : i < (formatsInfo img.format).numPlanes) {x y width height : Nat}
    (hx : x + width ≤ img.width) (hy : y + height ≤ img.height) :
    (exactRegion img i x y width height).Inside img := by
  intro row column hrow hcolumn
  obtain ⟨hssX, hssY, -⟩ := planeAt_spec hi
  have hcolumns := nvPlaneCoordinate_extent hssX hx
  have hrows := nvPlaneCoordinate_extent hssY hy
  have hbytes := Nat.mul_le_mul_right
    ((formatsInfo img.format).bppc * ((formatsInfo img.format).planeAt i).channelCount) hcolumns
  rw [Nat.add_mul] at hbytes
  have hlast := h.inside
  unfold exactEnd at hlast
  simp only [exactRegion, PlaneRegion.byte, rowBytes] at hrow hcolumn hlast ⊢
  have hpitch := Nat.mul_le_mul_right (img.strides i).toNat
    (show nvPlaneCoordinate y ((formatsInfo img.format).planeAt i).ssY + row ≤
      nvPlaneExtent img.height ((formatsInfo img.format).planeAt i).ssY - 1 by omega)
  omega

theorem checkedEnd_eq (hi : i < (formatsInfo img.format).numPlanes) {width height : Nat}
    (hwidth : width ≤ 2 ^ 16) (hheight : height ≤ 2 ^ 16) (hpositive : 0 < height) :
    checkedEnd img i width height = some (exactEnd img i width height) :=
  Surface.checkedEnd_eq h.offset h.stride hi hwidth hheight hpositive

end PlaneFits

/-! ## A surface in range -/

/-- The height of the planes before a plane. -/
def exactSourceY (surface : NVSurface) (img : BackingImage) (i : Nat) : Nat :=
  ((List.range i).map fun j =>
    nvPlaneExtent surface.height ((formatsInfo img.format).planeAt j).ssY).sum

/-- No copy of a plane of a surface leaves its object, and nothing that is computed for a check or
for a copy wraps. -/
structure PlaneInRange (surface : NVSurface) (img : BackingImage) (i : Nat) : Prop where
  layoutCheck : checkedEnd img i img.width img.height = some (exactEnd img i img.width img.height)
  resolve : resolveRegion surface img i = exactRegion img i 0 0 surface.width surface.height ∧
    (resolveRegion surface img i).Inside img
  source : resolveSourceY surface img i = exactSourceY surface img i
  readback : ∀ x y width height, x + width ≤ surface.width → y + height ≤ surface.height →
    readbackRegion img i x y width height = exactRegion img i x y width height ∧
      (readbackRegion img i x y width height).Inside img
  videoProcCheck : ∀ width height, width ≤ surface.width → height ≤ surface.height →
    0 < height → checkedEnd img i width height = some (exactEnd img i width height)
  blit : ∀ width height, width ≤ surface.width → height ≤ surface.height →
    blitRegion img i width height = exactRegion img i 0 0 width height ∧
      (blitRegion img i width height).Inside img
  conversionRead : ∀ width height, convertible img.format = true → width ≤ surface.width →
    height ≤ surface.height → (conversionSource img i width height).Inside img ∧
      (conversionSource img i width height).widthInBytes =
        width * (if img.format = .p010 ∨ img.format = .p012 then 2 else 1) ∧
      (conversionSource img i width height).height = (exactRegion img i 0 0 width height).height
  conversionWrite : ∀ width height, img.format = .argb → width ≤ surface.width →
    height ≤ surface.height →
    conversionDestination img width height = exactRegion img 0 0 0 width height ∧
      (conversionDestination img width height).Inside img
  conversionBetween : ∀ width height bpp, bpp ≤ 2 → width ≤ surface.width →
    height ≤ surface.height → conversionSizes width height bpp =
      (width * height * bpp, width * nvPlaneExtent height 1 * bpp, width * height * 4, width * 4)

/-- Shorter rows of a region are inside as well. -/
theorem PlaneRegion.Inside.narrow {region : PlaneRegion} {img : BackingImage}
    (h : region.Inside img) {widthInBytes : Nat} (hwidth : widthInBytes ≤ region.widthInBytes) :
    ({ region with widthInBytes := widthInBytes } : PlaneRegion).Inside img :=
  fun row column hrow hcolumn => h row column hrow (Nat.lt_of_lt_of_le hcolumn hwidth)

/-- A surface of the size of its image. -/
structure SameSize (surface : NVSurface) (img : BackingImage) : Prop where
  width : img.width = surface.width
  height : img.height = surface.height

theorem resolveSourceY_eq {surface : NVSurface} {img : BackingImage} {i : Nat}
    (hsmall : surface.height ≤ 2 ^ 16)
    (hi : i < (formatsInfo img.format).numPlanes) :
    resolveSourceY surface img i = exactSourceY surface img i := by
  have hfew := (formatsInfo_planes img.format).2.1
  have hheight : ∀ j, j < (formatsInfo img.format).numPlanes →
      nvPlaneExtent surface.height ((formatsInfo img.format).planeAt j).ssY ≤ 2 ^ 16 := by
    intro j hj
    exact Nat.le_trans (nvPlaneExtent_le (planeAt_spec hj).2.1).1 hsmall
  have hsum : ∀ k, k ≤ i → resolveSourceY surface img k = exactSourceY surface img k ∧
      exactSourceY surface img k ≤ k * 2 ^ 16 := by
    intro k
    induction k with
    | zero => exact fun _ => ⟨rfl, Nat.le_refl _⟩
    | succ k ih =>
        intro hk
        obtain ⟨heq, hbound⟩ := ih (by omega)
        have hnext : exactSourceY surface img (k + 1) = exactSourceY surface img k +
            nvPlaneExtent surface.height ((formatsInfo img.format).planeAt k).ssY := by
          unfold exactSourceY
          rw [List.range_succ, List.map_append, List.sum_append]
          rfl
        have hone := hheight k (by omega)
        have hk3 : k ≤ 2 := by omega
        have hword : resolveSourceY surface img (k + 1) = add32 (resolveSourceY surface img k)
          (nvPlaneExtent surface.height ((formatsInfo img.format).planeAt k).ssY) := rfl
        rw [hword, heq, hnext]
        refine ⟨Nat.mod_eq_of_lt ?_, ?_⟩
        · omega
        · omega
  exact (hsum i (Nat.le_refl i)).1

theorem conversionSizes_eq {width height bpp : Nat} (hbpp : bpp ≤ 2) (hwidth : width ≤ 2 ^ 16)
    (hheight : height ≤ 2 ^ 16) : conversionSizes width height bpp =
      (width * height * bpp, width * nvPlaneExtent height 1 * bpp, width * height * 4,
        width * 4) := by
  have hround : add32 height 1 / 2 = nvPlaneExtent height 1 := by
    rw [nvPlaneExtent_one, add32, Nat.mod_eq_of_lt (by omega)]
  have hrows : nvPlaneExtent height 1 ≤ 2 ^ 16 :=
    Nat.le_trans (nvPlaneExtent_le (Nat.le_refl 1)).1 hheight
  have hpixels : width * height ≤ 2 ^ 16 * 2 ^ 16 := Nat.mul_le_mul hwidth hheight
  have hsamples : width * nvPlaneExtent height 1 ≤ 2 ^ 16 * 2 ^ 16 := Nat.mul_le_mul hwidth hrows
  have hluma : width * height * bpp ≤ 2 ^ 16 * 2 ^ 16 * 2 := Nat.mul_le_mul hpixels hbpp
  have hchroma : width * nvPlaneExtent height 1 * bpp ≤ 2 ^ 16 * 2 ^ 16 * 2 :=
    Nat.mul_le_mul hsamples hbpp
  unfold conversionSizes
  rw [hround, mul64_eq (a := width) (b := height) (by omega), mul64_eq (a := width) (by omega),
    mul64_eq (by omega), mul64_eq (by omega), mul64_eq (by omega), mul32_eq (by omega)]

namespace PlaneFits

variable {surface : NVSurface} {img : BackingImage} {i : Nat} (h : PlaneFits img i)

include h

theorem blitRegion_eq (hi : i < (formatsInfo img.format).numPlanes) {width : Nat}
    (hwidth : width ≤ 2 ^ 16) (height : Nat) :
    blitRegion img i width height = exactRegion img i 0 0 width height := by
  obtain ⟨hoffset, -, hpitch⟩ := h.words
  unfold blitRegion exactRegion
  simp only
  rw [hoffset, hpitch, (words_rowBytes hi hwidth).1, nvPlaneCoordinate_start,
    nvPlaneCoordinate_start, Nat.zero_mul]

theorem readbackRegion_eq (hi : i < (formatsInfo img.format).numPlanes) {x width : Nat}
    (hx : x ≤ 2 ^ 16) (hwidth : width ≤ 2 ^ 16) (y height : Nat) :
    readbackRegion img i x y width height = exactRegion img i x y width height := by
  obtain ⟨hoffset, -, hpitch⟩ := h.words
  obtain ⟨hssX, -⟩ := planeAt_spec hi
  obtain ⟨hrow, -, hsample⟩ := row_products hi hwidth
  have hcoordinate : nvPlaneCoordinate x ((formatsInfo img.format).planeAt i).ssX ≤ 2 ^ 16 :=
    Nat.le_trans (nvPlaneCoordinate_le x _) hx
  have hstart : nvPlaneCoordinate x ((formatsInfo img.format).planeAt i).ssX *
      ((formatsInfo img.format).bppc * ((formatsInfo img.format).planeAt i).channelCount) ≤
      2 ^ 16 * 8 := Nat.mul_le_mul hcoordinate hsample
  unfold rowBytes at hrow
  unfold readbackRegion exactRegion rowBytes
  simp only
  have hbytes := mul64_eq (a := (formatsInfo img.format).bppc)
    (b := ((formatsInfo img.format).planeAt i).channelCount) (by omega)
  rw [hoffset, hpitch, hbytes,
    mul64_eq (a := nvPlaneCoordinate x _) (by omega), mul64_eq (a := nvPlaneExtent width _) (by omega)]

theorem conversionSource_eq (hconvertible : convertible img.format = true) {width height : Nat}
    (hi : i < (formatsInfo img.format).numPlanes) (hwidth : width ≤ 2 ^ 16)
    (hheight : height ≤ 2 ^ 16) :
    conversionSource img i width height = { exactRegion img i 0 0 width height with
      widthInBytes := width * (if img.format = .p010 ∨ img.format = .p012 then 2 else 1) } ∧
    width * (if img.format = .p010 ∨ img.format = .p012 then 2 else 1) ≤
      rowBytes i img.format width := by
  obtain ⟨hoffset, -, hpitch⟩ := h.words
  have hround : add32 height 1 / 2 = nvPlaneExtent height 1 := by
    rw [nvPlaneExtent_one, add32, Nat.mod_eq_of_lt (by omega)]
  have hplanes : ∀ {format : NVFormat}, convertible format = true →
      (formatsInfo format).numPlanes = 2 ∧ ((formatsInfo format).planeAt 0).ssX = 0 ∧
      ((formatsInfo format).planeAt 0).ssY = 0 ∧ ((formatsInfo format).planeAt 1).ssX = 1 ∧
      ((formatsInfo format).planeAt 1).ssY = 1 ∧
      ((formatsInfo format).planeAt 0).channelCount = 1 ∧
      ((formatsInfo format).planeAt 1).channelCount = 2 ∧
      (formatsInfo format).bppc = if format = .p010 ∨ format = .p012 then 2 else 1 := by
    intro format
    cases format <;> decide
  obtain ⟨hcount, hx0, hy0, hx1, hy1, hc0, hc1, hbppc⟩ := hplanes hconvertible
  have hbpp : (if img.format = .p010 ∨ img.format = .p012 then 2 else 1) ≤ 2 := by
    split <;> omega
  unfold conversionSource exactRegion rowBytes
  simp only
  rw [hoffset, hpitch, hround, nvPlaneCoordinate_start, nvPlaneCoordinate_start, Nat.zero_mul,
    hbppc]
  generalize (if img.format = .p010 ∨ img.format = .p012 then 2 else 1) = bpp at *
  have hproduct : width * bpp ≤ 2 ^ 16 * 2 := Nat.mul_le_mul hwidth hbpp
  rw [mul64_eq (by omega)]
  obtain rfl | rfl : i = 0 ∨ i = 1 := by omega
  · rw [hx0, hy0, hc0, nvPlaneExtent_zero, nvPlaneExtent_zero, Nat.mul_one]
    exact ⟨rfl, Nat.le_refl _⟩
  · rw [hx1, hy1, hc1, nvPlaneExtent_one]
    refine ⟨rfl, ?_⟩
    have hrow : (width + 1) / 2 * (bpp * 2) = (width + 1) / 2 * 2 * bpp := by
      rw [Nat.mul_comm bpp 2, Nat.mul_assoc]
    rw [nvPlaneExtent_one, hrow]
    exact Nat.mul_le_mul_right bpp (by omega)

theorem conversionDestination_eq (hzero : i = 0) (hargb : img.format = .argb) {width : Nat}
    (hwidth : width ≤ 2 ^ 16) (height : Nat) :
    conversionDestination img width height = exactRegion img 0 0 0 width height := by
  subst hzero
  obtain ⟨hoffset, -, hpitch⟩ := h.words
  have hplane : (formatsInfo .argb).planeAt 0 = ⟨4, drmFormatARGB8888, 0, 0⟩ ∧
      (formatsInfo .argb).bppc = 1 := by
    decide
  unfold conversionDestination exactRegion rowBytes
  simp only
  rw [hargb, hplane.1, hplane.2, hoffset, hpitch, mul64_eq (by omega)]
  simp only
  rw [nvPlaneCoordinate_start, nvPlaneExtent_zero, nvPlaneExtent_zero]

/-- A plane that fits is in range for a surface of the size of the image. -/
theorem inRange (hi : i < (formatsInfo img.format).numPlanes) (hsame : SameSize surface img)
    (hsmall : surface.width ≤ 2 ^ 16 ∧ 0 < surface.height ∧ surface.height ≤ 2 ^ 16) :
    PlaneInRange surface img i := by
  obtain ⟨hwidth, hpositive, hheight⟩ := hsmall
  have hw := hsame.width
  have hh := hsame.height
  have hinside : ∀ {x y width height : Nat}, x + width ≤ surface.width →
      y + height ≤ surface.height → (exactRegion img i x y width height).Inside img :=
    fun hx hy => h.exactRegion_inside hi (hw ▸ hx) (hh ▸ hy)
  have hblit := fun {width : Nat} (hle : width ≤ surface.width) (height : Nat) =>
    h.blitRegion_eq hi (Nat.le_trans hle hwidth) height
  constructor
  case layoutCheck => exact h.checkedEnd_eq hi (by omega) (by omega) (by omega)
  case resolve =>
    have heq : resolveRegion surface img i = exactRegion img i 0 0 surface.width surface.height :=
      hblit (Nat.le_refl _) surface.height
    rw [heq]
    exact ⟨rfl, hinside (by omega) (by omega)⟩
  case source => exact resolveSourceY_eq hheight hi
  case readback =>
    intro x y width height hx hy
    rw [h.readbackRegion_eq hi (by omega) (by omega)]
    exact ⟨rfl, hinside hx hy⟩
  case videoProcCheck =>
    exact fun width height hle hle' hpos => h.checkedEnd_eq hi (by omega) (by omega) hpos
  case blit =>
    intro width height hle hle'
    rw [hblit hle]
    exact ⟨rfl, hinside (by omega) (by omega)⟩
  case conversionRead =>
    intro width height hconvertible hle hle'
    obtain ⟨heq, hrow⟩ := h.conversionSource_eq hconvertible hi (Nat.le_trans hle hwidth)
      (Nat.le_trans hle' hheight)
    rw [heq]
    have hexact : (exactRegion img i 0 0 width height).Inside img :=
      hinside (by omega) (by omega)
    exact ⟨hexact.narrow hrow, rfl, rfl⟩
  case conversionWrite =>
    intro width height hargb hle hle'
    have hzero : i = 0 := by
      rw [hargb] at hi
      have hone : (formatsInfo .argb).numPlanes = 1 := rfl
      omega
    subst hzero
    rw [h.conversionDestination_eq rfl hargb (Nat.le_trans hle hwidth)]
    exact ⟨rfl, hinside (by omega) (by omega)⟩
  case conversionBetween =>
    exact fun width height bpp hbpp hle hle' =>
      conversionSizes_eq hbpp (Nat.le_trans hle hwidth) (Nat.le_trans hle' hheight)

end PlaneFits

end Surface
end NvidiaVaapi
