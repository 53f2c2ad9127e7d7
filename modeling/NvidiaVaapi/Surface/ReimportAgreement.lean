import NvidiaVaapi.Surface.Allocation
import NvidiaVaapi.Surface.LayoutSoundness

/-!
# Allocation and import of one layout

An image of the direct backend that has one object exports the size, the offsets, the pitches
and the modifier of a unified layout.  `direct_importBackingImage` computes that layout again
from the format and the size alone, and maps an array of the block-aligned height for each
plane.  So does the packed allocation; the allocation of an RGB image maps the visible height.
-/

namespace NvidiaVaapi
namespace Surface

/-- What an image holds of a plane: the array, the offset and the pitch. -/
def BackingImage.planeAt (img : BackingImage) (i : Nat) : Option CudaArray × Int × Int :=
  (img.arrays i, img.offsets i, img.strides i)

/-- A plane of a layout with an array of a number of rows. -/
def heldPlane (info : NVFormatInfo) (i : Nat) (image : NVDriverImage) (rows : Nat) :
    Option CudaArray × Int × Int :=
  (some (cudaArray image info i rows image.offset), image.offset, image.pitch)

/-- The block-aligned height of a plane. -/
def NVDriverImage.alignedRows (image : NVDriverImage) : Nat :=
  image.memorySize / image.pitch

/-- An image with one object whose planes are those of the unified layout; `rows` gives the
height of the array of a plane. -/
structure ExportsLayout (context : NVDriverContext) (surface : NVSurface)
    (rows : NVDriverImage → Nat) (images : List NVDriverImage) (totalSize : Nat)
    (img : BackingImage) : Prop where
  layout : calculateUnifiedImageLayout context surface.width surface.height
    (formatsInfo img.format) true = some (images, totalSize)
  width : img.width = surface.width
  height : img.height = surface.height
  numObjects : img.numObjects = 1
  numPlanes : img.numPlanes = (formatsInfo img.format).numPlanes
  objectSize : img.objectSize 0 = totalSize
  mods : img.mods 0 = (images.getD 0 {}).mods
  plane : ∀ i < img.numPlanes,
    img.planeAt i = heldPlane (formatsInfo img.format) i (images.getD i {})
      (rows (images.getD i {})) ∧ img.planeObjectIndex i = 0

/-- The image that an import starts from when it is given what another image exports. -/
structure Reimported (img imp : BackingImage) : Prop where
  format : imp.format = img.format
  width : imp.width = img.width
  height : imp.height = img.height
  numObjects : imp.numObjects = img.numObjects
  objectSize : imp.objectSize 0 = img.objectSize 0
  mods : imp.mods 0 = img.mods 0
  plane : ∀ i < img.numPlanes, imp.planeObjectIndex i = img.planeObjectIndex i ∧
    imp.offsets i = img.offsets i ∧ imp.strides i = img.strides i

/-- Two images describe the same storage in the same way. -/
structure SameStorage (img imp : BackingImage) : Prop where
  objectSize : imp.objectSize 0 = img.objectSize 0
  mods : imp.mods 0 = img.mods 0
  plane : ∀ i < img.numPlanes, imp.planeAt i = img.planeAt i

/-! ## The layout -/

section Layout

variable {context : NVDriverContext} {width height : Nat} {info : NVFormatInfo}
  {unifyBlockHeight : Bool} {images : List NVDriverImage} {totalSize : Nat}

/-- What a layout that is answered says of its planes. -/
theorem unifiedLayout_spec (h : calculateUnifiedImageLayout context width height info
      unifyBlockHeight = some (images, totalSize)) :
    List.Forall₂ (LaidOut context width height info.bppc)
        (plannedPlanes height info.plane unifyBlockHeight) images ∧
      singleBufferPlaneAlignment ∣ totalSize ∧ totalSize ≤ uint32Max ∧
      0 < width ∧ 0 < info.bppc ∧ ∀ plane ∈ info.plane, AllowedPlane plane := by
  unfold calculateUnifiedImageLayout at h
  split at h
  · cases h
  · rename_i hchecked
    obtain ⟨hlaid, -, -, hdvd, -, hle⟩ := layoutPlanes_spec (Nat.dvd_zero _) (Nat.zero_le _) h
    simp only [not_or, List.any_eq_true, not_exists, not_and, Bool.or_eq_true,
      decide_eq_true_eq] at hchecked
    obtain ⟨hwidth, -, hbppc, -, -, -, hplanes⟩ := hchecked
    refine ⟨hlaid, hdvd, hle, Nat.pos_of_ne_zero hwidth, Nat.pos_of_ne_zero hbppc, ?_⟩
    intro plane hplane
    have hallowed := hplanes plane hplane
    unfold AllowedPlane
    omega

/-- No plane of it has a pitch of 0. -/
theorem unifiedLayout_pitch_pos (h : calculateUnifiedImageLayout context width height info
      unifyBlockHeight = some (images, totalSize)) {i : Nat} (hi : i < images.length) :
    0 < (images.getD i {}).pitch := by
  obtain ⟨hlaid, -, -, hwidth, hbppc, hallowed⟩ := unifiedLayout_spec h
  have hget := List.forall₂_iff_get.mp hlaid
  have hi' : i < (plannedPlanes height info.plane unifyBlockHeight).length := by
    rw [hget.1]
    exact hi
  have hplane := hget.2 i hi' hi
  obtain ⟨plane, hmem, heq⟩ := List.mem_map.mp (List.get_mem _ ⟨i, hi'⟩)
  obtain ⟨hssX, -, hchannels, -⟩ := hallowed plane hmem
  have hrow := hplane.row_le
  rw [hplane.width_eq, ← heq] at hrow
  have hpos : 0 < nvPlaneExtent width plane.ssX * (plane.channelCount * info.bppc) :=
    Nat.mul_pos ((nvPlaneExtent_le hssX).2 hwidth) (Nat.mul_pos hchannels hbppc)
  rw [List.getD_eq_getElem?_getD, List.getElem?_eq_getElem hi]
  exact Nat.lt_of_lt_of_le hpos hrow

theorem allocationSize_eq {size allocated : Nat} (h : allocationSize size = some allocated) :
    0 < size ∧ allocated = roundUp size 65536 := by
  unfold allocationSize at h
  split at h
  · cases h
  · cases h
    exact ⟨by omega, rfl⟩

/-- A layout is allocated without more bytes behind it. -/
theorem allocationSize_layout {allocated : Nat}
    (h : calculateUnifiedImageLayout context width height info unifyBlockHeight =
      some (images, totalSize)) (hallocated : allocationSize totalSize = some allocated) :
    allocated = totalSize := by
  obtain ⟨-, hdvd, -, -, -, -⟩ := unifiedLayout_spec h
  rw [(allocationSize_eq hallocated).2]
  exact roundUp_eq_self (by decide) hdvd

end Layout

/-! ## Allocation -/

section Allocation

variable {context : NVDriverContext} {k k' : Kernel} {surface : NVSurface} {img img' : BackingImage}

/-- An object changes nothing of the planes. -/
theorem addObject_spec {i size : Nat} (h : addObject k img i size = some (img', k')) :
    img'.objectSize i = size ∧ img'.planeAt = img.planeAt ∧
      img'.planeObjectIndex = img.planeObjectIndex ∧ img'.mods = img.mods ∧
      img'.format = img.format ∧ img'.width = img.width ∧ img'.height = img.height ∧
      img'.numObjects = img.numObjects ∧ img'.numPlanes = img.numPlanes := by
  unfold addObject at h
  obtain ⟨⟨fd, k1⟩, -, hrest⟩ := Option.bind_eq_some_iff.mp h
  cases hrest
  unfold cacheBackingImageFdStat
  split <;> exact ⟨Function.update_self .., rfl, rfl, rfl, rfl, rfl, rfl, rfl, rfl⟩

/-- The planes of a packed image, from plane `n` on. -/
theorem addPackedPlanes_planeAt {info : NVFormatInfo} {images : List NVDriverImage}
    (hpitch : ∀ i < images.length, 0 < (images.getD i {}).pitch) (n j : Nat) (img : BackingImage) :
    (addPackedPlanes info images n img).planeAt j =
        (if n ≤ j ∧ j < n + images.length then
          heldPlane info j (images.getD (j - n) {}) (images.getD (j - n) {}).alignedRows
        else img.planeAt j) ∧
      (addPackedPlanes info images n img).mods j =
        if n ≤ j ∧ j < n + images.length then (images.getD (j - n) {}).mods else img.mods j := by
  induction images generalizing n img with
  | nil =>
    have hout : ¬ (n ≤ j ∧ j < n + ([] : List NVDriverImage).length) := by
      simp
    rw [if_neg hout, if_neg hout]
    exact ⟨rfl, rfl⟩
  | cons image rest ih =>
    have hrest := ih (fun i hi => hpitch (i + 1) (Nat.succ_lt_succ hi)) (n + 1)
      (addPackedPlane info img n image)
    have hfirst : image.pitch ≠ 0 := Nat.ne_of_gt (hpitch 0 (Nat.succ_pos _))
    rw [addPackedPlanes, hrest.1, hrest.2]
    rcases Nat.lt_trichotomy j n with hlt | rfl | hgt
    · have hne : j ≠ n := Nat.ne_of_lt hlt
      rw [if_neg (by omega), if_neg (by omega), if_neg (by omega), if_neg (by omega)]
      constructor
      · simp [addPackedPlane, BackingImage.planeAt, Function.update_of_ne hne]
      · exact Function.update_of_ne hne _ _
    · have hbehind : ¬ (j + 1 ≤ j ∧ j < j + 1 + rest.length) := by omega
      have hhere : j ≤ j ∧ j < j + (image :: rest).length := by simp
      simp only [if_neg hbehind, if_pos hhere, Nat.sub_self, List.getD_cons_zero]
      constructor
      · simp [addPackedPlane, BackingImage.planeAt, heldPlane, NVDriverImage.alignedRows, hfirst]
      · simp [addPackedPlane]
    · have hne : j ≠ n := Nat.ne_of_gt hgt
      have hindex : j - n = (j - (n + 1)) + 1 := by omega
      have hiff : (n ≤ j ∧ j < n + (image :: rest).length) ↔
          (n + 1 ≤ j ∧ j < n + 1 + rest.length) := by
        rw [List.length_cons]
        omega
      simp only [hiff, hindex, List.getD_cons_succ]
      by_cases hin : n + 1 ≤ j ∧ j < n + 1 + rest.length
      · simp only [if_pos hin, and_self]
      · simp only [if_neg hin]
        constructor
        · simp [addPackedPlane, BackingImage.planeAt, Function.update_of_ne hne]
        · exact Function.update_of_ne hne _ _

/-- The planes of a packed image change nothing else that an import reads. -/
theorem addPackedPlanes_frame {info : NVFormatInfo} (images : List NVDriverImage) (n : Nat)
    (img : BackingImage) :
    let packed := addPackedPlanes info images n img
    packed.objectSize = img.objectSize ∧ packed.planeObjectIndex = img.planeObjectIndex ∧
      packed.format = img.format ∧ packed.width = img.width ∧ packed.height = img.height ∧
      packed.numObjects = img.numObjects ∧ packed.numPlanes = img.numPlanes := by
  induction images generalizing n img with
  | nil => exact ⟨rfl, rfl, rfl, rfl, rfl, rfl, rfl⟩
  | cons image rest ih => exact ih (n + 1) (addPackedPlane info img n image)

theorem nvFormatForSurface_ne_none (surface : NVSurface) :
    nvFormatForSurface surface ≠ .none := by
  unfold nvFormatForSurface
  split
  · decide
  · split
    · split
      · decide
      · split <;> decide
    all_goals decide

/-- The packed allocation holds the unified layout with arrays of the aligned height. -/
theorem allocateSingle_exports
    (h : directAllocateBackingImageSingle context k surface = some (img, k')) :
    ∃ images totalSize,
      ExportsLayout context surface NVDriverImage.alignedRows images totalSize img := by
  unfold directAllocateBackingImageSingle at h
  obtain ⟨⟨images, layoutSize⟩, hlayout, h⟩ := Option.bind_eq_some_iff.mp h
  obtain ⟨size, hsize, h⟩ := Option.bind_eq_some_iff.mp h
  obtain ⟨⟨img1, k1⟩, hadd, h⟩ := Option.bind_eq_some_iff.mp h
  cases h
  obtain ⟨hobject, -, hindex, -, hformat, hwidth, hheight, hobjects, hplanes⟩ :=
    addObject_spec hadd
  obtain ⟨hsame, hsameIndex, hsameFormat, hsameWidth, hsameHeight, hsameObjects, hsamePlanes⟩ :=
    @addPackedPlanes_frame (formatsInfo (nvFormatForSurface surface)) images 0 img1
  have hlength : images.length = (formatsInfo (nvFormatForSurface surface)).numPlanes := by
    rw [unifiedLayout_length hlayout, (formatsInfo_planes _).1]
  have hpos : 0 < images.length := by
    rw [hlength]
    exact (formatsInfo_bppc (nvFormatForSurface_ne_none surface)).1
  have hspec (j : Nat) := @addPackedPlanes_planeAt (formatsInfo (nvFormatForSurface surface)) images
    (fun i hi => unifiedLayout_pitch_pos hlayout hi) 0 j img1
  have hfmt := hsameFormat.trans hformat
  refine ⟨images, layoutSize, ?_⟩
  constructor
  · rw [hfmt]
    exact hlayout
  · exact hsameWidth.trans hwidth
  · exact hsameHeight.trans hheight
  · exact hsameObjects.trans hobjects
  · rw [hfmt]
    exact hsamePlanes.trans hplanes
  · rw [hsame, hobject]
    exact allocationSize_layout hlayout hsize
  · have hfirst : 0 ≤ 0 ∧ 0 < 0 + images.length := by omega
    rw [(hspec 0).2, if_pos hfirst]
  · intro i hi
    rw [hsamePlanes, hplanes] at hi
    have hin : 0 ≤ i ∧ i < 0 + images.length := by
      rw [hlength, Nat.zero_add]
      exact ⟨Nat.zero_le i, hi⟩
    rw [(hspec i).1, if_pos hin, hfmt, hsameIndex, hindex]
    exact ⟨rfl, rfl⟩

/-- A plane that is not subsampled, laid out alone, is what `alloc_image` computes. -/
theorem allocImageLayout_unified {width height total : Nat} {format : NVFormat}
    {plane : NVFormatPlane} {image : NVDriverImage}
    (hplane : (formatsInfo format).plane = [plane])
    (hss : plane.ssX = 0 ∧ plane.ssY = 0)
    (himage : allocImageLayout context width height plane.channelCount (formatsInfo format).bppc =
      some image)
    (htotal : allocationSize image.memorySize = some total) :
    calculateUnifiedImageLayout context width height (formatsInfo format) true =
        some ([image], total) ∧
      image.offset = 0 ∧ image.height = height ∧
      image.alignedRows =
        roundUp height (gobHeightInBytes * 2 ^ calculateLog2GobsPerBlockY height) := by
  have hnumPlanes : (formatsInfo format).numPlanes = 1 := by
    rw [← (formatsInfo_planes format).1, hplane]
    rfl
  have htotalSize := (allocationSize_eq htotal).2
  have hsize : roundUp image.memorySize 65536 ≤ uint32Max := by
    unfold allocationSize at htotal
    split at htotal
    · cases htotal
    · omega
  have hunified : unifiedLog2Y height [plane] = calculateLog2GobsPerBlockY height := by
    unfold unifiedLog2Y planeLog2Y
    simp [hss.2, nvPlaneExtent_zero]
  unfold allocImageLayout at himage
  split at himage
  · cases himage
  · rename_i hchecked
    simp only [] at himage
    split at himage
    · cases himage
    · rename_i hbounds
      obtain rfl := Option.some.inj himage
      have hpitch : 0 < roundUp (width * (plane.channelCount * (formatsInfo format).bppc))
          gobWidthInBytes := by
        have hle := le_roundUp (width * (plane.channelCount * (formatsInfo format).bppc))
          (s := gobWidthInBytes) (by decide)
        have hpos : 0 < width * (plane.channelCount * (formatsInfo format).bppc) :=
          Nat.mul_pos (by omega) (Nat.mul_pos (by omega) (by omega))
        omega
      refine ⟨?_, rfl, rfl, Nat.mul_div_cancel_left _ hpitch⟩
      have hlaid : layoutPlane context width height (formatsInfo format).bppc plane
          (calculateLog2GobsPerBlockY height) 0 = some ({
            width, height, mods := context.modifier (calculateLog2GobsPerBlockY height),
            memorySize := roundUp (width * (plane.channelCount * (formatsInfo format).bppc))
                gobWidthInBytes *
              roundUp height (gobHeightInBytes * 2 ^ calculateLog2GobsPerBlockY height),
            offset := 0,
            pitch := roundUp (width * (plane.channelCount * (formatsInfo format).bppc))
              gobWidthInBytes }, total) := by
        unfold layoutPlane
        rw [hss.1, hss.2, nvPlaneExtent_zero, nvPlaneExtent_zero]
        rw [if_neg (by omega)]
        simp only [Nat.zero_add]
        split
        · rename_i hlarge
          exact absurd hsize (Nat.not_le.mpr hlarge)
        · rw [htotalSize]
          rfl
      unfold calculateUnifiedImageLayout
      rw [if_neg ?_, hplane]
      · simp only [List.map_cons, List.map_nil, if_true, hunified, layoutPlanes, hlaid,
          Option.bind_eq_bind, Option.bind_some, Option.pure_def]
      · rw [hplane]
        simp [hss.1, hss.2]
        omega

/-- The allocation of an RGB image holds the unified layout of its plane with an array of the
visible height. -/
theorem allocateRgb_exports (hrgb : isRgbFourcc surface.fourcc = true)
    (h : directAllocateBackingImageRgb context k surface = some (img, k')) :
    ∃ image totalSize,
      ExportsLayout context surface NVDriverImage.height [image] totalSize img ∧
        image.height = surface.height ∧
        image.alignedRows = roundUp surface.height
          (gobHeightInBytes * 2 ^ calculateLog2GobsPerBlockY surface.height) := by
  have hformat : nvFormatForSurface surface = .argb := by
    unfold nvFormatForSurface
    rw [if_pos hrgb]
  unfold directAllocateBackingImageRgb at h
  rw [hformat] at h
  obtain ⟨image, himage, h⟩ := Option.bind_eq_some_iff.mp h
  obtain ⟨size, hsize, h⟩ := Option.bind_eq_some_iff.mp h
  obtain ⟨⟨img1, k1⟩, hadd, h⟩ := Option.bind_eq_some_iff.mp h
  cases h
  have hextents : nvPlaneExtent surface.width ((formatsInfo .argb).planeAt 0).ssX =
        surface.width ∧
      nvPlaneExtent surface.height ((formatsInfo .argb).planeAt 0).ssY = surface.height :=
    ⟨nvPlaneExtent_zero _, nvPlaneExtent_zero _⟩
  rw [hextents.1, hextents.2] at himage
  have hplane : (formatsInfo .argb).plane = [(formatsInfo .argb).planeAt 0] := rfl
  have hss : ((formatsInfo .argb).planeAt 0).ssX = 0 ∧
      ((formatsInfo .argb).planeAt 0).ssY = 0 := ⟨rfl, rfl⟩
  obtain ⟨hlayout, hoffset, hvisible, haligned⟩ :=
    allocImageLayout_unified hplane hss himage hsize
  obtain ⟨hobject, -, hindex, -, himgFormat, hwidth, hheight, hobjects, hplanes⟩ :=
    addObject_spec hadd
  refine ⟨image, size, ?_, hvisible, haligned⟩
  have hfmt : (addPlaneWithObject (formatsInfo .argb) img1 0 image image.height size).format =
      .argb := himgFormat
  constructor
  · rw [hfmt]
    exact hlayout
  · exact hwidth
  · exact hheight
  · exact hobjects
  · rw [hfmt]
    exact hplanes
  · exact hobject
  · show Function.update img1.mods 0 image.mods 0 = image.mods
    exact Function.update_self _ _ _
  · intro i hi
    have hzero : i = 0 := by
      have hone : i < 1 := hi.trans_eq hplanes
      omega
    subst hzero
    rw [hfmt]
    constructor
    · simp [addPlaneWithObject, BackingImage.planeAt, heldPlane, hoffset]
    · simp [addPlaneWithObject]

/-- An image that the direct backend packs into one object, or allocates for an RGB surface. -/
def HasOneObject (d : NVDriver) (surface : NVSurface) : Prop :=
  isRgbFourcc surface.fourcc = true ∨ d.exportLayout = .packed

end Allocation

/-! ## Import -/

section Import

variable {context : NVDriverContext} {surface : NVSurface} {rows : NVDriverImage → Nat}
  {images : List NVDriverImage} {totalSize : Nat} {img imp : BackingImage}

/-- The import of what was exported passes every check, and gives the storage back with arrays
of the aligned height. -/
theorem directImport_accepts (hexports : ExportsLayout context surface rows images totalSize img)
    (hreimported : Reimported img imp) (legacyPrime : Bool) :
    ∃ imported, directImportBackingImage context imp legacyPrime true = some imported ∧
      imported.objectSize 0 = img.objectSize 0 ∧ imported.mods 0 = img.mods 0 ∧
      ∀ i < img.numPlanes, imported.planeAt i =
        heldPlane (formatsInfo img.format) i (images.getD i {}) (images.getD i {}).alignedRows := by
  have hlayout : calculateUnifiedImageLayout context imp.width imp.height
      (formatsInfo imp.format) true = some (images, totalSize) := by
    rw [hreimported.width, hexports.width, hreimported.height, hexports.height, hreimported.format]
    exact hexports.layout
  have hobject : imp.objectSize 0 = totalSize :=
    hreimported.objectSize.trans hexports.objectSize
  have hmods : imp.mods 0 = (images.getD 0 {}).mods := hreimported.mods.trans hexports.mods
  have hplane : ∀ i < (formatsInfo img.format).numPlanes,
      imp.planeObjectIndex i = 0 ∧ imp.offsets i = (images.getD i {}).offset ∧
        imp.strides i = (images.getD i {}).pitch := by
    intro i hi
    rw [← hexports.numPlanes] at hi
    obtain ⟨hindex, hoffset, hstride⟩ := hreimported.plane i hi
    obtain ⟨hheld, hzero⟩ := hexports.plane i hi
    have hoffsetImg : img.offsets i = (images.getD i {}).offset := congrArg (·.2.1) hheld
    have hstrideImg : img.strides i = (images.getD i {}).pitch := congrArg (·.2.2) hheld
    exact ⟨hindex.trans hzero, hoffset.trans hoffsetImg, hstride.trans hstrideImg⟩
  have hpasses : ¬ (imp.numObjects ≠ 1 ∨ imp.objectSize 0 ≠ totalSize ∨
      (¬ legacyPrime = true ∧ imp.mods 0 ≠ (images.getD 0 {}).mods)) := by
    rintro (hne | hne | ⟨-, hne⟩)
    · exact hne (hreimported.numObjects.trans hexports.numObjects)
    · exact hne hobject
    · exact hne hmods
  have hall : ((List.range (formatsInfo imp.format).numPlanes).all fun i =>
      imp.planeObjectIndex i = 0 && imp.offsets i = (images.getD i {}).offset &&
        imp.strides i = (images.getD i {}).pitch) = true := by
    rw [List.all_eq_true, hreimported.format]
    intro i hi
    obtain ⟨hindex, hoffset, hstride⟩ := hplane i (List.mem_range.mp hi)
    simp [hindex, hoffset, hstride]
  unfold directImportBackingImage
  simp only [hlayout, if_neg hpasses, hall, not_true_eq_false, if_false]
  refine ⟨_, rfl, hreimported.objectSize, ?_, ?_⟩
  · show Function.update imp.mods 0 (images.getD 0 {}).mods 0 = img.mods 0
    rw [Function.update_self, hexports.mods]
  · intro i hi
    rw [hexports.numPlanes] at hi
    obtain ⟨-, hoffset, hstride⟩ := hplane i hi
    simp only [BackingImage.planeAt, heldPlane, NVDriverImage.alignedRows, hreimported.format,
      if_pos hi, hoffset, hstride]

/-- The storage is the same exactly where the arrays of the allocation have the aligned
height. -/
theorem reimport_sameStorage_iff
    (hexports : ExportsLayout context surface rows images totalSize img)
    (hreimported : Reimported img imp) (legacyPrime : Bool) :
    (∃ imported, directImportBackingImage context imp legacyPrime true = some imported ∧
        SameStorage img imported) ↔
      ∀ i < img.numPlanes, (images.getD i {}).alignedRows = rows (images.getD i {}) := by
  obtain ⟨imported, himport, hobject, hmods, hplanes⟩ :=
    directImport_accepts hexports hreimported legacyPrime
  constructor
  · rintro ⟨imported', himport', hsame⟩ i hi
    obtain rfl := Option.some.inj (himport.symm.trans himport')
    have hheld := (hplanes i hi).symm.trans ((hsame.plane i hi).trans (hexports.plane i hi).1)
    exact congrArg CudaArray.height (Option.some.inj (congrArg (·.1) hheld))
  · intro hrows
    refine ⟨imported, himport, hobject, hmods, fun i hi => ?_⟩
    rw [hplanes i hi, (hexports.plane i hi).1, hrows i hi]

/-- The one plane of an RGB image comes back with the array it had where its height is a
multiple of the height of its blocks. -/
theorem reimport_sameStorage_rgb_iff {k k' : Kernel} (hrgb : isRgbFourcc surface.fourcc = true)
    (halloc : directAllocateBackingImageRgb context k surface = some (img, k'))
    (hreimported : Reimported img imp) (legacyPrime : Bool) :
    (∃ imported, directImportBackingImage context imp legacyPrime true = some imported ∧
        SameStorage img imported) ↔
      gobHeightInBytes * 2 ^ calculateLog2GobsPerBlockY surface.height ∣ surface.height := by
  obtain ⟨image, totalSize, hexports, hvisible, haligned⟩ := allocateRgb_exports hrgb halloc
  have hone : img.numPlanes = 1 := by
    rw [hexports.numPlanes, ← (formatsInfo_planes _).1, ← unifiedLayout_length hexports.layout]
    rfl
  have hiff : (∀ i < img.numPlanes, (List.getD [image] i {}).alignedRows =
      (List.getD [image] i {}).height) ↔ image.alignedRows = image.height := by
    rw [hone]
    refine ⟨fun h => h 0 Nat.zero_lt_one, fun h i hi => ?_⟩
    obtain rfl : i = 0 := by omega
    exact h
  rw [reimport_sameStorage_iff hexports hreimported legacyPrime, hiff, haligned, hvisible]
  exact roundUp_eq_iff (Nat.mul_pos (by decide) (Nat.two_pow_pos _))

end Import

/-- What the direct backend allocates in one object is imported again as the same storage if
and only if it is packed, or its height is a multiple of the height of its blocks. -/
theorem reimport_agrees_iff {d : NVDriver} {surface : NVSurface} {img imp : BackingImage}
    {k : Kernel} (hone : HasOneObject d surface)
    (halloc : directAllocateBackingImageImpl d surface = some (img, k))
    (hreimported : Reimported img imp) (legacyPrime : Bool) :
    (∃ imported, directImportBackingImage d.driverContext imp legacyPrime true = some imported ∧
        SameStorage img imported) ↔
      isRgbFourcc surface.fourcc = false ∨
        gobHeightInBytes * 2 ^ calculateLog2GobsPerBlockY surface.height ∣ surface.height := by
  unfold directAllocateBackingImageImpl at halloc
  split at halloc
  · cases halloc
  · split at halloc
    · rename_i hrgb
      have hyuv : ¬ isRgbFourcc surface.fourcc = false := by
        rw [hrgb]
        exact Bool.noConfusion
      rw [reimport_sameStorage_rgb_iff hrgb halloc hreimported legacyPrime]
      exact (or_iff_right hyuv).symm
    · rename_i hrgb
      have hpacked : d.exportLayout = .packed := hone.resolve_left hrgb
      rw [hpacked] at halloc
      obtain ⟨images, totalSize, hexports⟩ := allocateSingle_exports halloc
      rw [reimport_sameStorage_iff hexports hreimported legacyPrime]
      exact ⟨fun _ => .inl (Bool.eq_false_iff.mpr hrgb), fun _ _ _ => rfl⟩

/-- A direct driver that packs what it exports. -/
def packedDriver : NVDriver :=
  { exportLayout := .packed, kernel := { limit := 64 } }

/-- The import of everything that an image exports. -/
def reimport (img : BackingImage) : BackingImage :=
  { format := img.format, width := img.width, height := img.height, fourcc := img.fourcc
    numObjects := img.numObjects, numPlanes := img.numPlanes, isExternalBuffer := true
    objectSize := img.objectSize, mods := img.mods, offsets := img.offsets
    strides := img.strides, planeObjectIndex := img.planeObjectIndex }

theorem reimport_reimported (img : BackingImage) : Reimported img (reimport img) :=
  ⟨rfl, rfl, rfl, rfl, rfl, rfl, fun _ _ => ⟨rfl, rfl, rfl⟩⟩

/-- A packed frame comes back. -/
theorem reimport_agrees_packed :
    ∃ img k, directAllocateBackingImageImpl packedDriver { width := 168, height := 96 } =
        some (img, k) ∧
      ∃ imported, directImportBackingImage packedDriver.driverContext (reimport img) false true =
          some imported ∧ SameStorage img imported := by
  have hsome : (directAllocateBackingImageImpl packedDriver
      { width := 168, height := 96 }).isSome := by decide
  obtain ⟨⟨img, k⟩, halloc⟩ := Option.isSome_iff_exists.mp hsome
  exact ⟨img, k, halloc,
    (reimport_agrees_iff (.inr rfl) halloc (reimport_reimported img) false).mpr (.inl (by decide))⟩

/-- An RGB surface of 20 rows has blocks of 16: what comes back has an array of 32 rows. -/
theorem reimport_disagrees_rgb :
    ∃ img k, directAllocateBackingImageImpl packedDriver
        { width := 16, height := 20, fourcc := vaFourccBGRX } = some (img, k) ∧
      ¬ ∃ imported, directImportBackingImage packedDriver.driverContext (reimport img) false true =
          some imported ∧ SameStorage img imported := by
  have hsome : (directAllocateBackingImageRgb packedDriver.driverContext packedDriver.kernel
      { width := 16, height := 20, fourcc := vaFourccBGRX }).isSome := by decide
  obtain ⟨⟨img, k⟩, halloc⟩ := Option.isSome_iff_exists.mp hsome
  refine ⟨img, k, halloc, ?_⟩
  rw [reimport_sameStorage_rgb_iff (by decide) halloc (reimport_reimported img) false]
  decide

end Surface
end NvidiaVaapi
