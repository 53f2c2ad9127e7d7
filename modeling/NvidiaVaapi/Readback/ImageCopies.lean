import Mathlib.Order.CompletePartialOrder
import Mathlib.Data.Set.Disjoint
import Mathlib.Tactic.Ring
import NvidiaVaapi.Surface.Formats

/-!
# Images and the copies of a readback

`nvCreateImage` lays the planes of an image out in one buffer, `nvGetImage` copies a
rectangle of a surface to them.  Both compute the layout of the planes for themselves.
-/

namespace NvidiaVaapi
namespace Readback

open Surface

/-! ## Creation -/

def sizeMax : Nat := 2 ^ 64 - 1
def uint32Max : Nat := 2 ^ 32 - 1

/-- `checkedMultiplySize`; `none` is the answer `false`. -/
def checkedMultiplySize (left right : Nat) : Option Nat :=
  if left ≠ 0 ∧ right > sizeMax / left then none else some (left * right)

/-- `checkedAddSize`. -/
def checkedAddSize (left right : Nat) : Option Nat :=
  if left > sizeMax - right then none else some (left + right)

/-- What the driver keeps of an image. -/
structure NVImage where
  width : Nat
  height : Nat
  format : NVFormat
  deriving DecidableEq, Repr

/-- The `VAImage` that the application gets. -/
structure VAImage where
  width : Nat
  height : Nat
  dataSize : Nat
  numPlanes : Nat
  pitches : List Nat
  offsets : List Nat
  deriving DecidableEq, Repr

/-- The planes of a format, as the loops go through them. -/
def planesOf (format : NVFormat) : List NVFormatPlane :=
  (List.range (formatsInfo format).numPlanes).map (formatsInfo format).planeAt

/-- One round of the loop over the sizes: the sizes of the planes and of the image so
far. -/
def addPlaneSize (bppc width height : Nat) (sizes : List Nat × Nat) (p : NVFormatPlane) :
    Option (List Nat × Nat) := do
  let planePixels ← checkedMultiplySize (nvPlaneExtent width p.ssX) (nvPlaneExtent height p.ssY)
  let bytesPerSample ← checkedMultiplySize bppc p.channelCount
  let planeSize ← checkedMultiplySize planePixels bytesPerSample
  let imageSize ← checkedAddSize sizes.2 planeSize
  some (sizes.1 ++ [planeSize], imageSize)

/-- One round of the loop over the pitches. -/
def addPlanePitch (bppc width : Nat) (pitches : List Nat) (p : NVFormatPlane) :
    Option (List Nat) := do
  let bytesPerSample ← checkedMultiplySize bppc p.channelCount
  let pitch ← checkedMultiplySize (nvPlaneExtent width p.ssX) bytesPerSample
  if pitch > uint32Max then none else some (pitches ++ [pitch])

/-- `nvCreateImage` up to the allocation of the image and its buffer, whose size is that of
the data: the image, or `none` where the format or the extents are refused. -/
def nvCreateImage (fourcc : Nat) (width height : Int) : Option (NVImage × VAImage) :=
  if width ≤ 0 ∨ height ≤ 0 then none
  else
    let nvFormat := nvFormatFromVaFormat fourcc
    if nvFormat = .none then none
    else
      let fmtInfo := formatsInfo nvFormat
      if fmtInfo.numPlanes = 0 ∨ fmtInfo.numPlanes > 3 ∨ fmtInfo.bppc = 0 then none
      else do
        let sizes ← (planesOf nvFormat).foldlM
          (addPlaneSize fmtInfo.bppc width.toNat height.toNat) ([], 0)
        let pitches ← (planesOf nvFormat).foldlM (addPlanePitch fmtInfo.bppc width.toNat) []
        let planeSizes := sizes.1
        let imageSize := sizes.2
        if imageSize = 0 ∨ imageSize > uint32Max then none
        else
          some (⟨width.toNat, height.toNat, nvFormat⟩,
            { width := width.toNat
              height := height.toNat
              dataSize := imageSize
              numPlanes := fmtInfo.numPlanes
              pitches := [pitches.getD 0 0, pitches.getD 1 0, pitches.getD 2 0]
              offsets := [0, planeSizes.getD 0 0, planeSizes.getD 0 0 + planeSizes.getD 1 0] })

/-! ## Readback -/

/-- What `nvGetImage` reads of a surface: its extents and the format of its backing
image. -/
structure NVSurface where
  width : Nat
  height : Nat
  backingFormat : Option NVFormat
  deriving DecidableEq, Repr

/-- A copy of rows from a plane of the backing image to the buffer of the image; the offset
is that of the destination in the buffer. -/
structure PlaneCopy where
  srcXInBytes : Nat
  srcY : Nat
  dstOffset : Nat
  dstPitch : Nat
  widthInBytes : Nat
  height : Nat
  deriving DecidableEq, Repr

/-- The loop of `nvGetImage` over the planes, from an offset in the buffer on. -/
def planeCopies (bppc imageWidth imageHeight x y width height : Nat) :
    List NVFormatPlane → Nat → List PlaneCopy
  | [], _ => []
  | p :: planes, destinationOffset =>
    let bytesPerSample := bppc * p.channelCount
    let destinationPitch := nvPlaneExtent imageWidth p.ssX * bytesPerSample
    { srcXInBytes := nvPlaneCoordinate x p.ssX * bytesPerSample
      srcY := nvPlaneCoordinate y p.ssY
      dstOffset := destinationOffset
      dstPitch := destinationPitch
      widthInBytes := nvPlaneExtent width p.ssX * bytesPerSample
      height := nvPlaneExtent height p.ssY } ::
    planeCopies bppc imageWidth imageHeight x y width height planes
      (destinationOffset + destinationPitch * nvPlaneExtent imageHeight p.ssY)

/-- The checks of `nvGetImage` on the rectangle, and its copies where they are passed; the
waits and the calls of the CUDA library between them do not change a copy. -/
def nvGetImage (surfaceObj : NVSurface) (x y : Int) (width height : Nat) (imageObj : NVImage) :
    Option (List PlaneCopy) :=
  if surfaceObj.backingFormat ≠ some imageObj.format ∨ x < 0 ∨ y < 0 ∨ width = 0 ∨ height = 0 ∨
      x.toNat + width > surfaceObj.width ∨ y.toNat + height > surfaceObj.height ∨
      width > imageObj.width ∨ height > imageObj.height then none
  else
    some (planeCopies (formatsInfo imageObj.format).bppc imageObj.width imageObj.height
      x.toNat y.toNat width height (planesOf imageObj.format) 0)

/-! ## Layout of the planes -/

/-- The bytes of a row and of a whole plane. -/
def planePitch (bppc width : Nat) (p : NVFormatPlane) : Nat :=
  nvPlaneExtent width p.ssX * (bppc * p.channelCount)

@[inherit_doc planePitch]
def planeBytes (bppc width height : Nat) (p : NVFormatPlane) : Nat :=
  planePitch bppc width p * nvPlaneExtent height p.ssY

theorem checkedMultiplySize_eq {left right product : Nat}
    (hproduct : checkedMultiplySize left right = some product) : product = left * right := by
  unfold checkedMultiplySize at hproduct
  split at hproduct
  · cases hproduct
  · exact (Option.some.inj hproduct).symm

theorem checkedAddSize_eq {left right sum : Nat} (hsum : checkedAddSize left right = some sum) :
    sum = left + right := by
  unfold checkedAddSize at hsum
  split at hsum
  · cases hsum
  · exact (Option.some.inj hsum).symm

/-- The sizes of the planes, and their sum. -/
theorem foldlM_addPlaneSize {bppc width height : Nat} {planes : List NVFormatPlane}
    {sizes sizes' : List Nat × Nat}
    (hsizes : planes.foldlM (addPlaneSize bppc width height) sizes = some sizes') :
    sizes'.1 = sizes.1 ++ planes.map (planeBytes bppc width height) ∧
    sizes'.2 = sizes.2 + (planes.map (planeBytes bppc width height)).sum := by
  induction planes generalizing sizes with
  | nil =>
      cases hsizes
      simp
  | cons p planes ih =>
      rw [List.foldlM_cons] at hsizes
      obtain ⟨next, hnext, hrest⟩ := Option.bind_eq_some_iff.mp hsizes
      obtain ⟨hlist, hsum⟩ := ih hrest
      unfold addPlaneSize at hnext
      obtain ⟨pixels, hpixels, hnext⟩ := Option.bind_eq_some_iff.mp hnext
      obtain ⟨sample, hsample, hnext⟩ := Option.bind_eq_some_iff.mp hnext
      obtain ⟨size, hsize, hnext⟩ := Option.bind_eq_some_iff.mp hnext
      obtain ⟨total, htotal, hnext⟩ := Option.bind_eq_some_iff.mp hnext
      cases hnext
      have hbytes : size = planeBytes bppc width height p := by
        rw [checkedMultiplySize_eq hsize, checkedMultiplySize_eq hpixels,
          checkedMultiplySize_eq hsample, planeBytes, planePitch]
        ring
      rw [hlist, hsum, checkedAddSize_eq htotal, hbytes, List.map_cons, List.sum_cons]
      constructor
      · rw [List.append_assoc, List.singleton_append]
      · exact Nat.add_assoc _ _ _

theorem foldlM_addPlanePitch {bppc width : Nat} {planes : List NVFormatPlane}
    {pitches pitches' : List Nat}
    (hpitches : planes.foldlM (addPlanePitch bppc width) pitches = some pitches') :
    pitches' = pitches ++ planes.map (planePitch bppc width) := by
  induction planes generalizing pitches with
  | nil =>
      cases hpitches
      simp
  | cons p planes ih =>
      rw [List.foldlM_cons] at hpitches
      obtain ⟨next, hnext, hrest⟩ := Option.bind_eq_some_iff.mp hpitches
      have hlist := ih hrest
      unfold addPlanePitch at hnext
      obtain ⟨sample, hsample, hnext⟩ := Option.bind_eq_some_iff.mp hnext
      obtain ⟨pitch, hpitch, hnext⟩ := Option.bind_eq_some_iff.mp hnext
      split at hnext
      · cases hnext
      · cases hnext
        have hbytes : pitch = planePitch bppc width p := by
          rw [checkedMultiplySize_eq hpitch, checkedMultiplySize_eq hsample, planePitch]
        rw [hlist, hbytes, List.map_cons, List.append_assoc, List.singleton_append]

theorem length_planesOf (format : NVFormat) :
    (planesOf format).length = (formatsInfo format).numPlanes := by
  rw [planesOf, List.length_map, List.length_range]

/-- Where a plane begins in the buffer: behind the planes before it. -/
def planeOffset (bppc width height : Nat) (planes : List NVFormatPlane) (i : Nat) : Nat :=
  ((planes.take i).map (planeBytes bppc width height)).sum

theorem planeOffset_succ {bppc width height : Nat} {planes : List NVFormatPlane} {i : Nat}
    {p : NVFormatPlane} (hp : planes[i]? = some p) :
    planeOffset bppc width height planes (i + 1) =
      planeOffset bppc width height planes i + planeBytes bppc width height p := by
  rw [planeOffset, List.take_add_one, hp]
  simp [planeOffset]

/-- Later planes begin later, and none behind the last byte. -/
theorem planeOffset_mono (bppc width height : Nat) (planes : List NVFormatPlane) {i j : Nat}
    (hij : i ≤ j) :
    planeOffset bppc width height planes i ≤ planeOffset bppc width height planes j := by
  have hprefix : (planes.take i).map (planeBytes bppc width height) <+:
      (planes.take j).map (planeBytes bppc width height) :=
    (List.take_prefix_take_left hij).map _
  obtain ⟨rest, hrest⟩ := hprefix
  unfold planeOffset
  rw [← hrest, List.sum_append]
  exact Nat.le_add_right _ _

/-- What an image that is created is like. -/
structure Created (img : NVImage) (image : VAImage) : Prop where
  numPlanes : image.numPlanes = (planesOf img.format).length
  dataSize : image.dataSize = planeOffset (formatsInfo img.format).bppc img.width img.height
    (planesOf img.format) (planesOf img.format).length
  plane : ∀ i p, (planesOf img.format)[i]? = some p →
    image.pitches[i]? = some (planePitch (formatsInfo img.format).bppc img.width p) ∧
    image.offsets[i]? = some (planeOffset (formatsInfo img.format).bppc img.width img.height
      (planesOf img.format) i)

theorem nvCreateImage_created {fourcc : Nat} {width height : Int} {img : NVImage}
    {image : VAImage} (hcreate : nvCreateImage fourcc width height = some (img, image)) :
    Created img image := by
  unfold nvCreateImage at hcreate
  simp only at hcreate
  split at hcreate
  · cases hcreate
  · split at hcreate
    · cases hcreate
    · split at hcreate
      · cases hcreate
      · rename_i hinfo
        obtain ⟨sizes, hsizes, hcreate⟩ := Option.bind_eq_some_iff.mp hcreate
        obtain ⟨pitches, hpitches, hcreate⟩ := Option.bind_eq_some_iff.mp hcreate
        split at hcreate
        · cases hcreate
        · cases hcreate
          obtain ⟨hlist, hsum⟩ := foldlM_addPlaneSize hsizes
          have hpitch := foldlM_addPlanePitch hpitches
          generalize nvFormatFromVaFormat fourcc = format at *
          have hlength := length_planesOf format
          have hfew : (planesOf format).length ≤ 3 := by omega
          constructor
          · exact hlength.symm
          · show sizes.2 = _
            rw [hsum, planeOffset, List.take_length, Nat.zero_add]
          · intro i p hp
            have hi : i < (planesOf format).length := (List.getElem?_eq_some_iff.mp hp).1
            have hpitchAt : pitches.getD i 0 = planePitch (formatsInfo format).bppc
                width.toNat p := by
              rw [List.getD_eq_getElem?_getD, hpitch, List.nil_append, List.getElem?_map, hp]
              rfl
            have hzero : planeOffset (formatsInfo format).bppc width.toNat height.toNat
                (planesOf format) 0 = 0 := rfl
            have hnext : ∀ k, k < i → planeOffset (formatsInfo format).bppc width.toNat
                height.toNat (planesOf format) (k + 1) = planeOffset (formatsInfo format).bppc
                width.toNat height.toNat (planesOf format) k + sizes.1.getD k 0 := by
              intro k hk
              have hbound : k < (planesOf format).length := Nat.lt_trans hk hi
              rw [planeOffset_succ (List.getElem?_eq_getElem hbound),
                List.getD_eq_getElem?_getD, hlist, List.nil_append, List.getElem?_map,
                List.getElem?_eq_getElem hbound]
              rfl
            rw [← hpitchAt]
            show _ ∧ [0, sizes.1.getD 0 0, sizes.1.getD 0 0 + sizes.1.getD 1 0][i]? = _
            obtain rfl | rfl | rfl : i = 0 ∨ i = 1 ∨ i = 2 := by omega
            · exact ⟨rfl, rfl⟩
            · rw [hnext 0 (by omega), hzero, Nat.zero_add]
              exact ⟨rfl, rfl⟩
            · rw [hnext 1 (by omega), hnext 0 (by omega), hzero, Nat.zero_add]
              exact ⟨rfl, rfl⟩

/-! ## Copies -/

/-- The copy of a plane goes to the offset of the plane. -/
theorem planeCopies_getElem? {bppc imageWidth imageHeight x y width height : Nat}
    {planes : List NVFormatPlane} {start i : Nat} {p : NVFormatPlane}
    (hp : planes[i]? = some p) :
    (planeCopies bppc imageWidth imageHeight x y width height planes start)[i]? = some
      { srcXInBytes := nvPlaneCoordinate x p.ssX * (bppc * p.channelCount)
        srcY := nvPlaneCoordinate y p.ssY
        dstOffset := start + planeOffset bppc imageWidth imageHeight planes i
        dstPitch := planePitch bppc imageWidth p
        widthInBytes := planePitch bppc width p
        height := nvPlaneExtent height p.ssY } := by
  induction planes generalizing start i with
  | nil => cases hp
  | cons q planes ih =>
      unfold planeCopies
      cases i with
      | zero =>
          cases hp
          rfl
      | succ i =>
          have hrest : (planeCopies bppc imageWidth imageHeight x y width height planes
              (start + planeBytes bppc imageWidth imageHeight q))[i]? = _ := ih hp
          have hoffset : planeOffset bppc imageWidth imageHeight (q :: planes) (i + 1) =
              planeBytes bppc imageWidth imageHeight q +
                planeOffset bppc imageWidth imageHeight planes i := by
            simp [planeOffset]
          rw [hoffset, ← Nat.add_assoc]
          exact hrest

theorem length_planeCopies {bppc imageWidth imageHeight x y width height : Nat}
    (planes : List NVFormatPlane) (start : Nat) :
    (planeCopies bppc imageWidth imageHeight x y width height planes start).length =
      planes.length := by
  induction planes generalizing start with
  | nil => rfl
  | cons q planes ih =>
      unfold planeCopies
      rw [List.length_cons, List.length_cons, ih]

/-- The bytes of the buffer that a copy writes. -/
def PlaneCopy.written (copy : PlaneCopy) : Set Nat :=
  {b | ∃ row < copy.height, copy.dstOffset + row * copy.dstPitch ≤ b ∧
    b < copy.dstOffset + row * copy.dstPitch + copy.widthInBytes}

/-- A copy of rows no longer than the pitch stays within its plane. -/
theorem PlaneCopy.written_bounds {copy : PlaneCopy} {rows b : Nat} (hb : b ∈ copy.written)
    (hwidth : copy.widthInBytes ≤ copy.dstPitch) (hrows : copy.height ≤ rows) :
    copy.dstOffset ≤ b ∧ b < copy.dstOffset + copy.dstPitch * rows := by
  obtain ⟨row, hrow, hfrom, hto⟩ := hb
  have hspan : (row + 1) * copy.dstPitch ≤ rows * copy.dstPitch :=
    Nat.mul_le_mul_right _ (by omega)
  rw [Nat.add_one_mul] at hspan
  rw [Nat.mul_comm copy.dstPitch rows]
  omega

/-- What the copies of a readback keep to: the layout of the image that the application
knows, the buffer, and the planes of the surface. -/
structure CopiesAgree (format : NVFormat) (surfaceObj : NVSurface) (image : VAImage)
    (copies : List PlaneCopy) : Prop where
  length : copies.length = image.numPlanes ∧ image.numPlanes = (planesOf format).length
  layout : ∀ (i : Nat) (copy : PlaneCopy), copies[i]? = some copy →
    image.offsets[i]? = some copy.dstOffset ∧ image.pitches[i]? = some copy.dstPitch ∧
      copy.widthInBytes ≤ copy.dstPitch
  inside : ∀ copy ∈ copies, ∀ b ∈ copy.written, b < image.dataSize
  disjoint : ∀ (i j : Nat) (copy copy' : PlaneCopy), copies[i]? = some copy →
    copies[j]? = some copy' → i ≠ j → Disjoint copy.written copy'.written
  source : ∀ (i : Nat) (copy : PlaneCopy) (p : NVFormatPlane), copies[i]? = some copy →
    (planesOf format)[i]? = some p →
    copy.srcXInBytes + copy.widthInBytes ≤ planePitch (formatsInfo format).bppc surfaceObj.width p ∧
    copy.srcY + copy.height ≤ nvPlaneExtent surfaceObj.height p.ssY

/-- The planes of a format are subsampled by at most one bit. -/
theorem subsampling_le {format : NVFormat} {i : Nat} {p : NVFormatPlane}
    (hp : (planesOf format)[i]? = some p) : p.ssX ≤ 1 ∧ p.ssY ≤ 1 := by
  have hi : i < (planesOf format).length := (List.getElem?_eq_some_iff.mp hp).1
  rw [length_planesOf] at hi
  have hspec := planeAt_spec hi
  rw [planesOf, List.getElem?_map, List.getElem?_range hi] at hp
  cases hp
  exact ⟨hspec.1, hspec.2.1⟩

/-- The copies of a rectangle that a readback accepts keep to the image, the buffer and the
surface, whatever the parity of the rectangle. -/
theorem nvGetImage_agrees {fourcc : Nat} {imageWidth imageHeight : Int} {img : NVImage}
    {image : VAImage} {surfaceObj : NVSurface} {x y : Int} {width height : Nat}
    {copies : List PlaneCopy}
    (hcreate : nvCreateImage fourcc imageWidth imageHeight = some (img, image))
    (hget : nvGetImage surfaceObj x y width height img = some copies) :
    CopiesAgree img.format surfaceObj image copies := by
  have hcreated := nvCreateImage_created hcreate
  unfold nvGetImage at hget
  split at hget
  · cases hget
  · rename_i haccepted
    cases hget
    simp only [not_or, Nat.not_lt, gt_iff_lt] at haccepted
    obtain ⟨-, -, -, -, -, hright, hbottom, hwide, hhigh⟩ := haccepted
    -- Every copy is that of a plane.
    have hcopy : ∀ (i : Nat) (copy : PlaneCopy),
        (planeCopies (formatsInfo img.format).bppc img.width img.height x.toNat y.toNat width
          height (planesOf img.format) 0)[i]? = some copy →
        ∃ p, (planesOf img.format)[i]? = some p ∧ copy =
          { srcXInBytes :=
              nvPlaneCoordinate x.toNat p.ssX * ((formatsInfo img.format).bppc * p.channelCount)
            srcY := nvPlaneCoordinate y.toNat p.ssY
            dstOffset := planeOffset (formatsInfo img.format).bppc img.width img.height
              (planesOf img.format) i
            dstPitch := planePitch (formatsInfo img.format).bppc img.width p
            widthInBytes := planePitch (formatsInfo img.format).bppc width p
            height := nvPlaneExtent height p.ssY } := by
      intro i copy hi
      have hbound := (List.getElem?_eq_some_iff.mp hi).1
      rw [length_planeCopies] at hbound
      have hp := List.getElem?_eq_getElem hbound
      refine ⟨_, hp, ?_⟩
      rw [planeCopies_getElem? hp, Nat.zero_add] at hi
      exact (Option.some.inj hi).symm
    have hpitch : ∀ (i : Nat) (p : NVFormatPlane), (planesOf img.format)[i]? = some p →
        planePitch (formatsInfo img.format).bppc width p ≤
          planePitch (formatsInfo img.format).bppc img.width p :=
      fun i p hp => Nat.mul_le_mul_right _ (nvPlaneExtent_mono (subsampling_le hp).1 hwide)
    have hbounds : ∀ (i : Nat) (copy : PlaneCopy),
        (planeCopies (formatsInfo img.format).bppc img.width img.height x.toNat y.toNat width
          height (planesOf img.format) 0)[i]? = some copy → ∀ b ∈ copy.written,
        planeOffset (formatsInfo img.format).bppc img.width img.height (planesOf img.format) i ≤
          b ∧
        b < planeOffset (formatsInfo img.format).bppc img.width img.height
          (planesOf img.format) (i + 1) := by
      intro i copy hi b hb
      obtain ⟨p, hp, rfl⟩ := hcopy i copy hi
      rw [planeOffset_succ hp, planeBytes]
      exact PlaneCopy.written_bounds hb (hpitch i p hp)
        (nvPlaneExtent_mono (subsampling_le hp).2 hhigh)
    constructor
    · rw [length_planeCopies]
      exact ⟨hcreated.numPlanes.symm, hcreated.numPlanes⟩
    · intro i copy hi
      obtain ⟨p, hp, rfl⟩ := hcopy i copy hi
      obtain ⟨hpitches, hoffsets⟩ := hcreated.plane i p hp
      exact ⟨hoffsets, hpitches, hpitch i p hp⟩
    · intro copy hmem b hb
      obtain ⟨i, hi⟩ := List.getElem?_of_mem hmem
      have hlast := (hbounds i copy hi b hb).2
      have hcount := (List.getElem?_eq_some_iff.mp hi).1
      rw [length_planeCopies] at hcount
      rw [hcreated.dataSize]
      exact Nat.lt_of_lt_of_le hlast (planeOffset_mono _ _ _ _ hcount)
    · intro i j copy copy' hi hj hne
      rw [Set.disjoint_left]
      intro b hb hb'
      obtain ⟨hfrom, hto⟩ := hbounds i copy hi b hb
      obtain ⟨hfrom', hto'⟩ := hbounds j copy' hj b hb'
      -- The planes follow each other in the order of their numbers.
      rcases Nat.lt_or_gt_of_ne hne with hlt | hlt
      · have hmono := planeOffset_mono (formatsInfo img.format).bppc img.width img.height
          (planesOf img.format) (Nat.succ_le_of_lt hlt)
        rw [Nat.succ_eq_add_one] at hmono
        omega
      · have hmono := planeOffset_mono (formatsInfo img.format).bppc img.width img.height
          (planesOf img.format) (Nat.succ_le_of_lt hlt)
        rw [Nat.succ_eq_add_one] at hmono
        omega
    · intro i copy p hi hp
      obtain ⟨q, hq, rfl⟩ := hcopy i copy hi
      obtain rfl : q = p := Option.some.inj (hq.symm.trans hp)
      obtain ⟨hx, hy⟩ := subsampling_le hp
      refine ⟨?_, nvPlaneCoordinate_extent hy hbottom⟩
      show nvPlaneCoordinate x.toNat q.ssX * _ + nvPlaneExtent width q.ssX * _ ≤
        nvPlaneExtent surfaceObj.width q.ssX * _
      rw [← Nat.add_mul]
      exact Nat.mul_le_mul_right _ (nvPlaneCoordinate_extent hx hright)

/-- An image of five columns and three rows, and an odd rectangle of a surface. -/
theorem nvGetImage_agrees_odd :
    CopiesAgree .nv12 ⟨64, 64, some .nv12⟩ ⟨5, 3, 27, 2, [5, 6, 0], [0, 15, 27]⟩
      [⟨7, 9, 0, 5, 3, 3⟩, ⟨6, 4, 15, 6, 4, 2⟩] :=
  nvGetImage_agrees (show nvCreateImage vaFourccNV12 5 3 = some (⟨5, 3, .nv12⟩, _) by decide)
    (show nvGetImage ⟨64, 64, some .nv12⟩ 7 9 3 3 ⟨5, 3, .nv12⟩ = some _ by decide)

end Readback
end NvidiaVaapi
