import NvidiaVaapi.Surface.CopyRanges
import NvidiaVaapi.Surface.ImportSteps

/-!
# Imported images fit

The planes of an image that `createImportedBackingImageImpl` returns lie in the objects of the
descriptor: the offsets and pitches are `int`s after `importPlanes`, and
`validateImportedLayout` has added them up against the sizes of the objects.
-/

namespace NvidiaVaapi
namespace Surface

/-- The planes of an external image fit. -/
def ImageFits (img : BackingImage) : Prop :=
  img.isExternalBuffer = true → ∀ i < (formatsInfo img.format).numPlanes, PlaneFits img i

/-- Two images are of one size and format, and so are their objects. -/
structure SameShape (img img' : BackingImage) : Prop where
  isExternalBuffer : img'.isExternalBuffer = img.isExternalBuffer
  format : img'.format = img.format
  width : img'.width = img.width
  height : img'.height = img.height
  numObjects : img'.numObjects = img.numObjects
  numPlanes : img'.numPlanes = img.numPlanes
  objectSize : img'.objectSize = img.objectSize

/-- Two images of one shape have their planes at the same places. -/
structure SamePlanes (img img' : BackingImage) : Prop extends SameShape img img' where
  planeObjectIndex : img'.planeObjectIndex = img.planeObjectIndex
  offsets : ∀ i < (formatsInfo img.format).numPlanes, img'.offsets i = img.offsets i
  strides : ∀ i < (formatsInfo img.format).numPlanes, img'.strides i = img.strides i

section Same

variable {img img' img'' : BackingImage}

theorem SameShape.refl (img : BackingImage) : SameShape img img :=
  ⟨rfl, rfl, rfl, rfl, rfl, rfl, rfl⟩

theorem SameShape.trans (h : SameShape img img') (h' : SameShape img' img'') :
    SameShape img img'' :=
  ⟨h'.isExternalBuffer.trans h.isExternalBuffer, h'.format.trans h.format,
    h'.width.trans h.width, h'.height.trans h.height, h'.numObjects.trans h.numObjects,
    h'.numPlanes.trans h.numPlanes, h'.objectSize.trans h.objectSize⟩

theorem SamePlanes.refl (img : BackingImage) : SamePlanes img img :=
  ⟨SameShape.refl img, rfl, fun _ _ => rfl, fun _ _ => rfl⟩

theorem SameLayout.samePlanes (h : SameLayout img img') : SamePlanes img img' := by
  obtain ⟨_, _, _, _, rfl⟩ := h
  exact ⟨⟨rfl, rfl, rfl, rfl, rfl, rfl, rfl⟩, rfl, fun _ _ => rfl, fun _ _ => rfl⟩

/-- A plane fits where it is. -/
theorem PlaneFits.congr {i : Nat} (h : PlaneFits img i) (hsame : SamePlanes img img')
    (hi : i < (formatsInfo img.format).numPlanes) : PlaneFits img' i := by
  have hobject := hsame.planeObjectIndex
  have hoffset := hsame.offsets i hi
  have hstride := hsame.strides i hi
  have hformat := hsame.format
  constructor
  · rw [hobject, hsame.numObjects]
    exact h.object
  · rw [hoffset]
    exact h.offset
  · rw [hstride]
    exact h.stride
  · rw [hstride, hformat, hsame.width]
    exact h.row
  · have hend : exactEnd img' i img'.width img'.height = exactEnd img i img.width img.height := by
      unfold exactEnd
      rw [hoffset, hstride, hformat, hsame.width, hsame.height]
    rw [hend, hobject, hsame.objectSize]
    exact h.inside

theorem ImageFits.congr (h : ImageFits img) (hsame : SamePlanes img img') : ImageFits img' := by
  intro hexternal i hi
  rw [hsame.isExternalBuffer] at hexternal
  rw [hsame.format] at hi
  exact (h hexternal i hi).congr hsame hi

end Same

/-! ## The loops of an import -/

variable {imported : ImportedSurface}

theorem importObjects_shape {list : List Nat} {img img' : BackingImage} {k k' : Kernel}
    {result : Bool} (himport : importObjects imported list (img, k) = (result, img', k')) :
    img'.isExternalBuffer = img.isExternalBuffer ∧ img'.format = img.format ∧
    img'.width = img.width ∧ img'.height = img.height ∧ img'.numObjects = img.numObjects ∧
    img'.numPlanes = img.numPlanes := by
  induction list generalizing img k with
  | nil =>
      cases himport
      exact ⟨rfl, rfl, rfl, rfl, rfl, rfl⟩
  | cons i rest ih =>
      unfold importObjects at himport
      split at himport
      · cases himport
        exact ⟨rfl, rfl, rfl, rfl, rfl, rfl⟩
      · rename_i fd k1 hdup
        have hcached : ∀ img : BackingImage,
            (cacheBackingImageFdStat k1 img i).isExternalBuffer = img.isExternalBuffer ∧
            (cacheBackingImageFdStat k1 img i).format = img.format ∧
            (cacheBackingImageFdStat k1 img i).width = img.width ∧
            (cacheBackingImageFdStat k1 img i).height = img.height ∧
            (cacheBackingImageFdStat k1 img i).numObjects = img.numObjects ∧
            (cacheBackingImageFdStat k1 img i).numPlanes = img.numPlanes := by
          intro img
          unfold cacheBackingImageFdStat
          split <;> exact ⟨rfl, rfl, rfl, rfl, rfl, rfl⟩
        have hnow := hcached { img with fds := Function.update img.fds i fd }
        simp only at himport
        split at himport
        · cases himport
          exact hnow
        · obtain ⟨hexternal, hformat, hwidth, hheight, hobjects, hplanes⟩ := ih himport
          exact ⟨hexternal.trans hnow.1, hformat.trans hnow.2.1, hwidth.trans hnow.2.2.1,
            hheight.trans hnow.2.2.2.1, hobjects.trans hnow.2.2.2.2.1,
            hplanes.trans hnow.2.2.2.2.2⟩

/-- The offset and the pitch of a plane are `int`s. -/
def PlaneBounded (img : BackingImage) (i : Nat) : Prop :=
  (0 ≤ img.offsets i ∧ (img.offsets i).toNat ≤ intMax) ∧
    (0 ≤ img.strides i ∧ (img.strides i).toNat ≤ intMax)

theorem importPlanes_bounded {list : List Nat} {img img' : BackingImage}
    (himport : importPlanes imported list img = some img') :
    SameShape img img' ∧ ∀ i, i ∈ list ∨ PlaneBounded img i → PlaneBounded img' i := by
  induction list generalizing img with
  | nil =>
      cases himport
      refine ⟨SameShape.refl _, fun i hi => ?_⟩
      rcases hi with hmem | hbounded
      · cases hmem
      · exact hbounded
  | cons i rest ih =>
      unfold importPlanes at himport
      simp only at himport
      split at himport
      · cases himport
      · rename_i haccepted
        obtain ⟨hshape, hplanes⟩ := ih himport
        have hpitch : (imported.planes i).pitch ≤ intMax :=
          Nat.le_of_not_lt fun hlarge => haccepted (.inr (.inl hlarge))
        have hoffset : (imported.planes i).offset ≤ intMax :=
          Nat.le_of_not_lt fun hlarge => haccepted (.inr (.inr hlarge))
        have hplaced : SameShape img (withImportedPlane img i (imported.planes i)) :=
          ⟨rfl, rfl, rfl, rfl, rfl, rfl, rfl⟩
        refine ⟨hplaced.trans hshape, fun j hj => ?_⟩
        have hhere : PlaneBounded (withImportedPlane img i (imported.planes i)) i := by
          unfold PlaneBounded withImportedPlane
          simp only
          rw [Function.update_self, Function.update_self]
          exact ⟨⟨Int.natCast_nonneg _, hoffset⟩, Int.natCast_nonneg _, hpitch⟩
        refine hplanes j ?_
        by_cases hji : j = i
        · rw [hji]
          exact .inr hhere
        · rcases hj with hmem | hbounded
          · rcases List.mem_cons.mp hmem with heq | hrest
            · exact absurd heq hji
            · exact .inl hrest
          · refine .inr ?_
            unfold PlaneBounded withImportedPlane
            simp only
            rw [Function.update_of_ne hji, Function.update_of_ne hji]
            exact hbounded

/-! ## The check of the layout -/

/-- What `validateImportedLayout` says of a plane whose layout is one of `int`s. -/
theorem importedPlaneValid_fits {img : BackingImage} {i : Nat}
    (hi : i < (formatsInfo img.format).numPlanes) (hbounded : PlaneBounded img i)
    (hsmall : img.width ≤ 2 ^ 16 ∧ img.height ≤ 2 ^ 16)
    (hvalid : importedPlaneValid img i = true) : PlaneFits img i := by
  obtain ⟨hoffset, hstride⟩ := hbounded
  unfold importedPlaneValid at hvalid
  simp only at hvalid
  split at hvalid
  · cases hvalid
  · rename_i hchecked
    have hobject : img.planeObjectIndex i < img.numObjects :=
      Nat.lt_of_not_ge fun hlarge => hchecked (.inl hlarge)
    have hpositive : 0 < img.strides i :=
      Int.lt_of_not_ge fun hneg => hchecked (.inr (.inr (.inl hneg)))
    have hrow : planeWidthBytes (formatsInfo img.format) i img.width ≤ toUInt64 (img.strides i) :=
      Nat.le_of_not_lt fun hshort => hchecked (.inr (.inr (.inr (.inl hshort))))
    have hheight : nvPlaneExtent img.height ((formatsInfo img.format).planeAt i).ssY ≠ 0 :=
      fun hzero => hchecked (.inr (.inr (.inr (.inr hzero))))
    rw [(words_rowBytes hi hsmall.1).2, toUInt64_eq hstride.1 hstride.2] at hrow
    have hrows : 0 < img.height := by
      have hle : nvPlaneExtent img.height ((formatsInfo img.format).planeAt i).ssY ≤ img.height :=
        (nvPlaneExtent_le (planeAt_spec hi).2.1).1
      omega
    have hend : checkedEnd img i img.width img.height =
        some (exactEnd img i img.width img.height) :=
      checkedEnd_eq hoffset ⟨hpositive, hstride.2⟩ hi hsmall.1 hsmall.2 hrows
    have hcheck : planeEnd (toUInt64 (img.offsets i)) (toUInt64 (img.strides i))
        (planeWidthBytes (formatsInfo img.format) i img.width)
        (nvPlaneExtent img.height ((formatsInfo img.format).planeAt i).ssY) =
        some (exactEnd img i img.width img.height) := hend
    rw [hcheck] at hvalid
    exact ⟨hobject, hoffset, ⟨hpositive, hstride.2⟩, hrow, of_decide_eq_true hvalid⟩

/-- The image before the search for one to borrow fits. -/
theorem importedImage_fits {k k' : Kernel} {width height : Nat} {img : BackingImage}
    (hsmall : width ≤ 2 ^ 16 ∧ height ≤ 2 ^ 16)
    (himport : importedImage k imported width height = (some img, k')) :
    ImageFits img ∧ img.width = width ∧ img.height = height := by
  unfold importedImage at himport
  simp only at himport
  split at himport
  · cases himport
  · rename_i img1 k1 hobjects
    obtain ⟨-, -, hwidth, hheight, -, hnumPlanes⟩ := importObjects_shape hobjects
    split at himport
    · cases himport
    · rename_i img2 hplanes
      obtain ⟨hshape, hbounded⟩ := importPlanes_bounded hplanes
      split at himport
      · rename_i hvalid
        cases himport
        have hw : img.width = width := hshape.width.trans hwidth
        have hh : img.height = height := hshape.height.trans hheight
        refine ⟨fun _ i hi => ?_, hw, hh⟩
        unfold validateImportedLayout at hvalid
        split at hvalid
        · cases hvalid
        · rename_i hchecked
          have hcount : img.numPlanes = (formatsInfo img.format).numPlanes :=
            not_not.mp fun hne => hchecked (.inr (.inr (.inr hne)))
          have hmem : i ∈ List.range img.numPlanes := List.mem_range.mpr (hcount ▸ hi)
          have himported : i ∈ List.range imported.numPlanes := by
            rw [hshape.numPlanes, hnumPlanes] at hmem
            exact hmem
          refine importedPlaneValid_fits hi (hbounded i (.inl himported)) ?_
            (List.all_eq_true.mp hvalid i hmem)
          rw [hw, hh]
          exact hsmall
      · cases himport

/-! ## Reaching the memory of an import -/

theorem importMemory_planes {d : NVDriver} {img img' : BackingImage} {legacyPrime : Bool}
    {answer : ImportAnswer} (himport : importMemory d img legacyPrime answer = some img') :
    SamePlanes img img' := by
  have hnative : ∀ {img'}, directImportBackingImage d.driverContext img legacyPrime
      answer.nativeImport = some img' → SamePlanes img img' := by
    intro img' hdirect
    unfold directImportBackingImage at hdirect
    simp only at hdirect
    repeat' split at hdirect
    all_goals first
      | (cases hdirect
         exact ⟨⟨rfl, rfl, rfl, rfl, rfl, rfl, rfl⟩, rfl, fun _ _ => rfl, fun _ _ => rfl⟩)
      | cases hdirect
  have hcuda : ∀ {img'}, importExternalBuffersToCuda img answer.cudaMapping = some img' →
      SamePlanes img img' := by
    intro img' hmapped
    unfold importExternalBuffersToCuda at hmapped
    split at hmapped
    · cases hmapped
    · cases hmapped
      exact ⟨⟨rfl, rfl, rfl, rfl, rfl, rfl, rfl⟩, rfl, fun _ _ => rfl, fun _ _ => rfl⟩
  have hhost : ∀ {img'}, mapExternalBacking img answer.hostMapping = some img' →
      SamePlanes img img' := by
    intro img' hmapped
    unfold mapExternalBacking at hmapped
    split at hmapped
    · cases hmapped
    · cases hmapped
      exact ⟨⟨rfl, rfl, rfl, rfl, rfl, rfl, rfl⟩, rfl, fun _ _ => rfl, fun _ _ => rfl⟩
  rcases importMemory_cases himport with hway | hway | hway
  · exact hnative hway
  · exact hcuda hway
  · exact hhost hway

theorem recoverModifier_planes (legacyPrime : Bool) (existing img : BackingImage) :
    SamePlanes img (recoverModifier legacyPrime existing img) := by
  unfold recoverModifier
  split
  · exact ⟨⟨rfl, rfl, rfl, rfl, rfl, rfl, rfl⟩, rfl, fun _ _ => rfl, fun _ _ => rfl⟩
  · exact SamePlanes.refl img

/-- An image that is borrowed has its planes where the import has them. -/
theorem borrowBackingImage_planes {k : Kernel} {existing img : BackingImage}
    (hmatch : backingImageMatchesImportedLayout k existing img = true) (id : ImageId) :
    SamePlanes img (borrowBackingImage id existing img) := by
  unfold backingImageMatchesImportedLayout at hmatch
  simp only [Bool.and_eq_true, decide_eq_true_eq] at hmatch
  obtain ⟨⟨⟨hformat, -⟩, -⟩, hplanes⟩ := hmatch
  have hplane : ∀ i < (formatsInfo img.format).numPlanes,
      img.offsets i = existing.offsets i ∧ img.strides i = existing.strides i := by
    intro i hi
    have hmem : i ∈ List.range (formatsInfo existing.format).numPlanes :=
      List.mem_range.mpr (hformat ▸ hi)
    have hequal := List.all_eq_true.mp hplanes i hmem
    unfold planeMatchesImport at hequal
    simp only [Bool.and_eq_true, decide_eq_true_eq] at hequal
    exact ⟨hequal.1.1.2, hequal.1.2⟩
  refine ⟨⟨rfl, rfl, rfl, rfl, rfl, rfl, rfl⟩, rfl, fun i hi => ?_, fun i hi => ?_⟩
  · show (if i < (formatsInfo img.format).numPlanes then existing.offsets i else _) = _
    rw [if_pos hi, (hplane i hi).1]
  · show (if i < (formatsInfo img.format).numPlanes then existing.strides i else _) = _
    rw [if_pos hi, (hplane i hi).2]

end Surface
end NvidiaVaapi
