import NvidiaVaapi.Surface.ImageList
import NvidiaVaapi.Surface.LayoutSoundness
import NvidiaVaapi.Surface.Ranges

/-!
# Imported surfaces stay in range

An import is attached to the surface for which it was laid out, so that in every run the external
images fit their surfaces; no copy of such a surface leaves the objects of its descriptor.
-/

namespace NvidiaVaapi
namespace Surface

/-- A surface that passes the checks is small, also where its size is rounded up. -/
theorem checkSurfaces_small {format : RTFormat} {width height numSurfaces : Nat}
    {attribList : List VASurfaceAttrib} {surface : NVSurface} {imported : ImportedSurface}
    (hcheck : NVDriver.checkSurfaces format width height numSurfaces attribList =
      .ok (surface, imported)) : SmallSurface surface := by
  obtain ⟨hsize, hcheck⟩ := ok_of_guard hcheck
  have hround : ∀ {n : Nat}, n ≤ uint16Max → n ≠ 0 →
      (roundUp n 2 ≤ 2 ^ 16 ∧ 0 < roundUp n 2) ∧ n ≤ 2 ^ 16 ∧ 0 < n := by
    intro n hle hpos
    unfold roundUp uint16Max at *
    omega
  have hwidth := hround (n := width) (by omega) (by omega)
  have hheight := hround (n := height) (by omega) (by omega)
  have himport := (ok_of_guard (ok_of_guard (ok_of_guard (ok_of_guard hcheck).2).2).2).2
  cases hformat : format.surfaceFormat with
  | none =>
      rw [hformat] at himport
      cases himport
  | some found =>
      obtain ⟨nvFormat, chromaFormat, bitDepth⟩ := found
      rw [hformat] at himport
      cases (ok_of_guard (ok_of_guard himport).2).2
      by_cases hchroma : chromaFormat = .chroma420
      · refine ⟨?_, ?_, ?_⟩ <;> dsimp only <;> rw [if_pos hchroma]
        exacts [hwidth.1.1, hheight.1.2, hheight.1.1]
      · refine ⟨?_, ?_, ?_⟩ <;> dsimp only <;> rw [if_neg hchroma]
        exacts [hwidth.2.1, hheight.2.2, hheight.2.1]

namespace Ranges

variable {d d' : NVDriver} {s : SurfaceId} {id : ImageId} {img img' : BackingImage}
  {surface : NVSurface} {imported : ImportedSurface}

/-! ## Imports -/

/-- The import after the search for an image to borrow is where it was. -/
theorem borrowExisting (h : Ranges d) {found : Option ImageId} {legacyPrime : Bool}
    {result : Option (ImageId × BackingImage)}
    (hborrow : d.borrowExisting found legacyPrime img = (result, img', d')) :
    Ranges d' ∧ d'.surfaces = d.surfaces ∧ SamePlanes img img' ∧
    ∀ id existing, result = some (id, existing) →
      SamePlanes img' (borrowBackingImage id existing img') := by
  unfold NVDriver.borrowExisting at hborrow
  split at hborrow
  · cases hborrow
    exact ⟨h, rfl, SamePlanes.refl _, nofun⟩
  · rename_i id
    have hretained : Steady d (d.retainBackingImage id) :=
      Steady.modifyImage d id fun _ => ⟨_, _, _, _, rfl⟩
    have hsurfaces : (d.retainBackingImage id).surfaces = d.surfaces := modifyImage_surfaces ..
    simp only at hborrow
    split at hborrow
    · cases hborrow
      exact ⟨h.steady hretained, hsurfaces, SamePlanes.refl _, nofun⟩
    · rename_i existing _
      have hrecovered := recoverModifier_planes legacyPrime existing img
      split at hborrow
      · rename_i hmatch
        cases hborrow
        refine ⟨h.steady hretained, hsurfaces, hrecovered, ?_⟩
        rintro _ _ ⟨⟩
        exact borrowBackingImage_planes hmatch id
      · cases hborrow
        have hdropped : Steady (d.retainBackingImage id)
            ((d.retainBackingImage id).dropBackingImage id) :=
          Steady.modifyImage _ id fun _ => ⟨_, _, _, _, rfl⟩
        exact ⟨h.steady (hretained.trans hdropped), (modifyImage_surfaces ..).trans hsurfaces,
          hrecovered, nofun⟩

/-- `createImportedBackingImageImpl`: the image has the size that is asked for. -/
theorem createImported (h : Ranges d) {width height : Nat} {answer : ImportAnswer}
    {result : Option ImageId} (hsmall : width ≤ 2 ^ 16 ∧ height ≤ 2 ^ 16)
    (hcreate : d.createImportedBackingImageImpl imported width height answer = (result, d')) :
    Ranges d' ∧ d'.surfaces = d.surfaces ∧ ∀ id, result = some id →
      ∃ img, d'.heap.get id = some img ∧ img.width = width ∧ img.height = height := by
  unfold NVDriver.createImportedBackingImageImpl at hcreate
  simp only at hcreate
  split at hcreate
  · cases hcreate
    exact ⟨h, rfl, nofun⟩
  · split at hcreate
    · cases hcreate
      exact ⟨h.steady (Steady.of_eq rfl rfl), rfl, nofun⟩
    · rename_i img k himage
      obtain ⟨hfits, hwidth, hheight⟩ := importedImage_fits hsmall himage
      have hopened : Ranges { d with kernel := k } := h.steady (Steady.of_eq rfl rfl)
      generalize hfound : { d with kernel := k }.findBackingImageByFd (imported.objects 0).fd
        (nvFormatFromSurfaceFourcc imported.pixelFormat) width height = found at hcreate
      cases hborrow : { d with kernel := k }.borrowExisting found imported.legacyPrime img with
      | mk borrowed rest =>
        obtain ⟨img', d1⟩ := rest
        rw [hborrow] at hcreate
        obtain ⟨hranges, hsurfaces, hplanes, hborrowed⟩ := hopened.borrowExisting hborrow
        have hfits' := hfits.congr hplanes
        have hwidth' := hplanes.width.trans hwidth
        have hheight' := hplanes.height.trans hheight
        cases borrowed with
        | some borrowed =>
            obtain ⟨id, existing⟩ := borrowed
            have hsame := hborrowed id existing rfl
            cases hcreate
            refine ⟨hranges.pushImage (hfits'.congr hsame) d1.kernel d1.cudaWorkUnsafe,
              hsurfaces, ?_⟩
            rintro _ ⟨⟩
            exact ⟨_, SlotTable.get_push_length, hwidth', hheight'⟩
        | none =>
            simp only at hcreate
            split at hcreate
            · rename_i img'' hmemory
              have hsame := importMemory_planes hmemory
              cases hcreate
              refine ⟨hranges.pushImage (hfits'.congr hsame) d1.kernel d1.cudaWorkUnsafe,
                hsurfaces, ?_⟩
              rintro _ ⟨⟩
              exact ⟨_, SlotTable.get_push_length, hsame.width.trans hwidth',
                hsame.height.trans hheight'⟩
            · cases hcreate
              exact ⟨hranges.steady (Steady.of_eq rfl rfl), hsurfaces, nofun⟩

theorem attachImported (h : Ranges d) (hget : d.heap.get id = some img)
    (hsize : ∀ surface, d.surfaces.get s = some surface → SameSize surface img) :
    Ranges (d.attachImported s id) := by
  have hattached := h.attach hget fun _ => hsize
  exact (hattached.steady (Steady.modifyImage _ id (f := fun img => { img with surface := some s })
    fun _ => ⟨_, _, _, _, rfl⟩)).steady (Steady.of_eq rfl rfl)

/-! ## Calls -/

/-- One round of the loop of `nvCreateSurfaces2`. -/
theorem createSurface (h : Ranges d) (hsmall : SmallSurface surface)
    (hnone : surface.backingImage = none) {importSurface : Bool}
    {selected : Option ImportedSurface} {answer : NVDriver.SurfaceAnswer}
    {result : Option SurfaceId} {last : List SurfaceId}
    (hcreate : d.createSurface surface importSurface selected answer = (result, last, d')) :
    Ranges d' := by
  have hpushed := h.pushSurface hsmall hnone
  unfold NVDriver.createSurface at hcreate
  split at hcreate
  · cases hcreate
    exact h
  · simp only at hcreate
    split at hcreate
    · cases hcreate
      have hcleared := hpushed.steady (Steady.clearSurface _ d.surfaces.length)
      exact hcleared
    · split at hcreate
      · cases hcreate
        exact hpushed
      · split at hcreate
        · cases hcreate
          exact hpushed
        · rename_i imported
          split at hcreate
          · rename_i id d1 himport
            obtain ⟨hranges, hsurfaces, himage⟩ :=
              hpushed.createImported ⟨hsmall.width, hsmall.height⟩ himport
            obtain ⟨img, hget, hwidth, hheight⟩ := himage id rfl
            cases hcreate
            refine hranges.attachImported hget fun x hx => ?_
            rw [hsurfaces] at hx
            change (d.surfaces.push surface).get d.surfaces.length = some x at hx
            rw [SlotTable.get_push_length] at hx
            cases hx
            exact ⟨hwidth, hheight⟩
          · rename_i d1 himport
            cases hcreate
            exact (hpushed.createImported ⟨hsmall.width, hsmall.height⟩ himport).1

/-- The loop of `nvCreateSurfaces2`. -/
theorem createSurfacesLoop (hsmall : SmallSurface surface) (hnone : surface.backingImage = none)
    {numSurfaces : Nat} {answers : Nat → NVDriver.SurfaceAnswer} {rest : Nat}
    {created : List SurfaceId} (h : Ranges d) {result : Option (List SurfaceId)}
    (hloop : NVDriver.createSurfacesLoop surface imported numSurfaces answers rest created d =
      (result, d')) : Ranges d' := by
  induction rest generalizing created d with
  | zero =>
      cases hloop
      exact h
  | succ rest ih =>
      unfold NVDriver.createSurfacesLoop at hloop
      simp only at hloop
      split at hloop
      · rename_i s last d1 hcreate
        exact ih (h.createSurface hsmall hnone hcreate) hloop
      · rename_i last d1 hcreate
        cases hloop
        exact (h.createSurface hsmall hnone hcreate).steady (Steady.releaseSurfaces _ _)

theorem nvCreateSurfaces2 (h : Ranges d) (format : RTFormat) (width height numSurfaces : Nat)
    (attribList : List VASurfaceAttrib) (answer : NVDriver.CreateAnswer) :
    Ranges (d.nvCreateSurfaces2 format width height numSurfaces attribList answer).2 := by
  unfold NVDriver.nvCreateSurfaces2
  split
  · exact h
  · rename_i surface imported hcheck
    have hsmall := checkSurfaces_small hcheck
    have hnone := (checkSurfaces_spec hcheck).1
    split
    · exact h
    · split
      · rename_i d1 hloop
        exact createSurfacesLoop hsmall hnone h hloop
      · rename_i created d1 hloop
        have hcreated := createSurfacesLoop hsmall hnone h hloop
        split
        · exact hcreated.steady (Steady.releaseSurfaces _ _)
        · exact hcreated

theorem nvExportSurfaceHandle (h : Ranges d) (s : SurfaceId) (answer : NVDriver.RealiseAnswer) :
    Ranges (d.nvExportSurfaceHandle s answer).2 := by
  unfold NVDriver.nvExportSurfaceHandle
  split
  · exact h
  · have hrealised := h.realiseSurface s answer
    split
    · rename_i d1 hanswer
      rw [hanswer] at hrealised
      exact hrealised
    · rename_i d1 hanswer
      rw [hanswer] at hrealised
      split
      · exact hrealised
      · rename_i surface img _
        have hfilled := hrealised.steady (Steady.fillExportDescriptor d1 surface img)
        split
        · rename_i d2 hfill
          rw [hfill] at hfilled
          exact hfilled
        · rename_i desc d2 hfill
          rw [hfill] at hfilled
          exact hfilled

/-- One step. -/
theorem step (h : Ranges d) (a : Label) : Ranges (step d a) := by
  cases a with
  | createSurfaces format width height numSurfaces attribList answer =>
      exact h.nvCreateSurfaces2 format width height numSurfaces attribList answer
  | realiseSurface s answer => exact h.realiseSurface s answer
  | exportSurfaceHandle s answer => exact h.nvExportSurfaceHandle s answer
  | destroySurfaces list => exact h.steady (Steady.nvDestroySurfaces d list)
  | pruneToMemoryBudget extraGpuBytes =>
      exact h.steady (Steady.pruneToMemoryBudget d extraGpuBytes)
  | resizeScratch y uv argb => exact h.steady (Steady.of_eq rfl rfl)
  | loseGpu => exact h.steady (Steady.of_eq rfl rfl)
  | openFile dev size seekEnd => exact h.steady (Steady.of_eq rfl rfl)
  | duplicateFile fd => exact h.steady (Steady.of_eq rfl rfl)
  | closeFile fd =>
      show Ranges (d.closeOwn fd)
      unfold NVDriver.closeOwn
      split
      · exact h
      · exact h.steady (Steady.of_eq rfl rfl)

theorem initial (hinitial : Initial d) : Ranges d := by
  have hheap : ∀ id : ImageId, d.heap.get id = none := by
    rw [hinitial.heap]
    exact fun _ => rfl
  have hsurfaces : ∀ s : SurfaceId, d.surfaces.get s = none := by
    rw [hinitial.surfaces]
    exact fun _ => rfl
  refine ⟨fun id img hget => ?_, fun s surface hsurface => ?_, fun s surface id hsurface => ?_,
    fun s surface id img hsurface => ?_⟩
  · rw [hheap] at hget
    cases hget
  all_goals
    rw [hsurfaces] at hsurface
    cases hsurface

/-- Every run. -/
theorem run {initial d : NVDriver} (hinitial : Initial initial)
    (hreach : (surfaceDriver initial).Reachable d) : Ranges d := by
  refine LabelledSystem.invariant (Ranges.initial hinitial) ?_ hreach
  rintro d a _ h - ⟨⟩
  exact h.step a

end Ranges

/-! ## The surfaces of a run -/

/-- The layout that `direct_importBackingImage` compares an import with is the exact one. -/
theorem unifiedLayout64_exact {width height : Nat} (hwidth : width < 2 ^ 32)
    (hheight : height < 2 ^ 32) (context : NVDriverContext) (format : NVFormat) :
    calculateUnifiedImageLayout64 context width height (formatsInfo format).bppc
        (formatsInfo format).plane true =
      calculateUnifiedImageLayout context width height (formatsInfo format) true := by
  rw [unifiedLayout64_eq hwidth hheight]
  cases format <;> rfl

/-- Whatever is imported and whatever happens to it: the resolve copy, the readbacks and the
blits and conversions of VideoProc touch no byte of a plane of an imported surface that is not
one of its object, and nothing that is computed for the checks or on the way wraps. -/
theorem imported_surface_inRange {initial d : NVDriver} (hinitial : Initial initial)
    (hreach : (surfaceDriver initial).Reachable d) {s : SurfaceId} {surface : NVSurface}
    {img : BackingImage} (himage : d.surfaceImage s = some (surface, img))
    (hexternal : img.isExternalBuffer = true) :
    (∀ context, calculateUnifiedImageLayout64 context img.width img.height
        (formatsInfo img.format).bppc (formatsInfo img.format).plane true =
      calculateUnifiedImageLayout context img.width img.height (formatsInfo img.format) true) ∧
    ∀ i < (formatsInfo img.format).numPlanes, PlaneInRange surface img i := by
  have h := Ranges.run hinitial hreach
  obtain ⟨hsurface, id, hback, hget⟩ := surfaceImage_eq.mp himage
  obtain ⟨hwidth, hpositive, hheight⟩ := h.small s surface hsurface
  have hsame := h.same s surface id img hsurface hback hget hexternal
  constructor
  · have hw := hsame.width
    have hh := hsame.height
    exact fun context => unifiedLayout64_exact (by omega) (by omega) context img.format
  · intro i hi
    exact (h.fits id img hget hexternal i hi).inRange hi hsame ⟨hwidth, hpositive, hheight⟩

/-- A linear frame of 64 by 64 in one object, with rows of 128 bytes. -/
def pitchedFrame (fd : Nat) : List VASurfaceAttrib :=
  [⟨.memoryType, .integer memTypeDrmPrime2⟩,
    ⟨.externalBufferDescriptor, .pointer (some { prime2 :=
      { fourcc := vaFourccNV12, width := 64, height := 64, numObjects := 1
        objects := fun _ => ⟨fd, 12288, drmFormatModLinear⟩
        numLayers := 2
        layers := fun i =>
          { numPlanes := 1, offset := fun _ => i * 8192, pitch := fun _ => 128 } } })⟩]

/-- The application imports the frame from a file of its own. -/
def importScenario : (surfaceDriver eglDriver).Scenario (fun _ _ => True) fun d =>
    (d.surfaceImage 0).any fun owned =>
      owned.2.isExternalBuffer && (formatsInfo owned.2.format).numPlanes = 2 where
  labels := [.openFile dmaBufDev 12288 12288,
    .createSurfaces .yuv420 64 64 1 (pitchedFrame 0) {}]
  enabled := by decide +kernel
  ends := by decide +kernel

/-- Both planes of that frame are in range. -/
theorem imported_surface_inRange_pitched :
    ∃ surface img, ((surfaceDriver eglDriver).after importScenario.labels).surfaceImage 0 =
        some (surface, img) ∧ (formatsInfo img.format).numPlanes = 2 ∧
      ∀ i < 2, PlaneInRange surface img i := by
  have hends := importScenario.ends
  cases himage : ((surfaceDriver eglDriver).after importScenario.labels).surfaceImage 0 with
  | none =>
      rw [himage] at hends
      cases hends
  | some owned =>
      obtain ⟨surface, img⟩ := owned
      rw [himage] at hends
      obtain ⟨hexternal, hplanes⟩ := Bool.and_eq_true_iff.mp hends
      have hcount : (formatsInfo img.format).numPlanes = 2 := of_decide_eq_true hplanes
      have hrange := imported_surface_inRange eglDriver_initial importScenario.reachable himage
        hexternal
      exact ⟨surface, img, rfl, hcount, fun i hi => hrange.2 i (by omega)⟩
end Surface
end NvidiaVaapi
