import NvidiaVaapi.Direct.ImportOwnership

/-!
# The accounts of a call that makes an image

Whatever the kernel and CUDA answer to an allocation or an import, each descriptor that it opens
is closed once or handed over to CUDA once, or belongs to one field of the image; and so does
each object of CUDA, which only the image keeps.
-/

namespace NvidiaVaapi
namespace Direct

open ResourceProgram
open Surface (ImageId ImportedSurface NVDExportLayout NVDriverContext NVSurface VASurfaceAttrib
  importedSurfaceSelectIndex importedSurfaceSelectIndex_bounded parseSurfaceImportAttributes
  parseSurfaceImportAttributes_bounded)

variable {context : NVDriverContext}

variable (context) in
/-- The calls that make a backing image: the allocation in each layout, and the import of a
surface of a parsed list of attributes, beside any image that the search may find. -/
inductive MakesImage : Program (Option BackingImage) → Prop
  | allocated (layout : NVDExportLayout) (surface : NVSurface) :
      MakesImage (directAllocateBackingImageImpl context layout surface)
  | imported (attribList : List VASurfaceAttrib) (surfaceIndex numSurfaces : Nat)
      (imported : ImportedSurface)
      (hselect : importedSurfaceSelectIndex (parseSurfaceImportAttributes attribList) surfaceIndex
        numSurfaces = some imported)
      (existing : Option (ImageId × Surface.BackingImage)) (width height : Nat) :
      MakesImage (createImportedBackingImageImpl context existing imported width height)

/-- At every moment of a call, what has been acquired has been ended once or is still held; only
descriptors are handed over.  A call without an image holds nothing at its end.  One with an
image holds what the fields of the image own, each resource in one field, and whoever destroys
the image releases all of that, and each once. -/
structure Accounted (outcome : Outcome Resource Question (Option BackingImage)) : Prop where
  ended : ∀ before, before <+: outcome.log → ∀ r,
    acquisitions r before = ends r before + holds (heldAfter ∅ before) r
  transferred : ∀ r, .transferred r ∈ outcome.log → ∃ fd, r = .descriptor fd
  failed : outcome.result = none → ∀ r, acquisitions r outcome.log = ends r outcome.log
  owned : ∀ img, outcome.result = some img → Owns img.field (heldAfter ∅ outcome.log)
  destroyed : ∀ img, outcome.result = some img → ∀ answers,
    Plausible Allowed (heldAfter ∅ outcome.log) ((destroyBackingImage img).run answers).log →
      ∀ r, acquisitions r (outcome.log ++ ((destroyBackingImage img).run answers).log) =
        ends r (outcome.log ++ ((destroyBackingImage img).run answers).log)

theorem MakesImage.owning {program : Program (Option BackingImage)}
    (hmakes : MakesImage context program) : Owning program ∅ Settled := by
  cases hmakes with
  | allocated layout surface => exact owning_directAllocateBackingImageImpl context layout surface
  | imported attribList surfaceIndex numSurfaces imported hselect existing width height =>
      have hvalid : (parseSurfaceImportAttributes attribList).valid = true := by
        unfold importedSurfaceSelectIndex at hselect
        split at hselect
        · cases hselect
        · rename_i hvalid
          rw [not_or, not_not] at hvalid
          exact hvalid.1
      have hbounded := importedSurfaceSelectIndex_bounded
        (parseSurfaceImportAttributes_bounded hvalid) hselect
      exact owning_createImportedBackingImageImpl context existing hbounded width height

/-- A log at whose end nothing is held has ended all that was acquired. -/
theorem all_ended {log : List (ResourceEvent Resource Question)} (hgiven : Plausible Allowed ∅ log)
    (hsound : Sound Transferable ∅ log) (hnothing : heldAfter ∅ log = ∅) (r : Resource) :
    acquisitions r log = ends r log := by
  have hended := ended_once hgiven hsound (List.prefix_refl log) r
  rw [hnothing] at hended
  exact hended.trans (congrArg (ends r log + ·) (if_neg (Set.notMem_empty r)))

theorem makesImage_accounted {program : Program (Option BackingImage)}
    (hmakes : MakesImage context program) {answers : Nat → Option Nat}
    (hgiven : Plausible Allowed ∅ (program.run answers).log) :
    Accounted (program.run answers) := by
  obtain ⟨hsound, hsettled⟩ := hmakes.owning answers hgiven
  refine ⟨fun before hbefore => ended_once hgiven hsound hbefore,
    fun r hr => transferable_of_sound hsound hr, ?_, ?_, ?_⟩
  · intro hresult
    rw [hresult] at hsettled
    generalize hheld : heldAfter ∅ (program.run answers).log = held at hsettled
    cases hsettled
    exact all_ended hgiven hsound hheld
  · intro img hresult
    rw [hresult] at hsettled
    cases hsettled with
    | owned howns _ => exact howns
  · intro img hresult answers' hgiven'
    rw [hresult] at hsettled
    cases hsettled with
    | owned howns hdisposable =>
        obtain ⟨hsound', hnothing⟩ := hdisposable _ howns answers' hgiven'
        refine all_ended ((plausible_append _ _ _).mpr ⟨hgiven, hgiven'⟩)
          ((sound_append _ _ _).mpr ⟨hsound, hsound'⟩) ?_
        rw [heldAfter_append]
        exact hnothing

/-- The answers that give everything, with the flag clear. -/
def packedAnswers (i : Nat) : Option Nat :=
  if i = 0 then none else some i

theorem packed_log :
    ((directAllocateBackingImageImpl {} .packed { width := 64, height := 64 }).run
      packedAnswers).log =
    [.answered .cudaWorkUnsafe none, .answered .calloc (some 1),
      .answered .initBackingImageSync (some 2), .answered .nvAllocObject (some 3),
      .acquired (.descriptor 4), .answered .nvAttachGpus (some 5),
      .answered .nvExportObjectToFd (some 6), .answered .nvFreeObject (some 7),
      .acquired (.descriptor 8), .answered .drmIoctl (some 9), .acquired (.descriptor 10),
      .answered .drmIoctl (some 11), .acquired (.externalMemory 12),
      .transferred (.descriptor 4), .released (.descriptor 8), .acquired (.mipmappedArray 13),
      .answered .cuMipmappedArrayGetLevel (some 14), .acquired (.mipmappedArray 15),
      .answered .cuMipmappedArrayGetLevel (some 16), .answered .clearBackingImage (some 17)] := by
  rfl

theorem makesImage_accounted_packed :
    Accounted ((directAllocateBackingImageImpl {} .packed { width := 64, height := 64 }).run
      packedAnswers) := by
  refine makesImage_accounted (.allocated .packed _) ?_
  rw [packed_log]
  simp [Plausible, Allowed]

end Direct
end NvidiaVaapi
