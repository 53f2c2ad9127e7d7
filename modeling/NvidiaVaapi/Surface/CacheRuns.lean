import NvidiaVaapi.Lib.LabelledSystem
import NvidiaVaapi.Surface.ImportBounds
import NvidiaVaapi.Surface.ImportSteps

/-!
# Runs of the driver keep the invariant

Surfaces are created, also by imports and with a rollback of those made so far, and released;
every step keeps the invariant, but for those of the EGL backend that free a listed image.
-/

namespace NvidiaVaapi
namespace Surface

/-! ## Taking a surface off its image -/

/-- What detaching the image of a surface leaves alone. -/
structure Detached (s : SurfaceId) (d d' : NVDriver) : Prop where
  others : ∀ other, other ≠ s → d'.surfaces.get other = d.surfaces.get other
  cleared : ∀ surface, d'.surfaces.get s = some surface → surface.backingImage = none
  survivors : Survivors d d'

namespace Detached

variable {w : Watch} {d d' : NVDriver} {s : SurfaceId} {id : ImageId} {img : BackingImage}

/-- A surface without an image. -/
theorem unchanged (hnone : (d.surfaces.get s).bind NVSurface.backingImage = none) :
    Detached s d d := by
  refine ⟨fun _ _ => rfl, fun surface hsurface => ?_, Survivors.of_eq rfl⟩
  rw [hsurface] at hnone
  exact hnone

/-- The surface is cleared after other surfaces were left alone. -/
theorem clear (hothers : ∀ other, other ≠ s → d'.surfaces.get other = d.surfaces.get other)
    (hsurvivors : Survivors d d') : Detached s d (d'.clearBackingImage s) := by
  refine ⟨fun other hne => ?_, fun _ => backingImage_of_clear,
    hsurvivors.trans (Survivors.clearBackingImage d' s)⟩
  unfold NVDriver.clearBackingImage
  rw [get_modifySurface, if_neg hne]
  exact hothers other hne

/-- Nothing changes of the surfaces afterwards. -/
theorem after {d'' : NVDriver} (h : Detached s d d') (hsurfaces : d''.surfaces = d'.surfaces)
    (hsurvivors : Survivors d' d'') : Detached s d d'' := by
  refine ⟨?_, ?_, h.survivors.trans hsurvivors⟩
  · rw [hsurfaces]
    exact h.others
  · rw [hsurfaces]
    exact h.cleared

/-- Destroying the image of a surface changes no other surface. -/
theorem forget_others (hs : img.surface = some s) {other : SurfaceId} (hne : other ≠ s) :
    (d.forgetSurface img).surfaces.get other = d.surfaces.get other := by
  unfold NVDriver.forgetSurface
  rw [hs]
  simp only
  rw [get_modifySurface, if_neg hne]

theorem direct (h : CacheInv w none none d) (s : SurfaceId) :
    Detached s d (d.directDetachBackingImageFromSurface s) := by
  unfold NVDriver.directDetachBackingImageFromSurface
  split
  · rename_i hnone
    exact unchanged hnone
  · rename_i id hbacking
    split
    · rename_i hdead
      obtain ⟨surface, hsurface, himage⟩ := Option.bind_eq_some_iff.mp hbacking
      obtain ⟨x, hx, -⟩ := h.tied s surface id nofun hsurface himage
      rw [hdead] at hx
      cases hx
    · rename_i img hget
      have hback := h.image_surface hbacking hget
      split
      · refine clear (fun other hne => ?_) (Survivors.destroyBackingImage d id)
        rcases destroyBackingImage_surfaces hget with hforget | ⟨-, hkept⟩
        · rw [hforget]
          exact forget_others hback hne
        · rw [hkept]
      · unfold NVDriver.pruneDetachedBackingImagesToLimits
        refine Detached.after (clear (fun other _ => ?_) ?_) (pruneWhile_frame _ _ _).1
          (pruneWhile_frame _ _ _).2
        · show (NVDriver.modifyImage _ id _).surfaces.get other = _
          rw [modifyImage_surfaces]
        · have hmodified := Survivors.modifyImage
            { d with detachedBackingImageSerial := d.detachedBackingImageSerial + 1 } id
            (f := fun img => { img with
              surface := none, detachedSerial := d.detachedBackingImageSerial + 1 })
            fun _ => ⟨_, _, _, _, rfl⟩
          exact hmodified

theorem egl (h : CacheInv w none none d) (s : SurfaceId) :
    Detached s d (d.eglDetachBackingImageFromSurface s) := by
  unfold NVDriver.eglDetachBackingImageFromSurface
  split
  · rename_i hnone
    exact unchanged hnone
  · rename_i id hbacking
    split
    · rename_i hdead
      obtain ⟨surface, hsurface, himage⟩ := Option.bind_eq_some_iff.mp hbacking
      obtain ⟨x, hx, -⟩ := h.tied s surface id nofun hsurface himage
      rw [hdead] at hx
      cases hx
    · rename_i img hget
      have hback := h.image_surface hbacking hget
      refine Detached.after ?_ (eglPruneDetached_frame _ _).1 (eglPruneDetached_frame _ _).2
      split
      · refine clear (fun other hne => ?_) (Survivors.eglDestroyBackingImage d id)
        rcases eglDestroyBackingImage_surfaces hget with hforget | ⟨-, hkept⟩
        · rw [hforget]
          exact forget_others hback hne
        · rw [hkept]
      · unfold NVDriver.eglDetachOwned
        split
        · exact clear (fun _ _ => rfl) (Survivors.of_eq rfl)
        · split
          · exact clear (fun _ _ => rfl) (Survivors.of_eq rfl)
          · rename_i other _ _ x _
            refine clear (fun _ _ => by rw [modifyImage_surfaces]) ?_
            have hmodified := Survivors.modifyImage { d with
              detachedBackingImageSerial := d.detachedBackingImageSerial + 1
              detachedBackingImageCount := d.detachedBackingImageCount + 1
              detachedBackingImageBytes :=
                d.detachedBackingImageBytes + NVDriver.eglBackingImageMemorySize x } other
              (f := fun img => { img with
                surface := none, detachedSerial := d.detachedBackingImageSerial + 1 })
              fun _ => ⟨_, _, _, _, rfl⟩
            exact hmodified

end Detached

/-- A release of the surface would free an NV21 image of its own: the EGL backend does so
without taking the image out of the array. -/
def NVDriver.freesListed (d : NVDriver) (s : SurfaceId) : Bool :=
  d.backend = .egl && (d.surfaceImage s).any fun owned =>
    !owned.2.isExternalBuffer && owned.2.fourcc = drmFormatNV21

/-- Nothing that a release leaves of a surface and its image makes it free a listed image. -/
theorem freesListed_of_detached {d d' : NVDriver} {s other : SurfaceId}
    (hbackend : d'.backend = d.backend)
    (hothers : ∀ other, other ≠ s → d'.surfaces.get other = d.surfaces.get other)
    (hnone : d'.surfaces.get s = none) (hsurvivors : Survivors d d')
    (hfree : d.freesListed other = false) : d'.freesListed other = false := by
  cases hpair : d'.surfaceImage other with
  | none =>
      unfold NVDriver.freesListed
      rw [hpair]
      simp
  | some owned =>
      obtain ⟨surface, x⟩ := owned
      obtain ⟨hsurface, id, hbacking, hx⟩ := surfaceImage_eq.mp hpair
      have hne : other ≠ s := by
        rintro rfl
        rw [hnone] at hsurface
        cases hsurface
      obtain ⟨y, hy, hlayout⟩ := hsurvivors id x hx
      have hbefore : d.surfaceImage other = some (surface, y) :=
        surfaceImage_eq.mpr ⟨hothers other hne ▸ hsurface, id, hbacking, hy⟩
      obtain ⟨_, _, _, _, rfl⟩ := hlayout
      unfold NVDriver.freesListed at hfree ⊢
      rw [hbefore, ← hbackend] at hfree
      rw [hpair]
      exact hfree

namespace CacheInv

variable {w : Watch} {d d' : NVDriver} {id : ImageId} {s : SurfaceId} {img : BackingImage}

/-- Releasing a surface, unless that frees a listed image. -/
theorem releaseSurface (hfit : Fitting w) (h : CacheInv w none none d)
    (hfree : d.freesListed s = false) :
    CacheInv w none none (d.releaseSurface s) ∧
    (∀ other, other ≠ s → (d.releaseSurface s).surfaces.get other = d.surfaces.get other) ∧
    (d.releaseSurface s).surfaces.get s = none ∧ Survivors d (d.releaseSurface s) := by
  have hfinish : ∀ {d'}, CacheInv w none none d' → Detached s d d' →
      CacheInv w none none { d' with surfaces := d'.surfaces.clear s } ∧
      (∀ other, other ≠ s → (d'.surfaces.clear s).get other = d.surfaces.get other) ∧
      (d'.surfaces.clear s).get s = none ∧
      Survivors d { d' with surfaces := d'.surfaces.clear s } := by
    intro d' hinv hdetached
    refine ⟨hinv.clearSurface fun hsafe => (hinv.listed hsafe).surface_ne hdetached.cleared,
      fun other hne => ?_, SlotTable.get_clear, hdetached.survivors⟩
    rw [SlotTable.get_clear_of_ne hne]
    exact hdetached.others other hne
  unfold NVDriver.releaseSurface
  simp only
  split
  · unfold NVDriver.detachBackingImageFromSurface
    split
    · exact hfinish (h.directDetach hfit) (Detached.direct h s)
    · rename_i hegl
      refine hfinish (h.eglDetach hfit ?_) (Detached.egl h s)
      intro surface img hpair howned hnv21
      unfold NVDriver.freesListed at hfree
      rw [hpair, hegl] at hfree
      simp [howned, hnv21] at hfree
  · rename_i hnot
    exact hfinish h (Detached.unchanged (by simpa using hnot))

/-- Releasing the surfaces of a list in turn. -/
theorem releaseSurfaces (hfit : Fitting w) (list : List SurfaceId)
    (h : CacheInv w none none d) (hfree : ∀ s ∈ list, d.freesListed s = false) :
    CacheInv w none none (d.releaseSurfaces list) := by
  induction list generalizing d with
  | nil => exact h
  | cons s rest ih =>
      obtain ⟨hinv, hothers, hnone, hsurvivors⟩ :=
        h.releaseSurface hfit (hfree s List.mem_cons_self)
      refine ih hinv fun other hmem => ?_
      exact freesListed_of_detached (hinv.backend.trans h.backend.symm) hothers hnone hsurvivors
        (hfree other (List.mem_cons_of_mem _ hmem))

end CacheInv

/-! ## Creating surfaces -/

/-- A surface in memory that has no image, or an imported one. -/
def Fresh (d : NVDriver) (s : SurfaceId) : Prop :=
  ∃ surface, d.surfaces.get s = some surface ∧ ∀ id, surface.backingImage = some id →
    ∃ img, d.heap.get id = some img ∧ img.isExternalBuffer = true

theorem Fresh.after {d d' : NVDriver} {s : SurfaceId} (h : Fresh d s)
    (hsurfaces : ∀ s surface, d.surfaces.get s = some surface → d'.surfaces.get s = some surface)
    (hextends : Extends d d') : Fresh d' s := by
  obtain ⟨surface, hsurface, himage⟩ := h
  refine ⟨surface, hsurfaces s surface hsurface, fun id hbacking => ?_⟩
  obtain ⟨x, hx, hexternal⟩ := himage id hbacking
  obtain ⟨y, hy, _, _, _, _, rfl⟩ := hextends id x hx
  exact ⟨_, hy, hexternal⟩

theorem Fresh.freesListed {d : NVDriver} {s : SurfaceId} (h : Fresh d s) :
    d.freesListed s = false := by
  obtain ⟨surface, hsurface, himage⟩ := h
  unfold NVDriver.freesListed
  cases hpair : d.surfaceImage s with
  | none => simp
  | some owned =>
      obtain ⟨surface', x⟩ := owned
      obtain ⟨hsurface', id, hbacking, hx⟩ := surfaceImage_eq.mp hpair
      rw [hsurface] at hsurface'
      cases hsurface'
      obtain ⟨y, hy, hexternal⟩ := himage id hbacking
      rw [hx] at hy
      cases hy
      simp [hexternal]

/-- An imported image that is attached changes in its surface only. -/
theorem attachImported_extends (d : NVDriver) (s : SurfaceId) (id : ImageId) :
    Extends d (d.attachImported s id) := by
  have hmodified : Extends d (d.modifyImage id fun img => { img with surface := some s }) :=
    Extends.modifyImage d id fun _ => ⟨_, _, _, _, rfl⟩
  refine hmodified.trans (Extends.of_eq ?_)
  unfold NVDriver.attachImported NVDriver.note
  rw [modifySurface_modifyImage]
  exact modifySurface_heap _ _ _

theorem attachImported_surfaces {d : NVDriver} {s : SurfaceId} {surface : NVSurface}
    (hsurface : d.surfaces.get s = some surface) (id : ImageId) (t : SurfaceId) :
    (d.attachImported s id).surfaces.get t =
      if t = s then some { surface with backingImage := some id } else d.surfaces.get t := by
  unfold NVDriver.attachImported NVDriver.note
  rw [modifyImage_surfaces, get_modifySurface, hsurface]
  rfl

/-- A surface that passes the checks has no image yet, and the import is that of the
attributes. -/
theorem checkSurfaces_spec {format : RTFormat} {width height numSurfaces : Nat}
    {attribList : List VASurfaceAttrib} {surface : NVSurface} {imported : ImportedSurface}
    (hcheck : NVDriver.checkSurfaces format width height numSurfaces attribList =
      .ok (surface, imported)) :
    surface.backingImage = none ∧ imported = parseSurfaceImportAttributes attribList := by
  have himport := (ok_of_guard (ok_of_guard (ok_of_guard (ok_of_guard
    (ok_of_guard hcheck).2).2).2).2).2
  cases hformat : format.surfaceFormat with
  | none =>
      rw [hformat] at himport
      cases himport
  | some found =>
      obtain ⟨nvFormat, chromaFormat, bitDepth⟩ := found
      rw [hformat] at himport
      cases (ok_of_guard (ok_of_guard himport).2).2
      exact ⟨rfl, rfl⟩

/-- What the creation of one surface leaves of those before, and how the new one is. -/
structure Creation (w : Watch) (d d' : NVDriver) (created : List SurfaceId) : Prop where
  inv : CacheInv w none none d'
  surfaces : ∀ s surface, d.surfaces.get s = some surface → d'.surfaces.get s = some surface
  extends' : Extends d d'
  fresh : ∀ s ∈ created, Fresh d' s

namespace CacheInv

variable {w : Watch} {d d' : NVDriver} {id : ImageId} {s : SurfaceId} {img : BackingImage}
  {surface : NVSurface}

/-- One round of the loop of `nvCreateSurfaces2`. -/
theorem createSurface (hfit : Fitting w) (h : CacheInv w none none d)
    (hnone : surface.backingImage = none) {importSurface : Bool}
    {selected : Option ImportedSurface}
    (hbounded : ∀ imported, importSurface = true → selected = some imported → imported.Bounded)
    {answer : NVDriver.SurfaceAnswer} {result : Option SurfaceId} {last : List SurfaceId}
    (hcreate : d.createSurface surface importSurface selected answer = (result, last, d')) :
    Creation w d d' (result.toList ++ last) := by
  have hpushed := h.pushSurface hnone
  have hkept : ∀ s x, d.surfaces.get s = some x → (d.surfaces.push surface).get s = some x :=
    fun s x hx => SlotTable.get_push_of_get hx
  have hnew : Fresh { d with surfaces := d.surfaces.push surface } d.surfaces.length := by
    refine ⟨surface, SlotTable.get_push_length, fun id hbacking => ?_⟩
    rw [hnone] at hbacking
    cases hbacking
  unfold NVDriver.createSurface at hcreate
  split at hcreate
  · cases hcreate
    exact ⟨h, fun _ _ hx => hx, Extends.of_eq rfl, nofun⟩
  · simp only at hcreate
    split at hcreate
    · cases hcreate
      -- The slot of the new surface is given back.
      refine ⟨?_, fun s x hx => ?_, Extends.of_eq rfl, nofun⟩
      · refine hpushed.clearSurface fun hsafe => (hpushed.listed hsafe).surface_ne ?_
        intro surface' hsurface'
        change (d.surfaces.push surface).get d.surfaces.length = some surface' at hsurface'
        rw [SlotTable.get_push_length] at hsurface'
        cases hsurface'
        exact hnone
      · have hne : s ≠ d.surfaces.length := Nat.ne_of_lt (SlotTable.lt_of_get hx)
        show ((d.surfaces.push surface).clear d.surfaces.length).get s = some x
        rw [SlotTable.get_clear_of_ne hne]
        exact hkept s x hx
    · split at hcreate
      · cases hcreate
        refine ⟨hpushed, hkept, Extends.of_eq rfl, fun s hs => ?_⟩
        rw [List.append_nil, Option.toList_some, List.mem_singleton] at hs
        rw [hs]
        exact hnew
      · rename_i hvalid
        split at hcreate
        · cases hcreate
          refine ⟨hpushed, hkept, Extends.of_eq rfl, fun s hs => ?_⟩
          rw [Option.toList_none, List.nil_append, List.mem_singleton] at hs
          rw [hs]
          exact hnew
        · rename_i imported
          have hbound := hbounded imported (not_not.mp hvalid) rfl
          split at hcreate
          · rename_i id d1 himport
            obtain ⟨hinv, hsurfaces, hextends, himage⟩ :=
              hpushed.createImported hfit hbound.1 himport
            obtain ⟨img, hget, hfree, hzero, hexternal⟩ := himage id rfl
            have hsurface : d1.surfaces.get d.surfaces.length = some surface := by
              rw [hsurfaces]
              exact SlotTable.get_push_length
            have hattached := hinv.attachImported hfit hget hfree hzero hexternal hsurface hnone
              (hfit.imported himport hbound.1 hbound.2 hpushed.borrowing hget)
            cases hcreate
            have hsurfaces' := attachImported_surfaces hsurface id
            have hattachedExtends := attachImported_extends d1 d.surfaces.length id
            refine ⟨hattached, fun s x hx => ?_, ?_, fun s hs => ?_⟩
            · have hne : s ≠ d.surfaces.length := Nat.ne_of_lt (SlotTable.lt_of_get hx)
              rw [hsurfaces', if_neg hne, hsurfaces]
              exact hkept s x hx
            · exact Extends.trans hextends hattachedExtends
            · rw [List.append_nil, Option.toList_some, List.mem_singleton] at hs
              subst hs
              refine ⟨{ surface with backingImage := some id }, ?_, ?_⟩
              · rw [hsurfaces', if_pos rfl]
              · rintro id' ⟨⟩
                obtain ⟨y, hy, _, _, _, _, rfl⟩ := hattachedExtends id img hget
                exact ⟨_, hy, hexternal⟩
          · rename_i d1 himport
            obtain ⟨hinv, hsurfaces, hextends, -⟩ :=
              hpushed.createImported hfit hbound.1 himport
            cases hcreate
            refine ⟨hinv, fun s x hx => ?_, hextends, fun s hs => ?_⟩
            · rw [hsurfaces]
              exact hkept s x hx
            · rw [Option.toList_none, List.nil_append, List.mem_singleton] at hs
              subst hs
              refine hnew.after (fun s x hx => ?_) hextends
              rw [hsurfaces]
              exact hx

/-- The loop of `nvCreateSurfaces2`: where it fails, all that was created is released. -/
theorem createSurfacesLoop (hfit : Fitting w) (hnone : surface.backingImage = none)
    {imported : ImportedSurface} (hbound : imported.valid = true → imported.Bounded)
    {numSurfaces : Nat} {answers : Nat → NVDriver.SurfaceAnswer} {rest : Nat}
    {created : List SurfaceId} (h : CacheInv w none none d) (hfresh : ∀ s ∈ created, Fresh d s)
    {result : Option (List SurfaceId)}
    (hloop : NVDriver.createSurfacesLoop surface imported numSurfaces answers rest created d =
      (result, d')) :
    CacheInv w none none d' ∧
    ∀ created', result = some created' → ∀ s ∈ created', Fresh d' s := by
  induction rest generalizing created d with
  | zero =>
      cases hloop
      refine ⟨h, ?_⟩
      rintro _ ⟨⟩
      exact hfresh
  | succ rest ih =>
      unfold NVDriver.createSurfacesLoop at hloop
      simp only at hloop
      have hselected : ∀ selected, imported.valid = true → importedSurfaceSelectIndex imported
          (numSurfaces - (rest + 1)) numSurfaces = some selected → selected.Bounded :=
        fun _ hvalid hselect => importedSurfaceSelectIndex_bounded (hbound hvalid) hselect
      cases hcreate : d.createSurface surface imported.valid
          (importedSurfaceSelectIndex imported (numSurfaces - (rest + 1)) numSurfaces)
          (answers (numSurfaces - (rest + 1))) with
      | mk made more =>
        obtain ⟨last, d1⟩ := more
        rw [hcreate] at hloop
        have hcreation := h.createSurface hfit hnone hselected hcreate
        have hold : ∀ s ∈ created, Fresh d1 s :=
          fun s hs => (hfresh s hs).after hcreation.surfaces hcreation.extends'
        cases made with
        | some s =>
            refine ih hcreation.inv (fun s' hs' => ?_) hloop
            rcases List.mem_append.mp hs' with hmem | hnew
            · exact hold s' hmem
            · rw [List.mem_singleton.mp hnew]
              exact hcreation.fresh s (List.mem_append_left _ (List.mem_singleton_self s))
        | none =>
            cases hloop
            refine ⟨hcreation.inv.releaseSurfaces hfit _ fun s' hs' => ?_, nofun⟩
            rcases List.mem_append.mp hs' with hmem | hlast
            · exact (hold s' hmem).freesListed
            · exact (hcreation.fresh s' (List.mem_append_right _ hlast)).freesListed

/-- `nvCreateSurfaces2`, with its rollbacks. -/
theorem nvCreateSurfaces2 (hfit : Fitting w) (h : CacheInv w none none d) (format : RTFormat)
    (width height numSurfaces : Nat) (attribList : List VASurfaceAttrib)
    (answer : NVDriver.CreateAnswer) :
    CacheInv w none none
      (d.nvCreateSurfaces2 format width height numSurfaces attribList answer).2 := by
  unfold NVDriver.nvCreateSurfaces2
  split
  · exact h
  · rename_i surface imported hcheck
    obtain ⟨hnone, himported⟩ := checkSurfaces_spec hcheck
    split
    · exact h
    · cases hloop : NVDriver.createSurfacesLoop surface imported numSurfaces answer.surfaces
          numSurfaces [] d with
      | mk result d1 =>
        have hbound : imported.valid = true → imported.Bounded := by
          rw [himported]
          exact parseSurfaceImportAttributes_bounded
        obtain ⟨hinv, hfresh⟩ := h.createSurfacesLoop hfit hnone hbound (by simp) hloop
        cases result with
        | none => exact hinv
        | some created =>
            simp only
            split
            · exact hinv.releaseSurfaces hfit created fun s hs =>
                (hfresh created rfl s hs).freesListed
            · exact hinv

end CacheInv

end Surface
end NvidiaVaapi
