import NvidiaVaapi.Surface.CacheLimits

/-!
# What the steps release

A step makes its changes and then releases surfaces: `nvDestroySurfaces` those of its list, a
creation that fails those made so far.  The surfaces that are rolled back bring no image into
the cache and give back what the creation borrowed only.
-/

namespace NvidiaVaapi
namespace Surface

namespace NVDriver

/-- Where the loop of `nvCreateSurfaces2` fails: the driver there, and what is rolled back. -/
def loopReleases (surface : NVSurface) (imported : ImportedSurface) (numSurfaces : Nat)
    (answers : Nat → SurfaceAnswer) :
    Nat → List SurfaceId → NVDriver → NVDriver × List SurfaceId
  | 0, _, d => (d, [])
  | rest + 1, created, d =>
    let i := numSurfaces - (rest + 1)
    let selected := importedSurfaceSelectIndex imported i numSurfaces
    match d.createSurface surface imported.valid selected (answers i) with
    | (some s, _, d) => loopReleases surface imported numSurfaces answers rest (created ++ [s]) d
    | (none, last, d) => (d, created ++ last)

variable (d : NVDriver)

/-- The driver where `nvCreateSurfaces2` begins to roll back, and the surfaces it releases. -/
def createReleases (format : RTFormat) (width height numSurfaces : Nat)
    (attribList : List VASurfaceAttrib) (answer : CreateAnswer) : NVDriver × List SurfaceId :=
  match checkSurfaces format width height numSurfaces attribList with
  | .error _ => (d, [])
  | .ok (surface, imported) =>
    if ¬ answer.pushCurrent then (d, [])
    else
      match createSurfacesLoop surface imported numSurfaces answer.surfaces numSurfaces [] d with
      | (none, _) => loopReleases surface imported numSurfaces answer.surfaces numSurfaces [] d
      | (some created, d) => (d, if answer.popCurrent then [] else created)

/-- The driver where a step begins to release surfaces, and these. -/
def releasing : Label → NVDriver × List SurfaceId
  | .createSurfaces format width height numSurfaces attribList answer =>
    d.createReleases format width height numSurfaces attribList answer
  | .destroySurfaces list => (d, if d.Releasable list then list else [])
  | a => (step d a, [])

/-- The driver after each release of a step. -/
def statesReleased (a : Label) : List NVDriver :=
  (d.releasing a).1.releaseStates (d.releasing a).2

end NVDriver

/-- The loop comes to what it releases. -/
theorem createSurfacesLoop_releases {surface : NVSurface} {imported : ImportedSurface}
    {numSurfaces : Nat} {answers : Nat → NVDriver.SurfaceAnswer} {rest : Nat}
    {created : List SurfaceId} {d d' : NVDriver} {result : Option (List SurfaceId)}
    (hloop : NVDriver.createSurfacesLoop surface imported numSurfaces answers rest created d =
      (result, d')) :
    d' = (NVDriver.loopReleases surface imported numSurfaces answers rest created d).1.releaseSurfaces
      (NVDriver.loopReleases surface imported numSurfaces answers rest created d).2 := by
  induction rest generalizing created d with
  | zero =>
      cases hloop
      rfl
  | succ rest ih =>
      unfold NVDriver.createSurfacesLoop at hloop
      unfold NVDriver.loopReleases
      simp only at hloop ⊢
      cases hcreate : d.createSurface surface imported.valid
          (importedSurfaceSelectIndex imported (numSurfaces - (rest + 1)) numSurfaces)
          (answers (numSurfaces - (rest + 1))) with
      | mk made more =>
          obtain ⟨last, d1⟩ := more
          rw [hcreate] at hloop
          cases made with
          | some s => exact ih hloop
          | none =>
              cases hloop
              rfl

theorem nvCreateSurfaces2_releases (d : NVDriver) (format : RTFormat)
    (width height numSurfaces : Nat) (attribList : List VASurfaceAttrib)
    (answer : NVDriver.CreateAnswer) :
    (d.nvCreateSurfaces2 format width height numSurfaces attribList answer).2 =
      (d.createReleases format width height numSurfaces attribList answer).1.releaseSurfaces
        (d.createReleases format width height numSurfaces attribList answer).2 := by
  unfold NVDriver.nvCreateSurfaces2 NVDriver.createReleases
  cases NVDriver.checkSurfaces format width height numSurfaces attribList with
  | error status => rfl
  | ok checked =>
      obtain ⟨surface, imported⟩ := checked
      simp only
      by_cases hpush : ¬answer.pushCurrent
      · rw [if_pos hpush, if_pos hpush]
        rfl
      · rw [if_neg hpush, if_neg hpush]
        cases hloop : NVDriver.createSurfacesLoop surface imported numSurfaces answer.surfaces
            numSurfaces [] d with
        | mk result d1 =>
            cases result with
            | none => exact createSurfacesLoop_releases hloop
            | some created =>
                simp only
                cases answer.popCurrent <;> rfl

/-- A step ends with its releases. -/
theorem step_releasing (d : NVDriver) (a : Label) :
    step d a = (d.releasing a).1.releaseSurfaces (d.releasing a).2 := by
  cases a with
  | createSurfaces format width height numSurfaces attribList answer =>
      exact nvCreateSurfaces2_releases d format width height numSurfaces attribList answer
  | destroySurfaces list =>
      have hrefused : (¬list.Nodup ∨ list.any fun s => (d.surfaces.get s).isNone) ↔
          ¬d.Releasable list := by
        unfold NVDriver.Releasable
        rw [not_and_or]
        refine or_congr_right ?_
        simp [Option.isSome_iff_ne_none]
      show (d.nvDestroySurfaces list).2 = NVDriver.releaseSurfaces d (if _ then _ else _)
      unfold NVDriver.nvDestroySurfaces
      by_cases hreleasable : d.Releasable list
      · rw [if_pos hreleasable, if_neg fun hno => hrefused.mp hno hreleasable]
      · rw [if_neg hreleasable, if_pos (hrefused.mpr hreleasable)]
        rfl
  | _ => rfl

/-! ## What stays lent -/

/-- The images in memory stay there, and borrow what they borrowed. -/
def KeepsBorrows (d d' : NVDriver) : Prop :=
  ∀ id img, d.heap.get id = some img →
    ∃ img', d'.heap.get id = some img' ∧ img'.borrowedBackingImage = img.borrowedBackingImage

namespace KeepsBorrows

variable {w : Watch} {d d' d'' : NVDriver} {id : ImageId} {s : SurfaceId} {img : BackingImage}

theorem of_eq (hheap : d'.heap = d.heap) : KeepsBorrows d d' := by
  intro id img hget
  rw [hheap]
  exact ⟨img, hget, rfl⟩

theorem trans (h : KeepsBorrows d d') (h' : KeepsBorrows d' d'') : KeepsBorrows d d'' := by
  intro id x hx
  obtain ⟨y, hy, hxy⟩ := h id x hx
  obtain ⟨z, hz, hyz⟩ := h' id y hy
  exact ⟨z, hz, hyz.trans hxy⟩

theorem modifyImage (d : NVDriver) (id : ImageId) {f : BackingImage → BackingImage}
    (hkept : ∀ img, (f img).borrowedBackingImage = img.borrowedBackingImage) :
    KeepsBorrows d (d.modifyImage id f) := by
  intro other x hx
  rw [get_modifyImage]
  split
  · rename_i heq
    subst heq
    exact ⟨f x, by rw [hx]; rfl, hkept x⟩
  · exact ⟨x, hx, rfl⟩

theorem push (d : NVDriver) (k : Kernel) (img : BackingImage) :
    KeepsBorrows d { d with kernel := k, heap := d.heap.push img } :=
  fun _ x hx => ⟨x, SlotTable.get_push_of_get hx, rfl⟩

/-- No fewer images are borrowed. -/
theorem borrowers_le (h : KeepsBorrows d d') (id : ImageId) : d.borrowers id ≤ d'.borrowers id := by
  refine SlotTable.count_mono fun i x hx hborrows => ?_
  obtain ⟨y, hy, hsame⟩ := h i x hx
  refine ⟨y, hy, decide_eq_true ?_⟩
  rw [hsame]
  exact of_decide_eq_true hborrows

theorem borrowExisting {k : Kernel} {found : Option ImageId} {legacyPrime : Bool}
    {img' : BackingImage} {result : Option (ImageId × BackingImage)}
    (hborrow : { d with kernel := k }.borrowExisting found legacyPrime img = (result, img', d')) :
    KeepsBorrows d d' := by
  unfold NVDriver.borrowExisting at hborrow
  split at hborrow
  · cases hborrow
    exact of_eq rfl
  · rename_i id
    have hretained : KeepsBorrows d ({ d with kernel := k }.retainBackingImage id) :=
      modifyImage { d with kernel := k } id fun _ => rfl
    simp only at hborrow
    split at hborrow
    · cases hborrow
      exact hretained
    · split at hborrow
      · cases hborrow
        exact hretained
      · cases hborrow
        exact hretained.trans (modifyImage _ id fun _ => rfl)

/-- `createImportedBackingImageImpl` adds an image at most. -/
theorem createImported {imported : ImportedSurface} {width height : Nat} {answer : ImportAnswer}
    {result : Option ImageId}
    (hcreate : d.createImportedBackingImageImpl imported width height answer = (result, d')) :
    KeepsBorrows d d' ∧ ∀ id, result = some id → d.heap.get id = none := by
  unfold NVDriver.createImportedBackingImageImpl at hcreate
  simp only at hcreate
  split at hcreate
  · cases hcreate
    exact ⟨of_eq rfl, nofun⟩
  · split at hcreate
    · cases hcreate
      exact ⟨of_eq rfl, nofun⟩
    · rename_i img k himage
      cases hborrow : { d with kernel := k }.borrowExisting
          ({ d with kernel := k }.findBackingImageByFd (imported.objects 0).fd
            (nvFormatFromSurfaceFourcc imported.pixelFormat) width height)
          imported.legacyPrime img with
      | mk borrowed rest =>
          obtain ⟨img', d1⟩ := rest
          rw [hborrow] at hcreate
          have hkept := borrowExisting hborrow
          have hnew : d.heap.get d1.heap.length = none := by
            by_contra hsome
            obtain ⟨x, hx⟩ := Option.ne_none_iff_exists'.mp hsome
            obtain ⟨y, hy, -⟩ := hkept _ x hx
            exact Nat.lt_irrefl _ (SlotTable.lt_of_get hy)
          have hpushed : ∀ img, KeepsBorrows d { d1 with heap := d1.heap.push img } :=
            fun img => hkept.trans (push d1 d1.kernel img)
          cases borrowed with
          | some lender =>
              cases hcreate
              refine ⟨hpushed _, ?_⟩
              rintro id ⟨⟩
              exact hnew
          | none =>
              simp only at hcreate
              split at hcreate
              · cases hcreate
                refine ⟨hpushed _, ?_⟩
                rintro id ⟨⟩
                exact hnew
              · cases hcreate
                exact ⟨hkept.trans (of_eq rfl), nofun⟩

theorem attachImported (d : NVDriver) (s : SurfaceId) (id : ImageId) :
    KeepsBorrows d (d.attachImported s id) := by
  have hmodified : KeepsBorrows d (d.modifyImage id fun img => { img with surface := some s }) :=
    modifyImage d id fun _ => rfl
  refine hmodified.trans (of_eq ?_)
  unfold NVDriver.attachImported NVDriver.note
  rw [modifySurface_modifyImage]
  exact modifySurface_heap _ _ _

end KeepsBorrows

/-! ## Creation and rollback -/

/-- A surface has no image that there was before. -/
def Newcomer (before d : NVDriver) (s : SurfaceId) : Prop :=
  ∀ surface id, d.surfaces.get s = some surface → surface.backingImage = some id →
    before.heap.get id = none

/-- Surfaces were created, for the given ones of them a release is to come. -/
structure Creating (w : Watch) (before d : NVDriver) (created : List SurfaceId) : Prop where
  inv : CacheInv w none none d
  keeps : KeepsCache before d
  borrows : KeepsBorrows before d
  fresh : ∀ s ∈ created, Fresh d s ∧ Newcomer before d s

namespace Creating

variable {w : Watch} {before d d' : NVDriver} {created : List SurfaceId} {surface : NVSurface}

/-- What one round of the loop does to the images, and which image the new surface has. -/
theorem createSurface_borrows (hfit : Fitting w) (hinv : CacheInv w none none d)
    (hnone : surface.backingImage = none) {importSurface : Bool}
    {selected : Option ImportedSurface}
    (hbounded : ∀ imported, importSurface = true → selected = some imported → imported.Bounded)
    {answer : NVDriver.SurfaceAnswer} {result : Option SurfaceId} {last : List SurfaceId}
    (hcreate : d.createSurface surface importSurface selected answer = (result, last, d')) :
    KeepsBorrows d d' ∧ ∀ s ∈ result.toList ++ last, Newcomer d d' s := by
  have hpushed := hinv.pushSurface hnone
  have hlength : (d.surfaces.push surface).get d.surfaces.length = some surface :=
    SlotTable.get_push_length
  -- A surface that was not attached has no image.
  have hplain : ∀ {d'' : NVDriver}, d''.surfaces = d.surfaces.push surface →
      Newcomer d d'' d.surfaces.length := by
    intro d'' hsurfaces surface' id hsurface' hbacking
    rw [hsurfaces, hlength] at hsurface'
    cases hsurface'
    rw [hnone] at hbacking
    cases hbacking
  unfold NVDriver.createSurface at hcreate
  split at hcreate
  · cases hcreate
    exact ⟨KeepsBorrows.of_eq rfl, nofun⟩
  · simp only at hcreate
    split at hcreate
    · cases hcreate
      exact ⟨KeepsBorrows.of_eq rfl, nofun⟩
    · split at hcreate
      · cases hcreate
        refine ⟨KeepsBorrows.of_eq rfl, fun s hs => ?_⟩
        cases List.mem_singleton.mp hs
        exact hplain rfl
      · rename_i hvalid
        split at hcreate
        · cases hcreate
          refine ⟨KeepsBorrows.of_eq rfl, fun s hs => ?_⟩
          cases List.mem_singleton.mp hs
          exact hplain rfl
        · rename_i imported
          have hbound := hbounded imported (not_not.mp hvalid) rfl
          split at hcreate
          · rename_i id d1 himport
            obtain ⟨-, hsurfaces, -, -⟩ := hpushed.createImported hfit hbound.1 himport
            obtain ⟨hborrows, hnew⟩ := KeepsBorrows.createImported himport
            have hsurface : d1.surfaces.get d.surfaces.length = some surface := by
              rw [hsurfaces]
              exact hlength
            cases hcreate
            refine ⟨fun other x hx => ?_, fun s hs => ?_⟩
            · exact (hborrows.trans (KeepsBorrows.attachImported d1 _ id)) other x hx
            · cases List.mem_singleton.mp hs
              intro surface' id' hsurface' hbacking
              rw [attachImported_surfaces hsurface, if_pos rfl] at hsurface'
              cases hsurface'
              cases hbacking
              exact hnew id rfl
          · rename_i d1 himport
            obtain ⟨-, hsurfaces, -, -⟩ := hpushed.createImported hfit hbound.1 himport
            obtain ⟨hborrows, -⟩ := KeepsBorrows.createImported himport
            cases hcreate
            refine ⟨fun other x hx => hborrows other x hx, fun s hs => ?_⟩
            cases List.mem_singleton.mp hs
            exact hplain hsurfaces

/-- One round of the loop of `nvCreateSurfaces2`. -/
theorem createSurface (hfit : Fitting w) (h : Creating w before d created)
    (hnone : surface.backingImage = none) {importSurface : Bool}
    {selected : Option ImportedSurface}
    (hbounded : ∀ imported, importSurface = true → selected = some imported → imported.Bounded)
    {answer : NVDriver.SurfaceAnswer} {result : Option SurfaceId} {last : List SurfaceId}
    (hcreate : d.createSurface surface importSurface selected answer = (result, last, d')) :
    Creating w before d' (created ++ (result.toList ++ last)) := by
  have hcreation := h.inv.createSurface hfit hnone hbounded hcreate
  obtain ⟨hborrows, hnew⟩ := createSurface_borrows hfit h.inv hnone hbounded hcreate
  refine ⟨hcreation.inv,
    h.keeps.trans (KeepsCache.createSurface hfit h.inv hnone hbounded hcreate),
    h.borrows.trans hborrows, fun s hs => ?_⟩
  rcases List.mem_append.mp hs with hold | hlast
  · obtain ⟨hfresh, hbefore⟩ := h.fresh s hold
    refine ⟨hfresh.after hcreation.surfaces hcreation.extends', ?_⟩
    obtain ⟨x, hx, -⟩ := hfresh
    intro surface' id hsurface' hbacking
    rw [hcreation.surfaces s x hx] at hsurface'
    cases hsurface'
    exact hbefore x id hx hbacking
  · refine ⟨hcreation.fresh s hlast, fun surface' id hsurface' hbacking => ?_⟩
    have hnotLive := hnew s hlast surface' id hsurface' hbacking
    by_contra hsome
    obtain ⟨x, hx⟩ := Option.ne_none_iff_exists'.mp hsome
    obtain ⟨y, hy, -⟩ := h.borrows id x hx
    rw [hnotLive] at hy
    cases hy

/-- Where the loop comes to its releases. -/
theorem loopReleases (hfit : Fitting w) (hnone : surface.backingImage = none)
    {imported : ImportedSurface} (hbound : imported.valid = true → imported.Bounded)
    {numSurfaces : Nat} {answers : Nat → NVDriver.SurfaceAnswer} {rest : Nat}
    (h : Creating w before d created) :
    Creating w before
      (NVDriver.loopReleases surface imported numSurfaces answers rest created d).1
      (NVDriver.loopReleases surface imported numSurfaces answers rest created d).2 := by
  induction rest generalizing created d with
  | zero => exact ⟨h.inv, h.keeps, h.borrows, nofun⟩
  | succ rest ih =>
      unfold NVDriver.loopReleases
      simp only
      have hselected : ∀ selected, imported.valid = true → importedSurfaceSelectIndex imported
          (numSurfaces - (rest + 1)) numSurfaces = some selected → selected.Bounded :=
        fun _ hvalid hselect => importedSurfaceSelectIndex_bounded (hbound hvalid) hselect
      cases hcreate : d.createSurface surface imported.valid
          (importedSurfaceSelectIndex imported (numSurfaces - (rest + 1)) numSurfaces)
          (answers (numSurfaces - (rest + 1))) with
      | mk made more =>
          obtain ⟨last, d1⟩ := more
          have hnext := h.createSurface hfit hnone hselected hcreate
          cases made with
          | some s =>
              refine ih ⟨hnext.inv, hnext.keeps, hnext.borrows, fun s' hs' => ?_⟩
              refine hnext.fresh s' ?_
              rw [Option.toList_some, ← List.append_assoc]
              exact List.mem_append_left _ hs'
          | none => exact hnext

/-- All that the loop has created where it gets through. -/
theorem createSurfacesLoop (hfit : Fitting w) (hnone : surface.backingImage = none)
    {imported : ImportedSurface} (hbound : imported.valid = true → imported.Bounded)
    {numSurfaces : Nat} {answers : Nat → NVDriver.SurfaceAnswer} {rest : Nat}
    {created' : List SurfaceId} (h : Creating w before d created)
    (hloop : NVDriver.createSurfacesLoop surface imported numSurfaces answers rest created d =
      (some created', d')) : Creating w before d' created' := by
  induction rest generalizing created d with
  | zero =>
      cases hloop
      exact h
  | succ rest ih =>
      unfold NVDriver.createSurfacesLoop at hloop
      simp only at hloop
      have hselected : ∀ selected, imported.valid = true → importedSurfaceSelectIndex imported
          (numSurfaces - (rest + 1)) numSurfaces = some selected → selected.Bounded :=
        fun _ hvalid hselect => importedSurfaceSelectIndex_bounded (hbound hvalid) hselect
      cases hcreate : d.createSurface surface imported.valid
          (importedSurfaceSelectIndex imported (numSurfaces - (rest + 1)) numSurfaces)
          (answers (numSurfaces - (rest + 1))) with
      | mk made more =>
          obtain ⟨last, d1⟩ := more
          rw [hcreate] at hloop
          have hnext := h.createSurface hfit hnone hselected hcreate
          cases made with
          | some s =>
              refine ih ⟨hnext.inv, hnext.keeps, hnext.borrows, fun s' hs' => ?_⟩ hloop
              refine hnext.fresh s' ?_
              rw [Option.toList_some, ← List.append_assoc]
              exact List.mem_append_left _ hs'
          | none => cases hloop

end Creating

/-- The surfaces of a list are released again: their images are imported ones that were not
there before. -/
structure RollingBack (w : Watch) (before d : NVDriver) (list : List SurfaceId) : Prop where
  inv : CacheInv w none none d
  keeps : KeepsCache before d
  borrows : KeepsBorrows before d
  newcomers : ∀ s ∈ list, Newcomer before d s
  imported : ∀ s ∈ list, ∀ surface id img, d.surfaces.get s = some surface →
    surface.backingImage = some id → d.heap.get id = some img → img.isExternalBuffer = true

theorem Creating.rollingBack {w : Watch} {before d : NVDriver} {created : List SurfaceId}
    (h : Creating w before d created) : RollingBack w before d created := by
  refine ⟨h.inv, h.keeps, h.borrows, fun s hs => (h.fresh s hs).2, ?_⟩
  intro s hs surface id img hsurface hbacking hget
  obtain ⟨x, hx, himage⟩ := (h.fresh s hs).1
  rw [hsurface] at hx
  cases hx
  obtain ⟨y, hy, hexternal⟩ := himage id hbacking
  rw [hget] at hy
  cases hy
  exact hexternal

namespace RollingBack

variable {w : Watch} {before d : NVDriver} {list rest : List SurfaceId} {s : SurfaceId}

/-- The images that were lent are lent still, so nothing can be pruned that could not be. -/
theorem trimmed (h : RollingBack w before d list) (horder : CacheOrder before)
    (hinv : CacheInv w none none before) (htrimmed : before.Trimmed) : d.Trimmed := by
  intro hover id hmem
  rw [h.keeps.overLimit] at hover
  rw [h.keeps.detached] at hmem
  have hcannot := htrimmed hover id hmem
  obtain ⟨-, x, hx, hfree⟩ := (horder.exact id).mp hmem
  unfold NVDriver.backingImageCanPrune at hcannot ⊢
  rw [hx] at hcannot
  have hlent : x.borrowCount ≠ 0 := by
    intro hzero
    simp [hfree, hzero] at hcannot
  obtain ⟨y, hy, -⟩ := h.borrows id x hx
  have hcount := hinv.borrowing.counted id x hx
  have hcount' := h.inv.borrowing.counted id y hy
  have hle := h.borrows.borrowers_le id
  have hlent' : y.borrowCount ≠ 0 := by
    simp only [reduceCtorEq, if_false] at hcount hcount'
    omega
  rw [hy]
  simp [hlent']

/-- No surface that is rolled back has an image of the driver. -/
theorem external (h : RollingBack w before d (s :: rest)) (id : ImageId) (img : BackingImage)
    (hbacking : (d.surfaces.get s).bind NVSurface.backingImage = some id)
    (hget : d.heap.get id = some img) : img.isExternalBuffer = true := by
  obtain ⟨surface, hsurface, himage⟩ := Option.bind_eq_some_iff.mp hbacking
  exact h.imported s List.mem_cons_self surface id img hsurface himage hget

/-- The release of a surface frees its image only. -/
theorem releaseSurface_borrows (hdirect : w.backend = .direct)
    (h : RollingBack w before d (s :: rest)) : KeepsBorrows before (d.releaseSurface s) := by
  intro other x hx
  obtain ⟨y, hy, hsame⟩ := h.borrows other x hx
  cases hbacking : (d.surfaces.get s).bind NVSurface.backingImage with
  | none =>
      unfold NVDriver.releaseSurface
      rw [hbacking]
      exact ⟨y, hy, hsame⟩
  | some id =>
      obtain ⟨surface, hsurface, himage⟩ := Option.bind_eq_some_iff.mp hbacking
      obtain ⟨img, hget, -⟩ := h.inv.tied s surface id nofun hsurface himage
      have hexternal := h.external id img hbacking hget
      have hne : other ≠ id := by
        rintro rfl
        rw [h.newcomers s List.mem_cons_self surface other hsurface himage] at hx
        cases hx
      rw [CacheOrder.releaseSurface_heap h.inv hdirect hbacking hget hexternal,
        get_destroyBackingImage hget hne, hy]
      split
      · exact ⟨_, rfl, hsame⟩
      · exact ⟨y, rfl, hsame⟩

/-- One release of a rollback. -/
theorem releaseSurface (hfit : Fitting w) (hdirect : w.backend = .direct)
    (h : RollingBack w before d (s :: rest)) :
    RollingBack w before (d.releaseSurface s) rest := by
  have hfree : d.freesListed s = false := freesListed_direct (h.inv.backend.trans hdirect) s
  obtain ⟨hinv, hothers, hnone, hsurvivors⟩ := h.inv.releaseSurface hfit hfree
  refine ⟨hinv, h.keeps.trans (KeepsCache.releaseSurface h.inv hdirect h.external),
    h.releaseSurface_borrows hdirect, fun t ht surface id hsurface hbacking => ?_,
    fun t ht surface id img hsurface hbacking hget => ?_⟩
  · have hne : t ≠ s := by
      rintro rfl
      rw [hnone] at hsurface
      cases hsurface
    rw [hothers t hne] at hsurface
    exact h.newcomers t (List.mem_cons_of_mem _ ht) surface id hsurface hbacking
  · have hne : t ≠ s := by
      rintro rfl
      rw [hnone] at hsurface
      cases hsurface
    rw [hothers t hne] at hsurface
    obtain ⟨y, hy, _, _, _, _, rfl⟩ := hsurvivors id img hget
    exact h.imported t (List.mem_cons_of_mem _ ht) surface id y hsurface hbacking hy

/-- A rollback that starts from a trimmed cache leaves it trimmed after each release. -/
theorem releaseStates (hfit : Fitting w) (hdirect : w.backend = .direct)
    (horder : CacheOrder before) (hinv : CacheInv w none none before)
    (htrimmed : before.Trimmed) (h : RollingBack w before d list) :
    ∀ released ∈ d.releaseStates list, released.Trimmed := by
  induction list generalizing d with
  | nil => nofun
  | cons s rest ih =>
      have hnext := h.releaseSurface hfit hdirect
      intro released hmem
      rcases List.mem_cons.mp hmem with rfl | hrest
      · exact hnext.trimmed horder hinv htrimmed
      · exact ih hnext released hrest

end RollingBack

end Surface
end NvidiaVaapi
