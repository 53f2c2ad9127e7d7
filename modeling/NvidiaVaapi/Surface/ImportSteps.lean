import NvidiaVaapi.Surface.Realising

/-!
# Imports keep the invariant

An import opens descriptors of its own, may retain an image of the array for itself, and
either becomes a live image or leaves everything as it was.
-/

namespace NvidiaVaapi
namespace Surface

/-! ## The image so far -/

theorem SameUse.refl (img : BackingImage) : SameUse img img :=
  ⟨rfl, rfl, rfl, rfl, rfl⟩

theorem SameUse.trans {a b c : BackingImage} (h : SameUse a b) (h' : SameUse b c) : SameUse a c := by
  obtain ⟨h1, h2, h3, h4, h5⟩ := h
  obtain ⟨h1', h2', h3', h4', h5'⟩ := h'
  exact ⟨h1'.trans h1, h2'.trans h2, h3'.trans h3, h4'.trans h4, h5'.trans h5⟩

/-- The loop over the objects leaves who uses the image; where it gets through, every object
has a descriptor. -/
theorem importObjects_use {imported : ImportedSurface} {list : List Nat} {k k' : Kernel}
    {img img' : BackingImage} {result : Bool}
    (himport : importObjects imported list (img, k) = (result, img', k')) :
    SameUse img img' ∧
    (result = true → ∀ i, i ∈ list ∨ 0 ≤ img.fds i → 0 ≤ img'.fds i) := by
  induction list generalizing k img with
  | nil =>
      cases himport
      refine ⟨SameUse.refl _, fun _ i hi => ?_⟩
      rcases hi with hmem | hnonneg
      · cases hmem
      · exact hnonneg
  | cons i rest ih =>
      unfold importObjects at himport
      cases hdup : k.nvDupFdCloexec (imported.objects i).fd with
      | none =>
          rw [hdup] at himport
          cases himport
          exact ⟨SameUse.refl _, (by simp)⟩
      | some dup =>
          obtain ⟨fd, k1⟩ := dup
          rw [hdup] at himport
          obtain ⟨file, -, hinstall⟩ := Kernel.dup_spec hdup
          have hnonneg := Kernel.nonneg_of_fileAt (Kernel.install_spec hinstall).2.1
          have hcached := cacheBackingImageFdStat_sameUse k1
            { img with fds := Function.update img.fds i fd } i
          have hfds : (cacheBackingImageFdStat k1
              { img with fds := Function.update img.fds i fd } i).fds =
                Function.update img.fds i fd :=
            cacheBackingImageFdStat_fds k1 _ i
          simp only at himport
          split at himport
          · simp only [Prod.mk.injEq] at himport
            obtain ⟨rfl, rfl, rfl⟩ := himport
            exact ⟨hcached, (by simp)⟩
          · obtain ⟨huse, hrest⟩ := ih himport
            refine ⟨SameUse.trans hcached huse, fun hresult j hj => hrest hresult j ?_⟩
            rcases hj with hmem | hold
            · rcases List.mem_cons.mp hmem with rfl | hmem
              · right
                show 0 ≤ (cacheBackingImageFdStat k1 _ j).fds j
                rw [hfds, Function.update_self]
                exact hnonneg
              · exact .inl hmem
            · right
              show 0 ≤ (cacheBackingImageFdStat k1 _ i).fds j
              rw [hfds]
              by_cases hji : j = i
              · subst hji
                rw [Function.update_self]
                exact hnonneg
              · rw [Function.update_of_ne hji]
                exact hold

theorem importPlanes_use {imported : ImportedSurface} {list : List Nat}
    {img img' : BackingImage} (himport : importPlanes imported list img = some img') :
    SameUse img img' := by
  induction list generalizing img with
  | nil =>
      cases himport
      exact SameUse.refl _
  | cons i rest ih =>
      unfold importPlanes at himport
      simp only at himport
      split at himport
      · cases himport
      · have hrest := ih himport
        exact hrest

/-- An imported image that nobody uses yet, with descriptors of its own. -/
structure Imported (k k' : Kernel) (img : BackingImage) : Prop where
  own : OwnFds k k' img
  surface : img.surface = none
  external : img.isExternalBuffer = true
  ownResources : img.borrowedCudaResources = false
  borrowsNone : img.borrowedBackingImage = none
  unborrowed : img.borrowCount = 0
  descriptor : 0 ≤ img.fds 0

theorem Imported.congr {k k' : Kernel} {img img' : BackingImage} (h : Imported k k' img)
    (hfds : SameFds img img') (huse : SameUse img img') : Imported k k' img' := by
  obtain ⟨hsurface, hexternal, hresources, hborrowed, hcount⟩ := huse
  exact ⟨h.own.congr hfds, hsurface.trans h.surface, hexternal.trans h.external,
    hresources.trans h.ownResources, hborrowed.trans h.borrowsNone, hcount.trans h.unborrowed,
    hfds.1 ▸ h.descriptor⟩

/-- The image before the search for one to borrow, or the descriptors that are closed again. -/
theorem importedImage_spec {k k' : Kernel} {imported : ImportedSurface} {width height : Nat}
    {result : Option BackingImage} (hobjects : imported.numObjects ≠ 0)
    (hbound : imported.numObjects ≤ 4)
    (himport : importedImage k imported width height = (result, k')) :
    (result = none ∧ ∃ img k1, OwnFds k k1 img ∧ k' = k1.closeFds img) ∨
    ∃ img, result = some img ∧ Imported k k' img := by
  have hslots : ∀ i ∈ List.range imported.numObjects, i < 4 := by
    intro i hi
    have hlt := List.mem_range.mp hi
    omega
  unfold importedImage at himport
  simp only at himport
  split at himport
  · rename_i img1 k1 hloop
    cases himport
    exact .inl ⟨rfl, img1, k1, importObjects_own (OwnFds.refl fun _ => rfl) hslots (fun _ _ => rfl)
      List.nodup_range hloop, rfl⟩
  · rename_i img1 k1 hloop
    have hown := importObjects_own (OwnFds.refl (k := k) fun _ => rfl) hslots (fun _ _ => rfl)
      List.nodup_range hloop
    split at himport
    · cases himport
      exact .inl ⟨rfl, img1, k1, hown, rfl⟩
    · rename_i img2 hplanes
      have hfds := importPlanes_sameFds hplanes
      split at himport
      · cases himport
        obtain ⟨huse, hnonneg⟩ := importObjects_use hloop
        obtain ⟨hsurface, hexternal, hresources, hborrowed, hcount⟩ :=
          SameUse.trans huse (importPlanes_use hplanes)
        refine .inr ⟨img2, rfl, hown.congr hfds, hsurface, hexternal, hresources, hborrowed,
          hcount, ?_⟩
        rw [hfds.1]
        exact hnonneg rfl 0 (.inl (List.mem_range.mpr (by omega)))
      · cases himport
        exact .inl ⟨rfl, img2, k1, hown.congr hfds, rfl⟩

/-- The memory of an import is reached in one of three ways. -/
theorem importMemory_cases {d : NVDriver} {img img' : BackingImage} {legacyPrime : Bool}
    {answer : ImportAnswer} (himport : importMemory d img legacyPrime answer = some img') :
    directImportBackingImage d.driverContext img legacyPrime answer.nativeImport = some img' ∨
    importExternalBuffersToCuda img answer.cudaMapping = some img' ∨
    mapExternalBacking img answer.hostMapping = some img' := by
  have hmapped : ((importExternalBuffersToCuda img answer.cudaMapping).orElse fun _ =>
      mapExternalBacking img answer.hostMapping) = some img' →
      importExternalBuffersToCuda img answer.cudaMapping = some img' ∨
      mapExternalBacking img answer.hostMapping = some img' := by
    intro horElse
    cases htried : importExternalBuffersToCuda img answer.cudaMapping with
    | none =>
        rw [htried] at horElse
        exact .inr horElse
    | some x =>
        rw [htried] at horElse
        exact .inl horElse
  unfold importMemory at himport
  cases hbackend : d.backend with
  | egl =>
      simp only [hbackend] at himport
      exact .inr (hmapped himport)
  | direct =>
      simp only [hbackend] at himport
      cases htried : directImportBackingImage d.driverContext img legacyPrime
          answer.nativeImport with
      | none =>
          rw [htried] at himport
          exact .inr (hmapped himport)
      | some x =>
          rw [htried] at himport
          exact .inl himport

/-- The ways to reach the memory of an import change neither its descriptors nor its use. -/
theorem importMemory_same {d : NVDriver} {img img' : BackingImage} {legacyPrime : Bool}
    {answer : ImportAnswer} (himport : importMemory d img legacyPrime answer = some img') :
    SameFds img img' ∧ SameUse img img' := by
  have hnative : ∀ {img'}, directImportBackingImage d.driverContext img legacyPrime
      answer.nativeImport = some img' → SameFds img img' ∧ SameUse img img' := by
    intro img' hdirect
    unfold directImportBackingImage at hdirect
    simp only at hdirect
    split at hdirect
    · cases hdirect
    · split at hdirect
      · cases hdirect
      · split at hdirect
        · cases hdirect
        · split at hdirect
          · cases hdirect
          · cases hdirect
            exact ⟨⟨rfl, rfl, rfl⟩, rfl, rfl, rfl, rfl, rfl⟩
  have hcuda : ∀ {img'}, importExternalBuffersToCuda img answer.cudaMapping = some img' →
      SameFds img img' ∧ SameUse img img' := by
    intro img' hmapped
    unfold importExternalBuffersToCuda at hmapped
    split at hmapped
    · cases hmapped
    · cases hmapped
      exact ⟨⟨rfl, rfl, rfl⟩, rfl, rfl, rfl, rfl, rfl⟩
  have hhost : ∀ {img'}, mapExternalBacking img answer.hostMapping = some img' →
      SameFds img img' ∧ SameUse img img' := by
    intro img' hmapped
    unfold mapExternalBacking at hmapped
    split at hmapped
    · cases hmapped
    · cases hmapped
      exact ⟨⟨rfl, rfl, rfl⟩, rfl, rfl, rfl, rfl, rfl⟩
  rcases importMemory_cases himport with hway | hway | hway
  · exact hnative hway
  · exact hcuda hway
  · exact hhost hway

/-- The search for an image to borrow finds one of the array. -/
theorem findBackingImageByFd_mem {d : NVDriver} {fd : Int} {format : NVFormat}
    {width height : Nat} {id : ImageId}
    (hfind : d.findBackingImageByFd fd format width height = some id) : id ∈ d.images := by
  unfold NVDriver.findBackingImageByFd at hfind
  split at hfind
  · cases hfind
  · exact List.mem_of_find?_eq_some hfind

theorem recoverModifier_same (legacyPrime : Bool) (existing img : BackingImage) :
    SameFds img (recoverModifier legacyPrime existing img) ∧
    SameUse img (recoverModifier legacyPrime existing img) := by
  unfold recoverModifier
  split
  · exact ⟨⟨rfl, rfl, rfl⟩, rfl, rfl, rfl, rfl, rfl⟩
  · exact ⟨⟨rfl, rfl, rfl⟩, SameUse.refl img⟩

/-- Writes to images and the table of descriptors are independent. -/
theorem modifyImage_withKernel (d : NVDriver) (k : Kernel) (id : ImageId)
    (f : BackingImage → BackingImage) :
    { d with kernel := k }.modifyImage id f = { d.modifyImage id f with kernel := k } := by
  unfold NVDriver.modifyImage
  cases hget : d.heap.get id with
  | none => rfl
  | some img => rfl

/-- The images that were in memory are there still, with the layout they had. -/
def Extends (d d' : NVDriver) : Prop :=
  ∀ id x, d.heap.get id = some x → ∃ y, d'.heap.get id = some y ∧ SameLayout x y

namespace Extends

variable {d d' d'' : NVDriver}

theorem of_eq (hheap : d'.heap = d.heap) : Extends d d' := by
  intro id x hx
  rw [← hheap] at hx
  exact ⟨x, hx, SameLayout.refl x⟩

theorem trans (h : Extends d d') (h' : Extends d' d'') : Extends d d'' := by
  intro id x hx
  obtain ⟨y, hy, hxy⟩ := h id x hx
  obtain ⟨z, hz, hyz⟩ := h' id y hy
  exact ⟨z, hz, hxy.trans hyz⟩

theorem modifyImage (d : NVDriver) (id : ImageId) {f : BackingImage → BackingImage}
    (hlayout : ∀ img, SameLayout img (f img)) : Extends d (d.modifyImage id f) := by
  intro other x hx
  rw [get_modifyImage]
  split
  · rename_i heq
    subst heq
    exact ⟨f x, by rw [hx]; rfl, hlayout x⟩
  · exact ⟨x, hx, SameLayout.refl x⟩

theorem push (d : NVDriver) (k : Kernel) (img : BackingImage) :
    Extends d { d with kernel := k, heap := d.heap.push img } :=
  fun _ x hx => ⟨x, SlotTable.get_push_of_get hx, SameLayout.refl x⟩

end Extends

namespace CacheInv

variable {w : Watch} {d d' : NVDriver} {id : ImageId} {s : SurfaceId}
  {img img' : BackingImage} {k : Kernel}

/-- An import that borrows nothing is pushed. -/
theorem pushImported (hfit : Fitting w) (h : CacheInv w none none d)
    (himported : Imported d.kernel k img) :
    CacheInv w none none { d with kernel := k, heap := d.heap.push img } := by
  refine ⟨h.backend, h.borrowing.push himported.own himported.unborrowed
    (fun _ => himported.descriptor) ?_ himported.borrowsNone nofun,
    h.tied.push hfit himported.own.toOpens,
    fun hsafe => (h.listed hsafe).push k (.inr ⟨rfl, himported.external, himported.surface⟩),
    h.log⟩
  intro howned
  rw [himported.external] at howned
  cases howned

/-- The invariant while an image of the array is held for an import. -/
structure Holds (w : Watch) (id : ImageId) (d : NVDriver) : Prop where
  backend : d.backend = w.backend
  borrowing : Borrowing (some id) d
  tied : Tied w.Fits none d
  listed : d.cudaWorkUnsafe = false → Listed none d
  log : ∀ event ∈ d.log, w.Allowed event

/-- `retainBackingImageByFd` holds an image of the array. -/
theorem retain (hfit : Fitting w) (h : CacheInv w none none d) (hmem : id ∈ d.images) :
    Holds w id (d.retainBackingImage id) := by
  refine ⟨(modifyImage_backend ..).trans h.backend, h.borrowing.retain hmem, ?_, ?_, ?_⟩
  · exact h.tied.modifyImage hfit (fun _ => ⟨_, _, _, _, rfl⟩) fun _ => rfl
  · intro hsafe
    have hsafe' : d.cudaWorkUnsafe = false := (modifyImage_lost ..).symm.trans hsafe
    exact (h.listed hsafe').modifyImage (fun _ => rfl) fun _ => .inl rfl
  · exact (modifyImage_log d id _).symm ▸ h.log

/-- The image is let go. -/
theorem drop (hfit : Fitting w) (h : Holds w id d) :
    CacheInv w none none (d.dropBackingImage id) := by
  refine ⟨(modifyImage_backend ..).trans h.backend, h.borrowing.drop, ?_, ?_, ?_⟩
  · exact h.tied.modifyImage hfit (fun _ => ⟨_, _, _, _, rfl⟩) fun _ => rfl
  · intro hsafe
    have hsafe' : d.cudaWorkUnsafe = false := (modifyImage_lost ..).symm.trans hsafe
    exact (h.listed hsafe').modifyImage (fun _ => rfl) fun _ => .inl rfl
  · exact (modifyImage_log d id _).symm ▸ h.log

/-- An import that borrows the image that is held for it is pushed. -/
theorem pushBorrowing (hfit : Fitting w) (h : Holds w id d)
    (himported : Imported d.kernel k img) (existing : BackingImage) :
    CacheInv w none none
      { d with kernel := k, heap := d.heap.push (borrowBackingImage id existing img) } := by
  refine ⟨h.backend, h.borrowing.push (himported.own.congr ⟨rfl, rfl, rfl⟩) himported.unborrowed
    (fun _ => himported.descriptor) ?_ rfl (fun _ _ => himported.external),
    h.tied.push hfit himported.own.toOpens,
    fun hsafe => (h.listed hsafe).push k (.inr ⟨rfl, himported.external, himported.surface⟩),
    h.log⟩
  intro howned
  change img.isExternalBuffer = false at howned
  rw [himported.external] at howned
  cases howned

/-- Either an image of the array is held for the import, or the array is as it was. -/
theorem borrowExisting (hfit : Fitting w) (h : CacheInv w none none d)
    {found : Option ImageId} (hfound : ∀ id, found = some id → id ∈ d.images)
    {legacyPrime : Bool} {result : Option (ImageId × BackingImage)}
    (hborrow : { d with kernel := k }.borrowExisting found legacyPrime img = (result, img', d')) :
    (SameFds img img' ∧ SameUse img img') ∧
    ∃ d1, d' = { d1 with kernel := k } ∧ d1.kernel = d.kernel ∧ d1.surfaces = d.surfaces ∧
      Extends d d1 ∧ ((result = none ∧ CacheInv w none none d1) ∨
        ∃ id existing, result = some (id, existing) ∧ Holds w id d1) := by
  unfold NVDriver.borrowExisting at hborrow
  split at hborrow
  · cases hborrow
    exact ⟨⟨⟨rfl, rfl, rfl⟩, SameUse.refl _⟩, d, rfl, rfl, rfl, Extends.of_eq rfl, .inl ⟨rfl, h⟩⟩
  · rename_i id
    have hretained := h.retain hfit (hfound id rfl)
    have hkernel : (d.retainBackingImage id).kernel = d.kernel := modifyImage_kernel ..
    have hsurfaces : (d.retainBackingImage id).surfaces = d.surfaces := modifyImage_surfaces ..
    have hextends : Extends d (d.retainBackingImage id) :=
      Extends.modifyImage d id fun _ => ⟨_, _, _, _, rfl⟩
    have hcommute : { d with kernel := k }.retainBackingImage id =
        { d.retainBackingImage id with kernel := k } := modifyImage_withKernel d k id _
    simp only [hcommute] at hborrow
    split at hborrow
    · rename_i hnone
      have hmem := hretained.borrowing.retained id rfl
      obtain ⟨x, hx, -⟩ := hretained.borrowing.cached id hmem
      rw [hx] at hnone
      cases hnone
    · rename_i existing hget
      have hsame := recoverModifier_same legacyPrime existing img
      split at hborrow
      · cases hborrow
        exact ⟨hsame, d.retainBackingImage id, rfl, hkernel, hsurfaces, hextends,
          .inr ⟨id, existing, rfl, hretained⟩⟩
      · have hdropped : { d.retainBackingImage id with kernel := k }.dropBackingImage id =
            { (d.retainBackingImage id).dropBackingImage id with kernel := k } :=
          modifyImage_withKernel _ k id _
        rw [hdropped] at hborrow
        cases hborrow
        refine ⟨hsame, (d.retainBackingImage id).dropBackingImage id, rfl, ?_, ?_, ?_,
          .inl ⟨rfl, drop hfit hretained⟩⟩
        · exact (modifyImage_kernel ..).trans hkernel
        · exact (modifyImage_surfaces ..).trans hsurfaces
        · exact hextends.trans (Extends.modifyImage _ id fun _ => ⟨_, _, _, _, rfl⟩)

/-- `createImportedBackingImageImpl`. -/
theorem createImported (hfit : Fitting w) (h : CacheInv w none none d)
    {imported : ImportedSurface} {width height : Nat} {answer : ImportAnswer}
    {result : Option ImageId} (hbound : imported.numObjects ≤ 4)
    (hcreate : d.createImportedBackingImageImpl imported width height answer = (result, d')) :
    CacheInv w none none d' ∧ d'.surfaces = d.surfaces ∧ Extends d d' ∧
    ∀ id, result = some id →
      ∃ img, d'.heap.get id = some img ∧ img.surface = none ∧ img.borrowCount = 0 ∧
        img.isExternalBuffer = true := by
  unfold NVDriver.createImportedBackingImageImpl at hcreate
  simp only at hcreate
  split at hcreate
  · cases hcreate
    exact ⟨h, rfl, Extends.of_eq rfl, nofun⟩
  · rename_i hchecked
    have hobjects : imported.numObjects ≠ 0 := fun hzero => hchecked (.inr (.inr (.inl hzero)))
    split at hcreate
    · rename_i k1 himage
      rcases importedImage_spec hobjects hbound himage with ⟨-, img, k2, hown, rfl⟩ | ⟨img, hsome, -⟩
      · cases hcreate
        exact ⟨h.abandon hfit hown, rfl, Extends.of_eq rfl, nofun⟩
      · cases hsome
    · rename_i img k1 himage
      rcases importedImage_spec hobjects hbound himage with ⟨hnone, -⟩ | ⟨x, hsome, himported⟩
      · cases hnone
      cases hsome
      -- From here on the driver differs from the one before in its descriptors, too.
      cases hborrow : { d with kernel := k1 }.borrowExisting
          ({ d with kernel := k1 }.findBackingImageByFd (imported.objects 0).fd
            (nvFormatFromSurfaceFourcc imported.pixelFormat) width height)
          imported.legacyPrime img with
      | mk borrowed rest =>
          obtain ⟨img', d1⟩ := rest
          rw [hborrow] at hcreate
          have hfound : ∀ id, { d with kernel := k1 }.findBackingImageByFd (imported.objects 0).fd
              (nvFormatFromSurfaceFourcc imported.pixelFormat) width height = some id →
              id ∈ d.images := by
            intro id hfind
            have hmem := findBackingImageByFd_mem hfind
            exact hmem
          obtain ⟨⟨hfds, huse⟩, d2, rfl, hkernel, hsurfaces, hextends, hcases⟩ :=
            h.borrowExisting hfit hfound hborrow
          have himported' : Imported d2.kernel k1 img' := hkernel ▸ himported.congr hfds huse
          rcases hcases with ⟨rfl, hinv⟩ | ⟨id, existing, rfl, hholds⟩
          · simp only at hcreate
            split at hcreate
            · rename_i img'' hmemory
              obtain ⟨hfds', huse'⟩ := importMemory_same hmemory
              have hfinal := himported'.congr hfds' huse'
              cases hcreate
              refine ⟨hinv.pushImported hfit hfinal, hsurfaces,
                hextends.trans (Extends.push d2 k1 img''), ?_⟩
              rintro id ⟨⟩
              exact ⟨img'', SlotTable.get_push_length, hfinal.surface, hfinal.unborrowed,
                hfinal.external⟩
            · cases hcreate
              exact ⟨hinv.abandon hfit himported'.own, hsurfaces, hextends, nofun⟩
          · cases hcreate
            refine ⟨pushBorrowing hfit hholds himported' existing, hsurfaces,
              hextends.trans (Extends.push d2 k1 _), ?_⟩
            rintro id' ⟨⟩
            exact ⟨_, SlotTable.get_push_length, himported'.surface, himported'.unborrowed,
              himported'.external⟩

/-- The imported image is attached to the surface for which it was created. -/
theorem attachImported (hfit : Fitting w) (h : CacheInv w none none d)
    (hget : d.heap.get id = some img) (hfree : img.surface = none) (hzero : img.borrowCount = 0)
    (hexternal : img.isExternalBuffer = true) {surface : NVSurface}
    (hsurface : d.surfaces.get s = some surface) (hnone : surface.backingImage = none)
    (hfits : w.Fits d.kernel surface img) : CacheInv w none none (d.attachImported s id) := by
  have htaken : CacheInv w none (some id) (d.modifyImage id fun img =>
      { img with surface := some s }) := by
    refine CacheInv.take (h.setSpare (some id))
      (fun _ => ⟨⟨rfl, rfl, rfl⟩, rfl, rfl, rfl, rfl⟩) ?_
    intro x hx
    rw [hget] at hx
    cases hx
    exact hfree
  have hgetTaken : (d.modifyImage id fun img => { img with surface := some s }).heap.get id =
      some { img with surface := some s } := by
    rw [get_modifyImage, if_pos rfl, hget]
    rfl
  have honly : ∀ surface', (d.modifyImage id fun img =>
      { img with surface := some s }).surfaces.get s = some surface' → surface' = surface := by
    intro surface' hsurface'
    rw [modifyImage_surfaces, hsurface] at hsurface'
    exact (Option.some.inj hsurface').symm
  have hpointed := htaken.point hgetTaken rfl
    (fun surface' hsurface' => honly surface' hsurface' ▸ hnone)
    fun surface' hsurface' => by
      rw [honly surface' hsurface', modifyImage_kernel]
      exact hfit.frame hfits ⟨some s, img.borrowedBackingImage, img.borrowCount,
        img.detachedSerial, rfl⟩ (KeepsFiles.refl _ _)
  unfold NVDriver.attachImported
  rw [modifySurface_modifyImage]
  refine CacheInv.note hfit ?_ ?_
  · refine ⟨hpointed.backend, hpointed.borrowing, hpointed.tied, fun hsafe => ?_, hpointed.log⟩
    have hlisted := hpointed.listed hsafe
    refine ⟨fun other x _ hx howned => ?_, fun other x s' _ hx hback => ?_⟩
    · refine hlisted.listed other x ?_ hx howned
      rintro ⟨⟩
      rw [modifySurface_heap, hgetTaken] at hx
      cases hx
      change img.isExternalBuffer = false at howned
      rw [hexternal] at howned
      cases howned
    · by_cases hne : other = id
      · subst hne
        rw [modifySurface_heap, hgetTaken] at hx
        cases hx
        cases hback
        refine ⟨{ surface with backingImage := some other }, ?_, rfl⟩
        rw [get_modifySurface, if_pos rfl, modifyImage_surfaces, hsurface]
        rfl
      · exact hlisted.back other x s' (fun heq => hne (Option.some.inj heq).symm) hx hback
  · show ((d.heap.get id).map BackingImage.borrowCount).getD 0 = 0
    rw [hget]
    exact hzero

end CacheInv

end Surface
end NvidiaVaapi
