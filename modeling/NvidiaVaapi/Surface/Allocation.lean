import NvidiaVaapi.Surface.Descriptors

/-!
# Images that are allocated

An image that a backend allocates has descriptors of its own, belongs to no surface yet,
borrows nothing and is borrowed by nobody.
-/

namespace NvidiaVaapi
namespace Surface

/-- An image that nobody has used yet. -/
structure Unused (img : BackingImage) : Prop where
  surface : img.surface = none
  owned : img.isExternalBuffer = false
  ownResources : img.borrowedCudaResources = false
  borrowsNone : img.borrowedBackingImage = none
  unborrowed : img.borrowCount = 0

/-- Two images differ in nothing that says who uses them. -/
def SameUse (img img' : BackingImage) : Prop :=
  img'.surface = img.surface ∧ img'.isExternalBuffer = img.isExternalBuffer ∧
  img'.borrowedCudaResources = img.borrowedCudaResources ∧
  img'.borrowedBackingImage = img.borrowedBackingImage ∧ img'.borrowCount = img.borrowCount

theorem Unused.congr {img img' : BackingImage} (hunused : Unused img) (hsame : SameUse img img') :
    Unused img' := by
  obtain ⟨hsurface, hexternal, hresources, hborrowed, hcount⟩ := hsame
  exact ⟨hsurface.trans hunused.surface, hexternal.trans hunused.owned,
    hresources.trans hunused.ownResources, hborrowed.trans hunused.borrowsNone,
    hcount.trans hunused.unborrowed⟩

/-- An image under construction: its objects up to a number have descriptors. -/
structure Building (k k' : Kernel) (img : BackingImage) (objects : Nat) : Prop where
  own : OwnFds k k' img
  unused : Unused img
  rest : ∀ i, objects ≤ i → img.fds i = -1
  fresh : ∀ i, 0 ≤ img.fds i → k.nextIno ≤ img.stIno i

theorem cacheBackingImageFdStat_sameUse (k : Kernel) (img : BackingImage) (i : Nat) :
    SameUse img (cacheBackingImageFdStat k img i) := by
  unfold cacheBackingImageFdStat
  split <;> exact ⟨rfl, rfl, rfl, rfl, rfl⟩

theorem cacheBackingImageFdStat_fds (k : Kernel) (img : BackingImage) (i : Nat) :
    (cacheBackingImageFdStat k img i).fds = img.fds := by
  unfold cacheBackingImageFdStat
  split <;> rfl

namespace Building

variable {k0 k k' : Kernel} {img img' : BackingImage} {objects : Nat}

theorem new (hunused : Unused img) (hfds : ∀ i, img.fds i = -1) : Building k k img 0 :=
  ⟨OwnFds.refl hfds, hunused, fun i _ => hfds i, fun i hi => by
    rw [hfds i] at hi
    omega⟩

theorem congr (hbuild : Building k0 k img objects) (hfds : SameFds img img')
    (huse : SameUse img img') : Building k0 k img' objects :=
  ⟨hbuild.own.congr hfds, hbuild.unused.congr huse, fun i hi => by
    rw [hfds.1]
    exact hbuild.rest i hi, by
    rw [hfds.1, hfds.2.2]
    exact hbuild.fresh⟩

/-- The next object gets a new file, whose descriptor is cached. -/
theorem create (hbuild : Building k0 k img objects) (hslot : objects < 4) {dev : Nat}
    {size seekEnd : Int} {fd : Int}
    (hcreate : k.create dev size seekEnd = some (fd, k'))
    (hfds : img'.fds = Function.update img.fds objects fd) (huse : SameUse img img')
    (hdev : img'.stDev = img.stDev) (hino : img'.stIno = img.stIno) :
    Building k0 k' (cacheBackingImageFdStat k' img' objects) (objects + 1) := by
  have hopen := (Kernel.install_spec hcreate).2.1
  have hfile : k'.fileAt (img'.fds objects) = some ⟨dev, k.nextIno, size, seekEnd⟩ := by
    rw [hfds, Function.update_self]
    exact hopen
  refine ⟨?_, hbuild.unused.congr ?_, ?_, ?_⟩
  · rw [cacheBackingImageFdStat_eq img' hfile]
    refine hbuild.own.add hslot (hbuild.rest objects (Nat.le_refl _)) (Nat.le_succ _)
      (fun _ => Nat.lt_succ_self _) hcreate hfds ?_ ?_
    · rw [← hdev]
    · rw [← hino]
  · have hcached := cacheBackingImageFdStat_sameUse k' img' objects
    exact ⟨hcached.1.trans huse.1, hcached.2.1.trans huse.2.1, hcached.2.2.1.trans huse.2.2.1,
      hcached.2.2.2.1.trans huse.2.2.2.1, hcached.2.2.2.2.trans huse.2.2.2.2⟩
  · intro i hi
    have hne : i ≠ objects := by omega
    rw [cacheBackingImageFdStat_fds, hfds, Function.update_of_ne hne]
    exact hbuild.rest i (by omega)
  · intro i hi
    rw [cacheBackingImageFdStat_fds, hfds] at hi
    rw [cacheBackingImageFdStat_eq img' hfile]
    change k0.nextIno ≤ Function.update img'.stIno objects k.nextIno i
    by_cases hne : i = objects
    · subst hne
      rw [Function.update_self]
      exact hbuild.own.nextIno
    · rw [Function.update_of_ne hne] at hi ⊢
      rw [hino]
      exact hbuild.fresh i hi

/-- An object of the direct backend. -/
theorem addObject (hbuild : Building k0 k img objects) (hslot : objects < 4) {size : Nat}
    (hadd : addObject k img objects size = some (img', k')) :
    Building k0 k' img' (objects + 1) := by
  unfold Surface.addObject at hadd
  obtain ⟨⟨fd, k1⟩, hcreate, hrest⟩ := Option.bind_eq_some_iff.mp hadd
  cases hrest
  exact hbuild.create hslot hcreate rfl ⟨rfl, rfl, rfl, rfl, rfl⟩ rfl rfl

/-- An object that EGL exports. -/
theorem addExportedObject (hbuild : Building k0 k img img.numObjects)
    (hslot : img.numObjects < 4) {modifier : Nat} {size : Int}
    (hadd : NVDriver.addExportedObject k img modifier size = some (img', k')) :
    Building k0 k' img' img'.numObjects ∧ img'.numObjects = img.numObjects + 1 := by
  unfold NVDriver.addExportedObject at hadd
  obtain ⟨⟨fd, k1⟩, hcreate, hrest⟩ := Option.bind_eq_some_iff.mp hadd
  cases hrest
  have hobjects : ∀ img : BackingImage, ∀ i,
      (cacheBackingImageFdStat k' img i).numObjects = img.numObjects := by
    intro img i
    unfold cacheBackingImageFdStat
    split <;> rfl
  rw [hobjects]
  exact ⟨hbuild.create hslot hcreate rfl ⟨rfl, rfl, rfl, rfl, rfl⟩ rfl rfl, rfl⟩

end Building

variable {k0 k k' : Kernel} {img img' : BackingImage}

theorem sameFds_addPlane (info : NVFormatInfo) (img : BackingImage) (i : Nat)
    (image : NVDriverImage) (arrayHeight size : Nat) :
    SameFds img (addPlaneWithObject info img i image arrayHeight size) :=
  ⟨rfl, rfl, rfl⟩

/-- The loop of the allocation with an object for each plane. -/
theorem allocatePlanes_building {info : NVFormatInfo} {sharedModifier : Bool}
    {images : List NVDriverImage} {i : Nat} (hbuild : Building k0 k img i)
    (hslots : i + images.length ≤ 4)
    (halloc : allocatePlanes info sharedModifier images i img k = some (img', k')) :
    Building k0 k' img' (i + images.length) := by
  induction images generalizing i img k with
  | nil =>
      cases halloc
      exact hbuild
  | cons image rest ih =>
      unfold allocatePlanes at halloc
      obtain ⟨size, -, halloc⟩ := Option.bind_eq_some_iff.mp halloc
      obtain ⟨⟨img1, k1⟩, hadd, halloc⟩ := Option.bind_eq_some_iff.mp halloc
      rw [List.length_cons] at hslots
      have hnext := (hbuild.addObject (by omega) hadd).congr (sameFds_addPlane info img1 i image
        (if sharedModifier ∧ image.pitch ≠ 0 then image.memorySize / image.pitch else image.height)
        size) ⟨rfl, rfl, rfl, rfl, rfl⟩
      have hdone := ih hnext (by omega) halloc
      rw [List.length_cons, show i + (rest.length + 1) = i + 1 + rest.length by omega]
      exact hdone

/-- An image that has been allocated between two tables of descriptors. -/
structure Allocated (k k' : Kernel) (img : BackingImage) : Prop where
  own : OwnFds k k' img
  unused : Unused img
  fresh : ∀ i, 0 ≤ img.fds i → k.nextIno ≤ img.stIno i

theorem Building.allocated {objects : Nat} (hbuild : Building k0 k img objects)
    (hfds : SameFds img img') (huse : SameUse img img') : Allocated k0 k img' :=
  ⟨hbuild.own.congr hfds, hbuild.unused.congr huse, (hbuild.congr hfds huse).fresh⟩

/-- A layout has the planes it is computed for. -/
theorem layoutPlanes_length {context : NVDriverContext} {width height bppc : Nat}
    {planes : List (NVFormatPlane × Nat)} {offset total : Nat} {images : List NVDriverImage}
    (hlayout : layoutPlanes context width height bppc planes offset = some (images, total)) :
    images.length = planes.length := by
  induction planes generalizing offset images total with
  | nil =>
      cases hlayout
      rfl
  | cons plane rest ih =>
      unfold layoutPlanes at hlayout
      obtain ⟨⟨image, next⟩, -, hlayout⟩ := Option.bind_eq_some_iff.mp hlayout
      obtain ⟨⟨others, size⟩, hrest, hlayout⟩ := Option.bind_eq_some_iff.mp hlayout
      cases hlayout
      rw [List.length_cons, List.length_cons, ih hrest]

theorem unifiedLayout_length {context : NVDriverContext} {width height : Nat}
    {info : NVFormatInfo} {unify : Bool} {images : List NVDriverImage} {total : Nat}
    (hlayout : calculateUnifiedImageLayout context width height info unify =
      some (images, total)) : images.length = info.plane.length := by
  unfold calculateUnifiedImageLayout at hlayout
  split at hlayout
  · cases hlayout
  · rw [layoutPlanes_length hlayout, List.length_map]

theorem allocatePerPlane_allocated {context : NVDriverContext} {surface : NVSurface}
    {sharedModifier : Bool}
    (halloc : directAllocateBackingImagePerPlane context k surface sharedModifier =
      some (img, k')) : Allocated k k' img := by
  unfold directAllocateBackingImagePerPlane at halloc
  obtain ⟨⟨images, total⟩, hlayout, halloc⟩ := Option.bind_eq_some_iff.mp halloc
  obtain ⟨⟨img1, k1⟩, hplanes, halloc⟩ := Option.bind_eq_some_iff.mp halloc
  cases halloc
  have hslots : 0 + images.length ≤ 4 := by
    have hlength := unifiedLayout_length hlayout
    have hformat := formatsInfo_planes (nvFormatForSurface surface)
    omega
  have hbuild := allocatePlanes_building
    (Building.new (k := k) ⟨rfl, rfl, rfl, rfl, rfl⟩ fun _ => rfl) hslots hplanes
  exact hbuild.allocated ⟨rfl, rfl, rfl⟩ ⟨rfl, rfl, rfl, rfl, rfl⟩

/-- The planes that share an object change nothing of the descriptors or the use. -/
theorem addPackedPlanes_same {info : NVFormatInfo} {images : List NVDriverImage} {i : Nat} :
    SameFds img (addPackedPlanes info images i img) ∧
    SameUse img (addPackedPlanes info images i img) := by
  induction images generalizing i img with
  | nil => exact ⟨⟨rfl, rfl, rfl⟩, rfl, rfl, rfl, rfl, rfl⟩
  | cons image rest ih =>
      have hrest := @ih (addPackedPlane info img i image) (i + 1)
      exact hrest

theorem allocateSingle_allocated {context : NVDriverContext} {surface : NVSurface}
    (halloc : directAllocateBackingImageSingle context k surface = some (img, k')) :
    Allocated k k' img := by
  unfold directAllocateBackingImageSingle at halloc
  obtain ⟨⟨images, total⟩, -, halloc⟩ := Option.bind_eq_some_iff.mp halloc
  obtain ⟨size, -, halloc⟩ := Option.bind_eq_some_iff.mp halloc
  obtain ⟨⟨img1, k1⟩, hadd, halloc⟩ := Option.bind_eq_some_iff.mp halloc
  cases halloc
  have hbuild := (Building.new (k := k) ⟨rfl, rfl, rfl, rfl, rfl⟩ fun _ => rfl).addObject
    (by omega) hadd
  have hsame := @addPackedPlanes_same img1 (formatsInfo (nvFormatForSurface surface)) images 0
  exact hbuild.allocated hsame.1 hsame.2

theorem allocateRgb_allocated {context : NVDriverContext} {surface : NVSurface}
    (halloc : directAllocateBackingImageRgb context k surface = some (img, k')) :
    Allocated k k' img := by
  unfold directAllocateBackingImageRgb at halloc
  obtain ⟨image, -, halloc⟩ := Option.bind_eq_some_iff.mp halloc
  obtain ⟨size, -, halloc⟩ := Option.bind_eq_some_iff.mp halloc
  obtain ⟨⟨img1, k1⟩, hadd, halloc⟩ := Option.bind_eq_some_iff.mp halloc
  cases halloc
  have hbuild := (Building.new (k := k) ⟨rfl, rfl, rfl, rfl, rfl⟩ fun _ => rfl).addObject
    (by omega) hadd
  exact hbuild.allocated (sameFds_addPlane _ img1 0 image image.height size)
    ⟨rfl, rfl, rfl, rfl, rfl⟩

/-- An image that the direct backend allocates. -/
theorem directAllocate_allocated {d : NVDriver} {surface : NVSurface}
    (halloc : directAllocateBackingImageImpl d surface = some (img, k')) :
    Allocated d.kernel k' img := by
  unfold directAllocateBackingImageImpl at halloc
  split at halloc
  · cases halloc
  · split at halloc
    · exact allocateRgb_allocated halloc
    · split at halloc
      · exact allocateSingle_allocated halloc
      · exact allocatePerPlane_allocated halloc
      · exact allocatePerPlane_allocated halloc

/-- A plane that goes to an object that there is. -/
theorem placePlane_same {plane object modifier : Nat}
    (hplace : NVDriver.placePlane img plane object modifier = some img') :
    SameFds img img' ∧ SameUse img img' ∧ img'.numObjects = img.numObjects := by
  unfold NVDriver.placePlane at hplace
  split at hplace
  · cases hplace
  · cases hplace
    exact ⟨⟨rfl, rfl, rfl⟩, ⟨rfl, rfl, rfl, rfl, rfl⟩, rfl⟩

/-- One plane that EGL exports. -/
theorem exportPlane_building {plane : Nat} {exported : NVDriver.EglPlane}
    (hbuild : Building k0 k img img.numObjects) (hslot : img.numObjects < 4)
    (hexport : NVDriver.exportPlane img k plane exported = some (img', k')) :
    Building k0 k' img' img'.numObjects ∧ img'.numObjects ≤ img.numObjects + 1 := by
  unfold NVDriver.exportPlane at hexport
  split at hexport
  · cases hexport
  · have hlaid : Building k0 k { img with
        strides := Function.update img.strides plane exported.stride
        offsets := Function.update img.offsets plane exported.offset } img.numObjects :=
      hbuild.congr ⟨rfl, rfl, rfl⟩ ⟨rfl, rfl, rfl, rfl, rfl⟩
    simp only at hexport
    split at hexport
    · split at hexport
      · cases hexport
      · obtain ⟨img1, hplace, hexport⟩ := Option.bind_eq_some_iff.mp hexport
        cases hexport
        obtain ⟨hfds, huse, hobjects⟩ := placePlane_same hplace
        rw [hobjects]
        exact ⟨hlaid.congr hfds huse, Nat.le_succ _⟩
    · split at hexport
      · obtain ⟨img1, hplace, hexport⟩ := Option.bind_eq_some_iff.mp hexport
        cases hexport
        obtain ⟨hfds, huse, hobjects⟩ := placePlane_same hplace
        rw [hobjects]
        exact ⟨hlaid.congr hfds huse, Nat.le_succ _⟩
      · cases hexport
    · obtain ⟨⟨img1, k1⟩, hadd, hexport⟩ := Option.bind_eq_some_iff.mp hexport
      obtain ⟨img2, hplace, hexport⟩ := Option.bind_eq_some_iff.mp hexport
      cases hexport
      obtain ⟨hfds, huse, hobjects⟩ := placePlane_same hplace
      obtain ⟨hadded, hcount⟩ := hlaid.addExportedObject hslot hadd
      rw [hobjects]
      exact ⟨hadded.congr hfds huse, Nat.le_of_eq hcount⟩

theorem exportPlanes_building {planes : List NVDriver.EglPlane} {i : Nat}
    (hbuild : Building k0 k img img.numObjects) (hslots : img.numObjects + planes.length ≤ 4)
    (hexport : NVDriver.exportPlanes planes i (img, k) = some (img', k')) :
    Building k0 k' img' img'.numObjects := by
  induction planes generalizing i img k with
  | nil =>
      cases hexport
      exact hbuild
  | cons plane rest ih =>
      unfold NVDriver.exportPlanes at hexport
      obtain ⟨⟨img1, k1⟩, hplane, hexport⟩ := Option.bind_eq_some_iff.mp hexport
      rw [List.length_cons] at hslots
      obtain ⟨hnext, hcount⟩ := exportPlane_building hbuild (by omega) hplane
      exact ih hnext (by omega) hexport

/-- An image that EGL allocates; only the table of descriptors changes with it. -/
theorem eglAllocate_allocated {d d' : NVDriver} {surface : NVSurface}
    {answer : Option NVDriver.EglExport} {result : Option BackingImage}
    (halloc : d.eglAllocateBackingImage surface answer = (result, d')) :
    (result = none ∧ d' = d) ∨
    ∃ img k, result = some img ∧ d' = { d with kernel := k } ∧ Allocated d.kernel k img := by
  unfold NVDriver.eglAllocateBackingImage at halloc
  split at halloc
  · cases halloc
    exact .inl ⟨rfl, rfl⟩
  · split at halloc
    · cases halloc
      exact .inl ⟨rfl, rfl⟩
    · simp only at halloc
      split at halloc
      · cases halloc
        exact .inl ⟨rfl, rfl⟩
      · rename_i exported hplanes _ img1 k1 hexport
        cases halloc
        have hslots : (NVDriver.eglImage surface exported.fourcc).numObjects +
            exported.planes.length ≤ 4 := by
          show 0 + exported.planes.length ≤ 4
          omega
        have hstart : Building d.kernel d.kernel (NVDriver.eglImage surface exported.fourcc) 0 :=
          Building.new ⟨rfl, rfl, rfl, rfl, rfl⟩ fun _ => rfl
        have hbuild := exportPlanes_building hstart hslots hexport
        exact .inr ⟨_, k1, rfl, rfl, hbuild.allocated ⟨rfl, rfl, rfl⟩ ⟨rfl, rfl, rfl, rfl, rfl⟩⟩

end Surface
end NvidiaVaapi
