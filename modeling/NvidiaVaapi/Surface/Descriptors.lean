import NvidiaVaapi.Surface.Calls

/-!
# Whose descriptor it is

What opening and closing does to the table of descriptors, and the descriptors of an image
that is being made: they were closed before, lead to different slots, and no descriptor that
was open has changed.
-/

namespace NvidiaVaapi
namespace Surface

namespace Kernel

variable {k k' : Kernel} {fd other : Int} {file : OpenFile}

/-- Every open file has an inode number that no file will get any more. -/
def Numbered (k : Kernel) : Prop :=
  ∀ fd file, k.fileAt fd = some file → file.ino < k.nextIno

theorem fileAt_natCast (k : Kernel) (n : Nat) : k.fileAt n = k.files.get n := by
  have hnonneg : ¬ (n : Int) < 0 := by omega
  simp [fileAt, hnonneg]

theorem nonneg_of_fileAt (hfile : k.fileAt fd = some file) : 0 ≤ fd := by
  unfold fileAt at hfile
  split at hfile
  · cases hfile
  · omega

/-- What `install` does: the descriptor was closed, and leads to the file. -/
theorem install_spec (hinstall : k.install file = some (fd, k')) :
    k.fileAt fd = none ∧ k'.fileAt fd = some file ∧
    (∀ other, other ≠ fd → k'.fileAt other = k.fileAt other) ∧
    k'.limit = k.limit ∧ k'.nextIno = k.nextIno ∧
    (k.files.length ≤ k.limit → k'.files.length ≤ k'.limit) := by
  unfold install at hinstall
  split at hinstall
  · rename_i hfree
    cases hinstall
    refine ⟨?_, ?_, ?_, rfl, rfl, fun hlen => SlotTable.length_install_le hlen hfree⟩
    · rw [fileAt_natCast]
      exact SlotTable.get_firstFree
    · rw [fileAt_natCast]
      exact SlotTable.get_install
    · intro other hne
      unfold fileAt
      split
      · rfl
      · refine SlotTable.get_install_of_ne fun heq => hne ?_
        omega
  · cases hinstall

theorem dup_spec (hdup : k.nvDupFdCloexec fd = some (other, k')) :
    ∃ file, k.fileAt fd = some file ∧ k.install file = some (other, k') := by
  unfold nvDupFdCloexec at hdup
  exact Option.bind_eq_some_iff.mp hdup

@[simp] theorem close_limit : (k.close fd).limit = k.limit := by
  unfold close
  split <;> rfl

@[simp] theorem close_nextIno : (k.close fd).nextIno = k.nextIno := by
  unfold close
  split <;> rfl

@[simp] theorem close_length : (k.close fd).files.length = k.files.length := by
  unfold close
  split
  · rfl
  · exact SlotTable.length_clear

/-- Closing a descriptor opens nothing. -/
theorem fileAt_of_close (hfile : (k.close fd).fileAt other = some file) :
    k.fileAt other = some file := by
  unfold close at hfile
  split at hfile
  · exact hfile
  · unfold fileAt at hfile ⊢
    split at hfile
    · cases hfile
    · rename_i hnonneg
      rw [if_neg hnonneg]
      by_cases heq : other.toNat = fd.toNat
      · rw [heq, SlotTable.get_clear] at hfile
        cases hfile
      · rwa [SlotTable.get_clear_of_ne heq] at hfile

theorem Numbered.close (hnumbered : k.Numbered) : (k.close fd).Numbered := by
  intro other file hfile
  rw [close_nextIno]
  exact hnumbered other file (fileAt_of_close hfile)

theorem fileAt_close_of_ne (hne : other ≠ fd) : (k.close fd).fileAt other = k.fileAt other := by
  unfold close
  split
  · rfl
  · unfold fileAt
    split
    · rfl
    · refine SlotTable.get_clear_of_ne fun heq => hne ?_
      omega

/-- Descriptors that are none of the image stay as they are when those of the image are
closed. -/
theorem fileAt_closeFds {img : BackingImage} (hother : ∀ i, i < 4 → img.fds i ≠ fd) :
    (k.closeFds img).fileAt fd = k.fileAt fd := by
  have hloop : ∀ list : List Nat, (∀ i ∈ list, i < 4) → ∀ k : Kernel,
      (list.foldl (fun k i => k.close (img.fds i)) k).fileAt fd = k.fileAt fd := by
    intro list
    induction list with
    | nil => intro _ k; rfl
    | cons i rest ih =>
        intro hbound k
        rw [List.foldl_cons, ih (fun j hj => hbound j (List.mem_cons_of_mem _ hj))]
        exact fileAt_close_of_ne (hother i (hbound i List.mem_cons_self)).symm
  exact hloop _ (fun i hi => List.mem_range.mp hi) k

@[simp] theorem closeFds_limit {img : BackingImage} : (k.closeFds img).limit = k.limit := by
  simp [closeFds, List.range_succ]

@[simp] theorem closeFds_length {img : BackingImage} :
    (k.closeFds img).files.length = k.files.length := by
  simp [closeFds, List.range_succ]

theorem Numbered.closeFds {img : BackingImage} (hnumbered : k.Numbered) :
    (k.closeFds img).Numbered := by
  unfold Kernel.closeFds
  have hloop : ∀ (list : List Nat) (k : Kernel), k.Numbered →
      (list.foldl (fun k i => k.close (img.fds i)) k).Numbered := by
    intro list
    induction list with
    | nil => exact fun _ hk => hk
    | cons i rest ih => exact fun k hk => ih (k.close (img.fds i)) hk.close
  exact hloop _ k hnumbered

end Kernel

/-- Between two tables of descriptors some were opened and none was closed. -/
structure Opens (k k' : Kernel) : Prop where
  keeps : ∀ fd file, k.fileAt fd = some file → k'.fileAt fd = some file
  limit : k'.limit = k.limit
  nextIno : k.nextIno ≤ k'.nextIno
  numbered : k.Numbered → k'.Numbered
  bounded : k.files.length ≤ k.limit → k'.files.length ≤ k'.limit

namespace Opens

variable {k k' k'' : Kernel} {fd other : Int} {file : OpenFile}

theorem refl (k : Kernel) : Opens k k :=
  ⟨fun _ _ hfile => hfile, rfl, Nat.le_refl _, id, id⟩

theorem trans (h : Opens k k') (h' : Opens k' k'') : Opens k k'' where
  keeps := fun fd file hfile => h'.keeps fd file (h.keeps fd file hfile)
  limit := h'.limit.trans h.limit
  nextIno := h.nextIno.trans h'.nextIno
  numbered := fun hk => h'.numbered (h.numbered hk)
  bounded := fun hk => h'.bounded (h.bounded hk)

/-- One more descriptor, for a file that was open or gets the next inode number. -/
theorem install {ino : Nat} (hino : k.nextIno ≤ ino) (hfile : k.Numbered → file.ino < ino)
    (hinstall : { k with nextIno := ino }.install file = some (fd, k')) : Opens k k' := by
  obtain ⟨hclosed, hopen, hothers, hlimit, hnext, hbounded⟩ := Kernel.install_spec hinstall
  change k.fileAt fd = none at hclosed
  change ∀ other, other ≠ fd → k'.fileAt other = k.fileAt other at hothers
  refine ⟨?_, hlimit, hnext ▸ hino, ?_, hbounded⟩
  · intro other f hother
    rw [hothers other, hother]
    rintro rfl
    rw [hclosed] at hother
    cases hother
  · intro hnumbered other f hother
    rw [hnext]
    by_cases heq : other = fd
    · subst heq
      rw [hopen] at hother
      cases hother
      exact hfile hnumbered
    · rw [hothers other heq] at hother
      exact Nat.lt_of_lt_of_le (hnumbered other f hother) hino

theorem dup (hdup : k.nvDupFdCloexec fd = some (other, k')) : Opens k k' := by
  obtain ⟨file, hsource, hinstall⟩ := Kernel.dup_spec hdup
  exact install (Nat.le_refl _) (fun hnumbered => hnumbered _ file hsource) hinstall

theorem create {dev : Nat} {size seekEnd : Int}
    (hcreate : k.create dev size seekEnd = some (fd, k')) : Opens k k' :=
  install (Nat.le_succ _) (fun _ => Nat.lt_succ_self _) hcreate

end Opens

/-- Between two tables of descriptors an image got its descriptors. -/
structure OwnFds (k k' : Kernel) (img : BackingImage) : Prop extends Opens k k' where
  closed : ∀ i, 0 ≤ img.fds i → k.fileAt (img.fds i) = none
  cached : ∀ i, 0 ≤ img.fds i → ∃ file, k'.fileAt (img.fds i) = some file ∧
    img.stDev i = file.dev ∧ img.stIno i = file.ino
  distinct : ∀ i j, 0 ≤ img.fds i → img.fds i = img.fds j → i = j
  slots : ∀ i, 4 ≤ i → img.fds i = -1

/-- The descriptors and what is cached of them, the part of an image that `OwnFds` is about. -/
def SameFds (img img' : BackingImage) : Prop :=
  img'.fds = img.fds ∧ img'.stDev = img.stDev ∧ img'.stIno = img.stIno

namespace OwnFds

variable {k k' k'' : Kernel} {img img' : BackingImage} {fd : Int} {file : OpenFile} {i : Nat}

theorem refl (hnone : ∀ i, img.fds i = -1) : OwnFds k k img where
  toOpens := Opens.refl k
  closed := fun i hi => by rw [hnone i] at hi; omega
  cached := fun i hi => by rw [hnone i] at hi; omega
  distinct := fun i j hi => by rw [hnone i] at hi; omega
  slots := fun i _ => hnone i

theorem congr (hown : OwnFds k k' img) (hsame : SameFds img img') : OwnFds k k' img' := by
  obtain ⟨hfds, hdev, hino⟩ := hsame
  refine { hown with closed := ?_, cached := ?_, distinct := ?_, slots := ?_ }
  · rw [hfds]
    exact hown.closed
  · rw [hfds, hdev, hino]
    exact hown.cached
  · rw [hfds]
    exact hown.distinct
  · rw [hfds]
    exact hown.slots

/-- One more descriptor, for a file that is installed. -/
theorem add (hown : OwnFds k k' img) (hslot : i < 4) (hfree : img.fds i = -1) {ino : Nat}
    (hino : k'.nextIno ≤ ino)
    (hfile : k'.Numbered → file.ino < ino)
    (hinstall : { k' with nextIno := ino }.install file = some (fd, k''))
    (hfds : img'.fds = Function.update img.fds i fd)
    (hdev : img'.stDev = Function.update img.stDev i file.dev)
    (hinode : img'.stIno = Function.update img.stIno i file.ino) : OwnFds k k'' img' := by
  obtain ⟨hclosed, hopen, -⟩ := Kernel.install_spec hinstall
  change k'.fileAt fd = none at hclosed
  have hopens : Opens k' k'' := Opens.install hino hfile hinstall
  have hnot : ∀ j, j ≠ i → 0 ≤ img.fds j → img.fds j ≠ fd := by
    intro j _ hj heq
    obtain ⟨f, hf, -⟩ := hown.cached j hj
    rw [heq, hclosed] at hf
    cases hf
  refine ⟨hown.toOpens.trans hopens, ?_, ?_, ?_, ?_⟩
  · intro j hj
    rw [hfds] at hj ⊢
    by_cases hji : j = i
    · subst hji
      rw [Function.update_self]
      cases hbefore : k.fileAt fd with
      | none => rfl
      | some f =>
          rw [hown.keeps fd f hbefore] at hclosed
          cases hclosed
    · rw [Function.update_of_ne hji] at hj ⊢
      exact hown.closed j hj
  · intro j hj
    rw [hfds] at hj ⊢
    rw [hdev, hinode]
    by_cases hji : j = i
    · subst hji
      simp only [Function.update_self]
      exact ⟨file, hopen, rfl, rfl⟩
    · simp only [Function.update_of_ne hji] at hj ⊢
      obtain ⟨f, hf, hcached⟩ := hown.cached j hj
      exact ⟨f, hopens.keeps _ f hf, hcached⟩
  · intro a b ha hab
    rw [hfds] at ha hab
    by_cases hai : a = i <;> by_cases hbi : b = i
    · rw [hai, hbi]
    · subst hai
      rw [Function.update_self, Function.update_of_ne hbi] at hab
      rw [Function.update_self] at ha
      exact absurd hab.symm (hnot b hbi (hab ▸ ha))
    · subst hbi
      rw [Function.update_of_ne hai] at ha
      rw [Function.update_of_ne hai, Function.update_self] at hab
      exact absurd hab (hnot a hai ha)
    · rw [Function.update_of_ne hai] at ha
      rw [Function.update_of_ne hai, Function.update_of_ne hbi] at hab
      exact hown.distinct a b ha hab
  · intro j hj
    have hne : j ≠ i := by omega
    rw [hfds, Function.update_of_ne hne]
    exact hown.slots j hj

/-- The descriptors of the image are closed again where it cannot be made. -/
theorem keeps_closeFds (hown : OwnFds k k' img) (hfile : k.fileAt fd = some file) :
    (k'.closeFds img).fileAt fd = some file := by
  rw [Kernel.fileAt_closeFds, hown.keeps fd file hfile]
  intro i _ heq
  have hnonneg := Kernel.nonneg_of_fileAt hfile
  have hclosed := hown.closed i (heq ▸ hnonneg)
  rw [heq, hfile] at hclosed
  cases hclosed

end OwnFds

/-! ## Images that are being made -/

/-- `cacheBackingImageFdStat` for a descriptor that is open. -/
theorem cacheBackingImageFdStat_eq {k : Kernel} (img : BackingImage) {i : Nat} {file : OpenFile}
    (hfile : k.fileAt (img.fds i) = some file) :
    cacheBackingImageFdStat k img i = { img with
      stDev := Function.update img.stDev i file.dev
      stIno := Function.update img.stIno i file.ino } := by
  unfold cacheBackingImageFdStat
  rw [hfile]

theorem sameFds_withImportedObject {img : BackingImage} (i objectSize modifier : Nat) :
    SameFds img (withImportedObject img i objectSize modifier) :=
  ⟨rfl, rfl, rfl⟩

/-- The objects of an import: each gets a descriptor of its own. -/
theorem importObjects_own {imported : ImportedSurface} {list : List Nat} {k k' : Kernel}
    {img img' : BackingImage} {result : Bool} {k0 : Kernel} (hown : OwnFds k0 k img)
    (hslots : ∀ i ∈ list, i < 4) (hfree : ∀ i ∈ list, img.fds i = -1) (hnodup : list.Nodup)
    (himport : importObjects imported list (img, k) = (result, img', k')) :
    OwnFds k0 k' img' := by
  induction list generalizing k img with
  | nil =>
      cases himport
      exact hown
  | cons i rest ih =>
      obtain ⟨hnotin, hrest⟩ := List.nodup_cons.mp hnodup
      unfold importObjects at himport
      cases hdup : k.nvDupFdCloexec (imported.objects i).fd with
      | none =>
          rw [hdup] at himport
          cases himport
          exact hown
      | some dup =>
          obtain ⟨fd, k1⟩ := dup
          rw [hdup] at himport
          obtain ⟨file, hsource, hinstall⟩ := Kernel.dup_spec hdup
          have hopen := (Kernel.install_spec hinstall).2.1
          have hfile : k1.fileAt (Function.update img.fds i fd i) = some file := by
            rw [Function.update_self]
            exact hopen
          have hcached := cacheBackingImageFdStat_eq
            { img with fds := Function.update img.fds i fd } hfile
          have hstep : OwnFds k0 k1 (cacheBackingImageFdStat k1
              { img with fds := Function.update img.fds i fd } i) := by
            rw [hcached]
            exact hown.add (hslots i List.mem_cons_self) (hfree i List.mem_cons_self) (Nat.le_refl _)
              (fun hnumbered => hnumbered _ file hsource) hinstall rfl rfl rfl
          simp only at himport
          split at himport
          · simp only [Prod.mk.injEq] at himport
            obtain ⟨-, rfl, rfl⟩ := himport
            exact hstep
          · have hnext := hstep.congr (sameFds_withImportedObject i
              (importedObjectSize (imported.objects i) (importedFdSize k1 fd))
              (imported.objects i).modifier)
            refine ih hnext (fun j hj => hslots j (List.mem_cons_of_mem _ hj)) ?_ hrest himport
            intro j hj
            rw [hcached]
            have hne : j ≠ i := fun heq => hnotin (heq ▸ hj)
            change Function.update img.fds i fd j = -1
            rw [Function.update_of_ne hne]
            exact hfree j (List.mem_cons_of_mem _ hj)

/-- The planes of an import change nothing of its descriptors. -/
theorem importPlanes_sameFds {imported : ImportedSurface} {list : List Nat}
    {img img' : BackingImage} (himport : importPlanes imported list img = some img') :
    SameFds img img' := by
  induction list generalizing img with
  | nil =>
      cases himport
      exact ⟨rfl, rfl, rfl⟩
  | cons i rest ih =>
      unfold importPlanes at himport
      simp only at himport
      split at himport
      · cases himport
      · have hrest := ih himport
        exact hrest

end Surface
end NvidiaVaapi
