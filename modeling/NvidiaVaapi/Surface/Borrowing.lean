import NvidiaVaapi.Surface.Allocation

/-!
# Who borrows which image

The invariant of the borrow counts, and what each change of one backing image does to it:
an image whose users stay the same, a new image, a borrow that is given back, an image that
is freed, and a new image that borrows.
-/

namespace NvidiaVaapi
namespace Surface

/-- The images own their descriptors: each leads to the file that was cached for it, to no
other image, and the files of images that are not imported were made for them. -/
structure Holding (d : NVDriver) : Prop where
  own : ∀ id img i, d.heap.get id = some img → 0 ≤ img.fds i →
    ∃ file, d.kernel.fileAt (img.fds i) = some file ∧ img.stDev i = file.dev ∧
      img.stIno i = file.ino
  distinct : ∀ id id' img img' i j, d.heap.get id = some img → d.heap.get id' = some img' →
    0 ≤ img.fds i → img.fds i = img'.fds j → id = id' ∧ i = j
  imported : ∀ id img, d.heap.get id = some img → img.isExternalBuffer = true → 0 ≤ img.fds 0
  unique : ∀ id id' img img' i j, d.heap.get id = some img → d.heap.get id' = some img' →
    img.isExternalBuffer = false → img'.isExternalBuffer = false → 0 ≤ img.fds i →
    0 ≤ img'.fds j → img.stIno i = img'.stIno j → id = id'
  slots : ∀ id img i, d.heap.get id = some img → 4 ≤ i → img.fds i = -1
  limit : d.kernel.limit ≤ 2 ^ 31
  bounded : d.kernel.files.length ≤ d.kernel.limit
  numbered : d.kernel.Numbered

/-- Every borrow is counted, and every lender is alive and in the array `images`.  A call may
hold one image that it has retained for a borrower to come. -/
structure Borrowing (held : Option ImageId) (d : NVDriver) : Prop extends Holding d where
  counted : ∀ id img, d.heap.get id = some img →
    img.borrowCount = d.borrowers id + if held = some id then 1 else 0
  retained : ∀ id, held = some id → id ∈ d.images
  lender : ∀ id img lender, d.heap.get id = some img → img.borrowedBackingImage = some lender →
    img.isExternalBuffer = true ∧ lender ∈ d.images
  cached : ∀ id ∈ d.images, ∃ img, d.heap.get id = some img ∧ img.isExternalBuffer = false ∧
    img.borrowedBackingImage = none ∧ img.borrowedCudaResources = false
  nodup : d.images.Nodup

/-- Two images have the same descriptors and the same users. -/
def SameRole (img img' : BackingImage) : Prop :=
  SameFds img img' ∧ img'.isExternalBuffer = img.isExternalBuffer ∧
  img'.borrowedBackingImage = img.borrowedBackingImage ∧
  img'.borrowedCudaResources = img.borrowedCudaResources ∧ img'.borrowCount = img.borrowCount

/-- Writes to two different images commute. -/
theorem modifyImage_comm {d : NVDriver} {a b : ImageId} {f g : BackingImage → BackingImage}
    (hne : a ≠ b) : (d.modifyImage a f).modifyImage b g = (d.modifyImage b g).modifyImage a f := by
  unfold NVDriver.modifyImage
  cases ha : d.heap.get a with
  | none =>
      cases hb : d.heap.get b with
      | none => simp only [ha]
      | some y => simp only [ha, SlotTable.get_put_of_ne hne]
  | some x =>
      cases hb : d.heap.get b with
      | none => simp only [hb, ha, SlotTable.get_put_of_ne hne.symm]
      | some y =>
          simp only [hb, ha, SlotTable.get_put_of_ne hne, SlotTable.get_put_of_ne hne.symm]
          unfold SlotTable.put
          rw [List.set_comm _ _ hne]

namespace Holding

variable {d d' : NVDriver} {id : ImageId} {img img' : BackingImage}

theorem congr (h : Holding d) (hheap : d'.heap = d.heap) (hkernel : d'.kernel = d.kernel) :
    Holding d' := by
  constructor
  · rw [hheap, hkernel]
    exact h.own
  · rw [hheap]
    exact h.distinct
  · rw [hheap]
    exact h.imported
  · rw [hheap]
    exact h.unique
  · rw [hheap]
    exact h.slots
  · rw [hkernel]
    exact h.limit
  · rw [hkernel]
    exact h.bounded
  · rw [hkernel]
    exact h.numbered

/-- An image in whose place another one with the same descriptors comes. -/
theorem put (h : Holding d) (hget : d.heap.get id = some img) (hfds : SameFds img img')
    (hexternal : img'.isExternalBuffer = img.isExternalBuffer) :
    Holding { d with heap := d.heap.put id img' } := by
  have hother : ∀ {other : ImageId} {x : BackingImage},
      (d.heap.put id img').get other = some x →
      ∃ y, d.heap.get other = some y ∧ SameFds y x ∧
        x.isExternalBuffer = y.isExternalBuffer := by
    intro other x hx
    by_cases hne : other = id
    · subst hne
      rw [SlotTable.get_put (SlotTable.lt_of_get hget)] at hx
      cases hx
      exact ⟨img, hget, hfds, hexternal⟩
    · rw [SlotTable.get_put_of_ne hne] at hx
      exact ⟨x, hx, ⟨rfl, rfl, rfl⟩, rfl⟩
  refine ⟨?_, ?_, ?_, ?_, ?_, h.limit, h.bounded, h.numbered⟩
  · intro other x i hx hnonneg
    obtain ⟨y, hy, ⟨hyfds, hydev, hyino⟩, -⟩ := hother hx
    rw [hyfds] at hnonneg ⊢
    rw [hydev, hyino]
    exact h.own other y i hy hnonneg
  · intro a b x x' i j hx hx' hnonneg hsame
    obtain ⟨y, hy, ⟨hyfds, -⟩, -⟩ := hother hx
    obtain ⟨y', hy', ⟨hyfds', -⟩, -⟩ := hother hx'
    rw [hyfds] at hnonneg hsame
    rw [hyfds'] at hsame
    exact h.distinct a b y y' i j hy hy' hnonneg hsame
  · intro other x hx hxexternal
    obtain ⟨y, hy, ⟨hyfds, -⟩, hsameExternal⟩ := hother hx
    rw [hyfds]
    exact h.imported other y hy (hsameExternal ▸ hxexternal)
  · intro a b x x' i j hx hx' howned howned' hnonneg hnonneg' hsame
    obtain ⟨y, hy, ⟨hyfds, -, hyino⟩, hsameExternal⟩ := hother hx
    obtain ⟨y', hy', ⟨hyfds', -, hyino'⟩, hsameExternal'⟩ := hother hx'
    rw [hyfds] at hnonneg
    rw [hyfds'] at hnonneg'
    rw [hyino, hyino'] at hsame
    exact h.unique a b y y' i j hy hy' (hsameExternal ▸ howned) (hsameExternal' ▸ howned')
      hnonneg hnonneg' hsame
  · intro other x i hx hi
    obtain ⟨y, hy, ⟨hyfds, -⟩, -⟩ := hother hx
    rw [hyfds]
    exact h.slots other y i hy hi

/-- Descriptors that were opened, and none of an image that was closed. -/
theorem setKernel (h : Holding d) {k : Kernel}
    (hkeeps : ∀ id img i file, d.heap.get id = some img → 0 ≤ img.fds i →
      d.kernel.fileAt (img.fds i) = some file → k.fileAt (img.fds i) = some file)
    (hlimit : k.limit = d.kernel.limit) (hbounded : k.files.length ≤ k.limit)
    (hnumbered : k.Numbered) : Holding { d with kernel := k } := by
  refine ⟨?_, h.distinct, h.imported, h.unique, h.slots, ?_, hbounded, hnumbered⟩
  · intro id img i hget hnonneg
    obtain ⟨file, hfile, hcached⟩ := h.own id img i hget hnonneg
    exact ⟨file, hkeeps id img i file hget hnonneg hfile, hcached⟩
  · exact hlimit.trans_le h.limit

/-- A new image with descriptors of its own. -/
theorem push (h : Holding d) {k : Kernel} (hown : OwnFds d.kernel k img)
    (hexternal : img.isExternalBuffer = true → 0 ≤ img.fds 0)
    (hfresh : img.isExternalBuffer = false →
      ∀ i, 0 ≤ img.fds i → d.kernel.nextIno ≤ img.stIno i) :
    Holding { d with kernel := k, heap := d.heap.push img } := by
  have hcases : ∀ {other : ImageId} {x : BackingImage}, (d.heap.push img).get other = some x →
      (other = d.heap.length ∧ x = img) ∨ d.heap.get other = some x := by
    intro other x hx
    by_cases hne : other = d.heap.length
    · subst hne
      rw [SlotTable.get_push_length] at hx
      cases hx
      exact .inl ⟨rfl, rfl⟩
    · rw [SlotTable.get_push_of_ne hne] at hx
      exact .inr hx
  have hnotOwn : ∀ other x i, d.heap.get other = some x → 0 ≤ x.fds i →
      ∀ j, 0 ≤ img.fds j → x.fds i ≠ img.fds j := by
    intro other x i hx hnonneg j hj heq
    obtain ⟨file, hfile, -⟩ := h.own other x i hx hnonneg
    rw [heq, hown.closed j hj] at hfile
    cases hfile
  -- The file of an image that there was has a number from before.
  have holdIno : ∀ other x i, d.heap.get other = some x → 0 ≤ x.fds i →
      x.stIno i < d.kernel.nextIno := by
    intro other x i hx hnonneg
    obtain ⟨file, hfile, -, hino⟩ := h.own other x i hx hnonneg
    rw [hino]
    exact h.numbered _ file hfile
  refine ⟨?_, ?_, ?_, ?_, ?_, hown.limit.trans_le h.limit, hown.bounded h.bounded,
    hown.numbered h.numbered⟩
  · intro other x i hx hnonneg
    rcases hcases hx with ⟨rfl, rfl⟩ | hold
    · exact hown.cached i hnonneg
    · obtain ⟨file, hfile, hcached⟩ := h.own other x i hold hnonneg
      exact ⟨file, hown.keeps _ file hfile, hcached⟩
  · intro a b x y i j hx hy hnonneg hsame
    rcases hcases hx with ⟨rfl, rfl⟩ | hold <;> rcases hcases hy with ⟨rfl, rfl⟩ | hold'
    · exact ⟨rfl, hown.distinct i j hnonneg hsame⟩
    · exact absurd hsame.symm (hnotOwn b y j hold' (hsame ▸ hnonneg) i hnonneg)
    · exact absurd hsame (hnotOwn a x i hold hnonneg j (hsame ▸ hnonneg))
    · exact h.distinct a b x y i j hold hold' hnonneg hsame
  · intro other x hx
    rcases hcases hx with ⟨rfl, rfl⟩ | hold
    · exact hexternal
    · exact h.imported other x hold
  · intro a b x y i j hx hy howned howned' hnonneg hnonneg' hsame
    rcases hcases hx with ⟨rfl, rfl⟩ | hold <;> rcases hcases hy with ⟨rfl, rfl⟩ | hold'
    · rfl
    · have hnew := hfresh howned i hnonneg
      have hbefore := holdIno b y j hold' hnonneg'
      omega
    · have hnew := hfresh howned' j hnonneg'
      have hbefore := holdIno a x i hold hnonneg
      omega
    · exact h.unique a b x y i j hold hold' howned howned' hnonneg hnonneg' hsame
  · intro other x i hx hi
    rcases hcases hx with ⟨rfl, rfl⟩ | hold
    · exact hown.slots i hi
    · exact h.slots other x i hold hi

/-- An image whose descriptors are closed. -/
theorem free (h : Holding d) (hget : d.heap.get id = some img) :
    Holding { d with kernel := d.kernel.closeFds img, heap := d.heap.clear id } := by
  have hother : ∀ {other : ImageId} {x : BackingImage}, (d.heap.clear id).get other = some x →
      other ≠ id ∧ d.heap.get other = some x := by
    intro other x hx
    by_cases hne : other = id
    · subst hne
      rw [SlotTable.get_clear] at hx
      cases hx
    · rw [SlotTable.get_clear_of_ne hne] at hx
      exact ⟨hne, hx⟩
  constructor
  · intro other x i hx hnonneg
    obtain ⟨hne, hold⟩ := hother hx
    obtain ⟨file, hfile, hcached⟩ := h.own other x i hold hnonneg
    refine ⟨file, ?_, hcached⟩
    rw [Kernel.fileAt_closeFds, hfile]
    intro j _ heq
    exact hne (h.distinct other id x img i j hold hget hnonneg heq.symm).1
  · intro a b x y i j hx hy
    exact h.distinct a b x y i j (hother hx).2 (hother hy).2
  · intro other x hx
    exact h.imported other x (hother hx).2
  · intro a b x y i j hx hy
    exact h.unique a b x y i j (hother hx).2 (hother hy).2
  · intro other x i hx
    exact h.slots other x i (hother hx).2
  · rw [Kernel.closeFds_limit]
    exact h.limit
  · rw [Kernel.closeFds_limit, Kernel.closeFds_length]
    exact h.bounded
  · exact h.numbered.closeFds

end Holding

namespace Borrowing

variable {held : Option ImageId} {d d' : NVDriver} {id lender : ImageId}
  {img img' : BackingImage}

/-- Nothing else of the driver matters. -/
theorem congr (h : Borrowing held d) (hheap : d'.heap = d.heap) (himages : d'.images = d.images)
    (hkernel : d'.kernel = d.kernel) :
    Borrowing held d' := by
  refine ⟨h.toHolding.congr hheap hkernel, ?_, ?_, ?_, ?_, ?_⟩
  · intro id img hget
    rw [hheap] at hget
    unfold NVDriver.borrowers
    rw [hheap]
    exact h.counted id img hget
  · rw [himages]
    exact h.retained
  · rw [hheap, himages]
    exact h.lender
  · rw [hheap, himages]
    exact h.cached
  · rw [himages]
    exact h.nodup

/-- An image that is not in the array lends nothing. -/
theorem borrowers_eq_zero (h : Borrowing held d) (hnot : id ∉ d.images) : d.borrowers id = 0 := by
  refine SlotTable.count_eq_zero.mpr fun i img hget => ?_
  rw [decide_eq_false_iff_not]
  intro hborrowed
  exact hnot (h.lender i img id hget hborrowed).2

/-- An image that is not in the array is not lent. -/
theorem unlent (h : Borrowing none d) (hnot : id ∉ d.images) (hget : d.heap.get id = some img) :
    img.borrowCount = 0 := by
  have hcount := h.counted id img hget
  rw [h.borrowers_eq_zero hnot] at hcount
  simpa using hcount

/-- Imported images have descriptors, so there are at most `2 ^ 31` of them. -/
theorem borrowers_le (h : Borrowing held d) (id : ImageId) : d.borrowers id ≤ 2 ^ 31 := by
  have hle : d.borrowers id ≤ d.kernel.files.length := by
    refine SlotTable.count_le
      (fun i => (((d.heap.get i).map fun img : BackingImage => img.fds 0).getD 0).toNat) ?_ ?_
    · intro i img hget hborrows
      have hexternal := (h.lender i img id hget (of_decide_eq_true hborrows)).1
      have hnonneg := h.imported i img hget hexternal
      obtain ⟨file, hfile, -⟩ := h.own i img 0 hget hnonneg
      have hslot : d.kernel.files.get (img.fds 0).toNat = some file := by
        rwa [← Kernel.fileAt_natCast, Int.toNat_of_nonneg hnonneg]
      rw [hget]
      exact SlotTable.lt_of_get hslot
    · intro i j img img' hget hget' hborrows hborrows' hsame
      have hnonneg := h.imported i img hget
        (h.lender i img id hget (of_decide_eq_true hborrows)).1
      have hnonneg' := h.imported j img' hget'
        (h.lender j img' id hget' (of_decide_eq_true hborrows')).1
      rw [hget, hget'] at hsame
      simp only [Option.map_some, Option.getD_some] at hsame
      exact (h.distinct i j img img' 0 0 hget hget' hnonneg (by omega)).1
  have hlimit := h.limit
  have hbounded := h.bounded
  omega

/-- An image in whose place another one comes that is the same but for its borrow count,
with a count that is right for the image that is held then. -/
theorem recount {held' : Option ImageId} (h : Borrowing held d) (hget : d.heap.get id = some img)
    (hfds : SameFds img img') (hexternal : img'.isExternalBuffer = img.isExternalBuffer)
    (hborrowed : img'.borrowedBackingImage = img.borrowedBackingImage)
    (hresources : img'.borrowedCudaResources = img.borrowedCudaResources)
    (hcount : img'.borrowCount = d.borrowers id + if held' = some id then 1 else 0)
    (hheld : ∀ other, other ≠ id → (held' = some other ↔ held = some other))
    (hretained : held' = some id → id ∈ d.images) :
    Borrowing held' { d with heap := d.heap.put id img' } := by
  have hlt := SlotTable.lt_of_get hget
  have hother : ∀ {other : ImageId} {x : BackingImage},
      (d.heap.put id img').get other = some x →
      ∃ y, d.heap.get other = some y ∧ x.isExternalBuffer = y.isExternalBuffer ∧
        x.borrowedBackingImage = y.borrowedBackingImage ∧
        (other = id ∧ x = img' ∨ other ≠ id ∧ x = y) := by
    intro other x hx
    by_cases hne : other = id
    · subst hne
      rw [SlotTable.get_put hlt] at hx
      cases hx
      exact ⟨img, hget, hexternal, hborrowed, .inl ⟨rfl, rfl⟩⟩
    · rw [SlotTable.get_put_of_ne hne] at hx
      exact ⟨x, hx, rfl, rfl, .inr ⟨hne, rfl⟩⟩
  have hborrowers : ∀ other,
      NVDriver.borrowers { d with heap := d.heap.put id img' } other = d.borrowers other := by
    intro other
    have hput := SlotTable.count_put (a := img')
      (p := fun x : BackingImage => decide (x.borrowedBackingImage = some other)) hget
    rw [hborrowed] at hput
    exact Nat.add_right_cancel hput
  refine ⟨h.toHolding.put hget hfds hexternal, ?_, ?_, ?_, ?_, h.nodup⟩
  · intro other x hx
    obtain ⟨y, hy, -, -, ⟨rfl, rfl⟩ | ⟨hne, rfl⟩⟩ := hother hx
    · rw [hborrowers]
      exact hcount
    · rw [hborrowers, h.counted other x hy]
      simp only [hheld other hne]
  · intro other hsome
    by_cases hne : other = id
    · subst hne
      exact hretained hsome
    · exact h.retained other ((hheld other hne).mp hsome)
  · intro other x lender hx hlender
    obtain ⟨y, hy, hsameExternal, hsame, -⟩ := hother hx
    rw [hsameExternal]
    exact h.lender other y lender hy (hsame ▸ hlender)
  · intro other hmem
    obtain ⟨x, hx, howned, hnone, hresources'⟩ := h.cached other hmem
    by_cases hne : other = id
    · subst hne
      rw [hget] at hx
      cases hx
      exact ⟨img', SlotTable.get_put hlt, hexternal.trans howned, hborrowed.trans hnone,
        hresources.trans hresources'⟩
    · exact ⟨x, (SlotTable.get_put_of_ne hne).trans hx, howned, hnone, hresources'⟩

/-- An image in whose place another one with the same role comes. -/
theorem put (h : Borrowing held d) (hget : d.heap.get id = some img) (hrole : SameRole img img') :
    Borrowing held { d with heap := d.heap.put id img' } := by
  obtain ⟨hfds, hexternal, hborrowed, hresources, hcount⟩ := hrole
  exact h.recount hget hfds hexternal hborrowed hresources (hcount.trans (h.counted id img hget))
    (fun _ _ => Iff.rfl) (h.retained id)

/-- A write that leaves the role of the image. -/
theorem modifyImage (h : Borrowing held d) {f : BackingImage → BackingImage}
    (hrole : ∀ img, SameRole img (f img)) : Borrowing held (d.modifyImage id f) := by
  unfold NVDriver.modifyImage
  split
  · rename_i img hget
    exact h.put hget (hrole img)
  · exact h

/-- Only the table of descriptors changes. -/
theorem setHolding (h : Borrowing held d) {k : Kernel} (hholding : Holding { d with kernel := k }) :
    Borrowing held { d with kernel := k } :=
  ⟨hholding, h.counted, h.retained, h.lender, h.cached, h.nodup⟩

/-- Images in memory have their descriptors still when others are opened. -/
theorem grow (h : Borrowing held d) {k : Kernel} (hopens : Opens d.kernel k) :
    Borrowing held { d with kernel := k } :=
  h.setHolding (h.setKernel (fun _ _ _ file _ _ hfile => hopens.keeps _ file hfile) hopens.limit
    (hopens.bounded h.bounded) (hopens.numbered h.numbered))

/-- Images in memory have their descriptors still when those of an image that could not be
made are closed again. -/
theorem abandon (h : Borrowing held d) {k : Kernel} (hown : OwnFds d.kernel k img) :
    Borrowing held { d with kernel := k.closeFds img } := by
  refine h.setHolding (h.setKernel (fun _ _ _ file _ _ hfile => hown.keeps_closeFds hfile)
    ?_ ?_ (hown.numbered h.numbered).closeFds)
  · rw [Kernel.closeFds_limit]
    exact hown.limit
  · rw [Kernel.closeFds_limit, Kernel.closeFds_length]
    exact hown.bounded h.bounded

/-- A new image with descriptors of its own.  It borrows nothing, or the image that is held
for it. -/
theorem push (h : Borrowing held d) {k : Kernel} (hown : OwnFds d.kernel k img)
    (hcount : img.borrowCount = 0)
    (hexternal : img.isExternalBuffer = true → 0 ≤ img.fds 0)
    (hfresh : img.isExternalBuffer = false →
      ∀ i, 0 ≤ img.fds i → d.kernel.nextIno ≤ img.stIno i)
    (hborrows : img.borrowedBackingImage = held)
    (hlender : ∀ lender, held = some lender → img.isExternalBuffer = true) :
    Borrowing none { d with kernel := k, heap := d.heap.push img } := by
  have hcases : ∀ {other : ImageId} {x : BackingImage}, (d.heap.push img).get other = some x →
      (other = d.heap.length ∧ x = img) ∨ d.heap.get other = some x := by
    intro other x hx
    by_cases hne : other = d.heap.length
    · subst hne
      rw [SlotTable.get_push_length] at hx
      cases hx
      exact .inl ⟨rfl, rfl⟩
    · rw [SlotTable.get_push_of_ne hne] at hx
      exact .inr hx
  have hnew : d.heap.length ∉ d.images := by
    intro hmem
    obtain ⟨x, hx, -⟩ := h.cached _ hmem
    exact absurd (SlotTable.lt_of_get hx) (Nat.lt_irrefl _)
  have hborrowers : ∀ other, NVDriver.borrowers
      { d with kernel := k, heap := d.heap.push img } other =
        d.borrowers other + if held = some other then 1 else 0 := by
    intro other
    unfold NVDriver.borrowers
    rw [SlotTable.count_push, hborrows]
    simp only [decide_eq_true_eq]
  refine ⟨h.toHolding.push hown hexternal hfresh, ?_, ?_, ?_, ?_, h.nodup⟩
  · intro other x hx
    rw [hborrowers]
    rcases hcases hx with ⟨rfl, rfl⟩ | hold
    · have hnot : held ≠ some d.heap.length := fun heq => hnew (h.retained _ heq)
      simp [hcount, h.borrowers_eq_zero hnew, hnot]
    · simp [h.counted other x hold]
  · intro other hheld
    cases hheld
  · intro other x lender hx hx'
    rcases hcases hx with ⟨rfl, rfl⟩ | hold
    · rw [hborrows] at hx'
      exact ⟨hlender lender hx', h.retained lender hx'⟩
    · exact h.lender other x lender hold hx'
  · intro other hmem
    obtain ⟨x, hx, hrest⟩ := h.cached other hmem
    exact ⟨x, SlotTable.get_push_of_get hx, hrest⟩

/-- `retainBackingImageByFd` retains an image of the array. -/
theorem retain (h : Borrowing none d) (hmem : id ∈ d.images) :
    Borrowing (some id) (d.retainBackingImage id) := by
  obtain ⟨img, hget, -⟩ := h.cached id hmem
  have hcount := h.counted id img hget
  unfold NVDriver.retainBackingImage NVDriver.modifyImage
  rw [hget]
  refine h.recount hget ⟨rfl, rfl, rfl⟩ rfl rfl rfl ?_ ?_ fun _ => hmem
  · have hbelow : d.borrowers id + 1 < 2 ^ 32 := by
      have hle := h.borrowers_le id
      omega
    simp only [reduceCtorEq, if_false] at hcount
    simp only [if_true, hcount, Nat.add_zero, Nat.mod_eq_of_lt hbelow]
  · intro other hne
    constructor
    · intro heq
      exact absurd (Option.some.inj heq).symm hne
    · intro heq
      cases heq

/-- The image that is held is let go by taking one from its count. -/
theorem unhold (h : Borrowing (some id) d) {f : BackingImage → BackingImage}
    (hfds : ∀ img, SameFds img (f img))
    (hexternal : ∀ img, (f img).isExternalBuffer = img.isExternalBuffer)
    (hborrowed : ∀ img, (f img).borrowedBackingImage = img.borrowedBackingImage)
    (hresources : ∀ img, (f img).borrowedCudaResources = img.borrowedCudaResources)
    (hcount : ∀ img n, img.borrowCount = n + 1 → n < 2 ^ 32 → (f img).borrowCount = n) :
    Borrowing none (d.modifyImage id f) := by
  obtain ⟨img, hget, -⟩ := h.cached id (h.retained id rfl)
  have hle := h.borrowers_le id
  have hold := h.counted id img hget
  simp only [if_true] at hold
  unfold NVDriver.modifyImage
  rw [hget]
  refine h.recount hget (hfds img) (hexternal img) (hborrowed img) (hresources img) ?_ ?_ nofun
  · have hlt : d.borrowers id < 2 ^ 32 := by omega
    exact hcount img _ hold hlt
  · intro other hne
    constructor
    · intro heq
      cases heq
    · intro heq
      exact absurd (Option.some.inj heq).symm hne

/-- The image is let go where its layout is not that of the import. -/
theorem drop (h : Borrowing (some id) d) : Borrowing none (d.dropBackingImage id) := by
  refine h.unhold (fun _ => ⟨rfl, rfl, rfl⟩) (fun _ => rfl) (fun _ => rfl) (fun _ => rfl) ?_
  intro img n hcount hlt
  simp only [hcount]
  omega

/-- An image that stops to borrow leaves its lender held. -/
theorem unborrow (h : Borrowing none d) (hget : d.heap.get id = some img)
    (hborrowed : img.borrowedBackingImage = some lender) :
    Borrowing (some lender)
      { d with heap := d.heap.put id { img with borrowedBackingImage := none } } := by
  have hlt := SlotTable.lt_of_get hget
  have hlends := h.lender id img lender hget hborrowed
  have hother : ∀ {other : ImageId} {x : BackingImage},
      (d.heap.put id { img with borrowedBackingImage := none }).get other = some x →
      ∃ y, d.heap.get other = some y ∧ x.isExternalBuffer = y.isExternalBuffer ∧
        x.borrowCount = y.borrowCount ∧
        (x.borrowedBackingImage = none ∨ x.borrowedBackingImage = y.borrowedBackingImage) := by
    intro other x hx
    by_cases hne : other = id
    · subst hne
      rw [SlotTable.get_put hlt] at hx
      cases hx
      exact ⟨img, hget, rfl, rfl, .inl rfl⟩
    · rw [SlotTable.get_put_of_ne hne] at hx
      exact ⟨x, hx, rfl, rfl, .inr rfl⟩
  have hborrowers : ∀ other, d.borrowers other = NVDriver.borrowers
      { d with heap := d.heap.put id { img with borrowedBackingImage := none } } other +
        if some lender = some other then 1 else 0 := by
    intro other
    have hput := SlotTable.count_put (a := { img with borrowedBackingImage := none })
      (p := fun x : BackingImage => decide (x.borrowedBackingImage = some other)) hget
    simp only [hborrowed, decide_eq_true_eq, reduceCtorEq, if_false, Nat.add_zero] at hput
    exact hput.symm
  refine ⟨h.toHolding.put hget ⟨rfl, rfl, rfl⟩ rfl, ?_, ?_, ?_, ?_, h.nodup⟩
  · intro other x hx
    obtain ⟨y, hy, -, hcount, -⟩ := hother hx
    have hold := h.counted other y hy
    simp only [reduceCtorEq, if_false, Nat.add_zero] at hold
    rw [hcount, hold, hborrowers other]
  · intro other hheld
    rw [← Option.some.inj hheld]
    exact hlends.2
  · intro other x lender' hx hlender
    obtain ⟨y, hy, hsameExternal, -, hnone | hsame⟩ := hother hx
    · rw [hnone] at hlender
      cases hlender
    · rw [hsameExternal]
      exact h.lender other y lender' hy (hsame ▸ hlender)
  · intro other hmem
    obtain ⟨x, hx, howned, hnone, hresources⟩ := h.cached other hmem
    by_cases hne : other = id
    · subst hne
      rw [hget] at hx
      cases hx
      rw [hnone] at hborrowed
      cases hborrowed
    · exact ⟨x, (SlotTable.get_put_of_ne hne).trans hx, howned, hnone, hresources⟩

/-- An image that lends is not one that borrows. -/
theorem lender_ne (h : Borrowing held d) (hget : d.heap.get id = some img)
    (hborrowed : img.borrowedBackingImage = some lender) : lender ≠ id := by
  rintro rfl
  obtain ⟨x, hx, -, hnone, -⟩ := h.cached lender (h.lender lender img lender hget hborrowed).2
  rw [hget] at hx
  cases hx
  rw [hnone] at hborrowed
  cases hborrowed

/-- A borrow that is given back. -/
theorem release (h : Borrowing none d) : Borrowing none (d.nvReleaseBackingImageBorrow id) := by
  unfold NVDriver.nvReleaseBackingImageBorrow
  split
  · rename_i img hget
    split
    · rename_i lender hborrowed
      rw [modifyImage_comm (h.lender_ne hget hborrowed)]
      have hunborrow := h.unborrow hget hborrowed
      have hwrite : (d.modifyImage id fun img => { img with borrowedBackingImage := none }) =
          { d with heap := d.heap.put id { img with borrowedBackingImage := none } } := by
        unfold NVDriver.modifyImage
        rw [hget]
      rw [hwrite]
      refine hunborrow.unhold (fun _ => ⟨rfl, rfl, rfl⟩) (fun _ => rfl) (fun _ => rfl)
        (fun _ => rfl) ?_
      intro img n hcount _
      simp only [hcount]
      omega
    · exact h
  · exact h

/-- An image that is not in the array and borrows nothing is freed. -/
theorem free (h : Borrowing none d) (hnot : id ∉ d.images)
    (hnone : ∀ img, d.heap.get id = some img → img.borrowedBackingImage = none) :
    Borrowing none (d.freeImage id) := by
  unfold NVDriver.freeImage
  split
  · rename_i img hget
    suffices hfreed : Borrowing none
        { d with kernel := d.kernel.closeFds img, heap := d.heap.clear id } from
      hfreed.congr rfl rfl rfl
    have hother : ∀ {other : ImageId} {x : BackingImage}, (d.heap.clear id).get other = some x →
        other ≠ id ∧ d.heap.get other = some x := by
      intro other x hx
      by_cases hne : other = id
      · subst hne
        rw [SlotTable.get_clear] at hx
        cases hx
      · rw [SlotTable.get_clear_of_ne hne] at hx
        exact ⟨hne, hx⟩
    have hborrowers : ∀ other, NVDriver.borrowers
        { d with kernel := d.kernel.closeFds img, heap := d.heap.clear id } other =
          d.borrowers other := by
      intro other
      have hclear := SlotTable.count_clear
        (p := fun x : BackingImage => decide (x.borrowedBackingImage = some other)) hget
      simp only [hnone img hget, reduceCtorEq, decide_false, Bool.false_eq_true, if_false,
        Nat.add_zero] at hclear
      exact hclear
    refine ⟨h.toHolding.free hget, ?_, nofun, ?_, ?_, h.nodup⟩
    · intro other x hx
      obtain ⟨-, hold⟩ := hother hx
      rw [hborrowers]
      exact h.counted other x hold
    · intro other x lender hx hlender
      exact h.lender other x lender (hother hx).2 hlender
    · intro other hmem
      obtain ⟨x, hx, hrest⟩ := h.cached other hmem
      have hne : other ≠ id := fun heq => hnot (heq ▸ hmem)
      exact ⟨x, (SlotTable.get_clear_of_ne hne).trans hx, hrest⟩
  · exact h

/-- An image that is not lent leaves the array. -/
theorem remove (h : Borrowing none d) (hget : d.heap.get id = some img)
    (hzero : img.borrowCount = 0) : Borrowing none { d with images := d.images.erase id } := by
  have hborrowers : d.borrowers id = 0 := by
    have hcount := h.counted id img hget
    simp only [reduceCtorEq, if_false] at hcount
    omega
  refine ⟨h.toHolding.congr rfl rfl, h.counted, nofun, ?_, ?_, h.nodup.erase id⟩
  · intro other x lender hx hlender
    obtain ⟨hexternal, hmem⟩ := h.lender other x lender hx hlender
    refine ⟨hexternal, (List.mem_erase_of_ne ?_).mpr hmem⟩
    rintro rfl
    have hnone := SlotTable.count_eq_zero.mp hborrowers other x hx
    exact absurd hlender (of_decide_eq_false hnone)
  · intro other hmem
    exact h.cached other (List.mem_of_mem_erase hmem)

/-- An image that nobody has borrowed yet joins the array. -/
theorem join (h : Borrowing none d) (hget : d.heap.get id = some img)
    (howned : img.isExternalBuffer = false) (hnone : img.borrowedBackingImage = none)
    (hresources : img.borrowedCudaResources = false) (hnot : id ∉ d.images) :
    Borrowing none { d with images := d.images ++ [id] } := by
  refine ⟨h.toHolding.congr rfl rfl, h.counted, nofun, ?_, ?_, ?_⟩
  · intro other x lender hx hlender
    obtain ⟨hexternal, hmem⟩ := h.lender other x lender hx hlender
    exact ⟨hexternal, List.mem_append_left _ hmem⟩
  · intro other hmem
    rcases List.mem_append.mp hmem with hold | hnew
    · exact h.cached other hold
    · rw [List.mem_singleton.mp hnew]
      exact ⟨img, hget, howned, hnone, hresources⟩
  · exact List.Nodup.append h.nodup (List.nodup_singleton id)
      (List.disjoint_singleton.mpr hnot)

end Borrowing

end Surface
end NvidiaVaapi
