import Mathlib.Data.List.Range
import NvidiaVaapi.SecurityClear.Clear

/-!
# What the clear covers

The chunks of the GPU path tile the rows of every plane and fit the scratch buffer that was
reserved before the first of them, and both paths leave the same bytes.
-/

namespace NvidiaVaapi
namespace SecurityClear

open Surface

variable {cuda : Cuda} {d d' d'' : NVDriver}

/-! ## Single calls -/

/-- Nothing but bytes and calls differs. -/
structure SameResources (d d' : NVDriver) : Prop where
  cudaWorkUnsafe : d'.cudaWorkUnsafe = d.cudaWorkUnsafe
  stream : d'.securityClearStream = d.securityClearStream
  buffer : d'.securityClearBuffer = d.securityClearBuffer
  size : d'.securityClearBufferSize = d.securityClearBufferSize
  memsetD16 : d'.cuMemsetD16Async = d.cuMemsetD16Async

theorem SameResources.refl (d : NVDriver) : SameResources d d :=
  ⟨rfl, rfl, rfl, rfl, rfl⟩

theorem SameResources.trans (h : SameResources d d') (h' : SameResources d' d'') :
    SameResources d d'' where
  cudaWorkUnsafe := h'.cudaWorkUnsafe.trans h.cudaWorkUnsafe
  stream := h'.stream.trans h.stream
  buffer := h'.buffer.trans h.buffer
  size := h'.size.trans h.size
  memsetD16 := h'.memsetD16.trans h.memsetD16

theorem issue_same (cuda : Cuda) (call : CudaCall) (d : NVDriver) :
    SameResources d (d.issue cuda call).2 := by
  unfold NVDriver.issue
  cases cuda.succeeds d.calls.length <;> cases call <;> exact ⟨rfl, rfl, rfl, rfl, rfl⟩

@[simp] theorem issue_calls (cuda : Cuda) (call : CudaCall) (d : NVDriver) :
    (d.issue cuda call).2.calls = d.calls ++ [call] := by
  unfold NVDriver.issue
  cases cuda.succeeds d.calls.length <;> cases call <;> rfl

/-- The bytes that a call leaves where it succeeds. -/
theorem issue_bytes {call : CudaCall} (hsucceeds : (d.issue cuda call).1 = true) :
    (d.issue cuda call).2.scratch = (d.apply call).scratch ∧
      (d.issue cuda call).2.arrays = (d.apply call).arrays := by
  have hcall : cuda.succeeds d.calls.length = true := hsucceeds
  unfold NVDriver.issue
  simp only [hcall, if_true]
  exact ⟨trivial, trivial⟩

/-! ## The rows of a plane -/

/-- The rows of a plane that a call copies. -/
def CudaCall.copiedRows (plane : Nat) : CudaCall → List Nat
  | .memcpy2D _ array dstY _ height => if array = plane then List.range' dstY height else []
  | _ => []

/-- The bytes of a source. -/
def CopySource.bytes (source : CopySource) (d : NVDriver) : Nat → UInt8 :=
  match source with
  | .device => d.scratch
  | .host rows => rows

/-- What the loop over the rows of a plane does, from a row on. -/
structure RowsCopied (source : CopySource) (plane widthInBytes height chunkRows y : Nat)
    (pattern : Nat → UInt8) (d : NVDriver) (copied : Bool) (d' : NVDriver) : Prop where
  same : SameResources d d'
  calls : ∃ work, d'.calls = d.calls ++ work ∧
    (∀ call ∈ work, ∃ dstY rows, call = .memcpy2D source plane dstY widthInBytes rows ∧
      rows ≤ chunkRows) ∧
    (copied = true → work.flatMap (CudaCall.copiedRows plane) = List.range' y (height - y))
  arrays : copied = true → ∀ a row x, d'.arrays a row x =
    if a = plane ∧ y ≤ row ∧ row < height ∧ x < widthInBytes then pattern x
    else d.arrays a row x
  others : ∀ a, a ≠ plane → d'.arrays a = d.arrays a

section Rows

variable {source : CopySource} {plane widthInBytes height chunkRows : Nat}
  {pattern : Nat → UInt8}

/-- At the end of the rows there is nothing to copy. -/
theorem RowsCopied.done {y : Nat} (hend : height ≤ y) (d : NVDriver) :
    RowsCopied source plane widthInBytes height chunkRows y pattern d true d where
  same := .refl d
  calls := by
    refine ⟨[], (List.append_nil _).symm, by simp, fun _ => ?_⟩
    rw [Nat.sub_eq_zero_of_le hend]
    rfl
  arrays := by
    intro _ a row x
    rw [if_neg (by omega)]
  others _ _ := rfl

/-- A copy leaves the scratch buffer and the other planes as they are. -/
theorem issue_copy (cuda : Cuda) (source : CopySource) (plane y widthInBytes rows : Nat)
    (d : NVDriver) :
    (d.issue cuda (.memcpy2D source plane y widthInBytes rows)).2.scratch = d.scratch ∧
    ∀ a, a ≠ plane →
      (d.issue cuda (.memcpy2D source plane y widthInBytes rows)).2.arrays a = d.arrays a := by
  unfold NVDriver.issue
  cases cuda.succeeds d.calls.length
  · exact ⟨rfl, fun _ _ => rfl⟩
  · refine ⟨rfl, fun a ha => ?_⟩
    funext row x
    exact if_neg fun h => ha h.1

/-- A copy that fails is the last one. -/
theorem RowsCopied.failed {y rows : Nat} (hrows : rows ≤ chunkRows) (d : NVDriver) :
    RowsCopied source plane widthInBytes height chunkRows y pattern d false
      (d.issue cuda (.memcpy2D source plane y widthInBytes rows)).2 where
  same := issue_same cuda _ d
  calls := by
    refine ⟨[_], issue_calls cuda _ d, ?_, fun h => absurd h Bool.false_ne_true⟩
    intro call hcall
    exact ⟨y, rows, List.mem_singleton.mp hcall, hrows⟩
  arrays h := absurd h Bool.false_ne_true
  others := (issue_copy cuda source plane y widthInBytes rows d).2

/-- A copy of the next rows, followed by the copies of those behind them. -/
theorem RowsCopied.next {y rows : Nat} {copied : Bool} {d d' : NVDriver}
    (hrows : rows = min chunkRows (height - y)) (hmore : y < height)
    (hpattern : ∀ j < chunkRows, ∀ x < widthInBytes,
      source.bytes d (j * widthInBytes + x) = pattern x)
    (hsucceeds : (d.issue cuda (.memcpy2D source plane y widthInBytes rows)).1 = true)
    (hrest : RowsCopied source plane widthInBytes height chunkRows (y + chunkRows) pattern
      (d.issue cuda (.memcpy2D source plane y widthInBytes rows)).2 copied d') :
    RowsCopied source plane widthInBytes height chunkRows y pattern d copied d' where
  same := (issue_same cuda _ d).trans hrest.same
  calls := by
    obtain ⟨work, hcalls, hwork, htiles⟩ := hrest.calls
    refine ⟨.memcpy2D source plane y widthInBytes rows :: work, ?_, ?_, fun hcopied => ?_⟩
    · rw [hcalls, issue_calls, List.append_assoc, List.singleton_append]
    · intro call hcall
      rcases List.mem_cons.mp hcall with rfl | hcall
      · exact ⟨y, rows, rfl, by omega⟩
      · exact hwork call hcall
    · rw [List.flatMap_cons, htiles hcopied, CudaCall.copiedRows, if_pos rfl]
      have hcount : height - y = rows + (height - (y + chunkRows)) := by omega
      rw [hcount, ← List.range'_append_1]
      congr 1
      by_cases hlast : chunkRows ≤ height - y
      · rw [show rows = chunkRows by omega]
      · rw [show height - (y + chunkRows) = 0 by omega]
        rfl
  arrays := by
    intro hcopied a row x
    rw [hrest.arrays hcopied a row x, (issue_bytes hsucceeds).2]
    have hbytes : (d.apply (.memcpy2D source plane y widthInBytes rows)).arrays a row x =
        if a = plane ∧ y ≤ row ∧ row < y + rows ∧ x < widthInBytes then
          source.bytes d ((row - y) * widthInBytes + x) else d.arrays a row x := rfl
    rw [hbytes]
    by_cases hlater : a = plane ∧ y + chunkRows ≤ row ∧ row < height ∧ x < widthInBytes
    · rw [if_pos hlater, if_pos ⟨hlater.1, by omega, hlater.2.2⟩]
    · rw [if_neg hlater]
      by_cases hnow : a = plane ∧ y ≤ row ∧ row < y + rows ∧ x < widthInBytes
      · rw [if_pos hnow, if_pos ⟨hnow.1, hnow.2.1, by omega, hnow.2.2.2⟩]
        exact hpattern _ (by omega) _ hnow.2.2.2
      · rw [if_neg hnow, if_neg]
        rintro ⟨ha, hfrom, hto, hx⟩
        have hlate : ¬y + chunkRows ≤ row := fun h => hlater ⟨ha, h, hto, hx⟩
        exact hnow ⟨ha, hfrom, by omega, hx⟩
  others a ha := (hrest.others a ha).trans
    ((issue_copy cuda source plane y widthInBytes rows d).2 a ha)

theorem copyRows_spec (hchunk : 0 < chunkRows) (hwrap : height + chunkRows ≤ 2 ^ 32) :
    ∀ (rounds y : Nat) (d : NVDriver), height ≤ y + rounds →
      (∀ j < chunkRows, ∀ x < widthInBytes,
        source.bytes d (j * widthInBytes + x) = pattern x) →
      ∃ copied d', copyRows cuda source plane widthInBytes height chunkRows rounds y d =
          some (copied, d') ∧
        RowsCopied source plane widthInBytes height chunkRows y pattern d copied d' := by
  intro rounds
  induction rounds with
  | zero =>
      intro y d hrounds _
      unfold copyRows
      rw [if_neg (by omega)]
      exact ⟨true, d, rfl, .done hrounds d⟩
  | succ rounds ih =>
      intro y d hrounds hpattern
      unfold copyRows
      by_cases hmore : y < height
      · rw [if_pos hmore]
        simp only
        have hrows : (if chunkRows < height - y then chunkRows else height - y) =
            min chunkRows (height - y) := by
          split <;> omega
        rw [hrows, Nat.mod_eq_of_lt (by omega)]
        cases hissued : (d.issue cuda (.memcpy2D source plane y widthInBytes
            (min chunkRows (height - y)))).1 with
        | false =>
            rw [if_neg Bool.false_ne_true]
            exact ⟨false, _, rfl, .failed (Nat.min_le_left _ _) d⟩
        | true =>
            rw [if_pos rfl]
            have hsource : source.bytes (d.issue cuda (.memcpy2D source plane y widthInBytes
                (min chunkRows (height - y)))).2 = source.bytes d := by
              cases source with
              | device => exact (issue_copy cuda _ _ _ _ _ d).1
              | host rows => rfl
            obtain ⟨copied, d', hrest, hcopied⟩ := ih (y + chunkRows) _ (by omega)
              (by rw [hsource]; exact hpattern)
            exact ⟨copied, d', hrest, .next rfl hmore hpattern hissued hcopied⟩
      · rw [if_neg hmore]
        exact ⟨true, d, rfl, .done (by omega) d⟩

end Rows

/-! ## The bytes of a clear plane -/

/-- A byte of a row that is clear: 16 and 128, or the samples `0x1000` and `0x8000`. -/
def clearByte (format : NVFormat) (plane x : Nat) : UInt8 :=
  if (formatsInfo format).bppc = 1 then (if plane = 0 then 16 else 128)
  else sampleByte (if plane = 0 then 0x1000 else 0x8000) x

/-- The formats with a plane of luma and planes of chroma. -/
def IsYuv (format : NVFormat) : Prop :=
  format ≠ .none ∧ format ≠ .argb

theorem IsYuv.bppc {format : NVFormat} (hyuv : IsYuv format) :
    (formatsInfo format).bppc = 1 ∨ (formatsInfo format).bppc = 2 := by
  obtain ⟨hnone, -⟩ := hyuv
  cases format <;> first | exact absurd rfl hnone | exact .inl rfl | exact .inr rfl

section Fill

variable {widthInBytes chunkRows j x : Nat}

theorem row_lt (hj : j < chunkRows) (hx : x < widthInBytes) :
    j * widthInBytes + x < widthInBytes * chunkRows := by
  have hrows : (j + 1) * widthInBytes ≤ chunkRows * widthInBytes := Nat.mul_le_mul_right _ hj
  rw [Nat.add_one_mul] at hrows
  rw [Nat.mul_comm widthInBytes]
  omega

theorem fillBytes_row (value : UInt8) (bytes : Nat → UInt8) (hj : j < chunkRows)
    (hx : x < widthInBytes) :
    fillBytes value (widthInBytes * chunkRows) bytes (j * widthInBytes + x) = value :=
  if_pos (row_lt hj hx)

/-- Rows of whole samples all begin with the lower byte of a sample. -/
theorem fillSamples_row (value : Nat) (bytes : Nat → UInt8) (hwidth : widthInBytes % 2 = 0)
    (hj : j < chunkRows) (hx : x < widthInBytes) :
    fillSamples value (widthInBytes * chunkRows / 2) bytes (j * widthInBytes + x) =
      sampleByte value x := by
  obtain ⟨half, rfl⟩ : ∃ half, widthInBytes = 2 * half := ⟨widthInBytes / 2, by omega⟩
  have hlt := row_lt hj hx
  have hparity : (j * (2 * half) + x) % 2 = x % 2 := by
    rw [Nat.mul_left_comm, Nat.mul_add_mod]
  unfold fillSamples
  rw [if_pos]
  · unfold sampleByte
    rw [hparity]
  · rw [Nat.mul_assoc] at hlt ⊢
    omega

end Fill

section Planes

variable {img : BackingImage} {plane : Nat}

/-- Rows consist of whole components. -/
theorem rowBytes_mod (img : BackingImage) (plane : Nat) :
    img.rowBytes plane % (formatsInfo img.format).bppc = 0 := by
  unfold BackingImage.rowBytes
  simp only
  rw [Nat.mul_assoc, Nat.mul_left_comm, Nat.mul_mod_right]

theorem chunkRowsFor_eq {widthInBytes height : Nat} :
    chunkRowsFor widthInBytes height = min height (max 1 (maxChunkBytes / widthInBytes)) := by
  have hsmall : maxChunkBytes / widthInBytes < 2 ^ 32 :=
    Nat.lt_of_le_of_lt (Nat.div_le_self _ _) (by decide)
  unfold chunkRowsFor
  rw [Nat.mod_eq_of_lt hsmall]
  generalize maxChunkBytes / widthInBytes = rows
  simp only
  split <;> split <;> omega

/-- The rows of the host path are clear. -/
theorem fillBackingImageClearRows_row (hyuv : IsYuv img.format) (staging : Nat → UInt8)
    {chunkRows j x : Nat} (hj : j < chunkRows) (hx : x < img.rowBytes plane) :
    fillBackingImageClearRows staging (img.rowBytes plane) chunkRows img.format plane
      (j * img.rowBytes plane + x) = clearByte img.format plane x := by
  have hwhole := rowBytes_mod img plane
  unfold fillBackingImageClearRows clearByte
  rw [if_neg hyuv.2]
  rcases hyuv.bppc with hone | htwo
  · rw [if_pos hone, if_pos hone]
    exact fillBytes_row _ _ hj hx
  · rw [htwo] at hwhole ⊢
    exact fillSamples_row _ _ hwhole hj hx

/-- What a clear of some planes does, with calls of the kind that is allowed. -/
structure Cleared (img : BackingImage) (allowed : CudaCall → Prop) (planes : List Nat)
    (d : NVDriver) (cleared : Bool) (d' : NVDriver) : Prop where
  same : SameResources d d'
  calls : ∃ work, d'.calls = d.calls ++ work ∧ (∀ call ∈ work, allowed call) ∧
    (∀ plane, plane ∉ planes → work.flatMap (CudaCall.copiedRows plane) = []) ∧
    (cleared = true → ∀ plane ∈ planes, work.flatMap (CudaCall.copiedRows plane) =
      if img.rowBytes plane = 0 then [] else List.range (img.planeRows plane))
  arrays : cleared = true → ∀ a row x, d'.arrays a row x =
    if a ∈ planes ∧ row < img.planeRows a ∧ x < img.rowBytes a then clearByte img.format a x
    else d.arrays a row x
  others : ∀ a, a ∉ planes → d'.arrays a = d.arrays a

variable {allowed : CudaCall → Prop} {planes : List Nat}

/-- Nothing happens. -/
theorem Cleared.failed (d : NVDriver) : Cleared img allowed planes d false d where
  same := .refl d
  calls := ⟨[], (List.append_nil _).symm, by simp, fun _ _ => rfl,
    fun h => absurd h Bool.false_ne_true⟩
  arrays h := absurd h Bool.false_ne_true
  others _ _ := rfl

theorem Cleared.nil (d : NVDriver) : Cleared img allowed [] d true d where
  same := .refl d
  calls := ⟨[], (List.append_nil _).symm, by simp, fun _ _ => rfl,
    fun _ _ h => absurd h List.not_mem_nil⟩
  arrays _ a row x := by rw [if_neg fun h => List.not_mem_nil h.1]
  others _ _ := rfl

/-- A plane without bytes is clear. -/
theorem Cleared.empty (hempty : img.rowBytes plane = 0 ∨ img.planeRows plane = 0)
    (d : NVDriver) : Cleared img allowed [plane] d true d where
  same := .refl d
  calls := by
    refine ⟨[], (List.append_nil _).symm, by simp, fun _ _ => rfl, fun _ p hp => ?_⟩
    rw [List.mem_singleton.mp hp]
    rcases hempty with hzero | hzero
    · rw [if_pos hzero]
      rfl
    · rw [hzero]
      exact (ite_self _).symm
  arrays := by
    intro _ a row x
    rw [if_neg]
    rintro ⟨hmem, hrow, hx⟩
    rw [List.mem_singleton.mp hmem] at hrow hx
    omega
  others _ _ := rfl

/-- A failure at the first plane ends the clear. -/
theorem Cleared.stop (h : Cleared img allowed [plane] d false d') :
    Cleared img allowed (plane :: planes) d false d' where
  same := h.same
  calls := by
    obtain ⟨work, hcalls, hwork, hothers, -⟩ := h.calls
    refine ⟨work, hcalls, hwork, fun p hp => hothers p ?_, fun h => absurd h Bool.false_ne_true⟩
    rw [List.mem_singleton]
    exact fun heq => hp (heq ▸ List.mem_cons_self)
  arrays h := absurd h Bool.false_ne_true
  others a ha := h.others a fun hmem => ha (List.mem_singleton.mp hmem ▸ List.mem_cons_self)

/-- The first plane is cleared, and then the others. -/
theorem Cleared.cons {cleared : Bool} (hnew : plane ∉ planes)
    (h : Cleared img allowed [plane] d true d')
    (hrest : Cleared img allowed planes d' cleared d'') :
    Cleared img allowed (plane :: planes) d cleared d'' where
  same := h.same.trans hrest.same
  calls := by
    obtain ⟨work, hcalls, hwork, hothers, htiles⟩ := h.calls
    obtain ⟨later, hcalls', hwork', hothers', htiles'⟩ := hrest.calls
    refine ⟨work ++ later, ?_, ?_, ?_, ?_⟩
    · rw [hcalls', hcalls, List.append_assoc]
    · intro call hcall
      exact (List.mem_append.mp hcall).elim (hwork call) (hwork' call)
    · intro p hp
      rw [List.mem_cons, not_or] at hp
      rw [List.flatMap_append, hothers' p hp.2, List.append_nil]
      exact hothers p fun hmem => hp.1 (List.mem_singleton.mp hmem)
    · intro hcleared p hp
      rw [List.flatMap_append]
      rcases List.mem_cons.mp hp with rfl | hp
      · rw [hothers' p hnew, List.append_nil]
        exact htiles rfl p (List.mem_singleton.mpr rfl)
      · have hne : p ∉ [plane] := by
          rw [List.mem_singleton]
          exact fun heq => hnew (heq ▸ hp)
        rw [hothers p hne, List.nil_append]
        exact htiles' hcleared p hp
  arrays := by
    intro hcleared a row x
    rw [hrest.arrays hcleared a row x, h.arrays rfl a row x]
    by_cases ha : a = plane
    · subst ha
      rw [if_neg fun hmem => hnew hmem.1]
      simp
    · simp [ha]
  others a ha := by
    rw [List.mem_cons, not_or] at ha
    rw [hrest.others a ha.2, h.others a fun hmem => ha.1 (List.mem_singleton.mp hmem)]

/-- The rows of a plane, copied from a source that is clear. -/
theorem RowsCopied.cleared {source : CopySource} {chunkRows : Nat} {copied : Bool}
    (hwidth : img.rowBytes plane ≠ 0)
    (h : RowsCopied source plane (img.rowBytes plane) (img.planeRows plane) chunkRows 0
      (clearByte img.format plane) d copied d')
    (hallowed : ∀ dstY rows, rows ≤ chunkRows →
      allowed (.memcpy2D source plane dstY (img.rowBytes plane) rows)) :
    Cleared img allowed [plane] d copied d' where
  same := h.same
  calls := by
    obtain ⟨work, hcalls, hwork, htiles⟩ := h.calls
    refine ⟨work, hcalls, ?_, ?_, ?_⟩
    · intro call hcall
      obtain ⟨dstY, rows, rfl, hrows⟩ := hwork call hcall
      exact hallowed dstY rows hrows
    · intro p hp
      rw [List.flatMap_eq_nil_iff]
      intro call hcall
      obtain ⟨dstY, rows, rfl, -⟩ := hwork call hcall
      exact if_neg fun heq => hp (List.mem_singleton.mpr heq.symm)
    · intro hcopied p hp
      rw [List.mem_singleton.mp hp, if_neg hwidth, htiles hcopied, Nat.sub_zero,
        List.range_eq_range']
  arrays := by
    intro hcopied a row x
    rw [h.arrays hcopied a row x]
    by_cases ha : a = plane
    · subst ha
      simp
    · simp [ha]
  others a ha := h.others a fun heq => ha (List.mem_singleton.mpr heq)

end Planes

/-! ## The host path -/

section Host

variable {img : BackingImage} {plane : Nat}

/-- A copy from the rows of the host. -/
def HostCall : CudaCall → Prop
  | .memcpy2D (.host _) .. => True
  | _ => False

/-- The staging memory holds at most the rows of a chunk. -/
theorem stagingRows_le (mallocs : Nat → Bool) (rounds k chunkRows : Nat) :
    stagingRows mallocs rounds k chunkRows ≤ chunkRows := by
  induction rounds generalizing k chunkRows with
  | zero => exact Nat.zero_le _
  | succ rounds ih =>
      unfold stagingRows
      split
      · split
        · exact Nat.le_refl _
        · exact Nat.le_trans (ih _ _) (Nat.div_le_self _ _)
      · exact Nat.zero_le _

theorem planeRows_le (img : BackingImage) {plane : Nat}
    (hplane : plane < (formatsInfo img.format).numPlanes) :
    img.planeRows plane ≤ img.height :=
  (nvPlaneExtent_le (planeAt_spec hplane).2.1).1

/-- Whatever staging memory it finds, the host path clears the plane or fails. -/
theorem clearBackingImagePlaneHost_spec (cuda : Cuda) (hyuv : IsYuv img.format)
    (hrows : img.planeRows plane ≤ 2 ^ 31) (mallocs : Nat → Bool) (staging : Nat → UInt8)
    (d : NVDriver) :
    ∃ cleared d', clearBackingImagePlaneHost cuda mallocs staging img plane d =
        some (cleared, d') ∧ Cleared img HostCall [plane] d cleared d' := by
  unfold clearBackingImagePlaneHost
  simp only
  by_cases hempty : img.rowBytes plane = 0 ∨ img.planeRows plane = 0
  · rw [if_pos hempty]
    exact ⟨true, d, rfl, .empty hempty d⟩
  · rw [if_neg hempty]
    rw [not_or] at hempty
    have hstaged := stagingRows_le mallocs
      (chunkRowsFor (img.rowBytes plane) (img.planeRows plane)) 0
      (chunkRowsFor (img.rowBytes plane) (img.planeRows plane))
    generalize stagingRows mallocs (chunkRowsFor (img.rowBytes plane) (img.planeRows plane)) 0
      (chunkRowsFor (img.rowBytes plane) (img.planeRows plane)) = chunkRows at hstaged ⊢
    have hchunk : chunkRows ≤ img.planeRows plane := by
      rw [chunkRowsFor_eq] at hstaged
      exact Nat.le_trans hstaged (Nat.min_le_left _ _)
    by_cases hnone : chunkRows = 0
    · rw [if_pos hnone]
      exact ⟨false, d, rfl, .failed d⟩
    · rw [if_neg hnone]
      have hsource : ∀ j < chunkRows, ∀ x < img.rowBytes plane,
          (CopySource.host (fillBackingImageClearRows staging (img.rowBytes plane) chunkRows
            img.format plane)).bytes d (j * img.rowBytes plane + x) =
            clearByte img.format plane x :=
        fun j hj x hx => fillBackingImageClearRows_row hyuv staging hj hx
      have hwrap : img.planeRows plane + chunkRows ≤ 2 ^ 32 := by omega
      obtain ⟨copied, d', hresult, hcopied⟩ := copyRows_spec (Nat.pos_of_ne_zero hnone) hwrap
        (img.planeRows plane) 0 d (by omega) hsource
      exact ⟨copied, d', hresult, hcopied.cleared hempty.1 fun _ _ _ => trivial⟩

theorem clearPlanesHost_spec (cuda : Cuda) (hyuv : IsYuv img.format) (hheight : img.height ≤ 2 ^ 31)
    (mallocs : Nat → Nat → Bool) (staging : Nat → Nat → UInt8) {planes : List Nat}
    (hnodup : planes.Nodup) (hplanes : ∀ p ∈ planes, p < (formatsInfo img.format).numPlanes)
    (d : NVDriver) :
    ∃ cleared d', clearPlanesHost cuda mallocs staging img planes d = some (cleared, d') ∧
      Cleared img HostCall planes d cleared d' := by
  induction planes generalizing d with
  | nil => exact ⟨true, d, rfl, .nil d⟩
  | cons plane planes ih =>
      obtain ⟨hnew, hrest⟩ := List.nodup_cons.mp hnodup
      unfold clearPlanesHost
      cases d.cudaWorkUnsafe with
      | true => exact ⟨false, d, rfl, .failed d⟩
      | false =>
          have hrows := planeRows_le img (hplanes plane List.mem_cons_self)
          obtain ⟨cleared, d1, hresult, hcleared⟩ := clearBackingImagePlaneHost_spec
            cuda hyuv (by omega : img.planeRows plane ≤ 2 ^ 31) (mallocs plane)
            (staging plane) d
          rw [if_neg Bool.false_ne_true, hresult, Option.bind_some]
          cases cleared with
          | false => exact ⟨false, d1, rfl, hcleared.stop⟩
          | true =>
              obtain ⟨all, d2, hlater, hall⟩ := ih hrest
                (fun p hp => hplanes p (List.mem_cons_of_mem _ hp)) d1
              exact ⟨all, d2, hlater, hcleared.cons hnew hall⟩

end Host

end SecurityClear
end NvidiaVaapi
