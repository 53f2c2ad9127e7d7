import NvidiaVaapi.SecurityClear.Coverage

/-!
# The scratch buffer of the GPU path

The largest chunk is reserved before the first plane, so that no plane frees the buffer or
asks for another while the copies of an earlier plane may still read it.
-/

namespace NvidiaVaapi
namespace SecurityClear

open Surface

section Reservation

variable {cuda : Cuda} {img : BackingImage} {plane : Nat} {d d' : NVDriver}

/-- A call that works within a scratch buffer of a size: it fills a part of the buffer, or
copies rows from it. -/
def ScratchCall (size : Nat) : CudaCall → Prop
  | .memsetD8 _ count => count ≤ size
  | .memsetD16 _ count => 2 * count ≤ size
  | .memcpy2D .device _ _ widthInBytes height => widthInBytes * height ≤ size
  | _ => False

/-- The bytes of a chunk of a plane. -/
def chunkBytesOf (img : BackingImage) (plane : Nat) : Nat :=
  img.rowBytes plane * chunkRowsFor (img.rowBytes plane) (img.planeRows plane)

/-- The stream and the scratch buffer are there, with room for the bytes. -/
structure Reserved (bytes : Nat) (d : NVDriver) : Prop where
  stream : d.securityClearStream = true
  buffer : d.securityClearBuffer ≠ 0
  size : bytes ≤ d.securityClearBufferSize

theorem Reserved.same {bytes : Nat} (h : Reserved bytes d) (hsame : SameResources d d') :
    Reserved bytes d' where
  stream := hsame.stream.trans h.stream
  buffer := by
    rw [hsame.buffer]
    exact h.buffer
  size := by
    rw [hsame.size]
    exact h.size

/-- What is reserved is not reserved again. -/
theorem Reserved.ensure {bytes required : Nat} (h : Reserved bytes d)
    (hfits : required ≤ bytes) :
    ensureSecurityClearResourcesLocked cuda required d = (true, d) := by
  unfold ensureSecurityClearResourcesLocked createSecurityClearStream
  have hsize : d.securityClearBufferSize ≥ required := Nat.le_trans hfits h.size
  simp [h.stream, hsize, h.buffer]

/-- The calls that a reservation makes copy nothing and leave the bytes of the image. -/
structure ReservationCalls (d d' : NVDriver) : Prop where
  calls : ∃ reserve, d'.calls = d.calls ++ reserve ∧
    ∀ call ∈ reserve, ∀ plane, call.copiedRows plane = []
  arrays : d'.arrays = d.arrays

theorem ReservationCalls.refl (d : NVDriver) : ReservationCalls d d :=
  ⟨⟨[], (List.append_nil _).symm, by simp⟩, rfl⟩

theorem ReservationCalls.trans {d'' : NVDriver} (h : ReservationCalls d d')
    (h' : ReservationCalls d' d'') : ReservationCalls d d'' where
  calls := by
    obtain ⟨first, hfirst, hnone⟩ := h.calls
    obtain ⟨second, hsecond, hnone'⟩ := h'.calls
    refine ⟨first ++ second, by rw [hsecond, hfirst, List.append_assoc], fun call hcall => ?_⟩
    exact (List.mem_append.mp hcall).elim (hnone call) (hnone' call)
  arrays := h'.arrays.trans h.arrays

/-- A call that has no effect on bytes. -/
theorem reservationCalls_issue {call : CudaCall} (happly : ∀ d : NVDriver, d.apply call = d)
    (hrows : ∀ plane, call.copiedRows plane = []) (d : NVDriver) :
    ReservationCalls d (d.issue cuda call).2 where
  calls := by
    refine ⟨[call], issue_calls cuda call d, fun other hother plane => ?_⟩
    rw [List.mem_singleton.mp hother]
    exact hrows plane
  arrays := by
    unfold NVDriver.issue
    simp only [happly, ite_self]

theorem createSecurityClearStream_spec (cuda : Cuda) (d : NVDriver) :
    ReservationCalls d (createSecurityClearStream cuda d).2 ∧
      ((createSecurityClearStream cuda d).1 = true →
        (createSecurityClearStream cuda d).2.securityClearStream = true) := by
  unfold createSecurityClearStream
  split
  · rename_i hstream
    exact ⟨.refl d, fun _ => hstream⟩
  · have hcalls : ReservationCalls d (d.issue cuda .streamCreate).2 :=
      reservationCalls_issue (fun _ => rfl) (fun _ => rfl) d
    exact ⟨⟨hcalls.calls, hcalls.arrays⟩, id⟩

theorem freeSecurityClearBuffer_spec (cuda : Cuda) (d : NVDriver) :
    ReservationCalls d (freeSecurityClearBuffer cuda d).2 ∧
      (freeSecurityClearBuffer cuda d).2.securityClearStream = d.securityClearStream := by
  have hdrain : ReservationCalls d (d.issue cuda .streamSynchronize).2 :=
    reservationCalls_issue (fun _ => rfl) (fun _ => rfl) d
  have hfree : ReservationCalls (d.issue cuda .streamSynchronize).2
      ((d.issue cuda .streamSynchronize).2.issue cuda .memFree).2 :=
    reservationCalls_issue (fun _ => rfl) (fun _ => rfl) _
  have hstream := (issue_same cuda .streamSynchronize d).stream
  have hstream' := (issue_same cuda .memFree (d.issue cuda .streamSynchronize).2).stream
  unfold freeSecurityClearBuffer
  split
  · simp only
    split
    · exact ⟨⟨hdrain.calls, hdrain.arrays⟩, hstream⟩
    · have hboth := hdrain.trans hfree
      split
      · exact ⟨hboth, hstream'.trans hstream⟩
      · exact ⟨⟨hboth.calls, hboth.arrays⟩, hstream'.trans hstream⟩
  · exact ⟨.refl d, rfl⟩

theorem allocSecurityClearBuffer_spec (cuda : Cuda) (requiredBytes : Nat) (d : NVDriver) :
    ReservationCalls d (allocSecurityClearBuffer cuda requiredBytes d).2 ∧
      (d.securityClearStream = true →
        (allocSecurityClearBuffer cuda requiredBytes d).1 = true →
        Reserved requiredBytes (allocSecurityClearBuffer cuda requiredBytes d).2) := by
  have halloc : ReservationCalls d (d.issue cuda (.memAlloc requiredBytes)).2 :=
    reservationCalls_issue (fun _ => rfl) (fun _ => rfl) d
  have hstream := (issue_same cuda (.memAlloc requiredBytes) d).stream
  unfold allocSecurityClearBuffer
  simp only
  split
  · exact ⟨⟨halloc.calls, halloc.arrays⟩,
      fun _ h => absurd h Bool.false_ne_true⟩
  · refine ⟨⟨halloc.calls, halloc.arrays⟩, fun hopen _ => ?_⟩
    exact ⟨hstream.trans hopen, cuda.address_ne _, Nat.le_refl _⟩

/-- The resources are there if the reservation does not fail. -/
theorem ensureSecurityClearResourcesLocked_spec (cuda : Cuda) (requiredBytes : Nat)
    (d : NVDriver) :
    ReservationCalls d (ensureSecurityClearResourcesLocked cuda requiredBytes d).2 ∧
      ((ensureSecurityClearResourcesLocked cuda requiredBytes d).1 = true →
        Reserved requiredBytes (ensureSecurityClearResourcesLocked cuda requiredBytes d).2) := by
  obtain ⟨hcreate, hstream⟩ := createSecurityClearStream_spec cuda d
  unfold ensureSecurityClearResourcesLocked
  simp only
  generalize createSecurityClearStream cuda d = created at hcreate hstream ⊢
  split
  · exact ⟨hcreate, fun h => absurd h Bool.false_ne_true⟩
  · rename_i hcreated
    have hopen := hstream (by simpa using hcreated)
    split
    · rename_i hready
      exact ⟨hcreate, fun _ => ⟨hopen, hready.2, hready.1⟩⟩
    · obtain ⟨hfree, hkeeps⟩ := freeSecurityClearBuffer_spec cuda created.2
      generalize freeSecurityClearBuffer cuda created.2 = freed at hfree hkeeps ⊢
      split
      · exact ⟨hcreate.trans hfree, fun h => absurd h Bool.false_ne_true⟩
      · obtain ⟨halloc, hreserved⟩ :=
          allocSecurityClearBuffer_spec cuda requiredBytes freed.2
        exact ⟨(hcreate.trans hfree).trans halloc, hreserved (hkeeps.trans hopen)⟩

/-! ## Planes -/

theorem reserveForPlane_le (img : BackingImage) (requiredBytes plane : Nat) :
    requiredBytes ≤ reserveForPlane img requiredBytes plane ∧
    (img.rowBytes plane ≠ 0 → img.planeRows plane ≠ 0 →
      chunkBytesOf img plane ≤ reserveForPlane img requiredBytes plane) := by
  have hchunk : chunkBytesOf img plane = min (img.planeRows plane)
      (max 1 (maxChunkBytes / img.rowBytes plane)) * img.rowBytes plane := by
    rw [chunkBytesOf, chunkRowsFor_eq, Nat.mul_comm]
  unfold reserveForPlane
  by_cases hempty : img.rowBytes plane = 0 ∨ img.planeRows plane = 0
  · rw [if_pos hempty]
    exact ⟨Nat.le_refl _, fun hwidth hrows => absurd hempty (by simp [hwidth, hrows])⟩
  · have hrows : (if (if maxChunkBytes / img.rowBytes plane = 0 then 1
          else maxChunkBytes / img.rowBytes plane) > img.planeRows plane
        then img.planeRows plane
        else (if maxChunkBytes / img.rowBytes plane = 0 then 1
          else maxChunkBytes / img.rowBytes plane)) =
        min (img.planeRows plane) (max 1 (maxChunkBytes / img.rowBytes plane)) := by
      generalize maxChunkBytes / img.rowBytes plane = rows
      split <;> split <;> omega
    rw [if_neg hempty]
    simp only [hrows, ← hchunk]
    split <;> exact ⟨by omega, fun _ _ => by omega⟩

/-- Every chunk fits what is reserved. -/
theorem chunkBytesOf_le (hplane : plane < (formatsInfo img.format).numPlanes)
    (hwidth : img.rowBytes plane ≠ 0) (hrows : img.planeRows plane ≠ 0) :
    chunkBytesOf img plane ≤ requiredScratchBytes img := by
  have hloop : ∀ (planes : List Nat) (required : Nat),
      required ≤ planes.foldl (reserveForPlane img) required ∧
      (plane ∈ planes → chunkBytesOf img plane ≤
        planes.foldl (reserveForPlane img) required) := by
    intro planes
    induction planes with
    | nil => exact fun required => ⟨Nat.le_refl _, fun h => absurd h List.not_mem_nil⟩
    | cons p planes ih =>
        intro required
        obtain ⟨hgrows, hcovers⟩ := reserveForPlane_le img required p
        obtain ⟨hrest, hlater⟩ := ih (reserveForPlane img required p)
        refine ⟨Nat.le_trans hgrows hrest, fun hmem => ?_⟩
        rcases List.mem_cons.mp hmem with rfl | hmem
        · exact Nat.le_trans (hcovers hwidth hrows) hrest
        · exact hlater hmem
  exact (hloop _ 0).2 (List.mem_range.mpr hplane)

/-- A call before the rest of a clear, which fills the scratch buffer. -/
theorem Cleared.prepend {allowed : CudaCall → Prop} {planes : List Nat} {call : CudaCall}
    {cleared : Bool} (hallowed : allowed call) (hrows : ∀ plane, call.copiedRows plane = [])
    (harrays : (d.issue cuda call).2.arrays = d.arrays)
    (hrest : Cleared img allowed planes (d.issue cuda call).2 cleared d') :
    Cleared img allowed planes d cleared d' where
  same := (issue_same cuda call d).trans hrest.same
  calls := by
    obtain ⟨work, hcalls, hwork, hothers, htiles⟩ := hrest.calls
    refine ⟨call :: work, ?_, ?_, ?_, ?_⟩
    · rw [hcalls, issue_calls, List.append_assoc, List.singleton_append]
    · intro other hother
      rcases List.mem_cons.mp hother with rfl | hother
      · exact hallowed
      · exact hwork other hother
    · intro p hp
      rw [List.flatMap_cons, hrows, List.nil_append]
      exact hothers p hp
    · intro hcleared p hp
      rw [List.flatMap_cons, hrows, List.nil_append]
      exact htiles hcleared p hp
  arrays := by
    intro hcleared a row x
    rw [hrest.arrays hcleared a row x, harrays]
  others := by
    intro a ha
    rw [hrest.others a ha, harrays]

/-- A fill copies nothing and stays within the bytes of the chunk. -/
theorem fillCall_spec (cuda : Cuda) (hyuv : IsYuv img.format) (plane chunkBytes : Nat)
    (d : NVDriver) :
    (∀ p, (fillCall img.format plane chunkBytes).copiedRows p = []) ∧
    (∀ size, chunkBytes ≤ size → ScratchCall size (fillCall img.format plane chunkBytes)) ∧
    (d.issue cuda (fillCall img.format plane chunkBytes)).2.arrays = d.arrays := by
  unfold fillCall
  rcases hyuv.bppc with hone | htwo
  · have hnot : ¬(formatsInfo img.format).bppc = 2 := by omega
    rw [if_neg hnot]
    refine ⟨fun _ => rfl, fun _ h => h, ?_⟩
    unfold NVDriver.issue
    cases cuda.succeeds d.calls.length <;> rfl
  · rw [if_pos htwo]
    refine ⟨fun _ => rfl, fun size h => ?_, ?_⟩
    · show 2 * (chunkBytes / 2) ≤ size
      omega
    · unfold NVDriver.issue
      cases cuda.succeeds d.calls.length <;> rfl

/-- The rows in the scratch buffer are clear once it has been filled. -/
theorem fillCall_row (hyuv : IsYuv img.format)
    (hsucceeds : (d.issue cuda (fillCall img.format plane (chunkBytesOf img plane))).1 = true)
    {j x : Nat} (hj : j < chunkRowsFor (img.rowBytes plane) (img.planeRows plane))
    (hx : x < img.rowBytes plane) :
    (d.issue cuda (fillCall img.format plane (chunkBytesOf img plane))).2.scratch
      (j * img.rowBytes plane + x) = clearByte img.format plane x := by
  have hwhole := rowBytes_mod img plane
  rw [(issue_bytes hsucceeds).1]
  unfold fillCall clearByte chunkBytesOf
  rcases hyuv.bppc with hone | htwo
  · have hnot : ¬(formatsInfo img.format).bppc = 2 := by omega
    rw [if_neg hnot, if_pos hone]
    exact fillBytes_row _ _ hj hx
  · have hnot : ¬(formatsInfo img.format).bppc = 1 := by omega
    rw [htwo] at hwhole
    rw [if_pos htwo, if_neg hnot]
    exact fillSamples_row _ _ hwhole hj hx

/-- With its chunk reserved, a plane is cleared within the scratch buffer, or the clear
fails. -/
theorem clearBackingImagePlaneGpuLocked_spec (cuda : Cuda) (hyuv : IsYuv img.format)
    (hrows : img.planeRows plane ≤ 2 ^ 31) {bytes : Nat}
    (hreserved : img.rowBytes plane ≠ 0 → img.planeRows plane ≠ 0 →
      Reserved bytes d ∧ chunkBytesOf img plane ≤ bytes) :
    ∃ cleared d', clearBackingImagePlaneGpuLocked cuda img plane d = some (cleared, d') ∧
      Cleared img (ScratchCall d.securityClearBufferSize) [plane] d cleared d' := by
  unfold clearBackingImagePlaneGpuLocked
  cases d.cudaWorkUnsafe with
  | true => exact ⟨false, d, rfl, .failed d⟩
  | false =>
      rw [if_neg Bool.false_ne_true, if_neg hyuv.2]
      simp only
      by_cases hempty : img.rowBytes plane = 0 ∨ img.planeRows plane = 0
      · rw [if_pos hempty]
        exact ⟨true, d, rfl, .empty hempty d⟩
      · rw [if_neg hempty]
        rw [not_or] at hempty
        obtain ⟨hready, hfits⟩ := hreserved hempty.1 hempty.2
        split
        · exact ⟨false, d, rfl, .failed d⟩
        · have hchunk : img.rowBytes plane *
              chunkRowsFor (img.rowBytes plane) (img.planeRows plane) = chunkBytesOf img plane := rfl
          rw [hchunk, hready.ensure hfits]
          simp only
          rw [if_neg (not_not_intro trivial)]
          obtain ⟨hnone, hcall, harrays⟩ :=
            fillCall_spec cuda hyuv plane (chunkBytesOf img plane) d
          have hallowed := hcall _ (Nat.le_trans hfits hready.size)
          split
          · exact ⟨false, d, rfl, .failed d⟩
          · split
            · exact ⟨false, _, rfl, .prepend hallowed hnone harrays (.failed _)⟩
            · rename_i hfilled
              have hchunkRows : chunkRowsFor (img.rowBytes plane) (img.planeRows plane) = _ :=
                chunkRowsFor_eq
              have hpositive : 0 < chunkRowsFor (img.rowBytes plane) (img.planeRows plane) := by
                omega
              have hwrap : img.planeRows plane +
                  chunkRowsFor (img.rowBytes plane) (img.planeRows plane) ≤ 2 ^ 32 := by
                omega
              have hsource : ∀ j < chunkRowsFor (img.rowBytes plane) (img.planeRows plane),
                  ∀ x < img.rowBytes plane, CopySource.device.bytes
                    (d.issue cuda (fillCall img.format plane (chunkBytesOf img plane))).2
                    (j * img.rowBytes plane + x) = clearByte img.format plane x :=
                fun j hj x hx => fillCall_row hyuv (by simpa using hfilled) hj hx
              obtain ⟨copied, d', hresult, hcopied⟩ := copyRows_spec hpositive hwrap
                (img.planeRows plane) 0 _ (Nat.le_of_eq (Nat.zero_add _).symm) hsource
              refine ⟨copied, d', hresult, .prepend hallowed hnone harrays
                (hcopied.cleared hempty.1 fun dstY rows hle => ?_)⟩
              show img.rowBytes plane * rows ≤ d.securityClearBufferSize
              refine Nat.le_trans (Nat.mul_le_mul_left _ hle) ?_
              exact Nat.le_trans hfits hready.size

theorem clearPlanesGpu_spec (cuda : Cuda) (hyuv : IsYuv img.format) (hheight : img.height ≤ 2 ^ 31)
    {planes : List Nat} (hnodup : planes.Nodup)
    (hplanes : ∀ p ∈ planes, p < (formatsInfo img.format).numPlanes)
    (hreserved : requiredScratchBytes img ≠ 0 → Reserved (requiredScratchBytes img) d) :
    ∃ cleared d', clearPlanesGpu cuda img planes d = some (cleared, d') ∧
      Cleared img (ScratchCall d.securityClearBufferSize) planes d cleared d' := by
  induction planes generalizing d with
  | nil => exact ⟨true, d, rfl, .nil d⟩
  | cons plane planes ih =>
      obtain ⟨hnew, hrest⟩ := List.nodup_cons.mp hnodup
      have hplane := hplanes plane List.mem_cons_self
      have hrows : img.planeRows plane ≤ 2 ^ 31 :=
        Nat.le_trans (planeRows_le img hplane) hheight
      have hchunk : img.rowBytes plane ≠ 0 → img.planeRows plane ≠ 0 →
          Reserved (requiredScratchBytes img) d ∧
            chunkBytesOf img plane ≤ requiredScratchBytes img := by
        intro hwidth hheight
        have hfits := chunkBytesOf_le hplane hwidth hheight
        have hpositive : 0 < chunkBytesOf img plane := by
          refine Nat.mul_pos (Nat.pos_of_ne_zero hwidth) ?_
          rw [chunkRowsFor_eq]
          omega
        exact ⟨hreserved (by omega), hfits⟩
      obtain ⟨cleared, d1, hresult, hcleared⟩ :=
        clearBackingImagePlaneGpuLocked_spec cuda hyuv hrows hchunk
      unfold clearPlanesGpu
      rw [hresult, Option.bind_some]
      cases cleared with
      | false => exact ⟨false, d1, rfl, hcleared.stop⟩
      | true =>
          obtain ⟨all, d2, hlater, hall⟩ := ih hrest
            (fun p hp => hplanes p (List.mem_cons_of_mem _ hp))
            fun h => (hreserved h).same hcleared.same
          rw [hcleared.same.size] at hall
          exact ⟨all, d2, hlater, hcleared.cons hnew hall⟩

/-! ## The whole clear -/

/-- What the GPU path does: it reserves, works on the planes within the scratch buffer that
it reserved, and drains; where it succeeds, the copies of every plane tile its rows, and the
bytes of the planes are clear. -/
structure GpuCleared (img : BackingImage) (d : NVDriver) (cleared : Bool) (d' : NVDriver) :
    Prop where
  calls : ∃ reserve work drain, d'.calls = d.calls ++ reserve ++ work ++ drain ∧
    (∀ call ∈ reserve, ∀ plane, call.copiedRows plane = []) ∧
    (∀ call ∈ work, ScratchCall d'.securityClearBufferSize call) ∧
    (∀ call ∈ drain, call = .streamSynchronize) ∧
    (cleared = true → ∀ plane < (formatsInfo img.format).numPlanes,
      work.flatMap (CudaCall.copiedRows plane) =
        if img.rowBytes plane = 0 then [] else List.range (img.planeRows plane))
  arrays : cleared = true → ∀ a row x, d'.arrays a row x =
    if a < (formatsInfo img.format).numPlanes ∧ row < img.planeRows a ∧ x < img.rowBytes a then
      clearByte img.format a x
    else d.arrays a row x

/-- Without work on the planes. -/
theorem GpuCleared.failed (hcalls : ReservationCalls d d') :
    GpuCleared img d false d' where
  calls := by
    obtain ⟨reserve, hcalls, hnone⟩ := hcalls.calls
    refine ⟨reserve, [], [], ?_, hnone, by simp, by simp, fun h => absurd h Bool.false_ne_true⟩
    rw [hcalls, List.append_nil, List.append_nil]
  arrays h := absurd h Bool.false_ne_true

/-- The drain keeps what was done, or fails. -/
theorem GpuCleared.drain {cleared : Bool} {d1 d2 : NVDriver} (hreserve : ReservationCalls d d1)
    (hwork : Cleared img (ScratchCall d1.securityClearBufferSize)
      (List.range (formatsInfo img.format).numPlanes) d1 cleared d2) :
    GpuCleared img d (drainSecurityClear cuda cleared d2).1
      (drainSecurityClear cuda cleared d2).2 := by
  obtain ⟨reserve, hcalls, hnone⟩ := hreserve.calls
  obtain ⟨work, hcalls', hscratch, -, htiles⟩ := hwork.calls
  have hissue := issue_same cuda .streamSynchronize d2
  have hsize : ∀ call ∈ work, ScratchCall d2.securityClearBufferSize call := by
    rw [hwork.same.size]
    exact hscratch
  have htiles' : cleared = true → ∀ plane < (formatsInfo img.format).numPlanes,
      work.flatMap (CudaCall.copiedRows plane) =
        if img.rowBytes plane = 0 then [] else List.range (img.planeRows plane) :=
    fun h plane hplane => htiles h plane (List.mem_range.mpr hplane)
  have harrays : cleared = true → ∀ a row x, d2.arrays a row x =
      if a < (formatsInfo img.format).numPlanes ∧ row < img.planeRows a ∧ x < img.rowBytes a then
        clearByte img.format a x
      else d.arrays a row x := by
    intro h a row x
    rw [hwork.arrays h a row x, hreserve.arrays]
    simp only [List.mem_range]
  unfold drainSecurityClear
  split
  · simp only
    split
    · refine ⟨⟨reserve, work, [.streamSynchronize], ?_, hnone, ?_, by simp, htiles'⟩, ?_⟩
      · rw [issue_calls, hcalls', hcalls]
      · rw [hissue.size]
        exact hsize
      · intro h a row x
        rw [← harrays h a row x]
        unfold NVDriver.issue
        cases cuda.succeeds d2.calls.length <;> rfl
    · refine ⟨⟨reserve, work, [.streamSynchronize], ?_, hnone, ?_, by simp,
        fun h => absurd h Bool.false_ne_true⟩, fun h => absurd h Bool.false_ne_true⟩
      · show (d2.issue cuda .streamSynchronize).2.calls = _
        rw [issue_calls, hcalls', hcalls]
      · show ∀ call ∈ work,
          ScratchCall (d2.issue cuda .streamSynchronize).2.securityClearBufferSize call
        rw [hissue.size]
        exact hsize
  · refine ⟨⟨reserve, work, [], ?_, hnone, hsize, by simp, htiles'⟩, harrays⟩
    rw [hcalls', hcalls, List.append_nil]

theorem clearBackingImageGpu_spec (cuda : Cuda) (d : NVDriver) (hyuv : IsYuv img.format)
    (hheight : img.height ≤ 2 ^ 31) :
    ∃ cleared d', clearBackingImageGpu cuda img d = some (cleared, d') ∧
      GpuCleared img d cleared d' := by
  have hload : ReservationCalls d (loadSecurityClearFunctionsLocked cuda d) := by
    unfold loadSecurityClearFunctionsLocked
    split
    · exact .refl d
    · exact ⟨⟨[], (List.append_nil _).symm, by simp⟩, rfl⟩
  unfold clearBackingImageGpu
  split
  · exact ⟨false, d, rfl, .failed (.refl d)⟩
  · simp only
    split
    · exact ⟨false, _, rfl, .failed hload⟩
    · generalize loadSecurityClearFunctionsLocked cuda d = d0 at hload ⊢
      by_cases hnothing : requiredScratchBytes img = 0
      · rw [if_neg (not_not_intro hnothing), if_pos rfl]
        obtain ⟨cleared, d2, hresult, hcleared⟩ := clearPlanesGpu_spec cuda hyuv hheight
          List.nodup_range (fun p hp => List.mem_range.mp hp)
          (d := d0) (fun h => absurd hnothing h)
        rw [hresult]
        exact ⟨_, _, rfl, .drain hload hcleared⟩
      · obtain ⟨hcalls, hreserved⟩ :=
          ensureSecurityClearResourcesLocked_spec cuda (requiredScratchBytes img) d0
        rw [if_pos hnothing]
        generalize ensureSecurityClearResourcesLocked cuda (requiredScratchBytes img) d0 =
          reserved at hcalls hreserved ⊢
        cases hok : reserved.1 with
        | false =>
            rw [if_neg Bool.false_ne_true]
            exact ⟨_, _, rfl, .drain (hload.trans hcalls) (.failed _)⟩
        | true =>
            rw [if_pos rfl]
            obtain ⟨cleared, d2, hresult, hcleared⟩ := clearPlanesGpu_spec cuda hyuv hheight
              List.nodup_range (fun p hp => List.mem_range.mp hp) fun _ => hreserved hok
            rw [hresult]
            exact ⟨_, _, rfl, .drain (hload.trans hcalls) hcleared⟩

/-- Whichever path it takes, a clear that succeeds leaves every byte of every plane clear. -/
theorem clearBackingImage_clears (cuda : Cuda) (mallocs : Nat → Nat → Bool)
    (staging : Nat → Nat → UInt8) (d : NVDriver) (hyuv : IsYuv img.format)
    (hheight : img.height ≤ 2 ^ 31) :
    ∃ cleared d', clearBackingImage cuda mallocs staging img d = some (cleared, d') ∧
      (cleared = true → ∀ a row x, a < (formatsInfo img.format).numPlanes →
        row < img.planeRows a → x < img.rowBytes a →
        d'.arrays a row x = clearByte img.format a x) := by
  obtain ⟨cleared, d1, hresult, hcleared⟩ := clearBackingImageGpu_spec cuda d hyuv hheight
  unfold clearBackingImage
  rw [hresult, Option.bind_some]
  cases cleared with
  | true =>
      refine ⟨true, d1, rfl, fun h a row x ha hrow hx => ?_⟩
      rw [hcleared.arrays h a row x, if_pos ⟨ha, hrow, hx⟩]
  | false =>
      obtain ⟨all, d2, hhost, hall⟩ := clearPlanesHost_spec cuda hyuv hheight mallocs staging
        List.nodup_range (fun p hp => List.mem_range.mp hp) d1
      refine ⟨all, d2, hhost, fun h a row x ha hrow hx => ?_⟩
      rw [hall.arrays h a row x, if_pos ⟨List.mem_range.mpr ha, hrow, hx⟩]

/-- The GPU path ends, works within the scratch buffer that it reserves first, copies every
row of every plane exactly once where it succeeds, and leaves the bytes that the host path
leaves, whatever staging memory that finds. -/
theorem clearBackingImageGpu_covers (cuda : Cuda) (img : BackingImage) (d : NVDriver)
    (hyuv : IsYuv img.format) (hheight : img.height ≤ 2 ^ 31) :
    ∃ cleared d', clearBackingImageGpu cuda img d = some (cleared, d') ∧
      GpuCleared img d cleared d' ∧
      ∀ (cuda' : Cuda) (mallocs : Nat → Nat → Bool) (staging : Nat → Nat → UInt8)
        (e e' : NVDriver), e.arrays = d.arrays →
        clearPlanesHost cuda' mallocs staging img
          (List.range (formatsInfo img.format).numPlanes) e = some (true, e') →
        cleared = true → e'.arrays = d'.arrays := by
  obtain ⟨cleared, d', hresult, hcleared⟩ := clearBackingImageGpu_spec cuda d hyuv hheight
  refine ⟨cleared, d', hresult, hcleared, ?_⟩
  intro cuda' mallocs staging e e' hsame hhost htrue
  obtain ⟨all, e1, hhost', hall⟩ := clearPlanesHost_spec cuda' hyuv hheight mallocs staging
    List.nodup_range (fun p hp => List.mem_range.mp hp) e
  rw [hhost] at hhost'
  cases hhost'
  funext a row x
  rw [hall.arrays rfl a row x, hcleared.arrays htrue a row x, hsame]
  simp only [List.mem_range]

end Reservation

/-- A library in which every call succeeds. -/
def workingCuda : Cuda where
  succeeds _ := true
  address n := 256 * (n + 1)
  address_ne := by
    intro n
    omega
  memsetD16Async := some true

/-- An image of 16-bit components with odd extents is cleared on the GPU. -/
theorem clearBackingImageGpu_covers_p010 :
    ∃ d', clearBackingImageGpu workingCuda ⟨.p010, 63, 65⟩ {} = some (true, d') ∧
      GpuCleared ⟨.p010, 63, 65⟩ {} true d' := by
  obtain ⟨cleared, d', hresult, hcleared, -⟩ := clearBackingImageGpu_covers workingCuda
    ⟨.p010, 63, 65⟩ {} (by unfold IsYuv; decide) (by decide)
  have htrue : (clearBackingImageGpu workingCuda ⟨.p010, 63, 65⟩ {}).map Prod.fst =
      some true := by decide
  rw [hresult] at htrue
  cases htrue
  exact ⟨d', hresult, hcleared⟩

/-- A library in which the fifth call fails, so that the host does what the GPU has begun. -/
def partlyWorkingCuda : Cuda :=
  { workingCuda with succeeds := fun n => n ≠ 4 }

theorem clearBackingImage_clears_partly :
    (clearBackingImage partlyWorkingCuda (fun _ _ => true) (fun _ _ => 9) ⟨.nv12, 2, 2⟩ {}).map
      (fun result => result.2.arrays 1 0 1) = some 128 := by
  have hyuv : IsYuv (⟨.nv12, 2, 2⟩ : BackingImage).format := by unfold IsYuv; decide
  obtain ⟨cleared, d', hresult, hclears⟩ := clearBackingImage_clears partlyWorkingCuda
    (fun _ _ => true) (fun _ _ => 9) {} hyuv (by decide)
  have htrue : (clearBackingImage partlyWorkingCuda (fun _ _ => true) (fun _ _ => 9)
      ⟨.nv12, 2, 2⟩ {}).map Prod.fst = some true := by decide
  rw [hresult] at htrue
  cases htrue
  rw [hresult]
  exact congrArg some (hclears rfl 1 0 1 (by decide) (by decide) (by decide))

end SecurityClear
end NvidiaVaapi
