import Mathlib.Algebra.BigOperators.Group.List.Basic
import NvidiaVaapi.VideoProc.Scratch

/-!
# The accounts of scratch memory over runs

Every buffer is recorded with the size of its block, the counters are the sums of the
recorded sizes, and the bytes of the cache those of its images.
-/

namespace NvidiaVaapi
namespace VideoProc

/-! ## Buffers and their blocks -/

/-- The buffers of one kind of memory: every one has a block of exactly the recorded size, or
none and no size, no block has two buffers, and their bytes are within the maximum. -/
structure Holds (heap : Nat → Option Nat) (buffers : Plane → Scratch) (maxBytes : Nat) : Prop where
  block : ∀ p, (buffers p).ptr ≠ 0 → heap (buffers p).ptr = some (buffers p).size
  null : ∀ p, (buffers p).ptr = 0 → (buffers p).size = 0
  distinct : ∀ p q, (buffers p).ptr ≠ 0 → (buffers p).ptr = (buffers q).ptr → p = q
  max : totalBytes buffers ≤ maxBytes

theorem totalBytes_update (buffers : Plane → Scratch) (plane : Plane) (buffer : Scratch) :
    totalBytes (Function.update buffers plane buffer) + (buffers plane).size =
      totalBytes buffers + buffer.size := by
  unfold totalBytes
  cases plane <;> simp [Function.update] <;> omega

theorem size_le_totalBytes (buffers : Plane → Scratch) (plane : Plane) :
    (buffers plane).size ≤ totalBytes buffers := by
  have h := totalBytes_update buffers plane {}
  have hsize : ({} : Scratch).size = 0 := rfl
  omega

theorem scratchBytes_eq {buffers : Plane → Scratch} (hfits : totalBytes buffers < 2 ^ 64) :
    scratchBytes buffers = totalBytes buffers :=
  Nat.mod_eq_of_lt hfits

namespace Holds

variable {heap heap' : Nat → Option Nat} {buffers : Plane → Scratch} {maxBytes : Nat}

/-- A heap that agrees on the blocks of the buffers is as good. -/
theorem congr (h : Holds heap buffers maxBytes)
    (hsame : ∀ p, (buffers p).ptr ≠ 0 → heap' (buffers p).ptr = heap (buffers p).ptr) :
    Holds heap' buffers maxBytes :=
  { h with block := fun p hp => (hsame p hp).trans (h.block p hp) }

/-- A buffer is given another block, of which no other buffer knows. -/
theorem replace (h : Holds heap buffers maxBytes) {plane : Plane} {address size : Nat}
    (hnew : heap' address = some size)
    (hothers : ∀ a, a ≠ 0 → a ≠ address → a ≠ (buffers plane).ptr → heap' a = heap a)
    (hnull : address ≠ 0) (hunknown : ∀ p, p ≠ plane → (buffers p).ptr ≠ address)
    (hmax : totalBytes (Function.update buffers plane ⟨address, size⟩) ≤ maxBytes) :
    Holds heap' (Function.update buffers plane ⟨address, size⟩) maxBytes where
  block p hp := by
    by_cases heq : p = plane
    · subst heq
      rw [Function.update_self]
      exact hnew
    · rw [Function.update_of_ne heq] at hp ⊢
      rw [hothers _ hp (hunknown p heq) fun hsame => heq (h.distinct p plane hp hsame)]
      exact h.block p hp
  null p hp := by
    by_cases heq : p = plane
    · subst heq
      rw [Function.update_self] at hp
      exact absurd hp hnull
    · rw [Function.update_of_ne heq] at hp ⊢
      exact h.null p hp
  distinct p q hp hsame := by
    by_cases hp' : p = plane <;> by_cases hq' : q = plane
    · exact hp'.trans hq'.symm
    · subst hp'
      rw [Function.update_self, Function.update_of_ne hq'] at hsame
      exact absurd hsame.symm (hunknown q hq')
    · subst hq'
      rw [Function.update_self, Function.update_of_ne hp'] at hsame
      exact absurd hsame (hunknown p hp')
    · rw [Function.update_of_ne hp'] at hp hsame
      rw [Function.update_of_ne hq'] at hsame
      exact h.distinct p q hp hsame
  max := hmax

/-- A buffer is freed. -/
theorem release (h : Holds heap buffers maxBytes) (plane : Plane) :
    Holds (Function.update heap (buffers plane).ptr none) (Function.update buffers plane {})
      maxBytes where
  block p hp := by
    by_cases heq : p = plane
    · subst heq
      rw [Function.update_self] at hp
      exact absurd rfl hp
    · rw [Function.update_of_ne heq] at hp ⊢
      rw [Function.update_of_ne fun hsame => heq (h.distinct p plane hp hsame)]
      exact h.block p hp
  null p hp := by
    by_cases heq : p = plane
    · subst heq
      rw [Function.update_self]
    · rw [Function.update_of_ne heq] at hp ⊢
      exact h.null p hp
  distinct p q hp hsame := by
    have hne : p ≠ plane := by
      rintro rfl
      rw [Function.update_self] at hp
      exact hp rfl
    rw [Function.update_of_ne hne] at hp hsame
    have hne' : q ≠ plane := by
      rintro rfl
      rw [Function.update_self] at hsame
      exact hp hsame
    rw [Function.update_of_ne hne'] at hsame
    exact h.distinct p q hp hsame
  max := by
    have hsum := totalBytes_update buffers plane {}
    have hsize : ({} : Scratch).size = 0 := rfl
    have hle := h.max
    omega

end Holds

/-! ## Invariant -/

/-- The accounts of a driver. -/
structure ScratchInv (d : NVDriver) : Prop where
  gpu : Holds d.gpuHeap d.gpu d.videoProcScratchMaxBytes
  cpu : Holds d.cpuHeap d.cpu d.videoProcScratchMaxBytes
  stats : d.statsEnabled = true → d.gpuStat = totalBytes d.gpu ∧ d.cpuStat = totalBytes d.cpu
  cache : d.detachedBackingImageBytes = cacheBytes d
  fits : cacheBytes d + totalBytes d.gpu < 2 ^ 64

/-- What does not change over runs. -/
def SameLimits (d d' : NVDriver) : Prop :=
  d'.videoProcScratchMaxBytes = d.videoProcScratchMaxBytes ∧
    d'.memoryBudgetBytes = d.memoryBudgetBytes ∧ d'.statsEnabled = d.statsEnabled

theorem SameLimits.refl (d : NVDriver) : SameLimits d d := ⟨rfl, rfl, rfl⟩

/-- What the pruning of the cache can change: nothing but the cache, whose bytes it keeps
counted and does not add to. -/
structure Pruned (d d' : NVDriver) : Prop where
  eq : d' = { d with
    detached := d'.detached, detachedBackingImageBytes := d'.detachedBackingImageBytes }
  cache : d.detachedBackingImageBytes = cacheBytes d →
    d'.detachedBackingImageBytes = cacheBytes d'
  le : cacheBytes d' ≤ cacheBytes d

namespace Pruned

theorem refl (d : NVDriver) : Pruned d d := ⟨rfl, id, Nat.le_refl _⟩

theorem trans {d d' d'' : NVDriver} (h : Pruned d d') (h' : Pruned d' d'') : Pruned d d'' where
  eq := by
    have heq := h'.eq
    rw [h.eq] at heq
    exact heq
  cache hcache := h'.cache (h.cache hcache)
  le := Nat.le_trans h'.le h.le

variable {d d' : NVDriver}

theorem gpu_eq (h : Pruned d d') : d'.gpu = d.gpu := by rw [h.eq]

theorem scratchInv (h : Pruned d d') (hinv : ScratchInv d) : ScratchInv d' := by
  have hcache := h.cache hinv.cache
  have hle := h.le
  have hfits := hinv.fits
  have hgpu := h.gpu_eq
  constructor
  · rw [h.eq]
    exact hinv.gpu
  · rw [h.eq]
    exact hinv.cpu
  · rw [h.eq]
    exact hinv.stats
  · exact hcache
  · rw [hgpu]
    omega

theorem sameLimits (h : Pruned d d') : SameLimits d d' := by
  rw [h.eq]
  exact ⟨rfl, rfl, rfl⟩

end Pruned

/-! ## The cache -/

theorem unlinkDetachedBackingImageLocked_pruned (i : Nat) (d : NVDriver) :
    Pruned d (unlinkDetachedBackingImageLocked i d) := by
  unfold unlinkDetachedBackingImageLocked
  split
  · exact .refl d
  · rename_i img himg
    obtain ⟨hi, rfl⟩ := List.getElem?_eq_some_iff.mp himg
    have hlen : i < (d.detached.map BackingImage.memorySize).length := by
      rw [List.length_map]
      exact hi
    have hsum : d.detached[i].memorySize +
        ((d.detached.eraseIdx i).map BackingImage.memorySize).sum = cacheBytes d := by
      have h := List.CommMonoid.add_sum_eraseIdx hlen
      rw [List.getElem_map, List.eraseIdx_map] at h
      exact h
    refine ⟨rfl, fun hcache => ?_, ?_⟩
    · show (if _ then _ else _) = ((d.detached.eraseIdx i).map BackingImage.memorySize).sum
      rw [hcache, if_pos (by omega)]
      omega
    · show ((d.detached.eraseIdx i).map BackingImage.memorySize).sum ≤ _
      omega

theorem pruneOldest_pruned {d d' : NVDriver}
    (hprune : pruneOldestDetachedBackingImageLocked d = some d') :
    Pruned d d' ∧ d'.detached.length + 1 = d.detached.length := by
  unfold pruneOldestDetachedBackingImageLocked at hprune
  split at hprune
  · cases hprune
  · rename_i i hi
    split at hprune
    · cases hprune
      refine ⟨unlinkDetachedBackingImageLocked_pruned i d, ?_⟩
      have hlt : i < d.detached.length := (List.findIdx?_eq_some_iff_getElem.mp hi).1
      unfold unlinkDetachedBackingImageLocked
      rw [List.getElem?_eq_getElem hlt]
      show (d.detached.eraseIdx i).length + 1 = d.detached.length
      rw [List.length_eraseIdx_of_lt hlt]
      omega
    · cases hprune

theorem pruneTurns_pruned (extraGpuBytes turns : Nat) (d : NVDriver) :
    Pruned d (pruneTurns extraGpuBytes turns d) := by
  induction turns generalizing d with
  | zero => exact .refl d
  | succ turns ih =>
      unfold pruneTurns
      split
      · split
        · rename_i d' hprune
          exact (pruneOldest_pruned hprune).1.trans (ih d')
        · exact .refl d
      · exact .refl d

/-- Where the pruning makes room, the bytes that are asked for, those of the cache and those
of the buffers are within the budget. -/
theorem pruneToMemoryBudget_spec (extraGpuBytes : Nat) {d : NVDriver} (hinv : ScratchInv d) :
    Pruned d (pruneToMemoryBudget extraGpuBytes d).2 ∧
      ((pruneToMemoryBudget extraGpuBytes d).1 = true → d.memoryBudgetBytes ≠ 0 →
        cacheBytes (pruneToMemoryBudget extraGpuBytes d).2 + totalBytes d.gpu + extraGpuBytes ≤
          d.memoryBudgetBytes) := by
  unfold pruneToMemoryBudget
  split
  · rename_i hzero
    exact ⟨.refl d, fun _ hset => absurd hzero hset⟩
  · have hpruned := pruneTurns_pruned extraGpuBytes d.detached.length d
    refine ⟨hpruned, fun hroom _ => ?_⟩
    have hinv' := hpruned.scratchInv hinv
    have hgpu := hpruned.gpu_eq
    have hbudget := hpruned.sameLimits.2.1
    generalize pruneTurns extraGpuBytes d.detached.length d = d' at *
    have hfits := hinv'.fits
    have hsum : scratchBytes d'.gpu = totalBytes d'.gpu := scratchBytes_eq (by omega)
    simp only [overBudget, Bool.not_eq_true', Bool.or_eq_false_iff, decide_eq_false_iff_not,
      hinv'.cache, hsum, hbudget, Nat.mod_eq_of_lt hfits] at hroom
    rw [← hgpu]
    show cacheBytes d' + totalBytes d'.gpu + extraGpuBytes ≤ d.memoryBudgetBytes
    omega

/-! ## Buffers -/

section Buffers

variable {d : NVDriver}

/-- The counters are set to the sums. -/
theorem stats_updated (hgpu : totalBytes d.gpu < 2 ^ 64) (hcpu : totalBytes d.cpu < 2 ^ 64) :
    ∃ gpuStat cpuStat, updateVideoProcScratchStats d =
        { d with gpuStat := gpuStat, cpuStat := cpuStat } ∧
      (d.statsEnabled = true → gpuStat = totalBytes d.gpu ∧ cpuStat = totalBytes d.cpu) := by
  unfold updateVideoProcScratchStats
  split
  · exact ⟨_, _, rfl, fun _ => ⟨scratchBytes_eq hgpu, scratchBytes_eq hcpu⟩⟩
  · rename_i hoff
    exact ⟨d.gpuStat, d.cpuStat, rfl, fun hon => absurd hon hoff⟩

/-- New counters on sound buffers. -/
theorem scratchInv_updated (hmax : d.videoProcScratchMaxBytes < 2 ^ 64)
    (hgpu : Holds d.gpuHeap d.gpu d.videoProcScratchMaxBytes)
    (hcpu : Holds d.cpuHeap d.cpu d.videoProcScratchMaxBytes)
    (hcache : d.detachedBackingImageBytes = cacheBytes d)
    (hfits : cacheBytes d + totalBytes d.gpu < 2 ^ 64) :
    ScratchInv (updateVideoProcScratchStats d) := by
  obtain ⟨gpuStat, cpuStat, heq, hstats⟩ :=
    stats_updated (Nat.lt_of_le_of_lt hgpu.max hmax) (Nat.lt_of_le_of_lt hcpu.max hmax)
  rw [heq]
  exact ⟨hgpu, hcpu, hstats, hcache, hfits⟩

theorem update_sameLimits : SameLimits d (updateVideoProcScratchStats d) := by
  unfold updateVideoProcScratchStats
  split
  · exact ⟨rfl, rfl, rfl⟩
  · exact .refl d

theorem update_gpu : (updateVideoProcScratchStats d).gpu = d.gpu := by
  unfold updateVideoProcScratchStats
  split
  · rfl
  · rfl

theorem update_cache : cacheBytes (updateVideoProcScratchStats d) = cacheBytes d := by
  unfold updateVideoProcScratchStats
  split
  · rfl
  · rfl

/-- A size that is not over the maximum leaves the sum within it. -/
theorem total_le_of_not_overMaximum {heap : Nat → Option Nat} {buffers : Plane → Scratch}
    (hmax : d.videoProcScratchMaxBytes < 2 ^ 64)
    (hholds : Holds heap buffers d.videoProcScratchMaxBytes) {plane : Plane}
    {address allocSize : Nat} (hover : d.overMaximum buffers plane allocSize = false) :
    totalBytes (Function.update buffers plane ⟨address, allocSize⟩) ≤
      d.videoProcScratchMaxBytes := by
  have hsum := totalBytes_update buffers plane ⟨address, allocSize⟩
  have hle := hholds.max
  have hsize := size_le_totalBytes buffers plane
  have hbytes : scratchBytes buffers = totalBytes buffers := scratchBytes_eq (by omega)
  simp only [NVDriver.overMaximum, Bool.or_eq_false_iff, decide_eq_false_iff_not, hbytes]
    at hover
  simp only at hsum
  omega

/-- How the replacement of a buffer of device memory ends: where the old buffer is not freed
nothing has changed but the heap. -/
theorem replaceGpu_outcome (plane : Plane) (address allocSize : Nat) (freed freedNew : Bool)
    {d' : NVDriver} {ok : Bool}
    (hreplace : d.replaceGpu plane address allocSize freed freedNew = (ok, d')) :
    SameLimits d d' ∧ cacheBytes d' = cacheBytes d ∧
      d'.gpu = (if ok then Function.update d.gpu plane ⟨address, allocSize⟩ else d.gpu) ∧
      (ok = false → d'.cpu = d.cpu ∧ d'.gpuStat = d.gpuStat ∧ d'.cpuStat = d.cpuStat) := by
  unfold NVDriver.replaceGpu at hreplace
  simp only at hreplace
  split at hreplace
  · cases hreplace
    cases freedNew
    · exact ⟨⟨rfl, rfl, rfl⟩, rfl, rfl, fun _ => ⟨rfl, rfl, rfl⟩⟩
    · exact ⟨⟨rfl, rfl, rfl⟩, rfl, rfl, fun _ => ⟨rfl, rfl, rfl⟩⟩
  · cases hreplace
    split
    · exact ⟨update_sameLimits, update_cache, update_gpu, nofun⟩
    · exact ⟨update_sameLimits, update_cache, update_gpu, nofun⟩

/-- The replacement of a buffer of device memory keeps the accounts. -/
theorem ScratchInv.replaceGpu (hinv : ScratchInv d) (hmax : d.videoProcScratchMaxBytes < 2 ^ 64)
    {plane : Plane} {address allocSize : Nat} {freed freedNew : Bool}
    (hfresh : address ≠ 0 ∧ d.gpuHeap address = none)
    (hover : d.overMaximum d.gpu plane allocSize = false)
    (hfits : cacheBytes (d.replaceGpu plane address allocSize freed freedNew).2 +
      totalBytes (d.replaceGpu plane address allocSize freed freedNew).2.gpu < 2 ^ 64) :
    ScratchInv (d.replaceGpu plane address allocSize freed freedNew).2 := by
  have hunknown : ∀ p, (d.gpu p).ptr ≠ address := by
    rintro p rfl
    rw [hinv.gpu.block p hfresh.1] at hfresh
    cases hfresh.2
  unfold NVDriver.replaceGpu at hfits ⊢
  simp only at hfits ⊢
  by_cases hkept : (d.gpu plane).ptr ≠ 0 ∧ ¬freed = true
  · rw [if_pos hkept]
    cases freedNew
    · refine { hinv with gpu := hinv.gpu.congr fun p _ => ?_ }
      exact Function.update_of_ne (hunknown p) ..
    · refine { hinv with gpu := hinv.gpu.congr fun p _ => ?_ }
      show Function.update (Function.update d.gpuHeap address (some allocSize)) address none
        (d.gpu p).ptr = _
      rw [Function.update_of_ne (hunknown p), Function.update_of_ne (hunknown p)]
  · rw [if_neg hkept] at hfits ⊢
    rw [update_cache, update_gpu] at hfits
    -- The heap has the new block, and the old one is gone from it.
    obtain ⟨heap, hheap, hnew, hothers⟩ : ∃ heap,
        (if (d.gpu plane).ptr ≠ 0 then
          { d with
            gpuHeap := Function.update (Function.update d.gpuHeap address (some allocSize))
              (d.gpu plane).ptr none }
        else { d with gpuHeap := Function.update d.gpuHeap address (some allocSize) }) =
          { d with gpuHeap := heap } ∧ heap address = some allocSize ∧
        ∀ a, a ≠ 0 → a ≠ address → a ≠ (d.gpu plane).ptr → heap a = d.gpuHeap a := by
      by_cases hold : (d.gpu plane).ptr = 0
      · rw [if_neg (not_not.mpr hold)]
        exact ⟨_, rfl, Function.update_self .., fun a _ hne _ => Function.update_of_ne hne ..⟩
      · rw [if_pos hold]
        refine ⟨_, rfl, ?_, fun a _ hne hne' => ?_⟩
        · rw [Function.update_of_ne (hunknown plane).symm, Function.update_self]
        · rw [Function.update_of_ne hne', Function.update_of_ne hne]
    have hgpu := hinv.gpu.replace hnew hothers hfresh.1 (fun p _ => hunknown p)
      (total_le_of_not_overMaximum hmax hinv.gpu hover)
    rw [hheap] at hfits ⊢
    exact scratchInv_updated hmax hgpu hinv.cpu hinv.cache hfits

end Buffers

/-! ## Calls -/

section Calls

variable {d : NVDriver}

/-- How `ensureVideoProcBuffer` ends: where it allocates, the cache and the buffers are within
a budget that is set, and where it fails the buffers and the counters are as they were. -/
theorem ensureVideoProcBuffer_outcome (hinv : ScratchInv d) (plane : Plane) (requiredSize : Nat)
    (memory : Option Nat) (freed freedNew : Bool) {d' : NVDriver} {ok : Bool}
    (hensure : ensureVideoProcBuffer plane requiredSize memory freed freedNew d = (ok, d')) :
    SameLimits d d' ∧
      (ok = true → (d.gpu plane).suffices requiredSize = false → d.memoryBudgetBytes ≠ 0 →
        cacheBytes d' + totalBytes d'.gpu ≤ d.memoryBudgetBytes) ∧
      (ok = false → d'.gpu = d.gpu ∧ d'.cpu = d.cpu ∧ d'.gpuStat = d.gpuStat ∧
        d'.cpuStat = d.cpuStat) := by
  unfold ensureVideoProcBuffer at hensure
  simp only at hensure
  split at hensure
  · rename_i hsuffices
    cases hensure
    exact ⟨.refl d, fun _ hnot => absurd hsuffices (by rw [hnot]; decide), nofun⟩
  · generalize hextra : (if roundVideoProcBufferSize requiredSize > (d.gpu plane).size then _
      else _) = extra at hensure
    obtain ⟨hpruned, hroom⟩ := pruneToMemoryBudget_spec extra hinv
    generalize pruneToMemoryBudget extra d = pruned at hensure hpruned hroom
    obtain ⟨fits, d1⟩ := pruned
    simp only at hensure hpruned hroom
    have hlimits := hpruned.sameLimits
    have hgpu := hpruned.gpu_eq
    have hkept : d1.gpu = d.gpu ∧ d1.cpu = d.cpu ∧ d1.gpuStat = d.gpuStat ∧
        d1.cpuStat = d.cpuStat := by
      refine ⟨hgpu, ?_⟩
      rw [hpruned.eq]
      exact ⟨rfl, rfl, rfl⟩
    split at hensure
    · cases hensure
      exact ⟨hlimits, nofun, fun _ => hkept⟩
    · rename_i hfits
      split at hensure
      · cases hensure
        exact ⟨hlimits, nofun, fun _ => hkept⟩
      · split at hensure
        · cases hensure
          exact ⟨hlimits, nofun, fun _ => hkept⟩
        · rename_i address
          obtain ⟨hsame, hcache, hnew, hfailed⟩ := replaceGpu_outcome _ _ _ _ _ hensure
          refine ⟨⟨hsame.1.trans hlimits.1, hsame.2.1.trans hlimits.2.1,
            hsame.2.2.trans hlimits.2.2⟩, ?_, ?_⟩
          · rintro rfl - hset
            have hle := hroom (not_not.mp hfits) hset
            rw [if_pos rfl, hgpu] at hnew
            have hsum := totalBytes_update d.gpu plane
              ⟨address, roundVideoProcBufferSize requiredSize⟩
            rw [hcache, hnew]
            split at hextra
            · simp only at hsum
              omega
            · simp only at hsum
              omega
          · rintro rfl
            rw [if_neg (by decide)] at hnew
            obtain ⟨hcpu, hgpuStat, hcpuStat⟩ := hfailed rfl
            exact ⟨hnew.trans hgpu, hcpu.trans hkept.2.1, hgpuStat.trans hkept.2.2.1,
              hcpuStat.trans hkept.2.2.2⟩

/-- `ensureVideoProcBuffer` keeps the accounts. -/
theorem ScratchInv.ensureGpu (hinv : ScratchInv d) (hmax : d.videoProcScratchMaxBytes < 2 ^ 64)
    {plane : Plane} {requiredSize : Nat} {memory : Option Nat} {freed freedNew : Bool}
    (hanswered : Answered d (.ensureGpu plane requiredSize memory freed freedNew)) :
    ScratchInv (ensureVideoProcBuffer plane requiredSize memory freed freedNew d).2 := by
  obtain ⟨hfresh, hfits⟩ := hanswered
  change cacheBytes (ensureVideoProcBuffer plane requiredSize memory freed freedNew d).2 +
    totalBytes (ensureVideoProcBuffer plane requiredSize memory freed freedNew d).2.gpu < _ at hfits
  unfold ensureVideoProcBuffer at hfits ⊢
  simp only at hfits ⊢
  split at hfits
  · rename_i hsuffices
    rw [if_pos hsuffices]
    exact hinv
  · rename_i hsuffices
    rw [if_neg hsuffices]
    generalize (if roundVideoProcBufferSize requiredSize > (d.gpu plane).size then _
      else _) = extra at hfits ⊢
    obtain ⟨hpruned, -⟩ := pruneToMemoryBudget_spec extra hinv
    generalize pruneToMemoryBudget extra d = pruned at hfits hpruned ⊢
    obtain ⟨fits, d1⟩ := pruned
    simp only at hfits hpruned ⊢
    have hinv1 := hpruned.scratchInv hinv
    have hmax1 : d1.videoProcScratchMaxBytes < 2 ^ 64 := by rw [hpruned.sameLimits.1]; exact hmax
    have hheap : d1.gpuHeap = d.gpuHeap := by rw [hpruned.eq]
    split at hfits
    · rename_i hno
      rw [if_pos hno]
      exact hinv1
    · rename_i hroom
      rw [if_neg hroom]
      split at hfits
      · rename_i hover
        rw [if_pos hover]
        exact hinv1
      · rename_i hover
        rw [if_neg hover]
        cases memory with
        | none => exact hinv1
        | some address =>
            refine hinv1.replaceGpu hmax1 ?_ (eq_false_of_ne_true hover) hfits
            rw [hheap]
            exact hfresh address rfl

/-- `ensureCpuVideoProcBuffer` keeps the accounts, and where it fails nothing has changed. -/
theorem ScratchInv.ensureCpu (hinv : ScratchInv d) (hmax : d.videoProcScratchMaxBytes < 2 ^ 64)
    {plane : Plane} {requiredSize : Nat} {memory : Option Nat}
    (hfresh : ∀ address ∈ memory,
      address ≠ 0 ∧ (address = (d.cpu plane).ptr ∨ d.cpuHeap address = none)) :
    ScratchInv (ensureCpuVideoProcBuffer plane requiredSize memory d).2 ∧
      SameLimits d (ensureCpuVideoProcBuffer plane requiredSize memory d).2 := by
  unfold ensureCpuVideoProcBuffer
  simp only
  split
  · exact ⟨hinv, .refl d⟩
  · split
    · exact ⟨hinv, .refl d⟩
    · rename_i hover
      cases memory with
      | none => exact ⟨hinv, .refl d⟩
      | some address =>
          obtain ⟨hnull, hwhere⟩ := hfresh address rfl
          have hunknown : ∀ p, p ≠ plane → (d.cpu p).ptr ≠ address := by
            rintro p hne rfl
            rcases hwhere with hstays | hnew
            · exact hne (hinv.cpu.distinct p plane hnull hstays)
            · rw [hinv.cpu.block p hnull] at hnew
              cases hnew
          have hcpu : Holds (Function.update (Function.update d.cpuHeap (d.cpu plane).ptr none)
              address (some (roundVideoProcBufferSize requiredSize))) _ _ :=
            hinv.cpu.replace (Function.update_self ..)
              (fun a _ hne hne' => by rw [Function.update_of_ne hne, Function.update_of_ne hne'])
              hnull hunknown
              (total_le_of_not_overMaximum hmax hinv.cpu (eq_false_of_ne_true hover))
          refine ⟨scratchInv_updated hmax hinv.gpu hcpu hinv.cache hinv.fits, ?_⟩
          exact update_sameLimits

/-- A failing `ensureCpuVideoProcBuffer` has changed nothing. -/
theorem ensureCpuVideoProcBuffer_failed {plane : Plane} {requiredSize : Nat}
    {memory : Option Nat}
    (hfailed : (ensureCpuVideoProcBuffer plane requiredSize memory d).1 = false) :
    (ensureCpuVideoProcBuffer plane requiredSize memory d).2 = d := by
  unfold ensureCpuVideoProcBuffer at hfailed ⊢
  simp only at hfailed ⊢
  split at hfailed
  · cases hfailed
  · rename_i hsuffices
    rw [if_neg hsuffices]
    split at hfailed
    · rename_i hover
      rw [if_pos hover]
    · rename_i hover
      rw [if_neg hover]
      cases memory with
      | none => rfl
      | some address => cases hfailed

/-- The trimming of some buffers of device memory. -/
theorem foldl_trimGpu (freed : Plane → Bool) (planes : List Plane) (d : NVDriver)
    (hgpu : Holds d.gpuHeap d.gpu d.videoProcScratchMaxBytes) :
    ∃ heap gpu, planes.foldl (trimGpu freed) d = { d with gpuHeap := heap, gpu := gpu } ∧
      Holds heap gpu d.videoProcScratchMaxBytes ∧ totalBytes gpu ≤ totalBytes d.gpu := by
  induction planes generalizing d with
  | nil => exact ⟨d.gpuHeap, d.gpu, rfl, hgpu, Nat.le_refl _⟩
  | cons plane planes ih =>
      rw [List.foldl_cons]
      unfold trimGpu
      split
      · obtain ⟨heap, gpu, heq, hholds, hle⟩ := ih { d with
          gpuHeap := Function.update d.gpuHeap (d.gpu plane).ptr none
          gpu := Function.update d.gpu plane {} } (hgpu.release plane)
        have hsum := totalBytes_update d.gpu plane {}
        have hsize : ({} : Scratch).size = 0 := rfl
        have hless : totalBytes (Function.update d.gpu plane {}) ≤ totalBytes d.gpu := by omega
        exact ⟨heap, gpu, heq, hholds, Nat.le_trans hle hless⟩
      · exact ih d hgpu

/-- The trimming of some buffers of host memory. -/
theorem foldl_trimCpu (planes : List Plane) (d : NVDriver)
    (hcpu : Holds d.cpuHeap d.cpu d.videoProcScratchMaxBytes) :
    ∃ heap cpu, planes.foldl trimCpu d = { d with cpuHeap := heap, cpu := cpu } ∧
      Holds heap cpu d.videoProcScratchMaxBytes := by
  induction planes generalizing d with
  | nil => exact ⟨d.cpuHeap, d.cpu, rfl, hcpu⟩
  | cons plane planes ih =>
      rw [List.foldl_cons]
      obtain ⟨heap, cpu, heq, hholds⟩ := ih (trimCpu d plane) (hcpu.release plane)
      exact ⟨heap, cpu, heq, hholds⟩

/-- `trimVideoProcScratchLocked` keeps the accounts. -/
theorem ScratchInv.trim (hinv : ScratchInv d) (hmax : d.videoProcScratchMaxBytes < 2 ^ 64)
    (gpu cpu : Bool) (freed : Plane → Bool) :
    ScratchInv (trimVideoProcScratchLocked gpu cpu freed d) ∧
      SameLimits d (trimVideoProcScratchLocked gpu cpu freed d) := by
  have hfits := hinv.fits
  obtain ⟨heap, buffers, heq, hgpu, hle⟩ : ∃ heap buffers,
      (if gpu then [Plane.y, .uv, .argb].foldl (trimGpu freed) d else d) =
        { d with gpuHeap := heap, gpu := buffers } ∧
      Holds heap buffers d.videoProcScratchMaxBytes ∧ totalBytes buffers ≤ totalBytes d.gpu := by
    cases gpu
    · exact ⟨d.gpuHeap, d.gpu, rfl, hinv.gpu, Nat.le_refl _⟩
    · exact foldl_trimGpu freed _ d hinv.gpu
  obtain ⟨heap', buffers', heq', hcpu⟩ : ∃ heap' buffers',
      (if cpu then [Plane.y, .uv, .argb].foldl trimCpu { d with gpuHeap := heap, gpu := buffers }
        else { d with gpuHeap := heap, gpu := buffers }) =
        { d with gpuHeap := heap, gpu := buffers, cpuHeap := heap', cpu := buffers' } ∧
      Holds heap' buffers' d.videoProcScratchMaxBytes := by
    cases cpu
    · exact ⟨d.cpuHeap, d.cpu, rfl, hinv.cpu⟩
    · exact foldl_trimCpu _ { d with gpuHeap := heap, gpu := buffers } hinv.cpu
  unfold trimVideoProcScratchLocked
  simp only [heq, heq']
  refine ⟨scratchInv_updated hmax hgpu hcpu hinv.cache ?_, update_sameLimits⟩
  show cacheBytes d + totalBytes buffers < 2 ^ 64
  omega

/-- Every call keeps the accounts. -/
theorem ScratchInv.after (hinv : ScratchInv d) (hmax : d.videoProcScratchMaxBytes < 2 ^ 64)
    {call : Call} (hanswered : Answered d call) :
    ScratchInv (d.after call) ∧ SameLimits d (d.after call) := by
  cases call with
  | ensureGpu plane requiredSize memory freed freedNew =>
      exact ⟨hinv.ensureGpu hmax hanswered,
        (ensureVideoProcBuffer_outcome hinv plane requiredSize memory freed freedNew rfl).1⟩
  | ensureCpu plane requiredSize memory => exact hinv.ensureCpu hmax hanswered.1
  | trim gpu cpu freed => exact hinv.trim hmax gpu cpu freed
  | linkDetached img =>
      have hfits : cacheBytes (linkDetachedBackingImageLocked img d) + totalBytes d.gpu < 2 ^ 64 :=
        hanswered.2
      have hsum : cacheBytes (linkDetachedBackingImageLocked img d) =
          cacheBytes d + img.memorySize := by
        simp [cacheBytes, linkDetachedBackingImageLocked]
      refine ⟨{ hinv with cache := ?_, fits := hfits }, rfl, rfl, rfl⟩
      show (d.detachedBackingImageBytes + img.memorySize) % 2 ^ 64 =
        cacheBytes (linkDetachedBackingImageLocked img d)
      rw [hsum, hinv.cache]
      exact Nat.mod_eq_of_lt (by omega)
  | unlinkDetached i =>
      have hpruned := unlinkDetachedBackingImageLocked_pruned i d
      exact ⟨hpruned.scratchInv hinv, hpruned.sameLimits⟩
  | useDetached i hasSurface borrowCount listed =>
      have hsame : cacheBytes (d.after (.useDetached i hasSurface borrowCount listed)) =
          cacheBytes d := by
        unfold cacheBytes
        congr 1
        apply List.ext_getElem?
        intro j
        simp only [NVDriver.after, List.getElem?_map, List.getElem?_modify]
        cases d.detached[j]? with
        | none => rfl
        | some img =>
            by_cases hij : i = j
            · simp [hij]
            · simp [hij]
      refine ⟨{ hinv with cache := ?_, fits := ?_ }, rfl, rfl, rfl⟩
      · rw [hsame]
        exact hinv.cache
      · rw [hsame]
        exact hinv.fits

/-- The accounts are in order in every state that is reached. -/
theorem reachable_scratchInv {maxBytes budget : Nat} {statsEnabled : Bool}
    (hmax : maxBytes < 2 ^ 64)
    (hd : (scratchSystem maxBytes budget statsEnabled).ReachableUnder Answered d) :
    ScratchInv d ∧ SameLimits (scratchSystem maxBytes budget statsEnabled).init d := by
  refine LabelledSystem.invariant (P := fun d => ScratchInv d ∧
    SameLimits (scratchSystem maxBytes budget statsEnabled).init d) ⟨?_, .refl _⟩ ?_ hd
  · have hnone : ∀ heap, Holds heap (fun _ => {}) maxBytes := fun heap =>
      ⟨fun _ hp => absurd rfl hp, fun _ _ => rfl, fun _ _ hp => absurd rfl hp, Nat.zero_le _⟩
    exact ⟨hnone _, hnone _, fun _ => ⟨rfl, rfl⟩, rfl, Nat.two_pow_pos 64⟩
  · rintro d call d' ⟨hinv, hsame⟩ hanswered hstep
    cases hstep
    have hlimit : d.videoProcScratchMaxBytes < 2 ^ 64 := by rw [hsame.1]; exact hmax
    obtain ⟨hinv', hsame'⟩ := hinv.after hlimit hanswered
    exact ⟨hinv', hsame'.1.trans hsame.1, hsame'.2.1.trans hsame.2.1, hsame'.2.2.trans hsame.2.2⟩

end Calls

/-! ## Main results -/

/-- The bytes of the blocks of three buffers. -/
def liveBytes (heap : Nat → Option Nat) (buffers : Plane → Scratch) : Nat :=
  (([Plane.y, .uv, .argb].filter fun p => (buffers p).ptr ≠ 0).map fun p =>
    (heap (buffers p).ptr).getD 0).sum

/-- What is recorded is what the blocks have. -/
theorem Holds.liveBytes_eq {heap : Nat → Option Nat} {buffers : Plane → Scratch}
    {maxBytes : Nat} (h : Holds heap buffers maxBytes) :
    liveBytes heap buffers = totalBytes buffers := by
  have hone : ∀ p planes, (((p :: planes).filter fun p => (buffers p).ptr ≠ 0).map fun p =>
      (heap (buffers p).ptr).getD 0).sum = (buffers p).size +
        ((planes.filter fun p => (buffers p).ptr ≠ 0).map fun p =>
          (heap (buffers p).ptr).getD 0).sum := by
    intro p planes
    by_cases hp : (buffers p).ptr = 0
    · rw [List.filter_cons_of_neg (by simp [hp]), h.null p hp, Nat.zero_add]
    · rw [List.filter_cons_of_pos (by simp [hp]), List.map_cons, List.sum_cons, h.block p hp]
      rfl
  unfold liveBytes totalBytes
  rw [hone, hone, hone]
  simp [Nat.add_assoc]

/-- Whatever is asked of the scratch memory and happens to the cache, with whatever answers:
a size is only recorded for a buffer with a block that has it; the counters, and the sums that
the checks compute, are those of the blocks of the buffers and within the maximum; device
memory that is allocated leaves the cache and the buffers within a budget that is set; and
where a buffer cannot be had, all buffers and counters are as they were. -/
theorem scratch_accounted (maxBytes budget : Nat) (statsEnabled : Bool)
    (hmax : maxBytes < 2 ^ 64) (d : NVDriver)
    (hd : (scratchSystem maxBytes budget statsEnabled).ReachableUnder Answered d) :
    (∀ p, ((d.gpu p).size ≠ 0 → ∃ size, (d.gpu p).ptr ≠ 0 ∧
        d.gpuHeap (d.gpu p).ptr = some size ∧ (d.gpu p).size ≤ size) ∧
      ((d.cpu p).size ≠ 0 → ∃ size, (d.cpu p).ptr ≠ 0 ∧
        d.cpuHeap (d.cpu p).ptr = some size ∧ (d.cpu p).size ≤ size)) ∧
    scratchBytes d.gpu = liveBytes d.gpuHeap d.gpu ∧
    scratchBytes d.cpu = liveBytes d.cpuHeap d.cpu ∧
    (statsEnabled = true → d.gpuStat = liveBytes d.gpuHeap d.gpu ∧
      d.cpuStat = liveBytes d.cpuHeap d.cpu) ∧
    liveBytes d.gpuHeap d.gpu ≤ maxBytes ∧ liveBytes d.cpuHeap d.cpu ≤ maxBytes ∧
    d.detachedBackingImageBytes = cacheBytes d ∧
    (∀ plane requiredSize memory freed freedNew d' ok,
      ensureVideoProcBuffer plane requiredSize memory freed freedNew d = (ok, d') →
      (ok = true → (d.gpu plane).suffices requiredSize = false → budget ≠ 0 →
        cacheBytes d' + totalBytes d'.gpu ≤ budget) ∧
      (ok = false → d'.gpu = d.gpu ∧ d'.cpu = d.cpu ∧ d'.gpuStat = d.gpuStat ∧
        d'.cpuStat = d.cpuStat)) ∧
    ∀ plane requiredSize memory d',
      ensureCpuVideoProcBuffer plane requiredSize memory d = (false, d') → d' = d := by
  obtain ⟨hinv, hmaxBytes, hbudget, hstats⟩ := reachable_scratchInv hmax hd
  change d.videoProcScratchMaxBytes = maxBytes at hmaxBytes
  change d.memoryBudgetBytes = budget at hbudget
  change d.statsEnabled = statsEnabled at hstats
  subst hmaxBytes hbudget hstats
  have hgpuMax := hinv.gpu.max
  have hcpuMax := hinv.cpu.max
  rw [hinv.gpu.liveBytes_eq, hinv.cpu.liveBytes_eq]
  refine ⟨fun p => ⟨fun hsize => ?_, fun hsize => ?_⟩, scratchBytes_eq (by omega),
    scratchBytes_eq (by omega), hinv.stats, hgpuMax, hcpuMax, hinv.cache, ?_, ?_⟩
  · have hptr : (d.gpu p).ptr ≠ 0 := mt (hinv.gpu.null p) hsize
    exact ⟨_, hptr, hinv.gpu.block p hptr, Nat.le_refl _⟩
  · have hptr : (d.cpu p).ptr ≠ 0 := mt (hinv.cpu.null p) hsize
    exact ⟨_, hptr, hinv.cpu.block p hptr, Nat.le_refl _⟩
  · intro plane requiredSize memory freed freedNew d' ok hensure
    exact (ensureVideoProcBuffer_outcome hinv plane requiredSize memory freed freedNew hensure).2
  · intro plane requiredSize memory d' hensure
    have hfailed : (ensureCpuVideoProcBuffer plane requiredSize memory d).1 = false := by
      rw [hensure]
    have hsame := ensureCpuVideoProcBuffer_failed hfailed
    rw [hensure] at hsame
    exact hsame

/-- A detached image of some 3 MiB, and device memory for which it is pruned from a budget of
4 MiB: first 1 MiB, then 2 MiB in its place. -/
def growRun : List Call :=
  [.linkDetached { memorySize := 3 * 1024 * 1024 + 1 },
    .ensureGpu .y 1000 (some 64) true true, .ensureGpu .y (2 * 1024 * 1024) (some 128) true true]

/-- The driver after `growRun`, with a maximum of 8 MiB. -/
def grown : NVDriver :=
  (scratchSystem (8 * 1024 * 1024) (4 * 1024 * 1024) true).after growRun

theorem grown_reached :
    (scratchSystem (8 * 1024 * 1024) (4 * 1024 * 1024) true).ReachableUnder Answered grown := by
  refine .tail (.ensureGpu .y (2 * 1024 * 1024) (some 128) true true)
    (.tail (.ensureGpu .y 1000 (some 64) true true)
      (.tail (.linkDetached { memorySize := 3 * 1024 * 1024 + 1 }) (.refl _)
        ⟨trivial, by decide⟩ rfl) ⟨?_, by decide⟩ rfl) ⟨?_, by decide⟩ rfl
  · rintro address ⟨⟩
    exact ⟨by decide, rfl⟩
  · rintro address ⟨⟩
    exact ⟨by decide, by decide⟩

theorem scratch_accounted_grown :
    grown.gpuStat = 2 * 1024 * 1024 ∧ grown.gpuStat = liveBytes grown.gpuHeap grown.gpu ∧
      grown.detached = [] ∧ grown.detachedBackingImageBytes = cacheBytes grown := by
  obtain ⟨-, -, -, hstats, -, -, hcache, -⟩ :=
    scratch_accounted (8 * 1024 * 1024) (4 * 1024 * 1024) true (by decide) grown grown_reached
  exact ⟨by decide, (hstats rfl).1, by decide, hcache⟩

end VideoProc
end NvidiaVaapi
