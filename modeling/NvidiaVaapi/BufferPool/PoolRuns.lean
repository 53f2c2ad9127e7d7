import Mathlib.Algebra.BigOperators.Group.Finset.Basic
import Mathlib.Algebra.BigOperators.Group.Finset.Piecewise
import Mathlib.Algebra.Order.BigOperators.Group.Finset
import Mathlib.Data.List.Nodup
import NvidiaVaapi.BufferPool.Blocks
import NvidiaVaapi.Lib.LinkedQueue

/-!
# The pool over runs

The invariant of the pool: its links draw one list for every class, the lists are counted,
and every block is in one place.
-/

namespace NvidiaVaapi
namespace BufferPool

open Finset (range)

/-! ## Invariant -/

/-- The memory of a live buffer: none for no bytes, or a block with room for them, of the
size of its class where it has one. -/
structure OwnsMemory (heap : Nat → Option Nat) (buffer : NVBuffer) : Prop where
  room : buffer.size ≤ buffer.capacity
  block : buffer.ptr ≠ 0 → ∃ size, heap buffer.ptr = some size ∧ buffer.capacity ≤ size
  null : buffer.ptr = 0 → buffer.capacity = 0
  classed : ∀ c ∈ buffer.poolClass, c < poolClassCount ∧ buffer.capacity = classSize c

/-- The lists of the classes, and that every block is in one of them once, or with one live
buffer, or with nobody. -/
structure PoolInv (d : NVDriver) (lists : Nat → List Nat) : Prop where
  linked : ∀ c < poolClassCount, LinkedPath d.next 0 (d.bufferPool c) (lists c)
  count : ∀ c < poolClassCount, d.bufferPoolCounts c = (lists c).length
  few : ∀ c < poolClassCount, (lists c).length ≤ 16
  bytes : d.bufferPoolBytes = ∑ c ∈ range poolClassCount, (lists c).length * classSize c
  max : d.bufferPoolBytes ≤ d.bufferPoolMaxBytes
  nodup : ∀ c < poolClassCount, (lists c).Nodup
  apart : ∀ c < poolClassCount, ∀ c' < poolClassCount, ∀ block ∈ lists c,
    block ∈ lists c' → c = c'
  sized : ∀ c < poolClassCount, ∀ block ∈ lists c,
    ∃ size, d.heap block = some size ∧ classSize c ≤ size
  unowned : ∀ c < poolClassCount, ∀ block ∈ lists c, ∀ id buffer,
    d.buffers id = some buffer → buffer.ptr ≠ block
  owned : ∀ id buffer, d.buffers id = some buffer → OwnsMemory d.heap buffer
  distinct : ∀ id id' buffer buffer', d.buffers id = some buffer →
    d.buffers id' = some buffer' → buffer.ptr ≠ 0 → buffer.ptr = buffer'.ptr → id = id'

theorem PoolInv.init (maxBytes : Nat) :
    PoolInv { bufferPoolMaxBytes := maxBytes } fun _ => [] where
  linked _ _ := .nil
  count _ _ := rfl
  few _ _ := Nat.zero_le _
  bytes := by simp
  max := Nat.zero_le _
  nodup _ _ := List.nodup_nil
  apart _ _ _ _ _ h := absurd h List.not_mem_nil
  sized _ _ _ h := absurd h List.not_mem_nil
  unowned _ _ _ h := absurd h List.not_mem_nil
  owned _ _ h := nomatch h
  distinct _ _ _ _ h := nomatch h

/-- The class that is chosen for a size has room for it. -/
theorem bufferPoolClassForSize_spec {size c : Nat} (hc : bufferPoolClassForSize size = some c) :
    c < poolClassCount ∧ size ≤ classSize c := by
  unfold bufferPoolClassForSize at hc
  have hsize := List.find?_some hc
  have hmem := List.mem_of_find?_eq_some hc
  exact ⟨List.mem_range.mp hmem, of_decide_eq_true hsize⟩

/-- The bytes of the pool where the list of one class is another one. -/
theorem sum_update (lists : Nat → List Nat) {c : Nat} (hc : c < poolClassCount)
    (list : List Nat) :
    ∑ i ∈ range poolClassCount, (Function.update lists c list i).length * classSize i +
      (lists c).length * classSize c =
    ∑ i ∈ range poolClassCount, (lists i).length * classSize i + list.length * classSize c := by
  have hmem : c ∈ range poolClassCount := Finset.mem_range.mpr hc
  have hnew := Finset.add_sum_erase (range poolClassCount)
    (fun i => (Function.update lists c list i).length * classSize i) hmem
  have hold := Finset.add_sum_erase (range poolClassCount)
    (fun i => (lists i).length * classSize i) hmem
  have hothers : ∀ i ∈ (range poolClassCount).erase c,
      (Function.update lists c list i).length * classSize i = (lists i).length * classSize i := by
    intro i hi
    rw [Function.update_of_ne (Finset.ne_of_mem_erase hi)]
  rw [Finset.sum_congr rfl hothers] at hnew
  simp only [Function.update_self] at hnew
  omega

/-! ## Blocks that are nowhere -/

/-- A block that is neither in the pool nor with a buffer. -/
structure Loose (d : NVDriver) (lists : Nat → List Nat) (block : Nat) : Prop where
  notNull : block ≠ 0
  unpooled : ∀ c < poolClassCount, block ∉ lists c
  unowned : ∀ id buffer, d.buffers id = some buffer → buffer.ptr ≠ block

namespace PoolInv

variable {d : NVDriver} {lists : Nat → List Nat} {c block : Nat}

theorem ne_zero (h : PoolInv d lists) (hc : c < poolClassCount) (hblock : block ∈ lists c) :
    block ≠ 0 :=
  (h.linked c hc).ne_stop block hblock

/-- The first block of a class leaves the pool. -/
theorem takeBlock (h : PoolInv d lists) (hmax : d.bufferPoolMaxBytes < 2 ^ 64)
    (hc : c < poolClassCount) {rest : List Nat} (hlist : lists c = block :: rest) :
    PoolInv (d.takeBlock c (classSize c)) (Function.update lists c rest) ∧
      Loose (d.takeBlock c (classSize c)) (Function.update lists c rest) block := by
  have hmem : block ∈ lists c := hlist ▸ List.mem_cons_self
  have hpath : LinkedPath d.next 0 (d.bufferPool c) (block :: rest) := hlist ▸ h.linked c hc
  have hhead : d.bufferPool c = block := hpath.head_cons
  have hnodup : (block :: rest).Nodup := hlist ▸ h.nodup c hc
  have hsub : ∀ c', ∀ b ∈ Function.update lists c rest c', b ∈ lists c' := by
    intro c' b hb
    by_cases heq : c' = c
    · subst heq
      rw [Function.update_self] at hb
      exact hlist ▸ List.mem_cons_of_mem _ hb
    · rwa [Function.update_of_ne heq] at hb
  have hsum := sum_update lists hc rest
  have hcount := h.count c hc
  have hfew := h.few c hc
  have hbytes := h.bytes
  have hbound := h.max
  rw [hlist, List.length_cons, Nat.add_one_mul] at hsum
  rw [hlist, List.length_cons] at hcount hfew
  constructor
  · constructor
    · intro c' hc'
      by_cases heq : c' = c
      · subst heq
        show LinkedPath d.next 0 (Function.update d.bufferPool c' _ c') _
        rw [Function.update_self, Function.update_self, hhead]
        rw [hhead] at hpath
        cases hpath with
        | cons _ hrest => exact hrest
      · show LinkedPath d.next 0 (Function.update d.bufferPool c _ c') _
        rw [Function.update_of_ne heq, Function.update_of_ne heq]
        exact h.linked c' hc'
    · intro c' hc'
      show Function.update d.bufferPoolCounts c _ c' = _
      by_cases heq : c' = c
      · subst heq
        rw [Function.update_self, Function.update_self]
        omega
      · rw [Function.update_of_ne heq, Function.update_of_ne heq]
        exact h.count c' hc'
    · intro c' hc'
      by_cases heq : c' = c
      · subst heq
        rw [Function.update_self]
        omega
      · rw [Function.update_of_ne heq]
        exact h.few c' hc'
    · show (d.bufferPoolBytes + (2 ^ 64 - classSize c)) % 2 ^ 64 = _
      omega
    · show (d.bufferPoolBytes + (2 ^ 64 - classSize c)) % 2 ^ 64 ≤ d.bufferPoolMaxBytes
      omega
    · intro c' hc'
      by_cases heq : c' = c
      · subst heq
        rw [Function.update_self]
        exact (List.nodup_cons.mp hnodup).2
      · rw [Function.update_of_ne heq]
        exact h.nodup c' hc'
    · intro c1 hc1 c2 hc2 b hb hb'
      exact h.apart c1 hc1 c2 hc2 b (hsub c1 b hb) (hsub c2 b hb')
    · exact fun c' hc' b hb => h.sized c' hc' b (hsub c' b hb)
    · exact fun c' hc' b hb => h.unowned c' hc' b (hsub c' b hb)
    · exact h.owned
    · exact h.distinct
  · refine ⟨h.ne_zero hc hmem, fun c' hc' hin => ?_, h.unowned c hc block hmem⟩
    obtain rfl := h.apart c' hc' c hc block (hsub c' block hin) hmem
    rw [Function.update_self] at hin
    exact (List.nodup_cons.mp hnodup).1 hin

/-- A block comes from the C library. -/
theorem giveBlock (h : PoolInv d lists) {address : Nat} (capacity : Nat)
    (hfresh : address ≠ 0 ∧ d.heap address = none) :
    PoolInv { d with heap := Function.update d.heap address (some capacity) } lists ∧
      Loose { d with heap := Function.update d.heap address (some capacity) } lists address := by
  have hkeeps : ∀ b size, d.heap b = some size →
      Function.update d.heap address (some capacity) b = some size := by
    intro b size hb
    rw [Function.update_of_ne]
    · exact hb
    · rintro rfl
      rw [hfresh.2] at hb
      cases hb
  constructor
  · refine { h with sized := ?_, owned := ?_ }
    · intro c hc b hb
      obtain ⟨size, hsize, hle⟩ := h.sized c hc b hb
      exact ⟨size, hkeeps b size hsize, hle⟩
    · intro id buffer hbuffer
      refine { h.owned id buffer hbuffer with block := fun hptr => ?_ }
      obtain ⟨size, hsize, hle⟩ := (h.owned id buffer hbuffer).block hptr
      exact ⟨size, hkeeps _ size hsize, hle⟩
  · refine ⟨hfresh.1, fun c hc hin => ?_, fun id buffer hbuffer heq => ?_⟩
    · obtain ⟨size, hsize, -⟩ := h.sized c hc address hin
      rw [hfresh.2] at hsize
      cases hsize
    · obtain ⟨size, hsize, -⟩ := (h.owned id buffer hbuffer).block (heq ▸ hfresh.1)
      rw [heq, hfresh.2] at hsize
      cases hsize

/-- Bytes are written to blocks outside of the pool. -/
theorem write (h : PoolInv d lists) {next : Nat → Nat}
    (hsame : ∀ c < poolClassCount, ∀ block ∈ lists c, next block = d.next block) :
    PoolInv { d with next := next } lists :=
  { h with linked := fun c hc => (h.linked c hc).congr (hsame c hc) }

/-- A new buffer gets a loose block, or none where it has no bytes. -/
theorem adopt (h : PoolInv d lists) {id : Nat} {buffer : NVBuffer}
    (hfresh : d.buffers id = none) (howns : OwnsMemory d.heap buffer)
    (hloose : buffer.ptr ≠ 0 → Loose d lists buffer.ptr) :
    PoolInv { d with buffers := Function.update d.buffers id (some buffer) } lists := by
  have hbuffers : ∀ i b, Function.update d.buffers id (some buffer) i = some b →
      (i = id ∧ b = buffer) ∨ d.buffers i = some b := by
    intro i b hb
    by_cases heq : i = id
    · subst heq
      rw [Function.update_self] at hb
      exact .inl ⟨rfl, (Option.some.inj hb).symm⟩
    · rw [Function.update_of_ne heq] at hb
      exact .inr hb
  refine { h with unowned := ?_, owned := ?_, distinct := ?_ }
  · intro c hc block hblock i b hb
    rcases hbuffers i b hb with ⟨-, rfl⟩ | hold
    · rintro rfl
      exact (hloose (h.ne_zero hc hblock)).unpooled c hc hblock
    · exact h.unowned c hc block hblock i b hold
  · intro i b hb
    rcases hbuffers i b hb with ⟨-, rfl⟩ | hold
    · exact howns
    · exact h.owned i b hold
  · intro i i' b b' hb hb' hptr hsame
    rcases hbuffers i b hb with ⟨rfl, rfl⟩ | hold <;>
      rcases hbuffers i' b' hb' with ⟨rfl, rfl⟩ | hold'
    · rfl
    · exact absurd hsame.symm ((hloose hptr).unowned i' b' hold')
    · exact absurd hsame ((hloose (hsame ▸ hptr)).unowned i b hold)
    · exact h.distinct i i' b b' hold hold' hptr hsame

/-- A buffer is gone, and its block is loose. -/
theorem disown (h : PoolInv d lists) {id : Nat} {buffer : NVBuffer}
    (hbuffer : d.buffers id = some buffer) :
    PoolInv { d with buffers := Function.update d.buffers id none } lists ∧
      (buffer.ptr ≠ 0 →
        Loose { d with buffers := Function.update d.buffers id none } lists buffer.ptr) := by
  have hbuffers : ∀ i b, Function.update d.buffers id none i = some b →
      i ≠ id ∧ d.buffers i = some b := by
    intro i b hb
    by_cases heq : i = id
    · subst heq
      rw [Function.update_self] at hb
      cases hb
    · rw [Function.update_of_ne heq] at hb
      exact ⟨heq, hb⟩
  constructor
  · refine { h with unowned := ?_, owned := ?_, distinct := ?_ }
    · exact fun c hc block hblock i b hb => h.unowned c hc block hblock i b (hbuffers i b hb).2
    · exact fun i b hb => h.owned i b (hbuffers i b hb).2
    · exact fun i i' b b' hb hb' => h.distinct i i' b b' (hbuffers i b hb).2 (hbuffers i' b' hb').2
  · intro hptr
    refine ⟨hptr, fun c hc hin => h.unowned c hc _ hin id buffer hbuffer rfl, ?_⟩
    intro i b hb hsame
    obtain ⟨hne, hold⟩ := hbuffers i b hb
    exact hne (h.distinct id i buffer b hbuffer hold hptr hsame.symm).symm

/-- A loose block becomes the first one of a class with room. -/
theorem keepBlock (h : PoolInv d lists) (hmax : d.bufferPoolMaxBytes < 2 ^ 64)
    (hc : c < poolClassCount) (hloose : Loose d lists block)
    (hsized : ∃ size, d.heap block = some size ∧ classSize c ≤ size)
    (hroom : d.hasRoom c (classSize c) = true) :
    PoolInv (d.keepBlock c (classSize c) block)
      (Function.update lists c (block :: lists c)) := by
  simp only [NVDriver.hasRoom, Bool.and_eq_true, decide_eq_true_eq] at hroom
  obtain ⟨⟨hcount, hfits⟩, hspare⟩ := hroom
  have hsum := sum_update lists hc (block :: lists c)
  rw [List.length_cons, Nat.add_one_mul] at hsum
  have hbytes := h.bytes
  rw [h.count c hc] at hcount
  have hmem : ∀ c', ∀ b ∈ Function.update lists c (block :: lists c) c',
      (c' = c ∧ b = block) ∨ b ∈ lists c' := by
    intro c' b hb
    by_cases heq : c' = c
    · subst heq
      rw [Function.update_self] at hb
      exact (List.mem_cons.mp hb).imp (fun h => ⟨rfl, h⟩) id
    · rw [Function.update_of_ne heq] at hb
      exact .inr hb
  constructor
  · intro c' hc'
    show LinkedPath (Function.update d.next block _) 0 (Function.update d.bufferPool c block c') _
    have hold : LinkedPath (Function.update d.next block (d.bufferPool c)) 0 (d.bufferPool c')
        (lists c') := by
      refine (h.linked c' hc').congr fun b hb => ?_
      rw [Function.update_of_ne]
      rintro rfl
      exact hloose.unpooled c' hc' hb
    by_cases heq : c' = c
    · subst heq
      rw [Function.update_self, Function.update_self]
      refine .cons hloose.notNull ?_
      rw [Function.update_self]
      exact hold
    · rw [Function.update_of_ne heq, Function.update_of_ne heq]
      exact hold
  · intro c' hc'
    show Function.update d.bufferPoolCounts c _ c' = _
    by_cases heq : c' = c
    · subst heq
      rw [Function.update_self, Function.update_self, h.count c' hc', List.length_cons]
      omega
    · rw [Function.update_of_ne heq, Function.update_of_ne heq]
      exact h.count c' hc'
  · intro c' hc'
    by_cases heq : c' = c
    · subst heq
      rw [Function.update_self, List.length_cons]
      omega
    · rw [Function.update_of_ne heq]
      exact h.few c' hc'
  · show (d.bufferPoolBytes + classSize c) % 2 ^ 64 = _
    omega
  · show (d.bufferPoolBytes + classSize c) % 2 ^ 64 ≤ d.bufferPoolMaxBytes
    omega
  · intro c' hc'
    by_cases heq : c' = c
    · subst heq
      rw [Function.update_self]
      exact List.nodup_cons.mpr ⟨hloose.unpooled c' hc', h.nodup c' hc'⟩
    · rw [Function.update_of_ne heq]
      exact h.nodup c' hc'
  · intro c1 hc1 c2 hc2 b hb hb'
    rcases hmem c1 b hb with ⟨hc1', hb1⟩ | hold <;>
      rcases hmem c2 b hb' with ⟨hc2', hb2⟩ | hold'
    · exact hc1'.trans hc2'.symm
    · exact absurd (hb1 ▸ hold') (hloose.unpooled c2 hc2)
    · exact absurd (hb2 ▸ hold) (hloose.unpooled c1 hc1)
    · exact h.apart c1 hc1 c2 hc2 b hold hold'
  · intro c' hc' b hb
    rcases hmem c' b hb with ⟨rfl, rfl⟩ | hold
    · exact hsized
    · exact h.sized c' hc' b hold
  · intro c' hc' b hb
    rcases hmem c' b hb with ⟨rfl, rfl⟩ | hold
    · exact hloose.unowned
    · exact h.unowned c' hc' b hold
  · exact h.owned
  · exact h.distinct

/-- A loose block goes back to the C library. -/
theorem free (h : PoolInv d lists) (hloose : Loose d lists block) :
    PoolInv (d.free block) lists := by
  have hkeeps : ∀ b size, b ≠ block → d.heap b = some size →
      Function.update d.heap block none b = some size := by
    intro b size hne hb
    rw [Function.update_of_ne hne]
    exact hb
  refine { h with sized := ?_, owned := ?_ }
  · intro c hc b hb
    obtain ⟨size, hsize, hle⟩ := h.sized c hc b hb
    exact ⟨size, hkeeps b size (fun heq => hloose.unpooled c hc (heq ▸ hb)) hsize, hle⟩
  · intro id buffer hbuffer
    refine { h.owned id buffer hbuffer with block := fun hptr => ?_ }
    obtain ⟨size, hsize, hle⟩ := (h.owned id buffer hbuffer).block hptr
    exact ⟨size, hkeeps _ size (hloose.unowned id buffer hbuffer) hsize, hle⟩

end PoolInv

/-! ## Calls -/

section Calls

variable {d : NVDriver} {lists : Nat → List Nat}

/-- What a buffer is given: a loose block with room, or none where it has no bytes. -/
theorem PoolInv.allocate (h : PoolInv d lists) (hmax : d.bufferPoolMaxBytes < 2 ^ 64)
    {memory : Option Nat} (hmemory : FreshMemory d memory) (buffer : NVBuffer) {size : Nat}
    (hsize : buffer.size = size) {buffer' : NVBuffer} {d' : NVDriver}
    (hallocate : allocateBufferMemory memory d buffer size = (true, buffer', d')) :
    ∃ lists', PoolInv d' lists' ∧ OwnsMemory d'.heap buffer' ∧
      (buffer'.ptr ≠ 0 → Loose d' lists' buffer'.ptr) ∧ d'.buffers = d.buffers ∧
      d'.bufferPoolMaxBytes = d.bufferPoolMaxBytes := by
  unfold allocateBufferMemory at hallocate
  simp only at hallocate
  split at hallocate
  · rename_i hzero
    cases hallocate
    refine ⟨lists, h, ⟨?_, ?_, fun _ => rfl, ?_⟩, fun hptr => absurd rfl hptr, rfl, rfl⟩
    · exact Nat.le_of_eq (hsize.trans hzero)
    · exact fun hptr => absurd rfl hptr
    · nofun
  · -- The class and the room of the block do not depend on where it comes from.
    have hclass : ∀ c, bufferPoolClassForSize size = some c →
        c < poolClassCount ∧ size ≤ classSize c :=
      fun c hc => bufferPoolClassForSize_spec hc
    generalize bufferPoolClassForSize size = poolClass at hallocate hclass
    have hroom : buffer.size ≤ (poolClass.map classSize).getD size := by
      rw [hsize]
      cases poolClass with
      | none => exact Nat.le_refl _
      | some c => exact (hclass c rfl).2
    have hclassed : ∀ c ∈ poolClass,
        c < poolClassCount ∧ (poolClass.map classSize).getD size = classSize c := by
      rintro c rfl
      exact ⟨(hclass c rfl).1, rfl⟩
    split at hallocate
    · rename_i hblock
      cases poolClass with
      | none => exact absurd rfl hblock
      | some c =>
          have hc := (hclass c rfl).1
          have hhead : d.bufferPool c ≠ 0 := hblock
          obtain ⟨block, rest, hlist⟩ : ∃ block rest, lists c = block :: rest := by
            cases hlist : lists c with
            | nil => exact absurd ((h.linked c hc).head_eq_stop_iff.mpr hlist) hhead
            | cons block rest => exact ⟨block, rest, rfl⟩
          have hfirst : d.bufferPool c = block :=
            (hlist ▸ h.linked c hc : LinkedPath d.next 0 _ (block :: rest)).head_cons
          obtain ⟨hinv, hloose⟩ := h.takeBlock hmax hc hlist
          cases hallocate
          refine ⟨_, hinv, ⟨hroom, fun _ => ?_, fun hptr => absurd hptr hhead, hclassed⟩,
            fun _ => ?_, rfl, rfl⟩
          · exact h.sized c hc (d.bufferPool c) (by rw [hfirst, hlist]; exact List.mem_cons_self)
          · show Loose _ _ (d.bufferPool c)
            rw [hfirst]
            exact hloose
    · split at hallocate
      · cases hallocate
      · rename_i address
        obtain ⟨hinv, hloose⟩ := h.giveBlock ((poolClass.map classSize).getD size)
          (hmemory address rfl)
        cases hallocate
        refine ⟨lists, hinv, ⟨hroom, fun _ => ⟨_, Function.update_self .., Nat.le_refl _⟩,
          fun hptr => absurd hptr hloose.notNull, hclassed⟩, fun _ => hloose, rfl, rfl⟩

/-- The block of a buffer that is gone is kept or freed. -/
theorem PoolInv.release (h : PoolInv d lists) (hmax : d.bufferPoolMaxBytes < 2 ^ 64) {id : Nat}
    {buffer : NVBuffer} (hbuffer : d.buffers id = some buffer) :
    ∃ lists', PoolInv { releaseBufferMemory d buffer with
      buffers := Function.update (releaseBufferMemory d buffer).buffers id none } lists' := by
  obtain ⟨hinv, hloose⟩ := h.disown hbuffer
  have howns := h.owned id buffer hbuffer
  unfold releaseBufferMemory
  by_cases hptr : buffer.ptr = 0
  · rw [if_pos hptr]
    exact ⟨lists, hinv⟩
  · rw [if_neg hptr]
    cases hclass : buffer.poolClass with
    | none => exact ⟨lists, hinv.free (hloose hptr)⟩
    | some c =>
        simp only
        split
        · rename_i hroom
          obtain ⟨hc, hcapacity⟩ := howns.classed c hclass
          rw [hcapacity] at hroom ⊢
          obtain ⟨size, hsize, hle⟩ := howns.block hptr
          exact ⟨_, hinv.keepBlock hmax hc (hloose hptr) ⟨size, hsize, hcapacity ▸ hle⟩
            hroom.2⟩
        · exact ⟨lists, hinv.free (hloose hptr)⟩

/-- The first bytes of a block that is with a buffer, or with nobody, do not link any
list. -/
theorem PoolInv.fill (h : PoolInv d lists) {buffer : NVBuffer} (word : Nat)
    (hunpooled : buffer.size ≠ 0 → ∀ c < poolClassCount, buffer.ptr ∉ lists c) :
    PoolInv (d.fill buffer word) lists := by
  unfold NVDriver.fill
  by_cases hsize : buffer.size = 0
  · rw [if_pos hsize]
    exact h
  · rw [if_neg hsize]
    refine h.write fun c hc block hblock => ?_
    rw [Function.update_of_ne]
    rintro rfl
    exact hunpooled hsize c hc hblock

/-- A buffer with bytes has a block. -/
theorem OwnsMemory.ptr_ne_zero {heap : Nat → Option Nat} {buffer : NVBuffer}
    (h : OwnsMemory heap buffer) (hsize : buffer.size ≠ 0) : buffer.ptr ≠ 0 := by
  intro hptr
  have hroom := h.room
  rw [h.null hptr] at hroom
  omega

/-- What the writes to a buffer leave alone. -/
theorem fill_others (d : NVDriver) (buffer : NVBuffer) (word : Nat) :
    (d.fill buffer word).buffers = d.buffers ∧ (d.fill buffer word).heap = d.heap ∧
      (d.fill buffer word).bufferPoolMaxBytes = d.bufferPoolMaxBytes := by
  unfold NVDriver.fill
  split
  · exact ⟨rfl, rfl, rfl⟩
  · exact ⟨rfl, rfl, rfl⟩

/-- A new buffer keeps the pool in order. -/
theorem PoolInv.addBuffer (h : PoolInv d lists) (hmax : d.bufferPoolMaxBytes < 2 ^ 64)
    {memory : Option Nat} (hmemory : FreshMemory d memory) {id : Nat}
    (hfresh : d.buffers id = none) {word size : Nat} {imageOwned : Bool} {d' : NVDriver}
    (hadd : BufferPool.addBuffer memory word id size imageOwned d = some d') :
    (∃ lists', PoolInv d' lists') ∧ d'.bufferPoolMaxBytes = d.bufferPoolMaxBytes := by
  unfold BufferPool.addBuffer at hadd
  rcases hallocate : allocateBufferMemory memory d { imageOwned := imageOwned, size := size } size
    with ⟨ok, buffer, d1⟩
  rw [hallocate] at hadd
  cases ok with
  | false => cases hadd
  | true =>
      obtain ⟨lists', hinv, howns, hloose, hbuffers, hsame⟩ :=
        h.allocate hmax hmemory _ rfl hallocate
      obtain ⟨hbuffers', hheap', hsame'⟩ := fill_others d1 buffer word
      have hfilled : PoolInv (d1.fill buffer word) lists' :=
        hinv.fill word fun hsize => (hloose (howns.ptr_ne_zero hsize)).unpooled
      cases hadd
      refine ⟨⟨lists', hfilled.adopt ?_ ?_ fun hptr => ?_⟩, hsame'.trans hsame⟩
      · rw [hbuffers', hbuffers]
        exact hfresh
      · rw [hheap']
        exact howns
      · obtain ⟨hnull, hunpooled, hunowned⟩ := hloose hptr
        exact ⟨hnull, hunpooled, by rw [hbuffers']; exact hunowned⟩

/-- What the release of a block leaves alone. -/
theorem releaseBufferMemory_others (d : NVDriver) (buffer : NVBuffer) :
    (releaseBufferMemory d buffer).bufferPoolMaxBytes = d.bufferPoolMaxBytes := by
  unfold releaseBufferMemory
  split
  · rfl
  · split
    · split
      · rfl
      · rfl
    · rfl

/-- Every call keeps the pool in order. -/
theorem PoolInv.after (h : PoolInv d lists) (hmax : d.bufferPoolMaxBytes < 2 ^ 64) {call : Call}
    (hanswered : Answered d call) :
    (∃ lists', PoolInv (d.after call) lists') ∧
      (d.after call).bufferPoolMaxBytes = d.bufferPoolMaxBytes := by
  have hstays : (∃ lists', PoolInv d lists') ∧ d.bufferPoolMaxBytes = d.bufferPoolMaxBytes :=
    ⟨⟨lists, h⟩, rfl⟩
  cases call with
  | createBuffer accepted size numElements id memory word =>
      obtain ⟨hid, hmemory⟩ := hanswered
      show (∃ lists', PoolInv (nvCreateBuffer accepted size numElements id memory word d) lists') ∧
        (nvCreateBuffer accepted size numElements id memory word d).bufferPoolMaxBytes = _
      unfold nvCreateBuffer
      split
      · exact hstays
      · split
        · rename_i bufferSize i _
          cases hadd : BufferPool.addBuffer memory word i bufferSize false d with
          | none => exact hstays
          | some d' => exact h.addBuffer hmax hmemory (hid i rfl) hadd
        · exact hstays
  | destroyBuffer id =>
      show (∃ lists', PoolInv (nvDestroyBuffer id d) lists') ∧
        (nvDestroyBuffer id d).bufferPoolMaxBytes = _
      unfold nvDestroyBuffer
      split
      · exact hstays
      · rename_i buffer hbuffer
        split
        · exact hstays
        · exact ⟨h.release hmax hbuffer, releaseBufferMemory_others d buffer⟩
  | createImage fourcc width height imageId bufferId memory word =>
      obtain ⟨hid, hmemory⟩ := hanswered
      show (∃ lists', PoolInv
          (nvCreateImage fourcc width height imageId bufferId memory word d) lists') ∧
        (nvCreateImage fourcc width height imageId bufferId memory word d).bufferPoolMaxBytes = _
      unfold nvCreateImage
      split
      · split
        · rename_i d' hadd
          obtain ⟨⟨lists', hinv⟩, hsame⟩ := h.addBuffer hmax hmemory (hid _ rfl) hadd
          exact ⟨⟨lists', { hinv with }⟩, hsame⟩
        · exact hstays
      · exact hstays
  | destroyImage id =>
      show (∃ lists', PoolInv (nvDestroyImage id d) lists') ∧
        (nvDestroyImage id d).bufferPoolMaxBytes = _
      unfold nvDestroyImage
      split
      · exact hstays
      · rename_i bufferId _
        simp only
        cases hbuffer : d.buffers bufferId with
        | none => exact ⟨⟨lists, { h with }⟩, rfl⟩
        | some buffer =>
            obtain ⟨lists', hinv⟩ := h.release hmax hbuffer
            exact ⟨⟨lists', { hinv with }⟩, releaseBufferMemory_others d buffer⟩
  | writeBuffer id word =>
      show (∃ lists', PoolInv (BufferPool.writeBuffer id word d) lists') ∧
        (BufferPool.writeBuffer id word d).bufferPoolMaxBytes = _
      unfold BufferPool.writeBuffer
      split
      · exact hstays
      · rename_i buffer hbuffer
        refine ⟨⟨lists, h.fill word fun _ c hc hin => ?_⟩, (fill_others d buffer word).2.2⟩
        exact h.unowned c hc _ hin id buffer hbuffer rfl

/-- The pool is in order in every state that is reached. -/
theorem reachable_poolInv {maxBytes : Nat} (hmax : maxBytes < 2 ^ 64)
    (hd : (poolSystem maxBytes).ReachableUnder Answered d) :
    (∃ lists, PoolInv d lists) ∧ d.bufferPoolMaxBytes = maxBytes := by
  refine LabelledSystem.invariant (P := fun d => (∃ lists, PoolInv d lists) ∧
    d.bufferPoolMaxBytes = maxBytes) ?_ ?_ hd
  · exact ⟨⟨_, PoolInv.init maxBytes⟩, rfl⟩
  · rintro d call d' ⟨⟨lists, h⟩, rfl⟩ hanswered hstep
    cases hstep
    exact h.after hmax hanswered

end Calls

/-! ## Main results -/

/-- Whatever buffers and images of buffers are made and destroyed, with whatever answers of
the C library: the list of every class is as long as its count and has at most 16 blocks, the
bytes of the pool are those of its blocks and within the maximum, no block is in the pool twice
or with a live buffer too, and the block of every live buffer is its own and has the bytes that
were asked for. -/
theorem pool_accounted (maxBytes : Nat) (hmax : maxBytes < 2 ^ 64) (d : NVDriver)
    (hd : (poolSystem maxBytes).ReachableUnder Answered d) :
    ∃ lists : Nat → List Nat,
      (∀ c < poolClassCount, LinkedPath d.next 0 (d.bufferPool c) (lists c) ∧
        d.bufferPoolCounts c = (lists c).length ∧ (lists c).length ≤ 16) ∧
      d.bufferPoolBytes = ∑ c ∈ range poolClassCount, d.bufferPoolCounts c * classSize c ∧
      d.bufferPoolBytes ≤ maxBytes ∧
      (∀ c < poolClassCount, (lists c).Nodup ∧ ∀ block ∈ lists c,
        (∀ c' < poolClassCount, block ∈ lists c' → c' = c) ∧
        ∀ id buffer, d.buffers id = some buffer → buffer.ptr ≠ block) ∧
      ∀ id buffer, d.buffers id = some buffer → buffer.size ≠ 0 →
        (∃ size, d.heap buffer.ptr = some size ∧ buffer.size ≤ buffer.capacity ∧
          buffer.capacity ≤ size) ∧
        ∀ id' buffer', d.buffers id' = some buffer' → buffer'.ptr = buffer.ptr → id' = id := by
  obtain ⟨⟨lists, h⟩, hsame⟩ := reachable_poolInv hmax hd
  refine ⟨lists, fun c hc => ⟨h.linked c hc, h.count c hc, h.few c hc⟩, ?_, ?_, ?_, ?_⟩
  · rw [h.bytes]
    refine Finset.sum_congr rfl fun c hc => ?_
    rw [h.count c (Finset.mem_range.mp hc)]
  · exact hsame ▸ h.max
  · exact fun c hc => ⟨h.nodup c hc, fun block hblock =>
      ⟨fun c' hc' hin => h.apart c' hc' c hc block hin hblock, h.unowned c hc block hblock⟩⟩
  · intro id buffer hbuffer hbytes
    have howns := h.owned id buffer hbuffer
    have hptr := howns.ptr_ne_zero hbytes
    constructor
    · obtain ⟨size, hsize, hle⟩ := howns.block hptr
      exact ⟨size, hsize, howns.room, hle⟩
    · intro id' buffer' hbuffer' hptr'
      exact (h.distinct id id' buffer buffer' hbuffer hbuffer' hptr hptr'.symm).symm

/-- A buffer of 5000 bytes that is destroyed, and one of 6000 bytes that gets its block. -/
def reuseRun : List Call :=
  [.createBuffer true 1 5000 (some 1) (some 64) 7, .destroyBuffer 1,
    .createBuffer true 6000 1 (some 2) none 9]

theorem reuseRun_reached :
    (poolSystem (10 ^ 6)).ReachableUnder Answered ((poolSystem (10 ^ 6)).after reuseRun) := by
  refine .tail (.createBuffer true 6000 1 (some 2) none 9) (.tail (.destroyBuffer 1)
    (.tail (.createBuffer true 1 5000 (some 1) (some 64) 7) (.refl _) ⟨?_, ?_⟩ rfl)
    trivial rfl) ⟨?_, ?_⟩ rfl
  · rintro i ⟨⟩
    rfl
  · rintro address ⟨⟩
    exact ⟨by decide, rfl⟩
  · rintro i ⟨⟩
    rfl
  · nofun

theorem pool_accounted_reuse :
    ∃ lists : Nat → List Nat,
      (∀ c < poolClassCount,
        ((poolSystem (10 ^ 6)).after reuseRun).bufferPoolCounts c = (lists c).length) ∧
      ∃ size, ((poolSystem (10 ^ 6)).after reuseRun).heap 64 = some size ∧ 6000 ≤ size := by
  obtain ⟨lists, hlists, -, -, -, hbuffers⟩ :=
    pool_accounted (10 ^ 6) (by decide) _ reuseRun_reached
  obtain ⟨⟨size, hsize, hroom, hle⟩, -⟩ :=
    hbuffers 2 { size := 6000, ptr := 64, capacity := 8192, poolClass := some 1 } rfl (by decide)
  exact ⟨lists, fun c hc => (hlists c hc).2.1, size, hsize, Nat.le_trans hroom hle⟩

end BufferPool
end NvidiaVaapi
