import Mathlib.Data.List.Perm.Basic
import Mathlib.Tactic.Ring
import NvidiaVaapi.Lib.LinkedQueue
import NvidiaVaapi.ObjectTable.Table

/-!
# The free list of the object table

Which slots are empty, in which order they will be used, and what identifiers the
occupied ones carry, kept by every call.
-/

namespace NvidiaVaapi
namespace ObjectTable

namespace NVDObjectTable

/-! ## Slots after a write -/

@[simp] theorem setSlot_size (table : NVDObjectTable) (index : Nat) (slot : NVDObjectSlot) :
    (table.setSlot index slot).slots.size = table.slots.size :=
  Array.size_setIfInBounds

/-- Writing a slot changes that slot. -/
theorem slot_setSlot (table : NVDObjectTable) {index : Nat} (slot : NVDObjectSlot)
    (hindex : index < table.slots.size) (other : Nat) :
    (table.setSlot index slot).slot other = if other = index then slot else table.slot other := by
  unfold NVDObjectTable.slot setSlot
  simp only [Array.getD_eq_getD_getElem?, Array.getElem?_setIfInBounds]
  by_cases hsame : index = other
  · subst hsame
    simp [hindex]
  · rw [if_neg hsame, if_neg fun h => hsame h.symm]

/-- A slot past the end of the array is empty. -/
theorem slot_of_size_le (table : NVDObjectTable) {index : Nat}
    (hindex : table.slots.size ≤ index) : table.slot index = {} := by
  unfold NVDObjectTable.slot
  simp [Array.getD_eq_getD_getElem?, hindex]

/-! ## The end of the free list -/

theorem appendFree_of_empty {table : NVDObjectTable} (htail : table.freeTail = slotNone)
    (index : Nat) : table.appendFree index =
      { table.setNextFree index slotNone with freeHead := index, freeTail := index } := by
  unfold appendFree
  simp only
  rw [if_neg (by exact not_not.mpr htail)]

theorem appendFree_of_nonempty {table : NVDObjectTable} (htail : table.freeTail ≠ slotNone)
    (index : Nat) : table.appendFree index =
      { (table.setNextFree index slotNone).setNextFree table.freeTail index with
        freeTail := index } := by
  unfold appendFree
  simp only
  rw [if_pos (by exact htail)]
  rfl

theorem appendFree_size (table : NVDObjectTable) (index : Nat) :
    (table.appendFree index).slots.size = table.slots.size := by
  by_cases htail : table.freeTail = slotNone
  · rw [appendFree_of_empty htail]
    exact setSlot_size _ _ _
  · rw [appendFree_of_nonempty htail]
    exact (setSlot_size _ _ _).trans (setSlot_size _ _ _)

/-- Nothing but the links and the ends of the free list changes. -/
theorem appendFree_counts (table : NVDObjectTable) (index : Nat) :
    (table.appendFree index).capacity = table.capacity ∧
      (table.appendFree index).liveCount = table.liveCount := by
  by_cases htail : table.freeTail = slotNone
  · rw [appendFree_of_empty htail]
    exact ⟨rfl, rfl⟩
  · rw [appendFree_of_nonempty htail]
    exact ⟨rfl, rfl⟩

theorem appendFree_ends (table : NVDObjectTable) (index : Nat) :
    (table.appendFree index).freeHead =
        (if table.freeTail = slotNone then index else table.freeHead) ∧
      (table.appendFree index).freeTail = index := by
  by_cases htail : table.freeTail = slotNone
  · rw [appendFree_of_empty htail, if_pos htail]
    exact ⟨rfl, rfl⟩
  · rw [appendFree_of_nonempty htail, if_neg htail]
    exact ⟨rfl, rfl⟩

theorem setNextFree_size (table : NVDObjectTable) (index next : Nat) :
    (table.setNextFree index next).slots.size = table.slots.size :=
  setSlot_size _ _ _

/-- Writing a link leaves objects and generations alone. -/
theorem setNextFree_slot (table : NVDObjectTable) (index next other : Nat) :
    ((table.setNextFree index next).slot other).object = (table.slot other).object ∧
      ((table.setNextFree index next).slot other).generation =
        (table.slot other).generation := by
  by_cases hindex : index < table.slots.size
  · unfold setNextFree
    rw [slot_setSlot _ _ hindex]
    split
    · rename_i hsame
      rw [hsame]
      exact ⟨rfl, rfl⟩
    · exact ⟨rfl, rfl⟩
  · have hsame : table.setNextFree index next = table := by
      unfold setNextFree setSlot
      rw [Array.setIfInBounds_eq_of_size_le (Nat.le_of_not_lt hindex)]
    rw [hsame]
    exact ⟨rfl, rfl⟩

theorem setNextFree_nextFree (table : NVDObjectTable) {index : Nat} (next other : Nat)
    (hindex : index < table.slots.size) :
    ((table.setNextFree index next).slot other).nextFree =
      if other = index then next else (table.slot other).nextFree := by
  unfold setNextFree
  rw [slot_setSlot _ _ hindex]
  split <;> rfl

theorem appendFree_slot (table : NVDObjectTable) (index other : Nat) :
    ((table.appendFree index).slot other).object = (table.slot other).object ∧
      ((table.appendFree index).slot other).generation = (table.slot other).generation := by
  have hfirst := table.setNextFree_slot index slotNone other
  by_cases htail : table.freeTail = slotNone
  · rw [appendFree_of_empty htail]
    exact hfirst
  · rw [appendFree_of_nonempty htail]
    have hsecond := (table.setNextFree index slotNone).setNextFree_slot table.freeTail index other
    exact ⟨hsecond.1.trans hfirst.1, hsecond.2.trans hfirst.2⟩

/-- A slot that is in use joins the end of the queue. -/
theorem appendFree_queue {table : NVDObjectTable} {free : List Nat} {index : Nat}
    (hqueue : LinkedQueue (fun i => (table.slot i).nextFree) slotNone table.freeHead
      table.freeTail free)
    (hfree : ∀ i ∈ free, i < table.slots.size) (hindex : index < table.slots.size)
    (hbound : table.slots.size ≤ maxCapacity) (hfresh : index ∉ free) :
    LinkedQueue (fun i => ((table.appendFree index).slot i).nextFree) slotNone
      (table.appendFree index).freeHead (table.appendFree index).freeTail (free ++ [index]) := by
  rw [(table.appendFree_ends index).1, (table.appendFree_ends index).2]
  have hne : index ≠ slotNone := by
    have : maxCapacity < slotNone := by decide
    omega
  by_cases htail : table.freeTail = slotNone
  · have hlinks : ∀ i, ((table.appendFree index).slot i).nextFree =
        if i = index then slotNone else (table.slot i).nextFree := by
      intro i
      rw [appendFree_of_empty htail]
      exact setNextFree_nextFree table slotNone i hindex
    refine hqueue.push hne hfresh ?_ (fun hstop => absurd htail hstop) fun j hj _ => ?_
    · exact (hlinks index).trans (if_pos rfl)
    · have hother : j ≠ index := fun hsame => hfresh (hsame ▸ hj)
      exact (hlinks j).trans (if_neg hother)
  · have hmem : table.freeTail ∈ free :=
      hqueue.tail_mem fun hnil => htail (hqueue.tail_eq_stop_iff.mpr hnil)
    have hlinks : ∀ i, ((table.appendFree index).slot i).nextFree =
        if i = table.freeTail then index
        else if i = index then slotNone else (table.slot i).nextFree := by
      intro i
      rw [appendFree_of_nonempty htail]
      refine (setNextFree_nextFree (table.setNextFree index slotNone) index i ?_).trans ?_
      · rw [setNextFree_size]
        exact hfree _ hmem
      · rw [setNextFree_nextFree table slotNone i hindex]
    have hapart : index ≠ table.freeTail := fun hsame => hfresh (hsame ▸ hmem)
    refine hqueue.push hne hfresh ?_ (fun _ => ?_) fun j hj hother => ?_
    · exact (hlinks index).trans ((if_neg hapart).trans (if_pos rfl))
    · exact (hlinks table.freeTail).trans (if_pos rfl)
    · have hnew : j ≠ index := fun hsame => hfresh (hsame ▸ hj)
      exact (hlinks j).trans ((if_neg hother).trans (if_neg hnew))

end NVDObjectTable

/-! ## Identifiers -/

theorem makeId_toNat (generation : BitVec 16) {index : Nat} (hindex : index < maxCapacity) :
    (makeId generation index).toNat = generation.toNat * maxCapacity + index := by
  have hgeneration := generation.isLt
  have hmax : maxCapacity = 2 ^ 15 := rfl
  rw [hmax] at hindex ⊢
  unfold makeId indexBits
  rw [BitVec.toNat_or, BitVec.toNat_shiftLeft, BitVec.toNat_setWidth, BitVec.toNat_ofNat,
    Nat.mod_eq_of_lt (by omega : index < 2 ^ 32),
    Nat.mod_eq_of_lt (by omega : generation.toNat < 2 ^ 32),
    Nat.shiftLeft_eq, Nat.mod_eq_of_lt (by omega), Nat.mul_comm,
    ← Nat.two_pow_add_eq_or_of_lt hindex]

theorem decodeId_eq (id : BitVec 32) : decodeId id =
    if BitVec.ofNat 16 (id.toNat / maxCapacity) ≠ 0 then
      some (BitVec.ofNat 16 (id.toNat / maxCapacity), id.toNat % maxCapacity)
    else none := by
  have hgeneration : ((id >>> indexBits) &&& 0xffff#32).setWidth 16 =
      BitVec.ofNat 16 (id.toNat / maxCapacity) := by
    apply BitVec.eq_of_toNat_eq
    have hmask : (0xffff#32).toNat = 2 ^ 16 - 1 := rfl
    rw [BitVec.toNat_setWidth, BitVec.toNat_and, BitVec.toNat_ushiftRight, hmask,
      Nat.and_two_pow_sub_one_eq_mod, Nat.shiftRight_eq_div_pow, BitVec.toNat_ofNat]
    exact Nat.mod_mod _ _
  have hindex : (id &&& (BitVec.ofNat 32 (2 ^ indexBits - 1))).toNat =
      id.toNat % maxCapacity := by
    have hmask : (BitVec.ofNat 32 (2 ^ indexBits - 1)).toNat = 2 ^ 15 - 1 := rfl
    rw [BitVec.toNat_and, hmask, Nat.and_two_pow_sub_one_eq_mod]
    rfl
  unfold decodeId
  simp only
  rw [hgeneration, hindex]

/-- An identifier decodes to the slot and the generation that it was made of. -/
theorem decodeId_makeId {generation : BitVec 16} {index : Nat} (hgeneration : generation ≠ 0)
    (hindex : index < maxCapacity) :
    decodeId (makeId generation index) = some (generation, index) := by
  have hmax : 0 < maxCapacity := by decide
  have hhigh : BitVec.ofNat 16 ((makeId generation index).toNat / maxCapacity) = generation := by
    rw [makeId_toNat generation hindex, Nat.mul_comm, Nat.mul_add_div hmax,
      Nat.div_eq_of_lt hindex, Nat.add_zero, BitVec.ofNat_toNat, BitVec.setWidth_eq]
  have hlow : (makeId generation index).toNat % maxCapacity = index := by
    rw [makeId_toNat generation hindex, Nat.mul_comm, Nat.mul_add_mod, Nat.mod_eq_of_lt hindex]
  rw [decodeId_eq, hhigh, hlow, if_pos hgeneration]

/-! ## Growth -/

theorem nextCapacity_spec {capacity : Nat} (hroom : capacity < maxCapacity) :
    capacity < nextCapacity capacity ∧ nextCapacity capacity ≤ maxCapacity := by
  unfold nextCapacity maxCapacity indexBits initialCapacity at *
  simp only
  split <;> split <;> omega

/-- The slots of the larger array: the old ones, the new ones, and none. -/
theorem slot_append (table : NVDObjectTable) (newCapacity index : Nat)
    (hsize : table.slots.size = table.capacity) :
    (table.slots ++ (freshSlots table.capacity newCapacity).toArray).getD index {} =
      if index < table.capacity then table.slot index
      else if index < newCapacity then
        { generation := 1, nextFree := if index + 1 < newCapacity then index + 1 else slotNone }
      else {} := by
  unfold NVDObjectTable.slot
  rw [Array.getD_eq_getD_getElem?, Array.getElem?_append, hsize]
  split
  · rw [Array.getD_eq_getD_getElem?]
  · rename_i hold
    unfold freshSlots
    rw [List.getElem?_toArray, List.getElem?_map]
    split
    · rename_i hnew
      have hplace : table.capacity + 1 * (index - table.capacity) = index := by omega
      rw [List.getElem?_range' (by omega), hplace]
      rfl
    · rename_i hpast
      rw [List.getElem?_eq_none (by rw [List.length_range']; omega)]
      rfl

/-- What growth does to the slots: the objects and the generations of the old ones stay. -/
theorem extend_slot (table : NVDObjectTable) (newCapacity index : Nat)
    (hsize : table.slots.size = table.capacity) :
    ((table.extend newCapacity).slot index).object = (table.slot index).object ∧
      ((table.extend newCapacity).slot index).generation =
        (if table.capacity ≤ index ∧ index < newCapacity then 1
          else (table.slot index).generation) := by
  have happend := slot_append table newCapacity index hsize
  have hgrown : ((table.slots ++ (freshSlots table.capacity newCapacity).toArray).getD index
        {}).object = (table.slot index).object ∧
      ((table.slots ++ (freshSlots table.capacity newCapacity).toArray).getD index {}).generation =
        (if table.capacity ≤ index ∧ index < newCapacity then 1
          else (table.slot index).generation) := by
    rw [happend]
    split
    · rename_i hold
      rw [if_neg (by omega)]
      exact ⟨rfl, rfl⟩
    · rename_i hold
      rw [table.slot_of_size_le (by omega)]
      split
      · rename_i hnew
        exact ⟨rfl, (if_pos ⟨by omega, hnew⟩).symm⟩
      · rename_i hpast
        rw [if_neg (by omega)]
        exact ⟨rfl, rfl⟩
  unfold NVDObjectTable.extend
  simp only
  split
  · have hlink := ({ table with
      slots := table.slots ++ (freshSlots table.capacity newCapacity).toArray } :
        NVDObjectTable).setNextFree_slot table.freeTail table.capacity index
    exact ⟨hlink.1.trans hgrown.1, hlink.2.trans hgrown.2⟩
  · exact hgrown

/-- The new slots form a path of their own. -/
theorem freshSlots_path {next : Nat → Nat} (newCapacity : Nat) (hstop : newCapacity ≤ slotNone)
    (count : Nat) : ∀ {first : Nat}, first + count + 1 = newCapacity →
      (∀ i, first ≤ i → i < newCapacity →
        next i = if i + 1 < newCapacity then i + 1 else slotNone) →
      LinkedPath next slotNone first (List.range' first (count + 1)) := by
  induction count with
  | zero =>
      intro first hlast hlinks
      refine .cons (by omega) ?_
      rw [hlinks first (Nat.le_refl _) (by omega), if_neg (by omega)]
      exact .nil
  | succ count ih =>
      intro first hlast hlinks
      refine .cons (by omega) ?_
      rw [hlinks first (Nat.le_refl _) (by omega), if_pos (by omega)]
      exact ih (by omega) fun i hi => hlinks i (by omega)

/-- The new slots wait behind the ones that were empty already. -/
theorem extend_queue {table : NVDObjectTable} {newCapacity : Nat} {free : List Nat}
    (hsize : table.slots.size = table.capacity) (hroom : table.capacity < newCapacity)
    (hbound : newCapacity ≤ maxCapacity)
    (hqueue : LinkedQueue (fun i => (table.slot i).nextFree) slotNone table.freeHead
      table.freeTail free)
    (hfree : ∀ i ∈ free, i < table.capacity) :
    LinkedQueue (fun i => ((table.extend newCapacity).slot i).nextFree) slotNone
      (table.extend newCapacity).freeHead (table.extend newCapacity).freeTail
      (free ++ List.range' table.capacity (newCapacity - table.capacity)) := by
  have hstop : maxCapacity ≤ slotNone := by decide
  have happend := slot_append table newCapacity
  -- The links after growth: the last empty slot leads to the new ones.
  have hlinks : ∀ i, ((table.extend newCapacity).slot i).nextFree =
      if i = table.freeTail ∧ table.freeTail ≠ slotNone then table.capacity
      else if i < table.capacity then (table.slot i).nextFree
      else if i < newCapacity then if i + 1 < newCapacity then i + 1 else slotNone
      else 0 := by
    intro i
    have hgrown : ((table.slots ++ (freshSlots table.capacity newCapacity).toArray).getD i
        {}).nextFree =
          if i < table.capacity then (table.slot i).nextFree
          else if i < newCapacity then if i + 1 < newCapacity then i + 1 else slotNone
          else 0 := by
      rw [happend i hsize]
      split
      · rfl
      · split <;> rfl
    unfold NVDObjectTable.extend
    simp only
    by_cases htail : table.freeTail = slotNone
    · rw [if_neg (not_not.mpr htail), if_neg fun h => h.2 htail]
      exact hgrown
    · have hmem : table.freeTail ∈ free :=
        hqueue.tail_mem fun hnil => htail (hqueue.tail_eq_stop_iff.mpr hnil)
      have hsmall := hfree _ hmem
      rw [if_pos htail]
      refine (NVDObjectTable.setNextFree_nextFree _ table.capacity i ?_).trans ?_
      · rw [Array.size_append]
        omega
      · by_cases hlast : i = table.freeTail
        · rw [if_pos hlast, if_pos ⟨hlast, htail⟩]
        · rw [if_neg hlast, if_neg fun h => hlast h.1]
          exact hgrown
  have hhead : (table.extend newCapacity).freeHead =
      if table.freeTail = slotNone then table.capacity else table.freeHead := by
    unfold NVDObjectTable.extend
    simp only
    by_cases htail : table.freeTail = slotNone
    · rw [if_neg (not_not.mpr htail), if_pos htail]
    · rw [if_pos htail, if_neg htail]
      rfl
  have hlast : (table.extend newCapacity).freeTail = newCapacity - 1 := rfl
  rw [hhead, hlast]
  have htailBelow : table.freeTail ≠ slotNone → table.freeTail < table.capacity := fun htail =>
    hfree _ (hqueue.tail_mem fun hnil => htail (hqueue.tail_eq_stop_iff.mpr hnil))
  have hcount : newCapacity - table.capacity = newCapacity - table.capacity - 1 + 1 := by omega
  refine hqueue.append ⟨?_, ?_, List.nodup_range'⟩ ?_ ?_ (fun htail => ?_) fun i hi hother => ?_
  · rw [hcount]
    refine freshSlots_path newCapacity (by omega) _ (by omega) fun i hfirst hnew => ?_
    rw [hlinks i, if_neg (by rintro ⟨rfl, htail⟩; have := htailBelow htail; omega),
      if_neg (by omega), if_pos hnew]
  · rw [hcount, List.range'_concat, List.getLastD_eq_getLast?, List.getLast?_concat]
    change newCapacity - 1 = table.capacity + 1 * (newCapacity - table.capacity - 1)
    omega
  · rw [hcount]
    exact List.cons_ne_nil _ _
  · intro i hi hnew
    have hold := hfree i hi
    rw [List.mem_range'_1] at hnew
    omega
  · exact (hlinks _).trans (if_pos ⟨rfl, htail⟩)
  · exact (hlinks i).trans ((if_neg fun h => hother h.1).trans (if_pos (hfree i hi)))

end ObjectTable
end NvidiaVaapi
