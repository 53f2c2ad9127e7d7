import Mathlib.Logic.Function.Basic
import NvidiaVaapi.ObjectTable.FreeList

/-!
# What the object table represents

Read from outside, a table is an object, or none, for every slot, and a
generation for every slot.  Growth changes neither; an allocation fills the first
slot of the free list; a removal empties a slot and moves it into its next
generation.  One invariant ties this reading to the array and is kept by every
call.
-/

namespace NvidiaVaapi
namespace ObjectTable

/-- The generation of a slot.  Slots that the table does not have yet will start in
the first one. -/
def NVDObjectTable.generationAt (table : NVDObjectTable) (index : Nat) : BitVec 16 :=
  if index < table.capacity then (table.slot index).generation else 1

/-- The table holds together, and `free` are its empty slots in the order of their use. -/
structure Stored (table : NVDObjectTable) (free : List Nat) : Prop where
  size : table.slots.size = table.capacity
  bound : table.capacity ≤ maxCapacity
  queue : LinkedQueue (fun i => (table.slot i).nextFree) slotNone table.freeHead table.freeTail
    free
  empty : ∀ i, i ∈ free ↔ i < table.capacity ∧ nvdObjectTableAt table i = none
  count : table.liveCount + free.length = table.capacity
  generations : ∀ i, table.generationAt i ≠ 0
  labels : ∀ i object, nvdObjectTableAt table i = some object →
    object.id = makeId (table.generationAt i) i

/-- Two tables with the same objects in the same generations of the same slots. -/
structure SameSlots (first second : NVDObjectTable) : Prop where
  objects : nvdObjectTableAt second = nvdObjectTableAt first
  generations : second.generationAt = first.generationAt

theorem SameSlots.refl (table : NVDObjectTable) : SameSlots table table := ⟨rfl, rfl⟩

theorem SameSlots.trans {first second third : NVDObjectTable} (h : SameSlots first second)
    (h' : SameSlots second third) : SameSlots first third :=
  ⟨h'.objects.trans h.objects, h'.generations.trans h.generations⟩

/-- Behind the array there is nothing to be read. -/
theorem at_eq_object {table : NVDObjectTable} (hsize : table.slots.size = table.capacity)
    (index : Nat) : nvdObjectTableAt table index = (table.slot index).object := by
  unfold nvdObjectTableAt
  split
  · rfl
  · rw [table.slot_of_size_le (by omega)]

theorem stored_init : Stored nvdObjectTableInit [] := by
  have hnone : ∀ i, nvdObjectTableAt nvdObjectTableInit i = none := fun i =>
    if_neg (Nat.not_lt_zero i)
  have hfirst : ∀ i, nvdObjectTableInit.generationAt i = 1 := fun i =>
    if_neg (Nat.not_lt_zero i)
  refine ⟨rfl, Nat.zero_le _, LinkedQueue.empty _ _, fun i => ⟨nofun, fun h => ?_⟩, rfl,
    fun i => ?_, fun i object hobject => ?_⟩
  · exact absurd h.1 (Nat.not_lt_zero i)
  · rw [hfirst]
    decide
  · rw [hnone] at hobject
    cases hobject

namespace Stored

variable {table : NVDObjectTable} {free : List Nat}

theorem free_lt (h : Stored table free) : ∀ i ∈ free, i < table.capacity :=
  fun i hi => ((h.empty i).mp hi).1

theorem lt_of_at {i : Nat} {object : NVDObject} (h : nvdObjectTableAt table i = some object) :
    i < table.capacity := by
  by_contra hpast
  have hnone : nvdObjectTableAt table i = none := if_neg hpast
  rw [hnone] at h
  cases h

/-! ## Growth -/

theorem extend {newCapacity : Nat} (h : Stored table free)
    (hroom : table.capacity < newCapacity) (hbound : newCapacity ≤ maxCapacity) :
    Stored (table.extend newCapacity)
        (free ++ List.range' table.capacity (newCapacity - table.capacity)) ∧
      SameSlots table (table.extend newCapacity) := by
  have hslot := fun i => extend_slot table newCapacity i h.size
  have hcapacity : (table.extend newCapacity).capacity = newCapacity := rfl
  have hlive : (table.extend newCapacity).liveCount = table.liveCount := by
    unfold NVDObjectTable.extend
    simp only
    split <;> rfl
  have hsize : (table.extend newCapacity).slots.size = newCapacity := by
    have hgrown : (table.slots ++ (freshSlots table.capacity newCapacity).toArray).size =
        newCapacity := by
      have hfresh : (freshSlots table.capacity newCapacity).toArray.size =
          newCapacity - table.capacity := by
        simp [freshSlots]
      rw [Array.size_append, hfresh, h.size]
      omega
    unfold NVDObjectTable.extend
    simp only
    split
    · exact (NVDObjectTable.setNextFree_size _ _ _).trans hgrown
    · exact hgrown
  have hsame : SameSlots table (table.extend newCapacity) := by
    constructor
    · funext i
      rw [at_eq_object hsize, at_eq_object h.size]
      exact (hslot i).1
    · funext i
      unfold NVDObjectTable.generationAt
      rw [(hslot i).2, hcapacity]
      by_cases hold : i < table.capacity
      · rw [if_pos (by omega), if_neg (by omega), if_pos hold]
      · rw [if_neg hold]
        by_cases hnew : i < newCapacity
        · rw [if_pos hnew, if_pos ⟨by omega, hnew⟩]
        · rw [if_neg hnew]
  refine ⟨⟨hsize, hbound, extend_queue h.size hroom hbound h.queue h.free_lt, fun i => ?_, ?_,
    fun i => ?_, fun i object hobject => ?_⟩, hsame⟩
  · rw [List.mem_append, h.empty, List.mem_range'_1, hsame.objects, hcapacity]
    constructor
    · rintro (⟨hold, hnone⟩ | hnew)
      · exact ⟨by omega, hnone⟩
      · exact ⟨by omega, if_neg (by omega)⟩
    · rintro ⟨hlt, hnone⟩
      by_cases hold : i < table.capacity
      · exact .inl ⟨hold, hnone⟩
      · exact .inr (by omega)
  · have hcount := h.count
    rw [hlive, hcapacity, List.length_append, List.length_range']
    omega
  · rw [hsame.generations]
    exact h.generations i
  · rw [hsame.generations]
    rw [hsame.objects] at hobject
    exact h.labels i object hobject

/-- A table that grows keeps its objects; the new slots are the last ones to be used. -/
theorem growTable (h : Stored table free) (reallocated : Bool) :
    growTable table reallocated = (table, false) ∨
      ∃ grown, ObjectTable.growTable table reallocated = (grown, true) ∧
        table.capacity < grown.capacity ∧
        Stored grown (free ++ List.range' table.capacity (grown.capacity - table.capacity)) ∧
        SameSlots table grown := by
  unfold ObjectTable.growTable
  split
  · exact .inl rfl
  · rename_i hroom
    split
    · exact .inl rfl
    · obtain ⟨hlarger, hbound⟩ := nextCapacity_spec (Nat.lt_of_not_le hroom)
      obtain ⟨hstored, hsame⟩ := h.extend hlarger hbound
      exact .inr ⟨_, rfl, hlarger, hstored, hsame⟩

/-! ## Taking a slot -/

/-- The table in which an object is allocated: it has an empty slot. -/
theorem ready {type : BitVec 8} {payloadSize : BitVec 64} {reallocated : Bool}
    {ready : NVDObjectTable} (h : Stored table free)
    (hready : readyTable table type payloadSize reallocated = some ready) :
    ∃ i rest, free ++ List.range' table.capacity (ready.capacity - table.capacity) = i :: rest ∧
      Stored ready (i :: rest) ∧ SameSlots table ready := by
  unfold readyTable at hready
  split at hready
  · cases hready
  · split at hready
    · rename_i hfull
      rcases h.growTable reallocated with hfailed | ⟨grown, hgrown, hlarger, hstored, hsame⟩
      · rw [hfailed] at hready
        cases hready
      · rw [hgrown] at hready
        obtain rfl : grown = ready := Option.some.inj hready
        have hcount : grown.capacity - table.capacity =
            grown.capacity - table.capacity - 1 + 1 := by omega
        have hnil : free = [] := h.queue.head_eq_stop_iff.mp hfull
        have hlist : free ++ List.range' table.capacity (grown.capacity - table.capacity) =
            table.capacity ::
              List.range' (table.capacity + 1) (grown.capacity - table.capacity - 1) := by
          rw [hnil, hcount]
          rfl
        rw [hlist] at hstored
        exact ⟨_, _, hlist, hstored, hsame⟩
    · rename_i hsome
      obtain rfl : table = ready := Option.some.inj hready
      have hne : free ≠ [] := fun hnil => hsome (h.queue.head_eq_stop_iff.mpr hnil)
      obtain ⟨i, rest, rfl⟩ := List.exists_cons_of_ne_nil hne
      refine ⟨i, rest, ?_, h, .refl table⟩
      rw [Nat.sub_self]
      exact List.append_nil _

/-- The table without the first slot of its free list. -/
def popped (table : NVDObjectTable) : NVDObjectTable :=
  { table with
    freeHead := (table.slot table.freeHead).nextFree
    freeTail :=
      if (table.slot table.freeHead).nextFree = slotNone then slotNone else table.freeTail }

theorem takeSlot_eq (table : NVDObjectTable) (type : BitVec 8) (payloadSize : BitVec 64)
    (allocated : Option Nat) : takeSlot table type payloadSize allocated =
      match allocated with
      | none => ((popped table).appendFree table.freeHead, none)
      | some address =>
        let object : NVDObject :=
          { address
            type
            id := makeId (table.slot table.freeHead).generation table.freeHead
            obj := if payloadSize ≠ 0 then some (address + objectSize) else none }
        ({ (popped table).setSlot table.freeHead
            { table.slot table.freeHead with object := some object, nextFree := slotNone } with
          liveCount := increment table.liveCount }, some object) := by
  have hpopped : (if (table.slot table.freeHead).nextFree = slotNone then
        { table with freeHead := (table.slot table.freeHead).nextFree, freeTail := slotNone }
      else { table with freeHead := (table.slot table.freeHead).nextFree }) = popped table := by
    unfold popped
    split <;> rfl
  unfold takeSlot
  simp only
  rw [hpopped]
  rfl

theorem popped_queue {i : Nat} {rest : List Nat} (h : Stored table (i :: rest)) :
    table.freeHead = i ∧ LinkedQueue (fun j => (table.slot j).nextFree) slotNone
      (popped table).freeHead (popped table).freeTail rest := by
  have hhead : table.freeHead = i := h.queue.links.head_cons
  subst hhead
  exact ⟨rfl, h.queue.pop rfl⟩

/-- Without memory for the object its slot waits behind the other ones. -/
theorem takeSlot_none {i : Nat} {rest : List Nat} (h : Stored table (i :: rest))
    (type : BitVec 8) (payloadSize : BitVec 64) :
    ∃ after, takeSlot table type payloadSize none = (after, none) ∧
      Stored after (rest ++ [i]) ∧ SameSlots table after := by
  obtain ⟨hhead, hqueue⟩ := h.popped_queue
  have hi : i < table.capacity := h.free_lt i List.mem_cons_self
  have hnodup := List.nodup_cons.mp h.queue.nodup
  have hrest : ∀ j ∈ rest, j < table.capacity :=
    fun j hj => h.free_lt j (List.mem_cons_of_mem _ hj)
  have hcounts := (popped table).appendFree_counts i
  have hslot := fun j => (popped table).appendFree_slot i j
  have hsize : ((popped table).appendFree i).slots.size = table.capacity :=
    ((popped table).appendFree_size i).trans h.size
  have hsame : SameSlots table ((popped table).appendFree i) := by
    constructor
    · funext j
      rw [at_eq_object (hsize.trans hcounts.1.symm), at_eq_object h.size]
      exact (hslot j).1
    · funext j
      unfold NVDObjectTable.generationAt
      rw [(hslot j).2, hcounts.1]
      rfl
  rw [takeSlot_eq, hhead]
  refine ⟨_, rfl, ⟨hsize.trans hcounts.1.symm, ?_, ?_, fun j => ?_, ?_, fun j => ?_,
    fun j object hobject => ?_⟩, hsame⟩
  · rw [hcounts.1]
    exact h.bound
  · refine NVDObjectTable.appendFree_queue hqueue (fun j hj => ?_) ?_ ?_ hnodup.1
    · exact (hrest j hj).trans_eq h.size.symm
    · exact hi.trans_eq h.size.symm
    · exact h.size.trans_le h.bound
  · have hempty := h.empty j
    rw [hsame.objects, hcounts.1]
    refine Iff.trans ?_ hempty
    rw [List.mem_append, List.mem_singleton, List.mem_cons]
    exact or_comm
  · have hcount := h.count
    rw [List.length_cons] at hcount
    rw [hcounts.1, hcounts.2, List.length_append, List.length_singleton]
    exact hcount
  · rw [hsame.generations]
    exact h.generations j
  · rw [hsame.generations]
    rw [hsame.objects] at hobject
    exact h.labels j object hobject

/-- With memory for the object its slot is filled, in the generation that it is in. -/
theorem takeSlot_some {i : Nat} {rest : List Nat} (h : Stored table (i :: rest))
    (type : BitVec 8) (payloadSize : BitVec 64) (address : Nat) :
    ∃ after object, takeSlot table type payloadSize (some address) = (after, some object) ∧
      Stored after rest ∧ object.type = type ∧ object.id = makeId (table.generationAt i) i ∧
      nvdObjectTableAt after = Function.update (nvdObjectTableAt table) i (some object) ∧
      after.generationAt = table.generationAt := by
  obtain ⟨hhead, hqueue⟩ := h.popped_queue
  have hi : i < table.capacity := h.free_lt i List.mem_cons_self
  have hnodup := List.nodup_cons.mp h.queue.nodup
  have hgeneration : table.generationAt i = (table.slot i).generation := if_pos hi
  rw [takeSlot_eq, hhead]
  let object : NVDObject :=
    { address
      type
      id := makeId (table.slot i).generation i
      obj := if payloadSize ≠ 0 then some (address + objectSize) else none }
  let after : NVDObjectTable :=
    { (popped table).setSlot i { table.slot i with object := some object, nextFree := slotNone }
      with liveCount := increment table.liveCount }
  have hslot : ∀ j, after.slot j = if j = i then
      { table.slot i with object := some object, nextFree := slotNone } else table.slot j :=
    fun j => (popped table).slot_setSlot _ (hi.trans_eq h.size.symm) j
  have hsize : after.slots.size = after.capacity :=
    ((popped table).setSlot_size _ _).trans h.size
  have hobjects : nvdObjectTableAt after =
      Function.update (nvdObjectTableAt table) i (some object) := by
    funext j
    rw [at_eq_object hsize, hslot, Function.update_apply]
    split
    · rfl
    · exact (at_eq_object h.size j).symm
  have hgenerations : after.generationAt = table.generationAt := by
    funext j
    have hkept : (after.slot j).generation = (table.slot j).generation := by
      rw [hslot]
      split
      · rename_i hsame
        rw [hsame]
      · rfl
    unfold NVDObjectTable.generationAt
    rw [hkept]
    rfl
  refine ⟨after, object, rfl, ⟨hsize, h.bound, ?_, fun j => ?_, ?_, fun j => ?_,
    fun j other hother => ?_⟩, rfl, ?_, hobjects, hgenerations⟩
  · refine hqueue.congr fun j hj => ?_
    have hapart : j ≠ i := fun hsame => hnodup.1 (hsame ▸ hj)
    change (after.slot j).nextFree = (table.slot j).nextFree
    rw [hslot, if_neg hapart]
  · have hempty := h.empty j
    rw [List.mem_cons] at hempty
    rw [hobjects, Function.update_apply]
    by_cases hsame : j = i
    · rw [if_pos hsame, hsame]
      exact ⟨fun hmem => absurd hmem hnodup.1, fun hnone => nomatch hnone.2⟩
    · rw [if_neg hsame]
      exact ⟨fun hmem => hempty.mp (.inr hmem),
        fun hnone => (hempty.mpr hnone).resolve_left hsame⟩
  · have hcount := h.count
    have hbound := h.bound
    have hmax : maxCapacity < 2 ^ 32 := by decide
    rw [List.length_cons] at hcount
    change increment table.liveCount + rest.length = table.capacity
    rw [increment, Nat.mod_eq_of_lt (by omega)]
    omega
  · rw [hgenerations]
    exact h.generations j
  · rw [hobjects, Function.update_apply] at hother
    rw [hgenerations]
    split at hother
    · rename_i hsame
      cases hother
      rw [hsame, hgeneration]
    · exact h.labels j other hother
  · rw [hgeneration]

end Stored

/-! ## Looking up and removing -/

/-- The object that an identifier leads to, whatever its type. -/
def denoted (table : NVDObjectTable) (id : BitVec 32) : Option NVDObject :=
  match decodeId id with
  | none => none
  | some (generation, index) =>
    if table.generationAt index = generation then nvdObjectTableAt table index else none

/-- The slot in the low bits of an identifier. -/
def slotOf (id : BitVec 32) : Nat := id.toNat % maxCapacity

theorem slotOf_of_decodeId {id : BitVec 32} {generation : BitVec 16} {index : Nat}
    (h : decodeId id = some (generation, index)) : slotOf id = index := by
  rw [decodeId_eq] at h
  split at h
  · cases h
    rfl
  · cases h

/-- What a lookup reads. -/
theorem nvdObjectTableGet_eq (table : NVDObjectTable) (type : BitVec 8) (id : BitVec 32) :
    nvdObjectTableGet table type id =
      (denoted table id).filter fun object => decide (object.type = type) := by
  unfold nvdObjectTableGet denoted nvdObjectTableAt NVDObjectTable.generationAt
  cases decodeId id with
  | none => rfl
  | some found =>
      obtain ⟨generation, index⟩ := found
      simp only
      by_cases hpast : index ≥ table.capacity
      · rw [if_pos hpast, if_neg (Nat.not_lt_of_ge hpast), if_neg (Nat.not_lt_of_ge hpast),
          ite_self]
        rfl
      · have hlt := Nat.lt_of_not_ge hpast
        rw [if_neg hpast, if_pos hlt, if_pos hlt]
        cases hobject : (table.slot index).object with
        | none =>
            simp only
            split <;> rfl
        | some object =>
            simp only
            by_cases hgeneration : (table.slot index).generation = generation
            · rw [if_pos hgeneration, Option.filter_some]
              by_cases htype : object.type = type
              · rw [if_pos ⟨hgeneration, htype⟩, if_pos (decide_eq_true htype)]
              · rw [if_neg fun h => htype h.2, if_neg (by simpa using htype)]
            · rw [if_neg fun h => hgeneration h.1, if_neg hgeneration]
              rfl

def NVDObjectTable.withLiveCount (table : NVDObjectTable) (count : Nat) : NVDObjectTable :=
  { table with liveCount := count }

/-- The table without the object in a slot. -/
def cleared (table : NVDObjectTable) (index : Nat) : NVDObjectTable :=
  table.setSlot index { table.slot index with
    object := none
    generation := nextGeneration (table.slot index).generation }

/-- The table after the removal of the object in a slot. -/
def removed (table : NVDObjectTable) (index : Nat) : NVDObjectTable :=
  ((cleared table index).appendFree index).withLiveCount
    (decrement ((cleared table index).appendFree index).liveCount)

/-- The count of the objects is no part of a slot or of the free list. -/
theorem withLiveCount_slot (table : NVDObjectTable) (count index : Nat) :
    (table.withLiveCount count).slot index = table.slot index := rfl

theorem withLiveCount_size (table : NVDObjectTable) (count : Nat) :
    (table.withLiveCount count).slots.size = table.slots.size := rfl

theorem withLiveCount_queue {table : NVDObjectTable} {free : List Nat} (count : Nat)
    (h : LinkedQueue (fun i => (table.slot i).nextFree) slotNone table.freeHead table.freeTail
      free) :
    LinkedQueue (fun i => ((table.withLiveCount count).slot i).nextFree) slotNone
      (table.withLiveCount count).freeHead (table.withLiveCount count).freeTail free := h

/-- What a removal does. -/
theorem nvdObjectTableRemove_eq (table : NVDObjectTable) (id : BitVec 32) :
    nvdObjectTableRemove table id =
      match denoted table id with
      | none => (table, none)
      | some object => (removed table (slotOf id), some object) := by
  unfold nvdObjectTableRemove denoted nvdObjectTableAt NVDObjectTable.generationAt
  cases hdecode : decodeId id with
  | none => rfl
  | some found =>
      obtain ⟨generation, index⟩ := found
      rw [slotOf_of_decodeId hdecode]
      simp only
      by_cases hpast : index ≥ table.capacity
      · rw [if_pos hpast, if_neg (Nat.not_lt_of_ge hpast), if_neg (Nat.not_lt_of_ge hpast),
          ite_self]
      · have hlt := Nat.lt_of_not_ge hpast
        rw [if_neg hpast, if_pos hlt, if_pos hlt]
        by_cases hgeneration : (table.slot index).generation = generation
        · rw [if_neg (not_not.mpr hgeneration), if_pos hgeneration]
          cases (table.slot index).object with
          | none => rfl
          | some object => rfl
        · rw [if_pos hgeneration, if_neg hgeneration]

namespace Stored

variable {table : NVDObjectTable} {free : List Nat}

/-- A removal empties the slot, starts its next generation and puts it behind the other
empty slots. -/
theorem removed {i : Nat} {object : NVDObject} (h : Stored table free)
    (hobject : nvdObjectTableAt table i = some object) :
    Stored (removed table i) (free ++ [i]) ∧
      nvdObjectTableAt (ObjectTable.removed table i) =
        Function.update (nvdObjectTableAt table) i none ∧
      (ObjectTable.removed table i).generationAt =
        Function.update table.generationAt i (nextGeneration (table.generationAt i)) := by
  have hi : i < table.capacity := lt_of_at hobject
  have hfresh : i ∉ free := fun hmem => by
    have hnone := ((h.empty i).mp hmem).2
    rw [hobject] at hnone
    cases hnone
  have hgeneration : table.generationAt i = (table.slot i).generation := if_pos hi
  have hcleared : ∀ j, (cleared table i).slot j = if j = i then
      { table.slot i with
        object := none
        generation := nextGeneration (table.slot i).generation } else table.slot j :=
    fun j => table.slot_setSlot _ (hi.trans_eq h.size.symm) j
  have hclearedSize : (cleared table i).slots.size = table.capacity :=
    (table.setSlot_size _ _).trans h.size
  have hslot : ∀ j,
      ((ObjectTable.removed table i).slot j).object = ((cleared table i).slot j).object ∧
      ((ObjectTable.removed table i).slot j).generation =
        ((cleared table i).slot j).generation := by
    intro j
    unfold ObjectTable.removed
    rw [withLiveCount_slot]
    exact (cleared table i).appendFree_slot i j
  have hcounts := (cleared table i).appendFree_counts i
  have hcapacity : (ObjectTable.removed table i).capacity = table.capacity := hcounts.1
  have hlive : (ObjectTable.removed table i).liveCount = decrement table.liveCount :=
    congrArg decrement hcounts.2
  have hsize : (ObjectTable.removed table i).slots.size =
      (ObjectTable.removed table i).capacity := by
    rw [hcapacity]
    unfold ObjectTable.removed
    rw [withLiveCount_size, NVDObjectTable.appendFree_size]
    exact hclearedSize
  have hobjects : nvdObjectTableAt (ObjectTable.removed table i) =
      Function.update (nvdObjectTableAt table) i none := by
    funext j
    rw [at_eq_object hsize, (hslot j).1, hcleared, Function.update_apply]
    split
    · rfl
    · exact (at_eq_object h.size j).symm
  have hgenerations : (ObjectTable.removed table i).generationAt =
      Function.update table.generationAt i (nextGeneration (table.generationAt i)) := by
    funext j
    rw [Function.update_apply]
    unfold NVDObjectTable.generationAt
    rw [hcapacity, (hslot j).2, hcleared]
    by_cases hsame : j = i
    · rw [if_pos hsame, if_pos hsame, hsame, if_pos hi, if_pos hi]
    · rw [if_neg hsame, if_neg hsame]
  refine ⟨⟨hsize, ?_, ?_, fun j => ?_, ?_, fun j => ?_, fun j other hother => ?_⟩, hobjects,
    hgenerations⟩
  · rw [hcapacity]
    exact h.bound
  · have hqueue : LinkedQueue (fun j => ((cleared table i).slot j).nextFree) slotNone
        (cleared table i).freeHead (cleared table i).freeTail free := by
      refine h.queue.congr fun j hj => ?_
      have hapart : j ≠ i := fun hsame => hfresh (hsame ▸ hj)
      change ((cleared table i).slot j).nextFree = (table.slot j).nextFree
      rw [hcleared, if_neg hapart]
    apply withLiveCount_queue
    refine NVDObjectTable.appendFree_queue hqueue (fun j hj => ?_) ?_ ?_ hfresh
    · exact (h.free_lt j hj).trans_eq hclearedSize.symm
    · exact hi.trans_eq hclearedSize.symm
    · exact hclearedSize.trans_le h.bound
  · rw [hobjects, hcapacity, Function.update_apply, List.mem_append, List.mem_singleton, h.empty]
    by_cases hsame : j = i
    · rw [if_pos hsame, hsame]
      exact ⟨fun _ => ⟨hi, rfl⟩, fun _ => .inr rfl⟩
    · rw [if_neg hsame]
      exact ⟨fun hmem => hmem.resolve_right hsame, .inl⟩
  · have hcount := h.count
    have hbound := h.bound
    have hmax : maxCapacity < 2 ^ 32 := by decide
    have hlength : free.length < table.capacity := by
      have hsub : (i :: free).Nodup := List.nodup_cons.mpr ⟨hfresh, h.queue.nodup⟩
      have hle : (i :: free).length ≤ (List.range table.capacity).length := by
        refine (List.subperm_of_subset hsub fun j hj => ?_).length_le
        rw [List.mem_range]
        rcases List.mem_cons.mp hj with rfl | hj
        · exact hi
        · exact h.free_lt j hj
      rw [List.length_cons, List.length_range] at hle
      omega
    rw [hlive, hcapacity, List.length_append, List.length_singleton]
    have hwrap : table.liveCount + (2 ^ 32 - 1) = table.liveCount - 1 + 2 ^ 32 := by omega
    rw [decrement, hwrap, Nat.add_mod_right, Nat.mod_eq_of_lt (by omega)]
    omega
  · rw [hgenerations, Function.update_apply]
    split
    · unfold nextGeneration
      split
      · decide
      · assumption
    · exact h.generations j
  · rw [hobjects, Function.update_apply] at hother
    rw [hgenerations, Function.update_apply]
    split at hother
    · cases hother
    · rename_i hapart
      rw [if_neg hapart]
      exact h.labels j other hother

/-- Where an identifier leads. -/
theorem at_of_denoted {id : BitVec 32} {object : NVDObject}
    (hdenoted : denoted table id = some object) :
    nvdObjectTableAt table (slotOf id) = some object ∧
      decodeId id = some (table.generationAt (slotOf id), slotOf id) := by
  unfold denoted at hdenoted
  cases hdecode : decodeId id with
  | none =>
      rw [hdecode] at hdenoted
      cases hdenoted
  | some found =>
      obtain ⟨generation, index⟩ := found
      rw [slotOf_of_decodeId hdecode]
      rw [hdecode] at hdenoted
      simp only at hdenoted
      split at hdenoted
      · rename_i hgeneration
        rw [hgeneration]
        exact ⟨hdenoted, rfl⟩
      · cases hdenoted

end Stored

end ObjectTable
end NvidiaVaapi
