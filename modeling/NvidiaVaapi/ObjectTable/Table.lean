import Mathlib.Algebra.Group.Nat.Defs
import Mathlib.Data.List.Basic

/-!
# The object table

The table of `object-table.c`: an array of slots that is doubled when no slot is
empty, an intrusive list of the empty slots, and identifiers that pack the number
of a slot with the generation it is in.

The memory allocator is outside of the table: whether `realloc` succeeds, and
where `calloc` puts an object, are arguments.  `uint32_t` fields are natural
numbers, and the counter that goes up and down is reduced modulo `2 ^ 32`; the
doubling stays below `2 ^ 32` by the test in front of it.
-/

namespace NvidiaVaapi
namespace ObjectTable

/-- `NVD_OBJECT_SLOT_NONE`. -/
def slotNone : Nat := 2 ^ 32 - 1

/-- `NVD_OBJECT_INDEX_BITS`. -/
def indexBits : Nat := 15

/-- `NVD_OBJECT_MAX_CAPACITY`. -/
def maxCapacity : Nat := 2 ^ indexBits

/-- `NVD_OBJECT_INITIAL_CAPACITY`. -/
def initialCapacity : Nat := 4096

/-- `VA_INVALID_ID`. -/
def vaInvalidId : BitVec 32 := 0xffffffff

/-- An object, at the address where `calloc` put it.  `obj` points to the payload
behind the header, or is `NULL`. -/
structure NVDObject where
  address : Nat
  id : BitVec 32
  type : BitVec 8
  obj : Option Nat
  deriving DecidableEq, Repr

structure NVDObjectSlot where
  object : Option NVDObject := none
  nextFree : Nat := 0
  generation : BitVec 16 := 0
  deriving DecidableEq, Repr

structure NVDObjectTable where
  slots : Array NVDObjectSlot
  capacity : Nat
  freeHead : Nat
  freeTail : Nat
  liveCount : Nat

/-- `sizeof(NVDObject)`: the identifier, the type and the pointer, padded to the
alignment of the payload. -/
def objectSize : Nat := 16

/-! ## Identifiers -/

def makeId (generation : BitVec 16) (index : Nat) : BitVec 32 :=
  (generation.setWidth 32 <<< indexBits) ||| BitVec.ofNat 32 index

/-- The generation and the slot that an identifier names, unless its generation
is the reserved one. -/
def decodeId (id : BitVec 32) : Option (BitVec 16 × Nat) :=
  let generation := ((id >>> indexBits) &&& 0xffff#32).setWidth 16
  let index := (id &&& (BitVec.ofNat 32 (2 ^ indexBits - 1))).toNat
  if generation ≠ 0 then some (generation, index) else none

/-! ## Slots -/

namespace NVDObjectTable

def slot (table : NVDObjectTable) (index : Nat) : NVDObjectSlot :=
  table.slots.getD index {}

/-- Write the slot with a number. -/
def setSlot (table : NVDObjectTable) (index : Nat) (slot : NVDObjectSlot) : NVDObjectTable :=
  { table with slots := table.slots.setIfInBounds index slot }

/-- `table->slots[index].nextFree = next`. -/
def setNextFree (table : NVDObjectTable) (index next : Nat) : NVDObjectTable :=
  table.setSlot index { table.slot index with nextFree := next }

/-- Put a slot at the end of the free list, as a failed object allocation and a
removal both do. -/
def appendFree (table : NVDObjectTable) (index : Nat) : NVDObjectTable :=
  let table := table.setNextFree index slotNone
  let table :=
    if table.freeTail ≠ slotNone then table.setNextFree table.freeTail index
    else { table with freeHead := index }
  { table with freeTail := index }

end NVDObjectTable

/-- `count++` of a `uint32_t`. -/
def increment (count : Nat) : Nat := (count + 1) % 2 ^ 32

/-- `count--` of a `uint32_t`. -/
def decrement (count : Nat) : Nat := (count + (2 ^ 32 - 1)) % 2 ^ 32

/-! ## Operations -/

def nvdObjectTableInit : NVDObjectTable where
  slots := #[]
  capacity := 0
  freeHead := slotNone
  freeTail := slotNone
  liveCount := 0

/-- The slots that `growTable` adds behind the first `capacity` ones. -/
def freshSlots (capacity newCapacity : Nat) : List NVDObjectSlot :=
  (List.range' capacity (newCapacity - capacity)).map fun i =>
    { generation := 1, nextFree := if i + 1 < newCapacity then i + 1 else slotNone }

/-- The capacity that `growTable` asks for. -/
def nextCapacity (capacity : Nat) : Nat :=
  let newCapacity := if capacity = 0 then initialCapacity else capacity * 2
  if newCapacity > maxCapacity then maxCapacity else newCapacity

/-- The table with the array that `realloc` returned: the new slots are chained up
behind the free list. -/
def NVDObjectTable.extend (table : NVDObjectTable) (newCapacity : Nat) : NVDObjectTable :=
  let grown := { table with
    slots := table.slots ++ (freshSlots table.capacity newCapacity).toArray }
  let grown :=
    if table.freeTail ≠ slotNone then grown.setNextFree table.freeTail table.capacity
    else { grown with freeHead := table.capacity }
  { grown with freeTail := newCapacity - 1, capacity := newCapacity }

def growTable (table : NVDObjectTable) (reallocated : Bool) : NVDObjectTable × Bool :=
  if table.capacity ≥ maxCapacity then (table, false)
  else if !reallocated then (table, false)
  else (table.extend (nextCapacity table.capacity), true)

/-- The part of `nvdObjectTableAllocate` behind the growth of the table: the first
empty slot is taken, and given back to the end of the free list when there is no
memory for the object. -/
def takeSlot (table : NVDObjectTable) (type : BitVec 8) (payloadSize : BitVec 64)
    (allocated : Option Nat) : NVDObjectTable × Option NVDObject :=
  let index := table.freeHead
  let slot := table.slot index
  let table := { table with freeHead := slot.nextFree }
  let table :=
    if table.freeHead = slotNone then { table with freeTail := slotNone } else table
  match allocated with
  | none => (table.appendFree index, none)
  | some address =>
    let object : NVDObject :=
      { address
        type
        id := makeId slot.generation index
        obj := if payloadSize ≠ 0 then some (address + objectSize) else none }
    let table := table.setSlot index { slot with object := some object, nextFree := slotNone }
    ({ table with liveCount := increment table.liveCount }, some object)

/-- The table in which `nvdObjectTableAllocate` takes a slot, after its checks and its
growth; `none` where it returns `NULL` before that and the table is as it was. -/
def readyTable (table : NVDObjectTable) (type : BitVec 8) (payloadSize : BitVec 64)
    (reallocated : Bool) : Option NVDObjectTable :=
  if 7 ≤ type.toNat ∨ payloadSize.toNat > 2 ^ 64 - 1 - objectSize then none
  else if table.freeHead = slotNone then
    match growTable table reallocated with
    | (_, false) => none
    | (grown, true) => some grown
  else some table

def nvdObjectTableAllocate (table : NVDObjectTable) (type : BitVec 8)
    (payloadSize : BitVec 64) (reallocated : Bool) (allocated : Option Nat) :
    NVDObjectTable × Option NVDObject :=
  match readyTable table type payloadSize reallocated with
  | none => (table, none)
  | some ready => takeSlot ready type payloadSize allocated

def nvdObjectTableGet (table : NVDObjectTable) (type : BitVec 8) (id : BitVec 32) :
    Option NVDObject :=
  match decodeId id with
  | none => none
  | some (generation, index) =>
    if index ≥ table.capacity then none
    else
      let slot := table.slot index
      match slot.object with
      | none => none
      | some object =>
        if slot.generation = generation ∧ object.type = type then some object else none

/-- The generation after a release: zero stays reserved. -/
def nextGeneration (generation : BitVec 16) : BitVec 16 :=
  if generation + 1 = 0 then 1 else generation + 1

def nvdObjectTableRemove (table : NVDObjectTable) (id : BitVec 32) :
    NVDObjectTable × Option NVDObject :=
  match decodeId id with
  | none => (table, none)
  | some (generation, index) =>
    if index ≥ table.capacity then (table, none)
    else
      let slot := table.slot index
      if slot.generation ≠ generation then (table, none)
      else
        match slot.object with
        | none => (table, none)
        | some object =>
          let table := table.setSlot index { slot with
            object := none
            generation := nextGeneration slot.generation }
          let table := table.appendFree index
          ({ table with liveCount := decrement table.liveCount }, some object)

def nvdObjectTableRemoveTyped (table : NVDObjectTable) (type : BitVec 8) (id : BitVec 32) :
    NVDObjectTable × Option NVDObject :=
  if (nvdObjectTableGet table type id).isSome then nvdObjectTableRemove table id
  else (table, none)

def nvdObjectTableAt (table : NVDObjectTable) (slotIndex : Nat) : Option NVDObject :=
  if slotIndex < table.capacity then (table.slot slotIndex).object else none

/-! ## Runs -/

/-- A call of the table, with the answers of the allocator. -/
inductive TableCall
  | allocate (type : BitVec 8) (payloadSize : BitVec 64) (reallocated : Bool)
      (allocated : Option Nat)
  | get (type : BitVec 8) (id : BitVec 32)
  | remove (id : BitVec 32)
  | removeTyped (type : BitVec 8) (id : BitVec 32)

/-- The table after a call, and the object that the call returns. -/
def NVDObjectTable.call (table : NVDObjectTable) : TableCall → NVDObjectTable × Option NVDObject
  | .allocate type payloadSize reallocated allocated =>
    nvdObjectTableAllocate table type payloadSize reallocated allocated
  | .get type id => (table, nvdObjectTableGet table type id)
  | .remove id => nvdObjectTableRemove table id
  | .removeTyped type id => nvdObjectTableRemoveTyped table type id

/-- The table after a list of calls. -/
def NVDObjectTable.calls (table : NVDObjectTable) (calls : List TableCall) : NVDObjectTable :=
  calls.foldl (fun table call => (table.call call).1) table

/-- An object that the table holds. -/
def NVDObjectTable.Live (table : NVDObjectTable) (object : NVDObject) : Prop :=
  ∃ index, nvdObjectTableAt table index = some object

end ObjectTable
end NvidiaVaapi
