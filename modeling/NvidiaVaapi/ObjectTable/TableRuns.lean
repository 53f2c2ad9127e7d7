import NvidiaVaapi.ObjectTable.Representation

/-!
# Runs of the object table

What one call does to the slots, and the free list as a queue over whole runs: the
slots that entered it are the ones that were taken from it, followed by the ones
that are in it.
-/

namespace NvidiaVaapi
namespace ObjectTable

/-- The object in an empty slot, labelled with the generation that the slot is in. -/
structure Filled (table after : NVDObjectTable) (i : Nat) (object : NVDObject) : Prop where
  empty : nvdObjectTableAt table i = none
  label : object.id = makeId (table.generationAt i) i
  objects : nvdObjectTableAt after = Function.update (nvdObjectTableAt table) i (some object)
  generations : after.generationAt = table.generationAt

/-- What a call does to the objects and the generations of the slots. -/
inductive CallEffect (table after : NVDObjectTable) : Prop
  | same : SameSlots table after → CallEffect table after
  | filled (i : Nat) (object : NVDObject) : Filled table after i object → CallEffect table after
  | emptied (i : Nat) (object : NVDObject) : nvdObjectTableAt table i = some object →
      nvdObjectTableAt after = Function.update (nvdObjectTableAt table) i none →
      after.generationAt =
        Function.update table.generationAt i (nextGeneration (table.generationAt i)) →
      CallEffect table after

/-- The slots that a call takes from the head of the free list. -/
def NVDObjectTable.taken (table : NVDObjectTable) : TableCall → List Nat
  | .allocate type payloadSize reallocated _ =>
    match readyTable table type payloadSize reallocated with
    | none => []
    | some ready => [ready.freeHead]
  | _ => []

/-- The slots that a call releases: the slot of a removed object. -/
def NVDObjectTable.released (table : NVDObjectTable) : TableCall → List Nat
  | .remove id => (nvdObjectTableRemove table id).2.toList.map fun object => slotOf object.id
  | .removeTyped type id =>
    (nvdObjectTableRemoveTyped table type id).2.toList.map fun object => slotOf object.id
  | _ => []

/-- The slots that enter the free list during a call, in their order: those of a
growth, the slot of a failed object allocation, a released slot. -/
def NVDObjectTable.entered (table : NVDObjectTable) : TableCall → List Nat
  | .allocate type payloadSize reallocated allocated =>
    match readyTable table type payloadSize reallocated with
    | none => []
    | some ready =>
      List.range' table.capacity (ready.capacity - table.capacity) ++
        if allocated.isNone then [ready.freeHead] else []
  | call => table.released call

/-- What the calls of a run contribute, in the order of the calls. -/
def NVDObjectTable.ledger (entries : NVDObjectTable → TableCall → List Nat) :
    NVDObjectTable → List TableCall → List Nat
  | _, [] => []
  | table, call :: rest => entries table call ++ ledger entries (table.call call).1 rest

/-- The lookup in front of a typed removal decides it. -/
theorem nvdObjectTableRemoveTyped_eq (table : NVDObjectTable) (type : BitVec 8)
    (id : BitVec 32) : nvdObjectTableRemoveTyped table type id =
      match (denoted table id).filter fun object => decide (object.type = type) with
      | none => (table, none)
      | some object => (removed table (slotOf id), some object) := by
  unfold nvdObjectTableRemoveTyped
  rw [nvdObjectTableGet_eq, nvdObjectTableRemove_eq]
  cases denoted table id with
  | none => rfl
  | some object =>
      rw [Option.filter_some]
      split
      · rfl
      · rfl

namespace Stored

variable {table : NVDObjectTable} {free : List Nat}

/-- The identifier of an object names its slot. -/
theorem slotOf_label {i : Nat} {object : NVDObject} (h : Stored table free)
    (hobject : nvdObjectTableAt table i = some object) : slotOf object.id = i := by
  rw [h.labels i object hobject]
  exact slotOf_of_decodeId
    (decodeId_makeId (h.generations i) ((lt_of_at hobject).trans_le h.bound))

theorem removal {id : BitVec 32} {object : NVDObject} (h : Stored table free)
    (hdenoted : denoted table id = some object) :
    Stored (ObjectTable.removed table (slotOf id)) (free ++ [slotOf object.id]) ∧
      CallEffect table (ObjectTable.removed table (slotOf id)) := by
  obtain ⟨hobject, _⟩ := at_of_denoted hdenoted
  obtain ⟨hstored, hobjects, hgenerations⟩ := h.removed hobject
  rw [h.slotOf_label hobject]
  exact ⟨hstored, .emptied _ object hobject hobjects hgenerations⟩

theorem allocation (h : Stored table free) (type : BitVec 8) (payloadSize : BitVec 64)
    (reallocated : Bool) (allocated : Option Nat) :
    ∃ free', Stored (nvdObjectTableAllocate table type payloadSize reallocated allocated).1
        free' ∧
      free ++ table.entered (.allocate type payloadSize reallocated allocated) =
        table.taken (.allocate type payloadSize reallocated allocated) ++ free' ∧
      (((nvdObjectTableAllocate table type payloadSize reallocated allocated).2 = none ∧
          SameSlots table
            (nvdObjectTableAllocate table type payloadSize reallocated allocated).1) ∨
        ∃ i object,
          (nvdObjectTableAllocate table type payloadSize reallocated allocated).2 =
            some object ∧ object.type = type ∧
          Filled table
            (nvdObjectTableAllocate table type payloadSize reallocated allocated).1 i object) := by
  unfold nvdObjectTableAllocate NVDObjectTable.entered NVDObjectTable.taken
  simp only
  cases hready : readyTable table type payloadSize reallocated with
  | none => exact ⟨free, h, List.append_nil _, .inl ⟨rfl, .refl table⟩⟩
  | some ready =>
      obtain ⟨i, rest, hlist, hstored, hsame⟩ := h.ready hready
      have hhead : ready.freeHead = i := hstored.queue.links.head_cons
      simp only
      rw [hhead, ← List.append_assoc, hlist]
      cases allocated with
      | none =>
          obtain ⟨after, htaken, hafter, hkept⟩ := hstored.takeSlot_none type payloadSize
          rw [htaken]
          exact ⟨rest ++ [i], hafter, rfl, .inl ⟨rfl, hsame.trans hkept⟩⟩
      | some address =>
          obtain ⟨after, object, htaken, hafter, htype, hid, hobjects, hgenerations⟩ :=
            hstored.takeSlot_some type payloadSize address
          rw [htaken]
          have hempty := ((hstored.empty i).mp List.mem_cons_self).2
          rw [hsame.objects] at hempty hobjects
          rw [hsame.generations] at hid hgenerations
          exact ⟨rest, hafter, List.append_nil _,
            .inr ⟨i, object, rfl, htype, hempty, hid, hobjects, hgenerations⟩⟩

/-- One call: the table holds together, its free list is a queue, and at most one
slot is filled or emptied. -/
theorem call (h : Stored table free) (call : TableCall) :
    ∃ free', Stored (table.call call).1 free' ∧
      free ++ table.entered call = table.taken call ++ free' ∧
      CallEffect table (table.call call).1 := by
  cases call with
  | allocate type payloadSize reallocated allocated =>
      obtain ⟨free', hstored, hledger, heffect⟩ :=
        h.allocation type payloadSize reallocated allocated
      refine ⟨free', hstored, hledger, ?_⟩
      rcases heffect with ⟨_, hsame⟩ | ⟨i, object, _, _, hfilled⟩
      · exact .same hsame
      · exact .filled i object hfilled
  | get type id => exact ⟨free, h, List.append_nil _, .same (.refl table)⟩
  | remove id =>
      unfold NVDObjectTable.call NVDObjectTable.entered NVDObjectTable.released
      simp only
      rw [nvdObjectTableRemove_eq]
      cases hdenoted : denoted table id with
      | none => exact ⟨free, h, List.append_nil _, .same (.refl table)⟩
      | some object =>
          obtain ⟨hstored, heffect⟩ := h.removal hdenoted
          exact ⟨_, hstored, rfl, heffect⟩
  | removeTyped type id =>
      unfold NVDObjectTable.call NVDObjectTable.entered NVDObjectTable.released
      simp only
      rw [nvdObjectTableRemoveTyped_eq]
      cases hfound : (denoted table id).filter fun object => decide (object.type = type) with
      | none => exact ⟨free, h, List.append_nil _, .same (.refl table)⟩
      | some object =>
          obtain ⟨hstored, heffect⟩ := h.removal (Option.filter_eq_some_iff.mp hfound).1
          exact ⟨_, hstored, rfl, heffect⟩

/-- A run: the slots that entered the free list are the taken ones and the free ones. -/
theorem calls (calls : List TableCall) : ∀ {table : NVDObjectTable} {free : List Nat},
    Stored table free → ∃ free', Stored (table.calls calls) free' ∧
      free ++ NVDObjectTable.ledger NVDObjectTable.entered table calls =
        NVDObjectTable.ledger NVDObjectTable.taken table calls ++ free' := by
  induction calls with
  | nil =>
      intro table free h
      exact ⟨free, h, List.append_nil _⟩
  | cons call rest ih =>
      intro table free h
      obtain ⟨between, hbetween, hledger, _⟩ := h.call call
      obtain ⟨free', hfree', hrest⟩ := ih hbetween
      refine ⟨free', hfree', ?_⟩
      calc
        free ++ (table.entered call ++
            NVDObjectTable.ledger NVDObjectTable.entered (table.call call).1 rest)
          = table.taken call ++ (between ++
            NVDObjectTable.ledger NVDObjectTable.entered (table.call call).1 rest) := by
              rw [← List.append_assoc, hledger, List.append_assoc]
        _ = table.taken call ++
            NVDObjectTable.ledger NVDObjectTable.taken (table.call call).1 rest ++ free' := by
              rw [hrest, List.append_assoc]

end Stored

/-- Every table that calls lead to. -/
theorem stored_calls (calls : List TableCall) :
    ∃ free, Stored (nvdObjectTableInit.calls calls) free ∧
      NVDObjectTable.ledger NVDObjectTable.entered nvdObjectTableInit calls =
        NVDObjectTable.ledger NVDObjectTable.taken nvdObjectTableInit calls ++ free :=
  stored_init.calls calls

/-! ## Identifiers of live objects -/

/-- An identifier without the bit that decoding drops. -/
def withoutTop (id : BitVec 32) : BitVec 32 := id &&& 0x7fffffff#32

theorem withoutTop_toNat (id : BitVec 32) : (withoutTop id).toNat = id.toNat % 2 ^ 31 := by
  have hmask : (0x7fffffff#32).toNat = 2 ^ 31 - 1 := rfl
  unfold withoutTop
  rw [BitVec.toNat_and, hmask, Nat.and_two_pow_sub_one_eq_mod]

theorem decodeId_withoutTop (id : BitVec 32) : decodeId (withoutTop id) = decodeId id := by
  have hmax : maxCapacity = 2 ^ 15 := rfl
  have hlow : id.toNat % 2 ^ 31 % maxCapacity = id.toNat % maxCapacity := by
    rw [hmax]
    omega
  have hhigh : BitVec.ofNat 16 (id.toNat % 2 ^ 31 / maxCapacity) =
      BitVec.ofNat 16 (id.toNat / maxCapacity) := by
    apply BitVec.eq_of_toNat_eq
    rw [BitVec.toNat_ofNat, BitVec.toNat_ofNat, hmax]
    omega
  rw [decodeId_eq, decodeId_eq, withoutTop_toNat, hhigh, hlow]

/-- What an identifier decodes to makes the identifier, but for its top bit. -/
theorem makeId_of_decodeId {id : BitVec 32} {generation : BitVec 16} {index : Nat}
    (h : decodeId id = some (generation, index)) : makeId generation index = withoutTop id := by
  have hmax : maxCapacity = 2 ^ 15 := rfl
  rw [decodeId_eq] at h
  split at h
  · cases h
    apply BitVec.eq_of_toNat_eq
    rw [makeId_toNat _ (Nat.mod_lt _ (by decide)), withoutTop_toNat, BitVec.toNat_ofNat, hmax]
    omega
  · cases h

namespace Stored

variable {table : NVDObjectTable} {free : List Nat}

/-- An identifier leads to the live object that has it as its own, but for the top bit. -/
theorem denoted_iff (h : Stored table free) (id : BitVec 32) (object : NVDObject) :
    denoted table id = some object ↔ table.Live object ∧ object.id = withoutTop id := by
  constructor
  · intro hdenoted
    obtain ⟨hobject, hdecode⟩ := at_of_denoted hdenoted
    exact ⟨⟨_, hobject⟩, (h.labels _ object hobject).trans (makeId_of_decodeId hdecode)⟩
  · rintro ⟨⟨i, hobject⟩, hid⟩
    have hdecode := decodeId_makeId (h.generations i) ((lt_of_at hobject).trans_le h.bound)
    rw [← h.labels i object hobject, hid, decodeId_withoutTop] at hdecode
    unfold denoted
    rw [hdecode]
    exact (if_pos rfl).trans hobject

/-- An identifier that was made has no top bit. -/
theorem withoutTop_label {object : NVDObject} (h : Stored table free)
    (hlive : table.Live object) : withoutTop object.id = object.id := by
  obtain ⟨i, hobject⟩ := hlive
  have hmax : maxCapacity = 2 ^ 15 := rfl
  have hi : i < maxCapacity := (lt_of_at hobject).trans_le h.bound
  have hgeneration := (table.generationAt i).isLt
  apply BitVec.eq_of_toNat_eq
  rw [withoutTop_toNat, h.labels i object hobject, makeId_toNat _ hi]
  rw [hmax] at hi ⊢
  exact Nat.mod_eq_of_lt (by omega)

theorem denoted_label {object : NVDObject} (h : Stored table free) (hlive : table.Live object) :
    denoted table object.id = some object :=
  (h.denoted_iff object.id object).mpr ⟨hlive, (h.withoutTop_label hlive).symm⟩

theorem get_label {object : NVDObject} (h : Stored table free) (hlive : table.Live object) :
    nvdObjectTableGet table object.type object.id = some object := by
  rw [nvdObjectTableGet_eq, h.denoted_label hlive, Option.filter_some]
  exact if_pos (decide_eq_true rfl)

/-- The first generation is one, so zero is no identifier; the top bit is clear, so the
invalid one is none either. -/
theorem label_valid {object : NVDObject} (h : Stored table free) (hlive : table.Live object) :
    object.id ≠ 0 ∧ object.id ≠ vaInvalidId := by
  constructor
  · intro hzero
    have hdenoted := h.denoted_label hlive
    obtain ⟨_, hdecode⟩ := at_of_denoted hdenoted
    rw [hzero] at hdecode
    exact absurd hdecode (by simp [decodeId])
  · intro hinvalid
    have htop := h.withoutTop_label hlive
    rw [hinvalid] at htop
    exact absurd htop (by decide)

/-- Objects in different slots have different identifiers. -/
theorem label_injective {i j : Nat} {first second : NVDObject} (h : Stored table free)
    (hfirst : nvdObjectTableAt table i = some first)
    (hsecond : nvdObjectTableAt table j = some second) (hid : first.id = second.id) : i = j := by
  rw [← h.slotOf_label hfirst, ← h.slotOf_label hsecond, hid]

/-- The empty slots and the occupied ones are all the slots. -/
theorem liveCount_eq (h : Stored table free) : table.liveCount =
    (List.range table.capacity).countP fun i => (nvdObjectTableAt table i).isSome := by
  have hfree : ((List.range table.capacity).filter fun i =>
      !(nvdObjectTableAt table i).isSome).Perm free := by
    refine (List.perm_ext_iff_of_nodup (List.nodup_range.filter _) h.queue.nodup).mpr fun i => ?_
    rw [List.mem_filter, List.mem_range, h.empty]
    simp
  have hempty := hfree.length_eq
  rw [← List.countP_eq_length_filter] at hempty
  have hall : (List.range table.capacity).length = _ :=
    List.length_eq_countP_add_countP fun i => (nvdObjectTableAt table i).isSome
  rw [List.length_range] at hall
  have hcount := h.count
  have hsplit : (List.range table.capacity).countP
      (fun i => decide (¬(nvdObjectTableAt table i).isSome = true)) = free.length := by
    rw [← hempty]
    congr 1
    funext i
    cases (nvdObjectTableAt table i).isSome <;> rfl
  omega

/-- Growth is not seen by any lookup. -/
theorem sameSlots_growTable (h : Stored table free) (reallocated : Bool) :
    SameSlots table (ObjectTable.growTable table reallocated).1 := by
  rcases h.growTable reallocated with hfailed | ⟨grown, hgrown, _, _, hsame⟩
  · rw [hfailed]
    exact .refl table
  · rw [hgrown]
    exact hsame

end Stored

theorem SameSlots.denoted {first second : NVDObjectTable} (h : SameSlots first second)
    (id : BitVec 32) : denoted second id = denoted first id := by
  unfold ObjectTable.denoted
  rw [h.objects, h.generations]

/-- An allocation that succeeds fills the slot that it takes from the free list. -/
theorem Stored.taken_of_allocated {table : NVDObjectTable} {free : List Nat}
    {type : BitVec 8} {payloadSize : BitVec 64} {reallocated : Bool} {allocated : Option Nat}
    {object : NVDObject} (h : Stored table free)
    (hobject : (nvdObjectTableAllocate table type payloadSize reallocated allocated).2 =
      some object) :
    table.taken (.allocate type payloadSize reallocated allocated) = [slotOf object.id] := by
  unfold nvdObjectTableAllocate at hobject
  unfold NVDObjectTable.taken
  simp only
  cases hready : readyTable table type payloadSize reallocated with
  | none =>
      rw [hready] at hobject
      cases hobject
  | some ready =>
      rw [hready] at hobject
      simp only at hobject
      obtain ⟨i, rest, _, hstored, _⟩ := h.ready hready
      have hhead : ready.freeHead = i := hstored.queue.links.head_cons
      cases allocated with
      | none =>
          obtain ⟨after, htaken, _, _⟩ := hstored.takeSlot_none type payloadSize
          rw [htaken] at hobject
          cases hobject
      | some address =>
          obtain ⟨after, object', htaken, _, _, hid, _, _⟩ :=
            hstored.takeSlot_some type payloadSize address
          rw [htaken] at hobject
          cases hobject
          have hi := hstored.free_lt i List.mem_cons_self
          simp only
          rw [hid, hhead, slotOf_of_decodeId
            (decodeId_makeId (hstored.generations i) (hi.trans_le hstored.bound))]

/-- What the table represents: `free` are its empty slots, in the order of the links. -/
structure Representation (table : NVDObjectTable) (free : List Nat) : Prop where
  links : LinkedPath (fun i => (table.slot i).nextFree) slotNone table.freeHead free
  tail : table.freeTail = free.getLastD slotNone
  once : free.Nodup
  empty : ∀ i, i ∈ free ↔ i < table.capacity ∧ nvdObjectTableAt table i = none
  liveCount : table.liveCount =
    (List.range table.capacity).countP fun i => (nvdObjectTableAt table i).isSome
  distinct : ∀ i j first second, nvdObjectTableAt table i = some first →
    nvdObjectTableAt table j = some second → first.id = second.id → i = j
  valid : ∀ object, table.Live object → object.id ≠ 0 ∧ object.id ≠ vaInvalidId
  lookup : ∀ object, table.Live object →
    nvdObjectTableGet table object.type object.id = some object
  growth : ∀ reallocated,
    nvdObjectTableAt (growTable table reallocated).1 = nvdObjectTableAt table ∧
      ∀ type id, nvdObjectTableGet (growTable table reallocated).1 type id =
        nvdObjectTableGet table type id
  handedOut : ∀ type payloadSize reallocated allocated object,
    (nvdObjectTableAllocate table type payloadSize reallocated allocated).2 = some object →
      table.taken (.allocate type payloadSize reallocated allocated) = [slotOf object.id]

/-- After any calls the table represents its objects, and its free list is first in,
first out: the slots that entered it are those that were taken, followed by the empty
ones. -/
theorem nvdObjectTable_representation (calls : List TableCall) :
    ∃ free, Representation (nvdObjectTableInit.calls calls) free ∧
      NVDObjectTable.ledger NVDObjectTable.entered nvdObjectTableInit calls =
        NVDObjectTable.ledger NVDObjectTable.taken nvdObjectTableInit calls ++ free := by
  obtain ⟨free, h, hledger⟩ := stored_calls calls
  refine ⟨free, ?_, hledger⟩
  exact {
    links := h.queue.links
    tail := h.queue.last
    once := h.queue.nodup
    empty := h.empty
    liveCount := h.liveCount_eq
    distinct := fun _ _ _ _ hfirst hsecond hid => h.label_injective hfirst hsecond hid
    valid := fun _ hlive => h.label_valid hlive
    lookup := fun _ hlive => h.get_label hlive
    growth := fun reallocated => by
      have hsame := h.sameSlots_growTable reallocated
      refine ⟨hsame.objects, fun type id => ?_⟩
      rw [nvdObjectTableGet_eq, nvdObjectTableGet_eq, hsame.denoted]
    handedOut := fun _ _ _ _ _ hobject => h.taken_of_allocated hobject }

end ObjectTable
end NvidiaVaapi
