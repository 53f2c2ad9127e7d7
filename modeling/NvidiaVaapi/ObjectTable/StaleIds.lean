import NvidiaVaapi.ObjectTable.Lookup

/-!
# Identifiers of removed objects

A slot moves to its next generation when it is released, and at no other time.  The
generations run through `1` to `65535` in a circle, so that an identifier is not
made again before its slot has been released that often.
-/

namespace NvidiaVaapi
namespace ObjectTable

/-! ## The circle of the generations -/

theorem nextGeneration_toNat {generation : BitVec 16} (hgeneration : generation ≠ 0) :
    (nextGeneration generation).toNat = generation.toNat % 65535 + 1 := by
  have hlt := generation.isLt
  have hpos : generation.toNat ≠ 0 := fun hzero =>
    hgeneration (BitVec.eq_of_toNat_eq hzero)
  unfold nextGeneration
  split
  · rename_i hwrap
    have hsum := congrArg BitVec.toNat hwrap
    rw [BitVec.toNat_add] at hsum
    change (generation.toNat + 1) % 2 ^ 16 = 0 at hsum
    change 1 = generation.toNat % 65535 + 1
    omega
  · rename_i hwrap
    have hsum : generation.toNat + 1 ≠ 2 ^ 16 := by
      intro hsum
      apply hwrap
      apply BitVec.eq_of_toNat_eq
      rw [BitVec.toNat_add]
      change (generation.toNat + 1) % 2 ^ 16 = 0
      rw [hsum, Nat.mod_self]
    rw [BitVec.toNat_add]
    change (generation.toNat + 1) % 2 ^ 16 = generation.toNat % 65535 + 1
    omega

theorem nextGeneration_ne_zero (generation : BitVec 16) : nextGeneration generation ≠ 0 := by
  unfold nextGeneration
  split
  · decide
  · assumption

/-- The generation after any number of releases. -/
theorem iterate_nextGeneration {generation : BitVec 16} (hgeneration : generation ≠ 0)
    (count : Nat) :
    nextGeneration^[count] generation ≠ 0 ∧
      (nextGeneration^[count] generation).toNat =
        (generation.toNat - 1 + count) % 65535 + 1 := by
  have hlt := generation.isLt
  have hpos : generation.toNat ≠ 0 := fun hzero =>
    hgeneration (BitVec.eq_of_toNat_eq hzero)
  induction count with
  | zero =>
      refine ⟨hgeneration, ?_⟩
      change generation.toNat = _
      omega
  | succ count ih =>
      rw [Function.iterate_succ_apply']
      refine ⟨nextGeneration_ne_zero _, ?_⟩
      rw [nextGeneration_toNat ih.1, ih.2]
      omega

/-- Fewer releases than there are generations never lead back. -/
theorem iterate_nextGeneration_ne {generation : BitVec 16} (hgeneration : generation ≠ 0)
    {count : Nat} (hpos : 0 < count) (hless : count < 65535) :
    nextGeneration^[count] generation ≠ generation := by
  intro hback
  have hlt := generation.isLt
  have hcircle := (iterate_nextGeneration hgeneration count).2
  rw [hback] at hcircle
  omega

/-! ## Generations along a run -/

namespace Stored

variable {table : NVDObjectTable} {free : List Nat}

/-- A call advances the generations of the slots that it releases. -/
theorem generationAt_call (h : Stored table free) (call : TableCall) (i : Nat) :
    (table.call call).1.generationAt i =
      nextGeneration^[(table.released call).count i] (table.generationAt i) := by
  have hremoved : ∀ {id : BitVec 32} {object : NVDObject}, denoted table id = some object →
      (ObjectTable.removed table (slotOf id)).generationAt i =
        nextGeneration^[[slotOf object.id].count i] (table.generationAt i) := by
    intro id object hdenoted
    obtain ⟨hobject, _⟩ := at_of_denoted hdenoted
    obtain ⟨_, _, hgenerations⟩ := h.removed hobject
    rw [hgenerations, h.slotOf_label hobject, Function.update_apply]
    by_cases hsame : i = slotOf id
    · rw [if_pos hsame, hsame, List.count_singleton_self]
      rfl
    · have hnone : List.count i [slotOf id] = 0 :=
        List.count_eq_zero_of_not_mem fun hmem => hsame (List.mem_singleton.mp hmem)
      rw [if_neg hsame, hnone]
      rfl
  cases call with
  | allocate type payloadSize reallocated allocated =>
      obtain ⟨_, _, _, heffect⟩ := h.allocation type payloadSize reallocated allocated
      change (nvdObjectTableAllocate table type payloadSize reallocated allocated).1.generationAt
        i = table.generationAt i
      rcases heffect with ⟨_, hsame⟩ | ⟨_, _, _, _, hfilled⟩
      · rw [hsame.generations]
      · rw [hfilled.generations]
  | get type id => rfl
  | remove id =>
      unfold NVDObjectTable.call NVDObjectTable.released
      simp only
      rw [nvdObjectTableRemove_eq]
      cases hdenoted : denoted table id with
      | none => rfl
      | some object => exact hremoved hdenoted
  | removeTyped type id =>
      unfold NVDObjectTable.call NVDObjectTable.released
      simp only
      rw [nvdObjectTableRemoveTyped_eq]
      cases hfound : (denoted table id).filter fun object => decide (object.type = type) with
      | none => rfl
      | some object => exact hremoved (Option.filter_eq_some_iff.mp hfound).1

/-- A run advances a generation as often as it releases the slot. -/
theorem generationAt_calls (calls : List TableCall) (i : Nat) :
    ∀ {table : NVDObjectTable} {free : List Nat}, Stored table free →
      (table.calls calls).generationAt i =
        nextGeneration^[(NVDObjectTable.ledger NVDObjectTable.released table calls).count i]
          (table.generationAt i) := by
  induction calls with
  | nil => exact fun _ => rfl
  | cons call rest ih =>
      intro table free h
      obtain ⟨_, hafter, _, _⟩ := h.call call
      change ((table.call call).1.calls rest).generationAt i =
        nextGeneration^[(table.released call ++ NVDObjectTable.ledger NVDObjectTable.released
          (table.call call).1 rest).count i] (table.generationAt i)
      rw [ih hafter, h.generationAt_call, ← Function.iterate_add_apply, List.count_append,
        Nat.add_comm]

/-- An identifier of another generation than its slot is in leads nowhere. -/
theorem denoted_of_generation_ne {id : BitVec 32} {generation : BitVec 16} {i : Nat}
    (hdecode : decodeId id = some (generation, i)) (hother : table.generationAt i ≠ generation) :
    denoted table id = none := by
  unfold denoted
  rw [hdecode]
  exact if_neg hother

end Stored

/-- Nothing is found under this identifier, and nothing is changed. -/
structure Dead (table : NVDObjectTable) (id : BitVec 32) : Prop where
  get : ∀ type, nvdObjectTableGet table type id = none
  remove : nvdObjectTableRemove table id = (table, none)
  removeTyped : ∀ type, nvdObjectTableRemoveTyped table type id = (table, none)

theorem dead_of_denoted {table : NVDObjectTable} {id : BitVec 32}
    (h : denoted table id = none) : Dead table id := by
  constructor
  · intro type
    rw [nvdObjectTableGet_eq, h]
    rfl
  · rw [nvdObjectTableRemove_eq, h]
  · intro type
    rw [nvdObjectTableRemoveTyped_eq, h]
    rfl

/-- A call that removes objects. -/
def TableCall.removal : TableCall → Bool
  | .remove _ => true
  | .removeTyped _ _ => true
  | _ => false

/-- What a removal returns was live, and its slot is released. -/
theorem Stored.removal_answer {table : NVDObjectTable} {free : List Nat} {object : NVDObject}
    (h : Stored table free) (call : TableCall) (hremoval : call.removal = true)
    (hobject : (table.call call).2 = some object) :
    table.Live object ∧ table.released call = [slotOf object.id] := by
  cases call with
  | allocate type payloadSize reallocated allocated => cases hremoval
  | get type id => cases hremoval
  | remove id =>
      change (nvdObjectTableRemove table id).2 = some object at hobject
      have hreleased : table.released (.remove id) = [slotOf object.id] := by
        unfold NVDObjectTable.released
        simp only
        rw [hobject]
        rfl
      rw [remove_answer, h.denoted_iff] at hobject
      exact ⟨hobject.1, hreleased⟩
  | removeTyped type id =>
      change (nvdObjectTableRemoveTyped table type id).2 = some object at hobject
      have hreleased : table.released (.removeTyped type id) = [slotOf object.id] := by
        unfold NVDObjectTable.released
        simp only
        rw [hobject]
        rfl
      rw [removeTyped_answer] at hobject
      have hdenoted := (Option.filter_eq_some_iff.mp hobject).1
      rw [h.denoted_iff] at hdenoted
      exact ⟨hdenoted.1, hreleased⟩

theorem Stored.call_remove {table : NVDObjectTable} {free : List Nat} {object : NVDObject}
    (h : Stored table free) (hlive : table.Live object) :
    (table.call (.remove object.id)).2 = some object :=
  (remove_answer table object.id).trans (h.denoted_label hlive)

/-- The identifier of a removed object stays dead until its slot has been released
65535 times, the removal counted. -/
theorem removed_id_dead (before : List TableCall) (removal : TableCall) (after : List TableCall)
    (object : NVDObject) (hremoval : removal.removal = true)
    (hremoved : ((nvdObjectTableInit.calls before).call removal).2 = some object)
    (hreleases : (NVDObjectTable.ledger NVDObjectTable.released
      (nvdObjectTableInit.calls before) (removal :: after)).count (slotOf object.id) < 65535) :
    Dead ((nvdObjectTableInit.calls before).calls (removal :: after)) object.id := by
  obtain ⟨free, h, _⟩ := stored_calls before
  obtain ⟨hlive, hreleased⟩ := h.removal_answer removal hremoval hremoved
  obtain ⟨_, hdecode⟩ := Stored.at_of_denoted (h.denoted_label hlive)
  apply dead_of_denoted
  apply Stored.denoted_of_generation_ne hdecode
  rw [Stored.generationAt_calls (removal :: after) (slotOf object.id) h]
  refine iterate_nextGeneration_ne (h.generations _) ?_ hreleases
  change 0 < (NVDObjectTable.released _ removal ++ NVDObjectTable.ledger _ _ after).count _
  rw [hreleased, List.count_append, List.count_singleton_self]
  omega

/-- The first object is removed, and its slot of a table of 4096 is not used again by
the next allocation. -/
theorem removed_id_dead_first : ∃ object : NVDObject, object.id = 0x8000 ∧
    Dead ((nvdObjectTableInit.calls [.allocate 2 8 true (some 4096)]).calls
      [.remove 0x8000, .allocate 2 8 true (some 8192)]) object.id := by
  obtain ⟨object, free, hstored, hlive, hlabel⟩ := first_allocation
  have hremoved := hstored.call_remove hlive
  have hreleased := (hstored.removal_answer (.remove object.id) rfl hremoved).2
  rw [hlabel] at hremoved
  refine ⟨object, hlabel, removed_id_dead [.allocate 2 8 true (some 4096)] (.remove 0x8000)
    [.allocate 2 8 true (some 8192)] object rfl hremoved ?_⟩
  rw [← hlabel]
  unfold NVDObjectTable.ledger
  rw [hreleased]
  change ([slotOf object.id] ++ ([] ++ [])).count (slotOf object.id) < 65535
  rw [List.append_nil, List.append_nil, List.count_singleton_self]
  decide

end ObjectTable
end NvidiaVaapi
