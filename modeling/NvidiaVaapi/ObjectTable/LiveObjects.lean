import NvidiaVaapi.ObjectTable.TableRuns

/-!
# The live objects of the table

What allocations and removals do to the set of the live objects, whatever slots these are
in.
-/

namespace NvidiaVaapi
namespace ObjectTable

/-- The live objects are those of another table and one more, which has an identifier of its
own. -/
structure Joined (table after : NVDObjectTable) (object : NVDObject) : Prop where
  live : ∀ other, after.Live other ↔ table.Live other ∨ other = object
  fresh : ∀ other, table.Live other → other.id ≠ object.id

theorem SameSlots.live {first second : NVDObjectTable} (h : SameSlots first second)
    (object : NVDObject) : second.Live object ↔ first.Live object := by
  unfold NVDObjectTable.Live
  rw [h.objects]

/-- An object is put where the C library has found memory for it. -/
theorem nvdObjectTableAllocate_object {table : NVDObjectTable} {type : BitVec 8}
    {payloadSize : BitVec 64} {reallocated : Bool} {allocated : Option Nat} {object : NVDObject}
    (hobject : (nvdObjectTableAllocate table type payloadSize reallocated allocated).2 =
      some object) :
    allocated = some object.address ∧ object.type = type ∧
      (payloadSize ≠ 0 → object.obj = some (object.address + objectSize)) := by
  unfold nvdObjectTableAllocate at hobject
  cases hready : readyTable table type payloadSize reallocated with
  | none =>
      rw [hready] at hobject
      cases hobject
  | some ready =>
      rw [hready] at hobject
      cases allocated with
      | none => cases hobject
      | some address =>
          cases hobject
          exact ⟨rfl, rfl, fun hsize => if_pos hsize⟩

namespace Stored

variable {table : NVDObjectTable} {free : List Nat}

/-- A live object is known by its identifier. -/
theorem live_injective {first second : NVDObject} (h : Stored table free)
    (hfirst : table.Live first) (hsecond : table.Live second) (hid : first.id = second.id) :
    first = second := by
  obtain ⟨i, hi⟩ := hfirst
  obtain ⟨j, hj⟩ := hsecond
  have hslot := h.label_injective hi hj hid
  rw [hslot, hj] at hi
  exact (Option.some.inj hi).symm

/-- An allocation leaves the live objects as they are, or adds one of the given type. -/
theorem allocation_live (h : Stored table free) (type : BitVec 8) (payloadSize : BitVec 64)
    (reallocated : Bool) (allocated : Option Nat) :
    (∃ free', Stored
      (nvdObjectTableAllocate table type payloadSize reallocated allocated).1 free') ∧
    (((nvdObjectTableAllocate table type payloadSize reallocated allocated).2 = none ∧
      ∀ object, (nvdObjectTableAllocate table type payloadSize reallocated allocated).1.Live
        object ↔ table.Live object) ∨
    ∃ object,
      (nvdObjectTableAllocate table type payloadSize reallocated allocated).2 = some object ∧
      Joined table (nvdObjectTableAllocate table type payloadSize reallocated allocated).1
        object) := by
  obtain ⟨free', hafter, -, ⟨hnone, hsame⟩ | ⟨i, object, hsome, -, hfilled⟩⟩ :=
    h.allocation type payloadSize reallocated allocated
  · exact ⟨⟨free', hafter⟩, .inl ⟨hnone, hsame.live⟩⟩
  refine ⟨⟨free', hafter⟩, .inr ⟨object, hsome, fun other => ⟨?_, ?_⟩, fun other hother hid => ?_⟩⟩
  · rintro ⟨j, hj⟩
    rw [hfilled.objects, Function.update_apply] at hj
    split at hj
    · exact .inr (Option.some.inj hj).symm
    · exact .inl ⟨j, hj⟩
  · rintro (⟨j, hj⟩ | rfl)
    · refine ⟨j, ?_⟩
      have hapart : j ≠ i := by
        rintro rfl
        rw [hfilled.empty] at hj
        cases hj
      rw [hfilled.objects, Function.update_of_ne hapart]
      exact hj
    · exact ⟨i, by rw [hfilled.objects, Function.update_self]⟩
  · obtain ⟨j, hj⟩ := hother
    -- The identifier names the slot, which was empty.
    have hslot : j = i := by
      have hj' : nvdObjectTableAt (nvdObjectTableAllocate table type payloadSize reallocated
          allocated).1 j = some other ∨ j = i := by
        by_cases hji : j = i
        · exact .inr hji
        · rw [hfilled.objects, Function.update_of_ne hji]
          exact .inl hj
      rcases hj' with hj' | hji
      · refine hafter.label_injective hj' ?_ hid
        rw [hfilled.objects, Function.update_self]
      · exact hji
    rw [hslot, hfilled.empty] at hj
    cases hj

/-- A removal takes away the object that the identifier leads to. -/
theorem removal_live {id : BitVec 32} {object : NVDObject} (h : Stored table free)
    (hdenoted : denoted table id = some object) :
    (∃ free', Stored (nvdObjectTableRemove table id).1 free') ∧
      ∀ other, (nvdObjectTableRemove table id).1.Live other ↔ table.Live other ∧ other ≠ object := by
  obtain ⟨hobject, -⟩ := at_of_denoted hdenoted
  obtain ⟨hafter, hobjects, -⟩ := h.removed hobject
  rw [nvdObjectTableRemove_eq, hdenoted]
  refine ⟨⟨_, hafter⟩, fun other => ⟨?_, ?_⟩⟩
  · rintro ⟨j, hj⟩
    rw [hobjects, Function.update_apply] at hj
    split at hj
    · cases hj
    · rename_i hapart
      refine ⟨⟨j, hj⟩, ?_⟩
      rintro rfl
      exact hapart (h.label_injective hj hobject rfl)
  · rintro ⟨⟨j, hj⟩, hother⟩
    refine ⟨j, ?_⟩
    have hapart : j ≠ slotOf id := by
      rintro rfl
      rw [hobject] at hj
      exact hother (Option.some.inj hj).symm
    rw [hobjects, Function.update_of_ne hapart]
    exact hj

end Stored

end ObjectTable
end NvidiaVaapi
