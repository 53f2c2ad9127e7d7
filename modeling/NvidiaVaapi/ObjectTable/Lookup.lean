import NvidiaVaapi.ObjectTable.TableRuns

/-!
# The object table as a map from identifiers

An abstract table is a partial map from identifiers to objects.  Decoding drops the
top bit of an identifier, so that a live object answers to two words; away from the
second one the object table refines the map.
-/

namespace NvidiaVaapi
namespace ObjectTable

/-! ## The map -/

/-- Objects by their identifiers. -/
abbrev ObjectMap := BitVec 32 → Option NVDObject

/-- The objects of a type. -/
def ofType (type : BitVec 8) (found : Option NVDObject) : Option NVDObject :=
  found.filter fun object => decide (object.type = type)

/-- What a call does to a map of objects, and what it answers. -/
inductive MapStep (map : ObjectMap) : TableCall → Option NVDObject → ObjectMap → Prop
  | unallocated (type : BitVec 8) (payloadSize : BitVec 64) (reallocated : Bool)
      (allocated : Option Nat) :
      MapStep map (.allocate type payloadSize reallocated allocated) none map
  | allocated (type : BitVec 8) (payloadSize : BitVec 64) (reallocated : Bool)
      (allocated : Option Nat) (object : NVDObject) : object.type = type →
      map object.id = none →
      MapStep map (.allocate type payloadSize reallocated allocated) (some object)
        (Function.update map object.id (some object))
  | got (type : BitVec 8) (id : BitVec 32) :
      MapStep map (.get type id) (ofType type (map id)) map
  | removed (id : BitVec 32) :
      MapStep map (.remove id) (map id) (Function.update map id none)
  | removedTyped (type : BitVec 8) (id : BitVec 32) :
      MapStep map (.removeTyped type id) (ofType type (map id))
        (if (ofType type (map id)).isSome then Function.update map id none else map)

/-- The live objects of a table, each under its own identifier. -/
def NVDObjectTable.liveMap (table : NVDObjectTable) : ObjectMap := fun id =>
  (denoted table id).filter fun object => decide (object.id = id)

/-- No live object answers to this word by its low bits alone. -/
def NVDObjectTable.Unaliased (table : NVDObjectTable) (id : BitVec 32) : Prop :=
  id.msb = false ∨ ∀ object, table.Live object → object.id ≠ withoutTop id

/-- The identifiers in the arguments of a call. -/
def TableCall.ids : TableCall → List (BitVec 32)
  | .allocate _ _ _ _ => []
  | .get _ id => [id]
  | .remove id => [id]
  | .removeTyped _ id => [id]

/-- Lookups and removals by a word find the live object that has exactly this word as its
identifier. -/
structure LookupExact (table : NVDObjectTable) (id : BitVec 32) : Prop where
  get : ∀ type object, nvdObjectTableGet table type id = some object ↔
    table.Live object ∧ object.type = type ∧ object.id = id
  remove : ∀ object, (nvdObjectTableRemove table id).2 = some object ↔
    table.Live object ∧ object.id = id
  removeTyped : ∀ type object, (nvdObjectTableRemoveTyped table type id).2 = some object ↔
    table.Live object ∧ object.type = type ∧ object.id = id

/-! ## Reading the map -/

theorem withoutTop_of_msb {id : BitVec 32} (htop : id.msb = false) : withoutTop id = id := by
  apply BitVec.eq_of_toNat_eq
  rw [withoutTop_toNat]
  exact Nat.mod_eq_of_lt (BitVec.msb_eq_false_iff_two_mul_lt.mp htop |> fun h => by omega)

theorem msb_of_withoutTop {id : BitVec 32} (h : withoutTop id = id) : id.msb = false := by
  have hlow := congrArg BitVec.toNat h
  rw [withoutTop_toNat] at hlow
  apply BitVec.msb_eq_false_iff_two_mul_lt.mpr
  omega

theorem remove_answer (table : NVDObjectTable) (id : BitVec 32) :
    (nvdObjectTableRemove table id).2 = denoted table id := by
  rw [nvdObjectTableRemove_eq]
  cases denoted table id <;> rfl

theorem removeTyped_answer (table : NVDObjectTable) (type : BitVec 8) (id : BitVec 32) :
    (nvdObjectTableRemoveTyped table type id).2 = ofType type (denoted table id) := by
  rw [nvdObjectTableRemoveTyped_eq]
  unfold ofType
  cases (denoted table id).filter fun object => decide (object.type = type) <;> rfl

namespace Stored

variable {table : NVDObjectTable} {free : List Nat}

theorem liveMap_iff (h : Stored table free) (id : BitVec 32) (object : NVDObject) :
    table.liveMap id = some object ↔ table.Live object ∧ object.id = id := by
  unfold NVDObjectTable.liveMap
  rw [Option.filter_eq_some_iff, h.denoted_iff, decide_eq_true_iff]
  constructor
  · rintro ⟨⟨hlive, _⟩, hid⟩
    exact ⟨hlive, hid⟩
  · rintro ⟨hlive, hid⟩
    refine ⟨⟨hlive, ?_⟩, hid⟩
    rw [← hid]
    exact (h.withoutTop_label hlive).symm

/-- Away from the second words of live objects, decoding leads to the map. -/
theorem denoted_of_unaliased {id : BitVec 32} (h : Stored table free)
    (hid : table.Unaliased id) : denoted table id = table.liveMap id := by
  apply Option.ext
  intro object
  rw [h.denoted_iff, h.liveMap_iff]
  rcases hid with htop | hnone
  · rw [withoutTop_of_msb htop]
  · constructor
    · rintro ⟨hlive, hlabel⟩
      exact absurd hlabel (hnone object hlive)
    · rintro ⟨hlive, hlabel⟩
      have htop := h.withoutTop_label hlive
      rw [hlabel] at htop
      exact absurd (hlabel.trans htop.symm) (hnone object hlive)

/-- Exactly on the second words of live objects the lookups go wrong. -/
theorem lookupExact_iff (h : Stored table free) (id : BitVec 32) :
    LookupExact table id ↔ table.Unaliased id := by
  constructor
  · intro hexact
    by_contra hid
    unfold NVDObjectTable.Unaliased at hid
    obtain ⟨htop, hsome⟩ := not_or.mp hid
    simp only [not_forall, not_not] at hsome
    obtain ⟨object, hlive, hlabel⟩ := hsome
    have hdenoted := (h.denoted_iff id object).mpr ⟨hlive, hlabel⟩
    rw [← remove_answer] at hdenoted
    have hsame := ((hexact.remove object).mp hdenoted).2
    exact htop (msb_of_withoutTop (hlabel.symm.trans hsame))
  · intro hid
    have hdenoted := h.denoted_of_unaliased hid
    have htyped : ∀ type object, ofType type (denoted table id) = some object ↔
        table.Live object ∧ object.type = type ∧ object.id = id := by
      intro type object
      unfold ofType
      rw [hdenoted, Option.filter_eq_some_iff, h.liveMap_iff, decide_eq_true_iff]
      constructor
      · rintro ⟨⟨hlive, hlabel⟩, htype⟩
        exact ⟨hlive, htype, hlabel⟩
      · rintro ⟨hlive, htype, hlabel⟩
        exact ⟨⟨hlive, hlabel⟩, htype⟩
    constructor
    · intro type object
      rw [nvdObjectTableGet_eq]
      exact htyped type object
    · intro object
      rw [remove_answer, hdenoted, h.liveMap_iff]
    · intro type object
      rw [removeTyped_answer]
      exact htyped type object

/-! ## Following the map -/

theorem liveMap_of_sameSlots {after : NVDObjectTable} (hsame : SameSlots table after) :
    after.liveMap = table.liveMap := by
  funext id
  unfold NVDObjectTable.liveMap
  rw [hsame.denoted]

theorem liveMap_of_filled {after : NVDObjectTable} {free' : List Nat} {i : Nat}
    {object : NVDObject} (h : Stored table free) (hafter : Stored after free')
    (hfilled : Filled table after i object) :
    table.liveMap object.id = none ∧
      after.liveMap = Function.update table.liveMap object.id (some object) := by
  have hplace : nvdObjectTableAt after i = some object := by
    rw [hfilled.objects]
    exact Function.update_self _ _ _
  have hold : ∀ {j : Nat} {other : NVDObject}, nvdObjectTableAt table j = some other →
      nvdObjectTableAt after j = some other := by
    intro j other hother
    have hapart : j ≠ i := by
      rintro rfl
      rw [hfilled.empty] at hother
      cases hother
    rw [hfilled.objects, Function.update_of_ne hapart]
    exact hother
  have hnone : table.liveMap object.id = none := by
    rw [Option.eq_none_iff_forall_ne_some]
    intro other hother
    obtain ⟨⟨j, hj⟩, hlabel⟩ := (h.liveMap_iff object.id other).mp hother
    have hsame := hafter.label_injective (hold hj) hplace hlabel
    rw [hsame, hfilled.empty] at hj
    cases hj
  refine ⟨hnone, ?_⟩
  funext id
  apply Option.ext
  intro other
  rw [hafter.liveMap_iff, Function.update_apply]
  split
  · rename_i hid
    constructor
    · rintro ⟨⟨j, hj⟩, hlabel⟩
      have hsame := hafter.label_injective hj hplace (hlabel.trans hid)
      rw [hsame, hplace] at hj
      exact hj
    · intro hother
      cases hother
      exact ⟨⟨i, hplace⟩, hid.symm⟩
  · rename_i hid
    rw [h.liveMap_iff]
    constructor
    · rintro ⟨⟨j, hj⟩, hlabel⟩
      refine ⟨⟨j, ?_⟩, hlabel⟩
      have hapart : j ≠ i := by
        rintro rfl
        rw [hplace] at hj
        cases hj
        exact hid hlabel.symm
      rw [hfilled.objects, Function.update_of_ne hapart] at hj
      exact hj
    · rintro ⟨⟨j, hj⟩, hlabel⟩
      exact ⟨⟨j, hold hj⟩, hlabel⟩

theorem liveMap_removed {id : BitVec 32} {object : NVDObject} (h : Stored table free)
    (hdenoted : denoted table id = some object) :
    (ObjectTable.removed table (slotOf id)).liveMap =
      Function.update table.liveMap object.id none := by
  obtain ⟨hobject, _⟩ := at_of_denoted hdenoted
  obtain ⟨hafter, hobjects, _⟩ := h.removed hobject
  funext other
  apply Option.ext
  intro found
  rw [hafter.liveMap_iff, Function.update_apply]
  split
  · rename_i hid
    constructor
    · rintro ⟨⟨j, hj⟩, hlabel⟩
      rw [hobjects, Function.update_apply] at hj
      split at hj
      · cases hj
      · rename_i hapart
        exact absurd (h.label_injective hj hobject (hlabel.trans hid)) hapart
    · nofun
  · rename_i hid
    rw [h.liveMap_iff]
    constructor
    · rintro ⟨⟨j, hj⟩, hlabel⟩
      refine ⟨⟨j, ?_⟩, hlabel⟩
      rw [hobjects, Function.update_apply] at hj
      split at hj
      · cases hj
      · exact hj
    · rintro ⟨⟨j, hj⟩, hlabel⟩
      refine ⟨⟨j, ?_⟩, hlabel⟩
      have hapart : j ≠ slotOf id := by
        rintro rfl
        rw [hobject] at hj
        cases hj
        exact hid hlabel.symm
      rw [hobjects, Function.update_of_ne hapart]
      exact hj

theorem liveMap_remove {id : BitVec 32} (h : Stored table free) (hid : table.Unaliased id) :
    (nvdObjectTableRemove table id).1.liveMap = Function.update table.liveMap id none := by
  have hdenoted := h.denoted_of_unaliased hid
  rw [nvdObjectTableRemove_eq]
  cases hfound : denoted table id with
  | none =>
      rw [hdenoted] at hfound
      change table.liveMap = _
      rw [← hfound, Function.update_eq_self]
  | some object =>
      have hlabel : object.id = id := by
        rw [hdenoted, h.liveMap_iff] at hfound
        exact hfound.2
      have hmap := h.liveMap_removed hfound
      rw [hlabel] at hmap
      exact hmap

/-- A call by words that no object answers to by its low bits alone is a step of the map. -/
theorem mapStep (h : Stored table free) (call : TableCall)
    (hids : ∀ id ∈ call.ids, table.Unaliased id) :
    MapStep table.liveMap call (table.call call).2 (table.call call).1.liveMap := by
  cases call with
  | allocate type payloadSize reallocated allocated =>
      obtain ⟨free', hafter, _, heffect⟩ := h.allocation type payloadSize reallocated allocated
      change MapStep _ _ (nvdObjectTableAllocate table type payloadSize reallocated allocated).2
        (nvdObjectTableAllocate table type payloadSize reallocated allocated).1.liveMap
      rcases heffect with ⟨hnone, hsame⟩ | ⟨i, object, hsome, htype, hfilled⟩
      · rw [hnone, liveMap_of_sameSlots hsame]
        exact .unallocated type payloadSize reallocated allocated
      · obtain ⟨hfresh, hmap⟩ := h.liveMap_of_filled hafter hfilled
        rw [hsome, hmap]
        exact .allocated type payloadSize reallocated allocated object htype hfresh
  | get type id =>
      have hdenoted := h.denoted_of_unaliased (hids id List.mem_cons_self)
      change MapStep _ _ (nvdObjectTableGet table type id) table.liveMap
      rw [nvdObjectTableGet_eq, hdenoted]
      exact .got type id
  | remove id =>
      have hid := hids id List.mem_cons_self
      change MapStep _ _ (nvdObjectTableRemove table id).2
        (nvdObjectTableRemove table id).1.liveMap
      rw [remove_answer, h.denoted_of_unaliased hid, h.liveMap_remove hid]
      exact .removed id
  | removeTyped type id =>
      have hid := hids id List.mem_cons_self
      have hmap : (nvdObjectTableRemoveTyped table type id).1.liveMap =
          if (ofType type (table.liveMap id)).isSome then Function.update table.liveMap id none
          else table.liveMap := by
        unfold nvdObjectTableRemoveTyped
        rw [nvdObjectTableGet_eq, h.denoted_of_unaliased hid]
        change NVDObjectTable.liveMap
          (if (ofType type (table.liveMap id)).isSome then _ else _ : NVDObjectTable × _).1 = _
        split
        · exact h.liveMap_remove hid
        · rfl
      change MapStep _ _ (nvdObjectTableRemoveTyped table type id).2
        (nvdObjectTableRemoveTyped table type id).1.liveMap
      rw [removeTyped_answer, h.denoted_of_unaliased hid, hmap]
      exact .removedTyped type id

end Stored

/-- In every table that calls lead to: a word is looked up exactly if and only if no
live object answers to it by its low bits alone, two such words never lead to the same
object, and calls by such words are the steps of a map from identifiers to objects. -/
theorem lookup_exact_iff (calls : List TableCall) :
    (∀ id, LookupExact (nvdObjectTableInit.calls calls) id ↔
      (nvdObjectTableInit.calls calls).Unaliased id) ∧
    (∀ first second firstType secondType object,
      (nvdObjectTableInit.calls calls).Unaliased first →
      (nvdObjectTableInit.calls calls).Unaliased second →
      nvdObjectTableGet (nvdObjectTableInit.calls calls) firstType first = some object →
      nvdObjectTableGet (nvdObjectTableInit.calls calls) secondType second = some object →
      first = second) ∧
    ∀ call, (∀ id ∈ call.ids, (nvdObjectTableInit.calls calls).Unaliased id) →
      MapStep (nvdObjectTableInit.calls calls).liveMap call
        ((nvdObjectTableInit.calls calls).call call).2
        ((nvdObjectTableInit.calls calls).call call).1.liveMap := by
  obtain ⟨free, h, _⟩ := stored_calls calls
  refine ⟨h.lookupExact_iff, ?_, h.mapStep⟩
  intro first second firstType secondType object hfirst hsecond hgot hgot'
  have hlabel := ((((h.lookupExact_iff first).mpr hfirst).get firstType object).mp hgot).2.2
  have hlabel' := ((((h.lookupExact_iff second).mpr hsecond).get secondType object).mp hgot').2.2
  exact hlabel.symm.trans hlabel'

/-- The first allocation puts an object of the first generation into slot zero. -/
theorem first_allocation : ∃ object free,
    Stored (nvdObjectTableInit.calls [.allocate 2 8 true (some 4096)]) free ∧
      (nvdObjectTableInit.calls [.allocate 2 8 true (some 4096)]).Live object ∧
      object.id = 0x8000 := by
  have hready : readyTable nvdObjectTableInit 2 8 true =
      some (nvdObjectTableInit.extend initialCapacity) := rfl
  obtain ⟨i, rest, hlist, hstored, hsame⟩ := stored_init.ready hready
  have hfirst : i = 0 := (List.cons.inj hlist).1.symm
  obtain ⟨after, object, htaken, hafter, _, hid, hobjects, _⟩ :=
    hstored.takeSlot_some 2 8 4096
  have hcalls : nvdObjectTableInit.calls [.allocate 2 8 true (some 4096)] = after := by
    show (nvdObjectTableAllocate nvdObjectTableInit 2 8 true (some 4096)).1 = after
    unfold nvdObjectTableAllocate
    rw [hready]
    exact congrArg Prod.fst htaken
  rw [hcalls]
  refine ⟨object, rest, hafter, ⟨i, ?_⟩, ?_⟩
  · rw [hobjects]
    exact Function.update_self _ _ _
  · rw [hid, hsame.generations, hfirst]
    rfl

/-- The word with the top bit set on the identifier of the first object leads to it too. -/
theorem second_word_denotes : ¬∀ calls id, LookupExact (nvdObjectTableInit.calls calls) id := by
  intro hexact
  obtain ⟨object, free, hstored, hlive, hlabel⟩ := first_allocation
  have hword := hexact [.allocate 2 8 true (some 4096)] 0x80008000
  rw [hstored.lookupExact_iff] at hword
  rcases hword with htop | hnone
  · exact absurd htop (by decide)
  · refine hnone object hlive ?_
    rw [hlabel]
    rfl

end ObjectTable
end NvidiaVaapi
