import Mathlib.Data.List.Induction
import NvidiaVaapi.Surface.ImportBounds

/-!
# What the parser of imports makes of a list of attributes

An import that it calls valid is well formed, and the list counts only by the last
attribute of each type whose value is of the kind the type asks for.
-/

namespace NvidiaVaapi
namespace Surface

/-! ## Valid imports -/

/-- An import that the creation of surfaces may go by. -/
structure ImportedSurface.WellFormed (imported : ImportedSurface) : Prop where
  objectCount : 1 ≤ imported.numObjects ∧ imported.numObjects ≤ maxImportedObjects
  planeCount : 1 ≤ imported.numPlanes ∧ imported.numPlanes ≤ maxImportedPlanes
  objectIndex : ∀ i < imported.numPlanes, (imported.planes i).objectIndex < imported.numObjects
  fd : ∀ i < imported.numObjects, 0 ≤ (imported.objects i).fd
  dataSize : imported.dataSize =
    ((List.range imported.numObjects).map fun i => (imported.objects i).size).sum
  legacyBuffers : imported.legacyPrime = true →
    ∀ i < imported.numLegacyBuffers, imported.legacyBuffers i ≤ intMax

/-- The loop over the objects, where it comes to its end. -/
theorem parseObjects_spec {desc : VADRMPRIMESurfaceDescriptor} {list : List Nat}
    {imported imported' : ImportedSurface}
    (hparse : parseObjects desc list imported = (true, imported')) :
    (∀ i ∈ list, 0 ≤ (desc.objects i).fd) ∧
    (∀ i, imported'.objects i = if i ∈ list then
      ⟨(desc.objects i).fd, (desc.objects i).size, (desc.objects i).drmFormatModifier⟩
      else imported.objects i) ∧
    imported'.dataSize = imported.dataSize + (list.map fun i => (desc.objects i).size).sum ∧
    (imported.dataSize ≤ uint64Max → imported'.dataSize ≤ uint64Max) ∧
    imported'.legacyPrime = imported.legacyPrime := by
  induction list generalizing imported with
  | nil =>
      cases hparse
      simp
  | cons i rest ih =>
      unfold parseObjects at hparse
      simp only at hparse
      split at hparse
      · cases hparse
      · rename_i haccepted
        obtain ⟨hfds, hobjects, hsize, hbound, hlegacy⟩ := ih hparse
        have hfd : ¬(desc.objects i).fd < 0 := fun h => haccepted (.inl h)
        have hfits : ¬uint64Max - imported.dataSize < (desc.objects i).size :=
          fun h => haccepted (.inr h)
        refine ⟨?_, ?_, ?_, ?_, hlegacy⟩
        · intro j hj
          rcases List.mem_cons.mp hj with rfl | hrest
          · omega
          · exact hfds j hrest
        · intro j
          rw [hobjects j]
          by_cases hrest : j ∈ rest
          · rw [if_pos hrest, if_pos (List.mem_cons_of_mem _ hrest)]
          · rw [if_neg hrest]
            show Function.update imported.objects i _ j = _
            by_cases hji : j = i
            · rw [hji, Function.update_self, if_pos List.mem_cons_self]
            · rw [Function.update_of_ne hji, if_neg]
              rw [List.mem_cons]
              exact fun h => h.elim hji hrest
        · rw [hsize, List.map_cons, List.sum_cons, Nat.add_assoc]
        · intro hbefore
          exact hbound (by show imported.dataSize + (desc.objects i).size ≤ _; omega)

/-- What the loops over the planes leave of an import. -/
structure PlanesParsed (planes planes' : Nat) (imported imported' : ImportedSurface) :
    Prop where
  objects : imported'.objects = imported.objects
  numObjects : imported'.numObjects = imported.numObjects
  dataSize : imported'.dataSize = imported.dataSize
  legacyPrime : imported'.legacyPrime = imported.legacyPrime
  objectIndex : (∀ i < planes, (imported.planes i).objectIndex < imported.numObjects) →
    ∀ i < planes', (imported'.planes i).objectIndex < imported'.numObjects

theorem PlanesParsed.refl (planes : Nat) (imported : ImportedSurface) :
    PlanesParsed planes planes imported imported :=
  ⟨rfl, rfl, rfl, rfl, id⟩

theorem PlanesParsed.trans {a b c : Nat} {first second third : ImportedSurface}
    (h : PlanesParsed a b first second) (h' : PlanesParsed b c second third) :
    PlanesParsed a c first third where
  objects := h'.objects.trans h.objects
  numObjects := h'.numObjects.trans h.numObjects
  dataSize := h'.dataSize.trans h.dataSize
  legacyPrime := h'.legacyPrime.trans h.legacyPrime
  objectIndex hplanes := h'.objectIndex (h.objectIndex hplanes)

theorem parsePlanes_spec {layer : PrimeLayer} {list : List Nat} {planes planes' : Nat}
    {imported imported' : ImportedSurface}
    (hparse : parsePlanes layer list (planes, imported) = (true, planes', imported')) :
    PlanesParsed planes planes' imported imported' := by
  induction list generalizing planes imported with
  | nil =>
      cases hparse
      exact .refl _ _
  | cons plane rest ih =>
      unfold parsePlanes at hparse
      split at hparse
      · cases hparse
      · rename_i haccepted
        have hindex : ¬layer.objectIndex plane ≥ imported.numObjects :=
          fun h => haccepted (.inr h)
        have hstep : PlanesParsed planes (planes + 1) imported { imported with
            planes := Function.update imported.planes planes
              ⟨layer.objectIndex plane, layer.offset plane, layer.pitch plane⟩ } := by
          refine ⟨rfl, rfl, rfl, rfl, fun hplanes i hi => ?_⟩
          show (Function.update imported.planes planes _ i).objectIndex < imported.numObjects
          by_cases hnew : i = planes
          · rw [hnew, Function.update_self]
            exact Nat.lt_of_not_le hindex
          · rw [Function.update_of_ne hnew]
            exact hplanes i (by omega)
        exact hstep.trans (ih hparse)

theorem parseLayers_spec {desc : VADRMPRIMESurfaceDescriptor} {list : List Nat}
    {planes planes' : Nat} {imported imported' : ImportedSurface}
    (hparse : parseLayers desc list (planes, imported) = (true, planes', imported')) :
    PlanesParsed planes planes' imported imported' := by
  induction list generalizing planes imported with
  | nil =>
      cases hparse
      exact .refl _ _
  | cons layer rest ih =>
      unfold parseLayers at hparse
      simp only at hparse
      split at hparse
      · cases hparse
      · split at hparse
        · rename_i parsed hplanes
          exact (parsePlanes_spec hplanes).trans (ih hparse)
        · cases hparse

/-- A valid import from a descriptor with several objects is well formed. -/
theorem parsePrime2Descriptor_wellFormed {desc : VADRMPRIMESurfaceDescriptor}
    {imported : ImportedSurface} (hbefore : imported.valid = false)
    (hempty : imported.dataSize = 0) (hlegacy : imported.legacyPrime = false)
    (hvalid : (parsePrime2Descriptor desc imported).valid = true) :
    (parsePrime2Descriptor desc imported).WellFormed ∧
      (parsePrime2Descriptor desc imported).dataSize ≤ uint64Max := by
  unfold parsePrime2Descriptor at hvalid ⊢
  simp only at hvalid ⊢
  split at hvalid
  · rw [hbefore] at hvalid
    cases hvalid
  · rename_i hcounts
    rw [if_neg hcounts]
    have hsome : desc.numObjects ≠ 0 := fun h => hcounts (.inr (.inr (.inl h)))
    have hfew : ¬desc.numObjects > maxImportedObjects :=
      fun h => hcounts (.inr (.inr (.inr h)))
    split at hvalid
    · rename_i imported1 hobjects
      rw [(parseObjects_counts hobjects).2, hbefore] at hvalid
      cases hvalid
    · rename_i imported1 hobjects
      have hnum : imported1.numObjects = desc.numObjects := (parseObjects_counts hobjects).1
      obtain ⟨hfds, hread, hsize, hfits, hprime⟩ := parseObjects_spec hobjects
      split at hvalid
      · rename_i planes imported2 hlayers
        rw [(parseLayers_counts (Nat.zero_le _) hlayers).2.2, (parseObjects_counts hobjects).2,
          hbefore] at hvalid
        cases hvalid
      · rename_i planes imported2 hlayers
        have hparsed := parseLayers_spec hlayers
        have hpositive : 0 < planes := by simpa using hvalid
        have hobject : ∀ i < desc.numObjects, imported2.objects i =
            ⟨(desc.objects i).fd, (desc.objects i).size,
              (desc.objects i).drmFormatModifier⟩ := by
          intro i hi
          rw [hparsed.objects, hread i, if_pos (List.mem_range.mpr hi)]
        have hnum2 : imported2.numObjects = desc.numObjects := hparsed.numObjects.trans hnum
        refine ⟨⟨?_, ?_, ?_, ?_, ?_, ?_⟩, ?_⟩
        · show 1 ≤ imported2.numObjects ∧ imported2.numObjects ≤ maxImportedObjects
          omega
        · exact ⟨hpositive, (parseLayers_counts (Nat.zero_le _) hlayers).1⟩
        · exact hparsed.objectIndex fun i hi => absurd hi (Nat.not_lt_zero i)
        · intro i hi
          have hin : i < desc.numObjects := hnum2 ▸ hi
          show 0 ≤ (imported2.objects i).fd
          rw [hobject i hin]
          exact hfds i (List.mem_range.mpr hin)
        · show imported2.dataSize =
            ((List.range imported2.numObjects).map fun i => (imported2.objects i).size).sum
          rw [hparsed.dataSize, hsize, hnum2]
          simp only [hempty, Nat.zero_add]
          refine congrArg List.sum (List.map_congr_left fun i hi => ?_)
          rw [hobject i (List.mem_range.mp hi)]
        · intro hprime2
          have hfalse : imported2.legacyPrime = false :=
            (hparsed.legacyPrime.trans hprime).trans hlegacy
          rw [show imported2.legacyPrime = true from hprime2] at hfalse
          cases hfalse
        · show imported2.dataSize ≤ uint64Max
          rw [hparsed.dataSize]
          exact hfits (by simp [hempty])

/-- A valid import from an old descriptor is well formed. -/
theorem parsePrimeDescriptor_wellFormed {ext : VASurfaceAttribExternalBuffers}
    {imported : ImportedSurface} (hbefore : imported.valid = false)
    (hvalid : (parsePrimeDescriptor ext imported).valid = true) :
    (parsePrimeDescriptor ext imported).WellFormed ∧
      (parsePrimeDescriptor ext imported).dataSize = ext.dataSize := by
  have hbounded := parsePrimeDescriptor_bounded hbefore hvalid
  unfold parsePrimeDescriptor at hvalid hbounded ⊢
  simp only at hvalid hbounded ⊢
  split at hvalid
  · rw [hbefore] at hvalid
    cases hvalid
  · rename_i hcounts
    rw [if_neg hcounts] at hbounded ⊢
    split at hvalid
    · rw [hbefore] at hvalid
      cases hvalid
    · rename_i hfds
      rw [if_neg hfds] at hbounded ⊢
      have hplanes : ext.numPlanes ≠ 0 := fun h => hcounts (.inl h)
      refine ⟨⟨⟨Nat.le_refl 1, show (1 : Nat) ≤ 4 by omega⟩, ⟨Nat.pos_of_ne_zero hplanes, hbounded.2⟩,
        ?_, ?_, ?_, ?_⟩, rfl⟩
      · intro i hi
        simp only [if_pos hi]
        exact Nat.one_pos
      · intro i hi
        obtain rfl : i = 0 := Nat.lt_one_iff.mp hi
        simp only [Function.update_self]
        exact Int.natCast_nonneg _
      · simp [List.range_succ]
      · intro _ i hi
        simp only [List.any_eq_true, List.mem_range, decide_eq_true_eq, not_exists,
          not_and] at hfds
        exact Nat.le_of_not_lt (hfds i hi)

/-! ## Attributes -/

/-- The value is of the kind that the type of the attribute asks for. -/
def VASurfaceAttrib.wellTyped : VASurfaceAttrib → Bool
  | ⟨.memoryType, .integer _⟩ => true
  | ⟨.externalBufferDescriptor, .pointer _⟩ => true
  | ⟨.pixelFormat, .integer _⟩ => true
  | _ => false

/-- The last attribute of a type whose value is well typed. -/
def lastWellTyped (type : VASurfaceAttribType) (attribList : List VASurfaceAttrib) :
    Option VASurfaceAttrib :=
  (attribList.filter fun attrib => attrib.type = type && attrib.wellTyped).getLast?

/-- The integer of an attribute as the 32 bits of the code. -/
def attribInteger : Option VASurfaceAttrib → Nat
  | some ⟨_, .integer i⟩ => (i % 2 ^ 32).toNat
  | _ => 0

/-- The pointer of an attribute. -/
def attribPointer : Option VASurfaceAttrib → Option ExternalDescriptor
  | some ⟨_, .pointer p⟩ => p
  | _ => none

theorem lastWellTyped_append_singleton (type : VASurfaceAttribType)
    (attribList : List VASurfaceAttrib) (attrib : VASurfaceAttrib) :
    lastWellTyped type (attribList ++ [attrib]) =
      if attrib.type = type && attrib.wellTyped then some attrib
      else lastWellTyped type attribList := by
  unfold lastWellTyped
  rw [List.filter_append, List.filter_singleton]
  cases attrib.type = type && attrib.wellTyped
  · rw [cond_false, List.append_nil, if_neg Bool.false_ne_true]
  · rw [cond_true, if_pos rfl, List.getLast?_concat]

/-- The loop over the attributes keeps the last ones that are well typed. -/
theorem foldl_parseAttribute (attribList : List VASurfaceAttrib) :
    attribList.foldl parseAttribute ({}, none) =
      ({ memoryType := attribInteger (lastWellTyped .memoryType attribList)
         pixelFormat := attribInteger (lastWellTyped .pixelFormat attribList) },
        attribPointer (lastWellTyped .externalBufferDescriptor attribList)) := by
  induction attribList using List.reverseRecOn with
  | nil => rfl
  | append_singleton attribList attrib ih =>
      rw [List.foldl_append, ih, List.foldl_cons, List.foldl_nil]
      simp only [lastWellTyped_append_singleton]
      obtain ⟨type, value⟩ := attrib
      cases type <;> cases value <;> rfl

/-- A list counts by its last well-typed attribute of each type. -/
theorem parseSurfaceImportAttributes_congr {attribList attribList' : List VASurfaceAttrib}
    (hlast : ∀ type, lastWellTyped type attribList = lastWellTyped type attribList') :
    parseSurfaceImportAttributes attribList = parseSurfaceImportAttributes attribList' := by
  unfold parseSurfaceImportAttributes
  rw [foldl_parseAttribute, foldl_parseAttribute, hlast, hlast, hlast]

/-- Attributes of different types may change places. -/
theorem lastWellTyped_congr {attribList attribList' : List VASurfaceAttrib}
    {type : VASurfaceAttribType}
    (hsame : (attribList.filter fun attrib => attrib.type = type) =
      attribList'.filter fun attrib => attrib.type = type) :
    lastWellTyped type attribList = lastWellTyped type attribList' := by
  have hsplit : ∀ list : List VASurfaceAttrib,
      (list.filter fun attrib => attrib.type = type && attrib.wellTyped) =
        (list.filter fun attrib => attrib.type = type).filter VASurfaceAttrib.wellTyped := by
    intro list
    rw [List.filter_filter]
    refine List.filter_congr fun attrib _ => ?_
    rw [Bool.and_comm]
  unfold lastWellTyped
  rw [hsplit, hsplit, hsame]

/-- The descriptor is that of an attribute of the list. -/
theorem exists_of_attribPointer {attribList : List VASurfaceAttrib}
    {type : VASurfaceAttribType} {descriptor : ExternalDescriptor}
    (hpointer : attribPointer (lastWellTyped type attribList) = some descriptor) :
    ∃ attrib ∈ attribList, attrib.value = .pointer (some descriptor) := by
  cases hlast : lastWellTyped type attribList with
  | none =>
      rw [hlast] at hpointer
      cases hpointer
  | some attrib =>
      have hmem := (List.mem_filter.mp (List.mem_of_getLast? hlast)).1
      rw [hlast] at hpointer
      refine ⟨attrib, hmem, ?_⟩
      obtain ⟨type, value⟩ := attrib
      cases value with
      | pointer p => exact congrArg VAGenericValue.pointer hpointer
      | integer i => cases hpointer
      | other => cases hpointer

/-- A valid import is well formed, and its size fits 64 bits where the fields of the
descriptors have their widths. -/
theorem parseSurfaceImportAttributes_wellFormed {attribList : List VASurfaceAttrib}
    (hvalid : (parseSurfaceImportAttributes attribList).valid = true) :
    (parseSurfaceImportAttributes attribList).WellFormed ∧
      ((∀ attrib ∈ attribList, ∀ descriptor, attrib.value = .pointer (some descriptor) →
        descriptor.prime.dataSize < 2 ^ 32) →
        (parseSurfaceImportAttributes attribList).dataSize ≤ uint64Max) := by
  unfold parseSurfaceImportAttributes at hvalid ⊢
  rw [foldl_parseAttribute] at hvalid ⊢
  cases hpointer : attribPointer (lastWellTyped .externalBufferDescriptor attribList) with
  | none =>
      rw [hpointer] at hvalid
      cases hvalid
  | some descriptor =>
      rw [hpointer] at hvalid
      simp only at hvalid ⊢
      split at hvalid
      · rename_i hprime2
        rw [if_pos hprime2]
        obtain ⟨hwell, hsize⟩ := parsePrime2Descriptor_wellFormed rfl rfl rfl hvalid
        exact ⟨hwell, fun _ => hsize⟩
      · rename_i hprime2
        rw [if_neg hprime2]
        split at hvalid
        · rename_i hprime
          rw [if_pos hprime]
          obtain ⟨hwell, hsize⟩ := parsePrimeDescriptor_wellFormed rfl hvalid
          refine ⟨hwell, fun htyped => ?_⟩
          obtain ⟨attrib, hattrib, hvalue⟩ := exists_of_attribPointer hpointer
          have hfits := htyped attrib hattrib descriptor hvalue
          rw [hsize]
          unfold uint64Max
          omega
        · cases hvalid

/-! ## The import of one surface -/

/-- The import of surface `i`: its own buffer of an old descriptor. -/
def ImportedSurface.forSurface (imported : ImportedSurface) (i : Nat) : ImportedSurface :=
  if imported.legacyPrime then { imported with
    objects := Function.update imported.objects 0
      { imported.objects 0 with fd := imported.legacyBuffers i } }
  else imported

/-- The selection succeeds where the number of surfaces is the one that the import is
for. -/
theorem ImportedSurface.WellFormed.select {imported : ImportedSurface}
    (hwell : imported.WellFormed) (hvalid : imported.valid = true) {i n : Nat} (hi : i < n) :
    importedSurfaceSelectIndex imported i n =
      if n = (if imported.legacyPrime then imported.numLegacyBuffers else 1)
        then some (imported.forSurface i) else none := by
  unfold importedSurfaceSelectIndex ImportedSurface.forSurface
  rw [if_neg (by rw [hvalid]; simp; omega)]
  cases hlegacy : imported.legacyPrime with
  | false => simp
  | true =>
      simp only [not_true_eq_false, if_false, if_true]
      by_cases hcount : n = imported.numLegacyBuffers
      · have hbuffer := hwell.legacyBuffers hlegacy i (hcount ▸ hi)
        rw [if_pos hcount, if_neg (by omega)]
      · rw [if_neg hcount, if_pos (.inl (Ne.symm hcount))]

/-- Parsing is canonical: a valid import is well formed; a list counts by its last
well-typed attribute of each type, so that attributes of different types may change places;
and one surface of several gets its own buffer, if the number of surfaces is the one that
the import is for. -/
theorem parseSurfaceImportAttributes_canonical :
    (∀ attribList, (parseSurfaceImportAttributes attribList).valid = true →
      (parseSurfaceImportAttributes attribList).WellFormed ∧
      ((∀ attrib ∈ attribList, ∀ descriptor, attrib.value = .pointer (some descriptor) →
        descriptor.prime.dataSize < 2 ^ 32) →
        (parseSurfaceImportAttributes attribList).dataSize ≤ uint64Max)) ∧
    (∀ attribList attribList',
      (∀ type, lastWellTyped type attribList = lastWellTyped type attribList') →
      parseSurfaceImportAttributes attribList = parseSurfaceImportAttributes attribList') ∧
    (∀ attribList attribList' : List VASurfaceAttrib,
      (∀ type, (attribList.filter fun attrib => attrib.type = type) =
        attribList'.filter fun attrib => attrib.type = type) →
      parseSurfaceImportAttributes attribList = parseSurfaceImportAttributes attribList') ∧
    ∀ attribList i n, i < n →
      ((importedSurfaceSelectIndex (parseSurfaceImportAttributes attribList) i n).isSome ↔
        (parseSurfaceImportAttributes attribList).valid = true ∧
          ((parseSurfaceImportAttributes attribList).legacyPrime = false ∧ n = 1 ∨
            (parseSurfaceImportAttributes attribList).legacyPrime = true ∧
            n = (parseSurfaceImportAttributes attribList).numLegacyBuffers)) ∧
      ∀ selected,
        importedSurfaceSelectIndex (parseSurfaceImportAttributes attribList) i n =
          some selected →
        selected = (parseSurfaceImportAttributes attribList).forSurface i := by
  refine ⟨fun _ hvalid => parseSurfaceImportAttributes_wellFormed hvalid,
    fun _ _ hlast => parseSurfaceImportAttributes_congr hlast, ?_, ?_⟩
  · intro attribList attribList' hsame
    exact parseSurfaceImportAttributes_congr fun type => lastWellTyped_congr (hsame type)
  · intro attribList i n hi
    generalize himported : parseSurfaceImportAttributes attribList = imported
    cases hvalid : imported.valid with
    | false =>
        have hnone : importedSurfaceSelectIndex imported i n = none := by
          unfold importedSurfaceSelectIndex
          rw [if_pos (.inl (by rw [hvalid]; exact Bool.false_ne_true))]
        rw [hnone]
        simp
    | true =>
        have hwell : imported.WellFormed := by
          rw [← himported] at hvalid ⊢
          exact (parseSurfaceImportAttributes_wellFormed hvalid).1
        rw [hwell.select hvalid hi]
        constructor
        · cases imported.legacyPrime <;> simp
        · intro selected hselected
          obtain ⟨-, hsame⟩ := Option.ite_none_right_eq_some.mp hselected
          exact (Option.some.inj hsame).symm

/-- A picture of two planes on an object each. -/
def twoObjectDescriptor : VADRMPRIMESurfaceDescriptor where
  width := 64
  height := 64
  numObjects := 2
  objects := fun i => ⟨if i = 0 then 21 else 22, 4096, 0⟩
  numLayers := 2
  layers := fun layer => { numPlanes := 1, objectIndex := fun _ => layer }

/-- The attributes of its import. -/
def twoObjectAttributes : List VASurfaceAttrib :=
  [⟨.memoryType, .integer 0x40000000⟩,
    ⟨.externalBufferDescriptor, .pointer (some { prime2 := twoObjectDescriptor })⟩]

/-- It is imported, and only as one surface. -/
theorem parseSurfaceImportAttributes_twoObjects :
    (parseSurfaceImportAttributes twoObjectAttributes).WellFormed ∧
    parseSurfaceImportAttributes twoObjectAttributes =
      parseSurfaceImportAttributes twoObjectAttributes.reverse ∧
    (importedSurfaceSelectIndex (parseSurfaceImportAttributes twoObjectAttributes) 0 1).isSome ∧
    ¬(importedSurfaceSelectIndex (parseSurfaceImportAttributes twoObjectAttributes) 0 2).isSome := by
  obtain ⟨hvalid, -, horder, hselect⟩ := parseSurfaceImportAttributes_canonical
  refine ⟨(hvalid _ (by decide)).1, horder _ _ ?_, ?_, ?_⟩
  · intro type
    cases type <;> rfl
  · exact (hselect _ 0 1 (by omega)).1.mpr ⟨by decide, .inl ⟨by decide, rfl⟩⟩
  · rw [(hselect _ 0 2 (by omega)).1]
    decide

end Surface
end NvidiaVaapi
