import NvidiaVaapi.Surface.Import

/-!
# What a descriptor can ask for

However the descriptor of an application looks, an import that the parser calls valid fits
the arrays of a backing image, and every plane of it is on one of its objects.
-/

namespace NvidiaVaapi
namespace Surface

/-- The objects and planes of an import fit the arrays of a backing image. -/
def ImportedSurface.Bounded (imported : ImportedSurface) : Prop :=
  imported.numObjects ≤ 4 ∧ imported.numPlanes ≤ 4

/-- The loop over the objects changes none of the counts. -/
theorem parseObjects_counts {desc : VADRMPRIMESurfaceDescriptor} {list : List Nat}
    {imported imported' : ImportedSurface} {result : Bool}
    (hparse : parseObjects desc list imported = (result, imported')) :
    imported'.numObjects = imported.numObjects ∧ imported'.valid = imported.valid := by
  induction list generalizing imported with
  | nil =>
      cases hparse
      exact ⟨rfl, rfl⟩
  | cons i rest ih =>
      unfold parseObjects at hparse
      simp only at hparse
      split at hparse
      · cases hparse
        exact ⟨rfl, rfl⟩
      · have hrest := ih hparse
        exact hrest

/-- The loop over the planes of a layer does not pass the last plane of the array. -/
theorem parsePlanes_counts {layer : PrimeLayer} {list : List Nat} {planes planes' : Nat}
    {imported imported' : ImportedSurface} {result : Bool} (hbound : planes ≤ maxImportedPlanes)
    (hparse : parsePlanes layer list (planes, imported) = (result, planes', imported')) :
    planes' ≤ maxImportedPlanes ∧ imported'.numObjects = imported.numObjects ∧
    imported'.valid = imported.valid := by
  induction list generalizing planes imported with
  | nil =>
      cases hparse
      exact ⟨hbound, rfl, rfl⟩
  | cons plane rest ih =>
      unfold parsePlanes at hparse
      split at hparse
      · cases hparse
        exact ⟨hbound, rfl, rfl⟩
      · rename_i hroom
        have hlt : planes + 1 ≤ maxImportedPlanes := by
          by_contra hfull
          exact hroom (.inl (by omega))
        have hrest := ih hlt hparse
        exact hrest

theorem parseLayers_counts {desc : VADRMPRIMESurfaceDescriptor} {list : List Nat}
    {planes planes' : Nat} {imported imported' : ImportedSurface} {result : Bool}
    (hbound : planes ≤ maxImportedPlanes)
    (hparse : parseLayers desc list (planes, imported) = (result, planes', imported')) :
    planes' ≤ maxImportedPlanes ∧ imported'.numObjects = imported.numObjects ∧
    imported'.valid = imported.valid := by
  induction list generalizing planes imported with
  | nil =>
      cases hparse
      exact ⟨hbound, rfl, rfl⟩
  | cons layer rest ih =>
      unfold parseLayers at hparse
      simp only at hparse
      split at hparse
      · cases hparse
        exact ⟨hbound, rfl, rfl⟩
      · split at hparse
        · rename_i parsed hplanes
          obtain ⟨planes1, imported1⟩ := parsed
          obtain ⟨hle, hobjects, hvalid⟩ := parsePlanes_counts hbound hplanes
          obtain ⟨hle', hobjects', hvalid'⟩ := ih hle hparse
          exact ⟨hle', hobjects'.trans hobjects, hvalid'.trans hvalid⟩
        · rename_i parsed hplanes
          cases hparse
          exact parsePlanes_counts hbound hplanes

theorem parsePrime2Descriptor_bounded {desc : VADRMPRIMESurfaceDescriptor}
    {imported : ImportedSurface} (hbefore : imported.valid = false)
    (hvalid : (parsePrime2Descriptor desc imported).valid = true) :
    (parsePrime2Descriptor desc imported).Bounded := by
  unfold parsePrime2Descriptor at hvalid ⊢
  simp only at hvalid ⊢
  split at hvalid
  · rw [hbefore] at hvalid
    cases hvalid
  · rename_i hcounts
    rw [if_neg hcounts]
    have hobjectsBound : desc.numObjects ≤ maxImportedObjects := by
      by_contra hmany
      exact hcounts (.inr (.inr (.inr (by omega))))
    split at hvalid
    · rename_i imported1 hobjects
      rw [(parseObjects_counts hobjects).2, hbefore] at hvalid
      cases hvalid
    · rename_i imported1 hobjects
      obtain ⟨hnum, hsame⟩ := parseObjects_counts hobjects
      split at hvalid
      · rename_i planes imported2 hlayers
        rw [(parseLayers_counts (Nat.zero_le _) hlayers).2.2, hsame, hbefore] at hvalid
        cases hvalid
      · rename_i planes imported2 hlayers
        obtain ⟨hplanes, hnum', -⟩ := parseLayers_counts (Nat.zero_le _) hlayers
        refine ⟨?_, hplanes⟩
        show imported2.numObjects ≤ 4
        rw [hnum', hnum]
        exact hobjectsBound

theorem parsePrimeDescriptor_bounded {ext : VASurfaceAttribExternalBuffers}
    {imported : ImportedSurface} (hbefore : imported.valid = false)
    (hvalid : (parsePrimeDescriptor ext imported).valid = true) :
    (parsePrimeDescriptor ext imported).Bounded := by
  unfold parsePrimeDescriptor at hvalid ⊢
  simp only at hvalid ⊢
  split at hvalid
  · rw [hbefore] at hvalid
    cases hvalid
  · rename_i hcounts
    rw [if_neg hcounts]
    split at hvalid
    · rw [hbefore] at hvalid
      cases hvalid
    · rename_i hfds
      rw [if_neg hfds]
      refine ⟨show (1 : Nat) ≤ 4 by omega, ?_⟩
      by_contra hmany
      exact hcounts (.inr (.inl (Nat.lt_of_not_le hmany)))

/-- A valid import fits the arrays of a backing image. -/
theorem parseSurfaceImportAttributes_bounded {attribList : List VASurfaceAttrib}
    (hvalid : (parseSurfaceImportAttributes attribList).valid = true) :
    (parseSurfaceImportAttributes attribList).Bounded := by
  have hattributes : ∀ (list : List VASurfaceAttrib)
      (parsed : ImportedSurface × Option ExternalDescriptor), parsed.1.valid = false →
      (list.foldl parseAttribute parsed).1.valid = false := by
    intro list
    induction list with
    | nil => exact fun _ hold => hold
    | cons attrib rest ih =>
        intro parsed hold
        refine ih _ ?_
        unfold parseAttribute
        split <;> exact hold
  have hbefore := hattributes attribList ({}, none) rfl
  unfold parseSurfaceImportAttributes at hvalid ⊢
  generalize attribList.foldl parseAttribute ({}, none) = parsed at hbefore hvalid ⊢
  obtain ⟨imported, descriptor⟩ := parsed
  cases descriptor with
  | none =>
      simp only at hvalid hbefore
      rw [hbefore] at hvalid
      cases hvalid
  | some descriptor =>
      simp only at hvalid hbefore ⊢
      split at hvalid
      · rename_i hprime2
        rw [if_pos hprime2]
        exact parsePrime2Descriptor_bounded hbefore hvalid
      · rename_i hprime2
        rw [if_neg hprime2]
        split at hvalid
        · rename_i hprime
          rw [if_pos hprime]
          exact parsePrimeDescriptor_bounded hbefore hvalid
        · rw [hbefore] at hvalid
          cases hvalid

/-- The import that is selected for one surface has the counts of the whole. -/
theorem importedSurfaceSelectIndex_bounded {imported selected : ImportedSurface}
    {surfaceIndex numSurfaces : Nat} (hbound : imported.Bounded)
    (hselect : importedSurfaceSelectIndex imported surfaceIndex numSurfaces = some selected) :
    selected.Bounded := by
  unfold importedSurfaceSelectIndex at hselect
  split at hselect
  · cases hselect
  · split at hselect
    · split at hselect
      · cases hselect
        exact hbound
      · cases hselect
    · split at hselect
      · cases hselect
      · cases hselect
        exact hbound

end Surface
end NvidiaVaapi
