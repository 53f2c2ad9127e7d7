import Mathlib.Algebra.Group.Nat.Defs
import Mathlib.Data.List.Count
import NvidiaVaapi.Hevc.PictureParameters

/-!
# The reference sets of an HEVC picture

The loop over `ReferenceFrames` puts each valid reference into the set that its
flags select, without looking at the size of the set.  The sets partition the
flagged references exactly when each of them has room for what it is given.
-/

namespace NvidiaVaapi
namespace Hevc

open FixedArray

/-- The three sets of references that are current. -/
inductive RefSet
  | stCurrBefore
  | stCurrAfter
  | ltCurr
  deriving DecidableEq, Repr

/-- The set that the flags of a reference select; the first flag counts. -/
def VAPictureHEVC.refSet (pic : VAPictureHEVC) : Option RefSet :=
  if pic.has vaPictureHevcRpsStCurrBefore then some .stCurrBefore
  else if pic.has vaPictureHevcRpsStCurrAfter then some .stCurrAfter
  else if pic.has vaPictureHevcRpsLtCurr then some .ltCurr
  else none

namespace CUVIDHEVCPICPARAMS

/-- The set of the given kind. -/
def set (ppc : CUVIDHEVCPICPARAMS) : RefSet → CountedArray Nat 8
  | .stCurrBefore => ppc.refPicSetStCurrBefore
  | .stCurrAfter => ppc.refPicSetStCurrAfter
  | .ltCurr => ppc.refPicSetLtCurr

/-- The set of the given kind replaced. -/
def withSet (ppc : CUVIDHEVCPICPARAMS) (xs : CountedArray Nat 8) : RefSet → CUVIDHEVCPICPARAMS
  | .stCurrBefore => { ppc with refPicSetStCurrBefore := xs }
  | .stCurrAfter => { ppc with refPicSetStCurrAfter := xs }
  | .ltCurr => { ppc with refPicSetLtCurr := xs }

/-- All references that are listed, set after set. -/
def listed (ppc : CUVIDHEVCPICPARAMS) : List Nat :=
  (ppc.set .stCurrBefore).listed ++ (ppc.set .stCurrAfter).listed ++ (ppc.set .ltCurr).listed

@[simp] theorem withSet_refPicIdx (ppc : CUVIDHEVCPICPARAMS) (xs : CountedArray Nat 8)
    (k : RefSet) : (ppc.withSet xs k).refPicIdx = ppc.refPicIdx := by
  cases k <;> rfl

@[simp] theorem withSet_set (ppc : CUVIDHEVCPICPARAMS) (xs : CountedArray Nat 8) (k : RefSet) :
    (ppc.withSet xs k).set k = xs := by
  cases k <;> rfl

theorem withSet_set_ne (ppc : CUVIDHEVCPICPARAMS) (xs : CountedArray Nat 8) {k l : RefSet}
    (h : l ≠ k) : (ppc.withSet xs k).set l = ppc.set l := by
  cases k <;> cases l <;> first | rfl | exact absurd rfl h

end CUVIDHEVCPICPARAMS

section References

variable (buf : VAPictureParameterBufferHEVC) (pictureIdx : Fin 15 → Int)

/-- The set to which reference frame `i` belongs: none where its surface has no
index in this context, whatever its flags. -/
def selection (i : Fin 15) : Option RefSet :=
  if pictureIdx i = -1 then none else (buf.referenceFrame i).refSet

/-- The reference frames of one set, in the order of `ReferenceFrames`. -/
def selected (k : RefSet) : List (Fin 15) :=
  (List.finRange 15).filter fun i => selection buf pictureIdx i = some k

/-- What the sets of a picture have to say about its reference frames. -/
structure Partitioned (ppc : CUVIDHEVCPICPARAMS) : Prop where
  /-- A valid reference with one of the flags is listed once, in one set. -/
  once : ∀ i, pictureIdx i ≠ -1 → (buf.referenceFrame i).refSet ≠ none →
    ppc.listed.count i.val = 1
  /-- Any other reference is in no set. -/
  unlisted : ∀ i, pictureIdx i = -1 ∨ (buf.referenceFrame i).refSet = none →
    i.val ∉ ppc.listed
  /-- What is listed is a position in `RefPicIdx`, which holds the index of that reference. -/
  position : ∀ r ∈ ppc.listed, ∃ i : Fin 15, i.val = r ∧ ppc.pictureIndex i = pictureIdx i ∧
    pictureIdx i ≠ -1
  /-- The set is the one that the flags select. -/
  flags : ∀ k, ∀ r ∈ (ppc.set k).listed, ∃ i : Fin 15, i.val = r ∧
    (buf.referenceFrame i).refSet = some k
  /-- The counters count what is listed. -/
  counts : (∀ k, (ppc.set k).listed.length = (ppc.set k).count) ∧
    ppc.numPocTotalCurr = ppc.listed.length

@[simp] theorem noteReference_set (ppc : CUVIDHEVCPICPARAMS) (i : Fin 15) (k : RefSet) :
    (noteReference buf pictureIdx ppc i).set k = ppc.set k := by
  cases k <;> rfl

/-- One turn of the loop, by the set that the reference belongs to. -/
theorem copyReference_eq (ppc : CUVIDHEVCPICPARAMS) (i : Fin 15) :
    copyReference buf pictureIdx ppc i =
      match selection buf pictureIdx i with
      | none => some (noteReference buf pictureIdx ppc i)
      | some k => ((ppc.set k).push i.val).map fun xs =>
          (noteReference buf pictureIdx ppc i).withSet xs k := by
  unfold copyReference selection VAPictureHEVC.refSet
  by_cases hinvalid : pictureIdx i = -1
  · simp only [hinvalid, if_true]
  · simp only [hinvalid, if_false]
    by_cases hbefore : (buf.referenceFrame i).has vaPictureHevcRpsStCurrBefore
    · simp only [hbefore, if_true]
      rfl
    · by_cases hafter : (buf.referenceFrame i).has vaPictureHevcRpsStCurrAfter
      · simp only [hbefore, hafter, if_true]
        rfl
      · by_cases hlong : (buf.referenceFrame i).has vaPictureHevcRpsLtCurr
        · simp only [hbefore, hafter, hlong, if_true]
          rfl
        · simp only [hbefore, hafter, hlong]
          rfl

/-- What the loop has done to the parameters after the reference frames `l`. -/
structure Copied (l : List (Fin 15)) (ppc ppc' : CUVIDHEVCPICPARAMS) : Prop where
  listed : ∀ k, (ppc'.set k).listed = (ppc.set k).listed ++
    (l.filter fun i => selection buf pictureIdx i = some k).map Fin.val
  count : ∀ k, (ppc'.set k).count = (ppc.set k).count +
    (l.filter fun i => selection buf pictureIdx i = some k).length
  index : ∀ i ∈ l, ppc'.pictureIndex i = pictureIdx i
  others : ∀ i : Fin 15, i ∉ l → ppc'.pictureIndex i = ppc.pictureIndex i

/-- The sets have room for the reference frames `l`. -/
def Fits (l : List (Fin 15)) (ppc : CUVIDHEVCPICPARAMS) : Prop :=
  ∀ k, (ppc.set k).count + (l.filter fun i => selection buf pictureIdx i = some k).length ≤ 8

variable {buf} {pictureIdx}

theorem Copied.refl (ppc : CUVIDHEVCPICPARAMS) : Copied buf pictureIdx [] ppc ppc :=
  ⟨by simp, by simp, by simp, fun _ _ => rfl⟩

/-- One reference frame, then the rest. -/
theorem Copied.cons {i : Fin 15} {rest : List (Fin 15)} {ppc ppc₁ ppc' : CUVIDHEVCPICPARAMS}
    (hi : i ∉ rest) (hfirst : Copied buf pictureIdx [i] ppc ppc₁)
    (hrest : Copied buf pictureIdx rest ppc₁ ppc') :
    Copied buf pictureIdx (i :: rest) ppc ppc' where
  listed := by
    intro k
    rw [hrest.listed, hfirst.listed, List.append_assoc, ← List.map_append, ← List.filter_append]
    rfl
  count := by
    intro k
    rw [hrest.count, hfirst.count, Nat.add_assoc, ← List.length_append, ← List.filter_append]
    rfl
  index := by
    intro j hj
    rcases List.mem_cons.mp hj with rfl | hj
    · rw [hrest.others j hi, hfirst.index j List.mem_cons_self]
    · exact hrest.index j hj
  others := by
    intro j hj
    obtain ⟨hne, hj⟩ := not_or.mp fun h => hj (List.mem_cons.mpr h)
    rw [hrest.others j hj, hfirst.others j (by simpa using hne)]

theorem Copied.fits_iff {i : Fin 15} {rest : List (Fin 15)} {ppc ppc₁ : CUVIDHEVCPICPARAMS}
    (hfirst : Copied buf pictureIdx [i] ppc ppc₁) :
    Fits buf pictureIdx rest ppc₁ ↔ Fits buf pictureIdx (i :: rest) ppc := by
  have hcount : ∀ k, (ppc₁.set k).count +
      (rest.filter fun i => selection buf pictureIdx i = some k).length = (ppc.set k).count +
        ((i :: rest).filter fun i => selection buf pictureIdx i = some k).length := by
    intro k
    rw [hfirst.count, Nat.add_assoc, ← List.length_append, ← List.filter_append]
    rfl
  exact ⟨fun h k => hcount k ▸ h k, fun h k => (hcount k).symm ▸ h k⟩

/-- A turn of the loop with room in the set that it needs. -/
theorem copyReference_copied {i : Fin 15} {ppc : CUVIDHEVCPICPARAMS}
    (hroom : ∀ k, selection buf pictureIdx i = some k → (ppc.set k).count < 8) :
    ∃ ppc', copyReference buf pictureIdx ppc i = some ppc' ∧
      Copied buf pictureIdx [i] ppc ppc' := by
  have hindex : (noteReference buf pictureIdx ppc i).pictureIndex i = pictureIdx i := by
    simp [noteReference]
  have hothers : ∀ j : Fin 15, j ∉ [i] →
      (noteReference buf pictureIdx ppc i).pictureIndex j = ppc.pictureIndex j := by
    intro j hj
    have hne : i.val ≠ j.val := fun h => hj (by simp [Fin.ext h])
    exact Vector.getElem_set_ne (by omega) (by omega) hne
  rw [copyReference_eq]
  cases hselection : selection buf pictureIdx i with
  | none =>
      refine ⟨_, rfl, ⟨by simp [hselection], by simp [hselection], ?_, hothers⟩⟩
      simpa using hindex
  | some k =>
      have hpush := CountedArray.push_of_lt i.val (hroom k hselection)
      obtain ⟨hlisted, hcount, _⟩ := CountedArray.listed_push hpush
      refine ⟨_, by simp only [hpush]; rfl, ⟨fun l => ?_, fun l => ?_, ?_, ?_⟩⟩
      · rcases eq_or_ne l k with rfl | hne
        · rw [CUVIDHEVCPICPARAMS.withSet_set, hlisted]
          simp [hselection]
        · rw [CUVIDHEVCPICPARAMS.withSet_set_ne _ _ hne, noteReference_set]
          simp [hselection, hne.symm]
      · rcases eq_or_ne l k with rfl | hne
        · rw [CUVIDHEVCPICPARAMS.withSet_set, hcount]
          simp [hselection]
        · rw [CUVIDHEVCPICPARAMS.withSet_set_ne _ _ hne, noteReference_set]
          simp [hselection, hne.symm]
      · simpa using hindex
      · intro j hj
        show (CUVIDHEVCPICPARAMS.withSet _ _ k).refPicIdx[j] = _
        rw [CUVIDHEVCPICPARAMS.withSet_refPicIdx]
        exact hothers j hj

/-- A turn of the loop without room writes past the set. -/
theorem copyReference_full {i : Fin 15} {ppc : CUVIDHEVCPICPARAMS} {k : RefSet}
    (hselection : selection buf pictureIdx i = some k) (hfull : 8 ≤ (ppc.set k).count) :
    copyReference buf pictureIdx ppc i = none := by
  rw [copyReference_eq, hselection]
  simp only [CountedArray.push_of_ge _ hfull, Option.map_none]

/-- The loop over sets with room for all their references. -/
theorem copyReferences_copied {l : List (Fin 15)} {ppc : CUVIDHEVCPICPARAMS} (hnodup : l.Nodup)
    (hfits : Fits buf pictureIdx l ppc) :
    ∃ ppc', l.foldlM (copyReference buf pictureIdx) ppc = some ppc' ∧
      Copied buf pictureIdx l ppc ppc' := by
  induction l generalizing ppc with
  | nil => exact ⟨ppc, rfl, .refl ppc⟩
  | cons i rest ih =>
      obtain ⟨hi, hrest⟩ := List.nodup_cons.mp hnodup
      have hroom : ∀ k, selection buf pictureIdx i = some k → (ppc.set k).count < 8 := by
        intro k hselection
        have hk := hfits k
        simp only [List.filter_cons, hselection, decide_true, if_true, List.length_cons] at hk
        omega
      obtain ⟨ppc₁, hstep, hfirst⟩ := copyReference_copied hroom
      obtain ⟨ppc', hloop, hcopied⟩ := ih hrest (hfirst.fits_iff.mpr hfits)
      refine ⟨ppc', ?_, hfirst.cons hi hcopied⟩
      rw [List.foldlM_cons, hstep]
      exact hloop

/-- The loop over sets without room for all their references. -/
theorem copyReferences_full {l : List (Fin 15)} {ppc : CUVIDHEVCPICPARAMS}
    (hstart : ∀ k, (ppc.set k).count ≤ 8) (hfull : ¬Fits buf pictureIdx l ppc) :
    l.foldlM (copyReference buf pictureIdx) ppc = none := by
  induction l generalizing ppc with
  | nil => exact absurd (fun k => by simpa using hstart k) hfull
  | cons i rest ih =>
      rw [List.foldlM_cons]
      by_cases hroom : ∀ k, selection buf pictureIdx i = some k → (ppc.set k).count < 8
      · obtain ⟨ppc₁, hstep, hfirst⟩ := copyReference_copied hroom
        rw [hstep]
        refine ih (fun k => ?_) fun hfits => hfull (hfirst.fits_iff.mp hfits)
        rw [hfirst.count]
        by_cases hselection : selection buf pictureIdx i = some k
        · simpa [hselection] using Nat.succ_le_of_lt (hroom k hselection)
        · simpa [hselection] using hstart k
      · obtain ⟨k, hk⟩ := not_forall.mp hroom
        obtain ⟨hselection, hlarge⟩ := Classical.not_imp.mp hk
        rw [copyReference_full hselection (Nat.not_lt.mp hlarge)]
        rfl

end References

/-! ## The picture -/

/-- What the last part of the handler does to the references. -/
structure Finished (ppc ppc' : CUVIDHEVCPICPARAMS) : Prop where
  index : ppc'.refPicIdx = ppc.refPicIdx
  picOrderCnt : ppc'.picOrderCntVal = ppc.picOrderCntVal
  before : (ppc'.set .stCurrBefore).listed =
    sortedReferences ppc.picOrderCntVal true false (ppc.set .stCurrBefore).listed
  after : (ppc'.set .stCurrAfter).listed =
    sortedReferences ppc.picOrderCntVal false true (ppc.set .stCurrAfter).listed
  ltCurr : ppc'.set .ltCurr = ppc.set .ltCurr
  count : ∀ k, (ppc'.set k).count = (ppc.set k).count
  total : ppc'.numPocTotalCurr = (ppc.set .stCurrBefore).count +
    (ppc.set .stCurrAfter).count + (ppc.set .ltCurr).count

/-- Sorting keeps what the sets list. -/
theorem Finished.perm {ppc ppc' : CUVIDHEVCPICPARAMS} (hfinished : Finished ppc ppc')
    (k : RefSet) : (ppc'.set k).listed.Perm (ppc.set k).listed := by
  cases k with
  | stCurrBefore =>
      rw [hfinished.before]
      exact sortedReferences_perm ..
  | stCurrAfter =>
      rw [hfinished.after]
      exact sortedReferences_perm ..
  | ltCurr => rw [hfinished.ltCurr]

/-- A set of the picture is sorted as a list. -/
theorem sortReferenceSet_listed (POCV : Vector Int 16) (descending descendingTie : Bool)
    {xs : CountedArray Nat 8} (hcount : xs.count ≤ 8) (hlisted : ∀ r ∈ xs.listed, r < 16) :
    ∃ entries, sortReferenceSet POCV descending descendingTie xs.entries xs.count =
        some entries ∧
      { xs with entries := entries }.listed =
        sortedReferences POCV descending descendingTie xs.listed := by
  obtain ⟨entries, hsort, hlist⟩ :=
    sortReferenceSet_eq POCV descending descendingTie hcount hlisted
  refine ⟨entries, hsort, ?_⟩
  have hlength : (sortedReferences POCV descending descendingTie xs.listed).length = xs.count := by
    rw [(sortedReferences_perm ..).length_eq, CountedArray.listed, List.length_take,
      Vector.length_toList, Nat.min_eq_left hcount]
  show entries.toList.take xs.count = _
  rw [hlist]
  exact List.take_left' hlength

theorem finishReferences_finished {ppc : CUVIDHEVCPICPARAMS}
    (hcount : ∀ k, (ppc.set k).count ≤ 8) (hlisted : ∀ k, ∀ r ∈ (ppc.set k).listed, r < 16) :
    ∃ ppc', finishReferences ppc = some ppc' ∧ Finished ppc ppc' := by
  obtain ⟨before, hbefore, hbeforeSorted⟩ := sortReferenceSet_listed ppc.picOrderCntVal true false
    (hcount .stCurrBefore) (hlisted .stCurrBefore)
  obtain ⟨after, hafter, hafterSorted⟩ := sortReferenceSet_listed ppc.picOrderCntVal false true
    (hcount .stCurrAfter) (hlisted .stCurrAfter)
  simp only [CUVIDHEVCPICPARAMS.set] at hbefore hafter
  unfold finishReferences
  rw [hbefore, hafter]
  refine ⟨_, rfl, rfl, rfl, hbeforeSorted, hafterSorted, rfl, fun k => ?_, rfl⟩
  cases k <;> rfl

/-- The references of the sets of a picture, found before they are sorted. -/
theorem partitioned_of_copied {buf : VAPictureParameterBufferHEVC} {pictureIdx : Fin 15 → Int}
    {start ppc ppc' : CUVIDHEVCPICPARAMS} (hempty : ∀ k, (start.set k).count = 0)
    (hcopied : Copied buf pictureIdx (List.finRange 15) start ppc)
    (hindex : ppc'.refPicIdx = ppc.refPicIdx)
    (hperm : ∀ k, (ppc'.set k).listed.Perm (ppc.set k).listed)
    (hcount : ∀ k, (ppc'.set k).count = (ppc.set k).count)
    (htotal : ppc'.numPocTotalCurr = (ppc.set .stCurrBefore).count +
      (ppc.set .stCurrAfter).count + (ppc.set .ltCurr).count) :
    Partitioned buf pictureIdx ppc' := by
  have hset : ∀ k, (ppc'.set k).listed.Perm ((selected buf pictureIdx k).map Fin.val) := by
    intro k
    have hstart : (start.set k).listed = [] := by simp [CountedArray.listed, hempty]
    have h := hperm k
    rw [hcopied.listed, hstart, List.nil_append] at h
    exact h
  have hnumber : ∀ k, (ppc'.set k).count = (selected buf pictureIdx k).length := by
    intro k
    rw [hcount, hcopied.count, hempty, Nat.zero_add]
    rfl
  -- how often a reference frame is in one set
  have honce : ∀ (k : RefSet) (i : Fin 15), (ppc'.set k).listed.count i.val =
      if selection buf pictureIdx i = some k then 1 else 0 := by
    intro k i
    rw [(hset k).count_eq, List.count_map_of_injective _ _ fun _ _ h => Fin.ext h]
    have hnodup : (selected buf pictureIdx k).Nodup := (List.nodup_finRange 15).filter _
    rw [hnodup.count]
    simp [selected]
  have hwhole : ∀ i : Fin 15, ppc'.listed.count i.val =
      if selection buf pictureIdx i = none then 0 else 1 := by
    intro i
    simp only [CUVIDHEVCPICPARAMS.listed, List.count_append, honce]
    cases selection buf pictureIdx i with
    | none => rfl
    | some k => cases k <;> rfl
  have hmem : ∀ k, ∀ r ∈ (ppc'.set k).listed, ∃ i : Fin 15, i.val = r ∧
      selection buf pictureIdx i = some k := by
    intro k r hr
    obtain ⟨i, hi, hval⟩ := List.mem_map.mp ((hset k).mem_iff.mp hr)
    exact ⟨i, hval, by simpa [selected] using hi⟩
  have hvalid : ∀ {k : RefSet} {i : Fin 15}, selection buf pictureIdx i = some k →
      pictureIdx i ≠ -1 ∧ (buf.referenceFrame i).refSet = some k := by
    intro k i h
    unfold selection at h
    split at h
    · cases h
    · exact ⟨by assumption, h⟩
  refine ⟨fun i hi hflags => ?_, fun i hi => ?_, fun r hr => ?_, fun k r hr => ?_, fun k => ?_, ?_⟩
  · have hselection : selection buf pictureIdx i = (buf.referenceFrame i).refSet := if_neg hi
    rw [hwhole, hselection, if_neg hflags]
  · have hselection : selection buf pictureIdx i = none := by
      rcases hi with hi | hi
      · exact if_pos hi
      · unfold selection
        rw [hi, ite_self]
    apply List.count_eq_zero.mp
    rw [hwhole, if_pos hselection]
  · have hsome : ∃ k, r ∈ (ppc'.set k).listed := by
      simp only [CUVIDHEVCPICPARAMS.listed, List.mem_append] at hr
      rcases hr with (hr | hr) | hr
      · exact ⟨_, hr⟩
      · exact ⟨_, hr⟩
      · exact ⟨_, hr⟩
    obtain ⟨k, hk⟩ := hsome
    obtain ⟨i, hval, hselection⟩ := hmem k r hk
    refine ⟨i, hval, ?_, (hvalid hselection).1⟩
    show ppc'.refPicIdx[i] = _
    rw [hindex]
    exact hcopied.index i (List.mem_finRange i)
  · obtain ⟨i, hval, hselection⟩ := hmem k r hr
    exact ⟨i, hval, (hvalid hselection).2⟩
  · rw [(hset k).length_eq, List.length_map, hnumber]
  · have hlengths : ∀ k, (ppc'.set k).listed.length = (ppc.set k).count := by
      intro k
      rw [(hset k).length_eq, List.length_map, ← hnumber, hcount]
    rw [htotal]
    simp only [CUVIDHEVCPICPARAMS.listed, List.length_append, hlengths]

/-- A picture whose sets are right, or which is refused before they are written. -/
def CopiesReferences (ctx : NVContext) (buf : VAPictureParameterBufferHEVC)
    (pictureIdx : Fin 15 → Int) (picParams : CUVIDPICPARAMS) : Prop :=
  ∃ ctx' picParams', copyHEVCPicParam ctx buf pictureIdx picParams = some (ctx', picParams') ∧
    (Partitioned buf pictureIdx picParams'.hevc ∨
      ctx'.inputValidationFailed = true ∧ picParams'.hevc.set = picParams.hevc.set)

/-- The handler starts its loop from empty sets. -/
theorem copyTileFields_count (buf : VAPictureParameterBufferHEVC) (ppc : CUVIDHEVCPICPARAMS)
    (k : RefSet) : ((copyTileFields buf ppc).set k).count = 0 := by
  cases k <;> rfl

/-- The loop starts from empty sets, so there is room for at most eight references in
each of them. -/
theorem fits_iff (buf : VAPictureParameterBufferHEVC) (pictureIdx : Fin 15 → Int)
    (ppc : CUVIDHEVCPICPARAMS) :
    Fits buf pictureIdx (List.finRange 15) (copyTileFields buf ppc) ↔
      ∀ k, (selected buf pictureIdx k).length ≤ 8 := by
  unfold Fits
  simp only [copyTileFields_count, Nat.zero_add]
  rfl

/-- The whole handler, for a picture that is not refused and sets with room enough. -/
theorem copyHEVCPicParam_fits (ctx : NVContext) {buf : VAPictureParameterBufferHEVC}
    {pictureIdx : Fin 15 → Int} {picParams : CUVIDPICPARAMS}
    (hfew : ¬ tooManyTiles buf picParams.hevc)
    (hfits : ∀ k, (selected buf pictureIdx k).length ≤ 8) :
    ∃ ctx' picParams' ppc,
      copyHEVCPicParam ctx buf pictureIdx picParams = some (ctx', picParams') ∧
      (List.finRange 15).foldlM (copyReference buf pictureIdx)
        (copyTileFields buf (copySequenceFields buf picParams.hevc)) = some ppc ∧
      Copied buf pictureIdx (List.finRange 15)
        (copyTileFields buf (copySequenceFields buf picParams.hevc)) ppc ∧
      Finished ppc picParams'.hevc := by
  have htiles : tooManyTiles buf (copySequenceFields buf picParams.hevc) ↔
      tooManyTiles buf picParams.hevc := Iff.rfl
  have hroom := (fits_iff buf pictureIdx (copySequenceFields buf picParams.hevc)).mpr hfits
  obtain ⟨ppc, hloop, hcopied⟩ := copyReferences_copied (List.nodup_finRange 15) hroom
  have hcount : ∀ k, (ppc.set k).count ≤ 8 := fun k => hcopied.count k ▸ hroom k
  have hlisted : ∀ k, ∀ r ∈ (ppc.set k).listed, r < 16 := by
    intro k r hr
    have hstart : ((copyTileFields buf (copySequenceFields buf picParams.hevc)).set k).listed =
        [] := by simp [CountedArray.listed, copyTileFields_count]
    rw [hcopied.listed, hstart, List.nil_append] at hr
    obtain ⟨i, _, rfl⟩ := List.mem_map.mp hr
    omega
  obtain ⟨ppc', hfinish, hfinished⟩ := finishReferences_finished hcount hlisted
  refine ⟨_, _, ppc, by simp only [copyHEVCPicParam, htiles, hfew, if_false, hloop, hfinish,
    Option.bind_eq_bind, Option.bind_some]; rfl, hloop, hcopied, hfinished⟩

/-- A picture that is refused keeps its sets. -/
theorem copyHEVCPicParam_refused (ctx : NVContext) {buf : VAPictureParameterBufferHEVC}
    (pictureIdx : Fin 15 → Int) {picParams : CUVIDPICPARAMS}
    (hmany : tooManyTiles buf picParams.hevc) :
    ∃ ctx' picParams',
      copyHEVCPicParam ctx buf pictureIdx picParams = some (ctx', picParams') ∧
      ctx'.inputValidationFailed = true ∧ picParams'.hevc.set = picParams.hevc.set ∧
      picParams'.hevc.refPicIdx = picParams.hevc.refPicIdx := by
  have htiles : tooManyTiles buf (copySequenceFields buf picParams.hevc) ↔
      tooManyTiles buf picParams.hevc := Iff.rfl
  refine ⟨_, _, by simp only [copyHEVCPicParam, htiles, hmany, if_true]; rfl, ?_⟩
  refine ⟨rfl, ?_, rfl⟩
  ext k
  cases k <;> rfl

/-- A set without room takes the handler out of its arrays. -/
theorem copyHEVCPicParam_full (ctx : NVContext) {buf : VAPictureParameterBufferHEVC}
    {pictureIdx : Fin 15 → Int} {picParams : CUVIDPICPARAMS}
    (hfew : ¬ tooManyTiles buf picParams.hevc)
    (hfull : ¬ ∀ k, (selected buf pictureIdx k).length ≤ 8) :
    copyHEVCPicParam ctx buf pictureIdx picParams = none := by
  have htiles : tooManyTiles buf (copySequenceFields buf picParams.hevc) ↔
      tooManyTiles buf picParams.hevc := Iff.rfl
  rw [← fits_iff buf pictureIdx (copySequenceFields buf picParams.hevc)] at hfull
  have hnone := copyReferences_full (fun k => by simp [copyTileFields_count]) hfull
  simp [copyHEVCPicParam, htiles, hfew, hnone]

/-- The reference sets stay inside their arrays and partition the references exactly
when the picture is refused for its tile counts or no set is given more than eight
references. -/
theorem copiesReferences_iff (ctx : NVContext) (buf : VAPictureParameterBufferHEVC)
    (pictureIdx : Fin 15 → Int) (picParams : CUVIDPICPARAMS) :
    CopiesReferences ctx buf pictureIdx picParams ↔
      tooManyTiles buf picParams.hevc ∨ ∀ k, (selected buf pictureIdx k).length ≤ 8 := by
  by_cases hmany : tooManyTiles buf picParams.hevc
  · obtain ⟨ctx', picParams', hcopy, hinvalid, hsets, -⟩ :=
      copyHEVCPicParam_refused ctx pictureIdx hmany
    exact iff_of_true ⟨ctx', picParams', hcopy, .inr ⟨hinvalid, hsets⟩⟩ (.inl hmany)
  · rw [or_iff_right hmany]
    constructor
    · rintro ⟨ctx', picParams', hcopy, _⟩
      by_contra hfull
      rw [copyHEVCPicParam_full ctx hmany hfull] at hcopy
      cases hcopy
    · intro hfits
      obtain ⟨ctx', picParams', ppc, hcopy, -, hcopied, hfinished⟩ :=
        copyHEVCPicParam_fits ctx hmany hfits
      exact ⟨ctx', picParams', hcopy, .inl (partitioned_of_copied (copyTileFields_count buf _)
        hcopied hfinished.index hfinished.perm hfinished.count hfinished.total)⟩

/-- A picture of one tile with nine reference frames before the current one. -/
def nineBefore : VAPictureParameterBufferHEVC :=
  { (default : VAPictureParameterBufferHEVC) with
    columnWidthMinus1 := List.replicate 19 0
    rowHeightMinus1 := List.replicate 21 0
    referenceFrames := Vector.ofFn fun i =>
      ⟨i, -i, if i < 9 then vaPictureHevcRpsStCurrBefore else 0⟩ }

/-- Parameters with room for as many tiles. -/
def emptyParameters : CUVIDPICPARAMS :=
  { (default : CUVIDPICPARAMS) with
    hevc := { (default : CUVIDHEVCPICPARAMS) with
      columnWidthMinus1 := List.replicate 21 0
      rowHeightMinus1 := List.replicate 21 0 } }

/-- The ninth reference is written past the end of `RefPicSetStCurrBefore`. -/
theorem nineBefore_overflows :
    ¬∀ (ctx : NVContext) (buf : VAPictureParameterBufferHEVC) (pictureIdx : Fin 15 → Int)
      (picParams : CUVIDPICPARAMS), CopiesReferences ctx buf pictureIdx picParams := by
  intro hclaim
  obtain ⟨ctx', picParams', hcopy, _⟩ := hclaim default nineBefore (fun i => i) emptyParameters
  have hnone : (copyHEVCPicParam default nineBefore (fun i => i) emptyParameters).isNone := by
    decide
  rw [hcopy] at hnone
  cases hnone

end Hevc
end NvidiaVaapi
