import NvidiaVaapi.Hevc.ReferenceSets

/-!
# The order of the references

The sorted sets of a picture depend on its references only, and not on the order in
which `ReferenceFrames` lists them, where the picture-order counts of a set differ.
-/

namespace NvidiaVaapi
namespace Hevc

open FixedArray

/-- The first `count` entries are rearranged in their order; the others stay. -/
structure Sorted {n m : Nat} (POCV : Vector Int m) (descending descendingTie : Bool)
    (count : Nat) (refs refs' : Vector Nat n) : Prop where
  perm : (refs'.toList.take count).Perm (refs.toList.take count)
  rest : refs'.toList.drop count = refs.toList.drop count
  ordered : (refs'.toList.take count).Pairwise (Precedes POCV descending descendingTie)

theorem take_sortedReferences {n m : Nat} {POCV : Vector Int m} {descending descendingTie : Bool}
    {count : Nat} {refs refs' : Vector Nat n} (hcount : count ≤ n)
    (hlist : refs'.toList = sortedReferences POCV descending descendingTie
      (refs.toList.take count) ++ refs.toList.drop count) :
    refs'.toList.take count =
        sortedReferences POCV descending descendingTie (refs.toList.take count) ∧
      refs'.toList.drop count = refs.toList.drop count := by
  have hlength : (sortedReferences POCV descending descendingTie
      (refs.toList.take count)).length = count := by
    rw [(sortedReferences_perm ..).length_eq, List.length_take, Vector.length_toList,
      Nat.min_eq_left hcount]
  rw [hlist]
  exact ⟨List.take_left' hlength, List.drop_left' hlength⟩

/-- The sort, for the entries of a set in any order. -/
theorem sortReferenceSet_sorted {n m : Nat} (POCV : Vector Int m) (descending descendingTie : Bool)
    {refs : Vector Nat n} {count : Nat} (hcount : count ≤ n)
    (hrefs : ∀ r ∈ refs.toList.take count, r < m) :
    ∃ refs', sortReferenceSet POCV descending descendingTie refs count = some refs' ∧
      Sorted POCV descending descendingTie count refs refs' ∧
      refs'.toList.take count =
        sortedReferences POCV descending descendingTie (refs.toList.take count) := by
  obtain ⟨refs', hsort, hlist⟩ := sortReferenceSet_eq POCV descending descendingTie hcount hrefs
  obtain ⟨hused, hrest⟩ := take_sortedReferences hcount hlist
  refine ⟨refs', hsort, ⟨?_, hrest, ?_⟩, hused⟩
  · rw [hused]
    exact sortedReferences_perm ..
  · rw [hused]
    exact sortedReferences_pairwise ..

/-! ## The counts of a picture -/

theorem copyReference_picOrderCnt {buf : VAPictureParameterBufferHEVC} {pictureIdx : Fin 15 → Int}
    {ppc ppc' : CUVIDHEVCPICPARAMS} {i : Fin 15}
    (hcopy : copyReference buf pictureIdx ppc i = some ppc') :
    ppc'.picOrderCntVal = (noteReference buf pictureIdx ppc i).picOrderCntVal := by
  rw [copyReference_eq] at hcopy
  cases hselection : selection buf pictureIdx i with
  | none =>
      rw [hselection] at hcopy
      cases hcopy
      rfl
  | some k =>
      rw [hselection] at hcopy
      obtain ⟨xs, -, rfl⟩ := Option.map_eq_some_iff.mp hcopy
      cases k <;> rfl

/-- The loop notes the count of every reference frame. -/
theorem copyReferences_picOrderCnt {buf : VAPictureParameterBufferHEVC} {pictureIdx : Fin 15 → Int}
    {l : List (Fin 15)} {ppc ppc' : CUVIDHEVCPICPARAMS}
    (hloop : l.foldlM (copyReference buf pictureIdx) ppc = some ppc') (i : Fin 15)
    (hi : i ∈ l ∨ ppc.orderCount i = (buf.referenceFrame i).picOrderCnt) :
    ppc'.orderCount i = (buf.referenceFrame i).picOrderCnt := by
  induction l generalizing ppc with
  | nil =>
      cases hloop
      exact hi.resolve_left nofun
  | cons j rest ih =>
      rw [List.foldlM_cons] at hloop
      obtain ⟨ppc₁, hfirst, hrest⟩ := Option.bind_eq_some_iff.mp hloop
      apply ih hrest
      show i ∈ rest ∨ ppc₁.picOrderCntVal[i] = _
      rw [copyReference_picOrderCnt hfirst]
      by_cases hji : j = i
      · subst hji
        exact .inr (Vector.getElem_set_self ..)
      · rcases hi with hi | hi
        · exact .inl ((List.mem_cons.mp hi).resolve_left (Ne.symm hji))
        · refine .inr (Eq.trans ?_ hi)
          exact Vector.getElem_set_ne (by omega) (by omega) fun h => hji (Fin.ext h)

/-! ## The pictures of a set -/

/-- The picture of an entry of a set. -/
def pictureAt (ppc : CUVIDHEVCPICPARAMS) (r : Nat) : Int :=
  ppc.refPicIdx[r]?.getD (-1)

/-- The pictures of a set, in its order. -/
def pictures (ppc : CUVIDHEVCPICPARAMS) (k : RefSet) : List Int :=
  (ppc.set k).listed.map (pictureAt ppc)

/-- The count and the picture of an entry of a set. -/
def entryAt (ppc : CUVIDHEVCPICPARAMS) (r : Nat) : Int × Int :=
  (countOf ppc.picOrderCntVal r, pictureAt ppc r)

/-- A reference frame as the order sees it: its count and its picture. -/
def entry (buf : VAPictureParameterBufferHEVC) (pictureIdx : Fin 15 → Int) (i : Fin 15) :
    Int × Int :=
  ((buf.referenceFrame i).picOrderCnt, pictureIdx i)

/-- The counts of the references of a set differ. -/
def DistinctCounts (buf : VAPictureParameterBufferHEVC) (pictureIdx : Fin 15 → Int)
    (k : RefSet) : Prop :=
  ∀ i ∈ selected buf pictureIdx k, ∀ j ∈ selected buf pictureIdx k,
    (buf.referenceFrame i).picOrderCnt = (buf.referenceFrame j).picOrderCnt → i = j

/-- The picture with its reference frames listed in another order. -/
def VAPictureParameterBufferHEVC.relisted (buf : VAPictureParameterBufferHEVC)
    (order : Equiv.Perm (Fin 15)) : VAPictureParameterBufferHEVC :=
  { buf with referenceFrames := Vector.ofFn fun i => buf.referenceFrame (order i) }

/-- The sets of a picture are sorted lists of its references. -/
structure Listed (buf : VAPictureParameterBufferHEVC) (pictureIdx : Fin 15 → Int)
    (ppc : CUVIDHEVCPICPARAMS) : Prop where
  before : (ppc.set .stCurrBefore).listed = sortedReferences ppc.picOrderCntVal true false
    ((selected buf pictureIdx .stCurrBefore).map Fin.val)
  after : (ppc.set .stCurrAfter).listed = sortedReferences ppc.picOrderCntVal false true
    ((selected buf pictureIdx .stCurrAfter).map Fin.val)
  index : ∀ i : Fin 15, ppc.pictureIndex i = pictureIdx i
  picOrderCnt : ∀ i : Fin 15, ppc.orderCount i = (buf.referenceFrame i).picOrderCnt

theorem copyHEVCPicParam_listed (ctx : NVContext) {buf : VAPictureParameterBufferHEVC}
    {pictureIdx : Fin 15 → Int} {picParams : CUVIDPICPARAMS}
    (hfew : ¬ tooManyTiles buf picParams.hevc)
    (hfits : ∀ k, (selected buf pictureIdx k).length ≤ 8) :
    ∃ ctx' picParams', copyHEVCPicParam ctx buf pictureIdx picParams = some (ctx', picParams') ∧
      Listed buf pictureIdx picParams'.hevc := by
  obtain ⟨ctx', picParams', ppc, hcopy, hloop, hcopied, hfinished⟩ :=
    copyHEVCPicParam_fits ctx hfew hfits
  have hset : ∀ k, (ppc.set k).listed = (selected buf pictureIdx k).map Fin.val := by
    intro k
    have hstart : ((copyTileFields buf (copySequenceFields buf picParams.hevc)).set k).listed =
        [] := by simp [CountedArray.listed, copyTileFields_count]
    rw [hcopied.listed, hstart, List.nil_append]
    rfl
  refine ⟨ctx', picParams', hcopy, ⟨?_, ?_, fun i => ?_, fun i => ?_⟩⟩
  · rw [hfinished.before, hset, hfinished.picOrderCnt]
  · rw [hfinished.after, hset, hfinished.picOrderCnt]
  · show picParams'.hevc.refPicIdx[i] = _
    rw [hfinished.index]
    exact hcopied.index i (List.mem_finRange i)
  · show picParams'.hevc.picOrderCntVal[i] = _
    rw [hfinished.picOrderCnt]
    exact copyReferences_picOrderCnt hloop i (.inl (List.mem_finRange i))

/-! ## Another order of the reference frames -/

section Relisted

variable {buf : VAPictureParameterBufferHEVC} {pictureIdx : Fin 15 → Int}

/-- The tiles are not in the list. -/
theorem tooManyTiles_relisted (order : Equiv.Perm (Fin 15)) (ppc : CUVIDHEVCPICPARAMS) :
    tooManyTiles (buf.relisted order) ppc = tooManyTiles buf ppc := by
  unfold tooManyTiles
  rfl

theorem relisted_frame (order : Equiv.Perm (Fin 15)) (i : Fin 15) :
    (buf.relisted order).referenceFrame i = buf.referenceFrame (order i) := by
  show (Vector.ofFn fun i => buf.referenceFrame (order i))[i.val] = _
  rw [Vector.getElem_ofFn]

theorem entry_relisted (order : Equiv.Perm (Fin 15)) (i : Fin 15) :
    entry (buf.relisted order) (pictureIdx ∘ order) i = entry buf pictureIdx (order i) := by
  unfold entry
  rw [relisted_frame]
  rfl

/-- The same references are selected. -/
theorem selected_relisted (order : Equiv.Perm (Fin 15)) (k : RefSet) :
    ((selected (buf.relisted order) (pictureIdx ∘ order) k).map order).Perm
      (selected buf pictureIdx k) := by
  have hnodup (buf : VAPictureParameterBufferHEVC) (pictureIdx : Fin 15 → Int) :
      (selected buf pictureIdx k).Nodup :=
    (List.nodup_finRange 15).filter _
  have hselection (i : Fin 15) : selection (buf.relisted order) (pictureIdx ∘ order) i =
      selection buf pictureIdx (order i) := by
    unfold selection
    rw [relisted_frame]
    rfl
  rw [List.perm_ext_iff_of_nodup ((hnodup _ _).map order.injective) (hnodup _ _)]
  intro j
  simp only [List.mem_map, selected, List.mem_filter, List.mem_finRange, true_and, hselection,
    decide_eq_true_eq]
  constructor
  · rintro ⟨i, hi, rfl⟩
    exact hi
  · intro hj
    exact ⟨order.symm j, by rwa [order.apply_symm_apply], order.apply_symm_apply j⟩

/-- The counts and pictures of a set in its order are those of its references, sorted. -/
theorem Listed.entries {ppc : CUVIDHEVCPICPARAMS} (hlisted : Listed buf pictureIdx ppc)
    (descending descendingTie : Bool) (k : RefSet) :
    ∃ entries : List (Int × Int), entries.Perm ((selected buf pictureIdx k).map
        (entry buf pictureIdx)) ∧
      entries.Pairwise (fun a b => if descending then b.1 ≤ a.1 else a.1 ≤ b.1) ∧
      (sortedReferences ppc.picOrderCntVal descending descendingTie
        ((selected buf pictureIdx k).map Fin.val)).map (pictureAt ppc) =
          entries.map Prod.snd := by
  have hentry (i : Fin 15) : entryAt ppc i.val = entry buf pictureIdx i := by
    have hcount := hlisted.picOrderCnt i
    have hindex := hlisted.index i
    unfold entryAt pictureAt countOf entry
    rw [Vector.getElem?_eq_getElem (by omega), Vector.getElem?_eq_getElem (by omega)]
    exact Prod.ext hcount hindex
  refine ⟨(sortedReferences ppc.picOrderCntVal descending descendingTie
    ((selected buf pictureIdx k).map Fin.val)).map (entryAt ppc), ?_, ?_, ?_⟩
  · refine ((sortedReferences_perm ..).map (entryAt ppc)).trans (.of_eq ?_)
    rw [List.map_map]
    exact List.map_congr_left fun i _ => hentry i
  · rw [List.pairwise_map]
    refine (sortedReferences_pairwise ..).imp fun {a b} hprecedes => ?_
    unfold Precedes at hprecedes
    cases descending <;>
      simp only [entryAt, if_true, if_false, Bool.false_eq_true] at hprecedes ⊢ <;> omega
  · rw [List.map_map]
    rfl

/-- Where the counts differ, two sorted lists of the same references show the same pictures. -/
theorem DistinctCounts.sorted_eq {k : RefSet} (hdistinct : DistinctCounts buf pictureIdx k)
    {descending : Bool} {entries entries' : List (Int × Int)}
    (hentries : entries.Perm ((selected buf pictureIdx k).map (entry buf pictureIdx)))
    (hentries' : entries'.Perm ((selected buf pictureIdx k).map (entry buf pictureIdx)))
    (hsorted : entries.Pairwise fun a b => if descending then b.1 ≤ a.1 else a.1 ≤ b.1)
    (hsorted' : entries'.Pairwise fun a b => if descending then b.1 ≤ a.1 else a.1 ≤ b.1) :
    entries = entries' := by
  refine List.Perm.eq_of_pairwise ?_ hsorted hsorted' (hentries.trans hentries'.symm)
  intro a b ha hb hab hba
  obtain ⟨i, hi, rfl⟩ := List.mem_map.mp (hentries.mem_iff.mp ha)
  obtain ⟨j, hj, rfl⟩ := List.mem_map.mp (hentries'.mem_iff.mp hb)
  have hcount : (entry buf pictureIdx i).1 = (entry buf pictureIdx j).1 := by
    cases descending <;> simp only [if_true, if_false, Bool.false_eq_true] at hab hba <;> omega
  rw [hdistinct i hi j hj hcount]

/-- A sorted set shows the same pictures for every order of the reference frames. -/
theorem Listed.sorted_relisted {order : Equiv.Perm (Fin 15)} {ppc ppc' : CUVIDHEVCPICPARAMS}
    (hlisted : Listed buf pictureIdx ppc)
    (hlisted' : Listed (buf.relisted order) (pictureIdx ∘ order) ppc')
    (descending descendingTie : Bool) {k : RefSet}
    (hdistinct : DistinctCounts buf pictureIdx k) :
    (sortedReferences ppc'.picOrderCntVal descending descendingTie
      ((selected (buf.relisted order) (pictureIdx ∘ order) k).map Fin.val)).map (pictureAt ppc') =
      (sortedReferences ppc.picOrderCntVal descending descendingTie
        ((selected buf pictureIdx k).map Fin.val)).map (pictureAt ppc) := by
  obtain ⟨entries, hperm, hsorted, heq⟩ := hlisted.entries descending descendingTie k
  obtain ⟨entries', hperm', hsorted', heq'⟩ := hlisted'.entries descending descendingTie k
  have hsame : ((selected (buf.relisted order) (pictureIdx ∘ order) k).map
      (entry (buf.relisted order) (pictureIdx ∘ order))).Perm
        ((selected buf pictureIdx k).map (entry buf pictureIdx)) := by
    refine (List.Perm.of_eq ?_).trans ((selected_relisted order k).map (entry buf pictureIdx))
    rw [List.map_map]
    exact List.map_congr_left fun i _ => entry_relisted order i
  rw [heq, heq', hdistinct.sorted_eq (hperm'.trans hsame) hperm hsorted' hsorted]

end Relisted

/-- A set that is sorted. -/
def RefSet.sorted : RefSet → Prop
  | .stCurrBefore | .stCurrAfter => True
  | .ltCurr => False

theorem Listed.pictures_relisted {buf : VAPictureParameterBufferHEVC} {pictureIdx : Fin 15 → Int}
    {order : Equiv.Perm (Fin 15)} {ppc ppc' : CUVIDHEVCPICPARAMS}
    (hlisted : Listed buf pictureIdx ppc)
    (hlisted' : Listed (buf.relisted order) (pictureIdx ∘ order) ppc') {k : RefSet}
    (hk : k.sorted) (hdistinct : DistinctCounts buf pictureIdx k) :
    pictures ppc' k = pictures ppc k := by
  unfold pictures
  cases k with
  | stCurrBefore =>
      rw [hlisted.before, hlisted'.before]
      exact hlisted.sorted_relisted hlisted' true false hdistinct
  | stCurrAfter =>
      rw [hlisted.after, hlisted'.after]
      exact hlisted.sorted_relisted hlisted' false true hdistinct
  | ltCurr => exact hk.elim

/-- The handler is given the same reference frames in two orders. -/
theorem copyHEVCPicParam_relisted {ctx ctx' : NVContext} {buf : VAPictureParameterBufferHEVC}
    {pictureIdx : Fin 15 → Int} {picParams picParams' : CUVIDPICPARAMS}
    (hcopy : copyHEVCPicParam ctx buf pictureIdx picParams = some (ctx', picParams'))
    (order : Equiv.Perm (Fin 15)) :
    ∃ ctx'' picParams'',
      copyHEVCPicParam ctx (buf.relisted order) (pictureIdx ∘ order) picParams =
        some (ctx'', picParams'') ∧
      ∀ k : RefSet, k.sorted → DistinctCounts buf pictureIdx k →
        pictures picParams''.hevc k = pictures picParams'.hevc k := by
  by_cases hmany : tooManyTiles buf picParams.hevc
  · obtain ⟨ctx₁, picParams₁, hcopy₁, -, hsets, hindex⟩ :=
      copyHEVCPicParam_refused ctx pictureIdx hmany
    obtain ⟨ctx₂, picParams₂, hcopy₂, -, hsets₂, hindex₂⟩ :=
      copyHEVCPicParam_refused ctx (pictureIdx ∘ order)
        ((tooManyTiles_relisted order picParams.hevc).mpr hmany)
    cases hcopy.symm.trans hcopy₁
    refine ⟨ctx₂, picParams₂, hcopy₂, fun k _ _ => ?_⟩
    unfold pictures pictureAt
    rw [hsets, hsets₂, hindex, hindex₂]
  · have hfits : ∀ k, (selected buf pictureIdx k).length ≤ 8 := by
      by_contra hfull
      rw [copyHEVCPicParam_full ctx hmany hfull] at hcopy
      cases hcopy
    have hfits' : ∀ k, (selected (buf.relisted order) (pictureIdx ∘ order) k).length ≤ 8 := by
      intro k
      have hsame : ((selected (buf.relisted order) (pictureIdx ∘ order) k).map order).Perm
          (selected buf pictureIdx k) := selected_relisted order k
      have hlength := hsame.length_eq
      rw [List.length_map] at hlength
      rw [hlength]
      exact hfits k
    obtain ⟨ctx₁, picParams₁, hcopy₁, hlisted⟩ := copyHEVCPicParam_listed ctx hmany hfits
    obtain ⟨ctx₂, picParams₂, hcopy₂, hlisted₂⟩ := copyHEVCPicParam_listed ctx
      (fun h => hmany ((tooManyTiles_relisted order picParams.hevc).mp h)) hfits'
    cases hcopy.symm.trans hcopy₁
    exact ⟨ctx₂, picParams₂, hcopy₂, fun k hk hdistinct =>
      hlisted.pictures_relisted hlisted₂ hk hdistinct⟩

/-- Both sets of a picture are in their order. -/
structure InOrder (ppc : CUVIDHEVCPICPARAMS) : Prop where
  before : (ppc.set .stCurrBefore).listed.Pairwise (Precedes ppc.picOrderCntVal true false)
  after : (ppc.set .stCurrAfter).listed.Pairwise (Precedes ppc.picOrderCntVal false true)

/-- A picture that is not refused has its sets in order. -/
theorem copyHEVCPicParam_inOrder {ctx ctx' : NVContext} {buf : VAPictureParameterBufferHEVC}
    {pictureIdx : Fin 15 → Int} {picParams picParams' : CUVIDPICPARAMS}
    (hcopy : copyHEVCPicParam ctx buf pictureIdx picParams = some (ctx', picParams'))
    (hfew : ¬ tooManyTiles buf picParams.hevc) : InOrder picParams'.hevc := by
  have hfits : ∀ k, (selected buf pictureIdx k).length ≤ 8 := by
    by_contra hfull
    rw [copyHEVCPicParam_full ctx hfew hfull] at hcopy
    cases hcopy
  obtain ⟨ctx₁, picParams₁, hcopy₁, hlisted⟩ := copyHEVCPicParam_listed ctx hfew hfits
  cases hcopy.symm.trans hcopy₁
  constructor
  · rw [hlisted.before]
    exact sortedReferences_pairwise ..
  · rw [hlisted.after]
    exact sortedReferences_pairwise ..

/-- The sort returns the entries of a set in the order of their counts, whatever the order
they come in, and the pictures of a set whose counts differ are shown in one order for all
orders of the reference frames. -/
theorem referenceOrder :
    (∀ (n m : Nat) (POCV : Vector Int m) (descending descendingTie : Bool) (refs : Vector Nat n)
      (count : Nat), count ≤ n → (∀ r ∈ refs.toList.take count, r < m) →
      ∃ refs', sortReferenceSet POCV descending descendingTie refs count = some refs' ∧
        Sorted POCV descending descendingTie count refs refs' ∧
        ∀ other : Vector Nat n, (other.toList.take count).Perm (refs.toList.take count) →
          ∃ other', sortReferenceSet POCV descending descendingTie other count = some other' ∧
            other'.toList.take count = refs'.toList.take count) ∧
    ∀ (ctx ctx' : NVContext) (buf : VAPictureParameterBufferHEVC) (pictureIdx : Fin 15 → Int)
      (picParams picParams' : CUVIDPICPARAMS),
      copyHEVCPicParam ctx buf pictureIdx picParams = some (ctx', picParams') →
      (¬ tooManyTiles buf picParams.hevc → InOrder picParams'.hevc) ∧
      ∀ order : Equiv.Perm (Fin 15), ∃ ctx'' picParams'',
        copyHEVCPicParam ctx (buf.relisted order) (pictureIdx ∘ order) picParams =
          some (ctx'', picParams'') ∧
        ∀ k : RefSet, k.sorted → DistinctCounts buf pictureIdx k →
          pictures picParams''.hevc k = pictures picParams'.hevc k := by
  constructor
  · intro n m POCV descending descendingTie refs count hcount hrefs
    obtain ⟨refs', hsort, hsorted, hused⟩ :=
      sortReferenceSet_sorted POCV descending descendingTie hcount hrefs
    refine ⟨refs', hsort, hsorted, fun other hperm => ?_⟩
    obtain ⟨other', hsort', -, hused'⟩ := sortReferenceSet_sorted POCV descending descendingTie
      hcount fun r hr => hrefs r (hperm.mem_iff.mp hr)
    refine ⟨other', hsort', ?_⟩
    rw [hused, hused', sortedReferences_congr _ _ _ hperm]
  · intro ctx ctx' buf pictureIdx picParams picParams' hcopy
    exact ⟨copyHEVCPicParam_inOrder hcopy, copyHEVCPicParam_relisted hcopy⟩

/-- Two references before the current picture and two after it, in an order that is none of
theirs. -/
def fourReferences : VAPictureParameterBufferHEVC :=
  { nineBefore with
    referenceFrames := Vector.ofFn fun i => ⟨i, [8, 16, 4, 12].getD i 0,
      if i.val < 4 then [vaPictureHevcRpsStCurrBefore, vaPictureHevcRpsStCurrAfter].getD (i % 2) 0
      else 0⟩ }

theorem referenceOrder_fourReferences :
    (∃ refs', sortReferenceSet #v[5, 9, 5] true false #v[2, 0, 1, 7] 3 = some refs' ∧
      Sorted #v[5, 9, 5] true false 3 #v[2, 0, 1, 7] refs') ∧
    ∃ (ctx' ctx'' : NVContext) (picParams' picParams'' : CUVIDPICPARAMS)
        (order : Equiv.Perm (Fin 15)), order 0 = 2 ∧
      copyHEVCPicParam default fourReferences (fun i => i) emptyParameters =
        some (ctx', picParams') ∧ InOrder picParams'.hevc ∧
      copyHEVCPicParam default (fourReferences.relisted order) ((fun i : Fin 15 => (i : Int)) ∘ order)
        emptyParameters = some (ctx'', picParams'') ∧
      pictures picParams''.hevc .stCurrBefore = pictures picParams'.hevc .stCurrBefore := by
  obtain ⟨refs', hsort, hsorted, -⟩ := referenceOrder.1 4 3 #v[5, 9, 5] true false #v[2, 0, 1, 7]
    3 (by decide) (by decide)
  have hsome : (copyHEVCPicParam default fourReferences (fun i => i) emptyParameters).isSome := by
    decide
  obtain ⟨⟨ctx', picParams'⟩, hcopy⟩ := Option.isSome_iff_exists.mp hsome
  obtain ⟨horder, hrelisted⟩ := referenceOrder.2 _ _ _ _ _ _ hcopy
  obtain ⟨ctx'', picParams'', hcopy', hsame⟩ := hrelisted (Equiv.swap 0 2)
  have hdistinct : DistinctCounts fourReferences (fun i => i) .stCurrBefore := by
    unfold DistinctCounts
    decide
  exact ⟨⟨refs', hsort, hsorted⟩, ctx', ctx'', picParams', picParams'', Equiv.swap 0 2, by decide,
    hcopy, horder (by decide), hcopy', hsame .stCurrBefore trivial hdistinct⟩

end Hevc
end NvidiaVaapi
