import Mathlib.Data.List.Sort
import NvidiaVaapi.Lib.FixedArray

/-!
# Sorting a reference set

`sortReferenceSet` of `hevc.c`: an insertion sort, in place, of the indices of a
reference set by picture-order count.  Every access is checked, so that a run
that succeeds has stayed inside the arrays.  The entries in front, read from the
last to the first, are the insertion sort of lists.
-/

namespace NvidiaVaapi
namespace Hevc

open FixedArray

/-- Whether `previous` has to come after the key that is being inserted. -/
def outOfOrder (descending descendingTie : Bool) (previous key : Nat)
    (previousPOC keyPOC : Int) : Bool :=
  let pocOutOfOrder := if descending then previousPOC < keyPOC else previousPOC > keyPOC
  let tieOutOfOrder := previousPOC = keyPOC ∧
    if descendingTie then previous < key else previous > key
  pocOutOfOrder ∨ tieOutOfOrder

section Sorting

variable {n m : Nat} (POCV : Vector Int m) (descending descendingTie : Bool)

/-- The inner loop: entries that have to come after the key move up by one place,
and the key takes the place that they leave. -/
def insertReference (key : Nat) (keyPOC : Int) : Nat → Vector Nat n → Option (Vector Nat n)
  | 0, refs => store refs 0 key
  | j + 1, refs => do
    let previous ← refs[j]?
    let previousPOC ← POCV[previous]?
    if outOfOrder descending descendingTie previous key previousPOC keyPOC then
      insertReference key keyPOC j (← store refs (j + 1) previous)
    else
      store refs (j + 1) key

/-- The body of the outer loop. -/
def insertPlace (refs : Vector Nat n) (i : Nat) : Option (Vector Nat n) := do
  let key ← refs[i]?
  let keyPOC ← POCV[key]?
  insertReference POCV descending descendingTie key keyPOC i refs

/-- `sortReferenceSet`. -/
def sortReferenceSet (refs : Vector Nat n) (count : Nat) : Option (Vector Nat n) :=
  (List.range' 1 (count - 1)).foldlM (insertPlace POCV descending descendingTie) refs

/-! ## The order -/

/-- The picture-order count of an index. -/
def countOf (i : Nat) : Int :=
  POCV[i]?.getD 0

/-- `a` may stand before `b`: the picture-order counts decide, and for equal counts the
indices. -/
def Precedes (a b : Nat) : Prop :=
  (if descending then countOf POCV b < countOf POCV a else countOf POCV a < countOf POCV b) ∨
    (countOf POCV a = countOf POCV b ∧ if descendingTie then b ≤ a else a ≤ b)

/-- `a` may stand behind `b`. -/
def Follows (a b : Nat) : Prop :=
  Precedes POCV descending descendingTie b a

instance : DecidableRel (Follows POCV descending descendingTie) := fun a b => by
  unfold Follows Precedes
  infer_instance

instance : Std.Total (Follows POCV descending descendingTie) where
  total a b := by
    unfold Follows Precedes
    cases descending <;> cases descendingTie <;> simp <;> omega

instance : IsTrans Nat (Follows POCV descending descendingTie) where
  trans a b c := by
    unfold Follows Precedes
    cases descending <;> cases descendingTie <;> simp <;> omega

instance : Std.Antisymm (Precedes POCV descending descendingTie) where
  antisymm a b := by
    unfold Precedes
    cases descending <;> cases descendingTie <;> simp <;> omega

theorem outOfOrder_iff (previous key : Nat) :
    outOfOrder descending descendingTie previous key (countOf POCV previous) (countOf POCV key) =
      true ↔ ¬ Follows POCV descending descendingTie key previous := by
  unfold outOfOrder Follows Precedes
  cases descending <;> cases descendingTie <;> simp <;> omega

/-! ## The loops -/

theorem getElem?_countOf {i : Nat} (hi : i < m) : POCV[i]? = some (countOf POCV i) := by
  unfold countOf
  rw [Vector.getElem?_eq_getElem hi, Option.getD_some]

/-- A write behind the first entries. -/
theorem store_toList {refs : Vector Nat n} {front back : List Nat} {hole : Nat}
    (hrefs : refs.toList = front ++ hole :: back) (key : Nat) :
    ∃ refs', store refs front.length key = some refs' ∧ refs'.toList = front ++ key :: back := by
  have hlength := congrArg List.length hrefs
  rw [Vector.length_toList, List.length_append, List.length_cons] at hlength
  refine ⟨_, store_of_lt refs key (by omega), ?_⟩
  rw [Vector.toList_set, hrefs, List.set_append_right _ _ (Nat.le_refl _), Nat.sub_self,
    List.set_cons_zero]

/-- The inner loop inserts the key; `front` is the sorted entries from the last one on. -/
theorem insertReference_eq (key : Nat) {front back : List Nat} {hole : Nat} {refs : Vector Nat n}
    (hrefs : refs.toList = front.reverse ++ hole :: back) (hfront : ∀ r ∈ front, r < m) :
    ∃ refs', insertReference POCV descending descendingTie key (countOf POCV key) front.length
        refs = some refs' ∧
      refs'.toList =
        (front.orderedInsert (Follows POCV descending descendingTie) key).reverse ++ back := by
  induction front generalizing refs hole back with
  | nil => exact store_toList hrefs key
  | cons previous front ih =>
      rw [List.reverse_cons, List.append_assoc, List.singleton_append] at hrefs
      have hread : refs[front.length]? = some previous := by
        rw [← Vector.getElem?_toList, hrefs, List.getElem?_append_right (by simp),
          List.length_reverse, Nat.sub_self]
        rfl
      have hreadPOC := getElem?_countOf POCV (hfront previous List.mem_cons_self)
      have hfront' : ∀ r ∈ front, r < m := fun r hr => hfront r (List.mem_cons_of_mem _ hr)
      have hplace : (front.reverse ++ [previous]).length = front.length + 1 := by
        simp
      have hsplit : refs.toList = (front.reverse ++ [previous]) ++ hole :: back := by
        rw [hrefs, List.append_assoc, List.singleton_append]
      simp only [List.length_cons, insertReference, hread, hreadPOC, Option.bind_eq_bind,
        Option.bind_some]
      by_cases hstop : Follows POCV descending descendingTie key previous
      · rw [if_neg fun h => (outOfOrder_iff POCV descending descendingTie _ _).mp h hstop]
        obtain ⟨refs', hstore, hlist⟩ := store_toList hsplit key
        rw [hplace] at hstore
        refine ⟨refs', hstore, ?_⟩
        rw [hlist, List.orderedInsert_cons_of_le _ _ hstop]
        simp
      · -- the entry moves up
        rw [if_pos ((outOfOrder_iff POCV descending descendingTie _ _).mpr hstop)]
        obtain ⟨moved, hstore, hlist⟩ := store_toList hsplit previous
        rw [hplace] at hstore
        rw [List.append_assoc, List.singleton_append] at hlist
        obtain ⟨refs', hinsert, hsorted⟩ := ih hlist hfront'
        refine ⟨refs', by rw [hstore]; exact hinsert, ?_⟩
        rw [hsorted, List.orderedInsert_of_not_le _ _ hstop]
        simp

/-- The outer loop inserts the entries one after the other. -/
theorem insertPlaces_eq {front rest back : List Nat} {refs : Vector Nat n}
    (hrefs : refs.toList = front.reverse ++ rest ++ back) (hfront : ∀ r ∈ front, r < m)
    (hrest : ∀ r ∈ rest, r < m) :
    ∃ refs', (List.range' front.length rest.length).foldlM
        (insertPlace POCV descending descendingTie) refs = some refs' ∧
      refs'.toList = (rest.foldl
        (fun sorted key => sorted.orderedInsert (Follows POCV descending descendingTie) key)
          front).reverse ++ back := by
  induction rest generalizing refs front with
  | nil => exact ⟨refs, rfl, by simpa using hrefs⟩
  | cons key rest ih =>
      rw [List.append_assoc, List.cons_append] at hrefs
      have hread : refs[front.length]? = some key := by
        rw [← Vector.getElem?_toList, hrefs, List.getElem?_append_right (by simp),
          List.length_reverse, Nat.sub_self]
        rfl
      have hreadPOC := getElem?_countOf POCV (hrest key List.mem_cons_self)
      obtain ⟨refs₁, hinsert, hlist⟩ := insertReference_eq POCV descending descendingTie key hrefs
        hfront
      rw [← List.append_assoc] at hlist
      have hplace : insertPlace POCV descending descendingTie refs front.length = some refs₁ := by
        simp only [insertPlace, hread, hreadPOC, Option.bind_eq_bind, Option.bind_some]
        exact hinsert
      have hfront' : ∀ r ∈ front.orderedInsert (Follows POCV descending descendingTie) key,
          r < m := by
        intro r hr
        rcases (List.mem_orderedInsert _).mp hr with rfl | hr
        · exact hrest r List.mem_cons_self
        · exact hfront r hr
      obtain ⟨refs', hloop, hsorted⟩ :=
        ih hlist hfront' fun r hr => hrest r (List.mem_cons_of_mem _ hr)
      refine ⟨refs', ?_, hsorted⟩
      rw [List.length_cons, List.range'_succ, List.foldlM_cons, hplace]
      rw [List.orderedInsert_length] at hloop
      exact hloop

/-- The entries in use, sorted: the loops insert from the first entry on, and read the sorted
part from its end. -/
def sortedReferences (refs : List Nat) : List Nat :=
  (refs.reverse.insertionSort (Follows POCV descending descendingTie)).reverse

/-- The sort stays inside its arrays and sorts the entries in use. -/
theorem sortReferenceSet_eq {refs : Vector Nat n} {count : Nat} (hcount : count ≤ n)
    (hrefs : ∀ r ∈ refs.toList.take count, r < m) :
    ∃ refs', sortReferenceSet POCV descending descendingTie refs count = some refs' ∧
      refs'.toList = sortedReferences POCV descending descendingTie (refs.toList.take count) ++
        refs.toList.drop count := by
  have hwhole := List.take_append_drop count refs.toList
  have hlength : (refs.toList.take count).length = count := by
    rw [List.length_take, Vector.length_toList, Nat.min_eq_left hcount]
  generalize refs.toList.take count = used at *
  generalize refs.toList.drop count = back at *
  unfold sortReferenceSet sortedReferences
  cases used with
  | nil =>
      obtain rfl : count = 0 := hlength.symm
      exact ⟨refs, rfl, hwhole.symm⟩
  | cons first rest =>
      have hfirst : refs.toList = [first].reverse ++ rest ++ back := hwhole.symm
      have hin : ∀ r ∈ [first], r < m := by
        intro r hr
        obtain rfl := List.mem_singleton.mp hr
        exact hrefs r List.mem_cons_self
      obtain ⟨refs', hloop, hsorted⟩ := insertPlaces_eq POCV descending descendingTie hfirst hin
        fun r hr => hrefs r (List.mem_cons_of_mem _ hr)
      rw [List.length_cons] at hlength
      refine ⟨refs', ?_, ?_⟩
      · rw [← hlength, Nat.add_sub_cancel]
        exact hloop
      · rw [hsorted, List.insertionSort, List.foldr_reverse]
        rfl

theorem sortedReferences_perm (refs : List Nat) :
    (sortedReferences POCV descending descendingTie refs).Perm refs :=
  calc
    (sortedReferences POCV descending descendingTie refs).Perm
        (refs.reverse.insertionSort (Follows POCV descending descendingTie)) :=
      List.reverse_perm _
    List.Perm _ refs.reverse := List.perm_insertionSort _ _
    List.Perm _ refs := List.reverse_perm _

/-- The result is in the order of the picture-order counts. -/
theorem sortedReferences_pairwise (refs : List Nat) :
    (sortedReferences POCV descending descendingTie refs).Pairwise
      (Precedes POCV descending descendingTie) := by
  unfold sortedReferences
  rw [List.pairwise_reverse]
  exact List.pairwise_insertionSort (Follows POCV descending descendingTie) refs.reverse

/-- The order of the entries does not matter. -/
theorem sortedReferences_congr {refs refs' : List Nat} (hperm : refs.Perm refs') :
    sortedReferences POCV descending descendingTie refs =
      sortedReferences POCV descending descendingTie refs' := by
  apply List.Perm.eq_of_pairwise' (sortedReferences_pairwise _ _ _ _)
    (sortedReferences_pairwise POCV descending descendingTie _)
  calc
    (sortedReferences POCV descending descendingTie refs).Perm refs := sortedReferences_perm ..
    List.Perm _ refs' := hperm
    List.Perm _ _ := (sortedReferences_perm ..).symm

end Sorting

end Hevc
end NvidiaVaapi
