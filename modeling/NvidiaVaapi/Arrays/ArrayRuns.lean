import NvidiaVaapi.Arrays.PointerArray

/-!
# Sequences of calls on an array of pointers

After any sequence of additions and removals, with memory refused at any time, an array is the
list that the same calls make of the empty list.  A walk from its end comes to every element
once, also if its body removes elements on the way.
-/

namespace NvidiaVaapi
namespace Arrays

open Codec

variable {α : Type}

/-- The calls that change an array, with the answers of `calloc` and `realloc`. -/
inductive ArrayCall (α : Type) where
  | add (element : Option α) (realloc : Realloc α)
  | allocAndAdd (calloc : Option α) (realloc : Realloc α)
  | removeAt (index : Nat)
  | removeAndFreeAt (index : Nat)

namespace ArrayCall

/-- The memory that the call may ask for is there. -/
def granted : ArrayCall α → Bool
  | .add _ realloc => realloc.isSome
  | .allocAndAdd calloc realloc => calloc.isSome && realloc.isSome
  | .removeAt _ | .removeAndFreeAt _ => true

/-- A call on a list, if it succeeds. -/
def onList (elements : List (Option α)) : ArrayCall α → List (Option α)
  | .add element _ => elements ++ [element]
  | .allocAndAdd calloc _ => elements ++ [calloc]
  | .removeAt index | .removeAndFreeAt index => elements.eraseIdx index

/-- A call on an array; the flag says whether it succeeds. -/
def perform (arr : PointerArray α) : ArrayCall α → Option (PointerArray α × Bool)
  | .add element realloc => arr.addElement realloc element
  | .allocAndAdd calloc realloc => do
    let (arr, element) ← arr.allocAndAddElement calloc realloc
    some (arr, element.isSome)
  | .removeAt index => do
    let arr ← arr.removeElementAt index
    some (arr, true)
  | .removeAndFreeAt index => do
    let (arr, _) ← arr.removeAndFreeElementAt index
    some (arr, true)

end ArrayCall

/-- Calls with their results. -/
abbrev History (α : Type) := List (ArrayCall α × Bool)

/-- A sequence of calls. -/
def performAll (arr : PointerArray α) :
    List (ArrayCall α) → Option (PointerArray α × History α)
  | [] => some (arr, [])
  | call :: rest => do
    let (next, result) ← call.perform arr
    let (last, history) ← performAll next rest
    some (last, (call, result) :: history)

/-- The list after one more call. -/
def listStep (elements : List (Option α)) (entry : ArrayCall α × Bool) : List (Option α) :=
  if entry.2 then entry.1.onList elements else elements

/-- What the calls that have succeeded make of a list. -/
def listAfter (elements : List (Option α)) (history : History α) : List (Option α) :=
  history.foldl listStep elements

/-- The array is a list with empty slots behind it, and can be walked from its end. -/
structure IsList (arr : PointerArray α) (elements : List (Option α)) : Prop where
  size : arr.size = elements.length
  block : arr.buf.length = arr.capacity
  contents : arr.buf.take arr.size = elements
  empty : ∀ k, arr.size ≤ k → k < arr.capacity → arr.buf[k]? = some none
  walk : ∀ (remove : Nat → Option α → Bool) rounds, elements.length < rounds →
    ∃ arr', arr.forEachRev remove rounds = some (elements.reverse, arr') ∧
      Denotes arr' (kept remove elements)
  drain : ∀ rounds, elements.length < rounds →
    ∃ arr', arr.forEachRev (fun _ _ => true) rounds = some (elements.reverse, arr') ∧
      Denotes arr' []

theorem Denotes.isList {arr : PointerArray α} {elements : List (Option α)}
    (h : Denotes arr elements) : IsList arr elements where
  size := h.size
  block := h.length_buf
  contents := h.take
  empty _ := h.slot_empty
  walk remove _ := h.forEachRev remove
  drain rounds hrounds := by
    obtain ⟨arr', hwalk, hkept⟩ := h.forEachRev (fun _ _ => true) hrounds
    refine ⟨arr', hwalk, ?_⟩
    have hnothing : kept (fun _ _ => true) elements = [] := by
      simp [kept]
    rw [hnothing] at hkept
    exact hkept

/-- One call does on the array what it does on the list, and fails only for want of memory or
of indices. -/
theorem perform_spec {arr : PointerArray α} {elements : List (Option α)}
    (h : Denotes arr elements) (call : ArrayCall α) :
    ∃ arr' result, call.perform arr = some (arr', result) ∧
      Denotes arr' (listStep elements (call, result)) ∧
      (result = false → call.granted = false ∨ elements.length = uint32Max) := by
  cases call with
  | add element realloc =>
      obtain ⟨arr', added, hadd, hdenotes, hrefused⟩ := h.addElement realloc element
      refine ⟨arr', added, hadd, hdenotes, fun hfailed => ?_⟩
      exact (hrefused hfailed).imp_left fun hnone => by rw [ArrayCall.granted, hnone]; rfl
  | allocAndAdd calloc realloc =>
      cases calloc with
      | none => exact ⟨arr, false, rfl, h, fun _ => .inl rfl⟩
      | some element =>
          obtain ⟨arr', added, hadd, hdenotes, hrefused⟩ := h.addElement realloc (some element)
          refine ⟨arr', added, ?_, hdenotes, fun hfailed => ?_⟩
          · unfold ArrayCall.perform PointerArray.allocAndAddElement
            simp only [hadd, Option.bind_eq_bind, Option.bind_some]
            cases added <;> rfl
          · exact (hrefused hfailed).imp_left fun hnone => by rw [ArrayCall.granted, hnone]; rfl
  | removeAt index =>
      obtain ⟨arr', hremove, hdenotes⟩ := h.removeElementAt index
      refine ⟨arr', true, ?_, hdenotes, nofun⟩
      rw [ArrayCall.perform, hremove]
      rfl
  | removeAndFreeAt index =>
      obtain ⟨arr', hremove, hdenotes⟩ := h.removeElementAt index
      refine ⟨arr', true, ?_, hdenotes, nofun⟩
      rw [ArrayCall.perform, PointerArray.removeAndFreeElementAt, h.getElementAt, hremove]
      rfl

/-- The calls of a sequence, one by one. -/
theorem performAll_spec (calls : List (ArrayCall α)) {arr : PointerArray α}
    {elements : List (Option α)} (h : Denotes arr elements) :
    ∃ arr' history, performAll arr calls = some (arr', history) ∧
      history.map Prod.fst = calls ∧ Denotes arr' (listAfter elements history) ∧
      ∀ past call future, history = past ++ (call, false) :: future →
        call.granted = false ∨ (listAfter elements past).length = uint32Max := by
  induction calls generalizing arr elements with
  | nil => exact ⟨arr, [], rfl, rfl, h, fun past _ _ hnil => by cases past <;> cases hnil⟩
  | cons call rest ih =>
      obtain ⟨next, result, hcall, hnext, hrefused⟩ := perform_spec h call
      obtain ⟨last, history, hrest, hcalls, hlast, hfailures⟩ := ih hnext
      refine ⟨last, (call, result) :: history, ?_, ?_, hlast, ?_⟩
      · rw [performAll, hcall]
        simp only [Option.bind_eq_bind, Option.bind_some]
        rw [hrest, Option.bind_some]
      · rw [List.map_cons, hcalls]
      · intro past failed future hsplit
        cases past with
        | nil =>
            obtain ⟨hentry, -⟩ := List.cons.inj hsplit
            obtain ⟨rfl, rfl⟩ := Prod.mk.inj hentry
            exact hrefused rfl
        | cons entry past =>
            obtain ⟨rfl, htail⟩ := List.cons.inj hsplit
            exact hfailures past failed future htail

/-- An array of pointers is a list.  After any sequence of calls on an empty array, whatever
`calloc` and `realloc` answer, the array holds what the calls that succeeded make of the empty
list, its other slots are empty, a walk from its end comes to every element once and ends, and
an addition fails only if memory is refused or the size has no successor. -/
theorem array_isList (calls : List (ArrayCall α)) :
    ∃ arr history, performAll {} calls = some (arr, history) ∧
      history.map Prod.fst = calls ∧ IsList arr (listAfter [] history) ∧
      ∀ past call future, history = past ++ (call, false) :: future →
        call.granted = false ∨ (listAfter [] past).length = uint32Max := by
  obtain ⟨arr, history, hrun, hcalls, hdenotes, hfailures⟩ := performAll_spec calls .empty
  exact ⟨arr, history, hrun, hcalls, hdenotes.isList, hfailures⟩

/-- An element is added and the first of two is removed; the walk comes to the other one. -/
example : ∃ arr history, performAll {} [.add (some 1) (some fun _ => some 7),
      .add (some 2) none, .removeAt 0] = some (arr, history) ∧
    (arr.forEachRev (fun _ _ => true) 2).map Prod.fst = some [some 2] :=
  ⟨_, _, rfl, rfl⟩

end Arrays
end NvidiaVaapi
