import NvidiaVaapi.Codec.AppendableBuffer

/-!
# Arrays of pointers

`list.c`: a block of pointers that grows, of which the first `size` slots are in use.  A slot
without a pointer holds `NULL`.  Every access may lie outside of the block, and a result `none`
stands for such an access, or for a loop that is still running after the rounds it was given.
-/

namespace NvidiaVaapi
namespace Arrays

open Codec

variable {α : Type}

/-- `Array` of `list.h`; the block is `buf`. -/
structure PointerArray (α : Type) where
  buf : List (Option α) := []
  size : Nat := 0
  capacity : Nat := 0

/-- The answer of `realloc`: no block, or one whose new slots hold anything. -/
abbrev Realloc (α : Type) := Option (Nat → Option α)

/-- A block of another capacity, with the old slots in front. -/
def resize (buf : List (Option α)) (capacity : Nat) (contents : Nat → Option α) :
    List (Option α) :=
  buf.take capacity ++ (List.range' buf.length (capacity - buf.length)).map contents

/-- `memset` to zero of some slots. -/
def clearSlots (buf : List (Option α)) (start count : Nat) : Option (List (Option α)) :=
  if start + count ≤ buf.length then
    some (buf.take start ++ List.replicate count none ++ buf.drop (start + count))
  else none

/-- An assignment to a slot. -/
def storeSlot (buf : List (Option α)) (i : Nat) (element : Option α) :
    Option (List (Option α)) :=
  if i < buf.length then some (buf.set i element) else none

/-- The loop of `ensure_capacity`. -/
def growCapacity (newCapacity : Nat) : Nat → Nat → Option Nat
  | 0, _ => none
  | rounds + 1, capacity =>
    if newCapacity > capacity then
      let growth := capacity / 2
      if growth = 0 ∨ capacity > uint32Max - growth then some newCapacity
      else growCapacity newCapacity rounds (capacity + growth)
    else some capacity

/-- The loop of `remove_element_at`, over the slots from `i` on. -/
def moveDown : Nat → Nat → List (Option α) → Option (List (Option α))
  | 0, _, buf => some buf
  | count + 1, i, buf => do
    let element ← buf[i + 1]?
    moveDown count (i + 1) (← storeSlot buf i element)

namespace PointerArray

/-- `ensure_capacity`; the flag is its result. -/
def ensureCapacity (realloc : Realloc α) (arr : PointerArray α) (newCapacity : Nat) :
    Option (PointerArray α × Bool) :=
  if newCapacity ≤ arr.capacity then some (arr, true)
  else do
    -- every round adds a slot at least
    let capacity ← (if arr.capacity = 0 then some 16
      else growCapacity newCapacity (newCapacity + 1) arr.capacity)
    if capacity ≠ 0 ∧ 8 > sizeMax / capacity then some (arr, false)
    else
      match realloc with
      | none => some (arr, false)
      | some contents => do
        let buf ← clearSlots (resize arr.buf capacity contents) arr.capacity
          (capacity - arr.capacity)
        some ({ arr with buf, capacity }, true)

/-- `add_element`; the flag is its result. -/
def addElement (realloc : Realloc α) (arr : PointerArray α) (element : Option α) :
    Option (PointerArray α × Bool) :=
  if arr.size = uint32Max then some (arr, false)
  else do
    match ← arr.ensureCapacity realloc (arr.size + 1) with
    | (arr, false) => some (arr, false)
    | (arr, true) =>
      let buf ← storeSlot arr.buf arr.size element
      some ({ arr with buf, size := arr.size + 1 }, true)

/-- `alloc_and_add_element` with the answer of `calloc`; the result is the new element. -/
def allocAndAddElement (calloc : Option α) (realloc : Realloc α) (arr : PointerArray α) :
    Option (PointerArray α × Option α) :=
  match calloc with
  | none => some (arr, none)
  | some element => do
    let (arr, added) ← arr.addElement realloc (some element)
    some (arr, if added then some element else none)

/-- `remove_element_at`. -/
def removeElementAt (arr : PointerArray α) (index : Nat) : Option (PointerArray α) :=
  if index ≥ arr.size then some arr
  else do
    let size := arr.size - 1
    let buf ← (if index < size then moveDown (size - index) index arr.buf else some arr.buf)
    let buf ← storeSlot buf size none
    some { arr with buf, size }

/-- `get_element_at`; the block is `NULL` as long as there is no capacity. -/
def getElementAt (arr : PointerArray α) (index : Nat) : Option (Option α) :=
  if arr.buf = [] ∨ index ≥ arr.size then some none else arr.buf[index]?

/-- `remove_and_free_element_at`, with the pointer that is freed. -/
def removeAndFreeElementAt (arr : PointerArray α) (index : Nat) :
    Option (PointerArray α × Option α) := do
  let element ← arr.getElementAt index
  let arr ← arr.removeElementAt index
  some (arr, element)

/-- An index of 32 bits, one less. -/
def before (index : Nat) : Nat :=
  (index + uint32Max) % (uint32Max + 1)

/-- The loop of `ARRAY_FOR_EACH_REV` from an index on, with a body that removes the current
element or leaves it; the elements that it comes to, and the array after it. -/
def walkRev (remove : Nat → Option α → Bool) :
    Nat → Nat → PointerArray α → Option (List (Option α) × PointerArray α)
  | 0, _, _ => none
  | rounds + 1, index, arr =>
    if index < arr.size then do
      let it ← arr.buf[index]?
      let arr ← (if remove index it then arr.removeElementAt index else some arr)
      let (visited, arr) ← walkRev remove rounds (before index) arr
      some (it :: visited, arr)
    else some ([], arr)

/-- `ARRAY_FOR_EACH_REV`. -/
def forEachRev (remove : Nat → Option α → Bool) (rounds : Nat) (arr : PointerArray α) :
    Option (List (Option α) × PointerArray α) :=
  walkRev remove rounds (before arr.size) arr

end PointerArray

/-! ## The list that an array stands for -/

/-- The elements in front, and empty slots behind them. -/
structure Denotes (arr : PointerArray α) (elements : List (Option α)) : Prop where
  size : arr.size = elements.length
  slots : arr.buf = elements ++ List.replicate (arr.capacity - elements.length) none
  room : elements.length ≤ arr.capacity
  fits : arr.capacity ≤ uint32Max

namespace Denotes

variable {arr : PointerArray α} {elements : List (Option α)}

theorem empty : Denotes ({} : PointerArray α) [] where
  size := rfl
  slots := rfl
  room := Nat.le_refl 0
  fits := Nat.zero_le _

theorem length_buf (h : Denotes arr elements) : arr.buf.length = arr.capacity := by
  have hroom := h.room
  rw [h.slots, List.length_append, List.length_replicate]
  omega

/-- The list is read off the array. -/
theorem take (h : Denotes arr elements) : arr.buf.take arr.size = elements := by
  rw [h.slots, h.size, List.take_left]

theorem slot (h : Denotes arr elements) {k : Nat} (hk : k < elements.length) :
    arr.buf[k]? = some elements[k] := by
  rw [h.slots, List.getElem?_append_left hk, List.getElem?_eq_getElem hk]

theorem slot_empty (h : Denotes arr elements) {k : Nat} (hsize : arr.size ≤ k)
    (hcapacity : k < arr.capacity) : arr.buf[k]? = some none := by
  have hlength := h.size
  rw [h.slots, List.getElem?_append_right (by omega), List.getElem?_replicate, if_pos (by omega)]

end Denotes

/-! ## Growth -/

/-- The loop finds room, and a capacity that fits 32 bits. -/
theorem growCapacity_spec {newCapacity rounds capacity : Nat} (hstart : 0 < rounds)
    (hrounds : newCapacity < capacity + rounds) (hnew : newCapacity ≤ uint32Max)
    (hcapacity : capacity ≤ uint32Max) :
    ∃ grown, growCapacity newCapacity rounds capacity = some grown ∧ newCapacity ≤ grown ∧
      capacity ≤ grown ∧ grown ≤ uint32Max := by
  induction rounds generalizing capacity with
  | zero => omega
  | succ rounds ih =>
      unfold growCapacity
      split
      · rename_i hsmall
        simp only
        split
        · exact ⟨newCapacity, rfl, Nat.le_refl _, Nat.le_of_lt hsmall, hnew⟩
        · rename_i hgrows
          obtain ⟨grown, hgrown, hroom, hlarger, hfits⟩ :=
            @ih (capacity + capacity / 2) (by omega) (by omega) (by omega)
          exact ⟨grown, hgrown, hroom, by omega, hfits⟩
      · exact ⟨capacity, rfl, by omega, Nat.le_refl _, hcapacity⟩

/-- A block of pointers with 32 bits of slots has a size in bytes. -/
theorem pointers_fit {capacity : Nat} (hfits : capacity ≤ uint32Max) :
    ¬ (capacity ≠ 0 ∧ 8 > sizeMax / capacity) := by
  rintro ⟨hpos, hlarge⟩
  have hbytes : 8 * capacity ≤ sizeMax := by
    unfold uint32Max at hfits
    unfold sizeMax
    omega
  have hdiv := (Nat.le_div_iff_mul_le (Nat.pos_of_ne_zero hpos)).mpr hbytes
  omega

/-- The new slots of a larger block are cleared, whatever they held. -/
theorem clearSlots_resize (buf : List (Option α)) {capacity : Nat} (contents : Nat → Option α)
    (hlarger : buf.length ≤ capacity) :
    clearSlots (resize buf capacity contents) buf.length (capacity - buf.length) =
      some (buf ++ List.replicate (capacity - buf.length) none) := by
  have hresize : resize buf capacity contents =
      buf ++ (List.range' buf.length (capacity - buf.length)).map contents := by
    rw [resize, List.take_of_length_le hlarger]
  have hlength : (resize buf capacity contents).length = capacity := by
    rw [hresize, List.length_append, List.length_map, List.length_range']
    omega
  rw [clearSlots, if_pos (by omega), List.drop_of_length_le (by omega), List.append_nil, hresize,
    List.take_left]

namespace Denotes

variable {arr : PointerArray α} {elements : List (Option α)}

/-- `ensure_capacity`, as `add_element` calls it, keeps the list; it fails only if there is no
memory. -/
theorem ensureCapacity (h : Denotes arr elements) (realloc : Realloc α)
    (hsmall : elements.length < uint32Max) :
    ∃ arr' enough, arr.ensureCapacity realloc (arr.size + 1) = some (arr', enough) ∧
      Denotes arr' elements ∧ (enough = true → elements.length < arr'.capacity) ∧
      (enough = false → realloc = none) := by
  have hsize := h.size
  have hroom := h.room
  have hfits := h.fits
  unfold PointerArray.ensureCapacity
  split
  · rename_i henough
    exact ⟨arr, true, rfl, h, fun _ => by omega, nofun⟩
  · rename_i hfull
    obtain ⟨capacity, hcapacity, hnew, hlarger, hmax⟩ : ∃ capacity,
        (if arr.capacity = 0 then some 16
          else growCapacity (arr.size + 1) (arr.size + 1 + 1) arr.capacity) = some capacity ∧
        arr.size + 1 ≤ capacity ∧ arr.capacity ≤ capacity ∧ capacity ≤ uint32Max := by
      split
      · refine ⟨16, rfl, by omega, by omega, ?_⟩
        show 16 ≤ 2 ^ 32 - 1
        omega
      · exact growCapacity_spec (by omega) (by omega) (by omega) hfits
    rw [hcapacity]
    simp only [Option.bind_eq_bind, Option.bind_some]
    rw [if_neg (pointers_fit hmax)]
    cases realloc with
    | none => exact ⟨arr, false, rfl, h, nofun, fun _ => rfl⟩
    | some contents =>
        have hclear := clearSlots_resize arr.buf contents
          (Nat.le_trans (Nat.le_of_eq h.length_buf) hlarger)
        rw [h.length_buf] at hclear
        simp only [hclear, Option.bind_some]
        refine ⟨_, true, rfl, ⟨hsize, ?_, ?_, hmax⟩, ?_, nofun⟩
        · show arr.buf ++ List.replicate (capacity - arr.capacity) none =
            elements ++ List.replicate (capacity - elements.length) none
          rw [h.slots, List.append_assoc, ← List.replicate_add]
          congr 2
          omega
        · show elements.length ≤ capacity
          omega
        · intro _
          show elements.length < capacity
          omega

/-! ## Adding -/

/-- `add_element` appends; it fails only if there is no memory, or no index. -/
theorem addElement (h : Denotes arr elements) (realloc : Realloc α) (element : Option α) :
    ∃ arr' added, arr.addElement realloc element = some (arr', added) ∧
      Denotes arr' (if added then elements ++ [element] else elements) ∧
      (added = false → realloc = none ∨ elements.length = uint32Max) := by
  have hsize := h.size
  have hroom := h.room
  have hfits := h.fits
  unfold PointerArray.addElement
  split
  · exact ⟨arr, false, rfl, h, fun _ => .inr (by omega)⟩
  · obtain ⟨mid, enough, hensure, hmid, hgrown, hrefused⟩ :=
      h.ensureCapacity realloc (by omega)
    rw [hensure]
    simp only [Option.bind_eq_bind, Option.bind_some]
    cases enough with
    | false => exact ⟨mid, false, rfl, hmid, fun _ => .inl (hrefused rfl)⟩
    | true =>
        have hroom' := hgrown rfl
        have hstore : storeSlot mid.buf mid.size element = some (elements ++ [element] ++
            List.replicate (mid.capacity - (elements.length + 1)) none) := by
          have hslots : mid.buf = elements ++ none ::
              List.replicate (mid.capacity - (elements.length + 1)) none := by
            rw [hmid.slots, ← List.replicate_succ]
            congr 2
            omega
          rw [storeSlot, hmid.size, if_pos (by rw [hmid.length_buf]; exact hroom'), hslots,
            List.set_append_right _ _ (Nat.le_refl _), Nat.sub_self, List.set_cons_zero,
            List.append_assoc]
          rfl
        simp only [hstore, Option.bind_some]
        refine ⟨_, true, rfl, ⟨?_, ?_, ?_, hmid.fits⟩, nofun⟩
        · show mid.size + 1 = (elements ++ [element]).length
          rw [hmid.size, List.length_append]
          rfl
        · show _ = elements ++ [element] ++
            List.replicate (mid.capacity - (elements ++ [element]).length) none
          rw [List.length_append]
          rfl
        · show (elements ++ [element]).length ≤ mid.capacity
          rw [List.length_append]
          exact hroom'

end Denotes

/-! ## Removing -/

/-- The elements behind a slot move down by one; the last one of them stays where it was. -/
theorem moveDown_spec (front middle back : List (Option α)) (removed : Option α) :
    ∃ last, moveDown middle.length front.length (front ++ removed :: (middle ++ back)) =
      some (front ++ (middle ++ last :: back)) := by
  induction middle generalizing front removed with
  | nil => exact ⟨removed, rfl⟩
  | cons next middle ih =>
      obtain ⟨last, hrest⟩ := ih (front ++ [next]) next
      refine ⟨last, ?_⟩
      have hread : (front ++ removed :: (next :: middle ++ back))[front.length + 1]? =
          some next := by
        rw [List.getElem?_append_right (Nat.le_add_right _ 1), Nat.add_sub_cancel_left]
        rfl
      have hstore : storeSlot (front ++ removed :: (next :: middle ++ back)) front.length next =
          some (front ++ [next] ++ next :: (middle ++ back)) := by
        rw [storeSlot, if_pos (by simp), List.set_append_right _ _ (Nat.le_refl _), Nat.sub_self,
          List.set_cons_zero, List.append_assoc]
        rfl
      rw [List.length_cons, moveDown, hread]
      simp only [Option.bind_eq_bind, Option.bind_some]
      rw [hstore, Option.bind_some]
      rw [List.length_append] at hrest
      rw [show front.length + 1 = front.length + [next].length from rfl, hrest,
        List.append_assoc]
      rfl

namespace Denotes

variable {arr : PointerArray α} {elements : List (Option α)}

/-- `remove_element_at` deletes; an index that is too large deletes nothing. -/
theorem removeElementAt (h : Denotes arr elements) (index : Nat) :
    ∃ arr', arr.removeElementAt index = some arr' ∧ Denotes arr' (elements.eraseIdx index) := by
  have hsize := h.size
  have hroom := h.room
  unfold PointerArray.removeElementAt
  split
  · rename_i hpast
    refine ⟨arr, rfl, ?_⟩
    rw [List.eraseIdx_of_length_le (by omega)]
    exact h
  · rename_i hinside
    have hindex : index < elements.length := by omega
    -- the list around the element, and the empty slots
    obtain ⟨removed, hsplit⟩ : ∃ removed, elements =
        elements.take index ++ removed :: elements.drop (index + 1) :=
      ⟨elements[index], by rw [← List.drop_eq_getElem_cons hindex, List.take_append_drop]⟩
    have herase : elements.eraseIdx index = elements.take index ++ elements.drop (index + 1) :=
      List.eraseIdx_eq_take_drop_succ elements index
    have hfront : (elements.take index).length = index := by
      rw [List.length_take]
      omega
    have hmiddle : (elements.drop (index + 1)).length = arr.size - 1 - index := by
      rw [List.length_drop]
      omega
    generalize elements.take index = front at *
    generalize elements.drop (index + 1) = middle at *
    subst hsplit
    rw [List.length_append, List.length_cons] at hsize hroom
    have hmove : ∃ last, (if index < arr.size - 1 then
          moveDown (arr.size - 1 - index) index arr.buf else some arr.buf) =
        some (front ++ (middle ++ last ::
          List.replicate (arr.capacity - (front ++ removed :: middle).length) none)) := by
      obtain ⟨last, hmoved⟩ := moveDown_spec front middle
        (List.replicate (arr.capacity - (front ++ removed :: middle).length) none) removed
      refine ⟨last, ?_⟩
      have hslots := h.slots
      rw [List.append_assoc, List.cons_append] at hslots
      rw [← hmoved, hfront, hmiddle, ← hslots]
      split
      · rfl
      · rename_i hlast
        rw [show arr.size - 1 - index = 0 by omega, moveDown]
    obtain ⟨last, hmove⟩ := hmove
    simp only [hmove, Option.bind_eq_bind, Option.bind_some]
    have hposition : arr.size - 1 = (front ++ middle).length := by
      rw [List.length_append]
      omega
    have hstore : storeSlot (front ++ (middle ++ last ::
          List.replicate (arr.capacity - (front ++ removed :: middle).length) none))
          (arr.size - 1) none =
        some (front ++ middle ++
          List.replicate (arr.capacity - (front ++ middle).length) none) := by
      rw [← List.append_assoc, storeSlot, if_pos (by simp; omega), hposition,
        List.set_append_right _ _ (Nat.le_refl _), Nat.sub_self, List.set_cons_zero,
        ← List.replicate_succ]
      congr 3
      simp only [List.length_append, List.length_cons]
      omega
    simp only [hstore, Option.bind_some]
    refine ⟨_, rfl, ?_⟩
    rw [herase]
    refine ⟨hposition, rfl, ?_, h.fits⟩
    show (front ++ middle).length ≤ arr.capacity
    rw [List.length_append]
    omega

/-- `get_element_at` reads the list, and finds nothing behind it. -/
theorem getElementAt (h : Denotes arr elements) (index : Nat) :
    arr.getElementAt index = some (elements[index]?.getD none) := by
  have hsize := h.size
  unfold PointerArray.getElementAt
  split
  · rename_i hnone
    have hpast : elements.length ≤ index := by
      rcases hnone with hempty | hpast
      · have hlength := h.length_buf
        have hroom := h.room
        rw [hempty, List.length_nil] at hlength
        omega
      · omega
    rw [List.getElem?_eq_none hpast]
    rfl
  · rename_i hinside
    have hindex : index < elements.length := by
      by_contra hpast
      exact hinside (.inr (by omega))
    rw [h.slot hindex, List.getElem?_eq_getElem hindex]
    rfl

end Denotes

/-! ## The walk -/

/-- What a walk leaves of a list. -/
def kept (remove : Nat → Option α → Bool) (elements : List (Option α)) : List (Option α) :=
  (elements.zipIdx.filter fun entry => !remove entry.2 entry.1).map Prod.fst

theorem kept_concat (remove : Nat → Option α → Bool) (elements : List (Option α))
    (last : Option α) :
    kept remove (elements ++ [last]) =
      kept remove elements ++ if remove elements.length last then [] else [last] := by
  unfold kept
  rw [List.zipIdx_append, List.filter_append, List.map_append, List.zipIdx_singleton, Nat.zero_add]
  congr 1
  cases hremove : remove elements.length last <;> simp [hremove]

namespace Denotes

variable {arr : PointerArray α} {elements : List (Option α)}

/-- A walk from the end of a part of the list comes to every element of the part once. -/
theorem walkRev (remove : Nat → Option α → Bool) {front back : List (Option α)} {rounds : Nat}
    (h : Denotes arr (front ++ back)) (hrounds : front.length < rounds) :
    ∃ arr', PointerArray.walkRev remove rounds (PointerArray.before front.length) arr =
      some (front.reverse, arr') ∧ Denotes arr' (kept remove front ++ back) := by
  induction rounds generalizing front back arr with
  | zero => omega
  | succ rounds ih =>
      have hsize := h.size
      have hroom := h.room
      have hfits := h.fits
      rw [List.length_append] at hsize hroom
      rcases List.eq_nil_or_concat front with rfl | ⟨front, last, rfl⟩
      · -- the index has wrapped, and is larger than any size
        have hwrapped : ¬ PointerArray.before 0 < arr.size := by
          have hlast : PointerArray.before 0 = uint32Max := rfl
          omega
        rw [List.length_nil, PointerArray.walkRev, if_neg hwrapped]
        exact ⟨arr, rfl, h⟩
      · rw [List.concat_eq_append] at *
        rw [List.length_append, List.length_singleton] at hsize hroom hrounds
        have hindex : PointerArray.before (front ++ [last]).length = front.length := by
          rw [List.length_append, List.length_singleton]
          unfold PointerArray.before uint32Max at *
          omega
        rw [hindex, PointerArray.walkRev, if_pos (by omega)]
        have hread : arr.buf[front.length]? = some last := by
          rw [h.slot (by simp)]
          simp
        rw [hread]
        simp only [Option.bind_eq_bind, Option.bind_some]
        have hnext : ∃ next, (if remove front.length last then arr.removeElementAt front.length
              else some arr) = some next ∧
            Denotes next
              (front ++ ((if remove front.length last then [] else [last]) ++ back)) := by
          cases hremove : remove front.length last with
          | true =>
              obtain ⟨next, hnext, hdenotes⟩ := h.removeElementAt front.length
              refine ⟨next, hnext, ?_⟩
              have herase : (front ++ [last] ++ back).eraseIdx front.length = front ++ back := by
                rw [List.append_assoc, List.eraseIdx_append_of_length_le (Nat.le_refl _),
                  Nat.sub_self]
                rfl
              rw [herase] at hdenotes
              exact hdenotes
          | false =>
              refine ⟨arr, rfl, ?_⟩
              rw [List.append_assoc] at h
              exact h
        obtain ⟨next, hnext, hdenotes⟩ := hnext
        obtain ⟨arr', hwalk, hkept⟩ := ih hdenotes (by omega)
        rw [hnext, Option.bind_some, hwalk, Option.bind_some]
        refine ⟨arr', ?_, ?_⟩
        · rw [List.reverse_append]
          rfl
        · rw [kept_concat, List.append_assoc]
          exact hkept

/-- A walk over the whole array. -/
theorem forEachRev (h : Denotes arr elements) (remove : Nat → Option α → Bool) {rounds : Nat}
    (hrounds : elements.length < rounds) :
    ∃ arr', arr.forEachRev remove rounds = some (elements.reverse, arr') ∧
      Denotes arr' (kept remove elements) := by
  rw [← List.append_nil elements] at h
  obtain ⟨arr', hwalk, hkept⟩ := h.walkRev remove hrounds
  have hsize := h.size
  rw [List.append_nil] at hsize
  rw [List.append_nil] at hkept
  rw [PointerArray.forEachRev, hsize]
  exact ⟨arr', hwalk, hkept⟩

end Denotes

end Arrays
end NvidiaVaapi
