import Mathlib.Algebra.Group.Nat.Defs
import Mathlib.Data.List.Basic

/-!
# Arrays of a fixed size

A C array does not check its accesses.  Here every access may fail, and a result
`none` stands for an access outside of the array, after which the program has no
behaviour.  A counted array is a fixed array of which the first entries are used.
-/

universe u

namespace FixedArray

variable {α : Type u} {n : Nat}

/-- Write one entry. -/
def store (xs : Vector α n) (i : Nat) (x : α) : Option (Vector α n) :=
  if h : i < n then some (xs.set i x h) else none

theorem store_of_lt (xs : Vector α n) {i : Nat} (x : α) (h : i < n) :
    store xs i x = some (xs.set i x h) := by
  simp [store, h]

end FixedArray

/-- An array of fixed capacity and the number of its entries in use. -/
structure CountedArray (α : Type u) (capacity : Nat) where
  entries : Vector α capacity
  count : Nat
  deriving Inhabited

namespace CountedArray

variable {α : Type u} {capacity : Nat}

/-- The entries in use. -/
def listed (xs : CountedArray α capacity) : List α :=
  xs.entries.toList.take xs.count

/-- `entries[count++] = x`. -/
def push (xs : CountedArray α capacity) (x : α) : Option (CountedArray α capacity) :=
  (FixedArray.store xs.entries xs.count x).map fun entries => ⟨entries, xs.count + 1⟩

theorem push_of_lt {xs : CountedArray α capacity} (x : α) (h : xs.count < capacity) :
    xs.push x = some ⟨xs.entries.set xs.count x h, xs.count + 1⟩ := by
  simp [push, FixedArray.store_of_lt _ _ h]

theorem push_of_ge {xs : CountedArray α capacity} (x : α) (h : capacity ≤ xs.count) :
    xs.push x = none := by
  simp [push, FixedArray.store, Nat.not_lt.mpr h]

/-- A successful write lists one entry more. -/
theorem listed_push {xs ys : CountedArray α capacity} {x : α} (h : xs.push x = some ys) :
    ys.listed = xs.listed ++ [x] ∧ ys.count = xs.count + 1 ∧ xs.count < capacity := by
  rcases Nat.lt_or_ge xs.count capacity with hlt | hge
  · rw [push_of_lt x hlt] at h
    cases h
    refine ⟨?_, rfl, hlt⟩
    have hlength : xs.count < xs.entries.toList.length := by simpa using hlt
    show ((xs.entries.set xs.count x hlt).toList.take (xs.count + 1)) = _
    rw [Vector.toList_set, List.take_add_one, List.take_set_of_le (Nat.le_refl _),
      List.getElem?_set_self hlength]
    rfl
  · rw [push_of_ge x hge] at h
    cases h

end CountedArray
