import Mathlib.Data.List.Basic
import Mathlib.Data.Nat.ModEq
import Mathlib.Logic.Function.Basic

/-!
# Circular buffers

The entries of a circular buffer lie in a fixed number of cells, from a read
position on, and continue in the first cell behind the last one.  The relation
between the cells and the list of the entries is kept by writing behind the last
entry and by reading the first one.
-/

universe u

namespace RingBuffer

variable {α : Type u} {n : Nat}

/-- The cell `k` places behind a position. -/
def cell (position : Fin n) (k : Nat) : Fin n :=
  ⟨(position.val + k) % n, Nat.mod_lt _ (Nat.lt_of_le_of_lt (Nat.zero_le _) position.isLt)⟩

theorem cell_zero (position : Fin n) : cell position 0 = position :=
  Fin.ext (Nat.mod_eq_of_lt position.isLt)

theorem cell_cell (position : Fin n) (j k : Nat) :
    cell (cell position j) k = cell position (j + k) := by
  apply Fin.ext
  change ((position.val + j) % n + k) % n = (position.val + (j + k)) % n
  rw [Nat.mod_add_mod, Nat.add_assoc]

/-- Within one turn all cells are different. -/
theorem cell_injective (position : Fin n) {j k : Nat} (hj : j < n) (hk : k < n)
    (h : cell position j = cell position k) : j = k := by
  have hval : position.val + j ≡ position.val + k [MOD n] := congrArg Fin.val h
  have hcancel := Nat.ModEq.add_left_cancel' position.val hval
  rwa [Nat.ModEq, Nat.mod_eq_of_lt hj, Nat.mod_eq_of_lt hk] at hcancel

/-- The entries that lie in the cells from `read` on. -/
structure Holds (cells : Fin n → α) (read : Fin n) (entries : List α) : Prop where
  fits : entries.length ≤ n
  entry : ∀ k (hk : k < entries.length), cells (cell read k) = entries[k]

namespace Holds

variable {cells : Fin n → α} {read : Fin n} {entries : List α}

theorem nil (cells : Fin n → α) (read : Fin n) : Holds cells read [] :=
  ⟨Nat.zero_le _, nofun⟩

/-- Writing behind the last entry. -/
theorem push (h : Holds cells read entries) (hroom : entries.length < n) (x : α) :
    Holds (Function.update cells (cell read entries.length) x) read (entries ++ [x]) := by
  refine ⟨by rw [List.length_append, List.length_singleton]; omega, fun k hk => ?_⟩
  rw [List.length_append, List.length_singleton] at hk
  by_cases hlast : k = entries.length
  · subst hlast
    rw [Function.update_self, List.getElem_concat_length rfl]
  · have hold : k < entries.length := by omega
    have hapart : cell read k ≠ cell read entries.length := fun hsame =>
      hlast (cell_injective read (by omega) hroom hsame)
    rw [Function.update_of_ne hapart, h.entry k hold, List.getElem_append_left hold]

/-- Reading the first entry; what its cell holds afterwards does not matter. -/
theorem pop {x : α} (h : Holds cells read (x :: entries)) (left : α) :
    cells read = x ∧ Holds (Function.update cells read left) (cell read 1) entries := by
  have hfits := h.fits
  rw [List.length_cons] at hfits
  refine ⟨?_, by omega, fun k hk => ?_⟩
  · have hfirst := h.entry 0 (Nat.succ_pos _)
    rwa [cell_zero] at hfirst
  · have hapart : cell read (1 + k) ≠ read := by
      intro hsame
      rw [← cell_zero read] at hsame
      rw [cell_cell, Nat.zero_add] at hsame
      have := cell_injective read (by omega) (by omega) hsame
      omega
    rw [cell_cell, Function.update_of_ne hapart]
    have hnext := h.entry (1 + k) (by rw [List.length_cons]; omega)
    rw [hnext]
    have hplace : 1 + k = k + 1 := Nat.add_comm 1 k
    simp only [hplace, List.getElem_cons_succ]

end Holds

end RingBuffer
