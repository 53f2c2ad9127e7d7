import Mathlib.Algebra.BigOperators.Group.Finset.Piecewise
import Mathlib.Algebra.Order.BigOperators.Group.Finset
import Mathlib.Data.Fintype.BigOperators

/-!
# Tallies of a finite map

Some of the entries of a map over finitely many names are present, and each of them has a weight.
The tally is the sum of the weights.  What an update of one entry does to it is the difference of
two weights.
-/

universe u v

namespace Tally

variable {ι : Type u} {α : Type v} [Fintype ι]

/-- The sum of the weights of the entries that are present. -/
def total (weight : α → Nat) (entries : ι → Option α) : Nat :=
  ∑ i, (entries i).elim 0 weight

@[simp] theorem total_none (weight : α → Nat) :
    total weight (fun _ : ι => none) = 0 :=
  Finset.sum_const_zero

/-- One entry is replaced. -/
theorem total_update [DecidableEq ι] (weight : α → Nat) (entries : ι → Option α) (i : ι)
    (entry : Option α) :
    total weight (Function.update entries i entry) + (entries i).elim 0 weight =
      total weight entries + entry.elim 0 weight := by
  have hweights : (fun j => (Function.update entries i entry j).elim 0 weight) =
      Function.update (fun j => (entries j).elim 0 weight) i (entry.elim 0 weight) := by
    ext j
    rcases eq_or_ne j i with rfl | hother
    · rw [Function.update_self, Function.update_self]
    · rw [Function.update_of_ne hother, Function.update_of_ne hother]
  have hold := Finset.sum_update_of_mem (Finset.mem_univ i)
    (fun j => (entries j).elim 0 weight) ((entries i).elim 0 weight)
  rw [Function.update_eq_self] at hold
  unfold total
  rw [hweights, Finset.sum_update_of_mem (Finset.mem_univ i), hold]
  omega

/-- An entry that was absent comes to the map. -/
theorem total_insert [DecidableEq ι] (weight : α → Nat) {entries : ι → Option α} {i : ι}
    (habsent : entries i = none) (entry : α) :
    total weight (Function.update entries i (some entry)) =
      total weight entries + weight entry := by
  have hupdate := total_update weight entries i (some entry)
  rw [habsent] at hupdate
  exact hupdate

theorem weight_le (weight : α → Nat) {entries : ι → Option α} {i : ι} {entry : α}
    (hpresent : entries i = some entry) : weight entry ≤ total weight entries := by
  have hle := Finset.single_le_sum (f := fun j => (entries j).elim 0 weight)
    (fun j _ => Nat.zero_le _) (Finset.mem_univ i)
  simp only [hpresent, Option.elim_some] at hle
  exact hle

theorem total_add (weight weight' : α → Nat) (entries : ι → Option α) :
    total (fun entry => weight entry + weight' entry) entries =
      total weight entries + total weight' entries := by
  unfold total
  rw [← Finset.sum_add_distrib]
  apply Finset.sum_congr rfl
  intro i _
  cases entries i <;> rfl

theorem total_mono {weight weight' : α → Nat} (hle : ∀ entry, weight entry ≤ weight' entry)
    (entries : ι → Option α) : total weight entries ≤ total weight' entries := by
  apply Finset.sum_le_sum
  intro i _
  cases entries i with
  | none => exact Nat.le_refl 0
  | some entry => exact hle entry

/-- With weights of at most one and a name without an entry, the tally is smaller than the number
of names. -/
theorem total_lt_card {weight : α → Nat} (hone : ∀ entry, weight entry ≤ 1)
    {entries : ι → Option α} {i : ι} (habsent : entries i = none) :
    total weight entries < Fintype.card ι := by
  rw [Fintype.card_eq_sum_ones]
  apply Finset.sum_lt_sum
  · intro j _
    cases entries j with
    | none => exact Nat.zero_le 1
    | some entry => exact hone entry
  · refine ⟨i, Finset.mem_univ i, ?_⟩
    rw [habsent]
    exact Nat.zero_lt_one

end Tally
