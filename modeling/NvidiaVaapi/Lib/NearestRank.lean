import Mathlib.Algebra.Group.Nat.Defs
import Mathlib.Data.List.Perm.Basic

/-!
# The sample of a rank

Samples that are sorted into numbered classes, and in the order of their classes: how many of
them are in the first classes tells in which class the sample of a rank is.
-/

namespace NearestRank

variable {α : Type*}

/-- The samples in the first classes, one class more. -/
theorem countP_succ (cls : α → Nat) (samples : List α) (i : Nat) :
    samples.countP (fun x => cls x < i + 1) =
      samples.countP (fun x => cls x < i) + samples.countP (fun x => cls x = i) := by
  induction samples with
  | nil => rfl
  | cons x rest ih =>
      simp only [List.countP_cons, ih, decide_eq_true_eq]
      rcases Nat.lt_trichotomy (cls x) i with hlt | heq | hgt
      · rw [if_pos (by omega), if_pos hlt, if_neg (by omega)]
        omega
      · rw [if_pos (by omega), if_neg (by omega), if_pos heq]
        omega
      · rw [if_neg (by omega), if_neg (by omega), if_neg (by omega)]
        omega

variable {cls : α → Nat} {samples sorted : List α}

/-- The sample of rank `k` is in one of the first classes if and only if they have `k`
samples. -/
theorem le_countP_iff (hperm : sorted.Perm samples)
    (hsorted : sorted.Pairwise fun x y => cls x ≤ cls y) {k : Nat} (hk : k < sorted.length)
    (i : Nat) :
    k + 1 ≤ samples.countP (fun x => cls x ≤ i) ↔ cls sorted[k] ≤ i := by
  rw [← hperm.countP_eq]
  constructor
  · intro hcount
    by_contra hhigh
    -- what is not below the rank is in a later class
    have hlater : (sorted.drop k).countP (fun x => cls x ≤ i) = 0 := by
      rw [List.countP_eq_zero]
      intro x hx
      obtain ⟨j, hj, rfl⟩ := List.getElem_of_mem hx
      rw [List.length_drop] at hj
      rw [List.getElem_drop]
      have hle : cls sorted[k] ≤ cls sorted[k + j] := by
        rcases Nat.eq_zero_or_pos j with rfl | hpos
        · exact Nat.le_refl _
        · exact List.pairwise_iff_getElem.mp hsorted k (k + j) hk (by omega) (by omega)
      simp only [decide_eq_true_eq]
      omega
    have hsplit := congrArg (List.countP fun x => decide (cls x ≤ i))
      (List.take_append_drop k sorted)
    rw [List.countP_append, hlater] at hsplit
    have hfirst := List.countP_le_length (p := fun x => decide (cls x ≤ i)) (l := sorted.take k)
    rw [List.length_take] at hfirst
    omega
  · intro hlow
    have hfirst : (sorted.take (k + 1)).countP (fun x => cls x ≤ i) =
        (sorted.take (k + 1)).length := by
      rw [List.countP_eq_length]
      intro x hx
      obtain ⟨j, hj, rfl⟩ := List.getElem_of_mem hx
      rw [List.length_take] at hj
      rw [List.getElem_take]
      have hle : cls sorted[j] ≤ cls sorted[k] := by
        rcases Nat.lt_or_eq_of_le (show j ≤ k by omega) with hlt | rfl
        · exact List.pairwise_iff_getElem.mp hsorted j k (by omega) hk hlt
        · exact Nat.le_refl _
      simp only [decide_eq_true_eq]
      omega
    have hsub := (List.take_sublist (k + 1) sorted).countP_le (p := fun x => decide (cls x ≤ i))
    rw [hfirst, List.length_take] at hsub
    omega

end NearestRank
