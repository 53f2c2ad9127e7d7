import Mathlib.Algebra.GroupWithZero.Nat
import Mathlib.Algebra.Group.Nat.Defs
import Mathlib.Data.List.Basic

/-!
# Lists that are put together from pieces

Pieces are written one behind the other, and where each of them begins is noted.  Cutting the
whole at these positions gives the pieces back, also where some of them are empty.
-/

universe u

namespace Pieces

variable {α : Type u}

/-- Where the pieces begin, if the first one begins at a position. -/
def starts : Nat → List (List α) → List Nat
  | _, [] => []
  | start, piece :: rest => start :: starts (start + piece.length) rest

/-- Cut a list at positions: each piece ends where the next one begins, the last one at the
end. -/
def cutAt (whole : List α) : List Nat → List (List α)
  | [] => []
  | [start] => [whole.drop start]
  | start :: next :: rest => (whole.drop start).take (next - start) :: cutAt whole (next :: rest)

@[simp] theorem length_starts (start : Nat) (pieces : List (List α)) :
    (starts start pieces).length = pieces.length := by
  induction pieces generalizing start with
  | nil => rfl
  | cons piece rest ih => rw [starts, List.length_cons, ih, List.length_cons]

theorem starts_append (start : Nat) (pieces rest : List (List α)) :
    starts start (pieces ++ rest) =
      starts start pieces ++ starts (start + pieces.flatten.length) rest := by
  induction pieces generalizing start with
  | nil => rfl
  | cons piece pieces ih =>
      rw [List.cons_append, starts, ih, starts, List.cons_append, List.flatten_cons,
        List.length_append, Nat.add_assoc]

/-- Every piece begins between the first position and the end. -/
theorem starts_bounds {start position : Nat} {pieces : List (List α)}
    (hmem : position ∈ starts start pieces) :
    start ≤ position ∧ position ≤ start + pieces.flatten.length := by
  induction pieces generalizing start with
  | nil => cases hmem
  | cons piece rest ih =>
      rw [List.flatten_cons, List.length_append]
      rcases List.mem_cons.mp hmem with rfl | hrest
      · omega
      · have hbounds := ih hrest
        omega

theorem starts_pairwise (start : Nat) (pieces : List (List α)) :
    (starts start pieces).Pairwise (· ≤ ·) := by
  induction pieces generalizing start with
  | nil => exact .nil
  | cons piece rest ih =>
      refine List.pairwise_cons.mpr ⟨fun position hmem => ?_, ih _⟩
      have hbounds := (starts_bounds hmem).1
      omega

/-- The pieces come back. -/
theorem cutAt_starts (before : List α) (pieces : List (List α)) :
    cutAt (before ++ pieces.flatten) (starts before.length pieces) = pieces := by
  induction pieces generalizing before with
  | nil => rfl
  | cons piece rest ih =>
      have hwhole : before ++ (piece :: rest).flatten = (before ++ piece) ++ rest.flatten := by
        rw [List.flatten_cons, List.append_assoc]
      have hrest := ih (before ++ piece)
      rw [List.length_append] at hrest
      cases rest with
      | nil =>
          rw [starts, starts, cutAt, List.flatten_cons, List.flatten_nil, List.append_nil,
            List.drop_left]
      | cons next rest =>
          rw [starts] at hrest
          rw [starts, starts, cutAt, hwhole, hrest, List.append_assoc, List.drop_left,
            Nat.add_sub_cancel_left, List.take_left]

/-- Pieces of the same lengths in groups make the same whole only if they agree in each
group. -/
theorem flatMap_inj {β : Type u} {f g : β → List α} {groups : List β}
    (hlength : ∀ b ∈ groups, (f b).length = (g b).length)
    (hsame : groups.flatMap f = groups.flatMap g) : ∀ b ∈ groups, f b = g b := by
  induction groups with
  | nil => exact nofun
  | cons first rest ih =>
      rw [List.flatMap_cons, List.flatMap_cons] at hsame
      obtain ⟨hfirst, hrest⟩ := List.append_inj hsame (hlength first List.mem_cons_self)
      intro b hb
      rcases List.mem_cons.mp hb with rfl | hmem
      · exact hfirst
      · exact ih (fun b hb => hlength b (List.mem_cons_of_mem _ hb)) hrest b hmem

/-- A sum in which every term is counted once at least is no smaller than the plain one. -/
theorem sum_le_counted {β : Type u} {weight count : β → Nat} {groups : List β}
    (hcount : ∀ b ∈ groups, 0 < count b) :
    (groups.map weight).sum ≤ (groups.map fun b => weight b * count b).sum := by
  induction groups with
  | nil => exact Nat.le_refl _
  | cons first rest ih =>
      have hrest := ih fun b hb => hcount b (List.mem_cons_of_mem _ hb)
      have hfirst : weight first ≤ weight first * count first :=
        Nat.le_mul_of_pos_right _ (hcount first List.mem_cons_self)
      rw [List.map_cons, List.map_cons, List.sum_cons, List.sum_cons]
      omega

/-- It is no larger only if every term is counted once. -/
theorem counted_once {β : Type u} {weight count : β → Nat} {groups : List β}
    (hweight : ∀ b ∈ groups, 0 < weight b) (hcount : ∀ b ∈ groups, 0 < count b)
    (hsum : (groups.map fun b => weight b * count b).sum ≤ (groups.map weight).sum) :
    ∀ b ∈ groups, count b = 1 := by
  induction groups with
  | nil => exact nofun
  | cons first rest ih =>
      have hrestPos : ∀ b ∈ rest, 0 < count b := fun b hb => hcount b (List.mem_cons_of_mem _ hb)
      have hrest := @sum_le_counted β weight count rest hrestPos
      have hfirst : weight first ≤ weight first * count first :=
        Nat.le_mul_of_pos_right _ (hcount first List.mem_cons_self)
      rw [List.map_cons, List.map_cons, List.sum_cons, List.sum_cons] at hsum
      intro b hb
      rcases List.mem_cons.mp hb with rfl | hmem
      · have hone : weight b * count b ≤ weight b * 1 := by omega
        have hle := Nat.le_of_mul_le_mul_left hone (hweight b List.mem_cons_self)
        have hpos := hcount b List.mem_cons_self
        omega
      · exact ih (fun b hb => hweight b (List.mem_cons_of_mem _ hb)) hrestPos (by omega) b hmem

end Pieces
