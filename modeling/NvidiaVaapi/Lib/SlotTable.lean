import Mathlib.Data.List.Basic
import Mathlib.Data.List.Nodup
import Mathlib.Data.List.Perm.Basic

/-!
# Tables of slots

A table of numbered slots, each empty or with one entry: a heap whose addresses are never
used twice takes a new slot for each entry, a table of descriptors the lowest empty one.
-/

universe u v

/-- Slots, each of which may hold an entry. -/
abbrev SlotTable (α : Type u) := List (Option α)

namespace SlotTable

variable {α : Type u} {β : Type v} {t : SlotTable α} {i j : Nat} {a b : α}

/-- The entry in a slot. -/
def get (t : SlotTable α) (i : Nat) : Option α :=
  t.getD i none

/-- Put an entry into a slot that there is. -/
def put (t : SlotTable α) (i : Nat) (a : α) : SlotTable α :=
  t.set i (some a)

/-- Empty a slot. -/
def clear (t : SlotTable α) (i : Nat) : SlotTable α :=
  t.set i none

/-- Put an entry into a new slot, whose number is the length of the table. -/
def push (t : SlotTable α) (a : α) : SlotTable α :=
  t ++ [some a]

/-- The lowest empty slot, or the first one behind the table. -/
def firstFree : SlotTable α → Nat
  | [] => 0
  | none :: _ => 0
  | some _ :: rest => firstFree rest + 1

/-- Put an entry into the lowest empty slot. -/
def install (t : SlotTable α) (a : α) : SlotTable α :=
  if t.firstFree < t.length then t.put t.firstFree a else t.push a

@[simp] theorem length_put : (t.put i a).length = t.length := by
  simp [put]

@[simp] theorem length_clear : (t.clear i).length = t.length := by
  simp [clear]

@[simp] theorem length_push : (t.push a).length = t.length + 1 := by
  simp [push]

theorem lt_of_get (hget : t.get i = some a) : i < t.length := by
  rcases Nat.lt_or_ge i t.length with hlt | hge
  · exact hlt
  · rw [get, List.getD_eq_getElem?_getD, List.getElem?_eq_none hge] at hget
    cases hget

theorem get_eq_getElem? : t.get i = some a ↔ t[i]? = some (some a) := by
  unfold get
  rw [List.getD_eq_getElem?_getD]
  cases hslot : t[i]? with
  | none => simp
  | some slot => simp

@[simp] theorem get_put (hlt : i < t.length) : (t.put i a).get i = some a := by
  simp [get, put, hlt]

@[simp] theorem get_put_of_ne (hne : j ≠ i) : (t.put i a).get j = t.get j := by
  simp only [get, put, List.getD_eq_getElem?_getD]
  rw [List.getElem?_set_ne (Ne.symm hne)]

@[simp] theorem get_clear : (t.clear i).get i = none := by
  simp only [get, clear, List.getD_eq_getElem?_getD]
  rcases Nat.lt_or_ge i t.length with hlt | hge
  · simp [hlt]
  · simp [hge]

@[simp] theorem get_clear_of_ne (hne : j ≠ i) : (t.clear i).get j = t.get j := by
  simp only [get, clear, List.getD_eq_getElem?_getD]
  rw [List.getElem?_set_ne (Ne.symm hne)]

@[simp] theorem get_push_length : (t.push a).get t.length = some a := by
  simp [get, push]

theorem get_push_of_ne (hne : j ≠ t.length) : (t.push a).get j = t.get j := by
  simp only [get, push, List.getD_eq_getElem?_getD]
  rcases Nat.lt_or_ge j t.length with hlt | hge
  · rw [List.getElem?_append_left hlt]
  · have hbeyond : t.length + 1 ≤ j := by omega
    rw [List.getElem?_eq_none (by simpa using hbeyond), List.getElem?_eq_none hge]

/-- A slot with an entry is not the next new one. -/
theorem get_push_of_get (hget : t.get j = some b) : (t.push a).get j = some b := by
  rw [get_push_of_ne (Nat.ne_of_lt (lt_of_get hget)), hget]

theorem get_firstFree : t.get t.firstFree = none := by
  induction t with
  | nil => rfl
  | cons slot rest ih =>
      cases slot with
      | none => rfl
      | some x => simpa [firstFree, get] using ih

theorem firstFree_le : t.firstFree ≤ t.length := by
  induction t with
  | nil => exact Nat.le_refl _
  | cons slot rest ih =>
      cases slot with
      | none => exact Nat.zero_le _
      | some x => simpa [firstFree] using ih

@[simp] theorem get_install : (t.install a).get t.firstFree = some a := by
  unfold install
  split
  · rename_i hlt
    exact get_put hlt
  · rename_i hge
    have heq : t.firstFree = t.length := Nat.le_antisymm firstFree_le (by omega)
    rw [heq, get_push_length]

theorem get_install_of_ne (hne : j ≠ t.firstFree) : (t.install a).get j = t.get j := by
  unfold install
  split
  · exact get_put_of_ne hne
  · rename_i hge
    have heq : t.firstFree = t.length := Nat.le_antisymm firstFree_le (by omega)
    exact get_push_of_ne (heq ▸ hne)

theorem length_install_le {limit : Nat} (hlen : t.length ≤ limit) (hfree : t.firstFree < limit) :
    (t.install a).length ≤ limit := by
  unfold install
  split
  · simpa using hlen
  · have := @firstFree_le _ t
    rw [length_push]
    omega

/-- How many entries have a property. -/
def count (p : α → Bool) (t : SlotTable α) : Nat :=
  t.countP (·.any p)

theorem count_put {p : α → Bool} (hget : t.get i = some b) :
    count p (t.put i a) + (if p b then 1 else 0) = count p t + (if p a then 1 else 0) := by
  have hlt := lt_of_get hget
  have hslot : t[i] = some b := by
    have := get_eq_getElem?.mp hget
    rw [List.getElem?_eq_getElem hlt] at this
    exact Option.some.inj this
  have hpos : p b = true → 0 < count p t := by
    intro hp
    refine List.countP_pos_iff.mpr ⟨some b, hslot ▸ List.getElem_mem hlt, by simpa using hp⟩
  unfold count put
  rw [List.countP_set hlt, hslot]
  simp only [Option.any_some]
  split
  · rename_i hp
    have := hpos hp
    unfold count at this
    omega
  · rfl

theorem count_clear {p : α → Bool} (hget : t.get i = some b) :
    count p (t.clear i) + (if p b then 1 else 0) = count p t := by
  have hlt := lt_of_get hget
  have hslot : t[i] = some b := by
    have := get_eq_getElem?.mp hget
    rw [List.getElem?_eq_getElem hlt] at this
    exact Option.some.inj this
  have hpos : p b = true → 0 < count p t := by
    intro hp
    refine List.countP_pos_iff.mpr ⟨some b, hslot ▸ List.getElem_mem hlt, by simpa using hp⟩
  unfold count clear
  rw [List.countP_set hlt, hslot]
  simp only [Option.any_some, Option.any_none]
  split
  · rename_i hp
    have := hpos hp
    unfold count at this
    simp
    omega
  · simp

@[simp] theorem count_push {p : α → Bool} :
    count p (t.push a) = count p t + (if p a then 1 else 0) := by
  simp [count, push, List.countP_append, List.countP_singleton]

theorem count_eq_zero {p : α → Bool} :
    count p t = 0 ↔ ∀ i a, t.get i = some a → p a = false := by
  unfold count
  rw [List.countP_eq_zero]
  constructor
  · intro hnone i a hget
    have hmem := List.mem_of_getElem? (get_eq_getElem?.mp hget)
    simpa using hnone _ hmem
  · intro hall slot hmem
    obtain ⟨i, hlt, hslot⟩ := List.getElem_of_mem hmem
    cases slot with
    | none => simp
    | some x =>
        have hget : t.get i = some x := by
          rw [get_eq_getElem?, List.getElem?_eq_getElem hlt, hslot]
        simpa using hall i x hget

theorem map_get_range : (List.range t.length).map t.get = t := by
  refine List.ext_getElem (by simp) fun i hi _ => ?_
  have hlt : i < t.length := by simpa using hi
  simp [get, hlt]

/-- The entries with a property are counted by their slots. -/
theorem count_eq_length {p : α → Bool} :
    count p t = ((List.range t.length).filter fun i => (t.get i).any p).length := by
  rw [← List.countP_eq_length_filter]
  conv_lhs => rw [count, ← map_get_range (t := t), List.countP_map]
  rfl

theorem mem_slots {p : α → Bool} :
    i ∈ (List.range t.length).filter (fun i => (t.get i).any p) ↔
      ∃ a, t.get i = some a ∧ p a = true := by
  rw [List.mem_filter, List.mem_range, Option.any_eq_true]
  exact and_iff_right_of_imp fun ⟨_, hget, _⟩ => lt_of_get hget

/-- If the entries with a property have different numbers below a bound, then there are no
more of them than the bound. -/
theorem count_le {p : α → Bool} {limit : Nat} (number : Nat → Nat)
    (hlt : ∀ i a, t.get i = some a → p a = true → number i < limit)
    (hinj : ∀ i j a b, t.get i = some a → t.get j = some b → p a = true → p b = true →
      number i = number j → i = j) : count p t ≤ limit := by
  have hnodup : (((List.range t.length).filter fun i => (t.get i).any p).map number).Nodup := by
    refine List.Nodup.map_on ?_ (List.nodup_range.filter _)
    intro i hi j hj hsame
    obtain ⟨a, hget, hp⟩ := mem_slots.mp hi
    obtain ⟨b, hget', hp'⟩ := mem_slots.mp hj
    exact hinj i j a b hget hget' hp hp' hsame
  have hsub : ((List.range t.length).filter fun i => (t.get i).any p).map number ⊆
      List.range limit := by
    intro n hn
    obtain ⟨i, hi, rfl⟩ := List.mem_map.mp hn
    obtain ⟨a, hget, hp⟩ := mem_slots.mp hi
    exact List.mem_range.mpr (hlt i a hget hp)
  have hle := (List.subperm_of_subset hnodup hsub).length_le
  rw [List.length_map, List.length_range] at hle
  rw [count_eq_length]
  exact hle

/-- Where the entries with a property are kept, there are no fewer. -/
theorem count_mono {p : α → Bool} {t' : SlotTable α}
    (hkept : ∀ i a, t.get i = some a → p a = true → ∃ b, t'.get i = some b ∧ p b = true) :
    count p t ≤ count p t' := by
  rw [count_eq_length, count_eq_length]
  refine (List.subperm_of_subset (List.nodup_range.filter _) fun i hi => ?_).length_le
  obtain ⟨a, hget, hp⟩ := mem_slots.mp hi
  exact mem_slots.mpr (hkept i a hget hp)

end SlotTable
