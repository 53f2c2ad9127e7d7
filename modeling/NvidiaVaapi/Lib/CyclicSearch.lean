import Mathlib.Data.List.Chain
import Mathlib.Data.Nat.ModEq
import Mathlib.Data.List.Range

/-!
# Cyclic search

A search that goes once round a number of places, beginning at a cursor, and takes the first
available one.  A sequence of searches, each of which begins behind the place that was taken
last, passes over no available place.
-/

namespace CyclicSearch

/-- The first available place, going round `limit` places from the cursor on. -/
def find (limit : Nat) (available : Nat → Bool) (cursor : Nat) : Option Nat :=
  ((List.range limit).map fun offset => (cursor + offset) % limit).find? available

section Search

variable {limit cursor : Nat} {available : Nat → Bool}

/-- The search takes the place at the least offset that is available. -/
theorem find_eq_some {place : Nat} :
    find limit available cursor = some place ↔
      ∃ offset < limit, place = (cursor + offset) % limit ∧ available place = true ∧
        ∀ earlier < offset, available ((cursor + earlier) % limit) = false := by
  unfold find
  rw [List.find?_map, Option.map_eq_some_iff]
  constructor
  · rintro ⟨offset, hfound, rfl⟩
    rw [List.find?_range_eq_some] at hfound
    obtain ⟨havailable, hmem, hbefore⟩ := hfound
    refine ⟨offset, List.mem_range.mp hmem, rfl, havailable, fun earlier hearlier => ?_⟩
    simpa using hbefore earlier hearlier
  · rintro ⟨offset, hoffset, rfl, havailable, hbefore⟩
    refine ⟨offset, ?_, rfl⟩
    rw [List.find?_range_eq_some]
    refine ⟨havailable, List.mem_range.mpr hoffset, fun earlier hearlier => ?_⟩
    simpa using hbefore earlier hearlier

/-- Only what is available below the limit matters. -/
theorem find_congr {available' : Nat → Bool} (cursor : Nat)
    (hsame : ∀ place < limit, available place = available' place) :
    find limit available cursor = find limit available' cursor := by
  have hmem : ∀ place ∈ (List.range limit).map (fun offset => (cursor + offset) % limit),
      available place = available' place := by
    intro place hmem
    obtain ⟨offset, hoffset, rfl⟩ := List.mem_map.mp hmem
    exact hsame _ (Nat.mod_lt _ (Nat.zero_lt_of_lt (List.mem_range.mp hoffset)))
  unfold find
  generalize (List.range limit).map (fun offset => (cursor + offset) % limit) = places at hmem ⊢
  induction places with
  | nil => rfl
  | cons place rest ih =>
      rw [List.find?_cons, List.find?_cons, hmem place List.mem_cons_self,
        ih fun later hlater => hmem later (List.mem_cons_of_mem place hlater)]

/-- Every place is met on the way round. -/
theorem exists_offset (cursor : Nat) {place : Nat} (hplace : place < limit) :
    ∃ offset < limit, (cursor + offset) % limit = place := by
  have hpos : 0 < limit := Nat.zero_lt_of_lt hplace
  have hcursor := Nat.mod_lt cursor hpos
  have hsplit := Nat.mod_add_div cursor limit
  by_cases hahead : cursor % limit ≤ place
  · refine ⟨place - cursor % limit, by omega, ?_⟩
    have hsum : cursor + (place - cursor % limit) = place + limit * (cursor / limit) := by omega
    rw [hsum, Nat.add_mul_mod_self_left, Nat.mod_eq_of_lt hplace]
  · refine ⟨place + limit - cursor % limit, by omega, ?_⟩
    have hsum : cursor + (place + limit - cursor % limit) =
        place + limit * (cursor / limit + 1) := by
      rw [Nat.mul_add, Nat.mul_one]
      omega
    rw [hsum, Nat.add_mul_mod_self_left, Nat.mod_eq_of_lt hplace]

/-- The search fails when no place is available, and only then. -/
theorem find_eq_none :
    find limit available cursor = none ↔ ∀ place < limit, available place = false := by
  unfold find
  rw [List.find?_eq_none]
  constructor
  · intro hnone place hplace
    obtain ⟨offset, hoffset, hmet⟩ := exists_offset cursor hplace
    have hfalse := hnone place (List.mem_map.mpr ⟨offset, List.mem_range.mpr hoffset, hmet⟩)
    simpa using hfalse
  · intro hnone place hmem
    obtain ⟨offset, hoffset, rfl⟩ := List.mem_map.mp hmem
    have hpos : 0 < limit := Nat.zero_lt_of_lt (List.mem_range.mp hoffset)
    rw [hnone _ (Nat.mod_lt _ hpos)]
    exact Bool.false_ne_true

end Search

/-! ## Sequences of searches -/

/-- From one position on the unrolled circle to a later one, with no available place passed
over. -/
def Next (limit : Nat) (available : Nat → Bool) (p q : Nat) : Prop :=
  p < q ∧ ∀ x, p < x → x < q → available (x % limit) = false

section Sequences

variable {limit : Nat} {available : Nat → Bool} {positions : List Nat}

/-- A search that begins behind a position finds the next one. -/
theorem next_of_find {p cursor place : Nat} (hcursor : cursor % limit = (p + 1) % limit)
    (hfind : find limit available cursor = some place) :
    ∃ q, q % limit = place ∧ Next limit available p q := by
  obtain ⟨offset, -, rfl, -, hbefore⟩ := find_eq_some.mp hfind
  have hsame : ∀ o, (cursor + o) % limit = (p + 1 + o) % limit := fun o =>
    Nat.ModEq.add_right o hcursor
  refine ⟨p + 1 + offset, (hsame offset).symm, by omega, fun x hafter hx => ?_⟩
  have hearlier := hbefore (x - (p + 1)) (by omega)
  rw [hsame, show p + 1 + (x - (p + 1)) = x by omega] at hearlier
  exact hearlier

theorem positions_lt (hchain : positions.IsChain (Next limit available)) {a b : Nat}
    (hab : a < b) (hb : b < positions.length) : positions[a] < positions[b] := by
  induction b with
  | zero => omega
  | succ b ih =>
      have hstep := (List.isChain_iff_getElem.mp hchain b hb).1
      rcases Nat.lt_succ_iff_lt_or_eq.mp hab with hlt | rfl
      · exact (ih hlt (by omega)).trans hstep
      · exact hstep

/-- Between two positions of a sequence every available place has been taken. -/
theorem exists_position (hchain : positions.IsChain (Next limit available)) {a b x : Nat}
    (hab : a ≤ b) (hb : b < positions.length) (hfrom : positions[a] ≤ x)
    (hto : x < positions[b]) (havailable : available (x % limit) = true) :
    ∃ k, ∃ hk : k < positions.length, a ≤ k ∧ k < b ∧ positions[k] = x := by
  induction b with
  | zero =>
      obtain rfl : a = 0 := by omega
      omega
  | succ b ih =>
      have hstep := List.isChain_iff_getElem.mp hchain b hb
      have hle : a ≤ b := by
        by_contra hmore
        obtain rfl : a = b + 1 := by omega
        omega
      by_cases hbefore : x < positions[b]
      · obtain ⟨k, hk, hak, hkb, hx⟩ := ih hle (by omega) hfrom hbefore
        exact ⟨k, hk, hak, by omega, hx⟩
      · -- an available place is not passed over
        have hat : x = positions[b] := by
          by_contra hne
          have hfalse := hstep.2 x (by omega) hto
          rw [havailable] at hfalse
          cases hfalse
        exact ⟨b, by omega, hle, by omega, hat.symm⟩

/-- Before a place is taken again, every available place has been taken. -/
theorem all_before_repeat (hchain : positions.IsChain (Next limit available)) {a b : Nat}
    (hab : a < b) (hb : b < positions.length)
    (hrepeat : positions[a] % limit = positions[b] % limit) {place : Nat}
    (hplace : place < limit) (havailable : available place = true) :
    ∃ k, ∃ hk : k < positions.length, a ≤ k ∧ k < b ∧ positions[k] % limit = place := by
  have hlt := positions_lt hchain hab hb
  have hround : positions[a] + limit ≤ positions[b] := by
    have hdvd : limit ∣ positions[b] - positions[a] := (Nat.modEq_iff_dvd' hlt.le).mp hrepeat
    have hle := Nat.le_of_dvd (by omega) hdvd
    omega
  obtain ⟨offset, hoffset, hmet⟩ := exists_offset positions[a] hplace
  obtain ⟨k, hk, hak, hkb, hx⟩ := exists_position hchain hab.le hb (Nat.le_add_right _ offset)
    (by omega) (hmet ▸ havailable)
  exact ⟨k, hk, hak, hkb, hx ▸ hmet⟩

end Sequences

end CyclicSearch
