import Mathlib.Data.List.Basic
import Mathlib.Data.List.Nodup

/-!
# Queues drawn by links

Cells name their successors: `next i` is the cell after `i`, and a mark `stop`
that is no cell ends the path.  A queue is such a path together with a head and
a tail.  Taking the first cell and hanging a second queue behind the tail are
the operations; both are stated for whatever links agree with the old ones
where it matters, so that they apply to links kept inside of larger records.
-/

universe u

variable {ι : Type u}

/-- The links from `head` to the end mark visit the cells of `path`, in order. -/
inductive LinkedPath (next : ι → ι) (stop : ι) : ι → List ι → Prop
  | nil : LinkedPath next stop stop []
  | cons {i : ι} {path : List ι} : i ≠ stop → LinkedPath next stop (next i) path →
      LinkedPath next stop i (i :: path)

namespace LinkedPath

variable {next next' : ι → ι} {stop head : ι} {path : List ι}

theorem ne_stop (h : LinkedPath next stop head path) : ∀ i ∈ path, i ≠ stop := by
  induction h with
  | nil => nofun
  | cons hne _ ih =>
      intro j hj
      rcases List.mem_cons.mp hj with rfl | hj
      · exact hne
      · exact ih j hj

theorem head_eq_stop_iff (h : LinkedPath next stop head path) : head = stop ↔ path = [] := by
  cases h with
  | nil => simp
  | cons hne _ => simp [hne]

theorem head_cons {i : ι} (h : LinkedPath next stop head (i :: path)) : head = i := by
  cases h with
  | cons _ _ => rfl

/-- Links that agree on the cells of a path draw the same path. -/
theorem congr (h : LinkedPath next stop head path) (hsame : ∀ i ∈ path, next' i = next i) :
    LinkedPath next' stop head path := by
  induction h with
  | nil => exact .nil
  | cons hne _ ih =>
      refine .cons hne ?_
      rw [hsame _ List.mem_cons_self]
      exact ih fun i hi => hsame i (List.mem_cons_of_mem _ hi)

/-- A second path continues the first one, from whose last cell it is linked. -/
theorem append {first : ι} {cell : ι} {segment : List ι}
    (h : LinkedPath next stop head (path ++ [cell]))
    (hsegment : LinkedPath next' stop first segment) (hlink : next' cell = first)
    (hsame : ∀ i ∈ path, next' i = next i) :
    LinkedPath next' stop head (path ++ [cell] ++ segment) := by
  induction path generalizing head with
  | nil =>
      cases h with
      | cons hne _ =>
          refine .cons hne ?_
          rw [hlink]
          exact hsegment
  | cons i rest ih =>
      cases h with
      | cons hne hrest =>
          refine .cons hne ?_
          rw [hsame i List.mem_cons_self]
          exact ih hrest fun j hj => hsame j (List.mem_cons_of_mem _ hj)

end LinkedPath

/-- A path without repetitions, with its head and its tail. -/
structure LinkedQueue (next : ι → ι) (stop head tail : ι) (path : List ι) : Prop where
  links : LinkedPath next stop head path
  last : tail = path.getLastD stop
  nodup : path.Nodup

namespace LinkedQueue

variable {next next' : ι → ι} {stop head tail : ι} {path : List ι}

theorem empty (next : ι → ι) (stop : ι) : LinkedQueue next stop stop stop [] :=
  ⟨.nil, rfl, List.nodup_nil⟩

theorem single {i : ι} (hne : i ≠ stop) (hnext : next i = stop) :
    LinkedQueue next stop i i [i] := by
  refine ⟨.cons hne ?_, rfl, List.nodup_singleton i⟩
  rw [hnext]
  exact .nil

theorem congr (h : LinkedQueue next stop head tail path)
    (hsame : ∀ i ∈ path, next' i = next i) : LinkedQueue next' stop head tail path :=
  ⟨h.links.congr hsame, h.last, h.nodup⟩

theorem head_eq_stop_iff (h : LinkedQueue next stop head tail path) :
    head = stop ↔ path = [] :=
  h.links.head_eq_stop_iff

theorem tail_mem (h : LinkedQueue next stop head tail path) (hne : path ≠ []) : tail ∈ path := by
  rw [h.last, List.getLastD_eq_getLast?, List.getLast?_eq_some_getLast hne]
  exact List.getLast_mem hne

theorem tail_eq_stop_iff (h : LinkedQueue next stop head tail path) :
    tail = stop ↔ path = [] := by
  constructor
  · intro htail
    by_contra hne
    exact h.links.ne_stop tail (h.tail_mem hne) htail
  · intro hnil
    rw [h.last, hnil]
    rfl

variable [DecidableEq ι]

/-- Taking the first cell. -/
theorem pop {i : ι} {rest : List ι} (h : LinkedQueue next stop head tail (i :: rest))
    {tail' : ι} (htail : tail' = if next i = stop then stop else tail) :
    LinkedQueue next stop (next i) tail' rest := by
  obtain ⟨hlinks, hlast, hnodup⟩ := h
  cases hlinks with
  | cons _ hrest =>
      refine ⟨hrest, ?_, (List.nodup_cons.mp hnodup).2⟩
      rw [htail]
      by_cases hnil : rest = []
      · rw [if_pos (hrest.head_eq_stop_iff.mpr hnil), hnil]
        rfl
      · rw [if_neg fun hstop => hnil (hrest.head_eq_stop_iff.mp hstop), hlast]
        obtain ⟨j, others, rfl⟩ := List.exists_cons_of_ne_nil hnil
        rfl

/-- Hanging a second queue behind the tail. -/
theorem append {first last : ι} {segment : List ι} (h : LinkedQueue next stop head tail path)
    (hsegment : LinkedQueue next' stop first last segment) (hne : segment ≠ [])
    (hdisjoint : path.Disjoint segment) (hlink : tail ≠ stop → next' tail = first)
    (hsame : ∀ i ∈ path, i ≠ tail → next' i = next i) :
    LinkedQueue next' stop (if tail = stop then first else head) last (path ++ segment) := by
  refine ⟨?_, ?_, h.nodup.append hsegment.nodup hdisjoint⟩
  · by_cases hnil : path = []
    · rw [if_pos (h.tail_eq_stop_iff.mpr hnil), hnil]
      exact hsegment.links
    · have hstop : tail ≠ stop := fun hstop => hnil (h.tail_eq_stop_iff.mp hstop)
      rw [if_neg hstop]
      obtain ⟨front, cell, rfl⟩ := List.eq_nil_or_concat path |>.resolve_left hnil
      rw [List.concat_eq_append] at h hdisjoint hsame ⊢
      have hcell : tail = cell := by
        rw [h.last]
        simp [List.getLastD_eq_getLast?]
      subst hcell
      refine h.links.append hsegment.links (hlink hstop) fun i hi => ?_
      have hapart : i ≠ tail := by
        rintro rfl
        have := List.nodup_append.mp h.nodup
        exact this.2.2 i hi i List.mem_cons_self rfl
      exact hsame i (List.mem_append_left _ hi) hapart
  · rw [hsegment.last, List.getLastD_eq_getLast?, List.getLastD_eq_getLast?,
      List.getLast?_append_of_ne_nil _ hne]

/-- Hanging one cell behind the tail. -/
theorem push {i : ι} (h : LinkedQueue next stop head tail path) (hne : i ≠ stop)
    (hfresh : i ∉ path) (hnext : next' i = stop) (hlink : tail ≠ stop → next' tail = i)
    (hsame : ∀ j ∈ path, j ≠ tail → next' j = next j) :
    LinkedQueue next' stop (if tail = stop then i else head) i (path ++ [i]) :=
  h.append (single hne hnext) (List.cons_ne_nil _ _)
    (List.disjoint_singleton.mpr hfresh) hlink hsame

end LinkedQueue
