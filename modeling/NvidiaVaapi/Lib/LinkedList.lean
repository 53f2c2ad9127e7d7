import Mathlib.Algebra.Group.Nat.Defs
import Mathlib.Data.List.Basic
import Mathlib.Logic.Function.Basic

/-!
# Doubly linked lists

The pointers of an intrusive list with a head and a tail, and the list that they join.  Linking a
node at the end and unlinking a node do to the list what they should, and no pointers but one
set join a list.
-/

universe u

namespace LinkedList

variable {α : Type u} {xs ys : List α} {a b c : α}

/-- One entry of a list comes directly before another one. -/
def Adjacent : List α → α → α → Prop
  | [], _, _ => False
  | [_], _, _ => False
  | x :: y :: rest, a, b => x = a ∧ y = b ∨ Adjacent (y :: rest) a b

theorem adjacent_cons : Adjacent (c :: xs) a b ↔ c = a ∧ xs.head? = some b ∨ Adjacent xs a b := by
  cases xs with
  | nil =>
      show False ↔ c = a ∧ none = some b ∨ False
      simp
  | cons y rest =>
      show c = a ∧ y = b ∨ _ ↔ _
      rw [List.head?_cons, Option.some_inj]

theorem adjacent_append : Adjacent (xs ++ ys) a b ↔
    Adjacent xs a b ∨ xs.getLast? = some a ∧ ys.head? = some b ∨ Adjacent ys a b := by
  induction xs with
  | nil =>
      show Adjacent ys a b ↔ False ∨ none = some a ∧ _ ∨ Adjacent ys a b
      simp
  | cons x rest ih =>
      rw [List.cons_append, adjacent_cons, adjacent_cons, ih]
      cases rest with
      | nil =>
          show x = a ∧ ys.head? = some b ∨ False ∨ none = some a ∧ _ ∨ _ ↔
            (x = a ∧ none = some b ∨ False) ∨ some x = some a ∧ _ ∨ _
          simp
      | cons y rest =>
          rw [List.getLast?_cons_cons, List.cons_append, List.head?_cons, List.head?_cons, or_assoc]

theorem Adjacent.mem (h : Adjacent xs a b) : a ∈ xs ∧ b ∈ xs := by
  induction xs with
  | nil => exact h.elim
  | cons x rest ih =>
      rcases adjacent_cons.mp h with ⟨rfl, hhead⟩ | hrest
      · exact ⟨List.mem_cons_self, List.mem_cons_of_mem _ (List.mem_of_mem_head? hhead)⟩
      · exact ⟨List.mem_cons_of_mem _ (ih hrest).1, List.mem_cons_of_mem _ (ih hrest).2⟩

/-- Nothing comes after the last entry. -/
theorem not_adjacent_of_last (hnodup : xs.Nodup) (hlast : xs.getLast? = some a) :
    ¬ Adjacent xs a b := by
  intro h
  obtain ⟨before, rfl⟩ := List.getLast?_eq_some_iff.mp hlast
  obtain ⟨-, -, hdisjoint⟩ := List.nodup_append.mp hnodup
  rcases adjacent_append.mp h with hbefore | ⟨hprev, -⟩ | hno
  · exact hdisjoint a hbefore.mem.1 a List.mem_cons_self rfl
  · exact hdisjoint a (List.mem_of_mem_getLast? hprev) a List.mem_cons_self rfl
  · exact hno

/-- Nothing comes before the first entry. -/
theorem not_adjacent_of_head (hnodup : xs.Nodup) (hhead : xs.head? = some b) :
    ¬ Adjacent xs a b := by
  intro h
  cases xs with
  | nil => exact h
  | cons x rest =>
      obtain rfl := Option.some.inj hhead
      have hfresh := (List.nodup_cons.mp hnodup).1
      rcases adjacent_cons.mp h with ⟨-, hnext⟩ | hrest
      · exact hfresh (List.mem_of_mem_head? hnext)
      · exact hfresh hrest.mem.2

end LinkedList

/-- The pointers of a doubly linked list: its two ends, and the neighbours of a node. -/
structure Links (α : Type u) where
  head : Option α := none
  tail : Option α := none
  prev : α → Option α := fun _ => none
  next : α → Option α := fun _ => none

namespace Links

open LinkedList

variable {α : Type u}

/-- The pointers join a list in both directions, and a node that is not in it leads nowhere. -/
structure Joins (links : Links α) (xs : List α) : Prop where
  head : links.head = xs.head?
  tail : links.tail = xs.getLast?
  next : ∀ a b, links.next a = some b ↔ Adjacent xs a b
  prev : ∀ a b, links.prev b = some a ↔ Adjacent xs a b

/-- No others join the same list. -/
theorem Joins.unique {links links' : Links α} {xs : List α} (h : links.Joins xs)
    (h' : links'.Joins xs) : links = links' := by
  have hhead : links.head = links'.head := h.head.trans h'.head.symm
  have htail : links.tail = links'.tail := h.tail.trans h'.tail.symm
  have hnext : links.next = links'.next := by
    funext a
    ext b
    rw [h.next, h'.next]
  have hprev : links.prev = links'.prev := by
    funext b
    ext a
    rw [h.prev, h'.prev]
  cases links
  cases links'
  cases hhead
  cases htail
  cases hnext
  cases hprev
  rfl

theorem joins_nil : ({} : Links α).Joins [] where
  head := rfl
  tail := rfl
  next _ _ := ⟨nofun, fun h => h.elim⟩
  prev _ _ := ⟨nofun, fun h => h.elim⟩

/-- The neighbours of a node in a list. -/
theorem Joins.neighbours {links : Links α} {before after : List α} {c : α}
    (h : links.Joins (before ++ c :: after)) (hnodup : (before ++ c :: after).Nodup) :
    links.prev c = before.getLast? ∧ links.next c = after.head? := by
  obtain ⟨hbefore, hafter, hdisjoint⟩ := List.nodup_append.mp hnodup
  have hfresh := (List.nodup_cons.mp hafter).1
  have hother : c ∉ before := fun hmem => hdisjoint c hmem c List.mem_cons_self rfl
  constructor
  · ext a
    rw [h.prev, adjacent_append, adjacent_cons, List.head?_cons]
    constructor
    · rintro (hold | ⟨hlast, -⟩ | ⟨-, hhead⟩ | hrest)
      · exact absurd hold.mem.2 hother
      · exact hlast
      · exact absurd (List.mem_of_mem_head? hhead) hfresh
      · exact absurd hrest.mem.2 hfresh
    · exact fun hlast => .inr (.inl ⟨hlast, rfl⟩)
  · ext b
    rw [h.next, adjacent_append, adjacent_cons]
    constructor
    · rintro (hold | ⟨hlast, -⟩ | ⟨-, hhead⟩ | hrest)
      · exact absurd hold.mem.1 hother
      · exact absurd (List.mem_of_mem_getLast? hlast) hother
      · exact hhead
      · exact absurd hrest.mem.1 hfresh
    · exact fun hhead => .inr (.inr (.inl ⟨rfl, hhead⟩))

/-- Go through the nodes from one on, to the first of a kind. -/
def firstFrom (links : Links α) (p : α → Bool) : Nat → Option α → Option α
  | _, none => none
  | 0, some _ => none
  | rounds + 1, some a => if p a then some a else firstFrom links p rounds (links.next a)

/-- From the head on, this is the first of its kind in the list. -/
theorem firstFrom_head {links : Links α} {xs : List α} (h : links.Joins xs) (hnodup : xs.Nodup)
    (p : α → Bool) : links.firstFrom p xs.length links.head = xs.find? p := by
  have hloop : ∀ rest before : List α, before ++ rest = xs →
      links.firstFrom p rest.length rest.head? = rest.find? p := by
    intro rest
    induction rest with
    | nil => exact fun _ _ => rfl
    | cons c rest ih =>
        intro before hxs
        subst hxs
        rw [List.find?_cons]
        show (if p c then some c else _) = _
        cases hp : p c with
        | true => rfl
        | false =>
            have hrest := ih (before ++ [c]) (by rw [List.append_assoc]; rfl)
            rw [(h.neighbours hnodup).2]
            exact hrest
  rw [h.head]
  exact hloop xs [] rfl

variable [DecidableEq α]

/-- What comes after a node, or at the head. -/
def setNext (links : Links α) (node target : Option α) : Links α :=
  match node with
  | some a => { links with next := Function.update links.next a target }
  | none => { links with head := target }

/-- What comes before a node, or at the tail. -/
def setPrev (links : Links α) (node target : Option α) : Links α :=
  match node with
  | some a => { links with prev := Function.update links.prev a target }
  | none => { links with tail := target }

/-- Link a node at the end. -/
def append (links : Links α) (a : α) : Links α :=
  { { links with
      prev := Function.update links.prev a links.tail
      next := Function.update links.next a none }.setNext links.tail (some a) with
    tail := some a }

/-- Unlink a node. -/
def unlink (links : Links α) (a : α) : Links α :=
  let links := links.setNext (links.prev a) (links.next a)
  let links := links.setPrev (links.next a) (links.prev a)
  { links with
    prev := Function.update links.prev a none
    next := Function.update links.next a none }

section

variable (links : Links α) (node target : Option α) (a : α)

theorem setNext_next : (links.setNext node target).next a =
    if node = some a then target else links.next a := by
  cases node with
  | none => exact (if_neg nofun).symm
  | some b =>
      show Function.update links.next b target a = _
      rw [Function.update_apply]
      by_cases heq : a = b
      · rw [if_pos heq, if_pos (congrArg some heq.symm)]
      · rw [if_neg heq, if_neg fun hsame => heq (Option.some.inj hsame).symm]

theorem setNext_head : (links.setNext node target).head =
    if node = none then target else links.head := by
  cases node <;> rfl

@[simp] theorem setNext_prev : (links.setNext node target).prev = links.prev := by
  cases node <;> rfl

@[simp] theorem setNext_tail : (links.setNext node target).tail = links.tail := by
  cases node <;> rfl

theorem setPrev_prev : (links.setPrev node target).prev a =
    if node = some a then target else links.prev a := by
  cases node with
  | none => exact (if_neg nofun).symm
  | some b =>
      show Function.update links.prev b target a = _
      rw [Function.update_apply]
      by_cases heq : a = b
      · rw [if_pos heq, if_pos (congrArg some heq.symm)]
      · rw [if_neg heq, if_neg fun hsame => heq (Option.some.inj hsame).symm]

theorem setPrev_tail : (links.setPrev node target).tail =
    if node = none then target else links.tail := by
  cases node <;> rfl

@[simp] theorem setPrev_next : (links.setPrev node target).next = links.next := by
  cases node <;> rfl

@[simp] theorem setPrev_head : (links.setPrev node target).head = links.head := by
  cases node <;> rfl

end

/-- A node that is not in the list comes to its end. -/
theorem Joins.append {links : Links α} {xs : List α} {c : α} (h : links.Joins xs)
    (hnodup : xs.Nodup) (hfresh : c ∉ xs) : (links.append c).Joins (xs ++ [c]) := by
  have hadjacent : ∀ a b, Adjacent (xs ++ [c]) a b ↔
      Adjacent xs a b ∨ xs.getLast? = some a ∧ c = b := by
    intro a b
    rw [adjacent_append, List.head?_cons, Option.some_inj]
    show _ ∨ _ ∨ False ↔ _
    rw [or_false]
  have hprev : ∀ b, (links.append c).prev b =
      if b = c then xs.getLast? else links.prev b := by
    intro b
    show (setNext _ _ _).prev b = _
    rw [setNext_prev, ← h.tail]
    exact Function.update_apply ..
  have hnext : ∀ a, (links.append c).next a =
      if xs.getLast? = some a then some c else if a = c then none else links.next a := by
    intro a
    show (setNext _ _ _).next a = _
    rw [setNext_next, ← h.tail]
    congr 1
    exact Function.update_apply ..
  constructor
  · show (setNext _ _ _).head = _
    rw [setNext_head, h.tail]
    split
    · rename_i hnone
      rw [List.getLast?_eq_none_iff.mp hnone]
      rfl
    · rename_i hsome
      have hxs : xs ≠ [] := mt List.getLast?_eq_none_iff.mpr hsome
      exact h.head.trans (List.head?_append_of_ne_nil _ hxs).symm
  · rw [List.getLast?_concat]
    rfl
  · intro a b
    rw [hadjacent, hnext]
    split
    · rename_i hend
      rw [Option.some_inj]
      exact ⟨fun hb => .inr ⟨hend, hb⟩, fun hor => hor.elim
        (fun hold => absurd hold (not_adjacent_of_last hnodup hend)) fun hb => hb.2⟩
    · rename_i hend
      split
      · rename_i heq
        subst heq
        exact ⟨nofun, fun hor => hor.elim (fun hold => absurd hold.mem.1 hfresh)
          fun hb => absurd hb.1 hend⟩
      · rw [h.next]
        exact ⟨.inl, fun hor => hor.elim id fun hb => absurd hb.1 hend⟩
  · intro a b
    rw [hadjacent, hprev]
    split
    · rename_i heq
      subst heq
      exact ⟨fun hend => .inr ⟨hend, rfl⟩, fun hor => hor.elim
        (fun hold => absurd hold.mem.2 hfresh) fun hb => hb.1⟩
    · rename_i hne
      rw [h.prev]
      exact ⟨.inl, fun hor => hor.elim id fun hb => absurd hb.2.symm hne⟩

/-- A node in the list leaves it. -/
theorem Joins.unlink {links : Links α} {before after : List α} {c : α}
    (h : links.Joins (before ++ c :: after)) (hnodup : (before ++ c :: after).Nodup) :
    (links.unlink c).Joins (before ++ after) := by
  obtain ⟨hprevNode, hnextNode⟩ := h.neighbours hnodup
  obtain ⟨hbefore, hafter, hdisjoint⟩ := List.nodup_append.mp hnodup
  obtain ⟨hfresh, hrest⟩ := List.nodup_cons.mp hafter
  have hother : c ∉ before := fun hmem => hdisjoint c hmem c List.mem_cons_self rfl
  have hnotLast : before.getLast? ≠ some c := fun hlast => hother (List.mem_of_mem_getLast? hlast)
  have hapart : ∀ a ∈ before, a ∉ after :=
    fun a hmem hafterMem => hdisjoint a hmem a (List.mem_cons_of_mem _ hafterMem) rfl
  have hkept : (links.setNext (links.prev c) (links.next c)).next c = links.next c := by
    rw [setNext_next, if_neg (by rw [hprevNode]; exact hnotLast)]
  have hnext : ∀ a, (links.unlink c).next a =
      if a = c then none else if before.getLast? = some a then after.head? else links.next a := by
    intro a
    show Function.update (setPrev _ _ _).next c none a = _
    rw [Function.update_apply, setPrev_next, setNext_next, hprevNode, hnextNode]
  have hprev : ∀ b, (links.unlink c).prev b =
      if b = c then none else if after.head? = some b then before.getLast? else links.prev b := by
    intro b
    show Function.update (setPrev _ _ _).prev c none b = _
    rw [Function.update_apply, setPrev_prev, hkept, setNext_prev, hprevNode, hnextNode]
  have hadjacent : ∀ a b, Adjacent (before ++ after) a b ↔
      Adjacent before a b ∨ before.getLast? = some a ∧ after.head? = some b ∨
        Adjacent after a b := fun a b => adjacent_append
  have hold : ∀ a b, Adjacent (before ++ c :: after) a b ↔
      Adjacent before a b ∨ before.getLast? = some a ∧ c = b ∨
        c = a ∧ after.head? = some b ∨ Adjacent after a b := by
    intro a b
    rw [adjacent_append, adjacent_cons, List.head?_cons, Option.some_inj]
  constructor
  · show (setPrev _ _ _).head = _
    rw [setPrev_head, setNext_head, hprevNode, hnextNode, h.head]
    split
    · rename_i hnone
      rw [List.getLast?_eq_none_iff.mp hnone]
      rfl
    · rename_i hsome
      have hne : before ≠ [] := mt List.getLast?_eq_none_iff.mpr hsome
      rw [List.head?_append_of_ne_nil _ hne, List.head?_append_of_ne_nil _ hne]
  · show (setPrev _ _ _).tail = _
    rw [setPrev_tail, hkept, setNext_prev, setNext_tail, hprevNode, hnextNode, h.tail]
    split
    · rename_i hnone
      rw [List.head?_eq_none_iff.mp hnone, List.append_nil]
    · rename_i hsome
      have hne : after ≠ [] := mt List.head?_eq_none_iff.mpr hsome
      rw [List.getLast?_append_of_ne_nil _ hne,
        List.getLast?_append_of_ne_nil _ (List.cons_ne_nil c after)]
      obtain ⟨x, rest, rfl⟩ := List.exists_cons_of_ne_nil hne
      exact List.getLast?_cons_cons
  · intro a b
    rw [hnext, hadjacent]
    split
    · rename_i heq
      subst heq
      constructor
      · nofun
      · rintro (hmem | ⟨hlast, -⟩ | hmem)
        · exact absurd hmem.mem.1 hother
        · exact absurd hlast hnotLast
        · exact absurd hmem.mem.1 hfresh
    · rename_i hne
      split
      · rename_i hlast
        constructor
        · exact fun hhead => .inr (.inl ⟨hlast, hhead⟩)
        · rintro (hmem | ⟨-, hhead⟩ | hmem)
          · exact absurd hmem (not_adjacent_of_last hbefore hlast)
          · exact hhead
          · exact absurd hmem.mem.1 (hapart a (List.mem_of_mem_getLast? hlast))
      · rename_i hlast
        rw [h.next, hold]
        constructor
        · rintro (hmem | ⟨hno, -⟩ | ⟨heq, -⟩ | hmem)
          · exact .inl hmem
          · exact absurd hno hlast
          · exact absurd heq.symm hne
          · exact .inr (.inr hmem)
        · rintro (hmem | ⟨hno, -⟩ | hmem)
          · exact .inl hmem
          · exact absurd hno hlast
          · exact .inr (.inr (.inr hmem))
  · intro a b
    rw [hprev, hadjacent]
    split
    · rename_i heq
      subst heq
      constructor
      · nofun
      · rintro (hmem | ⟨-, hhead⟩ | hmem)
        · exact absurd hmem.mem.2 hother
        · exact absurd (List.mem_of_mem_head? hhead) hfresh
        · exact absurd hmem.mem.2 hfresh
    · rename_i hne
      split
      · rename_i hhead
        constructor
        · exact fun hlast => .inr (.inl ⟨hlast, hhead⟩)
        · rintro (hmem | ⟨hlast, -⟩ | hmem)
          · exact absurd (List.mem_of_mem_head? hhead) (hapart b hmem.mem.2)
          · exact hlast
          · exact absurd hmem (not_adjacent_of_head hrest hhead)
      · rename_i hhead
        rw [h.prev, hold]
        constructor
        · rintro (hmem | ⟨-, heq⟩ | ⟨-, hno⟩ | hmem)
          · exact .inl hmem
          · exact absurd heq.symm hne
          · exact absurd hno hhead
          · exact .inr (.inr hmem)
        · rintro (hmem | ⟨-, hno⟩ | hmem)
          · exact .inl hmem
          · exact absurd hno hhead
          · exact .inr (.inr (.inr hmem))

/-- The pointers after the nodes of a list were linked in turn. -/
def ofList (xs : List α) : Links α :=
  xs.foldl append {}

theorem joins_ofList {xs : List α} (hnodup : xs.Nodup) : (ofList xs).Joins xs := by
  have hloop : ∀ (rest before : List α) (links : Links α), (before ++ rest).Nodup →
      links.Joins before → (rest.foldl append links).Joins (before ++ rest) := by
    intro rest
    induction rest with
    | nil =>
        intro before links _ h
        rw [List.append_nil]
        exact h
    | cons c rest ih =>
        intro before links hall h
        have hsplit : before ++ c :: rest = (before ++ [c]) ++ rest := by
          rw [List.append_assoc]
          rfl
        rw [hsplit] at hall ⊢
        obtain ⟨hhead, -, -⟩ := List.nodup_append.mp hall
        obtain ⟨hbefore, -, hdisjoint⟩ := List.nodup_append.mp hhead
        exact ih _ _ hall (h.append hbefore fun hmem =>
          hdisjoint c hmem c List.mem_cons_self rfl)
  exact hloop xs [] {} hnodup joins_nil

/-- Linking and unlinking a node, on the pointers of a list. -/
theorem append_ofList (xs : List α) (c : α) :
    (ofList xs).append c = ofList (xs ++ [c]) := by
  unfold ofList
  rw [List.foldl_append]
  rfl

theorem unlink_ofList {xs : List α} {c : α} (hnodup : xs.Nodup) (hmem : c ∈ xs) :
    (ofList xs).unlink c = ofList (xs.erase c) := by
  obtain ⟨before, after, rfl⟩ := List.append_of_mem hmem
  obtain ⟨-, -, hdisjoint⟩ := List.nodup_append.mp hnodup
  have herase : (before ++ c :: after).erase c = before ++ after := by
    rw [List.erase_append_right _ fun hold => hdisjoint c hold c List.mem_cons_self rfl,
      List.erase_cons_head]
  have hleft : ((before ++ c :: after).erase c).Nodup := hnodup.erase c
  rw [herase] at hleft ⊢
  exact ((joins_ofList hnodup).unlink hnodup).unique (joins_ofList hleft)

end Links
