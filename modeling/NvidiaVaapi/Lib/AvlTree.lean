import Mathlib.Data.Tree.Basic
import Mathlib.Data.Nat.Fib.Basic
import Mathlib.Order.Basic

/-!
# Insertion into balanced search trees

Binary trees whose elements are ordered by a key from left to right, and the insertion of
Adelson-Velsky and Landis: an element goes to a leaf, and single and double rotations on the
way back keep the heights of any two siblings within one of each other.
-/

universe u v

namespace BinaryTree

variable {α : Type u} {β : Type v}

/-- The elements from left to right. -/
def inorder : BinaryTree α → List α
  | nil => []
  | node a l r => l.inorder ++ a :: r.inorder

/-- The heights of siblings differ by one at most. -/
def Balanced : BinaryTree α → Prop
  | nil => True
  | node _ l r =>
    l.height ≤ r.height + 1 ∧ r.height ≤ l.height + 1 ∧ l.Balanced ∧ r.Balanced

def rotateLeft : BinaryTree α → BinaryTree α
  | node a l (node b rl rr) => node b (node a l rl) rr
  | t => t

def rotateRight : BinaryTree α → BinaryTree α
  | node a (node b ll lr) r => node b ll (node a lr r)
  | t => t

@[simp] theorem inorder_nil : (nil : BinaryTree α).inorder = [] := rfl

@[simp] theorem inorder_node (a : α) (l r : BinaryTree α) :
    (node a l r).inorder = l.inorder ++ a :: r.inorder := rfl

@[simp] theorem inorder_rotateLeft (t : BinaryTree α) : t.rotateLeft.inorder = t.inorder := by
  unfold rotateLeft
  split
  · simp
  · rfl

@[simp] theorem inorder_rotateRight (t : BinaryTree α) : t.rotateRight.inorder = t.inorder := by
  unfold rotateRight
  split
  · simp
  · rfl

theorem length_inorder (t : BinaryTree α) : t.inorder.length = t.numNodes := by
  induction t with
  | nil => rfl
  | node a l r ihl ihr => simp [ihl, ihr]; omega

/-- A tree of a height that is not zero has a root. -/
theorem exists_node_of_height {t : BinaryTree α} (hpos : 0 < t.height) :
    ∃ a l r, t = node a l r := by
  cases t with
  | nil => exact absurd hpos (Nat.lt_irrefl 0)
  | node a l r => exact ⟨a, l, r, rfl⟩

/-- A balanced tree of some height has as many nodes as the Fibonacci numbers demand. -/
theorem Balanced.fib_le {t : BinaryTree α} (h : t.Balanced) :
    Nat.fib (t.height + 2) ≤ t.numNodes + 1 := by
  induction t with
  | nil => exact Nat.le_refl 1
  | node a l r ihl ihr =>
      obtain ⟨hlr, hrl, hl, hr⟩ := h
      have hgrows : ∀ m n, m ≤ n → n ≤ m + 1 →
          Nat.fib (m + 3) ≤ Nat.fib (n + 2) + Nat.fib (m + 2) := by
        intro m n hmn hnm
        have hfib : Nat.fib (m + 3) = Nat.fib (m + 1) + Nat.fib (m + 2) := Nat.fib_add_two
        have hmono : Nat.fib (m + 1) ≤ Nat.fib (n + 2) := Nat.fib_mono (by omega)
        omega
      have hstep : Nat.fib (max l.height r.height + 3) ≤
          Nat.fib (l.height + 2) + Nat.fib (r.height + 2) := by
        have hfib : Nat.fib (max l.height r.height + 3) =
          Nat.fib (max l.height r.height + 1) + Nat.fib (max l.height r.height + 2) :=
            Nat.fib_add_two
        rcases Nat.le_total l.height r.height with hle | hle
        · rw [max_eq_right hle] at hfib ⊢
          have hmono : Nat.fib (r.height + 1) ≤ Nat.fib (l.height + 2) := Nat.fib_mono (by omega)
          omega
        · rw [max_eq_left hle] at hfib ⊢
          have hmono : Nat.fib (l.height + 1) ≤ Nat.fib (r.height + 2) := Nat.fib_mono (by omega)
          omega
      have hleft := ihl hl
      have hright := ihr hr
      simp only [height, numNodes]
      show Nat.fib (max l.height r.height + 3) ≤ _
      omega

/-- A tree is ordered by a key: what is to the left of an element has a smaller one, and what
is to the right a larger one. -/
def Ordered [LT β] (key : α → β) : BinaryTree α → Prop
  | nil => True
  | node a l r =>
    (∀ b ∈ l.inorder, key b < key a) ∧ (∀ b ∈ r.inorder, key a < key b) ∧
      l.Ordered key ∧ r.Ordered key

/-- A tree whose elements come with growing keys is ordered. -/
theorem ordered_of_pairwise [LT β] {key : α → β} {t : BinaryTree α}
    (hgrows : t.inorder.Pairwise fun a b => key a < key b) : t.Ordered key := by
  induction t with
  | nil => trivial
  | node a l r ihl ihr =>
      obtain ⟨hl, hnode, hacross⟩ := List.pairwise_append.mp hgrows
      obtain ⟨hright, hr⟩ := List.pairwise_cons.mp hnode
      exact ⟨fun b hb => hacross b hb a List.mem_cons_self, hright, ihl hl, ihr hr⟩

section Insertion

variable [LinearOrder β] (key : α → β)

/-- The rotations of a tree whose left child is too high: two of them where the element went
between the child and the root. -/
def lowerLeft (x a : α) (l r : BinaryTree α) : BinaryTree α :=
  match l with
  | nil => node a nil r
  | node b ll lr =>
    if key b < key x then rotateRight (node a (rotateLeft (node b ll lr)) r)
    else rotateRight (node a (node b ll lr) r)

/-- The rotations of a tree whose right child is too high. -/
def lowerRight (x a : α) (l r : BinaryTree α) : BinaryTree α :=
  match r with
  | nil => node a l nil
  | node b rl rr =>
    if key x < key b then rotateLeft (node a l (rotateRight (node b rl rr)))
    else rotateLeft (node a l (node b rl rr))

/-- Rotate a tree whose children are out of balance after an element was inserted into one of
them. -/
def rebalance (x : α) : BinaryTree α → BinaryTree α
  | nil => nil
  | node a l r =>
    if r.height + 1 < l.height then lowerLeft key x a l r
    else if l.height + 1 < r.height then lowerRight key x a l r
    else node a l r

/-- Insert an element by its key. -/
def insertBy (x : α) : BinaryTree α → BinaryTree α
  | nil => node x nil nil
  | node a l r =>
    if key x < key a then rebalance key x (node a (insertBy x l) r)
    else rebalance key x (node a l (insertBy x r))

variable {key} {x : α}

theorem inorder_lowerLeft (a : α) (l r : BinaryTree α) :
    (lowerLeft key x a l r).inorder = l.inorder ++ a :: r.inorder := by
  unfold lowerLeft
  split
  · rfl
  · split <;> simp

theorem inorder_lowerRight (a : α) (l r : BinaryTree α) :
    (lowerRight key x a l r).inorder = l.inorder ++ a :: r.inorder := by
  unfold lowerRight
  split
  · rfl
  · split <;> simp

@[simp] theorem inorder_rebalance (t : BinaryTree α) :
    (rebalance key x t).inorder = t.inorder := by
  unfold rebalance
  split
  · rfl
  · split
    · exact inorder_lowerLeft _ _ _
    · split
      · exact inorder_lowerRight _ _ _
      · rfl

theorem inorder_insertBy_perm (t : BinaryTree α) :
    (insertBy key x t).inorder.Perm (x :: t.inorder) := by
  induction t with
  | nil => exact List.Perm.refl _
  | node a l r ihl ihr =>
      unfold insertBy
      split
      · rw [inorder_rebalance, inorder_node, inorder_node]
        exact ihl.append_right _
      · rw [inorder_rebalance, inorder_node, inorder_node]
        refine ((ihr.cons a).append_left l.inorder).trans ?_
        exact ((List.Perm.swap x a r.inorder).append_left l.inorder).trans List.perm_middle

/-- The element goes behind all those whose key is not larger, and before the others. -/
theorem inorder_insertBy {t : BinaryTree α}
    (hsorted : t.inorder.Pairwise fun a b => key a ≤ key b) :
    ∃ before after, t.inorder = before ++ after ∧
      (insertBy key x t).inorder = before ++ x :: after ∧
      (∀ a ∈ before, key a ≤ key x) ∧ ∀ a ∈ after, key x < key a := by
  induction t with
  | nil => exact ⟨[], [], rfl, rfl, nofun, nofun⟩
  | node a l r ihl ihr =>
      rw [inorder_node] at hsorted
      obtain ⟨hl, hright, hacross⟩ := List.pairwise_append.mp hsorted
      obtain ⟨hroot, hr⟩ := List.pairwise_cons.mp hright
      unfold insertBy
      split
      · rename_i hlt
        obtain ⟨before, after, hold, hnew, hbefore, hafter⟩ := ihl hl
        refine ⟨before, after ++ a :: r.inorder, by simp [hold], by simp [hnew], hbefore, ?_⟩
        intro b hb
        rcases List.mem_append.mp hb with hmem | hmem
        · exact hafter b hmem
        · rcases List.mem_cons.mp hmem with rfl | hmem
          · exact hlt
          · exact hlt.trans_le (hroot b hmem)
      · rename_i hnot
        obtain ⟨before, after, hold, hnew, hbefore, hafter⟩ := ihr hr
        have hle : key a ≤ key x := not_lt.mp hnot
        refine ⟨l.inorder ++ a :: before, after, by simp [hold], by simp [hnew], ?_, hafter⟩
        intro b hb
        rcases List.mem_append.mp hb with hmem | hmem
        · exact (hacross b hmem a List.mem_cons_self).trans hle
        · rcases List.mem_cons.mp hmem with rfl | hmem
          · exact hle
          · exact hbefore b hmem

variable (key x) in
/-- What an insertion makes of a tree: it is balanced and grows by one at most, and where it
has grown it leans to the side of the new element. -/
structure Grown (t t' : BinaryTree α) : Prop where
  balanced : t'.Balanced
  le : t.height ≤ t'.height
  grows : t'.height ≤ t.height + 1
  leans : t ≠ nil → t'.height = t.height + 1 → ∀ a l r, t' = node a l r →
    key a ≠ key x ∧ (key x < key a → l.height = r.height + 1) ∧
    (key a < key x → r.height = l.height + 1)

/-- A child that has grown is as high as a tree can get that is not out of balance. -/
theorem Grown.ne_nil {t t' : BinaryTree α} (h : Grown key x t t') {n : Nat}
    (hheight : t'.height = n + 2) : t ≠ nil := by
  rintro rfl
  have hgrows := h.grows
  simp only [height] at hgrows
  omega

/-- A left child that has got too high has the inner grandchild that a double rotation moves. -/
theorem Grown.inner_left {a b : α} {l ll lr r : BinaryTree α}
    (h : Grown key x l (node b ll lr)) (hbalanced : (node a l r).Balanced)
    (hhigh : r.height + 1 < (node b ll lr).height) (hinner : key b < key x) : lr ≠ nil := by
  rintro rfl
  have hgrows := h.grows
  have hle := hbalanced.1
  have htwo : (node b ll nil).height = r.height + 2 := by omega
  have hlean := (h.leans (h.ne_nil htwo) (by omega) b ll nil rfl).2.2 hinner
  simp only [height] at hlean
  omega

theorem Grown.inner_right {a b : α} {l r rl rr : BinaryTree α}
    (h : Grown key x r (node b rl rr)) (hbalanced : (node a l r).Balanced)
    (hhigh : l.height + 1 < (node b rl rr).height) (hinner : key x < key b) : rl ≠ nil := by
  rintro rfl
  have hgrows := h.grows
  have hle := hbalanced.2.1
  have htwo : (node b nil rr).height = l.height + 2 := by omega
  have hlean := (h.leans (h.ne_nil htwo) (by omega) b nil rr rfl).2.1 hinner
  simp only [height] at hlean
  omega

/-- The element went to the left child. -/
theorem Grown.left {a : α} {l l' r : BinaryTree α} (h : Grown key x l l')
    (hbalanced : (node a l r).Balanced) (hlt : key x < key a) :
    Grown key x (node a l r) (rebalance key x (node a l' r)) := by
  obtain ⟨hlr, hrl, -, hr⟩ := hbalanced
  have hle := h.le
  have hgrows := h.grows
  rw [rebalance]
  split
  · rename_i hhigh
    obtain ⟨b, ll, lr, rfl⟩ := exists_node_of_height (Nat.lt_of_le_of_lt (Nat.zero_le _) hhigh)
    have htwo : (node b ll lr).height = r.height + 2 := by omega
    obtain ⟨hne, hleft, hright⟩ := h.leans (h.ne_nil htwo) (by omega) b ll lr rfl
    obtain ⟨hbl, hbr, hll, hlrBalanced⟩ := h.balanced
    simp only [height] at htwo
    unfold lowerLeft
    simp only
    split
    · -- The inner grandchild is too high and becomes the root.
      rename_i hinner
      have hlean := hright hinner
      obtain ⟨c, p, q, rfl⟩ := exists_node_of_height (t := lr) (by omega)
      obtain ⟨hpq, hqp, hp, hq⟩ := hlrBalanced
      simp only [height] at hlean htwo
      have hheight : (rotateRight (node a (rotateLeft (node b ll (node c p q))) r)).height =
          (node a l r).height := by
        simp only [rotateLeft, rotateRight, height] at hle hgrows ⊢
        omega
      refine ⟨?_, Nat.le_of_eq hheight.symm, by omega, fun _ hgrown => by omega⟩
      simp only [rotateLeft, rotateRight, Balanced, height]
      exact ⟨by omega, by omega, ⟨by omega, by omega, hll, hp⟩, by omega, by omega, hq, hr⟩
    · rename_i hinner
      have hlean := hleft (lt_of_le_of_ne (not_lt.mp hinner) (Ne.symm hne))
      have hheight : (rotateRight (node a (node b ll lr) r)).height = (node a l r).height := by
        simp only [rotateRight, height] at hle hgrows ⊢
        omega
      refine ⟨?_, Nat.le_of_eq hheight.symm, by omega, fun _ hgrown => by omega⟩
      simp only [rotateRight, Balanced, height]
      exact ⟨by omega, by omega, hll, by omega, by omega, hlrBalanced, hr⟩
  · rename_i hlow
    rw [if_neg (by omega)]
    refine ⟨⟨by omega, by omega, h.balanced, hr⟩, ?_, ?_, ?_⟩
    · simp only [height]
      omega
    · simp only [height]
      omega
    · rintro - hgrown _ _ _ ⟨⟩
      simp only [height] at hgrown
      exact ⟨hlt.ne', fun _ => by omega, fun hgt => absurd hgt hlt.asymm⟩

/-- The element went to the right child. -/
theorem Grown.right {a : α} {l r r' : BinaryTree α} (h : Grown key x r r')
    (hbalanced : (node a l r).Balanced) (hgt : key a < key x) :
    Grown key x (node a l r) (rebalance key x (node a l r')) := by
  obtain ⟨hlr, hrl, hl, -⟩ := hbalanced
  have hle := h.le
  have hgrows := h.grows
  rw [rebalance, if_neg (by omega)]
  split
  · rename_i hhigh
    obtain ⟨b, rl, rr, rfl⟩ := exists_node_of_height (Nat.lt_of_le_of_lt (Nat.zero_le _) hhigh)
    have htwo : (node b rl rr).height = l.height + 2 := by omega
    obtain ⟨hne, hleft, hright⟩ := h.leans (h.ne_nil htwo) (by omega) b rl rr rfl
    obtain ⟨hbl, hbr, hrlBalanced, hrr⟩ := h.balanced
    simp only [height] at htwo
    unfold lowerRight
    simp only
    split
    · rename_i hinner
      have hlean := hleft hinner
      obtain ⟨c, p, q, rfl⟩ := exists_node_of_height (t := rl) (by omega)
      obtain ⟨hpq, hqp, hp, hq⟩ := hrlBalanced
      simp only [height] at hlean htwo
      have hheight : (rotateLeft (node a l (rotateRight (node b (node c p q) rr)))).height =
          (node a l r).height := by
        simp only [rotateLeft, rotateRight, height] at hle hgrows ⊢
        omega
      refine ⟨?_, Nat.le_of_eq hheight.symm, by omega, fun _ hgrown => by omega⟩
      simp only [rotateLeft, rotateRight, Balanced, height]
      exact ⟨by omega, by omega, ⟨by omega, by omega, hl, hp⟩, by omega, by omega, hq, hrr⟩
    · rename_i hinner
      have hlean := hright (lt_of_le_of_ne (not_lt.mp hinner) hne)
      have hheight : (rotateLeft (node a l (node b rl rr))).height = (node a l r).height := by
        simp only [rotateLeft, height] at hle hgrows ⊢
        omega
      refine ⟨?_, Nat.le_of_eq hheight.symm, by omega, fun _ hgrown => by omega⟩
      simp only [rotateLeft, Balanced, height]
      exact ⟨by omega, by omega, ⟨by omega, by omega, hl, hrlBalanced⟩, hrr⟩
  · rename_i hlow
    refine ⟨⟨by omega, by omega, hl, h.balanced⟩, ?_, ?_, ?_⟩
    · simp only [height]
      omega
    · simp only [height]
      omega
    · rintro - hgrown _ _ _ ⟨⟩
      simp only [height] at hgrown
      exact ⟨hgt.ne, fun hlt => absurd hlt hgt.asymm, fun _ => by omega⟩

/-- A balanced tree stays balanced when an element with a new key is inserted. -/
theorem Balanced.insertBy {t : BinaryTree α} (h : t.Balanced)
    (hnew : ∀ a ∈ t.inorder, key a ≠ key x) : Grown key x t (insertBy key x t) := by
  induction t with
  | nil =>
      refine ⟨⟨by simp, by simp, trivial, trivial⟩, by simp [BinaryTree.insertBy],
        by simp [BinaryTree.insertBy], fun hne => absurd rfl hne⟩
  | node a l r ihl ihr =>
      have hroot : key a ≠ key x := hnew a (by simp)
      unfold BinaryTree.insertBy
      split
      · rename_i hlt
        exact (ihl h.2.2.1 fun b hb => hnew b (by simp [hb])).left h hlt
      · rename_i hnot
        exact (ihr h.2.2.2 fun b hb => hnew b (by simp [hb])).right h
          (lt_of_le_of_ne (not_lt.mp hnot) hroot)

end Insertion

end BinaryTree
