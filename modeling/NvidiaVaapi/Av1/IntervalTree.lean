import NvidiaVaapi.Av1.IntervalIndex
import NvidiaVaapi.Lib.AvlTree

/-!
# The tree of the interval index

The nodes that are linked below a node id form a tree of ids, and what `insert` and its
rotations do to the links is the insertion into a balanced search tree.
-/

namespace NvidiaVaapi
namespace Av1

open BinaryTree

/-- The nodes below an id are linked as a tree of ids, each with its height. -/
def Stored (nodes : Nodes) : Nat → BinaryTree Nat → Prop
  | id, .nil => id = 0
  | id, .node a l r =>
    id = a ∧ a ≠ 0 ∧ a ≤ nodes.length ∧
    (node nodes a).height = (BinaryTree.node a l r).height ∧
    Stored nodes (node nodes a).left l ∧ Stored nodes (node nodes a).right r

/-- Nodes are linked anew: they keep their ranges, and all but some of them their links. -/
structure Relinked (ids : List Nat) (nodes nodes' : Nodes) : Prop where
  length : nodes'.length = nodes.length
  start : ∀ a, (node nodes' a).start = (node nodes a).start
  stop : ∀ a, (node nodes' a).stop = (node nodes a).stop
  others : ∀ a, a ≠ 0 → a ∉ ids → node nodes' a = node nodes a

theorem node_setNode {nodes : Nodes} {id : Nat} {value : NVDIntervalNode} (hid : id ≠ 0)
    (hle : id ≤ nodes.length) : node (setNode nodes id value) id = value := by
  have hlt : id - 1 < nodes.length := by omega
  simp [node, setNode, hlt]

theorem node_setNode_of_ne {nodes : Nodes} {id other : Nat} {value : NVDIntervalNode}
    (hid : id ≠ 0) (hother : other ≠ 0) (hne : other ≠ id) :
    node (setNode nodes id value) other = node nodes other := by
  have hslot : id - 1 ≠ other - 1 := by omega
  simp [node, setNode, List.getElem?_set_ne hslot]

namespace Relinked

variable {ids ids' : List Nat} {nodes nodes' nodes'' : Nodes} {id : Nat}

theorem refl (nodes : Nodes) : Relinked ids nodes nodes :=
  ⟨rfl, fun _ => rfl, fun _ => rfl, fun _ _ _ => rfl⟩

theorem trans (h : Relinked ids nodes nodes') (h' : Relinked ids nodes' nodes'') :
    Relinked ids nodes nodes'' where
  length := h'.length.trans h.length
  start := fun a => (h'.start a).trans (h.start a)
  stop := fun a => (h'.stop a).trans (h.stop a)
  others := fun a hne hnot => (h'.others a hne hnot).trans (h.others a hne hnot)

theorem mono (h : Relinked ids nodes nodes') (hsub : ∀ a ∈ ids, a ∈ ids') :
    Relinked ids' nodes nodes' where
  length := h.length
  start := h.start
  stop := h.stop
  others := fun a hne hnot => h.others a hne fun hmem => hnot (hsub a hmem)

/-- A node gets other links. -/
theorem setNode {value : NVDIntervalNode} (hid : id ≠ 0)
    (hstart : value.start = (node nodes id).start) (hstop : value.stop = (node nodes id).stop) :
    Relinked [id] nodes (setNode nodes id value) := by
  have hcases : ∀ a, node (Av1.setNode nodes id value) a = value ∧
      node nodes a = node nodes id ∨ node (Av1.setNode nodes id value) a = node nodes a := by
    intro a
    by_cases hslot : a - 1 = id - 1
    · by_cases hlt : id - 1 < nodes.length
      · left
        simp [node, Av1.setNode, hslot, hlt]
      · right
        simp [node, Av1.setNode, List.set_eq_of_length_le (Nat.le_of_not_lt hlt)]
    · right
      simp [node, Av1.setNode, List.getElem?_set_ne (Ne.symm hslot)]
  refine ⟨by simp [Av1.setNode], fun a => ?_, fun a => ?_, fun a ha hnot => ?_⟩
  · rcases hcases a with ⟨hnew, hold⟩ | hsame
    · rw [hnew, hold, hstart]
    · rw [hsame]
  · rcases hcases a with ⟨hnew, hold⟩ | hsame
    · rw [hnew, hold, hstop]
    · rw [hsame]
  · exact node_setNode_of_ne hid ha fun heq => hnot (List.mem_singleton.mpr heq)

end Relinked

/-- No element of a list is an element that is not in it. -/
theorem not_mem_singleton {ids : List Nat} {id : Nat} (hnot : id ∉ ids) :
    ∀ a ∈ ids, a ∉ [id] := by
  intro a ha hmem
  rw [List.mem_singleton.mp hmem] at ha
  exact hnot ha

namespace Stored

variable {nodes nodes' : Nodes} {id root added : Nat} {t l r : BinaryTree Nat}

theorem ne_zero (h : Stored nodes id t) : ∀ a ∈ t.inorder, a ≠ 0 := by
  induction t generalizing id with
  | nil => nofun
  | node a l r ihl ihr =>
      obtain ⟨-, hne, -, -, hl, hr⟩ := h
      intro b hb
      rcases List.mem_append.mp hb with hmem | hmem
      · exact ihl hl b hmem
      · rcases List.mem_cons.mp hmem with rfl | hmem
        · exact hne
        · exact ihr hr b hmem

/-- Nodes outside of a tree do not matter to it. -/
theorem congr (h : Stored nodes id t) (hlength : nodes.length ≤ nodes'.length)
    (hsame : ∀ a ∈ t.inorder, node nodes' a = node nodes a) : Stored nodes' id t := by
  induction t generalizing id with
  | nil => exact h
  | node a l r ihl ihr =>
      obtain ⟨hid, hne, hle, hheight, hl, hr⟩ := h
      have hnode : node nodes' a = node nodes a := hsame a (by simp)
      refine ⟨hid, hne, hle.trans hlength, ?_, ?_, ?_⟩ <;> rw [hnode]
      · exact hheight
      · exact ihl hl fun b hb => hsame b (by simp [hb])
      · exact ihr hr fun b hb => hsame b (by simp [hb])

/-- A tree stays where only other nodes are linked anew. -/
theorem relinked {ids : List Nat} (h : Stored nodes id t) (hrelinked : Relinked ids nodes nodes')
    (hdisjoint : ∀ a ∈ t.inorder, a ∉ ids) : Stored nodes' id t :=
  h.congr hrelinked.length.ge fun a ha => hrelinked.others a (h.ne_zero a ha) (hdisjoint a ha)

theorem height_eq (h : Stored nodes id t) : Av1.height nodes id = t.height := by
  cases t with
  | nil =>
      have hzero : id = 0 := h
      simp [Av1.height, hzero]
  | node a l r =>
      obtain ⟨rfl, hne, -, hheight, -, -⟩ := h
      simp only [Av1.height, if_pos hne, hheight]

theorem id_eq {a : Nat} (h : Stored nodes id (.node a l r)) : id = a :=
  h.1

/-- `updateHeight` completes a tree whose children are stored. -/
theorem updateHeight (hne : root ≠ 0) (hle : root ≤ nodes.length)
    (hl : Stored nodes (node nodes root).left l) (hr : Stored nodes (node nodes root).right r)
    (hleft : root ∉ l.inorder) (hright : root ∉ r.inorder) :
    Stored (updateHeight nodes root) root (.node root l r) ∧
      Relinked [root] nodes (updateHeight nodes root) := by
  have hrelinked : Relinked [root] nodes (Av1.updateHeight nodes root) := Relinked.setNode hne rfl rfl
  have hnode : node (Av1.updateHeight nodes root) root = { node nodes root with
      height := 1 + max (Av1.height nodes (node nodes root).left)
        (Av1.height nodes (node nodes root).right) } := node_setNode hne hle
  refine ⟨⟨rfl, hne, hrelinked.length ▸ hle, ?_, ?_, ?_⟩, hrelinked⟩ <;> rw [hnode]
  · rw [hl.height_eq, hr.height_eq, BinaryTree.height]
    exact Nat.add_comm _ _
  · exact hl.relinked hrelinked (not_mem_singleton hleft)
  · exact hr.relinked hrelinked (not_mem_singleton hright)

end Stored

/-- A node is linked to two trees, whatever its height says. -/
structure Linked (nodes : Nodes) (root : Nat) (l r : BinaryTree Nat) : Prop where
  ne : root ≠ 0
  le : root ≤ nodes.length
  left : Stored nodes (node nodes root).left l
  right : Stored nodes (node nodes root).right r
  nodup : (BinaryTree.node root l r).inorder.Nodup

theorem Stored.linked {nodes : Nodes} {id a : Nat} {l r : BinaryTree Nat}
    (h : Stored nodes id (.node a l r)) (hnodup : (BinaryTree.node a l r).inorder.Nodup) :
    Linked nodes a l r :=
  ⟨h.2.1, h.2.2.1, h.2.2.2.2.1, h.2.2.2.2.2, hnodup⟩

namespace Linked

variable {nodes nodes' : Nodes} {root b : Nat} {l r ll lr rl rr : BinaryTree Nat}

theorem not_mem_left (h : Linked nodes root l r) : root ∉ l.inorder := by
  intro hmem
  exact (List.nodup_append.mp h.nodup).2.2 root hmem root List.mem_cons_self rfl

theorem not_mem_right (h : Linked nodes root l r) : root ∉ r.inorder :=
  (List.nodup_cons.mp (List.nodup_append.mp h.nodup).2.1).1

theorem disjoint (h : Linked nodes root l r) : ∀ a ∈ l.inorder, a ∉ r.inorder :=
  fun a hl hr => (List.nodup_append.mp h.nodup).2.2 a hl a (List.mem_cons_of_mem _ hr) rfl

theorem updateHeight (h : Linked nodes root l r) :
    Stored (updateHeight nodes root) root (.node root l r) ∧
      Relinked [root] nodes (Av1.updateHeight nodes root) :=
  Stored.updateHeight h.ne h.le h.left h.right h.not_mem_left h.not_mem_right

/-- One of the two trees is linked anew and leads from another id. -/
theorem setLeft {l' : BinaryTree Nat} {id : Nat} {ids : List Nat} (h : Linked nodes root l r)
    (hrelinked : Relinked ids nodes nodes') (hl : Stored nodes' id l')
    (hroot : root ∉ ids) (hids : ∀ a ∈ r.inorder, a ∉ ids)
    (hnodup : (BinaryTree.node root l' r).inorder.Nodup) :
    Linked (setNode nodes' root { node nodes' root with left := id }) root l' r ∧
      Relinked (root :: ids) nodes (setNode nodes' root { node nodes' root with left := id }) := by
  have hle : root ≤ nodes'.length := hrelinked.length ▸ h.le
  have hset : Relinked [root] nodes' (setNode nodes' root { node nodes' root with left := id }) :=
    Relinked.setNode h.ne rfl rfl
  have hnode : node (setNode nodes' root { node nodes' root with left := id }) root =
      { node nodes' root with left := id } := node_setNode h.ne hle
  have hnew : root ∉ l'.inorder := by
    intro hmem
    exact (List.nodup_append.mp hnodup).2.2 root hmem root List.mem_cons_self rfl
  have hright : Stored nodes' (node nodes' root).right r := by
    rw [hrelinked.others root h.ne hroot]
    exact h.right.relinked hrelinked hids
  refine ⟨⟨h.ne, hset.length ▸ hle, ?_, ?_, hnodup⟩, ?_⟩
  · rw [hnode]
    exact hl.relinked hset (not_mem_singleton hnew)
  · rw [hnode]
    exact hright.relinked hset (not_mem_singleton h.not_mem_right)
  · exact (hrelinked.mono fun a ha => List.mem_cons_of_mem _ ha).trans
      (hset.mono fun a ha => List.mem_cons.mpr (.inl (List.mem_singleton.mp ha)))

theorem setRight {r' : BinaryTree Nat} {id : Nat} {ids : List Nat} (h : Linked nodes root l r)
    (hrelinked : Relinked ids nodes nodes') (hr : Stored nodes' id r')
    (hroot : root ∉ ids) (hids : ∀ a ∈ l.inorder, a ∉ ids)
    (hnodup : (BinaryTree.node root l r').inorder.Nodup) :
    Linked (setNode nodes' root { node nodes' root with right := id }) root l r' ∧
      Relinked (root :: ids) nodes
        (setNode nodes' root { node nodes' root with right := id }) := by
  have hle : root ≤ nodes'.length := hrelinked.length ▸ h.le
  have hset : Relinked [root] nodes' (setNode nodes' root { node nodes' root with right := id }) :=
    Relinked.setNode h.ne rfl rfl
  have hnode : node (setNode nodes' root { node nodes' root with right := id }) root =
      { node nodes' root with right := id } := node_setNode h.ne hle
  have hnew : root ∉ r'.inorder :=
    (List.nodup_cons.mp (List.nodup_append.mp hnodup).2.1).1
  have hleft : Stored nodes' (node nodes' root).left l := by
    rw [hrelinked.others root h.ne hroot]
    exact h.left.relinked hrelinked hids
  refine ⟨⟨h.ne, hset.length ▸ hle, ?_, ?_, hnodup⟩, ?_⟩
  · rw [hnode]
    exact hleft.relinked hset (not_mem_singleton h.not_mem_left)
  · rw [hnode]
    exact hr.relinked hset (not_mem_singleton hnew)
  · exact (hrelinked.mono fun a ha => List.mem_cons_of_mem _ ha).trans
      (hset.mono fun a ha => List.mem_cons.mpr (.inl (List.mem_singleton.mp ha)))

theorem relinked {ids : List Nat} (h : Linked nodes root l r)
    (hrelinked : Relinked ids nodes nodes') (hroot : root ∉ ids)
    (hl : ∀ a ∈ l.inorder, a ∉ ids) (hr : ∀ a ∈ r.inorder, a ∉ ids) :
    Linked nodes' root l r := by
  have hnode := hrelinked.others root h.ne hroot
  refine ⟨h.ne, hrelinked.length ▸ h.le, ?_, ?_, h.nodup⟩ <;> rw [hnode]
  · exact h.left.relinked hrelinked hl
  · exact h.right.relinked hrelinked hr

/-- `rotateLeft`: the right child gets above its parent. -/
theorem rotateLeft (h : Linked nodes root l (.node b rl rr)) :
    Stored (rotateLeft nodes root).1 (Av1.rotateLeft nodes root).2
      (.node b (.node root l rl) rr) ∧
    Relinked [root, b] nodes (Av1.rotateLeft nodes root).1 := by
  have hchild := h.right.linked ((List.nodup_cons.mp (List.nodup_append.mp h.nodup).2.1).2)
  have hnodup : (BinaryTree.node b (.node root l rl) rr).inorder.Nodup := by
    simpa using h.nodup
  have hrootNodup : (BinaryTree.node root l rl).inorder.Nodup := (List.nodup_append.mp hnodup).1
  have hb : b ≠ root := by
    rintro rfl
    exact h.not_mem_right (by simp)
  have hbl : b ∉ l.inorder := fun hmem => h.disjoint b hmem (by simp)
  have hrr : root ∉ rr.inorder := fun hmem => h.not_mem_right (by simp [hmem])
  unfold Av1.rotateLeft
  simp only [show (node nodes root).right = b from h.right.id_eq]
  -- The parent takes over the left child of the node that gets above it.
  obtain ⟨hparent, hfirst⟩ := h.setRight (Relinked.refl nodes) hchild.left List.not_mem_nil
    (fun _ _ => List.not_mem_nil) hrootNodup
  generalize setNode nodes root { node nodes root with right := (node nodes b).left } = nodes1
    at hparent hfirst ⊢
  have hb1 : node nodes1 b = node nodes b :=
    hfirst.others b hchild.ne fun hmem => hb (List.mem_singleton.mp hmem)
  have hle1 : b ≤ nodes1.length := hfirst.length ▸ hchild.le
  have hsecond : Relinked [b] nodes1 (setNode nodes1 b { node nodes1 b with left := root }) :=
    Relinked.setNode hchild.ne rfl rfl
  have hb2 : node (setNode nodes1 b { node nodes1 b with left := root }) b =
      { node nodes1 b with left := root } := node_setNode hchild.ne hle1
  generalize setNode nodes1 b { node nodes1 b with left := root } = nodes2 at hsecond hb2 ⊢
  have hparent2 : Linked nodes2 root l rl :=
    hparent.relinked hsecond (fun hmem => hb (List.mem_singleton.mp hmem).symm)
      (not_mem_singleton hbl) (not_mem_singleton hchild.not_mem_left)
  obtain ⟨hroot3, hthird⟩ := hparent2.updateHeight
  generalize Av1.updateHeight nodes2 root = nodes3 at hroot3 hthird ⊢
  have hb3 : node nodes3 b = { node nodes b with left := root } := by
    rw [hthird.others b hchild.ne fun hmem => hb (List.mem_singleton.mp hmem), hb2, hb1]
  have hall : Relinked [root, b] nodes nodes3 :=
    ((hfirst.mono (by simp)).trans (hsecond.mono (by simp))).trans (hthird.mono (by simp))
  have hup : Linked nodes3 b (.node root l rl) rr := by
    refine ⟨hchild.ne, hall.length ▸ hchild.le, ?_, ?_, hnodup⟩ <;> rw [hb3]
    · exact hroot3
    · refine hchild.right.relinked hall fun a ha hmem => ?_
      rcases List.mem_cons.mp hmem with rfl | hmem
      · exact hrr ha
      · exact not_mem_singleton hchild.not_mem_right a ha hmem
  obtain ⟨hstored, hfourth⟩ := hup.updateHeight
  exact ⟨hstored, hall.trans (hfourth.mono (by simp))⟩

/-- `rotateRight`: the left child gets above its parent. -/
theorem rotateRight (h : Linked nodes root (.node b ll lr) r) :
    Stored (rotateRight nodes root).1 (Av1.rotateRight nodes root).2
      (.node b ll (.node root lr r)) ∧
    Relinked [root, b] nodes (Av1.rotateRight nodes root).1 := by
  have hchild := h.left.linked (List.nodup_append.mp h.nodup).1
  have hnodup : (BinaryTree.node b ll (.node root lr r)).inorder.Nodup := by
    simpa using h.nodup
  have hrootNodup : (BinaryTree.node root lr r).inorder.Nodup :=
    (List.nodup_cons.mp (List.nodup_append.mp hnodup).2.1).2
  have hb : b ≠ root := by
    rintro rfl
    exact h.not_mem_left (by simp)
  have hbr : b ∉ r.inorder := h.disjoint b (by simp)
  have hll : root ∉ ll.inorder := fun hmem => h.not_mem_left (by simp [hmem])
  unfold Av1.rotateRight
  simp only [show (node nodes root).left = b from h.left.id_eq]
  obtain ⟨hparent, hfirst⟩ := h.setLeft (Relinked.refl nodes) hchild.right List.not_mem_nil
    (fun _ _ => List.not_mem_nil) hrootNodup
  generalize setNode nodes root { node nodes root with left := (node nodes b).right } = nodes1
    at hparent hfirst ⊢
  have hb1 : node nodes1 b = node nodes b :=
    hfirst.others b hchild.ne fun hmem => hb (List.mem_singleton.mp hmem)
  have hle1 : b ≤ nodes1.length := hfirst.length ▸ hchild.le
  have hsecond : Relinked [b] nodes1 (setNode nodes1 b { node nodes1 b with right := root }) :=
    Relinked.setNode hchild.ne rfl rfl
  have hb2 : node (setNode nodes1 b { node nodes1 b with right := root }) b =
      { node nodes1 b with right := root } := node_setNode hchild.ne hle1
  generalize setNode nodes1 b { node nodes1 b with right := root } = nodes2 at hsecond hb2 ⊢
  have hparent2 : Linked nodes2 root lr r :=
    hparent.relinked hsecond (fun hmem => hb (List.mem_singleton.mp hmem).symm)
      (not_mem_singleton hchild.not_mem_right) (not_mem_singleton hbr)
  obtain ⟨hroot3, hthird⟩ := hparent2.updateHeight
  generalize Av1.updateHeight nodes2 root = nodes3 at hroot3 hthird ⊢
  have hb3 : node nodes3 b = { node nodes b with right := root } := by
    rw [hthird.others b hchild.ne fun hmem => hb (List.mem_singleton.mp hmem), hb2, hb1]
  have hall : Relinked [root, b] nodes nodes3 :=
    ((hfirst.mono (by simp)).trans (hsecond.mono (by simp))).trans (hthird.mono (by simp))
  have hup : Linked nodes3 b ll (.node root lr r) := by
    refine ⟨hchild.ne, hall.length ▸ hchild.le, ?_, ?_, hnodup⟩ <;> rw [hb3]
    · refine hchild.left.relinked hall fun a ha hmem => ?_
      rcases List.mem_cons.mp hmem with rfl | hmem
      · exact hll ha
      · exact not_mem_singleton hchild.not_mem_left a ha hmem
    · exact hroot3
  obtain ⟨hstored, hfourth⟩ := hup.updateHeight
  exact ⟨hstored, hall.trans (hfourth.mono (by simp))⟩

/-- The end of `insert`: the tree is balanced as the search tree is.  Where two rotations
are made, the inner grandchild is there. -/
theorem rebalance (h : Linked nodes root l r) {key : Nat → Nat} {x : Nat}
    (hkey : ∀ a, (node nodes a).start = key a)
    (hleft : ∀ b ll lr, l = .node b ll lr → r.height + 1 < l.height → key b < key x → lr ≠ .nil)
    (hright : ∀ b rl rr, r = .node b rl rr → l.height + 1 < r.height → key x < key b →
      rl ≠ .nil) :
    Stored (rebalance nodes root (key x)).1 (Av1.rebalance nodes root (key x)).2
      (BinaryTree.rebalance key x (.node root l r)) ∧
    Relinked (BinaryTree.node root l r).inorder nodes (Av1.rebalance nodes root (key x)).1 := by
  obtain ⟨hstored, hupdated⟩ := h.updateHeight
  have hall : Relinked (BinaryTree.node root l r).inorder nodes (Av1.updateHeight nodes root) :=
    hupdated.mono (by simp)
  have hlinked := hstored.linked h.nodup
  have hstart : ∀ a, (node (Av1.updateHeight nodes root) a).start = key a :=
    fun a => (hupdated.start a).trans (hkey a)
  unfold Av1.rebalance BinaryTree.rebalance
  simp only
  generalize Av1.updateHeight nodes root = nodes1 at hstored hlinked hstart hall ⊢
  simp only [hlinked.left.height_eq, hlinked.right.height_eq]
  by_cases hhigh : r.height + 1 < l.height
  · rw [if_pos (show (l.height : Int) - r.height > 1 by omega), if_pos hhigh]
    obtain ⟨b, ll, lr, rfl⟩ := exists_node_of_height (Nat.lt_of_le_of_lt (Nat.zero_le _) hhigh)
    have hb : (node nodes1 root).left = b := hlinked.left.id_eq
    unfold BinaryTree.lowerLeft
    simp only [hb, hstart, gt_iff_lt]
    by_cases hinner : key b < key x
    · rw [if_pos hinner, if_pos hinner]
      have hpos := hleft b ll lr rfl hhigh hinner
      cases lr with
      | nil => exact absurd rfl hpos
      | node c p q =>
          have hchild := hlinked.left.linked (List.nodup_append.mp h.nodup).1
          obtain ⟨hrotated, hfirst⟩ := hchild.rotateLeft
          obtain ⟨hparent, hsecond⟩ := hlinked.setLeft hfirst hrotated
            (fun hmem => hlinked.not_mem_left (by simp at hmem ⊢; tauto))
            (fun a ha hmem => hlinked.disjoint a (by simp at hmem ⊢; tauto) ha)
            (by simpa using h.nodup)
          obtain ⟨hdone, hthird⟩ := hparent.rotateRight
          exact ⟨hdone, (hall.trans (hsecond.mono (by simp))).trans (hthird.mono (by simp))⟩
    · rw [if_neg hinner, if_neg hinner]
      obtain ⟨hdone, hrelinked⟩ := hlinked.rotateRight
      exact ⟨hdone, hall.trans (hrelinked.mono (by simp))⟩
  · rw [if_neg (show ¬ (l.height : Int) - r.height > 1 by omega), if_neg hhigh]
    by_cases hlow : l.height + 1 < r.height
    · rw [if_pos (show (l.height : Int) - r.height < -1 by omega), if_pos hlow]
      obtain ⟨b, rl, rr, rfl⟩ := exists_node_of_height (Nat.lt_of_le_of_lt (Nat.zero_le _) hlow)
      have hb : (node nodes1 root).right = b := hlinked.right.id_eq
      unfold BinaryTree.lowerRight
      simp only [hb, hstart]
      by_cases hinner : key x < key b
      · rw [if_pos hinner, if_pos hinner]
        have hpos := hright b rl rr rfl hlow hinner
        cases rl with
        | nil => exact absurd rfl hpos
        | node c p q =>
            have hchild := hlinked.right.linked
              (List.nodup_cons.mp (List.nodup_append.mp h.nodup).2.1).2
            obtain ⟨hrotated, hfirst⟩ := hchild.rotateRight
            obtain ⟨hparent, hsecond⟩ := hlinked.setRight hfirst hrotated
              (fun hmem => hlinked.not_mem_right (by simp at hmem ⊢; tauto))
              (fun a ha hmem => hlinked.disjoint a ha (by simp at hmem ⊢; tauto))
              (by simpa using h.nodup)
            obtain ⟨hdone, hthird⟩ := hparent.rotateLeft
            exact ⟨hdone, (hall.trans (hsecond.mono (by simp))).trans (hthird.mono (by simp))⟩
      · rw [if_neg hinner, if_neg hinner]
        obtain ⟨hdone, hrelinked⟩ := hlinked.rotateLeft
        exact ⟨hdone, hall.trans (hrelinked.mono (by simp))⟩
    · rw [if_neg (show ¬ (l.height : Int) - r.height < -1 by omega), if_neg hlow]
      exact ⟨hstored, hall⟩

end Linked

/-- `insert`: a new node gets into the tree as the search tree inserts its id. -/
theorem Stored.insertNode {nodes : Nodes} {added depth id : Nat} {t : BinaryTree Nat}
    {key : Nat → Nat} (hkey : ∀ a, (node nodes a).start = key a) (h : Stored nodes id t)
    (hnodup : t.inorder.Nodup) (hbalanced : t.Balanced) (hadded : Linked nodes added .nil .nil)
    (hleaf : (node nodes added).height = 1) (hnot : added ∉ t.inorder)
    (hnew : ∀ a ∈ t.inorder, key a ≠ key added) (hdepth : t.height < depth) :
    Stored (insertNode depth nodes id added).1 (Av1.insertNode depth nodes id added).2
      (insertBy key added t) ∧
    Relinked (added :: t.inorder) nodes (Av1.insertNode depth nodes id added).1 := by
  induction t generalizing id depth with
  | nil =>
      obtain ⟨rounds, rfl⟩ : ∃ rounds, depth = rounds + 1 := ⟨depth - 1, by omega⟩
      have hzero : id = 0 := h
      unfold Av1.insertNode
      rw [if_pos hzero]
      exact ⟨⟨rfl, hadded.ne, hadded.le, hleaf, hadded.left, hadded.right⟩, Relinked.refl nodes⟩
  | node a l r ihl ihr =>
      obtain ⟨rounds, rfl⟩ : ∃ rounds, depth = rounds + 1 := ⟨depth - 1, by omega⟩
      have hlinked := h.linked hnodup
      obtain rfl := h.id_eq
      have hl := hbalanced.2.2.1
      have hr := hbalanced.2.2.2
      simp only [BinaryTree.height] at hdepth
      have hleft : l.height < rounds := by omega
      have hright : r.height < rounds := by omega
      unfold Av1.insertNode BinaryTree.insertBy
      rw [if_neg hlinked.ne]
      simp only [hkey]
      have hperm : ∀ s : BinaryTree Nat, ∀ b, b ∈ (insertBy key added s).inorder ↔
          b = added ∨ b ∈ s.inorder := fun s b =>
        (inorder_insertBy_perm s).mem_iff.trans List.mem_cons
      split
      · rename_i hlt
        obtain ⟨hbelow, hfirst⟩ := ihl hlinked.left (List.nodup_append.mp hnodup).1 hl
          (fun hmem => hnot (by simp [hmem])) (fun b hb => hnew b (by simp [hb])) hleft
        have hnodup' : (BinaryTree.node id (insertBy key added l) r).inorder.Nodup := by
          have hwhole : (BinaryTree.node id (insertBy key added l) r).inorder.Perm
              (added :: (BinaryTree.node id l r).inorder) :=
            (inorder_insertBy_perm l).append_right _
          exact hwhole.nodup_iff.mpr (List.nodup_cons.mpr ⟨hnot, hnodup⟩)
        obtain ⟨hset, hsecond⟩ := hlinked.setLeft hfirst hbelow
          (fun hmem => (List.mem_cons.mp hmem).elim
            (fun heq => hnot (by simp [← heq])) hlinked.not_mem_left)
          (fun b hb hmem => (List.mem_cons.mp hmem).elim
            (fun heq => hnot (by simp [← heq, hb])) fun hmem => hlinked.disjoint b hmem hb)
          hnodup'
        have hgrown := hl.insertBy fun b hb => hnew b (by simp [hb])
        obtain ⟨hdone, hthird⟩ := hset.rebalance (fun b => (hsecond.start b).trans (hkey b))
          (fun b ll lr heq hhigh hinner =>
            (heq ▸ hgrown).inner_left hbalanced (heq ▸ hhigh) hinner)
          (fun b rl rr heq hhigh _ => by
            have hle := hgrown.le
            have hbound := hbalanced.2.1
            omega)
        refine ⟨hdone, (hsecond.mono fun b hb => ?_).trans (hthird.mono fun b hb => ?_)⟩
        · simp at hb ⊢
          tauto
        · simp [hperm] at hb ⊢
          tauto
      · rename_i hge
        obtain ⟨hbelow, hfirst⟩ := ihr hlinked.right
          (List.nodup_cons.mp (List.nodup_append.mp hnodup).2.1).2 hr
          (fun hmem => hnot (by simp [hmem])) (fun b hb => hnew b (by simp [hb])) hright
        have hnodup' : (BinaryTree.node id l (insertBy key added r)).inorder.Nodup := by
          have hwhole : (BinaryTree.node id l (insertBy key added r)).inorder.Perm
              (added :: (BinaryTree.node id l r).inorder) :=
            (((inorder_insertBy_perm r).cons id).append_left l.inorder).trans
              (((List.Perm.swap added id r.inorder).append_left l.inorder).trans List.perm_middle)
          exact hwhole.nodup_iff.mpr (List.nodup_cons.mpr ⟨hnot, hnodup⟩)
        obtain ⟨hset, hsecond⟩ := hlinked.setRight hfirst hbelow
          (fun hmem => (List.mem_cons.mp hmem).elim
            (fun heq => hnot (by simp [← heq])) hlinked.not_mem_right)
          (fun b hb hmem => (List.mem_cons.mp hmem).elim
            (fun heq => hnot (by simp [← heq, hb])) fun hmem => hlinked.disjoint b hb hmem)
          hnodup'
        have hgrown := hr.insertBy fun b hb => hnew b (by simp [hb])
        obtain ⟨hdone, hthird⟩ := hset.rebalance (fun b => (hsecond.start b).trans (hkey b))
          (fun b ll lr heq hhigh _ => by
            have hle := hgrown.le
            have hbound := hbalanced.1
            omega)
          (fun b rl rr heq hhigh hinner =>
            (heq ▸ hgrown).inner_right hbalanced (heq ▸ hhigh) hinner)
        refine ⟨hdone, (hsecond.mono fun b hb => ?_).trans (hthird.mono fun b hb => ?_)⟩
        · simp at hb ⊢
          tauto
        · simp [hperm] at hb ⊢
          tauto

end Av1
end NvidiaVaapi
