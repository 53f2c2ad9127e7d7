import NvidiaVaapi.Av1.IntervalSearch

/-!
# The shape of the interval index

After any insertions and resets the nodes of the index form one balanced search tree, with the
heights that they record, and the recursion of the next insertion ends.
-/

namespace NvidiaVaapi
namespace Av1

open BinaryTree Codec

/-- `insert` again; `none` where the recursion goes deeper than the bound. -/
def insertWithin : Nat → Nodes → Nat → Nat → Option (Nodes × Nat)
  | 0, _, _, _ => none
  | depth + 1, nodes, root, added => do
    if root = 0 then some (nodes, added)
    else
      let start := (node nodes added).start
      if start < (node nodes root).start then
        let below ← insertWithin depth nodes (node nodes root).left added
        some (rebalance (setNode below.1 root { node below.1 root with left := below.2 }) root
          start)
      else
        let below ← insertWithin depth nodes (node nodes root).right added
        some (rebalance (setNode below.1 root { node below.1 root with right := below.2 }) root
          start)

/-- The recursion follows one way down the tree. -/
theorem Stored.insertWithin {nodes : Nodes} {id added bound depth : Nat} {t : BinaryTree Nat}
    (h : Stored nodes id t) (hbound : t.height < bound) (hdepth : t.height < depth) :
    Av1.insertWithin bound nodes id added = some (Av1.insertNode depth nodes id added) := by
  induction t generalizing id bound depth with
  | nil =>
      obtain ⟨bound, rfl⟩ : ∃ n, bound = n + 1 := ⟨bound - 1, by omega⟩
      obtain ⟨depth, rfl⟩ : ∃ n, depth = n + 1 := ⟨depth - 1, by omega⟩
      have hzero : id = 0 := h
      unfold Av1.insertWithin Av1.insertNode
      rw [if_pos hzero, if_pos hzero]
  | node a l r ihl ihr =>
      obtain ⟨bound, rfl⟩ : ∃ n, bound = n + 1 := ⟨bound - 1, by omega⟩
      obtain ⟨depth, rfl⟩ : ∃ n, depth = n + 1 := ⟨depth - 1, by omega⟩
      obtain ⟨rfl, hne, -, -, hl, hr⟩ := h
      simp only [BinaryTree.height] at hbound hdepth
      unfold Av1.insertWithin Av1.insertNode
      rw [if_neg hne, if_neg hne]
      simp only
      split
      · rw [ihl hl (show l.height < bound by omega) (show l.height < depth by omega)]
        rfl
      · rw [ihr hr (show r.height < bound by omega) (show r.height < depth by omega)]
        rfl

/-- Every node of the tree records the height above those of its children, which differ by one
at most. -/
theorem Stored.heights {nodes : Nodes} {id : Nat} {t : BinaryTree Nat} (h : Stored nodes id t)
    (hbalanced : t.Balanced) : ∀ a ∈ t.inorder,
      (node nodes a).height =
        1 + max (height nodes (node nodes a).left) (height nodes (node nodes a).right) ∧
      height nodes (node nodes a).left ≤ height nodes (node nodes a).right + 1 ∧
      height nodes (node nodes a).right ≤ height nodes (node nodes a).left + 1 := by
  induction t generalizing id with
  | nil => nofun
  | node b l r ihl ihr =>
      obtain ⟨-, -, -, hheight, hl, hr⟩ := h
      obtain ⟨hlr, hrl, hbl, hbr⟩ := hbalanced
      intro a ha
      rcases List.mem_append.mp ha with hmem | hmem
      · exact ihl hl hbl a hmem
      · rcases List.mem_cons.mp hmem with rfl | hmem
        · rw [hl.height_eq, hr.height_eq, hheight]
          refine ⟨?_, hlr, hrl⟩
          simp only [BinaryTree.height]
          omega
        · exact ihr hr hbr a hmem

/-- A balanced tree of 4096 nodes is not higher than 16. -/
theorem Indexed.height_le {index : NVDIntervalIndex} {t : BinaryTree Nat}
    (h : Indexed index t) : t.height ≤ 16 := by
  have hfib := h.balanced.fib_le
  have hnodes := h.numNodes_le.trans h.capacity
  by_contra hhigh
  have hmono : Nat.fib 19 ≤ Nat.fib (t.height + 2) := Nat.fib_mono (by omega)
  have hvalue : Nat.fib 19 = 4181 := by decide
  have hcapacity : nvdIntervalIndexCapacity = 4096 := rfl
  omega

/-- The starts grow from left to right, as the ranges are not empty and lie one behind the
other. -/
theorem Indexed.starts {index : NVDIntervalIndex} {t : BinaryTree Nat} (h : Indexed index t) :
    t.inorder.Pairwise fun a b => (node index.nodes a).start < (node index.nodes b).start := by
  refine h.ordered.imp_of_mem fun {a b} ha _ hle => ?_
  exact (h.nonempty a ha).trans_le hle

/-- A call on the index. -/
inductive IndexCall where
  | insert (call : Insertion)
  | reset

/-- The index after one more call. -/
def afterCall (index : NVDIntervalIndex) : IndexCall → NVDIntervalIndex
  | .insert call => (nvdIntervalIndexInsert call.heap index call.start call.stop).1
  | .reset => nvdIntervalIndexReset index

/-- A call, whatever its answer, keeps the index a tree. -/
theorem Indexed.afterCall {index : NVDIntervalIndex} {t : BinaryTree Nat} (h : Indexed index t)
    (call : IndexCall) : ∃ t', Indexed (afterCall index call) t' := by
  cases call with
  | reset => exact ⟨.nil, .reset index⟩
  | insert call =>
      obtain ⟨-, haccepted, hrejected⟩ := h.nvdIntervalIndexInsert call.heap call.start call.stop
      show ∃ t', Indexed (Av1.nvdIntervalIndexInsert call.heap index call.start call.stop).1 t'
      cases hresult : (Av1.nvdIntervalIndexInsert call.heap index call.start call.stop).2 with
      | true => exact (haccepted hresult).1
      | false =>
          rw [hrejected hresult]
          exact ⟨t, { h with }⟩

theorem afterCalls_indexed (calls : List IndexCall) :
    ∃ t, Indexed (calls.foldl afterCall {}) t := by
  have hstart : Indexed {} .nil := .reset {}
  generalize ({} : NVDIntervalIndex) = index at hstart ⊢
  generalize BinaryTree.nil = t at hstart
  induction calls generalizing index t with
  | nil => exact ⟨t, hstart⟩
  | cons call rest ih =>
      obtain ⟨t', hnext⟩ := hstart.afterCall call
      exact ih _ _ hnext

/-- After every sequence of insertions and resets the index is a search tree by start offset in
which every node number occurs once.  Every node records the height above those of its children,
which differ by one at most, and the heights and links fit their fields.  The recursion of a
next insertion comes to its end, at a depth of 17 at most. -/
theorem intervalIndex_shape (calls : List IndexCall) :
    let index := calls.foldl afterCall {}
    (∃ t, Stored index.nodes index.root t ∧
      t.Ordered (fun id => (node index.nodes id).start) ∧
      ∀ id, t.inorder.count id = if 1 ≤ id ∧ id ≤ index.nodes.length then 1 else 0) ∧
    (∀ id, 1 ≤ id → id ≤ index.nodes.length →
      (node index.nodes id).height = 1 + max (height index.nodes (node index.nodes id).left)
        (height index.nodes (node index.nodes id).right) ∧
      height index.nodes (node index.nodes id).left ≤
        height index.nodes (node index.nodes id).right + 1 ∧
      height index.nodes (node index.nodes id).right ≤
        height index.nodes (node index.nodes id).left + 1 ∧
      (node index.nodes id).height < 2 ^ 8) ∧
    index.nodes.length < 2 ^ 16 ∧
    ∀ start stop : Nat,
      insertWithin 17 (index.nodes ++ [{ start := start, stop := stop }]) index.root
          (index.nodes.length + 1) =
        some (insertNode (index.nodes.length + 1)
          (index.nodes ++ [{ start := start, stop := stop }]) index.root
          (index.nodes.length + 1)) := by
  intro index
  obtain ⟨t, hindexed⟩ : ∃ t, Indexed index t := afterCalls_indexed calls
  have hlow := hindexed.height_le
  refine ⟨⟨t, hindexed.stored, ordered_of_pairwise hindexed.starts, fun id => ?_⟩,
    fun id hpos hle => ?_, hindexed.capacity.trans_lt (by decide), fun start stop => ?_⟩
  · have hmem : id ∈ t.inorder ↔ 1 ≤ id ∧ id ≤ index.nodes.length := by
      rw [hindexed.all, Nat.one_le_iff_ne_zero]
    by_cases hin : id ∈ t.inorder
    · rw [if_pos (hmem.mp hin)]
      exact List.count_eq_one_of_mem hindexed.nodup hin
    · rw [if_neg (mt hmem.mpr hin)]
      exact List.count_eq_zero_of_not_mem hin
  · have hin : id ∈ t.inorder := (hindexed.all id).mpr ⟨by omega, hle⟩
    obtain ⟨hheight, hleft, hright⟩ := hindexed.stored.heights hindexed.balanced id hin
    have hfits := hindexed.stored.height_le id hin
    exact ⟨hheight, hleft, hright, by omega⟩
  · have hstored : Stored (index.nodes ++ [{ start := start, stop := stop }]) index.root t :=
      hindexed.stored.congr (by rw [List.length_append]; omega) fun a ha =>
        node_append_of_le ((hindexed.all a).mp ha).1 ((hindexed.all a).mp ha).2
    have hdepth : t.height < index.nodes.length + 1 :=
      Nat.lt_succ_of_le ((height_le_numNodes t).trans hindexed.numNodes_le)
    exact hstored.insertWithin (by omega) hdepth

end Av1
end NvidiaVaapi
