import NvidiaVaapi.Av1.IntervalTree

/-!
# What the interval index decides

The ranges of the index lie one behind the other in the tree, so that the comparisons on one
way down decide whether a range is apart from all of them, and a range that begins at or
behind the largest end needs no comparison.
-/

namespace NvidiaVaapi
namespace Av1

open BinaryTree Codec

/-- Two half-open ranges have nothing in common. -/
def Apart (start stop : Nat) (range : Nat × Nat) : Prop :=
  stop ≤ range.1 ∨ range.2 ≤ start

/-- The ranges of an index, in the order in which they came. -/
def NVDIntervalIndex.ranges (index : NVDIntervalIndex) : List (Nat × Nat) :=
  index.nodes.map fun n => (n.start, n.stop)

/-- The largest end of some ranges. -/
def largestEnd (ranges : List (Nat × Nat)) : Nat :=
  (ranges.map Prod.snd).foldl max 0

/-- The nodes of an index are the nodes of a balanced tree, in which the ranges lie one behind
the other; `maxEnd` is the largest of their ends. -/
structure Indexed (index : NVDIntervalIndex) (t : BinaryTree Nat) : Prop where
  stored : Stored index.nodes index.root t
  nodup : t.inorder.Nodup
  all : ∀ a, a ∈ t.inorder ↔ a ≠ 0 ∧ a ≤ index.nodes.length
  balanced : t.Balanced
  capacity : index.nodes.length ≤ nvdIntervalIndexCapacity
  nonempty : ∀ a ∈ t.inorder, (node index.nodes a).start < (node index.nodes a).stop
  ordered : t.inorder.Pairwise fun a b => (node index.nodes a).stop ≤ (node index.nodes b).start
  bounded : ∀ a ∈ t.inorder, (node index.nodes a).stop ≤ index.maxEnd
  largest : index.maxEnd = largestEnd index.ranges

section Search

variable {nodes : Nodes} {start stop : Nat}

/-- The comparisons on the way down decide about the whole tree. -/
theorem disjointBelow_iff {t : BinaryTree Nat} {depth id : Nat} (h : Stored nodes id t)
    (hordered : t.inorder.Pairwise fun a b => (node nodes a).stop ≤ (node nodes b).start)
    (hnonempty : ∀ a ∈ t.inorder, (node nodes a).start < (node nodes a).stop)
    (hdepth : t.height < depth) :
    disjointBelow nodes start stop depth id = true ↔
      ∀ a ∈ t.inorder, Apart start stop ((node nodes a).start, (node nodes a).stop) := by
  induction t generalizing id depth with
  | nil =>
      obtain ⟨rounds, rfl⟩ : ∃ rounds, depth = rounds + 1 := ⟨depth - 1, by omega⟩
      have hzero : id = 0 := h
      unfold disjointBelow
      rw [if_pos hzero]
      simp
  | node a l r ihl ihr =>
      obtain ⟨rounds, rfl⟩ : ∃ rounds, depth = rounds + 1 := ⟨depth - 1, by omega⟩
      obtain ⟨rfl, hne, -, -, hl, hr⟩ := h
      simp only [BinaryTree.height] at hdepth
      have hleft : l.height < rounds := by omega
      have hright : r.height < rounds := by omega
      obtain ⟨hlOrdered, htail, hacross⟩ := List.pairwise_append.mp hordered
      obtain ⟨hroot, hrOrdered⟩ := List.pairwise_cons.mp htail
      have hself := hnonempty id (by simp)
      have hlNonempty : ∀ b ∈ l.inorder, (node nodes b).start < (node nodes b).stop :=
        fun b hb => hnonempty b (by simp [hb])
      have hrNonempty : ∀ b ∈ r.inorder, (node nodes b).start < (node nodes b).stop :=
        fun b hb => hnonempty b (by simp [hb])
      unfold disjointBelow
      rw [if_neg hne]
      simp only
      split
      · -- The range ends before the node, and so before all that lie to the right.
        rename_i hbefore
        rw [ihl hl hlOrdered hlNonempty hleft]
        refine ⟨fun hall b hb => ?_, fun hall b hb => hall b (by simp [hb])⟩
        rcases List.mem_append.mp hb with hmem | hmem
        · exact hall b hmem
        · left
          show stop ≤ (node nodes b).start
          rcases List.mem_cons.mp hmem with rfl | hmem
          · exact hbefore
          · have hbehind := hroot b hmem
            omega
      · split
        · rename_i hafter
          rw [ihr hr hrOrdered hrNonempty hright]
          refine ⟨fun hall b hb => ?_, fun hall b hb => hall b (by simp [hb])⟩
          rcases List.mem_append.mp hb with hmem | hmem
          · right
            show (node nodes b).stop ≤ start
            have hbehind := hacross b hmem id List.mem_cons_self
            omega
          · rcases List.mem_cons.mp hmem with rfl | hmem
            · exact .inr hafter
            · exact hall b hmem
        · rename_i hnotBefore hnotAfter
          refine ⟨nofun, fun hall => ?_⟩
          rcases hall id (by simp) with hbefore | hafter
          · exact absurd hbefore hnotBefore
          · exact absurd hafter hnotAfter

end Search

theorem node_succ {nodes : Nodes} {i : Nat} (hi : i < nodes.length) :
    node nodes (i + 1) = nodes[i] := by
  simp [node, hi]

namespace Indexed

variable {index : NVDIntervalIndex} {t : BinaryTree Nat} {start stop : Nat}

theorem reset (index : NVDIntervalIndex) : Indexed (nvdIntervalIndexReset index) .nil := by
  refine ⟨rfl, List.nodup_nil, fun a => ?_, trivial, Nat.zero_le _, nofun, List.Pairwise.nil, nofun,
    rfl⟩
  show a ∈ [] ↔ a ≠ 0 ∧ a ≤ 0
  simp

theorem numNodes_le (h : Indexed index t) : t.numNodes ≤ index.nodes.length := by
  rw [← length_inorder]
  have hsub : t.inorder ⊆ (List.range index.nodes.length).map (· + 1) := by
    intro a ha
    obtain ⟨hne, hle⟩ := (h.all a).mp ha
    exact List.mem_map.mpr ⟨a - 1, List.mem_range.mpr (by omega), by omega⟩
  have hlen := (List.subperm_of_subset h.nodup hsub).length_le
  rwa [List.length_map, List.length_range] at hlen

/-- The height of a tree of 4096 nodes fits into the byte that it has. -/
theorem height_lt (h : Indexed index t) : t.height < 2 ^ 8 := by
  have hfib := h.balanced.fib_le
  have hnodes := h.numNodes_le.trans h.capacity
  by_contra hhigh
  have hmono : Nat.fib 20 ≤ Nat.fib (t.height + 2) := Nat.fib_mono (by omega)
  have hvalue : Nat.fib 20 = 6765 := by decide
  have hcapacity : nvdIntervalIndexCapacity = 4096 := rfl
  omega

/-- The ranges of the index are those of the nodes in the tree. -/
theorem forall_ranges (h : Indexed index t) {P : Nat × Nat → Prop} :
    (∀ range ∈ index.ranges, P range) ↔
      ∀ a ∈ t.inorder, P ((node index.nodes a).start, (node index.nodes a).stop) := by
  constructor
  · intro hall a ha
    obtain ⟨hne, hle⟩ := (h.all a).mp ha
    refine hall _ (List.mem_map.mpr ⟨node index.nodes a, ?_, rfl⟩)
    have hlt : a - 1 < index.nodes.length := by omega
    simp [node, hlt]
  · intro hall range hrange
    obtain ⟨n, hn, rfl⟩ := List.mem_map.mp hrange
    obtain ⟨i, hi, rfl⟩ := List.getElem_of_mem hn
    rw [← node_succ hi]
    exact hall (i + 1) ((h.all (i + 1)).mpr ⟨Nat.succ_ne_zero i, hi⟩)

/-- The search decides whether a range is apart from all those of the index. -/
theorem disjointBelow (h : Indexed index t) :
    disjointBelow index.nodes start stop (index.nodes.length + 1) index.root = true ↔
      ∀ range ∈ index.ranges, Apart start stop range := by
  have hheight := (height_le_numNodes t).trans h.numNodes_le
  rw [h.forall_ranges]
  exact disjointBelow_iff h.stored h.ordered h.nonempty (Nat.lt_succ_of_le hheight)

/-- A range that begins at or behind the largest end is apart from all. -/
theorem apart_of_maxEnd (h : Indexed index t) (hmax : index.maxEnd ≤ start) :
    ∀ range ∈ index.ranges, Apart start stop range := by
  rw [h.forall_ranges]
  exact fun a ha => .inr ((h.bounded a ha).trans hmax)

end Indexed

theorem Relinked.ranges {ids : List Nat} {nodes nodes' : Nodes} (h : Relinked ids nodes nodes') :
    nodes'.map (fun n => (n.start, n.stop)) = nodes.map fun n => (n.start, n.stop) := by
  refine List.ext_getElem (by simp [h.length]) fun i hi hi' => ?_
  rw [List.length_map] at hi hi'
  have hstart := h.start (i + 1)
  have hstop := h.stop (i + 1)
  rw [node_succ hi, node_succ hi'] at hstart hstop
  simp [hstart, hstop]

theorem node_append_of_le {nodes : Nodes} {n : NVDIntervalNode} {a : Nat} (hne : a ≠ 0)
    (hle : a ≤ nodes.length) : node (nodes ++ [n]) a = node nodes a := by
  have hlt : a - 1 < nodes.length := by omega
  simp [node, List.getElem?_append_left hlt]

theorem node_append_length {nodes : Nodes} {n : NVDIntervalNode} :
    node (nodes ++ [n]) (nodes.length + 1) = n := by
  simp [node]

/-- A range that is apart from all those of the index joins them. -/
theorem Indexed.insert {index : NVDIntervalIndex} {t : BinaryTree Nat} {start stop : Nat}
    (h : Indexed index t) (hrange : start < stop)
    (hroom : index.nodes.length < nvdIntervalIndexCapacity)
    (hapart : ∀ range ∈ index.ranges, Apart start stop range) (allocated : Nat) :
    let inserted := insertNode (index.nodes.length + 1)
      (index.nodes ++ [{ start := start, stop := stop }]) index.root (index.nodes.length + 1)
    let index' := { index with
      nodes := inserted.1, root := inserted.2, allocated := allocated
      maxEnd := max stop index.maxEnd }
    (∃ t', Indexed index' t') ∧ index'.ranges = index.ranges ++ [(start, stop)] := by
  intro inserted index'
  have hapartNodes := h.forall_ranges.mp hapart
  let nodes := index.nodes ++ [({ start := start, stop := stop } : NVDIntervalNode)]
  have hlength : nodes.length = index.nodes.length + 1 := by simp [nodes]
  have hold : ∀ a ∈ t.inorder, node nodes a = node index.nodes a :=
    fun a ha => node_append_of_le ((h.all a).mp ha).1 ((h.all a).mp ha).2
  have hnew : node nodes (index.nodes.length + 1) = { start := start, stop := stop } :=
    node_append_length
  have hnot : index.nodes.length + 1 ∉ t.inorder := by
    intro hmem
    have hle := ((h.all _).mp hmem).2
    omega
  let key := fun a => (node nodes a).start
  have hkey : key (index.nodes.length + 1) = start := by simp only [key, hnew]
  have hbehind : ∀ a ∈ t.inorder, key a ≤ start → (node index.nodes a).stop ≤ start := by
    intro a ha hle
    have hself := h.nonempty a ha
    simp only [key, hold a ha] at hle
    rcases hapartNodes a ha with hbefore | hafter
    · change stop ≤ (node index.nodes a).start at hbefore
      omega
    · exact hafter
  have hbefore : ∀ a ∈ t.inorder, start ≤ key a → stop ≤ (node index.nodes a).start := by
    intro a ha hle
    have hself := h.nonempty a ha
    simp only [key, hold a ha] at hle
    rcases hapartNodes a ha with hbefore | hafter
    · exact hbefore
    · change (node index.nodes a).stop ≤ start at hafter
      omega
  have hdistinct : ∀ a ∈ t.inorder, key a ≠ key (index.nodes.length + 1) := by
    intro a ha heq
    rw [hkey] at heq
    have hself := h.nonempty a ha
    have hstop := hbehind a ha (Nat.le_of_eq heq)
    simp only [key, hold a ha] at heq
    omega
  have hleaf : Linked nodes (index.nodes.length + 1) .nil .nil := by
    refine ⟨Nat.succ_ne_zero _, hlength.ge, ?_, ?_, by simp⟩ <;> rw [hnew] <;> rfl
  have hdepth : t.height < index.nodes.length + 1 :=
    Nat.lt_succ_of_le ((height_le_numNodes t).trans h.numNodes_le)
  obtain ⟨hstored, hrelinked⟩ := Stored.insertNode (fun _ => rfl)
    (h.stored.congr (by omega) hold) h.nodup h.balanced hleaf (by rw [hnew]) hnot hdistinct hdepth
  have hperm : (insertBy key (index.nodes.length + 1) t).inorder.Perm
      ((index.nodes.length + 1) :: t.inorder) := inorder_insertBy_perm t
  have hmem : ∀ a, a ∈ (insertBy key (index.nodes.length + 1) t).inorder ↔
      a = index.nodes.length + 1 ∨ a ∈ t.inorder := fun a => hperm.mem_iff.trans List.mem_cons
  have hnode : ∀ a ∈ t.inorder, (node inserted.1 a).start = (node index.nodes a).start ∧
      (node inserted.1 a).stop = (node index.nodes a).stop := by
    intro a ha
    exact ⟨(hrelinked.start a).trans (congrArg NVDIntervalNode.start (hold a ha)),
      (hrelinked.stop a).trans (congrArg NVDIntervalNode.stop (hold a ha))⟩
  have hadded : (node inserted.1 (index.nodes.length + 1)).start = start ∧
      (node inserted.1 (index.nodes.length + 1)).stop = stop := by
    exact ⟨(hrelinked.start _).trans (congrArg NVDIntervalNode.start hnew),
      (hrelinked.stop _).trans (congrArg NVDIntervalNode.stop hnew)⟩
  have hcount : index'.nodes.length = index.nodes.length + 1 := hrelinked.length.trans hlength
  have hranges : index'.ranges = index.ranges ++ [(start, stop)] := by
    show inserted.1.map _ = _
    rw [hrelinked.ranges, List.map_append]
    rfl
  refine ⟨⟨insertBy key (index.nodes.length + 1) t, hstored, ?_, ?_, ?_, ?_, ?_, ?_, ?_, ?_⟩,
    hranges⟩
  · exact hperm.nodup_iff.mpr (List.nodup_cons.mpr ⟨hnot, h.nodup⟩)
  · intro a
    rw [hmem, h.all, hcount]
    omega
  · exact (h.balanced.insertBy hdistinct).balanced
  · rw [hcount]
    exact hroom
  · intro a ha
    rcases (hmem a).mp ha with rfl | hmember
    · rw [hadded.1, hadded.2]
      exact hrange
    · rw [(hnode a hmember).1, (hnode a hmember).2]
      exact h.nonempty a hmember
  · -- The new node is between those whose ranges are before and those behind its own.
    have hsorted : t.inorder.Pairwise fun a b => key a ≤ key b := by
      refine h.ordered.imp_of_mem fun {a b} ha hb hab => ?_
      have hself := h.nonempty a ha
      simp only [key, hold a ha, hold b hb]
      omega
    obtain ⟨before, after, hsplit, hinserted, hlow, hhigh⟩ :=
      inorder_insertBy (x := index.nodes.length + 1) hsorted
    have hbeforeMem : ∀ a ∈ before, a ∈ t.inorder := fun a ha => by simp [hsplit, ha]
    have hafterMem : ∀ a ∈ after, a ∈ t.inorder := fun a ha => by simp [hsplit, ha]
    have hordered : (before ++ after).Pairwise fun a b =>
        (node inserted.1 a).stop ≤ (node inserted.1 b).start := by
      rw [← hsplit]
      refine h.ordered.imp_of_mem fun {a b} ha hb hab => ?_
      rw [(hnode a ha).2, (hnode b hb).1]
      exact hab
    obtain ⟨hfirst, hlast, hacross⟩ := List.pairwise_append.mp hordered
    rw [hinserted]
    refine List.pairwise_append.mpr ⟨hfirst, List.pairwise_cons.mpr ⟨fun b hb => ?_, hlast⟩, ?_⟩
    · show (node inserted.1 (index.nodes.length + 1)).stop ≤ _
      rw [hadded.2, (hnode b (hafterMem b hb)).1]
      exact hbefore b (hafterMem b hb) (hkey ▸ (hhigh b hb).le)
    · intro a ha b hb
      rcases List.mem_cons.mp hb with rfl | hb
      · show _ ≤ (node inserted.1 (index.nodes.length + 1)).start
        rw [hadded.1, (hnode a (hbeforeMem a ha)).2]
        exact hbehind a (hbeforeMem a ha) (hkey ▸ hlow a ha)
      · exact hacross a ha b hb
  · intro a ha
    rcases (hmem a).mp ha with rfl | hmember
    · rw [hadded.2]
      exact Nat.le_max_left _ _
    · rw [(hnode a hmember).2]
      exact (h.bounded a hmember).trans (Nat.le_max_right _ _)
  · show max stop index.maxEnd = largestEnd index'.ranges
    rw [hranges, h.largest, Nat.max_comm]
    simp [largestEnd]

/-- A node is not higher than the tree that it is in. -/
theorem Stored.height_le {nodes : Nodes} {id : Nat} {t : BinaryTree Nat} (h : Stored nodes id t) :
    ∀ a ∈ t.inorder, (node nodes a).height ≤ t.height := by
  induction t generalizing id with
  | nil => nofun
  | node a l r ihl ihr =>
      obtain ⟨-, -, -, hheight, hl, hr⟩ := h
      intro b hb
      simp only [BinaryTree.height] at hheight ⊢
      rcases List.mem_append.mp hb with hmem | hmem
      · have hle := ihl hl b hmem
        omega
      · rcases List.mem_cons.mp hmem with rfl | hmem
        · omega
        · have hle := ihr hr b hmem
          omega

/-- One call of `nvdIntervalIndexInsert`. -/
theorem Indexed.nvdIntervalIndexInsert {index : NVDIntervalIndex} {t : BinaryTree Nat}
    (h : Indexed index t) (heap : Heap) (start stop : Nat) :
    let result := nvdIntervalIndexInsert heap index start stop
    (result.2 = true ↔ start < stop ∧ index.nodes.length < nvdIntervalIndexCapacity ∧
      (∀ range ∈ index.ranges, Apart start stop range) ∧
      (reserveStorage heap index.allocated
        ((index.nodes.length + 1) * sizeofIntervalNode)).isSome = true) ∧
    (result.2 = true → (∃ t', Indexed result.1 t') ∧
      result.1.ranges = index.ranges ++ [(start, stop)]) ∧
    (result.2 = false → result.1 = { index with failed := result.1.failed }) := by
  intro result
  have hsearch : (start < index.maxEnd ∧
      Av1.disjointBelow index.nodes start stop (index.nodes.length + 1) index.root = false) ↔
      ¬∀ range ∈ index.ranges, Apart start stop range := by
    rw [← h.disjointBelow, Bool.not_eq_true]
    refine ⟨fun hboth => hboth.2, fun hfalse => ⟨?_, hfalse⟩⟩
    by_contra hlarge
    rw [h.disjointBelow.mpr (h.apart_of_maxEnd (Nat.le_of_not_lt hlarge))] at hfalse
    cases hfalse
  simp only [result]
  unfold Av1.nvdIntervalIndexInsert
  simp only
  split
  · rename_i hrefused
    refine ⟨⟨nofun, fun haccept => ?_⟩, nofun, fun _ => rfl⟩
    omega
  · rename_i hfits
    split
    · rename_i hoverlap
      exact ⟨⟨nofun, fun haccept => absurd haccept.2.2.1 (hsearch.mp hoverlap)⟩, nofun, fun _ => rfl⟩
    · rename_i hapart
      have hall := not_not.mp fun hnot => hapart (hsearch.mpr hnot)
      split
      · rename_i hnone
        rw [hnone]
        exact ⟨⟨nofun, fun haccept => by cases haccept.2.2.2⟩, nofun, fun _ => rfl⟩
      · rename_i allocated hsome
        rw [hsome]
        refine ⟨⟨fun _ => ⟨by omega, by omega, hall, rfl⟩, fun _ => rfl⟩, fun _ => ?_, nofun⟩
        exact h.insert (by omega) (by omega) hall allocated

/-! ## Sequences of calls -/

/-- A call of `nvdIntervalIndexInsert`, with the answers of the heap to it. -/
structure Insertion where
  heap : Heap
  start : Nat
  stop : Nat

/-- The index after some calls, and the ranges that were accepted. -/
def afterInsertions (index : NVDIntervalIndex) (calls : List Insertion) :
    NVDIntervalIndex × List (Nat × Nat) :=
  calls.foldl (fun reached call =>
    let result := nvdIntervalIndexInsert call.heap reached.1 call.start call.stop
    (result.1, if result.2 then reached.2 ++ [(call.start, call.stop)] else reached.2)) (index, [])

/-- The answers to some calls. -/
def answers : NVDIntervalIndex → List Insertion → List Bool
  | _, [] => []
  | index, call :: rest =>
    let result := nvdIntervalIndexInsert call.heap index call.start call.stop
    result.2 :: answers result.1 rest

/-- That the storage could not grow some time changes no answer. -/
theorem answers_congr {index : NVDIntervalIndex} (failed : Bool) (calls : List Insertion) :
    answers { index with failed := failed } calls = answers index calls := by
  induction calls generalizing index failed with
  | nil => rfl
  | cons call rest ih =>
      have hsame : ∃ failed', nvdIntervalIndexInsert call.heap { index with failed := failed }
          call.start call.stop =
          ({ (nvdIntervalIndexInsert call.heap index call.start call.stop).1 with
              failed := failed' },
            (nvdIntervalIndexInsert call.heap index call.start call.stop).2) := by
        unfold nvdIntervalIndexInsert
        simp only
        split
        · exact ⟨failed, rfl⟩
        · split
          · exact ⟨failed, rfl⟩
          · split
            · exact ⟨true, rfl⟩
            · exact ⟨failed, rfl⟩
      obtain ⟨failed', hinsert⟩ := hsame
      unfold answers
      simp only [hinsert]
      rw [ih]

/-- The ranges of the index are the accepted ones. -/
theorem afterInsertions_indexed (index : NVDIntervalIndex) (calls : List Insertion) :
    (∃ t, Indexed (afterInsertions (nvdIntervalIndexReset index) calls).1 t) ∧
      (afterInsertions (nvdIntervalIndexReset index) calls).1.ranges =
        (afterInsertions (nvdIntervalIndexReset index) calls).2 := by
  induction calls using List.reverseRecOn with
  | nil => exact ⟨⟨.nil, Indexed.reset index⟩, rfl⟩
  | append_singleton calls call ih =>
      obtain ⟨⟨t, hindexed⟩, hranges⟩ := ih
      obtain ⟨-, haccepted, hrejected⟩ :=
        hindexed.nvdIntervalIndexInsert call.heap call.start call.stop
      have hstep : afterInsertions (nvdIntervalIndexReset index) (calls ++ [call]) =
          let reached := afterInsertions (nvdIntervalIndexReset index) calls
          let result := nvdIntervalIndexInsert call.heap reached.1 call.start call.stop
          (result.1, if result.2 then reached.2 ++ [(call.start, call.stop)] else reached.2) := by
        unfold afterInsertions
        rw [List.foldl_append]
        rfl
      rw [hstep]
      simp only
      split
      · rename_i htrue
        obtain ⟨hnext, hgrown⟩ := haccepted htrue
        exact ⟨hnext, hgrown.trans (congrArg (· ++ [(call.start, call.stop)]) hranges)⟩
      · rename_i hfalse
        rw [hrejected (Bool.eq_false_iff.mpr hfalse)]
        exact ⟨⟨t, { hindexed with }⟩, hranges⟩

/-- For every sequence of insertions since a reset, a range is accepted if and only if it is
not empty, there is room and it is apart from all accepted ranges, as far as there is storage;
a refusal changes no later answer, and the search would accept every range for which it is
not made. -/
theorem intervalIndex_decides (index : NVDIntervalIndex) (calls : List Insertion)
    (call : Insertion) :
    let reached := afterInsertions (nvdIntervalIndexReset index) calls
    let result := nvdIntervalIndexInsert call.heap reached.1 call.start call.stop
    (result.2 = true ↔ call.start < call.stop ∧ reached.2.length < nvdIntervalIndexCapacity ∧
      (∀ range ∈ reached.2, Apart call.start call.stop range) ∧
      (reserveStorage call.heap reached.1.allocated
        ((reached.2.length + 1) * sizeofIntervalNode)).isSome = true) ∧
    reached.1.ranges = reached.2 ∧
    (result.2 = false → result.1.ranges = reached.1.ranges ∧
      ∀ later, answers result.1 later = answers reached.1 later) ∧
    reached.1.maxEnd = largestEnd reached.2 ∧
    (disjointBelow reached.1.nodes call.start call.stop (reached.1.nodes.length + 1)
      reached.1.root = true ↔ ∀ range ∈ reached.2, Apart call.start call.stop range) ∧
    (reached.1.maxEnd ≤ call.start → disjointBelow reached.1.nodes call.start call.stop
      (reached.1.nodes.length + 1) reached.1.root = true) ∧
    ∀ n ∈ reached.1.nodes, n.height < 2 ^ 8 := by
  intro reached result
  obtain ⟨⟨t, hindexed⟩, hranges⟩ := afterInsertions_indexed index calls
  obtain ⟨hiff, -, hrejected⟩ := hindexed.nvdIntervalIndexInsert call.heap call.start call.stop
  have hcount : reached.1.nodes.length = reached.2.length := by
    rw [← hranges, NVDIntervalIndex.ranges, List.length_map]
  rw [hranges, hcount] at hiff
  refine ⟨hiff, hranges, fun hfalse => ?_, ?_, ?_, fun hmax => ?_, fun n hn => ?_⟩
  · rw [hrejected hfalse]
    exact ⟨rfl, answers_congr _⟩
  · rw [← hranges]
    exact hindexed.largest
  · rw [← hranges]
    exact hindexed.disjointBelow
  · exact hindexed.disjointBelow.mpr (hindexed.apart_of_maxEnd hmax)
  · obtain ⟨i, hi, rfl⟩ := List.getElem_of_mem hn
    rw [← node_succ hi]
    exact (hindexed.stored.height_le (i + 1)
      ((hindexed.all _).mpr ⟨Nat.succ_ne_zero i, hi⟩)).trans_lt hindexed.height_lt

end Av1
end NvidiaVaapi
