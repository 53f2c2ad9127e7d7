import NvidiaVaapi.Codec.AppendableBuffer

/-!
# The interval index

`av1-interval-index.c`: the byte ranges of the tiles registered so far, as an AVL tree in
a growing array of nodes.  Node ids count from one and zero is no node.
-/

namespace NvidiaVaapi
namespace Av1

open Codec

/-- `NVD_INTERVAL_INDEX_CAPACITY`. -/
def nvdIntervalIndexCapacity : Nat := 4096

/-- `sizeof(NVDIntervalNode)`. -/
def sizeofIntervalNode : Nat := 16

/-- `NVDIntervalNode`, the range being from `start` up to but without `stop`. -/
structure NVDIntervalNode where
  start : Nat
  stop : Nat
  left : Nat := 0
  right : Nat := 0
  height : Nat := 1
  deriving DecidableEq, Repr, Inhabited

/-- `NVDIntervalIndex`: the nodes in use, whose number is `count` in the source, with the
capacity and the failure flag of their storage. -/
structure NVDIntervalIndex where
  nodes : List NVDIntervalNode := []
  allocated : Nat := 0
  failed : Bool := false
  maxEnd : Nat := 0
  root : Nat := 0
  deriving DecidableEq, Repr

abbrev Nodes := List NVDIntervalNode

/-- `node`. -/
def node (nodes : Nodes) (id : Nat) : NVDIntervalNode :=
  nodes.getD (id - 1) default

/-- Write a node. -/
def setNode (nodes : Nodes) (id : Nat) (value : NVDIntervalNode) : Nodes :=
  nodes.set (id - 1) value

def height (nodes : Nodes) (id : Nat) : Nat :=
  if id ≠ 0 then (node nodes id).height else 0

def updateHeight (nodes : Nodes) (id : Nat) : Nodes :=
  let n := node nodes id
  setNode nodes id { n with height := 1 + max (height nodes n.left) (height nodes n.right) }

/-- `rotateLeft`: the nodes and the new root. -/
def rotateLeft (nodes : Nodes) (root : Nat) : Nodes × Nat :=
  let n := node nodes root
  let next := n.right
  let nodes := setNode nodes root { n with right := (node nodes next).left }
  let nodes := setNode nodes next { node nodes next with left := root }
  (updateHeight (updateHeight nodes root) next, next)

/-- `rotateRight`: the nodes and the new root. -/
def rotateRight (nodes : Nodes) (root : Nat) : Nodes × Nat :=
  let n := node nodes root
  let next := n.left
  let nodes := setNode nodes root { n with left := (node nodes next).right }
  let nodes := setNode nodes next { node nodes next with right := root }
  (updateHeight (updateHeight nodes root) next, next)

/-- The end of `insert`: the tree below a node is balanced again after the node with the
given start has been added to it. -/
def rebalance (nodes : Nodes) (root start : Nat) : Nodes × Nat :=
  let nodes := updateHeight nodes root
  let n := node nodes root
  let balance : Int := height nodes n.left - height nodes n.right
  if balance > 1 then
    if start > (node nodes n.left).start then
      let rotated := rotateLeft nodes n.left
      rotateRight (setNode rotated.1 root { node rotated.1 root with left := rotated.2 }) root
    else rotateRight nodes root
  else if balance < -1 then
    if start < (node nodes n.right).start then
      let rotated := rotateRight nodes n.right
      rotateLeft (setNode rotated.1 root { node rotated.1 root with right := rotated.2 }) root
    else rotateLeft nodes root
  else (nodes, root)

/-- `insert`, with a bound on the depth of its recursion. -/
def insertNode : Nat → Nodes → Nat → Nat → Nodes × Nat
  | 0, nodes, root, _ => (nodes, root)
  | depth + 1, nodes, root, added =>
    if root = 0 then (nodes, added)
    else
      let start := (node nodes added).start
      if start < (node nodes root).start then
        let below := insertNode depth nodes (node nodes root).left added
        rebalance (setNode below.1 root { node below.1 root with left := below.2 }) root start
      else
        let below := insertNode depth nodes (node nodes root).right added
        rebalance (setNode below.1 root { node below.1 root with right := below.2 }) root start

/-- The search of `nvdIntervalIndexInsert`: is the range apart from those on the way down
from a node?  The bound is one on the length of the way. -/
def disjointBelow (nodes : Nodes) (start stop : Nat) : Nat → Nat → Bool
  | 0, _ => true
  | depth + 1, current =>
    if current = 0 then true
    else
      let n := node nodes current
      if stop ≤ n.start then disjointBelow nodes start stop depth n.left
      else if start ≥ n.stop then disjointBelow nodes start stop depth n.right
      else false

/-- `reserveBuffer` for the storage of the nodes: the capacity afterwards, if there is
one. -/
def reserveStorage (heap : Heap) (allocated required : Nat) : Option Nat :=
  if required ≤ allocated then some allocated
  else
    let capacity := grownCapacity allocated required
    if heap.available capacity then some capacity else none

/-- `nvdIntervalIndexInsert`; the flag is its result.  No way down the tree is longer
than the number of nodes. -/
def nvdIntervalIndexInsert (heap : Heap) (index : NVDIntervalIndex) (start stop : Nat) :
    NVDIntervalIndex × Bool :=
  let count := index.nodes.length
  if start ≥ stop ∨ count ≥ nvdIntervalIndexCapacity then (index, false)
  else if start < index.maxEnd ∧
      disjointBelow index.nodes start stop (count + 1) index.root = false then (index, false)
  else
    match reserveStorage heap index.allocated ((count + 1) * sizeofIntervalNode) with
    | none => ({ index with failed := true }, false)
    | some allocated =>
      let added := count + 1
      let inserted := insertNode (count + 1) (index.nodes ++ [{ start := start, stop := stop }])
        index.root added
      ({ index with
        nodes := inserted.1
        root := inserted.2
        allocated := allocated
        maxEnd := max stop index.maxEnd }, true)

/-- `nvdIntervalIndexReset`. -/
def nvdIntervalIndexReset (index : NVDIntervalIndex) : NVDIntervalIndex :=
  { allocated := index.allocated }

/-- Two indices that hold the same ranges in the same tree. -/
def NVDIntervalIndex.same (first second : NVDIntervalIndex) : Prop :=
  first.nodes = second.nodes ∧ first.failed = second.failed ∧ first.maxEnd = second.maxEnd ∧
    first.root = second.root

end Av1
end NvidiaVaapi
