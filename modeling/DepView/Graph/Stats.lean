import DepView.Graph.Basic
import Std.Data.HashMap
import Std.Data.HashSet

/-!
Structural figures of a graph: its roots, its orphans, whether it has a cycle, and the length
of its longest path. They are taken from a projection of the graph, which has numbers for the nodes.
The last two come from the ends of ever longer walks: a walk with as many edges as there are nodes
runs through a cycle.
-/

namespace DepView

structure Stats where
  totalNodes : Nat
  totalEdges : Nat
  roots : List Text
  orphans : List Text
  isDag : Bool
  depth : Nat
deriving DecidableEq, Repr

/-- A graph whose nodes are the numbers of some identifiers. An arc goes from the first of its
numbers to the second, and arcs may repeat. -/
structure Projection where
  ids : List Text
  arcs : List (Nat × Nat)
deriving DecidableEq, Repr

namespace Projection

def inDegree (p : Projection) (node : Nat) : Nat :=
  p.arcs.countP (fun arc => arc.2 == node)

def outDegree (p : Projection) (node : Nat) : Nat :=
  p.arcs.countP (fun arc => arc.1 == node)

/-- The identifiers of the nodes of a kind, in order. -/
def idsWhere (p : Projection) (kind : Nat → Bool) : List Text :=
  (p.ids.zipIdx.filter fun (_, node) => kind node).map (·.1)

/-- The nodes that start arcs but end none. -/
def roots (p : Projection) : List Text :=
  p.idsWhere fun node => p.inDegree node == 0 && p.outDegree node != 0

/-- The nodes on no arc. -/
def orphans (p : Projection) : List Text :=
  p.idsWhere fun node => p.inDegree node == 0 && p.outDegree node == 0

/-- The arcs that go on from the end of another of them. -/
def continuing (arcs : List (Nat × Nat)) : List (Nat × Nat) :=
  let ends := Std.HashSet.ofList (arcs.map (·.2))
  arcs.filter (fun arc => ends.contains arc.1)

/-- The length of the longest walk, unless there are walks of more than `bound` arcs. The
arcs at hand are those that can be the last of a walk that is `length + 1` arcs long. -/
def longestWalk? (bound : Nat) (length : Nat) (arcs : List (Nat × Nat)) : Option Nat :=
  match bound with
  | 0 => if arcs.isEmpty then some length else none
  | bound + 1 =>
    if arcs.isEmpty then some length else longestWalk? bound (length + 1) (continuing arcs)

/-- The number of arcs on a longest path, if there is no cycle. -/
def longestPath? (p : Projection) : Option Nat :=
  longestWalk? p.ids.length 0 p.arcs

end Projection

namespace Graph

/-- A text is hashed as a string. -/
instance : Hashable Text :=
  ⟨fun text => hash (String.ofList text)⟩

/-- The numbers of the nodes, by their identifiers. -/
def numbering (g : Graph) : Std.HashMap Text Nat :=
  Std.HashMap.ofList g.ids.zipIdx

/-- The graph with numbers for its nodes, in their order. An identifier that names no node would
have a number behind all others. -/
def project (g : Graph) : Projection :=
  let numbering := g.numbering
  let number (id : Text) : Nat := numbering.getD id g.nodeCount
  { ids := g.ids
    arcs := g.edges.map fun e => (number e.source, number e.target) }

def stats (g : Graph) : Stats :=
  let p := g.project
  let longest? := p.longestPath?
  { totalNodes := g.nodeCount
    totalEdges := g.edgeCount
    roots := p.roots
    orphans := p.orphans
    isDag := longest?.isSome
    depth := longest?.getD 0 }

end Graph

end DepView
