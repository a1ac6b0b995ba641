import DepView.Text.Basic

/-!
Directed graphs whose nodes stand in the order in which they were introduced. An identifier
names at most one node, edges may repeat, and an edge brings its endpoints with it.
-/

namespace DepView

structure Node where
  id : Text
  label : Text
deriving DecidableEq, Repr, Inhabited

structure Edge where
  source : Text
  target : Text
deriving DecidableEq, Repr, Inhabited

structure Graph where
  nodes : List Node
  edges : List Edge
deriving DecidableEq, Repr, Inhabited

namespace Graph

def empty : Graph := ⟨[], []⟩

def ids (g : Graph) : List Text :=
  g.nodes.map (·.id)

def find? (g : Graph) (id : Text) : Option Node :=
  g.nodes.find? (fun n => n.id == id)

/-- Puts a node in the place of the one with its identifier, or at the end. -/
def put (node : Node) : List Node → List Node
  | [] => [node]
  | n :: rest => if n.id = node.id then node :: rest else n :: put node rest

def addNode (g : Graph) (id label : Text) : Graph :=
  { g with nodes := put ⟨id, label⟩ g.nodes }

/-- A node that is not there yet is labelled with its identifier. -/
def ensureNode (g : Graph) (id : Text) : Graph :=
  if (g.find? id).isSome then g else g.addNode id id

def addEdge (g : Graph) (source target : Text) : Graph :=
  let g := (g.ensureNode source).ensureNode target
  { g with edges := g.edges ++ [⟨source, target⟩] }

def isEmpty (g : Graph) : Bool :=
  g.nodes.isEmpty

def nodeCount (g : Graph) : Nat :=
  g.nodes.length

def edgeCount (g : Graph) : Nat :=
  g.edges.length

/-- The graph of some edges, in order. -/
def ofEdges (edges : List Edge) : Graph :=
  edges.foldl (fun g e => g.addEdge e.source e.target) empty

end Graph

end DepView
