import DepView.Graph.Stats
import DepView.Json.Basic

/-!
Graphs and their figures as JSON.
-/

namespace DepView

def Node.toJson (n : Node) : Json :=
  .record [("id", .str n.id), ("label", .str n.label)]

def Edge.toJson (e : Edge) : Json :=
  .record [("source", .str e.source), ("target", .str e.target)]

/-- The figures of a graph, with the name of the library that graph programs know them by. -/
def Stats.members (s : Stats) : List (String × Json) :=
  [("total_nodes", .ofNat s.totalNodes), ("total_edges", .ofNat s.totalEdges),
   ("roots", .ofTexts s.roots), ("orphans", .ofTexts s.orphans), ("is_dag", .bool s.isDag),
   ("depth", .ofNat s.depth), ("backend", .ofString "rustworkx")]

def Stats.toJson (s : Stats) : Json :=
  .record s.members

/-- The nodes and the edges of a graph. -/
def Graph.members (g : Graph) : List (String × Json) :=
  [("nodes", .arr (g.nodes.map Node.toJson)), ("edges", .arr (g.edges.map Edge.toJson))]

end DepView
