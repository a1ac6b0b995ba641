import DepView.Decimal.Binary
import DepView.Graph.Basic
import DepView.Json.Basic
import DepView.Settings.Basic

/-!
Layouts of a graph. In a radial layout every node has a place on a circle, whose radius grows
with the number of nodes between two bounds. A hierarchical layout has no places; the viewer is
told to find them.
-/

namespace DepView

structure Point where
  x : Float
  y : Float
deriving Repr, Inhabited

inductive LayoutMode where
  | radial
  | hierarchical
deriving DecidableEq, Repr

def LayoutMode.name : LayoutMode → String
  | radial => "radial"
  | hierarchical => "hierarchical"

/-- What decides about the places: a place for each node, or the settings for the viewer. -/
inductive Placement where
  | points (points : List Point)
  | directive (settings : HierarchySettings)

structure Layout where
  graph : Graph
  placement : Placement

namespace Layout

/-- The radius for a number of nodes. The upper bound counts before the lower one, and a bound
counts only where it is strictly passed. -/
def radiusFor (s : RadialSettings) (count : Int) : Float :=
  let wanted := s.radiusPerNode * Float.ofInt count
  let bounded := if wanted < s.maxRadius then wanted else s.maxRadius
  if bounded > s.minRadius then bounded else s.minRadius

def pi : Float := 3.141592653589793

/-- The place of the node at an index among `count` nodes. -/
def pointAt (s : RadialSettings) (count index : Nat) : Point :=
  let radius := radiusFor s count
  let step := (2.0 * pi) / (max 1 count).toFloat
  let angle := index.toFloat * step
  ⟨s.centerX + radius * angle.cos, s.centerY + radius * angle.sin⟩

def radial (s : RadialSettings) (g : Graph) : Layout :=
  ⟨g, .points ((List.range g.nodeCount).map (pointAt s g.nodeCount))⟩

def hierarchical (s : HierarchySettings) (g : Graph) : Layout :=
  ⟨g, .directive s⟩

def build (radialSettings : RadialSettings) (hierarchySettings : HierarchySettings) (g : Graph) :
    LayoutMode → Layout
  | .radial => radial radialSettings g
  | .hierarchical => hierarchical hierarchySettings g

def mode (l : Layout) : LayoutMode :=
  match l.placement with
  | .points _ => .radial
  | .directive _ => .hierarchical

def points (l : Layout) : List Point :=
  match l.placement with
  | .points points => points
  | .directive _ => []

/-- The place of the node with an identifier. -/
def pointOf? (l : Layout) (id : Text) : Option Point :=
  ((l.graph.nodes.zip l.points).find? fun (node, _) => node.id == id).map (·.2)

/-- What the viewer is told about the layout. -/
def options (l : Layout) : Json :=
  match l.placement with
  | .points _ => .record [("name", .ofString "preset")]
  | .directive s =>
    .record [("name", .ofString "dagre"), ("rankDir", .str s.rankDir), ("nodeSep", .num s.nodeSep),
      ("rankSep", .num s.rankSep), ("edgeSep", .num s.edgeSep)]

end Layout

/-! The elements that a viewer draws: the nodes of a layout, then its edges, which are numbered. -/

inductive Element where
  | node (id name : Text) (point : Option Point)
  | edge (id source target : Text)
deriving Repr

namespace Element

def id : Element → Text
  | node id _ _ => id
  | edge id _ _ => id

def toJson : Element → Json
  | node id name point =>
    .record ([("data", .record [("id", .str id), ("name", .str name)])] ++
      (point.map fun p => ("position", .record [("x", .num p.x), ("y", .num p.y)])).toList)
  | edge id source target =>
    .record [("data", .record [("id", .str id), ("source", .str source), ("target", .str target)])]

end Element

namespace Layout

/-- Nodes with their places, as far as there are any. -/
def nodeElements : List Node → List Point → List Element
  | [], _ => []
  | n :: nodes, [] => .node n.id n.label none :: nodeElements nodes []
  | n :: nodes, p :: points => .node n.id n.label (some p) :: nodeElements nodes points

def edgeElements (number : Nat) : List Edge → List Element
  | [] => []
  | e :: edges =>
    .edge ('e' :: Decimal.digits number) e.source e.target :: edgeElements (number + 1) edges

def elements (l : Layout) : List Element :=
  nodeElements l.graph.nodes l.points ++ edgeElements 0 l.graph.edges

end Layout

end DepView
