import DepView.Failure
import DepView.Tree.Shape

/-!
Syntax trees with positions and flags, and their JSON form. What is written is what is needed to
show the tree again; what is read may lack anything, and a missing part gets its default.
-/

namespace DepView

/-- A row and a column, as whatever values they were given. -/
structure Position where
  row : Json
  column : Json
deriving Inhabited

/-- What a node of a tree says of itself. The field is the name that its parent has for it. -/
structure NodeInfo where
  type : Text
  start : Position
  stop : Position
  isNamed : Bool
  isMissing : Bool
  field : Option Json
deriving Inhabited

inductive Tree where
  | node (info : NodeInfo) (children : List Tree)
deriving Inhabited

namespace Position

def zero : Position := ⟨.int 0, .int 0⟩

def toJson (p : Position) : Json :=
  .record [("row", p.row), ("column", p.column)]

/-- A missing or empty position is zero, and so is a missing part of one. -/
def ofJson? : Option Json → Except ShapeFault Position
  | none => .ok zero
  | some (.obj members) =>
    .ok ⟨((Json.obj members).member? "row").getD (.int 0),
      ((Json.obj members).member? "column").getD (.int 0)⟩
  | some value => if value.isTrue then .error .noMembers else .ok zero

end Position

namespace Tree

def info : Tree → NodeInfo
  | node info _ => info

def children : Tree → List Tree
  | node _ children => children

mutual

def shape : Tree → Shape
  | node info children => .node info.type (shapes children)

def shapes : List Tree → List Shape
  | [] => []
  | tree :: rest => shape tree :: shapes rest

end

/-- A value unless it counts as false. -/
def ifTrue (value : Json) : Option Json :=
  if value.isTrue then some value else none

/-- The members of a node between its type and its children. -/
def middleMembers (info : NodeInfo) (field : Option Json) : List (String × Json) :=
  [("startPosition", info.start.toJson), ("endPosition", info.stop.toJson),
   ("isNamed", .bool info.isNamed), ("isMissing", .bool info.isMissing)] ++
    (field.map fun f => ("fieldName", f)).toList

/-- A node as JSON, where its children are JSON already. -/
def nodeJson (type : Json) (info : NodeInfo) (field : Option Json) (children : List Json) : Json :=
  .record (("type", type) :: middleMembers info field ++ [("children", .arr children)])

mutual

/-- A tree as JSON, where its parent has the given name for it. -/
def toJson (field : Option Json) : Tree → Json
  | node info children =>
    nodeJson (.str info.type) info field (childrenToJson children)

def childrenToJson : List Tree → List Json
  | [] => []
  | node info children :: rest => toJson info.field (node info children) :: childrenToJson rest

end

/-- What a JSON object says of a node. -/
def infoOf (members : List (Text × Json)) : Except ShapeFault NodeInfo := do
  let get (name : String) := Table.find? members name.toList
  let start ← Position.ofJson? (get "startPosition")
  let stop ← Position.ofJson? (get "endPosition")
  return { type := ((get "type").map Json.plain).getD []
           start, stop
           isNamed := ((get "isNamed").map Json.isTrue).getD true
           isMissing := ((get "isMissing").map Json.isTrue).getD false
           field := (get "fieldName").bind ifTrue }

mutual

/-- The tree of a JSON value. -/
def ofJson : Json → Except ShapeFault Tree
  | .obj members => do
    let children ← childrenIn members
    return .node (← infoOf members) children
  | _ => .error .noMembers

/-- The trees of the member that holds the children, if there is one. -/
def childrenIn : List (Text × Json) → Except ShapeFault (List Tree)
  | [] => .ok []
  | (name, value) :: rest =>
    if name = "children".toList then childrenOf value else childrenIn rest

/-- The trees of a list. Anything else has to be empty. -/
def childrenOf : Json → Except ShapeFault (List Tree)
  | .arr items => ofItems items
  | .str [] => .ok []
  | .obj [] => .ok []
  | .str _ => .error .noMembers
  | .obj _ => .error .noMembers
  | _ => .error .notIterable

def ofItems : List Json → Except ShapeFault (List Tree)
  | [] => .ok []
  | item :: rest => do
    let tree ← ofJson item
    return tree :: (← ofItems rest)

end

/-- Nodes of one type in a line, with nothing more to say. -/
def ofShapeInfo (type : Text) : NodeInfo :=
  ⟨type, .zero, .zero, true, false, none⟩

mutual

/-- The tree of a shape, with every other part at its default. -/
def ofShape : Shape → Tree
  | .node type children => .node (ofShapeInfo type) (ofShapes children)

def ofShapes : List Shape → List Tree
  | [] => []
  | shape :: rest => ofShape shape :: ofShapes rest

end

end Tree

end DepView
