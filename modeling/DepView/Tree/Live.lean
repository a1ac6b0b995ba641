import DepView.Tree.Basic
import DepView.Tree.Dot
import DepView.Tree.Expression

/-!
Trees as a grammar gives them. Much may be unsaid at their nodes, the type of one can be any value,
and a position is a list of numbers that should be two. Such a tree shows itself as an expression;
in its JSON form every unsaid part has its default.
-/

namespace DepView

/-- What a node given by a grammar says of itself. `childFields` holds the names of its children,
if it is the parent that knows them; otherwise each child knows its own. -/
structure LiveInfo where
  type : Json
  start : Option (List Json)
  stop : Option (List Json)
  isNamed : Option Json
  isMissing : Option Json
  ownField : Option Json
  childFields : Option (List Json)
  expression : Option Text
  shown : Text
deriving Inhabited

inductive LiveTree where
  | node (info : LiveInfo) (children : List LiveTree)
deriving Inhabited

namespace LiveTree

def info : LiveTree → LiveInfo
  | node info _ => info

mutual

def shape : LiveTree → Shape
  | node info children => .node info.type.plain (shapes children)

def shapes : List LiveTree → List Shape
  | [] => []
  | tree :: rest => shape tree :: shapes rest

end

/-- A position that is there has a row and a column and nothing else. -/
def positionOf : Option (List Json) → Except ShapeFault Position
  | none => .ok .zero
  | some [row, column] => .ok ⟨row, column⟩
  | some _ => .error .wrongCount

/-- What a node says with nothing left unsaid, where its parent has the given name for it. -/
def settleInfo (field : Option Json) (info : LiveInfo) : Except ShapeFault NodeInfo := do
  let start ← positionOf info.start
  let stop ← positionOf info.stop
  return { type := info.type.plain
           start, stop
           isNamed := (info.isNamed.map Json.isTrue).getD true
           isMissing := (info.isMissing.map Json.isTrue).getD false
           field := field.bind Tree.ifTrue }

/-- The name of the child at an index. -/
def childField (parent child : LiveInfo) (index : Nat) : Option Json :=
  match parent.childFields with
  | some fields => fields[index]?
  | none => child.ownField

mutual

/-- The tree as JSON, where its parent has the given name for it. -/
def toJson (field : Option Json) : LiveTree → Except ShapeFault Json
  | node info children => do
    let children ← childrenToJson info 0 children
    let settled ← settleInfo field info
    return Tree.nodeJson info.type settled settled.field children

def childrenToJson (parent : LiveInfo) (index : Nat) :
    List LiveTree → Except ShapeFault (List Json)
  | [] => .ok []
  | node info children :: rest => do
    let tree ← toJson (childField parent info index) (node info children)
    return tree :: (← childrenToJson parent (index + 1) rest)

end

end LiveTree

/-- A tree from a dump or from a grammar. -/
inductive SyntaxTree where
  | stored (tree : Tree)
  | live (tree : LiveTree)
deriving Inhabited

namespace SyntaxTree

def shape : SyntaxTree → Shape
  | stored tree => tree.shape
  | live tree => tree.shape

def toDot (name start : Text) (tree : SyntaxTree) : Text :=
  tree.shape.toDot name start

/-- A tree as JSON, where its parent has the given name for it. -/
def toJson (field : Option Json) : SyntaxTree → Except ShapeFault Json
  | stored tree => .ok (tree.toJson (field.bind Tree.ifTrue))
  | live tree => tree.toJson field

/-- A tree as an expression. -/
def expression : SyntaxTree → Text
  | stored tree => tree.expression
  | live tree => tree.info.expression.getD tree.info.shown

end SyntaxTree

end DepView
