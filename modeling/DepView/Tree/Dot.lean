import DepView.Decimal.Binary
import DepView.Text.Quoted
import DepView.Text.Word
import DepView.Tree.Shape

/-!
A syntax tree as graph text. The nodes are numbered in the order of a walk that visits each node
before its children and the children from left to right. A node is declared with its type as
label, and the edge from its parent follows the declaration.
-/

namespace DepView.Shape

/-- The name of a graph: every character that is no word character becomes an underscore. -/
def graphName (name : Text) : Text :=
  match name.map fun c => if Text.isWord c then c else '_' with
  | [] => "AST".toList
  | cleaned => cleaned

/-- The identifier of the node with a number. -/
def nodeId (start : Text) (number : Nat) : Text :=
  start ++ Decimal.digits number

/-- The declaration of a node. -/
def declaration (id type : Text) : Text :=
  [' ', ' '] ++ id ++ " [label=\"".toList ++ Text.Quoted.escape type ++ "\"];".toList

/-- The edge between two nodes. -/
def edgeLine (parent id : Text) : Text :=
  [' ', ' '] ++ parent ++ " -> ".toList ++ id ++ [';']

/-- The lines of a node: its declaration and the edge to it. -/
def nodeLines (parent : Option Text) (id type : Text) : List Text :=
  match parent with
  | none => [declaration id type]
  | some parent => [declaration id type, edgeLine parent id]

/-- A tree that waits to be visited, with the identifier of its parent. -/
abbrev Pending := Shape × Option Text

def pendingSize (pending : List Pending) : Nat :=
  sizes (pending.map (·.1))

/-- The children of a node, to be visited under its identifier. -/
def waiting (parent : Text) (children : List Shape) : List Pending :=
  children.map fun child => (child, some parent)

theorem pendingSize_waiting_append (parent : Text) (children : List Shape) (rest : List Pending) :
    pendingSize (waiting parent children ++ rest) = sizes children + pendingSize rest := by
  simp [pendingSize, waiting, sizes_append, Function.comp_def]

/-- The lines of the trees that wait. Children wait in front of what waited before. -/
def visit (start : Text) (number : Nat) (pending : List Pending) : List Text :=
  match pending with
  | [] => []
  | (node type children, parent) :: rest =>
    let id := nodeId start number
    nodeLines parent id type ++
      visit start (number + 1) (waiting id children ++ rest)
termination_by pendingSize pending
decreasing_by
  rw [pendingSize_waiting_append]
  simp only [pendingSize, List.map_cons, sizes, size]
  omega

/-- The lines of a tree as graph text. -/
def dotLines (name start : Text) (shape : Shape) : List Text :=
  ("digraph ".toList ++ graphName name ++ [' ', '\x7b']) :: visit start 0 [(shape, none)] ++
    [['\x7d']]

/-- A tree as graph text, under a name and with identifiers that begin with `start`. -/
def toDot (name start : Text) (shape : Shape) : Text :=
  (dotLines name start shape).flatMap (· ++ ['\n'])

end DepView.Shape
