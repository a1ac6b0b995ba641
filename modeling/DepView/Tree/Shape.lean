import DepView.Text.Basic

/-!
The shape of a syntax tree: at each node its type and its children in order.
-/

namespace DepView

inductive Shape where
  | node (type : Text) (children : List Shape)
deriving Inhabited

namespace Shape

def type : Shape → Text
  | node type _ => type

def children : Shape → List Shape
  | node _ children => children

mutual

/-- The number of nodes. -/
def size : Shape → Nat
  | node _ children => 1 + sizes children

/-- The number of nodes of several trees. -/
def sizes : List Shape → Nat
  | [] => 0
  | shape :: rest => size shape + sizes rest

end

mutual

/-- The types of all nodes, each before those of its children. -/
def preorder : Shape → List Text
  | node type children => type :: preorders children

def preorders : List Shape → List Text
  | [] => []
  | shape :: rest => preorder shape ++ preorders rest

end

mutual

/-- The number of edges on a longest way down. -/
def height : Shape → Nat
  | node _ children => heights children

/-- The same for a node with the given children. -/
def heights : List Shape → Nat
  | [] => 0
  | shape :: rest => max (height shape + 1) (heights rest)

end

/-- `n + 1` nodes of one type in a line. -/
def chain (type : Text) : Nat → Shape
  | 0 => node type []
  | n + 1 => node type [chain type n]

theorem sizes_append (xs ys : List Shape) : sizes (xs ++ ys) = sizes xs + sizes ys := by
  induction xs with
  | nil => simp [sizes]
  | cons x xs ih => simp [sizes, ih, Nat.add_assoc]

end Shape

end DepView
