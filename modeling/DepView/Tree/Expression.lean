import DepView.Tree.Basic

/-!
A tree as an expression in parentheses. Only named and missing nodes appear. A missing node is
marked as such, and one that is not named is shown between quotes then. A child stands behind
the name its parent has for it.
-/

namespace DepView.Tree

/-- What stands for a node itself. -/
def expressionLabel (info : NodeInfo) : Text :=
  if info.isMissing then
    if info.isNamed then "MISSING ".toList ++ info.type
    else "MISSING \"".toList ++ info.type ++ ['"']
  else info.type

/-- The name of a child, if it has one, and a colon. -/
def fieldMark (info : NodeInfo) : Text :=
  match info.field with
  | some field => field.plain ++ [':', ' ']
  | none => []

mutual

def expression : Tree → Text
  | node info children => '(' :: expressionLabel info ++ expressionParts children ++ [')']

/-- The children that appear, each behind a blank. -/
def expressionParts : List Tree → Text
  | [] => []
  | node info children :: rest =>
    if info.isNamed || info.isMissing then
      ' ' :: fieldMark info ++ expression (node info children) ++ expressionParts rest
    else expressionParts rest

end

end DepView.Tree
