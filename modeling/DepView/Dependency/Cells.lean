import DepView.Dependency.Label
import DepView.Json.Literal
import DepView.Log

/-!
The side file of a graph: a list of variables, and cells that refer to variables by index. Only
the variables are converted, each to its last path segment, so every index keeps its meaning.
A cell that refers outside the variables is kept, and the log warns of it.
-/

namespace DepView.Dependency

open Text

/-- Why a value cannot be converted. -/
inductive CellFault where
  | notRecord
  | notIterable
  | notPairs
  | badPair
deriving DecidableEq, Repr

/-- The items that a value yields one by one: those of a list, the names of an object and the
characters of a text. -/
def itemsOf : Json → Except CellFault (List Json)
  | .arr items => .ok items
  | .obj members => .ok (members.map fun m => .str m.1)
  | .str s => .ok (s.map fun c => .str [c])
  | _ => .error .notIterable

/-- The name under which a value becomes a member of an object. Lists and objects cannot. -/
def memberName? : Json → Option Text
  | .str s => some s
  | .arr _ => none
  | .obj _ => none
  | value => some (Json.writeAtom value)

/-- The sign and the size of a number. Truth values are numbers here. -/
def number? : Json → Option (Bool × Decimal.Magnitude)
  | .int n => some (n < 0, .finite n.natAbs 0)
  | .bool b => some (false, .finite b.toNat 0)
  | .num x => some (Decimal.parts x)
  | _ => none

/-- Whether two numbers are the same. What is no number is the same as itself. -/
def sameNumber : Bool × Decimal.Magnitude → Bool × Decimal.Magnitude → Bool
  | (s, .finite m p), (t, .finite n q) =>
    (s == t || m == 0) &&
      m * Nat.pow 2 (p - min p q).toNat == n * Nat.pow 2 (q - min p q).toNat
  | (s, .infinite), (t, .infinite) => s == t
  | (_, .nan), (_, .nan) => true
  | _, _ => false

/-- Whether two values name the same member: numbers and truth values by their value. -/
def sameName : Json → Json → Bool
  | .str s, .str t => s == t
  | .null, .null => true
  | a, b =>
    match number? a, number? b with
    | some x, some y => sameNumber x y
    | _, _ => false

/-- Writes a member among others. The first spelling of its name stays. -/
def insertMember (name value : Json) : List (Json × Json) → List (Json × Json)
  | [] => [(name, value)]
  | (n, v) :: rest =>
    if sameName n name then (n, value) :: rest else (n, v) :: insertMember name value rest

/-- A name and a value out of the two items of a value. -/
def pairOf (item : Json) : Except CellFault (Json × Json) :=
  match itemsOf item with
  | .error _ => .error .notPairs
  | .ok [name, value] => if (memberName? name).isNone then .error .notPairs else .ok (name, value)
  | .ok _ => .error .badPair

/-- A cell as an object. A list of pairs is one, too. -/
def cellOf : Json → Except CellFault Json
  | .obj members => .ok (.obj members)
  | value => do
    let items ← itemsOf value
    let pairs ← items.mapM pairOf
    let members := pairs.foldl (fun ms pair => insertMember pair.1 pair.2 ms) []
    return .obj (members.map fun (name, value) => ((memberName? name).getD [], value))

/-- A whole number that is an index into a list of `size` items. -/
def isIndex (size : Nat) : Json → Bool
  | .int n => 0 ≤ n && n < size
  | _ => false

/-- The warning about an end of a cell that refers to no variable. -/
def strayEnd (size position : Nat) (key : String) (found : Json) : Log.Entry where
  level := .warning
  topic := .cells
  message := "Cell ".toList ++ Decimal.digits position ++ " has out-of-range ".toList ++
    key.toList ++ " index ".toList ++ found.literal ++ " (".toList ++ Decimal.digits size ++
    " variables)".toList

/-- The warnings about one cell. -/
def cellWarnings (size position : Nat) (cell : Json) : Log :=
  ["src", "dest"].flatMap fun key =>
    let found := (cell.member? key).getD .null
    if isIndex size found then [] else [strayEnd size position key found]

/-- Converts the record of a side file. -/
def convertCells : Json → Except CellFault (Json × Log)
  | .obj members => do
    let known ← itemsOf ((Table.find? members "variables".toList).getD (.arr []))
    let names := known.map fun v => Json.str (basename v.plain)
    let cells ← itemsOf ((Table.find? members "cells".toList).getD (.arr []))
    let cells ← cells.mapM cellOf
    let log := cells.zipIdx.flatMap fun (cell, position) => cellWarnings names.length position cell
    let converted := Table.insert "cells".toList (.arr cells)
      (Table.insert "variables".toList (.arr names) members)
    return (.obj converted, log)
  | _ => .error .notRecord

/-- Why a record is no side file. -/
inductive ShapeFault where
  | notObject
  | noVariables
  | cellsNotList
  | cellNotObject
deriving DecidableEq, Repr

def ShapeFault.message : ShapeFault → String
  | notObject => "expected a JSON object"
  | noVariables => "missing 'variables' list"
  | cellsNotList => "'cells' must be a list"
  | cellNotObject => "every cell must be an object"

def isObject : Json → Bool
  | .obj _ => true
  | _ => false

/-- Checks that a value is an object with a list of variables and, if it has cells, a list of
objects. -/
def checkShape (value : Json) : Except ShapeFault Unit :=
  match value with
  | .obj _ =>
    match value.member? "variables", (value.member? "cells").getD (.arr []) with
    | some (.arr _), .arr cells => if cells.all isObject then .ok () else .error .cellNotObject
    | some (.arr _), _ => .error .cellsNotList
    | _, _ => .error .noVariables
  | _ => .error .notObject

end DepView.Dependency
