import DepView.Json.Basic
import DepView.Text.Utf8

/-!
The values of YAML documents, as far as somebody looks at them: what is nested too deeply is known
to be there and nothing more. Every JSON value is such a value.
-/

namespace DepView.Yaml

inductive Value where
  | null
  | bool (value : Bool)
  | int (value : Int)
  | num (value : Float)
  | text (value : Text)
  | bytes (value : Bytes)
  | date
  | list (items : List Value)
  | table (members : List (Text × Value))
  | deeper
deriving Inhabited

namespace Value

mutual

def ofJson : Json → Value
  | .null => null
  | .bool b => bool b
  | .int n => int n
  | .num x => num x
  | .str s => text s
  | .arr items => list (ofItems items)
  | .obj members => table (ofMembers members)

def ofItems : List Json → List Value
  | [] => []
  | item :: rest => ofJson item :: ofItems rest

def ofMembers : List (Text × Json) → List (Text × Value)
  | [] => []
  | (name, value) :: rest => (name, ofJson value) :: ofMembers rest

end

/-- The member of a table under a literal name. -/
def member? (name : String) : Value → Option Value
  | table members => Table.find? members name.toList
  | _ => none

/-- What counts as false: null, zero and everything empty. -/
def isTrue : Value → Bool
  | null => false
  | bool b => b
  | int n => n != 0
  | num x => x != 0.0
  | text s => !s.isEmpty
  | bytes b => !b.isEmpty
  | date => true
  | list items => !items.isEmpty
  | table members => !members.isEmpty
  | deeper => true

end Value

end DepView.Yaml
