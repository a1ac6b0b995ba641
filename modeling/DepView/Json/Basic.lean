import DepView.Table

/-!
JSON values. Members of an object keep their order, and a number knows whether it was written as
a whole one.
-/

namespace DepView

inductive Json where
  | null
  | bool (value : Bool)
  | int (value : Int)
  | num (value : Float)
  | str (value : Text)
  | arr (items : List Json)
  | obj (members : List (Text × Json))
deriving Inhabited

namespace Json

/-- Text from a literal. -/
def ofString (s : String) : Json :=
  .str s.toList

def ofNat (n : Nat) : Json :=
  .int n

/-- A list of texts. -/
def ofTexts (texts : List Text) : Json :=
  .arr (texts.map .str)

/-- A text, or null. -/
def ofText? (text : Option Text) : Json :=
  (text.map .str).getD .null

/-- An object with members under literal names. -/
def record (members : List (String × Json)) : Json :=
  .obj (members.map fun (name, value) => (name.toList, value))

/-- The member of an object under a literal name. -/
def member? (name : String) : Json → Option Json
  | .obj members => Table.find? members name.toList
  | _ => none

/-- What counts as false: null, zero and everything empty. -/
def isTrue : Json → Bool
  | .null => false
  | .bool b => b
  | .int n => n != 0
  | .num x => x != 0.0
  | .str s => !s.isEmpty
  | .arr items => !items.isEmpty
  | .obj members => !members.isEmpty

end Json

end DepView
