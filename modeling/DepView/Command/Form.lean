import DepView.Text.Basic

/-!
The form of a command line: the operands that a command takes, in their order, and its options. An
option is written as one of its names, and takes a value if it has a kind of value.
-/

namespace DepView.Command

/-- What a value has to be. A file is a path that does not lead to a directory, and the other way
round; neither has to be there. -/
inductive ValueKind where
  | text
  | integer
  | path
  | file
  | directory
deriving DecidableEq, Repr

def ValueKind.name : ValueKind → String
  | text => "TEXT"
  | integer => "INTEGER"
  | path => "PATH"
  | file => "FILE"
  | directory => "DIRECTORY"

structure Operand where
  name : Text
  kind : ValueKind
deriving DecidableEq, Repr

structure Switch where
  names : List Text
  kind : Option ValueKind
  about : Text
deriving DecidableEq, Repr

structure Form where
  /-- The words that call the command. -/
  call : Text
  operands : List Operand
  switches : List Switch
  about : List Text
deriving DecidableEq, Repr

/-- A name of two characters can be joined with others behind one dash. -/
def isShort (name : Text) : Bool :=
  name.length == 2

namespace Switch

def flag (names : List String) (about : String) : Switch :=
  ⟨names.map String.toList, none, about.toList⟩

def valued (names : List String) (kind : ValueKind) (about : String) : Switch :=
  ⟨names.map String.toList, some kind, about.toList⟩

def help : Switch :=
  flag ["--help"] "Show this message and exit."

/-- The names as an error shows them. -/
def hint (s : Switch) : Text :=
  Text.join " / ".toList (s.names.map fun name => '\'' :: name ++ ['\''])

/-- The names, and the kind of its value, as the help page shows them. -/
def heading (s : Switch) : Text :=
  Text.join [',', ' '] s.names ++ match s.kind with
    | none => []
    | some kind => ' ' :: kind.name.toList

end Switch

namespace Form

/-- The option with a name. -/
def switch? (f : Form) (name : Text) : Option Switch :=
  f.switches.find? (·.names.contains name)

def longNames (f : Form) : List Text :=
  (f.switches.flatMap (·.names)).filter (!isShort ·)

/-- One line that says how the command is called. -/
def usage (f : Form) : Text :=
  "Usage: ".toList ++ Text.join [' '] (f.call :: "[OPTIONS]".toList :: f.operands.map (·.name))

end Form

end DepView.Command
