import DepView.Command.Line
import DepView.Decimal.Typed
import DepView.Store.Basic

/-!
The values of a command line that fits its form: each operand is there and is what it has to be,
and so is the value of each option. The last value of an option counts.
-/

namespace DepView.Command

structure Values where
  given : List Given
  operands : List Text
deriving DecidableEq, Repr

/-- Checks what is at the place of a path. Nothing needs to be there. -/
def checkPath (store : Store) (hint : Text) (kind : ValueKind) (value : Text) :
    Except UsageFault Unit :=
  match kind, store.findWritten value with
  | .file, .ok .dir => .error (.isDirectory hint value)
  | .directory, .ok (.file _) => .error (.isFile hint value)
  | _, .error fault => if fault.isOfText then .error (.refusedPath fault) else .ok ()
  | _, _ => .ok ()

/-- Checks a value against its kind. -/
def checkValue (store : Store) (hint : Text) (kind : ValueKind) (value : Text) :
    Except UsageFault Unit :=
  match kind with
  | .text => .ok ()
  | .integer =>
    if (Decimal.typedInt? value).isSome then .ok () else .error (.notInteger hint value)
  | .path | .file | .directory => checkPath store hint kind value

/-- The last value that an option was given. -/
def lastValue? (given : List Given) (switch : Switch) : Option Text :=
  (given.reverse.find? (·.switch == switch)).map (·.value)

/-- Checks the values of the options, in the order in which the options were met first. -/
def checkGiven (store : Store) (given : List Given) : Except UsageFault Unit :=
  (given.map (·.switch)).eraseDups.forM fun switch =>
    match switch.kind, lastValue? given switch with
    | some kind, some value => checkValue store switch.hint kind value
    | _, _ => .ok ()

/-- Checks the operands, each of which has to be there. No word may be left. -/
def checkOperands (store : Store) : List Operand → List Text → Except UsageFault Unit
  | [], [] => .ok ()
  | [], words => .error (.operandsLeft words)
  | operand :: _, [] => .error (.operandMissing operand.name)
  | operand :: operands, word :: words => do
    checkValue store ('\'' :: operand.name ++ ['\'']) operand.kind word
    checkOperands store operands words

namespace Values

/-- The values of a command line, if they are what the form asks for. -/
def ofLine (store : Store) (f : Form) (line : Line) : Except UsageFault Values := do
  checkGiven store line.given
  checkOperands store f.operands line.words
  return ⟨line.given, line.words⟩

/-- Whether an option was given. -/
def has (v : Values) (name : String) : Bool :=
  v.given.any (·.switch.names.contains name.toList)

/-- The value of an option. The last one counts. -/
def value? (v : Values) (name : String) : Option Text :=
  (v.given.reverse.find? (·.switch.names.contains name.toList)).map (·.value)

def path? (v : Values) (name : String) : Option Path :=
  (v.value? name).map Path.ofText

def operand (v : Values) (n : Nat) : Text :=
  v.operands.getD n []

def path (v : Values) (n : Nat) : Path :=
  Path.ofText (v.operand n)

end Values

end DepView.Command
