import DepView.Command.Catalog
import DepView.Command.Page
import DepView.Text.Word

/-!
What a command line orders: a help page, the version, a task, or nothing because something is
wrong with it. A wish for help or the version goes before all faults but those that keep the line
from being read.
-/

namespace DepView.Command

inductive Order where
  /-- A help page. It is an error to ask for nothing at all. -/
  | page (lines : List Text) (isError : Bool)
  | version
  | misuse (form : Form) (fault : UsageFault)
  | task (task : Task) (verbose : Bool)
deriving DecidableEq, Repr

namespace Order

def isHelp (g : Given) : Bool :=
  g.switch == .help

/-- The order that the words behind the name of a command give. -/
def ofCommand (store : Store) (c : Command) (words : List Text) : Order :=
  match Line.read c.form true words with
  | .error fault => .misuse c.form fault
  | .ok line =>
    if line.given.any isHelp then .page (c.form.page []) false
    else match (Values.ofLine store c.form line).bind fun v => (c.task v).map fun t => (t, v) with
      | .error fault => .misuse c.form fault
      | .ok (wanted, v) => .task wanted (v.has "--verbose")

/-- The help page of the program. -/
def programPage : List Text :=
  programForm.page (all.map fun c => (c.name.toList, c.summary))

/-- What the options of the program itself ask for, or the words behind them. -/
def ofOptions (words : List Text) : Order ⊕ List Text :=
  match Line.read programForm false words with
  | .error fault => .inl (.misuse programForm fault)
  | .ok line =>
    match line.given with
    | g :: _ => .inl (if isHelp g then .page programPage false else .version)
    | [] => .inr line.words

/-- Whether a word looks like an option, whatever its first character is. -/
def isOdd (word : Text) : Bool :=
  match word with
  | [] => false
  | c :: _ => c == '_' || !Text.isWord c

/-- The order for a word that names no command. It may be an option behind two dashes. -/
def ofUnknown (name : Text) (rest : List Text) : Order :=
  let unknown : Order :=
    .misuse programForm (.unknownCommand name (Text.nearest name (all.map (·.name.toList))))
  if isOdd name then
    match ofOptions (name :: rest) with
    | .inl order => order
    | .inr _ => unknown
  else unknown

/-- The order that the words of a command line give. -/
def ofWords (store : Store) (words : List Text) : Order :=
  if words.isEmpty then .page programPage true
  else match ofOptions words with
    | .inl order => order
    | .inr [] => .misuse programForm .commandMissing
    | .inr (name :: rest) =>
      match ofName? name with
      | some c => ofCommand store c rest
      | none => ofUnknown name rest

end Order

end DepView.Command
