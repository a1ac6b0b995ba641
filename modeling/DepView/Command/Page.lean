import DepView.Command.Form

/-!
The help page of a command: its usage, what it does, and its options. The page of the program has
a list of its commands too.
-/

namespace DepView.Command

def indent (line : Text) : Text :=
  if line.isEmpty then [] else ' ' :: ' ' :: line

/-- A titled list of terms, with what they mean in a second column. -/
def block (title : String) (rows : List (Text × Text)) : List Text :=
  let width := (rows.map (·.1.length)).foldl max 0
  [] :: title.toList :: rows.map fun (term, meaning) =>
    indent (term ++ List.replicate (width - term.length + 2) ' ' ++ meaning)

/-- The lines of the help page, with the commands that there are to choose from. -/
def Form.page (f : Form) (commands : List (Text × Text)) : List Text :=
  f.usage :: [] :: f.about.map indent ++
    block "Options:" (f.switches.map fun s => (s.heading, s.about)) ++
    if commands.isEmpty then [] else block "Commands:" commands

end DepView.Command
