import DepView.Console.Grid
import DepView.Graph.Parser
import DepView.Graph.Record
import DepView.Task.Ending

/-!
The task that reports on a graph file: its dialect and its figures, as a grid or as JSON. The grid
shows the first few roots and orphans.
-/

namespace DepView.Task

/-- Reads a graph file, where bytes that are no text are replaced. A file that cannot be read ends
the task. -/
def withGraphText (dot : Path) (next : Text → Action Ending) : Action Ending := do
  match (← get).store.read dot with
  | .ok bytes => next (Text.foldNewlines (Text.Utf8.decodeLossy bytes))
  | .error fault =>
    if fault.isOfText then throw (.file fault)
    Ending.giveUp ("Graph file not found: ".toList ++ dot.toText ++ " (".toList ++
      fault.message dot ++ [')'])

/-- The first ten names, or a dash if there is none. -/
def firstNames (names : List Text) : Text :=
  match Text.join [',', ' '] (names.take 10) with
  | [] => ['-']
  | text => text

def figures (dialect : Dialect) (stats : Stats) : List (Text × Text) :=
  [("Dialect", dialect.name.toList),
   ("Nodes", Decimal.digits stats.totalNodes),
   ("Edges", Decimal.digits stats.totalEdges),
   ("Roots", firstNames stats.roots),
   ("Orphans", firstNames stats.orphans),
   ("Acyclic", if stats.isDag then "yes".toList else "no".toList),
   ("Depth", Decimal.digits stats.depth)].map fun (label, value) => (label.toList, value)

def reportJson (dialect : Dialect) (g : Graph) : Json :=
  .record (("dialect", .ofString dialect.name) :: g.stats.members ++ g.members)

def report (dot : Path) (asJson : Bool) : Action Ending :=
  withGraphText dot fun text => do
    let (dialect, g) := Graph.read text
    if asJson then Action.say (reportJson dialect g).compact
    else
      match Console.Grid.draw ⟨dot.toText, figures dialect g.stats⟩ with
      | .error .noNumber => throw .badColor
      | .error _ => throw .badMarkup
      | .ok lines =>
        lines.forM Action.print
        if g.isEmpty then Action.print "No nodes or edges recognised.".toList
    return .done

end DepView.Task
