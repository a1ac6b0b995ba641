import DepView.Dependency.Conversion
import DepView.Task.Ending
import DepView.Tree.Sources

/-!
The tasks that write artifacts: the converted form of a graph file, and the dumps of syntax trees.
-/

namespace DepView.Task

/-- Converts a graph file and its side file. -/
def convertDot (dot : Path) : Action Ending :=
  Ending.orTold "Failed to convert DOT file: " (Dependency.convert dot) fun report => do
    Console.success ("DOT ids converted → ".toList ++ report.convertedDot.toText)
    Console.detail (Decimal.digits report.labelsResolved ++ " labels resolved".toList)
    match report.convertedJson, report.sideFileError with
    | some json, _ => Console.success ("JSON converted → ".toList ++ json.toText)
    | none, some fault =>
      Console.warning ("JSON file not found or failed to convert: ".toList ++ fault.message)
    | none, none => pure ()
    return .done

/-- What the name of a JSON dump ends with. -/
def dumpEnding : Text :=
  Artifact.treeMarker ++ ".json".toList

/-- Writes the dumps anew from a JSON dump, for the source file that it is named for. -/
def renewDump (source directory : Path) (name : Text) : Action TreeFiles := do
  let tree ← SyntaxTree.load source
  let sourceName ← Action.withName source name
  SyntaxTree.writeFiles (.stored tree) sourceName directory

/-- Writes the dumps for the sources at a path, or for a JSON dump. -/
def treesOf (grammars : Option Grammars) (source directory : Path) (language : Text) :
    Action (List TreeFiles) := do
  match Text.before? dumpEnding source.name with
  | some name => return [← renewDump source directory name]
  | none => Sources.dumpAll grammars source directory language

def dumpTrees (grammars : Option Grammars) (source directory : Path) (language : Text) :
    Action Ending :=
  Ending.orTold "Error: " (treesOf grammars source directory language) fun written => do
    for files in written do
      Console.detail files.dotPath.toText
    Console.success ("Tree output for ".toList ++ Decimal.digits written.length ++
      " file(s) written to ".toList ++ directory.toText)
    return .done

end DepView.Task
