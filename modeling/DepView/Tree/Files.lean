import DepView.Artifact
import DepView.Json.Reader
import DepView.Session
import DepView.Tree.Live

/-!
The dumps of a syntax tree on disk: its expression, its JSON form and its graph text, named for
the source file. A JSON dump can be loaded again.
-/

namespace DepView

structure TreeFiles where
  source : Path
  textPath : Path
  jsonPath : Path
  dotPath : Path
deriving DecidableEq, Repr

namespace TreeFiles

/-- Where the dumps for a source file go. -/
def of (source directory : Path) : TreeFiles :=
  let place (suffix : String) : Path :=
    directory / ⟨[], [source.name ++ Artifact.treeMarker ++ suffix.toList]⟩
  { source, textPath := place ".txt", jsonPath := place ".json", dotPath := place ".dot" }

end TreeFiles

namespace SyntaxTree

def orShapeFault {α : Type} : Except ShapeFault α → Action α
  | .ok a => pure a
  | .error fault => throw (.shape fault)

/-- Writes the dumps of a tree for a source file. -/
def writeFiles (tree : SyntaxTree) (source directory : Path) : Action TreeFiles := do
  Action.ensureDir directory
  let files := TreeFiles.of source directory
  Action.writeText files.textPath tree.expression
  Action.writeText files.jsonPath (← orShapeFault (tree.toJson none)).indented
  Action.writeText files.dotPath (tree.toDot [] ['n'])
  return files

/-- Loads the tree of a JSON dump. One that is too much for the interpreter fails in its own way. -/
def load (path : Path) : Action Tree := do
  let unreadable (reason : Text) : Failure :=
    .missingArtifact path ("unreadable tree dump: ".toList ++ reason)
  let text ← Action.readText (fun fault => unreadable (fault.message path)) path
  match Json.load (← get).nesting text with
  | .error overrun => throw (.overrun overrun)
  | .ok (.error e) => throw (unreadable e.message)
  | .ok (.ok value) => orShapeFault (Tree.ofJson value)

end SyntaxTree

end DepView
