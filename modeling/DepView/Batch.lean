import DepView.Dependency.Analyzer
import DepView.Dependency.Conversion
import DepView.Settings.Basic
import DepView.Tree.Sources

/-!
The batch run: the analyzer and the conversion of its output first, then the dumps of the syntax
trees. Either stage can be left out. A stage that fails ends the run.
-/

namespace DepView

/-- What a batch run works with. -/
structure Tools where
  analyzer : Analyzer
  grammars : Option Grammars

namespace Batch

structure Request where
  language : Text
  source : Path
  directory : Path
  onlyTrees : Bool
  onlyDependencies : Bool
deriving DecidableEq, Repr

structure Result where
  conversion : Option Dependency.Report
  trees : List TreeFiles

def analyzerRequest (settings : Settings) (r : Request) : Analyzer.Request where
  language := r.language
  source := r.source
  directory := r.directory
  jar := settings.dependsJar
  java := settings.java
  outputName := settings.outputName

/-- Analyzes the sources and converts the output. What comes later relies on the converted graph,
so it has to be there. -/
def dependencies (analyzer : Analyzer) (settings : Settings) (r : Request) :
    Action Dependency.Report := do
  let dot ← analyzer.analyze (analyzerRequest settings r)
  let report ← Dependency.convert dot
  let _ ← Analyzer.findDot r.directory (settings.outputName ++ Artifact.convertedMarker)
  return report

def run (tools : Tools) (settings : Settings) (r : Request) : Action Result := do
  Action.ensureDir r.directory
  let conversion ←
    if r.onlyTrees then pure none
    else do
      Action.note .info .pipeline "Running dependency analysis".toList
      some <$> dependencies tools.analyzer settings r
  let trees ←
    if r.onlyDependencies then pure []
    else do
      Action.note .info .pipeline "Running tree-sitter on source files".toList
      Sources.dumpAll tools.grammars r.source r.directory r.language
  return ⟨conversion, trees⟩

end Batch

end DepView
