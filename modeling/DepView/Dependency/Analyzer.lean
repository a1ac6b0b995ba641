import DepView.Artifact
import DepView.Session

/-!
The analyzer is a program of its own that finds the dependencies between source files. It is
called with a language, the sources, a directory and a name, and leaves a graph file and a side
file of that name in the directory.
-/

namespace DepView

/-- A program that can be started: whether it is there, and what a call of it leaves behind. A
call that could not be started gives the reason, any other an exit code and the files. -/
structure Analyzer where
  isInstalled : Text → Bool
  run : List Text → Store → Except Text (Int × Store)

namespace Analyzer

def toolName : Text := "depends".toList

/-- What to analyze, and how to call the analyzer for it. -/
structure Request where
  language : Text
  source : Path
  directory : Path
  jar : Path
  java : Text
  outputName : Text
deriving DecidableEq, Repr

def Request.command (r : Request) : List Text :=
  [r.java, "-jar".toList, r.jar.toText, "-d".toList, r.directory.toText, "-f".toList, "dot".toList,
   "-f".toList, "json".toList, r.language, r.source.toText, r.outputName]

def toolFailed (reason : Text) (exitCode : Option Int) : Failure :=
  .toolFailed toolName reason exitCode

/-- The path of a graph file that has to be there. -/
def findDot (directory : Path) (name : Text) : Action Path := do
  let dot := directory / Path.ofText (name ++ ".dot".toList)
  if ← Action.askFiles (·.isFile dot) then return dot
  else throw (.missingArtifact dot "no .dot file found in output".toList)

/-- Starts the analyzer and waits for it. -/
def start (analyzer : Analyzer) (command : List Text) : Action Unit := do
  Action.note .info .analyzer ("Running depends.jar: ".toList ++ Text.join [' '] command)
  Action.announce (.tool command)
  match analyzer.run command (← get).store with
  | .error reason => throw (toolFailed reason none)
  | .ok (code, store) =>
    modify fun s => { s with store }
    if code != 0 then
      throw (toolFailed ("exited with code ".toList ++ (toString code).toList) (some code))

/-- Runs the analyzer. The result is the graph file that it wrote. -/
def analyze (analyzer : Analyzer) (r : Request) : Action Path := do
  Action.ensureDir r.directory
  if !analyzer.isInstalled r.java then
    throw (toolFailed ("java executable not found: ".toList ++ r.java) none)
  if !(← Action.askFiles (·.hasPath r.jar)) then
    throw (toolFailed ("jar not found: ".toList ++ r.jar.toText) none)
  analyzer.start r.command
  findDot r.directory r.outputName

end Analyzer

end DepView
