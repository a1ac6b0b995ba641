import DepView.Command.Order
import DepView.Task.Dump
import DepView.Task.Viewer

/-!
Running what a command line orders, from the words of the line to the exit code.
-/

namespace DepView

namespace Task

/-- Says what became of the analyzer's output. -/
def tellConversion (report : Dependency.Report) : Action Unit := do
  Console.success ("DOT ids converted → ".toList ++ report.convertedDot.toText)
  match report.convertedJson, report.sideFileError with
  | some json, _ => Console.detail ("JSON converted → ".toList ++ json.toText)
  | none, some fault => Console.warning ("JSON side file skipped: ".toList ++ fault.message)
  | none, none => pure ()

/-- Serves the converted graph of a batch, if there is one. -/
def serveResult (settings : Settings) (viewing : Viewing) (result : Batch.Result) :
    Action Ending :=
  match result.conversion with
  | none => Ending.giveUp "No DOT file found to visualize.".toList
  | some report =>
    listen report.convertedDot.parent report.convertedDot.name (viewing.portOr settings)
      (settings.openBrowser && viewing.openBrowser)

def runBatch (host : Host) (request : Batch.Request) (config : Option Path)
    (viewing : Option Viewing) : Action Ending := do
  let settings ← host.settings config
  Ending.orTold "Error: " (Batch.run host.tools settings request) fun result => do
    if let some report := result.conversion then tellConversion report
    if !request.onlyDependencies then
      Console.success ("Tree-sitter output for ".toList ++ Decimal.digits result.trees.length ++
        " file(s) written to ".toList ++ request.directory.toText)
    match viewing with
    | none => return .done
    | some viewing => serveResult settings viewing result

def run (host : Host) : Task → Action Ending
  | convert dot => convertDot dot
  | page dot output config => writePage host dot output config
  | inspect dot asJson => report dot asJson
  | batch request config viewing => runBatch host request config viewing
  | serve dot config viewing => serveDot host dot config viewing
  | trees source directory language => dumpTrees host.tools.grammars source directory language

end Task

namespace Command.Order

def run (host : Host) : Order → Action Ending
  | page lines isError => do
    lines.forM (if isError then Action.complain else Action.say)
    return if isError then .failed else .done
  | version => do
    Action.say (programName ++ ", version ".toList ++ Command.version)
    return .done
  | misuse _ (.refusedPath fault) => throw (.file fault)
  | misuse form fault => do
    (form.complaint fault).forM Action.complain
    return .failed
  | task wanted verbose => do
    modify fun s => { s with verbose }
    wanted.run host

end Command.Order

/-- Runs the words of a command line. -/
def runWords (host : Host) (words : List Text) : Action Ending := do
  (Command.Order.ofWords (← get).store words).run host

end DepView
