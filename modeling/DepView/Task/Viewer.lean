import DepView.Command.Catalog
import DepView.Page.Config
import DepView.Settings.File
import DepView.Task.Report
import DepView.Text.Percent
import DepView.Yaml.Content

/-!
The tasks that show a graph: a page that holds it, and the viewer's server for the directory that
it is in.
-/

namespace DepView

/-- What the program finds around it. -/
structure Host where
  tools : Tools
  environment : Text → Option Text

def Host.settings (host : Host) (config : Option Path) : Action Settings :=
  Settings.load Yaml.read host.environment config

/-- The port to serve on. Port zero leaves the choice to the settings. -/
def Viewing.portOr (v : Viewing) (settings : Settings) : Int :=
  match v.port with
  | none | some 0 => settings.port
  | some port => port

namespace Task

def isUrlSafe (c : Char) : Bool :=
  c.isAlphanum || "-._~/".toList.contains c

/-- The URL of a place. -/
def fileUrl (place : Place) : Text :=
  "file://".toList ++ Text.Percent.encode isUrlSafe place.toPath.toText

/-- Writes a page that holds the radial layout of a graph. -/
def writePage (host : Host) (dot output : Path) (config : Option Path) : Action Ending :=
  withGraphText dot fun text => do
    let settings ← host.settings config
    let layout := Layout.radial settings.radial (Graph.ofText text)
    Action.writeText output (Page.render (Page.Config.of dot.name (some layout)).toJson)
    Console.success ("Generated: ".toList ++ output.toText)
    Console.detail ("Open: ".toList ++ fileUrl (← Action.resolved output))
    return .done

def viewerUrl (port : Int) (dot : Text) : Text :=
  "http://localhost:".toList ++ (toString port).toList ++ "/?dot=".toList ++ dot

/-- Serves a directory until it is stopped. The browser opens a moment later, if it is to. -/
def listen (directory : Path) (dot : Text) (port : Int) (openBrowser : Bool) : Action Ending := do
  let url := viewerUrl port dot
  Action.note .info .server ("Visualizer available at ".toList ++ url)
  if openBrowser then
    Action.announce (.timer 1.0)
    Action.announce (.browser url)
  Action.announce (.listen port dot (← Action.askFiles (·.settle directory)))
  return .done

/-- Serves the directory of a graph file. -/
def serveDot (host : Host) (dot : Path) (config : Option Path) (viewing : Viewing) :
    Action Ending := do
  if !(← Action.askFiles (·.isFile dot)) then
    Ending.giveUp ("Graph file not found: ".toList ++ dot.toText)
  else
    let settings ← host.settings config
    let port := viewing.portOr settings
    Console.detail ("Visualizer available at ".toList ++ viewerUrl port dot.name)
    listen dot.parent dot.name port (settings.openBrowser && viewing.openBrowser)

end Task

end DepView
