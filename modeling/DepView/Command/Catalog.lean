import DepView.Batch
import DepView.Command.Values

/-!
The commands of the program, each with its form, and the tasks that they ask for.
-/

namespace DepView

inductive Command where
  | convert
  | page
  | inspect
  | batch
  | serve
  | trees
deriving DecidableEq, Repr

namespace Command

/-- The commands in the order of their names. -/
def all : List Command :=
  [convert, page, inspect, batch, serve, trees]

def programName : Text := "dtsviz".toList

def version : Text := "0.1.0".toList

def name : Command → String
  | convert => "convert"
  | page => "export"
  | inspect => "inspect"
  | batch => "run"
  | serve => "serve"
  | trees => "tree"

def ofName? (name : Text) : Option Command :=
  all.find? (·.name.toList == name)

/-- What a command does. The first line is its summary. -/
def about : Command → List String
  | convert =>
    ["Replace numeric ids in DOT_FILE with file names.", "",
     "Writes <name>.converted.dot, and <name>.converted.json when a matching",
     "<name>.json side file exists."]
  | page => ["Lay out DOT_FILE radially and embed it in a self-contained page."]
  | inspect => ["Parse DOT_FILE and print its dialect and structure."]
  | batch =>
    ["Analyze SOURCE and write graph artifacts to OUTPUT_DIR.", "",
     "Example:",
     "  dtsviz run python ./src ./out --web"]
  | serve =>
    ["Serve DOT_FILE and its directory in the viewer.", "",
     "Tree artifacts in the same directory are loaded when a node is clicked."]
  | trees =>
    ["Write .tree.txt, .tree.json and .tree.dot for SOURCE.", "",
     "SOURCE may also be an existing .tree.json dump, which is re-serialized",
     "without needing a grammar."]

def summary (c : Command) : Text :=
  (c.about.headD "").toList

def dotFile : Operand := ⟨"DOT_FILE".toList, .file⟩

def outputDir : Operand := ⟨"OUTPUT_DIR".toList, .directory⟩

def source : Operand := ⟨"SOURCE".toList, .path⟩

def operands : Command → List Operand
  | convert | page | inspect | serve => [dotFile]
  | batch => [⟨"LANGUAGE".toList, .text⟩, source, outputDir]
  | trees => [source, outputDir]

def verbose : Switch :=
  .flag ["-v", "--verbose"] "Show detailed output"

def config : Switch :=
  .valued ["--config"] .file "Settings file (default: .dtsviz/config.yaml)"

def switches : Command → List Switch
  | convert => [verbose, .help]
  | page => [.valued ["-o", "--output"] .path "Output HTML file", config, .help]
  | inspect => [.flag ["--json"] "Output as JSON", .help]
  | batch =>
    [.flag ["--web"] "Serve the viewer when the batch finishes",
     .valued ["--port"] .integer "Viewer port (default: 3000)",
     .flag ["--only-tree-sitter"] "Skip depends.jar",
     .flag ["--only-depends"] "Skip tree-sitter",
     .flag ["--no-browser"] "Do not open a browser with --web",
     config, verbose, .help]
  | serve =>
    [.valued ["--port"] .integer "Port (default: 3000)",
     .flag ["--no-browser"] "Do not open a browser",
     config, verbose, .help]
  | trees =>
    [.valued ["-l", "--language"] .text "tree-sitter grammar  [default: python]", verbose, .help]

/-- The form of a command. -/
def form (c : Command) : Form where
  call := programName ++ ' ' :: c.name.toList
  operands := c.operands
  switches := c.switches
  about := c.about.map String.toList

/-- The form of the program itself, which takes a command and what belongs to it. -/
def programForm : Form where
  call := programName
  operands := [⟨"COMMAND".toList, .text⟩, ⟨"[ARGS]...".toList, .text⟩]
  switches := [.flag ["--version"] "Show the version and exit.", .help]
  about := ["dtsviz: dependency and syntax tree graph viewer.", "",
    "Quick Start:",
    "  dtsviz run python ./src ./out --web",
    "  dtsviz convert out/depends-output-file.dot",
    "  dtsviz serve out/depends-output-file.converted.dot"].map String.toList

end Command

/-- How the viewer is to be served. -/
structure Viewing where
  port : Option Int
  openBrowser : Bool
deriving DecidableEq, Repr

/-- What the program is asked to do. -/
inductive Task where
  | convert (dot : Path)
  | page (dot output : Path) (config : Option Path)
  | inspect (dot : Path) (asJson : Bool)
  | batch (request : Batch.Request) (config : Option Path) (viewing : Option Viewing)
  | serve (dot : Path) (config : Option Path) (viewing : Viewing)
  | trees (source directory : Path) (language : Text)
deriving DecidableEq, Repr

namespace Command

def viewingOf (v : Values) : Viewing where
  port := (v.value? "--port").bind Decimal.typedInt?
  openBrowser := !v.has "--no-browser"

def batchOf (v : Values) : Batch.Request where
  language := v.operand 0
  source := v.path 1
  directory := v.path 2
  onlyTrees := v.has "--only-tree-sitter"
  onlyDependencies := v.has "--only-depends"

/-- The task that the values of a command ask for. A batch cannot leave out both of its stages. -/
def task (v : Values) : Command → Except UsageFault Task
  | convert => .ok (.convert (v.path 0))
  | page =>
    .ok (.page (v.path 0) ((v.path? "--output").getD (Path.ofString "graph.html")) (v.path? "--config"))
  | inspect => .ok (.inspect (v.path 0) (v.has "--json"))
  | batch =>
    let request := batchOf v
    if request.onlyTrees && request.onlyDependencies then
      .error (.exclusive "--only-tree-sitter".toList "--only-depends".toList)
    else
      .ok (.batch request (v.path? "--config") (if v.has "--web" then some (viewingOf v) else none))
  | serve => .ok (.serve (v.path 0) (v.path? "--config") (viewingOf v))
  | trees =>
    .ok (.trees (v.path 0) (v.path 1) ((v.value? "--language").getD "python".toList))

end Command

end DepView
