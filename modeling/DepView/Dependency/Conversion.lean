import DepView.Artifact
import DepView.Dependency.Cells
import DepView.Dependency.Label
import DepView.Json.Reader
import DepView.Session

/-!
Conversion of the analyzer's output on disk. Beside a graph file it writes the relabelled graph
and, if there is a proper side file of the same stem, the converted side file. A side file that
is missing or not proper is reported and does no harm.
-/

namespace DepView.Dependency

structure SideFileError where
  path : Path
  message : Text
deriving DecidableEq, Repr

structure Report where
  source : Path
  convertedDot : Path
  convertedJson : Option Path
  labelsResolved : Nat
  sideFileError : Option SideFileError
deriving DecidableEq, Repr

/-- Where the converted form of a file goes: the same stem, the marker and a suffix. -/
def convertedPath? (path : Path) (suffix : Text) : Option Path :=
  path.withName? (path.stem ++ Artifact.convertedMarker ++ suffix)

/-- The record of a side file, or why there is none. -/
def sideFileOf (nesting : Nat) (text : Text) : Except Failure (Except Text Json) :=
  match Json.load nesting text with
  | .error overrun => .error (.overrun overrun)
  | .ok (.error e) => .ok (.error ("invalid JSON: ".toList ++ e.message))
  | .ok (.ok value) =>
    match checkShape value with
    | .error fault => .ok (.error fault.message.toList)
    | .ok () => .ok (.ok value)

/-- Reads a side file. A file that is not UTF-8, or too much for the interpreter, is no result but
a failure. -/
def loadSideFile (path : Path) : Action (Except SideFileError Json) := do
  let s ← get
  match s.store.read path with
  | .error .missing => return .error ⟨path, "side file not found".toList⟩
  | .error fault =>
    if fault.isOfText then throw (.file fault)
    return .error ⟨path, "unreadable side file: ".toList ++ fault.message path⟩
  | .ok bytes =>
    match Text.Utf8.decode? bytes with
    | none => throw .undecodable
    | some text =>
      match sideFileOf s.nesting (Text.foldNewlines text) with
      | .error failure => throw failure
      | .ok found => return found.mapError fun m => ⟨path, m⟩

/-- Where the converted form of a file goes. -/
def convertedPath (path : Path) (suffix : String) : Action Path :=
  match convertedPath? path suffix.toList with
  | some p => pure p
  | none => throw .badName

/-- Writes the converted side file of a graph file. -/
def convertSideFile (dot : Path) (report : Report) : Action Report := do
  match dot.withSuffix? ".json".toList with
  | none => throw .badName
  | some side =>
    match ← loadSideFile side with
    | .error e =>
      Action.note .warning .conversion
        ("Skipping side file ".toList ++ side.toText ++ [':', ' '] ++ e.message)
      return { report with sideFileError := some e }
    | .ok record =>
      let target ← convertedPath dot ".json"
      match convertCells record with
      | .error _ => throw (.shape .notIterable)
      | .ok (converted, log) =>
        modify fun s => { s with log := s.log ++ log }
        Action.writeText target converted.indented
        Action.note .info .conversion ("JSON converted -> ".toList ++ target.toText)
        return { report with convertedJson := some target }

/-- Converts a graph file and its side file. -/
def convert (dot : Path) : Action Report := do
  let raw ← Action.readText (fun fault => .missingArtifact dot (fault.message dot)) dot
  let text := Text.foldCrlf raw
  let labels := labelsOf text
  Action.note .debug .conversion ("Resolved ".toList ++ Decimal.digits labels.length ++
    " labels from ".toList ++ dot.toText)
  let target ← convertedPath dot ".dot"
  Action.writeText target (relabelWith labels text)
  Action.note .info .conversion ("DOT ids converted -> ".toList ++ target.toText)
  convertSideFile dot
    { source := dot, convertedDot := target, convertedJson := none,
      labelsResolved := labels.length, sideFileError := none }

end DepView.Dependency
