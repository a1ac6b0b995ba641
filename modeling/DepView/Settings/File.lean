import DepView.Session
import DepView.Settings.Lenient

/-!
The settings of a run: the defaults, then the settings file, then the environment. A file that
cannot be used is passed over with a warning. The language of the file is a parameter.
-/

namespace DepView.Settings

/-- Where the settings are looked for unless told otherwise. -/
def standardPath : Path :=
  Path.ofString ".dtsviz/config.yaml"

/-- What reads the text of a settings file. -/
abbrev FileReader := Text → Except Yaml.Fault Yaml.Value

def warn (message : String) (path : Path) (rest : String) : Action Unit :=
  Action.note .warning .settings (message.toList ++ path.toText ++ rest.toList)

/-- A file that is passed over with a warning has no members. -/
def passOver (message : String) (path : Path) (rest : String) : Action (Table Yaml.Value) := do
  warn message path rest
  return []

/-- The members in the text of a settings file. A fault in a scalar ends the run. -/
def membersOf (read : FileReader) (path : Path) (text : Text) : Action (Table Yaml.Value) :=
  match read text with
  | .error .malformed => passOver "Ignoring unreadable config " path ""
  | .error (.scalar fault) => throw (.scalar fault)
  | .ok (.table members) => return members
  | .ok other =>
    if other.isTrue then passOver "Ignoring config " path ": top level must be a mapping"
    else return []

/-- The members of a settings file that is there. The whole file is decoded before it is read. A
reader that is handed the open file decodes it a buffer at a time, so a fault of the language in the
first buffer is found there before a byte that cannot be decoded further down. -/
def membersIn (read : FileReader) (path : Path) : Action (Table Yaml.Value) := do
  match (← get).store.read path with
  | .error fault =>
    if fault.isOfText then throw (.file fault)
    else passOver "Ignoring unreadable config " path ""
  | .ok bytes =>
    match Text.Utf8.decode? bytes with
    | none => throw .undecodable
    | some text => membersOf read path (Text.foldNewlines text)

/-- The members of the settings file at a path or else at the usual place, if it is there. That it
is not is told only if it was asked for. -/
def membersAt (read : FileReader) (path : Option Path) : Action (Table Yaml.Value) := do
  if ← Action.askFiles (·.hasPath (path.getD standardPath)) then
    membersIn read (path.getD standardPath)
  else if path.isSome then passOver "Config file not found: " (path.getD standardPath) ""
  else return []

/-- The members that the environment sets. Empty variables set nothing. -/
def override (environment : Text → Option Text) (members : Table Yaml.Value) : Table Yaml.Value :=
  [("depends_jar", "DTSVIZ_DEPENDS_JAR"), ("java", "DTSVIZ_JAVA")].foldl (fun members (member, name) =>
    match environment name.toList with
    | none | some [] => members
    | some value => members.insert member.toList (.text value)) members

/-- The settings that some members make, or the defaults if one of them does not fit. -/
def ofMembers (file : Path) (members : Table Yaml.Value) : Action Settings :=
  match ofValue? (.table members) with
  | some settings => return settings
  | none => do
    warn "Invalid settings in " file ", using defaults"
    return .standard

/-- The settings of a run, with the file at a path or else at the usual place. -/
def load (read : FileReader) (environment : Text → Option Text) (path : Option Path) :
    Action Settings := do
  let members ← membersAt read path
  ofMembers (path.getD standardPath) (override environment members)

end DepView.Settings
