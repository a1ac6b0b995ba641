import DepView.Failure
import DepView.Log
import DepView.Text.Escape

/-!
What a run works on: the files, the log written so far, what it has started outside, and what it
has told the user. A step that fails keeps what was done before it.
-/

namespace DepView

/-- What a run has started outside of itself. -/
inductive Event where
  | tool (command : List Text)
  | timer (seconds : Float)
  | browser (url : Text)
  | listen (port : Int) (defaultDot : Text) (directory : Place)

structure Session where
  store : Store
  log : Log
  events : List Event
  /-- What was written to the standard output. -/
  output : Text
  /-- What was written to the standard error output. -/
  errors : Text
  /-- Whether log entries below a warning are wanted. -/
  verbose : Bool
  /-- How deep a JSON value may be nested: the interpreter's calls that the caller has left. -/
  nesting : Nat

/-- A run that has done nothing yet. Of its thousand calls a few are taken. -/
def Session.ofStore (store : Store) : Session :=
  ⟨store, [], [], [], [], false, 990⟩

abbrev Action (α : Type) := ExceptT Failure (StateM Session) α

namespace Action

def note (level : Log.Level) (topic : Log.Topic) (message : Text) : Action Unit :=
  modify fun s => { s with log := s.log ++ [⟨level, topic, message⟩] }

def announce (event : Event) : Action Unit :=
  modify fun s => { s with events := s.events ++ [event] }

/-- Writes a line to the standard output as it is. -/
def print (line : Text) : Action Unit :=
  modify fun s => { s with output := s.output ++ line ++ ['\n'] }

/-- Writes a line to the standard output, without styles. -/
def say (line : Text) : Action Unit :=
  print (Text.unstyled line)

/-- Writes a line to the standard error output, without styles. -/
def complain (line : Text) : Action Unit :=
  modify fun s => { s with errors := s.errors ++ Text.unstyled line ++ ['\n'] }

/-- The answer of the files, or a failure made of their fault. A path with a text that is refused
fails in its own way. -/
def ofFiles {α : Type} (fail : Store.Fault → Failure) : Except Store.Fault α → Action α
  | .ok a => pure a
  | .error fault => throw (if fault.isOfText then .file fault else fail fault)

/-- The answer to a question about the files. -/
def askFiles {α : Type} (question : Store → Except Store.Fault α) : Action α := do
  ofFiles .file (question (← get).store)

def readBytes (fail : Store.Fault → Failure) (path : Path) : Action Bytes := do
  ofFiles fail ((← get).store.read path)

/-- The text of a UTF-8 file, with every line ending as a line feed. -/
def readText (fail : Store.Fault → Failure) (path : Path) : Action Text := do
  match Text.Utf8.decode? (← readBytes fail path) with
  | some text => return Text.foldNewlines text
  | none => throw .undecodable

def writeBytes (path : Path) (bytes : Bytes) : Action Unit := do
  let store ← ofFiles .file ((← get).store.write path bytes)
  modify fun s => { s with store }

/-- Writes a text in UTF-8. One that has no such form leaves an empty file. -/
def writeText (path : Path) (text : Text) : Action Unit := do
  if Text.holdsSurrogate text then
    writeBytes path []
    throw .unencodable
  else writeBytes path (Text.Utf8.encode text)

/-- The place that a path would lead to. -/
def resolved (path : Path) : Action Place := do
  ofFiles (fun fault => if fault = .linkLoop then .linksInCircle else .file fault)
    ((← get).store.resolve path)

/-- Creates a directory. Of the way to one that cannot be created, the beginning may be left. -/
def ensureDir (path : Path) : Action Unit := do
  let (store, result) := (← get).store.makeWay path
  modify fun s => { s with store }
  ofFiles .file result

/-- The path with another last name. -/
def withName (path : Path) (name : Text) : Action Path :=
  match path.withName? name with
  | some path => pure path
  | none => throw .badName

end Action

end DepView
