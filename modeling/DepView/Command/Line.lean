import DepView.Command.Usage
import DepView.Text.Similarity

/-!
Reading a command line. A word that starts with a dash is an option, or several short ones joined;
two dashes alone end the options. The other words are kept in their order.
-/

namespace DepView.Command

/-- An option as it was met. Its value is empty if it takes none. -/
structure Given where
  switch : Switch
  value : Text
deriving DecidableEq, Repr

structure Line where
  given : List Given
  words : List Text
deriving DecidableEq, Repr

/-- The options in a word, and an option at its end that waits for its value. -/
structure Opening where
  given : List Given
  waiting : Option (Switch × Text)

def isOption : Text → Bool
  | '-' :: _ :: _ => true
  | _ => false

/-- A long name, with the value behind an equals sign if there is one. -/
def splitValue (word : Text) : Text × Option Text :=
  match word.dropWhile (· != '=') with
  | [] => (word, none)
  | _ :: value => (word.takeWhile (· != '='), some value)

/-- Reads a long option. -/
def openLong (switch : Switch) (name : Text) (value : Option Text) : Except UsageFault Opening :=
  match switch.kind, value with
  | none, none => .ok ⟨[⟨switch, []⟩], none⟩
  | none, some _ => .error (.valueUnexpected name)
  | some _, none => .ok ⟨[], some (switch, name)⟩
  | some _, some value => .ok ⟨[⟨switch, value⟩], none⟩

/-- Reads short options that are joined. What follows one that takes a value is its value. -/
def openShort (f : Form) : Text → Except UsageFault Opening
  | [] => .ok ⟨[], none⟩
  | c :: rest =>
    match f.switch? ['-', c] with
    | none => .error (.unknownOption ['-', c] [])
    | some switch =>
      match switch.kind, rest with
      | none, rest => do
        let more ← openShort f rest
        return { more with given := ⟨switch, []⟩ :: more.given }
      | some _, [] => .ok ⟨[], some (switch, ['-', c])⟩
      | some _, value => .ok ⟨[⟨switch, value⟩], none⟩

/-- Reads a word that starts with a dash. -/
def openWord (f : Form) (word : Text) : Except UsageFault Opening :=
  let (name, value) := splitValue word
  match (if isShort name then none else f.switch? name), word with
  | some switch, _ => openLong switch name value
  | none, '-' :: '-' :: _ => .error (.unknownOption name (Text.nearest name f.longNames))
  | none, word => openShort f (word.drop 1)

namespace Line

def addGiven (given : List Given) (l : Line) : Line :=
  { l with given := given ++ l.given }

def addWord (word : Text) (l : Line) : Line :=
  { l with words := word :: l.words }

/-- Reads the words of a command line. Options may follow other words if `mixed` says so; or else
the first other word ends them. -/
def read (f : Form) (mixed : Bool) : List Text → Except UsageFault Line
  | [] => .ok ⟨[], []⟩
  | word :: rest =>
    if word = ['-', '-'] then .ok ⟨[], rest⟩
    else if isOption word then
      match openWord f word with
      | .error fault => .error fault
      | .ok ⟨given, none⟩ => (read f mixed rest).map (addGiven given)
      | .ok ⟨given, some (switch, name)⟩ =>
        match rest with
        | [] => .error (.valueMissing name)
        | value :: rest => (read f mixed rest).map (addGiven (given ++ [⟨switch, value⟩]))
    else if mixed then (read f mixed rest).map (addWord word)
    else .ok ⟨[], word :: rest⟩

end Line

end DepView.Command
