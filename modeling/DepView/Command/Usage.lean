import DepView.Command.Form
import DepView.Json.Literal
import DepView.Store.Basic

/-!
What is wrong with a command line that does not fit its form.
-/

namespace DepView.Command

inductive UsageFault where
  | unknownOption (name : Text) (near : List Text)
  | valueMissing (name : Text)
  | valueUnexpected (name : Text)
  | operandMissing (operand : Text)
  | operandsLeft (words : List Text)
  | notInteger (hint value : Text)
  | isDirectory (hint value : Text)
  | isFile (hint value : Text)
  /-- A path that is not even looked for. It leaves the program as a failure. -/
  | refusedPath (fault : Store.Fault)
  | exclusive (first second : Text)
  | commandMissing
  | unknownCommand (name : Text) (near : List Text)
deriving DecidableEq, Repr

namespace UsageFault

def invalid (hint message : Text) : Text :=
  "Invalid value for ".toList ++ hint ++ [':', ' '] ++ message

/-- A guess at what was meant, from the names that are near. -/
def guess (near : List Text) : Text :=
  match near.map Json.quoted with
  | [] => []
  | [near] => " Did you mean ".toList ++ near ++ ['?']
  | near => " (Did you mean one of: ".toList ++ Text.join [',', ' '] near ++ "?)".toList

def message : UsageFault → Text
  | unknownOption name near =>
    "No such option ".toList ++ Json.quoted name ++ ['.'] ++ guess near
  | valueMissing name => "Option ".toList ++ Json.quoted name ++ " requires an argument.".toList
  | valueUnexpected name =>
    "Option ".toList ++ Json.quoted name ++ " does not take a value.".toList
  | operandMissing operand => "Missing argument '".toList ++ operand ++ "'.".toList
  | operandsLeft words =>
    "Got unexpected extra argument".toList ++ (if words.length = 1 then [] else ['s']) ++
      " (".toList ++ Text.join [' '] words ++ [')']
  | notInteger hint value =>
    invalid hint (Json.quoted value ++ " is not a valid integer.".toList)
  | isDirectory hint value =>
    invalid hint ("File ".toList ++ Json.quoted value ++ " is a directory.".toList)
  | isFile hint value =>
    invalid hint ("Directory ".toList ++ Json.quoted value ++ " is a file.".toList)
  | refusedPath fault => fault.words.toList
  | exclusive first second => first ++ " and ".toList ++ second ++ " are mutually exclusive".toList
  | commandMissing => "Missing command.".toList
  | unknownCommand name near =>
    "No such command ".toList ++ Json.quoted name ++ ['.'] ++ guess near

/-- Whether the fault is told without the usage: the value of an option is missing, or one is
there that is not wanted. -/
def isOfValue : UsageFault → Bool
  | valueMissing _ | valueUnexpected _ => true
  | _ => false

end UsageFault

/-- The usage of a form, where to find help, and what is wrong. -/
def Form.complaint (f : Form) (fault : UsageFault) : List Text :=
  let told := "Error: ".toList ++ fault.message
  if fault.isOfValue then [told]
  else [f.usage, "Try '".toList ++ f.call ++ " --help' for help.".toList, [], told]

end DepView.Command
