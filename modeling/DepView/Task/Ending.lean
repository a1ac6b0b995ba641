import DepView.Console.Message

/-!
How a task ends. A failure that has a message for the user is told and ends the task; any other one
leaves the program as it is.
-/

namespace DepView

inductive Ending where
  | done
  | failed
deriving DecidableEq, Repr

namespace Ending

def exitCode : Ending → Nat
  | done => 0
  | failed => 1

/-- Ends a task with words for the user. -/
def giveUp (message : Text) : Action Ending := do
  Console.failure message
  return .failed

/-- Runs a step and goes on with its result. If it fails with a message, the message is told. -/
def orTold {α : Type} (lead : String) (step : Action α) (next : α → Action Ending) :
    Action Ending := do
  let result ← tryCatch (Except.ok <$> step) fun failure =>
    match failure.message? with
    | some message => return .error (lead.toList ++ message)
    | none => throw failure
  match result with
  | .ok value => next value
  | .error message => giveUp message

end Ending

end DepView
