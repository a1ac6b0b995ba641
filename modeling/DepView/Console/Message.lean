import DepView.Session

/-!
What the user is told while a task runs: results and details on the standard output, failures on
the standard error output.
-/

namespace DepView.Console

def success (message : Text) : Action Unit :=
  Action.say ("✅ ".toList ++ message)

def failure (message : Text) : Action Unit :=
  Action.complain ("❌ ".toList ++ message)

def warning (message : Text) : Action Unit :=
  Action.say ("⚠️  ".toList ++ message)

def detail (message : Text) : Action Unit :=
  Action.say ("   ".toList ++ message)

end DepView.Console
