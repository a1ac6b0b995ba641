import DepView.Text.Basic

/-!
The log: entries of a level and a topic, oldest first.
-/

namespace DepView

namespace Log

inductive Level where
  | debug
  | info
  | warning
deriving DecidableEq, Repr

def Level.name : Level → String
  | debug => "DEBUG"
  | info => "INFO"
  | warning => "WARNING"

/-- The part of the program that an entry comes from. -/
inductive Topic where
  | cells
  | conversion
  | analyzer
  | pipeline
  | sources
  | overlay
  | resolution
  | server
  | settings
deriving DecidableEq, Repr

def Topic.name : Topic → String
  | cells => "dtsviz.conversion.cells"
  | conversion => "dtsviz.conversion.converter"
  | analyzer => "dtsviz.analysis.depends"
  | pipeline => "dtsviz.pipeline"
  | sources => "dtsviz.parsing.tree_sitter"
  | overlay => "dtsviz.graph.overlay"
  | resolution => "dtsviz.graph.resolution"
  | server => "dtsviz.server.app"
  | settings => "dtsviz.config"

structure Entry where
  level : Level
  topic : Topic
  message : Text
deriving DecidableEq, Repr

def Entry.line (e : Entry) : Text :=
  (e.level.name ++ " " ++ e.topic.name ++ ": ").toList ++ e.message

/-- Entries below a warning are shown on request only. -/
def Entry.isShown (verbose : Bool) (e : Entry) : Bool :=
  verbose || e.level == .warning

end Log

abbrev Log := List Log.Entry

namespace Log

/-- The lines of a log that are shown. -/
def shown (verbose : Bool) (log : Log) : List Text :=
  (log.filter (·.isShown verbose)).map Entry.line

end Log

end DepView
