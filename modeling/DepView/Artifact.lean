import DepView.Text.Basic

/-!
The names by which the parts of the program find each other's files: the analyzer's output, its
converted form, and the dumps of syntax trees.
-/

namespace DepView.Artifact

/-- The name that the analyzer gives its output unless told otherwise. -/
def outputName : Text := "depends-output-file".toList

/-- What marks the name of a converted file. -/
def convertedMarker : Text := ".converted".toList

/-- What marks the name of a dump of a syntax tree. -/
def treeMarker : Text := ".tree".toList

/-- The graph that is shown when no other is asked for. -/
def standardDot : Text :=
  outputName ++ convertedMarker ++ ".dot".toList

end DepView.Artifact
