import DepView.Charset.Fault
import DepView.Domain.Label
import DepView.Json.Reader
import DepView.Store.Basic
import DepView.Yaml.Fault

/-!
Why a run ends without a result. A missing artifact and a failing tool are told to the user; the
other failures leave the program as they are.
-/

namespace DepView

/-- A value that has not the shape it is used in. -/
inductive ShapeFault where
  | noMembers
  | notIterable
  | wrongCount
deriving DecidableEq, Repr

inductive Failure where
  | missingArtifact (path : Path) (hint : Text)
  | toolFailed (tool reason : Text) (exitCode : Option Int)
  | undecodable
  | unencodable
  | badName
  | file (fault : Store.Fault)
  | linksInCircle
  | noDirectory
  | shape (fault : ShapeFault)
  | scalar (fault : Yaml.ScalarFault)
  | badMarkup
  /-- A part of a color in markup is no number. -/
  | badColor
  | badUrl
  | badHost (fault : Domain.Fault)
  | badCharset (fault : Charset.Fault)
  /-- Some parts of a parameter have numbers and others have none. -/
  | mixedParts
  /-- The number of a part of a parameter has too many digits. -/
  | longNumber
  | overrun (overrun : Json.Overrun)
deriving DecidableEq, Repr

namespace Failure

/-- The text for the user, for the failures that have one. -/
def message? : Failure → Option Text
  | missingArtifact path hint =>
    let text := "Artifact not found: ".toList ++ path.toText
    some (if hint.isEmpty then text else text ++ " (".toList ++ hint ++ [')'])
  | toolFailed tool reason _ => some (tool ++ [':', ' '] ++ reason)
  | _ => none

end Failure

end DepView
