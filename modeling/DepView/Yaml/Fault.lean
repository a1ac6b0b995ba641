/-!
Why a YAML document has no value. Most faults are in the way that it is written; the others are
scalars that are not what their tag or form says.
-/

namespace DepView.Yaml

inductive ScalarFault where
  | notNumber
  | nothing
  | tooLarge
  | notTruth
  | notDate
  | noSuchDay
  | noSuchCharacter
  | notText
  | endless
deriving DecidableEq, Repr

inductive Fault where
  | malformed
  | scalar (fault : ScalarFault)
deriving DecidableEq, Repr

end DepView.Yaml
