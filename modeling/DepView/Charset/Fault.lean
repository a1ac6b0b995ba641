/-!
Why bytes have no text.
-/

namespace DepView.Charset

inductive Fault where
  /-- The set has no replacement for bytes that mean nothing, a mark is missing, or a sequence has
  no end. -/
  | refused
  /-- The digits behind a text in Punycode are not ASCII. -/
  | foreignDigit
  /-- The code stands for bytes, not for characters. -/
  | notText
  /-- The code is written in characters, not in bytes. -/
  | notBytes
  /-- The name of a set holds the character with the code zero. -/
  | badName
deriving DecidableEq, Repr

end DepView.Charset
