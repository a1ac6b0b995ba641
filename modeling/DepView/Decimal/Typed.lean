import DepView.Decimal.Literal
import DepView.Text.Blank
import DepView.Text.Digit

/-!
Numbers as they may be typed: with blanks at both ends, digits of any script, and single underscores
between digits. A whole number in a base below ten or above has its mark before the digits or not.
-/

namespace DepView.Decimal

/-- What a digit is worth, be it a digit of any script or a letter. -/
def typedDigit? (c : Char) : Option Nat :=
  match Text.digitValue? c with
  | some value => some value
  | none =>
    if 'a' ≤ c && c ≤ 'z' then some (c.toNat - 87)
    else if 'A' ≤ c && c ≤ 'Z' then some (c.toNat - 55)
    else none

/-- The number that digits stand for in a base. -/
def natOfDigits? (base : Nat) (digits : Text) : Option Nat :=
  digits.foldl (fun n d => do
    let n ← n
    let d ← typedDigit? d
    if d < base then some (base * n + d) else none) (some 0)

/-- The letter behind a zero that marks a base. -/
def baseMark? (base : Nat) : Option Char :=
  [(2, 'b'), (8, 'o'), (16, 'x')].lookup base

/-- The digits behind the mark of a base, if it is there. An underscore may follow the mark. -/
def withoutMark (base : Nat) (text : Text) : Text :=
  match text with
  | zero :: mark :: rest =>
    if Text.digitValue? zero == some 0 && (baseMark? base).isSome &&
        baseMark? base == some mark.toLower then
      match rest with
      | '_' :: rest => rest
      | rest => rest
    else text
  | _ => text

/-- A whole number as it may be typed in a base. -/
def typedIntIn? (base : Nat) (text : Text) : Option Int :=
  let (negative, body) := signOf (Text.trim text)
  let digits := withoutMark base body
  let kept := digits.filter (· != '_')
  if (Text.splitAt '_' digits).any (·.isEmpty) || (base == 10 && maxDigits < kept.length) then none
  else (natOfDigits? base kept).map (signed negative)

def typedInt? (text : Text) : Option Int :=
  typedIntIn? 10 text

/-- The ASCII digit for a digit of any script. -/
def asciiDigit (c : Char) : Char :=
  match Text.digitValue? c with
  | some value => Char.ofNat (48 + value)
  | none => c

/-- A number with a point or an exponent as it may be typed, without underscores. -/
def typedFloat? (text : Text) : Option Float :=
  floatLiteral? ((Text.trim text).map asciiDigit)

end DepView.Decimal
