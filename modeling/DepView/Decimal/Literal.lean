import DepView.Text.Basic

/-!
Reading decimal numbers into binary ones, rounded to the nearest.
-/

namespace DepView.Decimal

/-- The most digits that a whole number may have where it is read in base ten. -/
def maxDigits : Nat := 4300

/-- The value of ASCII digits. -/
def natOfDigits (ds : Text) : Nat :=
  ds.foldl (fun n d => 10 * n + (d.toNat - '0'.toNat)) 0

/-- The binary number nearest to `mantissa * 10 ^ exponent`. Exponents beyond the range of all
binary numbers are decided without computing the power. -/
def nearest (negative : Bool) (mantissa : Nat) (exponent : Int) : Float :=
  let size : Int := (Nat.toDigits 10 mantissa).length + exponent
  let magnitude : Float :=
    if mantissa == 0 || size < -400 then 0.0
    else if size > 400 then 1.0 / 0.0
    else if 0 ≤ exponent then Float.ofScientific mantissa false exponent.toNat
    else Float.ofScientific mantissa true (-exponent).toNat
  if negative then -magnitude else magnitude

/-- The number written as digits before the point, digits after it and an exponent. -/
def ofDecimal (negative : Bool) (whole fraction : Text) (exponent : Int) : Float :=
  nearest negative (natOfDigits (whole ++ fraction)) (exponent - fraction.length)

/-!
Numbers as they are written: a sign, ASCII digits, a point and an exponent, or a word for infinity
or for what is no number.
-/

/-- A sign at the head of a text: whether it is a minus, and the text behind it. -/
def signOf : Text → Bool × Text
  | '-' :: rest => (true, rest)
  | '+' :: rest => (false, rest)
  | text => (false, text)

def signed (negative : Bool) (n : Nat) : Int :=
  if negative then -(n : Int) else n

/-- A whole number without a point. -/
def intLiteral? (text : Text) : Option Int :=
  let (negative, ds) := signOf text
  if !ds.isEmpty && ds.all Char.isDigit then some (signed negative (natOfDigits ds)) else none

/-- The exponent at the end of a number; nothing counts as zero. -/
def exponentOf? : Text → Option Int
  | [] => some 0
  | e :: text => if e == 'e' || e == 'E' then intLiteral? text else none

/-- A decimal number, a word for infinity or the word for what is no number. -/
def floatLiteral? (text : Text) : Option Float :=
  let (negative, body) := signOf text
  let word := String.ofList (body.map Char.toLower)
  if word == "inf" || word == "infinity" then some (if negative then -1.0 / 0.0 else 1.0 / 0.0)
  else if word == "nan" then some (0.0 / 0.0)
  else
    let whole := body.takeWhile Char.isDigit
    let rest := body.dropWhile Char.isDigit
    let (fraction, rest) := match rest with
      | '.' :: rest => (rest.takeWhile Char.isDigit, rest.dropWhile Char.isDigit)
      | rest => ([], rest)
    if whole.isEmpty && fraction.isEmpty then none
    else (exponentOf? rest).map (ofDecimal negative whole fraction)

end DepView.Decimal
