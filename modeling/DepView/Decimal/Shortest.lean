import DepView.Decimal.Binary

/-!
The shortest decimal text that reads back as the same binary number. The numbers that round to
`x` form an interval around `x`. For one digit, two digits and so on, the decimal neighbours of
`x` with that many digits are tried; the first that lies in the interval is taken, and of two the
nearer.
-/

namespace DepView.Decimal

/-- The exponent of the leading decimal digit of a positive fraction. -/
def leadingExponent (num den : Nat) : Int :=
  if den ≤ num then ((digits (num / den)).length : Int) - 1
  else
    let k := (digits (den / num)).length
    if num * Nat.pow 10 (k - 1) ≥ den then 1 - (k : Int) else -(k : Int)

/-- An interval of positive fractions over one denominator, around a middle. -/
structure Interval where
  low : Nat
  middle : Nat
  high : Nat
  den : Nat
  closed : Bool
deriving Repr

/-- What rounds to `mantissa * 2 ^ exponent`. The gap below a power of two is half as wide, and
the ends belong to the interval when the mantissa is even. -/
def Interval.of (mantissa : Nat) (exponent : Int) : Interval :=
  let narrow := mantissa == Nat.pow 2 52 && exponent > -1074
  let (unit, den) := scaled 1 2 (exponent - 2)
  { low := (4 * mantissa - if narrow then 1 else 2) * unit
    middle := 4 * mantissa * unit
    high := (4 * mantissa + 2) * unit
    den
    closed := mantissa % 2 == 0 }

/-- Whether `d * 10 ^ e` lies in the interval. -/
def Interval.holds (i : Interval) (d : Nat) (e : Int) : Bool :=
  let (num, den) := scaled d 10 e
  let value := num * i.den
  if i.closed then i.low * den ≤ value && value ≤ i.high * den
  else i.low * den < value && value < i.high * den

/-- The decimal with `count` digits that reads back and is nearest to the middle. -/
def Interval.candidate? (i : Interval) (count : Nat) : Option (Nat × Int) :=
  let e := leadingExponent i.middle i.den - ((count : Int) - 1)
  let (num, den) := scaled i.middle 10 (-e)
  let below := num / (den * i.den)
  let belowHolds := i.holds below e
  let aboveHolds := i.holds (below + 1) e
  let rest := num % (den * i.den)
  match belowHolds, aboveHolds with
  | true, true =>
    let up := 2 * rest > den * i.den || (2 * rest == den * i.den && below % 2 == 1)
    some (if up then below + 1 else below, e)
  | true, false => some (below, e)
  | false, true => some (below + 1, e)
  | false, false => none

/-- Digits and exponent of the shortest decimal for `mantissa * 2 ^ exponent`. -/
def shortest (mantissa : Nat) (exponent : Int) : Nat × Int :=
  let i := Interval.of mantissa exponent
  ((List.range 17).findSome? fun k => i.candidate? (k + 1)).getD (mantissa, exponent)

/-- How the shortest digits of a number are laid out. -/
structure Style where
  leastPositional : Int
  endPositional : Int
  infinity : Text
  nan : Text

/-- The digits without the zeros at the end. -/
def significant (d : Nat) : Text :=
  match Text.trimEndWhile (· == '0') (digits d) with
  | [] => ['0']
  | ds => ds

/-- Digits placed by the exponent `e` of the leading one, with at least one digit on each side
of the point. -/
def positional (ds : Text) (e : Int) : Text :=
  if e < 0 then "0.".toList ++ List.replicate ((-e).toNat - 1) '0' ++ ds
  else
    let whole := e.toNat + 1
    let fraction := ds.drop whole
    ds.take whole ++ List.replicate (whole - ds.length) '0' ++ '.' ::
      (if fraction.isEmpty then ['0'] else fraction)

/-- One digit before the point, and an exponent with a sign and at least two digits. -/
def scientific (ds : Text) (e : Int) : Text :=
  let point := if ds.length ≤ 1 then [] else '.' :: ds.drop 1
  let exponent := digits e.natAbs
  ds.take 1 ++ point ++ ['e', if e < 0 then '-' else '+'] ++
    (if exponent.length < 2 then '0' :: exponent else exponent)

def Style.write (style : Style) (x : Float) : Text :=
  let (negative, size) := parts x
  let sign := if negative then ['-'] else []
  match size with
  | .nan => style.nan
  | .infinite => sign ++ style.infinity
  | .finite 0 _ => sign ++ "0.0".toList
  | .finite m q =>
    let (d, e) := shortest m q
    let lead := e + ((digits d).length : Int) - 1
    let ds := significant d
    sign ++ if style.leastPositional ≤ lead && lead < style.endPositional then positional ds lead
      else scientific ds lead

end DepView.Decimal
