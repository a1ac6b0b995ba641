import DepView.Decimal.Binary

/-!
Decimal text with a fixed number of places, from the exact value of a binary number. A half goes
to the even neighbour.
-/

namespace DepView.Decimal

/-- A quotient rounded to the nearest whole number, halves to the even one. -/
def roundDiv (num den : Nat) : Nat :=
  let quotient := num / den
  let rest := num % den
  if 2 * rest > den || (2 * rest == den && quotient % 2 == 1) then quotient + 1 else quotient

/-- A number with `places` places. A result of zero has no sign. -/
def fixed (places : Nat) (x : Float) : Text :=
  let (negative, size) := parts x
  let signed (body : Text) := if negative then '-' :: body else body
  match size with
  | .nan => "nan".toList
  | .infinite => signed "inf".toList
  | .finite m q =>
    let (num, den) := scaled m 2 q
    let units := roundDiv (num * Nat.pow 10 places) den
    let fraction := digits (units % Nat.pow 10 places)
    let body := digits (units / Nat.pow 10 places) ++ '.' ::
      (List.replicate (places - fraction.length) '0' ++ fraction)
    if units == 0 then body else signed body

end DepView.Decimal
