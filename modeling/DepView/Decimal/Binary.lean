import DepView.Text.Basic

/-!
Binary floating-point numbers taken apart: a sign, and a whole number times a power of two. All
decimal texts of a number are computed from these by exact arithmetic.
-/

namespace DepView.Decimal

inductive Magnitude where
  | finite (mantissa : Nat) (exponent : Int)
  | infinite
  | nan
deriving DecidableEq, Repr

/-- The sign bit of a number, and its size. -/
def parts (x : Float) : Bool × Magnitude :=
  let bits : Nat := x.toBits.toNat
  let fraction : Nat := bits % Nat.pow 2 52
  let biased : Nat := bits / Nat.pow 2 52 % Nat.pow 2 11
  let negative := bits / Nat.pow 2 63 == 1
  let size :=
    if biased == 2047 then if fraction == 0 then .infinite else .nan
    else if biased == 0 then .finite fraction (-1074)
    else .finite (Nat.pow 2 52 + fraction) ((biased : Int) - 1075)
  (negative, size)

/-- A whole number times a power of `base`, as a numerator and a denominator. -/
def scaled (n : Nat) (base : Nat) (exponent : Int) : Nat × Nat :=
  if 0 ≤ exponent then (n * Nat.pow base exponent.toNat, 1)
  else (n, Nat.pow base (-exponent).toNat)

/-- The decimal digits of a whole number. -/
def digits (n : Nat) : Text :=
  Nat.toDigits 10 n

theorem digits_injective {m n : Nat} (h : digits m = digits n) : m = n := by
  have hvalue := congrArg (fun ds => Nat.ofDigitChars 10 ds 0) h
  simpa only [digits, Nat.ofDigitChars_ten_toDigits] using hvalue

/-- The decimal text of a whole number with its sign. -/
def signedDigits (n : Int) : Text :=
  if n < 0 then '-' :: digits n.natAbs else digits n.natAbs

end DepView.Decimal
