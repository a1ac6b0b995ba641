import DepView.Charset.Basic
import DepView.Text.Surrogate

/-!
UTF-7. All ASCII characters but the plus stand for themselves. A plus begins a section of digits in
base 64 for units of two bytes; the section ends with the first other character, which is left out
if it is a minus.
-/

namespace DepView.Charset.Utf7

/-- A section: the bits that are read but not used yet, their number, and the first unit of a pair
that waits for its partner. -/
structure Section where
  bits : Nat
  count : Nat
  half : Option Nat
deriving DecidableEq, Repr

def Section.start : Section := ⟨0, 0, none⟩

def digit? (b : UInt8) : Option Nat :=
  let c := Char.ofNat b.toNat
  if c.isUpper then some (b.toNat - 65)
  else if c.isLower then some (b.toNat - 71)
  else if c.isDigit then some (b.toNat + 4)
  else if c == '+' then some 62
  else if c == '/' then some 63
  else none

/-- What a unit adds to the text, behind the first unit of a pair if one waits. -/
def addUnit (half : Option Nat) (unit : Nat) : Text × Option Nat :=
  let isSecond := 0xdc00 ≤ unit && unit ≤ 0xdfff
  match half, isSecond with
  | some first, true =>
    ([Char.ofNat (0x10000 + (first - 0xd800) * 0x400 + (unit - 0xdc00))], none)
  | half, _ =>
    let before := (half.map Text.ofCode).getD []
    if 0xd800 ≤ unit && unit ≤ 0xdbff then (before, some unit)
    else (before ++ Text.ofCode unit, none)

/-- Reads a digit. -/
def Section.add (s : Section) (digit : Nat) : Text × Section :=
  let bits := s.bits * 64 + digit
  let count := s.count + 6
  if count < 16 then ([], ⟨bits, count, s.half⟩)
  else
    let weight := Nat.pow 2 (count - 16)
    let (text, half) := addUnit s.half (bits / weight)
    (text, ⟨bits % weight, count - 16, half⟩)

/-- Whether the bits that are left are less than a digit, and all zero. -/
def Section.isEven (s : Section) : Bool :=
  s.count < 6 && (s.count = 0 || s.bits = 0)

/-- Whether a character stands for itself. -/
def isDirect (b : UInt8) : Bool :=
  b.toNat ≤ 127 && b != 0x2b

/-- The step within a section. The byte that ends it is read again, but for a minus. -/
def stepWithin (s : Section) (b : UInt8) : Option (Text × Section) :=
  (digit? b).map s.add

/-- The text of some bytes. The state is the section that they begin in. -/
def decodeFrom (state : Option Section) : Bytes → Decoded
  | [] =>
    match state with
    | some s => if s.half.isSome || !s.isEven then [none] else []
    | none => []
  | b :: rest =>
    match state with
    | some s =>
      match stepWithin s b with
      | some (text, s) => Decoded.ofText text ++ decodeFrom (some s) rest
      | none =>
        if !s.isEven then none :: decodeFrom none rest
        else
          let waiting := if isDirect b then (s.half.map Text.ofCode).getD [] else []
          Decoded.ofText waiting ++
            if b == 0x2d then decodeFrom none rest
            else if isDirect b then some (Char.ofNat b.toNat) :: decodeFrom none rest
            else none :: decodeFrom none rest
    | none =>
      if isDirect b then some (Char.ofNat b.toNat) :: decodeFrom none rest
      else if b != 0x2b then none :: decodeFrom none rest
      else match rest with
        | [] => []
        | c :: more =>
          if c == 0x2d then some '+' :: decodeFrom none more
          else if (digit? c).isSome then decodeFrom (some .start) (c :: more)
          else none :: decodeFrom none more

def decode (bytes : Bytes) : Decoded :=
  decodeFrom none bytes

end DepView.Charset.Utf7
