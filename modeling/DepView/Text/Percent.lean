import DepView.Text.Utf8

/-!
Percent-encoding. A character outside a class of safe ones is written byte by byte, each byte as
a percent sign and two hexadecimal digits. Decoding gives bytes; a percent sign that is not
followed by two such digits stands for itself.
-/

namespace DepView.Text.Percent

/-- The upper-case hexadecimal digit for a number below 16. -/
def hexDigit (n : Nat) : Char :=
  if n < 10 then Char.ofNat (48 + n) else Char.ofNat (55 + n)

def hexValue? (c : Char) : Option Nat :=
  if c.isDigit then some (c.toNat - 48)
  else if 'a' ≤ c && c ≤ 'f' then some (c.toNat - 87)
  else if 'A' ≤ c && c ≤ 'F' then some (c.toNat - 55)
  else none

def encodeByte (b : UInt8) : Text :=
  ['%', hexDigit (b.toNat / 16), hexDigit (b.toNat % 16)]

def encode (isSafe : Char → Bool) (text : Text) : Text :=
  text.flatMap fun c => if isSafe c then [c] else (Utf8.encodeChar c).flatMap encodeByte

def decode : Text → Bytes
  | [] => []
  | '%' :: a :: b :: rest =>
    match hexValue? a, hexValue? b with
    | some high, some low => (16 * high + low).toUInt8 :: decode rest
    | _, _ => Utf8.encodeChar '%' ++ decode (a :: b :: rest)
  | c :: rest => Utf8.encodeChar c ++ decode rest

end DepView.Text.Percent
