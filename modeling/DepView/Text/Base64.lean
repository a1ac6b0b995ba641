import DepView.Text.Utf8

/-!
Base 64: four characters stand for three bytes. Other characters are passed over. The last group
may be shorter and is then filled with equals signs, where reading ends.
-/

namespace DepView.Text.Base64

def value? (c : Char) : Option Nat :=
  if 'A' ≤ c && c ≤ 'Z' then some (c.toNat - 65)
  else if 'a' ≤ c && c ≤ 'z' then some (c.toNat - 71)
  else if c.isDigit then some (c.toNat + 4)
  else if c == '+' then some 62
  else if c == '/' then some 63
  else none

/-- The bytes of a group of values. A group of one has none. -/
def bytesOf : List Nat → Bytes
  | [a, b, c, d] =>
    [(a * 4 + b / 16).toUInt8, (b % 16 * 16 + c / 4).toUInt8, (c % 4 * 64 + d).toUInt8]
  | [a, b, c] => [(a * 4 + b / 16).toUInt8, (b % 16 * 16 + c / 4).toUInt8]
  | [a, b] => [(a * 4 + b / 16).toUInt8]
  | _ => []

/-- Reads on with the values of a group that is not full yet and the equals signs since. Those count
only from the third place of a group on. -/
def decodeFrom (group : List Nat) (signs : Nat) : Text → Option Bytes
  | [] => if group.isEmpty then some [] else none
  | c :: rest =>
    if c == '=' then
      if 2 ≤ group.length then
        if 4 ≤ group.length + signs + 1 then some (bytesOf group)
        else decodeFrom group (signs + 1) rest
      else decodeFrom group signs rest
    else match value? c with
      | none => decodeFrom group signs rest
      | some value =>
        let group := group ++ [value]
        if group.length == 4 then (decodeFrom [] 0 rest).map (bytesOf group ++ ·)
        else decodeFrom group 0 rest

def decode? (text : Text) : Option Bytes :=
  decodeFrom [] 0 text

end DepView.Text.Base64
