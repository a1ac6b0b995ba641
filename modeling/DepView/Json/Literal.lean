import DepView.Json.Writer
import DepView.Text.Printable

/-!
The form in which messages and labels show a JSON value: a text as it is, or between quotes
where it is part of something else, words for null and the truth values, and lists and objects
in brackets.
-/

namespace DepView.Json

/-- Shortest digits, as in JSON text, with short words for what is not finite. -/
def literalStyle : Decimal.Style :=
  { numberStyle with infinity := "inf".toList, nan := "nan".toList }

/-- Lower-case hexadecimal digits, filled up with zeros. -/
def hexPadded (width n : Nat) : Text :=
  let ds := Nat.toDigits 16 n
  List.replicate (width - ds.length) '0' ++ ds

/-- A character within a quoted text. -/
def quoteChar (mark c : Char) : Text :=
  if c = mark || c = '\\' then ['\\', c]
  else if c = '\n' then ['\\', 'n']
  else if c = '\r' then ['\\', 'r']
  else if c = '\t' then ['\\', 't']
  else if Text.isPrintable c then [c]
  else
    let n := c.toNat
    if n < 0x100 then '\\' :: 'x' :: hexPadded 2 n
    else if n < 0x10000 then '\\' :: 'u' :: hexPadded 4 n
    else '\\' :: 'U' :: hexPadded 8 n

def quoteCode (mark : Char) (code : Nat) : Text :=
  if Text.isSurrogate code then '\\' :: 'u' :: hexPadded 4 code
  else quoteChar mark (Char.ofNat code)

/-- A text between single quotes; between double quotes if it holds single ones only. -/
def quoted (text : Text) : Text :=
  let mark := if text.contains '\'' && !text.contains '"' then '"' else '\''
  mark :: (Text.codes text).flatMap (quoteCode mark) ++ [mark]

mutual

def literal : Json → Text
  | .null => "None".toList
  | .bool true => "True".toList
  | .bool false => "False".toList
  | .int n => Decimal.signedDigits n
  | .num x => literalStyle.write x
  | .str s => quoted s
  | .arr items => '[' :: literalItems items ++ [']']
  | .obj members => '\x7b' :: literalMembers members ++ ['\x7d']

def literalItems : List Json → Text
  | [] => []
  | [item] => literal item
  | item :: items => literal item ++ [',', ' '] ++ literalItems items

def literalMember : Text × Json → Text
  | (name, value) => quoted name ++ [':', ' '] ++ literal value

def literalMembers : List (Text × Json) → Text
  | [] => []
  | [m] => literalMember m
  | m :: members => literalMember m ++ [',', ' '] ++ literalMembers members

end

/-- The value as a text of its own. -/
def plain : Json → Text
  | .str s => s
  | value => literal value

end DepView.Json
