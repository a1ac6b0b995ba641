import DepView.Decimal.Shortest
import DepView.Json.Basic
import DepView.Text.Surrogate

/-!
Writing JSON in ASCII. A value is written on one line, or with each item on a line of its own,
indented by two blanks a level.
-/

namespace DepView.Json

/-- Floats are written positionally from 0.0001 to below 10 ^ 16. -/
def numberStyle : Decimal.Style :=
  { leastPositional := -4
    endPositional := 16
    infinity := "Infinity".toList
    nan := "NaN".toList }

/-- The four lower-case hexadecimal digits of a UTF-16 unit. -/
def hex4 (n : Nat) : Text :=
  let ds := Nat.toDigits 16 n
  List.replicate (4 - ds.length) '0' ++ ds

/-- A code by its UTF-16 units. -/
def escapeUnits (code : Nat) : Text :=
  if code < 0x10000 then '\\' :: 'u' :: hex4 code
  else
    let v := code - 0x10000
    '\\' :: 'u' :: hex4 (0xd800 + v / 0x400) ++ '\\' :: 'u' :: hex4 (0xdc00 + v % 0x400)

def escapeChar (c : Char) : Text :=
  if c = '"' || c = '\\' then ['\\', c]
  else if c = '\n' then ['\\', 'n']
  else if c = '\r' then ['\\', 'r']
  else if c = '\t' then ['\\', 't']
  else if c = '\x08' then ['\\', 'b']
  else if c = '\x0c' then ['\\', 'f']
  else if ' ' ≤ c && c ≤ '~' then [c]
  else escapeUnits c.toNat

def escapeCode (code : Nat) : Text :=
  if Text.isSurrogate code then escapeUnits code else escapeChar (Char.ofNat code)

def quote (text : Text) : Text :=
  '"' :: (Text.codes text).flatMap escapeCode ++ ['"']

/-- The text of a value that is neither a list nor an object with something in it. -/
def writeAtom : Json → Text
  | .null => "null".toList
  | .bool true => "true".toList
  | .bool false => "false".toList
  | .int n => Decimal.signedDigits n
  | .num x => numberStyle.write x
  | .str s => quote s
  | .arr _ => ['[', ']']
  | .obj _ => ['\x7b', '\x7d']

/-- How the items of a list or an object are set apart, given the level of their container. -/
structure Spacing where
  lead : Nat → Text
  between : Nat → Text
  last : Nat → Text

/-- All on one line. -/
def Spacing.compact : Spacing := ⟨fun _ => [], fun _ => [',', ' '], fun _ => []⟩

def newline (level : Nat) : Text :=
  '\n' :: List.replicate (2 * level) ' '

/-- One item a line. -/
def Spacing.indented : Spacing :=
  ⟨fun level => newline (level + 1), fun level => ',' :: newline (level + 1), newline⟩

mutual

def writeAt (sp : Spacing) (level : Nat) : Json → Text
  | .arr (item :: items) =>
    '[' :: sp.lead level ++ writeAt sp (level + 1) item ++ writeItems sp level items ++
      sp.last level ++ [']']
  | .obj (m :: members) =>
    '\x7b' :: sp.lead level ++ writeMember sp level m ++ writeMembers sp level members ++
      sp.last level ++ ['\x7d']
  | value => writeAtom value

def writeItems (sp : Spacing) (level : Nat) : List Json → Text
  | [] => []
  | item :: items => sp.between level ++ writeAt sp (level + 1) item ++ writeItems sp level items

def writeMember (sp : Spacing) (level : Nat) : Text × Json → Text
  | (name, value) => quote name ++ [':', ' '] ++ writeAt sp (level + 1) value

def writeMembers (sp : Spacing) (level : Nat) : List (Text × Json) → Text
  | [] => []
  | m :: members => sp.between level ++ writeMember sp level m ++ writeMembers sp level members

end

/-- A value on one line. -/
def compact (value : Json) : Text :=
  writeAt .compact 0 value

/-- A value with one item a line. -/
def indented (value : Json) : Text :=
  writeAt .indented 0 value

end DepView.Json
