import DepView.Decimal.Literal
import DepView.Json.Basic
import DepView.Text.Scan
import DepView.Text.Surrogate

/-!
Reading JSON. Beside the standard forms the numbers NaN, Infinity and -Infinity are read. A
member named twice counts with its last value at its first place. An error tells what was
expected and where: positions count characters from zero, lines and columns from one. The
interpreter has its limits: a whole number has too many digits for it, or a value is nested too
deep.
-/

namespace DepView.Json

/-- What is too much for the interpreter. -/
inductive Overrun where
  | longInteger
  | tooDeep
deriving DecidableEq, Repr

inductive Fault where
  | expectingValue
  | expectingName
  | expectingColon
  | expectingComma
  | unterminatedString
  | controlCharacter
  | badEscape
  | badUnicodeEscape
  | extraData
  | byteOrderMark
  | overrun (overrun : Overrun)
deriving DecidableEq, Repr

def Fault.message : Fault → String
  | expectingValue => "Expecting value"
  | expectingName => "Expecting property name enclosed in double quotes"
  | expectingColon => "Expecting ':' delimiter"
  | expectingComma => "Expecting ',' delimiter"
  | unterminatedString => "Unterminated string starting at"
  | controlCharacter => "Invalid control character at"
  | badEscape => "Invalid \\escape"
  | badUnicodeEscape => "Invalid \\uXXXX escape"
  | extraData => "Extra data"
  | byteOrderMark => "Unexpected UTF-8 BOM (decode using utf-8-sig)"
  | overrun .longInteger => "Exceeds the limit for integer string conversion"
  | overrun .tooDeep => "maximum recursion depth exceeded"

/-- A fault, and the text that was left where it was noticed. -/
structure Stop where
  fault : Fault
  rest : Text

/-- A fault at a position of the text read. -/
structure ReadError where
  fault : Fault
  line : Nat
  column : Nat
  position : Nat
deriving DecidableEq, Repr

def ReadError.ofStop (text : Text) (stop : Stop) : ReadError :=
  let position := text.length - stop.rest.length
  let before := text.take position
  { fault := stop.fault
    line := before.count '\n' + 1
    column := (before.reverse.takeWhile (· != '\n')).length + 1
    position }

def ReadError.message (e : ReadError) : Text :=
  (e.fault.message ++ ": line " ++ toString e.line ++ " column " ++ toString e.column ++
    " (char " ++ toString e.position ++ ")").toList

def isSpace (c : Char) : Bool :=
  c == ' ' || c == '\t' || c == '\n' || c == '\r'

def skip (text : Text) : Text :=
  text.dropWhile isSpace

def hexValue? (c : Char) : Option Nat :=
  if c.isDigit then some (c.toNat - '0'.toNat)
  else if 'a' ≤ c && c ≤ 'f' then some (c.toNat - 'a'.toNat + 10)
  else if 'A' ≤ c && c ≤ 'F' then some (c.toNat - 'A'.toNat + 10)
  else none

/-- The UTF-16 unit of four hexadecimal digits that are not the end of the text. -/
def unit? : Text → Option (Nat × Text)
  | a :: b :: c :: d :: rest => do
    if rest.isEmpty then none
    let a ← hexValue? a
    let b ← hexValue? b
    let c ← hexValue? c
    let d ← hexValue? d
    return (((a * 16 + b) * 16 + c) * 16 + d, rest)
  | _ => none

/-- The character that an escape's letter stands for. -/
def simpleEscape? : Char → Option Char
  | '"' => some '"'
  | '\\' => some '\\'
  | '/' => some '/'
  | 'b' => some '\x08'
  | 'f' => some '\x0c'
  | 'n' => some '\n'
  | 'r' => some '\r'
  | 't' => some '\t'
  | _ => none

/-- A unit of the second half of a surrogate pair, if an escape for one comes next. -/
def lowSurrogate? : Text → Option (Nat × Text)
  | '\\' :: 'u' :: rest =>
    match unit? rest with
    | some (n, rest) => if 0xdc00 ≤ n && n ≤ 0xdfff then some (n, rest) else none
    | none => none
  | _ => none

/-- What an escape by UTF-16 units stands for, and the text behind it. Half a pair is kept as it is.
-/
def unicodeEscape (n : Nat) (rest : Text) : Text × Text :=
  if 0xd800 ≤ n && n ≤ 0xdbff then
    match lowSurrogate? rest with
    | some (low, rest) => ([Char.ofNat (0x10000 + (n - 0xd800) * 0x400 + (low - 0xdc00))], rest)
    | none => (Text.ofCode n, rest)
  else (Text.ofCode n, rest)

/-- The inside of a string. `start` is the text from its opening quote on. -/
def readString (fuel : Nat) (start : Text) (found : Text) (text : Text) :
    Except Stop (Text × Text) :=
  match fuel with
  | 0 => .error ⟨.unterminatedString, start⟩
  | fuel + 1 =>
    match text with
    | [] => .error ⟨.unterminatedString, start⟩
    | '"' :: rest => .ok (found.reverse, rest)
    | '\\' :: [] => .error ⟨.unterminatedString, start⟩
    | '\\' :: 'u' :: rest =>
      match unit? rest with
      | none => .error ⟨.badUnicodeEscape, 'u' :: rest⟩
      | some (n, after) =>
        let (piece, after) := unicodeEscape n after
        readString fuel start (piece.reverse ++ found) after
    | '\\' :: c :: rest =>
      match simpleEscape? c with
      | some c => readString fuel start (c :: found) rest
      | none => .error ⟨.badEscape, text⟩
    | c :: rest =>
      if c.toNat < 0x20 then .error ⟨.controlCharacter, text⟩
      else readString fuel start (c :: found) rest

/-- Digits behind a sign, if there is one. -/
def signedDigits? (text : Text) : Option (Int × Text) :=
  let (negative, unsigned) := Decimal.signOf text
  (Text.run? Char.isDigit unsigned).map fun (ds, rest) =>
    (Decimal.signed negative (Decimal.natOfDigits ds), rest)

/-- The exponent part of a number: a sign and digits. -/
def exponent? : Text → Option (Int × Text)
  | [] => none
  | e :: text => if e == 'e' || e == 'E' then signedDigits? text else none

/-- The digits after a point. -/
def fraction? : Text → Option (Text × Text)
  | '.' :: text => Text.run? Char.isDigit text
  | _ => none

/-- The digits before a point. A leading zero stands alone. -/
def whole? : Text → Option (Text × Text)
  | '0' :: rest => some (['0'], rest)
  | text => Text.run? Char.isDigit text

/-- What may stand at the head of a text or not. -/
def optional {α : Type} (scan : Text → Option (α × Text)) (text : Text) : Option α × Text :=
  match scan text with
  | some (found, rest) => (some found, rest)
  | none => (none, text)

/-- The value of a number from its parts. With a fraction or an exponent it is a float. -/
def numberOf (negative : Bool) (whole : Text) : Option Text → Option Int → Json
  | none, none => .int (Decimal.signed negative (Decimal.natOfDigits whole))
  | fraction, exponent =>
    .num (Decimal.ofDecimal negative whole (fraction.getD []) (exponent.getD 0))

/-- A number behind its sign. -/
def unsigned? (negative : Bool) (text : Text) : Option (Json × Text) := do
  let (whole, rest) ← whole? text
  let (fraction, rest) := optional fraction? rest
  let (exponent, rest) := optional exponent? rest
  return (numberOf negative whole fraction exponent, rest)

def number? : Text → Option (Json × Text)
  | '-' :: rest => unsigned? true rest
  | text => unsigned? false text

/-- The values that are written as a word. -/
def words : List (Text × Json) :=
  [("null".toList, .null), ("true".toList, .bool true), ("false".toList, .bool false),
   ("NaN".toList, .num (0.0 / 0.0)), ("Infinity".toList, .num (1.0 / 0.0)),
   ("-Infinity".toList, .num (-1.0 / 0.0))]

def wordAt? (text : Text) (word : Text × Json) : Option (Json × Text) :=
  (Text.after? word.1 text).map fun rest => (word.2, rest)

/-- A value without parts. -/
def atom? (text : Text) : Option (Json × Text) :=
  match words.findSome? (wordAt? text) with
  | some found => some found
  | none => number? text

/-- How many digits a whole number may have, and how deep a value may be nested. -/
structure Limits where
  digits : Option Nat
  depth : Option Nat

namespace Limits

def unlimited : Limits := ⟨none, none⟩

/-- The limits of the interpreter, where values may be nested to a depth. -/
def interpreter (depth : Nat) : Limits := ⟨some Decimal.maxDigits, some depth⟩

/-- Whether a value without parts is within the limits. -/
def allows (limits : Limits) : Json → Bool
  | .int n => limits.digits.all fun digits => n.natAbs < Nat.pow 10 digits
  | _ => true

/-- The limits inside of a list or an object, if there may be one. -/
def inner? (limits : Limits) : Option Limits :=
  match limits.depth with
  | none => some limits
  | some 0 => none
  | some (depth + 1) => some { limits with depth := some depth }

@[simp] theorem allows_unlimited (value : Json) : unlimited.allows value = true := by
  cases value <;> rfl

@[simp] theorem inner?_unlimited : unlimited.inner? = some unlimited := rfl

end Limits

mutual

/-- A value at the head of the text. -/
def readValue (limits : Limits) (fuel : Nat) (text : Text) : Except Stop (Json × Text) :=
  match fuel with
  | 0 => .error ⟨.expectingValue, text⟩
  | fuel + 1 =>
    match text with
    | '"' :: rest => do
      let (s, rest) ← readString rest.length.succ text [] rest
      return (.str s, rest)
    | '[' :: rest =>
      match limits.inner? with
      | none => .error ⟨.overrun .tooDeep, text⟩
      | some inner =>
        match skip rest with
        | ']' :: rest => .ok (.arr [], rest)
        | rest => readItems inner fuel [] rest
    | '\x7b' :: rest =>
      match limits.inner? with
      | none => .error ⟨.overrun .tooDeep, text⟩
      | some inner =>
        match skip rest with
        | '\x7d' :: rest => .ok (.obj [], rest)
        | rest => readMembers inner fuel [] rest
    | _ =>
      match atom? text with
      | some (value, rest) =>
        if limits.allows value then .ok (value, rest) else .error ⟨.overrun .longInteger, text⟩
      | none => .error ⟨.expectingValue, text⟩

/-- The items of a list, from the first one on. -/
def readItems (limits : Limits) (fuel : Nat) (found : List Json) (text : Text) :
    Except Stop (Json × Text) :=
  match fuel with
  | 0 => .error ⟨.expectingValue, text⟩
  | fuel + 1 => do
    let (item, rest) ← readValue limits fuel text
    match skip rest with
    | ']' :: rest => return (.arr (item :: found).reverse, rest)
    | ',' :: rest => readItems limits fuel (item :: found) (skip rest)
    | rest => .error ⟨.expectingComma, rest⟩

/-- The members of an object, from the first name on. -/
def readMembers (limits : Limits) (fuel : Nat) (found : List (Text × Json)) (text : Text) :
    Except Stop (Json × Text) :=
  match fuel with
  | 0 => .error ⟨.expectingName, text⟩
  | fuel + 1 =>
    match text with
    | '"' :: rest => do
      let (name, rest) ← readString rest.length.succ text [] rest
      match skip rest with
      | ':' :: rest =>
        let (value, rest) ← readValue limits fuel (skip rest)
        match skip rest with
        | '\x7d' :: rest => return (.obj (Table.ofPairs ((name, value) :: found).reverse), rest)
        | ',' :: rest => readMembers limits fuel ((name, value) :: found) (skip rest)
        | rest => .error ⟨.expectingComma, rest⟩
      | rest => .error ⟨.expectingColon, rest⟩
    | _ => .error ⟨.expectingName, text⟩

end

/-- The value that a whole text holds. -/
def readAll (limits : Limits) (text : Text) : Except Stop Json :=
  match text with
  | '\ufeff' :: _ => .error ⟨.byteOrderMark, text⟩
  | _ => do
    let (value, rest) ← readValue limits (2 * text.length + 2) (skip text)
    match skip rest with
    | [] => return value
    | rest => .error ⟨.extraData, rest⟩

/-- Reads a text as one JSON value. -/
def read (text : Text) : Except ReadError Json :=
  (readAll .unlimited text).mapError (ReadError.ofStop text)

/-- Reads a text as the interpreter does where values may be nested to a depth. What is too much for
it is no error in the text. -/
def load (depth : Nat) (text : Text) : Except Overrun (Except ReadError Json) :=
  match readAll (.interpreter depth) text with
  | .error ⟨.overrun overrun, _⟩ => .error overrun
  | .error stop => .ok (.error (.ofStop text stop))
  | .ok value => .ok (.ok value)

end DepView.Json
