import DepView.Charset.Name
import DepView.Decimal.Typed
import DepView.Failure
import DepView.Table
import DepView.Text.Blank
import DepView.Text.Percent

/-!
The type of a content, and the character set that it names. Behind the type stand parameters with
semicolons between them; a parameter may be quoted. One may also be written in parts with numbers,
and its parts may be in percent-encoding; it then tells the character set that it is in itself, and
a language.
-/

namespace DepView.Overlay.ContentType

/-- The pieces between semicolons, where those in quotes do not count. A quote behind a backslash
does not count either. -/
def items (isQuoted : Bool) (before : Char) : Text → List Text
  | [] => [[]]
  | c :: rest =>
    if c == ';' && !isQuoted then [] :: items false c rest
    else
      let isQuoted := if c == '"' && before != '\\' then !isQuoted else isQuoted
      match items isQuoted c rest with
      | [] => [[c]]
      | item :: more => (c :: item) :: more

/-- A text where a character behind a backslash stands without it. -/
def bare (c : Char) : Text → Text
  | [] => []
  | '\\' :: d :: rest => if d = c then c :: bare c rest else '\\' :: bare c (d :: rest)
  | d :: rest => d :: bare c rest

/-- A value without the quotes or angles around it. -/
def unquoted (value : Text) : Text :=
  let inner := value.tail.dropLast
  if value.length < 2 then value
  else match value.head?, value.getLast? with
    | some '"', some '"' => bare '"' (bare '\\' inner)
    | some '<', some '>' => inner
    | _, _ => value

structure Parameter where
  name : Text
  value : Text
deriving DecidableEq, Repr

/-- A name without a value stands as it is; other names are in small letters. -/
def Parameter.ofItem (item : Text) : Parameter :=
  if item.contains '=' then
    ⟨(Text.trim (item.takeWhile (· != '='))).map Char.toLower,
      unquoted (Text.trim ((item.dropWhile (· != '=')).drop 1))⟩
  else ⟨Text.trim item, []⟩

def parameters (contentType : Text) : List Parameter :=
  (items false ';' contentType).map Parameter.ofItem

/-- A part of a parameter: its number, if it has one, and whether it is in percent-encoding. -/
structure Part where
  number : Option Nat
  value : Text
  isEncoded : Bool
deriving DecidableEq, Repr

namespace Part

/-- The digits of a number, if there is one, and whether a star stands behind them. -/
def mark? (text : Text) : Option (Text × Bool) :=
  match text.takeWhile Char.isDigit, text.dropWhile Char.isDigit with
  | [], [] => some ([], true)
  | [], _ :: _ => none
  | digits, [] => some (digits, false)
  | digits, ['*'] => some (digits, true)
  | _, _ => none

/-- The name of the parameter that is written in parts, and its part. -/
def of? (p : Parameter) : Except Failure (Option (Text × Part)) :=
  let isWord (c : Char) := c.isAlphanum || c == '_'
  match p.name.takeWhile isWord, p.name.dropWhile isWord with
  | name@(_ :: _), '*' :: rest =>
    match mark? rest with
    | none => .ok none
    | some (digits, isEncoded) =>
      if Decimal.maxDigits < digits.length then .error .longNumber
      else
        let number := digits.foldl (fun n c => 10 * n + (c.toNat - 48)) 0
        .ok (some (name, ⟨if digits.isEmpty then none else some number, p.value, isEncoded⟩))
  | _, _ => .ok none

/-- Whether a part stands before another one. -/
def le (a b : Part) : Bool :=
  ((compare a.number b.number).then
    ((compare a.value b.value).then (compare a.isEncoded b.isEncoded))).isLE

/-- The value of a part. Percent-encoding gives one character for each byte. -/
def decoded (p : Part) : Text :=
  if p.isEncoded then (Text.Percent.decode p.value).map fun b => Char.ofNat b.toNat else p.value

end Part

/-- The value of a parameter that is in a character set, or what is written if that is no text
there. -/
def valueIn (set written : Text) : Except Failure Text :=
  match Charset.lookup set with
  | .error fault => .error (.badCharset fault)
  | .ok found =>
    if written.isEmpty then .ok []
    else .ok ((found.bind (·.wholeText? (written.map (·.toNat.toUInt8)))).getD written)

/-- The value that some parts make up. -/
def wholeValue (parts : List Part) : Except Failure Text :=
  let parts := parts.mergeSort Part.le
  let text := parts.flatMap Part.decoded
  if !parts.any (·.isEncoded) then .ok text
  else match Text.splitAt '\'' text with
    | set :: _ :: value@(_ :: _) =>
      valueIn (if set.isEmpty then "us-ascii".toList else set) (Text.join ['\''] value)
    | _ => valueIn "us-ascii".toList text

/-- The parameters that are written as a whole, and those that are written in parts. -/
structure Sorted where
  plain : List Parameter
  inParts : Table (List Part)

/-- Adds a parameter. -/
def Sorted.add (s : Sorted) (p : Parameter) : Except Failure Sorted := do
  match ← Part.of? p with
  | none => .ok { s with plain := s.plain ++ [p] }
  | some (name, part) =>
    let parts := (s.inParts.find? name).getD []
    .ok { s with inParts := s.inParts.insert name (parts ++ [part]) }

/-- The type itself is never written in parts. -/
def sorted (contentType : Text) : Except Failure Sorted :=
  match parameters contentType with
  | [] => .ok ⟨[], []⟩
  | first :: rest => rest.foldlM Sorted.add ⟨[first], []⟩

/-- Whether some parts have numbers and others have none. -/
def areMixed (parts : List Part) : Bool :=
  parts.any (·.number.isSome) && parts.any (·.number.isNone)

/-- The character set that is named, in small letters. -/
def charset? (contentType : Text) : Except Failure (Option Text) := do
  let isCharset (name : Text) : Bool := name.map Char.toLower == "charset".toList
  let all ← sorted contentType
  if all.inParts.any (areMixed ·.2) then .error .mixedParts
  let inParts := List.find? (isCharset ·.1) all.inParts
  let value ← match all.plain.find? (isCharset ·.name), inParts with
    | some p, _ => pure (some p.value)
    | none, some (_, parts) => (wholeValue parts).map some
    | none, none => pure none
  return (value.filter fun text => text.all fun c => c.toNat < 0x80).map fun text =>
    text.map Char.toLower

end DepView.Overlay.ContentType
