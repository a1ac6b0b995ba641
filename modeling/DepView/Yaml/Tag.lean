import DepView.Yaml.Date

/-!
The kinds of YAML values. A tag names a kind; a plain scalar without tag has the kind that its form
says, and is a text if it says none.
-/

namespace DepView.Yaml

inductive Tag where
  | null
  | bool
  | int
  | float
  | binary
  | timestamp
  | omap
  | pairs
  | set
  | str
  | seq
  | map
  | merge
  | value
  | unknown
deriving DecidableEq, Repr

namespace Tag

/-- The start of the full names of tags. -/
def space : Text := "tag:yaml.org,2002:".toList

def names : List (String × Tag) :=
  [("null", null), ("bool", bool), ("int", int), ("float", float), ("binary", binary),
   ("timestamp", timestamp), ("omap", omap), ("pairs", pairs), ("set", set), ("str", str),
   ("seq", seq), ("map", map), ("merge", merge), ("value", value)]

/-- The kind with a full name. -/
def ofText (text : Text) : Tag :=
  match Text.after? space text with
  | some name => (names.lookup (String.ofList name)).getD unknown
  | none => unknown

/-! The forms of plain scalars. -/

/-- A text without a sign at its head. -/
def unsigned : Text → Text
  | '+' :: rest => rest
  | '-' :: rest => rest
  | text => text

def isOneOf (words : List String) (text : Text) : Bool :=
  words.contains (String.ofList text)

/-- A digit and then digits and underscores. -/
def isRun (first : Char → Bool) : Text → Bool
  | c :: rest => first c && rest.all fun c => c.isDigit || c == '_'
  | [] => false

/-- A number below sixty in one or two digits. -/
def isSixtieth : Text → Bool
  | [a] => a.isDigit
  | [a, b] => '0' ≤ a && a ≤ '5' && b.isDigit
  | _ => false

/-- A number in base sixty, its places separated by colons. -/
def isSexagesimal (first : Char → Bool) (text : Text) : Bool :=
  match Text.splitAt ':' text with
  | whole :: place :: places => isRun first whole && (place :: places).all isSixtieth
  | _ => false

def isOctal (c : Char) : Bool := '0' ≤ c && c ≤ '7'

def isHexadecimal (c : Char) : Bool :=
  c.isDigit || ('a' ≤ c && c ≤ 'f') || ('A' ≤ c && c ≤ 'F')

/-- A non-empty text of digits of a class and underscores. -/
def isDigits (digit : Char → Bool) (text : Text) : Bool :=
  !text.isEmpty && text.all fun c => digit c || c == '_'

def isPositive (c : Char) : Bool := c.isDigit && c != '0'

def isInt (text : Text) : Bool :=
  match unsigned text with
  | ['0'] => true
  | '0' :: 'b' :: ds => isDigits (fun c => c == '0' || c == '1') ds
  | '0' :: 'x' :: ds => isDigits isHexadecimal ds
  | '0' :: ds => isDigits isOctal ds
  | body => isRun isPositive body || isSexagesimal isPositive body

/-- Nothing, or an exponent with a sign. -/
def isExponent : Text → Bool
  | [] => true
  | e :: sign :: ds =>
    (e == 'e' || e == 'E') && (sign == '+' || sign == '-') && !ds.isEmpty && ds.all Char.isDigit
  | _ => false

def isFloat (text : Text) : Bool :=
  let body := unsigned text
  let isDigitOrLow := fun (c : Char) => c.isDigit || c == '_'
  match body.takeWhile (· != '.'), body.dropWhile (· != '.') with
  | [], '.' :: fraction =>
    isOneOf ["inf", "Inf", "INF"] fraction ||
      (body == text && (isOneOf ["nan", "NaN", "NAN"] fraction ||
        (isRun Char.isDigit (fraction.takeWhile isDigitOrLow) &&
          isExponent (fraction.dropWhile isDigitOrLow))))
  | whole, '.' :: fraction =>
    (isRun Char.isDigit whole && isExponent (fraction.dropWhile isDigitOrLow)) ||
      (isSexagesimal Char.isDigit whole && fraction.all isDigitOrLow)
  | _, _ => false

def isBool : Text → Bool :=
  isOneOf ["yes", "Yes", "YES", "no", "No", "NO", "true", "True", "TRUE", "false", "False", "FALSE",
    "on", "On", "ON", "off", "Off", "OFF"]

/-- The kind that the form of a scalar says. -/
def ofForm (text : Text) : Tag :=
  if isBool text then bool
  else if isFloat text then float
  else if isInt text then int
  else if isOneOf ["<<"] text then merge
  else if isOneOf ["", "~", "null", "Null", "NULL"] text then null
  else if Date.isPlain text then timestamp
  else if isOneOf ["="] text then value
  else str

/-- The kind of a plain scalar. A line feed at its end is no part of its form. -/
def ofPlain (text : Text) : Tag :=
  match text.getLast? with
  | some '\n' => if text.length == 1 then str else ofForm text.dropLast
  | _ => ofForm text

end Tag

end DepView.Yaml
