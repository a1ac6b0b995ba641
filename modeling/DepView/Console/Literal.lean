import DepView.Decimal.Literal
import DepView.Text.Blank
import DepView.Text.Names
import DepView.Text.Scan
import DepView.Text.Surrogate

/-!
Literals: numbers, quoted texts, a few named constants, and tuples, sets and tables of literals.
This module says which texts are literals; their values are of no use to a screen.
-/

namespace DepView.Console.Literal

inductive Token where
  | number (imaginary : Bool)
  | quoted (ofBytes : Bool)
  | constant
  /-- The name of the empty set, which brackets have to follow. -/
  | setName
  /-- A plus or a minus. -/
  | sign
  | mark (c : Char)
deriving DecidableEq, Repr

def isHex (c : Char) : Bool :=
  c.isDigit || ('a' ≤ c.toLower && c.toLower ≤ 'f')

def isNameStart (c : Char) : Bool :=
  c.isAlpha || c == '_' || 128 ≤ c.toNat

def isNamePart (c : Char) : Bool :=
  isNameStart c || c.isDigit

/-- Digits, each of which may have an underscore before it, and the text behind them. -/
def digits (p : Char → Bool) : Text → Text × Text
  | '_' :: c :: rest =>
    if p c then let (found, rest) := digits p rest; (c :: found, rest) else ([], '_' :: c :: rest)
  | c :: rest =>
    if p c then let (found, rest) := digits p rest; (c :: found, rest) else ([], c :: rest)
  | [] => ([], [])

/-- Digits of which the first has no underscore before it. -/
def digitsNow (p : Char → Bool) (text : Text) : Text × Text :=
  if text.head?.any p then digits p text else ([], text)

/-- The text behind an exponent, if there is one. -/
def afterExponent? : Text → Option Text
  | e :: rest =>
    if e.toLower != 'e' then none
    else
      let unsigned := match rest with
        | '+' :: rest | '-' :: rest => rest
        | rest => rest
      match digitsNow Char.isDigit unsigned with
      | ([], _) => none
      | (_, rest) => some rest
  | [] => none

/-- Whether digits are a whole number: no zero stands before other digits. -/
def isWhole (digits : Text) : Bool :=
  if digits.head? == some '0' then digits.all (· == '0')
  else !digits.isEmpty && digits.length ≤ Decimal.maxDigits

/-- Reads a number that is written with the digits of another base behind a zero and a letter. -/
def based? (mark : Char) (rest : Text) : Option Text :=
  match mark.toLower with
  | 'x' => behind (digits isHex rest)
  | 'o' => behind (digits (fun c => '0' ≤ c && c ≤ '7') rest)
  | 'b' => behind (digits (fun c => c == '0' || c == '1') rest)
  | _ => none
where
  behind : Text × Text → Option Text :=
    fun (found, rest) => if found.isEmpty then none else some rest

/-- Reads a number in base ten. -/
def decimal? (text : Text) : Option (Bool × Text) :=
  let (whole, rest) := digitsNow Char.isDigit text
  let (fraction, rest) := match rest with
    | '.' :: rest => let (found, rest) := digitsNow Char.isDigit rest; (some found, rest)
    | rest => (none, rest)
  let (hasExponent, rest) := match afterExponent? rest with
    | some rest => (true, rest)
    | none => (false, rest)
  if whole.isEmpty && (fraction.getD []).isEmpty then none
  else match rest with
    | j :: after =>
      if j.toLower == 'j' then some (true, after)
      else if fraction.isSome || hasExponent || isWhole whole then some (false, rest)
      else none
    | [] => if fraction.isSome || hasExponent || isWhole whole then some (false, []) else none

/-- Reads a number. A part of a name may not follow it. -/
def number? (text : Text) : Option (Token × Text) := do
  let (imaginary, rest) ← match text with
    | '0' :: mark :: rest =>
      if mark.isAlpha && mark.toLower != 'e' && mark.toLower != 'j' then
        (based? mark rest).map fun rest => (false, rest)
      else decimal? text
    | _ => decimal? text
  if rest.head?.any isNamePart then none else some (.number imaginary, rest)

/-- What stands up to the quote that ends it, and the text behind. A long text is ended by three
quotes and may have several lines. -/
def inside? (quote : Char) (long : Bool) : Text → Option (Text × Text)
  | [] => none
  | '\\' :: c :: rest =>
    (inside? quote long rest).map fun (inner, rest) => ('\\' :: c :: inner, rest)
  | c :: rest =>
    let further := (inside? quote long rest).map fun (inner, rest) => (c :: inner, rest)
    if c == quote then
      if !long then some ([], rest)
      else match Text.after? [quote, quote] rest with
        | some rest => some ([], rest)
        | none => further
    else if c == '\n' && !long then none
    else further

/-- Whether a text starts with so many digits in base 16. -/
def startsHex (n : Nat) (text : Text) : Bool :=
  n ≤ text.length && (text.take n).all isHex

/-- Whether the digits name a code point. Eight digits may be too large for one. -/
def isCode (n : Nat) (text : Text) : Bool :=
  startsHex n text && (n != 8 || ((text.take 2).all (· == '0') && (text.drop 2).head? == some '0') ||
    Text.after? "0010".toList text != none)

/-- Whether every backslash in a text is followed by what it needs. -/
def escapesFit (ofBytes : Bool) : Text → Bool
  | '\\' :: 'x' :: rest => startsHex 2 rest && escapesFit ofBytes rest
  | '\\' :: 'u' :: rest => (ofBytes || isCode 4 rest) && escapesFit ofBytes rest
  | '\\' :: 'U' :: rest => (ofBytes || isCode 8 rest) && escapesFit ofBytes rest
  | '\\' :: 'N' :: rest => (ofBytes || startsName rest) && escapesFit ofBytes rest
  | '\\' :: _ :: rest => escapesFit ofBytes rest
  | _ :: rest => escapesFit ofBytes rest
  | [] => true
where
  startsName : Text → Bool
    | '{' :: rest =>
      (rest.contains '}') && (Text.named? (rest.takeWhile (· != '}'))).isSome
    | _ => false

/-- Reads a quoted text behind the letters that say how it is to be read. -/
def quoted? (letters : Text) (text : Text) : Option (Token × Text) := do
  let raw := letters.contains 'r'
  let ofBytes := letters.contains 'b'
  let (quote, rest) ← match text with
    | quote :: rest => some (quote, rest)
    | [] => none
  let (inner, rest) ← match Text.after? [quote, quote] rest with
    | some rest => inside? quote true rest
    | none => inside? quote false rest
  if ofBytes && inner.any (fun c => 128 ≤ c.toNat) then none
  else if raw || escapesFit ofBytes inner then some (.quoted ofBytes, rest)
  else none

def isQuote (c : Char) : Bool :=
  c == '\'' || c == '"'

/-- The letters that may stand before a quote. -/
def quoteLetters : List Text :=
  ["r", "u", "b", "br", "rb"].map String.toList

/-- Reads a name, or a quoted text that starts with letters. -/
def named? (text : Text) : Option (Token × Text) :=
  let name := text.takeWhile isNamePart
  let rest := text.dropWhile isNamePart
  if rest.head?.any isQuote then
    if quoteLetters.contains (name.map Char.toLower) then quoted? (name.map Char.toLower) rest
    else none
  else if name = "set".toList then some (.setName, rest)
  else if ["True", "False", "None"].any (·.toList == name) then some (.constant, rest)
  else none

def token? (text : Text) : Option (Token × Text) :=
  match text with
  | '.' :: '.' :: '.' :: rest => some (.constant, rest)
  | c :: rest =>
    if c.isDigit || c == '.' then number? text
    else if isQuote c then quoted? [] text
    else if isNameStart c then named? text
    else if c == '+' || c == '-' then some (.sign, rest)
    else if ['(', ')', '{', '}', ',', ':'].contains c then some (.mark c, rest)
    else none
  | [] => none

/-- Brackets may not be nested deeper. -/
def maxDepth : Nat := 200

/-- The depth of brackets behind a token. -/
def depthAfter (depth : Nat) : Token → Nat
  | .mark c =>
    if c == '(' || c == '{' then depth + 1 else if c == ')' || c == '}' then depth - 1 else depth
  | _ => depth

/-- The tokens of a text. A line may end only within brackets, or where nothing follows or is before
it. -/
def tokens (started : Bool) (depth : Nat) : Nat → Text → Option (List Token)
  | _, [] => some []
  | 0, _ => none
  | fuel + 1, c :: rest =>
    if c == ' ' || c == '\t' || c == '\x0c' then tokens started depth fuel rest
    else if c == '#' then tokens started depth fuel (rest.dropWhile (· != '\n'))
    else if c == '\n' then do
      let more ← tokens started depth fuel rest
      if started && depth = 0 && !more.isEmpty then none else some more
    else if c == '\\' && rest.head? == some '\n' then
      if rest.length = 1 then none else tokens started depth fuel (rest.drop 1)
    else do
      let (token, rest) ← token? (c :: rest)
      if maxDepth < depthAfter depth token then none
      else return token :: (← tokens true (depthAfter depth token) fuel rest)

/-- What is known of a literal. -/
inductive Kind where
  | real
  | imaginary
  | signedReal
  /-- Any other literal that may be an element of a set. -/
  | fixed
  /-- A set or a table. -/
  | collection
deriving DecidableEq, Repr

def Kind.mayBeElement (k : Kind) : Bool :=
  k != .collection

/-- The tokens behind texts that stand side by side. All are of bytes, or none is. -/
def afterQuoted? (ofBytes : Bool) : List Token → Option (List Token)
  | .quoted other :: rest => if other = ofBytes then afterQuoted? ofBytes rest else none
  | rest => some rest

/-- The tokens behind an end: a closing bracket, or the end of all tokens. -/
def afterEnd? : List Token → List Token → Option (List Token)
  | [], [] => some []
  | [token], first :: rest => if token = first then some rest else none
  | _, _ => none

mutual

/-- Reads a literal: a sum of a real and an imaginary number, or a part of one. -/
def literal? : Nat → List Token → Option (Kind × List Token)
  | 0, _ => none
  | fuel + 1, tokens => do
    let (left, rest) ← match tokens with
      | .sign :: rest => do
        match ← atom? fuel rest with
        | (.real, rest) => some (.signedReal, rest)
        | (.imaginary, rest) => some (.fixed, rest)
        | _ => none
      | tokens => atom? fuel tokens
    match rest with
    | .sign :: rest =>
      match left, ← atom? fuel rest with
      | _, (_, .sign :: _) => none
      | .real, (.imaginary, rest) | .signedReal, (.imaginary, rest) => some (.fixed, rest)
      | _, _ => none
    | rest => some (left, rest)

/-- Reads a number, texts, a constant, or what stands in brackets. -/
def atom? : Nat → List Token → Option (Kind × List Token)
  | 0, _ => none
  | fuel + 1, tokens =>
    match tokens with
    | .number imaginary :: rest => some (if imaginary then .imaginary else .real, rest)
    | .quoted ofBytes :: rest => (afterQuoted? ofBytes rest).map fun rest => (.fixed, rest)
    | .constant :: rest => some (.fixed, rest)
    | .setName :: .mark '(' :: .mark ')' :: rest => some (.collection, rest)
    | .mark '(' :: .mark ')' :: rest => some (.fixed, rest)
    | .mark '{' :: .mark '}' :: rest => some (.collection, rest)
    | .mark '(' :: rest => do
      match ← literal? fuel rest with
      | (kind, .mark ')' :: rest) => some (kind, rest)
      | (kind, .mark ',' :: rest) =>
        let (kinds, rest) ← literals? fuel [.mark ')'] rest
        some (if (kind :: kinds).all Kind.mayBeElement then .fixed else .collection, rest)
      | _ => none
    | .mark '{' :: rest => do
      let (kind, rest) ← literal? fuel rest
      if !kind.mayBeElement then none
      else match rest with
        | .mark '}' :: rest => some (.collection, rest)
        | .mark ',' :: rest =>
          let (kinds, rest) ← literals? fuel [.mark '}'] rest
          if kinds.all Kind.mayBeElement then some (.collection, rest) else none
        | .mark ':' :: rest => do
          match ← literal? fuel rest with
          | (_, .mark '}' :: rest) => some (.collection, rest)
          | (_, .mark ',' :: rest) => (entries? fuel rest).map fun rest => (.collection, rest)
          | _ => none
        | _ => none
    | _ => none

/-- Reads literals with commas between them up to an end. A comma may stand before the end. -/
def literals? : Nat → List Token → List Token → Option (List Kind × List Token)
  | 0, _, _ => none
  | fuel + 1, ending, tokens =>
    match afterEnd? ending tokens with
    | some rest => some ([], rest)
    | none => do
      let (kind, rest) ← literal? fuel tokens
      match rest, afterEnd? ending rest with
      | _, some rest => some ([kind], rest)
      | .mark ',' :: rest, none =>
        let (kinds, rest) ← literals? fuel ending rest
        some (kind :: kinds, rest)
      | _, none => none

/-- Reads the entries of a table up to its end. -/
def entries? : Nat → List Token → Option (List Token)
  | 0, _ => none
  | fuel + 1, tokens =>
    match tokens with
    | .mark '}' :: rest => some rest
    | tokens => do
      match ← literal? fuel tokens with
      | (kind, .mark ':' :: rest) =>
        if !kind.mayBeElement then none
        else match ← literal? fuel rest with
          | (_, .mark '}' :: rest) => some rest
          | (_, .mark ',' :: rest) => entries? fuel rest
          | _ => none
      | _ => none

end

/-- Whether a text is a literal. Literals with commas between them are one, a tuple. -/
def isLiteral (text : Text) : Bool :=
  let text := Text.foldNewlines (text.dropWhile Text.isIndent)
  !text.contains '\x00' && !Text.holdsSurrogate text &&
    match tokens false 0 (text.length + 1) text with
    | none | some [] => false
    | some found => match literals? (4 * found.length + 4) [] found with
      | some (_ :: _, []) => true
      | _ => false

end DepView.Console.Literal
