import DepView.Console.Styled

/-!
Lines that fit a width. A text is broken before a word, where a word keeps the blanks behind it.
A word that is wider than a line is either folded, which breaks it anywhere, or cut, which leaves
an ellipsis for its end. No text is lost by breaking it.
-/

namespace DepView.Console

inductive Overflow where
  | fold
  | ellipsis
deriving DecidableEq, Repr

/-- Breaks a text wherever a blank comes before another character. -/
def breakBlanks : Text → List Text
  | [] => []
  | c :: rest =>
    match breakBlanks rest with
    | [] => [[c]]
    | word :: more =>
      if Text.isBlank c && !word.head?.any Text.isBlank then [c] :: word :: more
      else (c :: word) :: more

/-- The words of a text, each with the blanks behind it. The first one has those before it too. -/
def words (text : Text) : List Text :=
  match breakBlanks text with
  | lead :: word :: more =>
    if lead.head?.any Text.isBlank then (lead ++ word) :: more else lead :: word :: more
  | pieces => pieces

/-- The places of some texts that follow each other. -/
def startsFrom (place : Nat) : List Text → List Nat
  | [] => []
  | piece :: more => place :: startsFrom (place + piece.length) more

/-- The places before which lines are broken. The line before the first word has `used` cells. -/
def breaksFrom (overflow : Overflow) (width place used : Nat) : List Text → List Nat
  | [] => []
  | word :: more =>
    let size := Text.width (Text.trimEndWhile Text.isBlank word)
    let next := place + word.length
    if used + size ≤ width then breaksFrom overflow width next (used + Text.width word) more
    else if width < size && overflow == .fold then
      let pieces := Text.chop width word
      startsFrom place pieces ++
        breaksFrom overflow width next (Text.width (pieces.getLast?.getD [])) more
    else place :: breaksFrom overflow width next (Text.width word) more

/-- The places inside a line before which it is broken. -/
def breaks (overflow : Overflow) (width : Nat) (line : Text) : List Nat :=
  (breaksFrom overflow width 0 0 (words line)).filter (· != 0)

/-- A line that is wider than it may be, brought to the width. -/
def shorten (overflow : Overflow) (width : Nat) (line : Styled) : Styled :=
  if Text.width line.text ≤ width then line
  else match overflow with
    | .fold => line.withText (Text.fit width line.text)
    | .ellipsis => line.withText (Text.fit (width - 1) line.text ++ ['…'])

/-- A line with blanks behind it up to a width. -/
def fillEnd (width : Nat) (line : Styled) : Styled :=
  { line with text := line.text ++ Text.blanks (width - Text.width line.text) }

/-- A line in the middle of a width. -/
def centre (width : Nat) (line : Styled) : Styled :=
  let line := shorten .fold width line.trimEnd
  fillEnd width (line.indent ((width - Text.width line.text) / 2))

/-- A line at the start of a width. One that is cut ends where it is cut. -/
def alignStart (width : Nat) (line : Styled) : Styled :=
  if width < Text.width line.text then shorten .ellipsis width line else fillEnd width line

/-- The lines of a text, none wider than the width. -/
def wrap (overflow : Overflow) (width : Nat) (t : Styled) : List Styled :=
  t.lines.flatMap fun line =>
    let line := line.expandTabs
    (line.divide (breaks overflow width line.text)).map (Styled.trimExcess width)

end DepView.Console
