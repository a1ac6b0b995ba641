import DepView.Text.Blank
import DepView.Text.Width

/-!
Text of which some stretches have a style. A screen without styles shows no difference, but a
stretch is measured and cut by itself; so the stretches are kept while a text is broken into lines.
-/

namespace DepView.Console

/-- A stretch of a text: the place of its first character, the place behind its last one, and the
words for its style. -/
structure Span where
  start : Nat
  stop : Nat
  style : Text
deriving DecidableEq, Repr

structure Styled where
  text : Text
  /-- The style of the whole text, if it has one. -/
  base : Option Text
  spans : List Span
deriving DecidableEq, Repr

namespace Styled

def ofText (text : Text) : Styled :=
  ⟨text, none, []⟩

/-- The stretches within the first characters. -/
def spansWithin (length : Nat) (spans : List Span) : List Span :=
  (spans.filter (·.start < length)).map fun s => { s with stop := min length s.stop }

/-- Other characters for a text. Where they are fewer, its stretches end with them. -/
def withText (t : Styled) (text : Text) : Styled :=
  if text.length < t.text.length then { t with text, spans := spansWithin text.length t.spans }
  else { t with text }

/-- The characters from one place to before another. -/
def slice (t : Styled) (start stop : Nat) : Styled where
  text := (t.text.take stop).drop start
  base := t.base
  spans := t.spans.filterMap fun s =>
    let first := s.start - start
    let last := min (s.stop - start) (stop - start)
    if first < last then some ⟨first, last, s.style⟩ else none

/-- The slices from a place on, up to each of some places in ascending order and then to the end. -/
def slicesFrom (t : Styled) (start : Nat) : List Nat → List Styled
  | [] => [t.slice start t.text.length]
  | stop :: stops => t.slice start stop :: slicesFrom t stop stops

/-- The text, divided at some places in ascending order. -/
def divide (t : Styled) : List Nat → List Styled
  | [] => [t]
  | places => t.slicesFrom 0 places

/-- The places of a character in a text, from the place of the first one on. -/
def placesFrom (c : Char) (place : Nat) : Text → List Nat
  | [] => []
  | first :: rest => (if first = c then [place] else []) ++ placesFrom c (place + 1) rest

/-- The lines of a text. -/
def lines (t : Styled) : List Styled :=
  match placesFrom '\n' 0 t.text with
  | [] => [t]
  | places =>
    (t.divide (places.flatMap fun place => [place, place + 1])).filter (·.text != ['\n'])

/-- One text behind the other. A style of a whole text is one of its stretches in the result. -/
def join (parts : List Styled) : Styled :=
  parts.foldl (fun done part =>
    let here := done.text.length
    let whole := part.base.map fun style => ⟨here, here + part.text.length, style⟩
    { done with
      text := done.text ++ part.text
      spans := done.spans ++ whole.toList ++
        part.spans.map fun s => { s with start := here + s.start, stop := here + s.stop } })
    (ofText [])

/-- More blanks behind a text, in the style of its end. -/
def extend (t : Styled) (count : Nat) : Styled where
  text := t.text ++ Text.blanks count
  base := t.base
  spans := t.spans.map fun s =>
    if t.text.length ≤ s.stop then { s with stop := s.stop + count } else s

/-- The parts of a line with blanks for tabs, where each tab ends a part. The column of the next tab
is a multiple of eight. -/
def expandFrom (column : Nat) : List Styled → List Styled
  | [] => []
  | part :: rest =>
    match part.text.getLast? with
    | some '\t' =>
      let part := { part with text := part.text.dropLast ++ [' '] }
      let column := column + Text.width part.text
      let more := (8 - column % 8) % 8
      part.extend more :: expandFrom (column + more) rest
    | _ => part :: expandFrom (column + Text.width part.text) rest

/-- A line with blanks for its tabs. -/
def expandTabs (t : Styled) : Styled :=
  match placesFrom '\t' 0 t.text with
  | [] => t
  | places =>
    let parts := t.divide (places.map (· + 1))
    let parts := if t.text.getLast? == some '\t' then parts.dropLast else parts
    { t with text := (join (expandFrom 0 parts)).text, spans := (join (expandFrom 0 parts)).spans }

/-- A text without the blanks at its end. -/
def trimEnd (t : Styled) : Styled :=
  t.withText (Text.trimEndWhile Text.isBlank t.text)

/-- A line without the blanks at its end by which it has more characters than the width. -/
def trimExcess (width : Nat) (t : Styled) : Styled :=
  let trailing := t.text.length - (Text.trimEndWhile Text.isBlank t.text).length
  t.withText (t.text.take (t.text.length - min trailing (t.text.length - width)))

/-- A text behind some blanks. -/
def indent (count : Nat) (t : Styled) : Styled where
  text := Text.blanks count ++ t.text
  base := t.base
  spans := t.spans.map fun s => { s with start := s.start + count, stop := s.stop + count }

/-- The places where a stretch starts or ends. -/
def edges (t : Styled) : List Nat :=
  t.spans.flatMap fun s => [s.start, s.stop]

/-- The pieces of a text between the places where a stretch starts or ends. -/
def pieces (t : Styled) : List Text :=
  let inner := (t.edges.filter fun n => 0 < n && n < t.text.length).mergeSort.eraseDups
  ((t.divide inner).map (·.text)).filter (!·.isEmpty)

end Styled

end DepView.Console
