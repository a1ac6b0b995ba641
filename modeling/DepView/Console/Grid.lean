import DepView.Console.Markup
import DepView.Console.Wrap

/-!
A titled grid of labels and values on a screen. Every text in it may hold markup. The labels get
the room they need; the values get what they need of the rest, and longer ones are wrapped.
-/

namespace DepView.Console

structure Grid where
  title : Text
  rows : List (Text × Text)
deriving DecidableEq, Repr

/-- The columns of the screen. -/
def screenWidth : Nat := 80

/-- The cells that the pieces of a line take, each by itself. -/
def lineWidth (pieces : List Text) : Nat :=
  pieces.foldl (fun cells piece => cells + Text.width piece) 0

/-- The pieces of a line that fit into some cells. The last one is cut. -/
def cropLine (cells : Nat) : List Text → List Text
  | [] => []
  | piece :: rest =>
    if Text.width piece < cells then piece :: cropLine (cells - Text.width piece) rest
    else [Text.fit cells piece]

/-- A line with no more than some cells. -/
def limitLine (cells : Nat) (line : List Text) : List Text :=
  if cells < lineWidth line then cropLine cells line else line

/-- A line with just so many cells. -/
def fitLine (cells : Nat) (line : List Text) : List Text :=
  if lineWidth line < cells then line ++ [Text.blanks (cells - lineWidth line)]
  else limitLine cells line

namespace Grid

/-- Whether a character ends a line when a text is measured. -/
def endsLine (c : Char) : Bool :=
  c == '\n' || (0x1c ≤ c.toNat && c.toNat ≤ 0x1e) || c == '\x85' || c == '\u2028' || c == '\u2029'

/-- The cells that the widest line of the texts takes. -/
def contentWidth (texts : List Text) : Nat :=
  ((texts.flatMap fun text => Text.lines (text.map fun c => if endsLine c then '\n' else c)).map
    Text.width).foldl max 0

/-- The widths of the two columns, with a blank at either side. Three columns of the screen are
taken by the border. -/
def columns (rows : List (Text × Text)) : Nat × Nat :=
  let room := screenWidth - 3
  let labels := min room (contentWidth (rows.map (·.1)) + 2)
  (labels, min (room - labels) (contentWidth (rows.map (·.2)) + 2))

/-- A line of the border. -/
def border (left middle right : Char) (columns : Nat × Nat) : Text :=
  left :: List.replicate columns.1 '─' ++ middle :: List.replicate columns.2 '─' ++ [right]

/-- The lines of a text in a column. -/
def cellLines (width : Nat) (text : Styled) : List Styled :=
  (wrap .ellipsis (width - 2) text).map (alignStart (width - 2))

/-- A line in a column, with a blank at either side. -/
def pad (width : Nat) (line : Styled) : List Text :=
  fitLine width (fitLine width ([' '] :: fitLine (width - 2) line.pieces ++ [[' ']]))

/-- The lines of a row: as many as its longer cell has. -/
def rowLines (columns : Nat × Nat) (row : Styled × Styled) : List (List Text) :=
  let labels := (cellLines columns.1 row.1).map (pad columns.1)
  let values := (cellLines columns.2 row.2).map (pad columns.2)
  (List.range (max labels.length values.length)).map fun n =>
    [['│']] ++ labels.getD n [Text.blanks columns.1] ++ [['│']] ++
      values.getD n [Text.blanks columns.2] ++ [['│']]

/-- The style of a title. -/
def titleStyle : Text := "table.title".toList

/-- The lines of a title over the columns. -/
def titleLines (columns : Nat × Nat) (title : Styled) : List Styled :=
  let width := columns.1 + columns.2 + 3
  (wrap .fold width { title with base := some titleStyle }).map (centre width)

/-- Whether a style that is left on a line cannot be read, as a part of its color is no number. -/
def isFaulty (line : Styled) : Bool :=
  line.spans.any fun s => match Style.read s.style with
    | .error .noNumber => true
    | _ => false

/-- The lines of a grid, unless its markup is at fault. -/
def draw (g : Grid) : Except Markup.Fault (List Text) := do
  let rows ← g.rows.mapM fun (label, value) => do
    return (← Markup.read label, ← Markup.read value)
  let columns := columns (rows.map fun (label, value) => (label.text, value.text))
  let title := titleLines columns (← Markup.read g.title)
  if title.any isFaulty || rows.any (fun row => (cellLines columns.2 row.2).any isFaulty) then
    throw .noNumber
  let lines := title.map Styled.pieces ++ [[border '┌' '┬' '┐' columns]] ++
    rows.flatMap (rowLines columns) ++ [[border '└' '┴' '┘' columns]]
  return lines.map fun line => (limitLine screenWidth line).flatten

end Grid

end DepView.Console
