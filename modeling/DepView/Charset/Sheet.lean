import DepView.Text.Ranges

/-!
The sheets of character sets that are written in print: places in rows, with a character at many of
them.
-/

namespace DepView.Charset

/-- The characters by their places. A blank stands for a place without one. -/
structure Sheet where
  cells : Array Char
deriving Repr

namespace Sheet

/-- Puts characters on a sheet, from a place on. -/
def put (cells : Array Char) (place : Nat) : Text → Array Char
  | [] => cells
  | c :: rest => put (cells.setIfInBounds place c) (place + 1) rest

/-- The sheet of some runs. A run is written as the number of its first place, in base 36, with a
blank behind it, and its characters. -/
def ofLines (size : Nat) (lines : List String) : Sheet where
  cells := lines.foldl (fun cells line =>
    let start := line.toList.takeWhile (· != ' ')
    put cells (start.foldl (fun n c => 36 * n + Text.numeralDigit c) 0)
      (line.toList.drop (start.length + 1))) (Array.replicate size ' ')

def char? (s : Sheet) (place : Nat) : Option Char :=
  match s.cells[place]? with
  | some c => if c == ' ' then none else some c
  | none => none

/-- The character at a place that two bytes name, where there are 94 rows of 94 and the first byte
of each kind is 0x21. -/
def cell? (s : Sheet) (row column : Nat) : Option Char :=
  if 0x21 ≤ row && row ≤ 0x7e && 0x21 ≤ column && column ≤ 0x7e then
    s.char? ((row - 0x21) * 94 + (column - 0x21))
  else none

end Sheet

/-- A second byte that leaves out the control character between two ranges of letters: its place in
a row, if it is from 0x40 to `last`. -/
def rowPlace? (last byte : Nat) : Option Nat :=
  if byte < 0x40 || byte == 0x7f || last < byte then none
  else some (if byte < 0x7f then byte - 0x40 else byte - 0x41)

end DepView.Charset
