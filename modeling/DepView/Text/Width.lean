import DepView.Text.Ranges

/-!
The width of text on a screen of fixed cells. Characters of East Asian scripts and emoji take two
cells, marks and characters without a shape none, all others one. A joiner takes in the character
behind it, and a selector of emoji shape widens a narrow one before it; so a text is cut only
between its clusters: a character with what changes or joins it.
-/

namespace DepView.Text

/-- Characters that take two cells. -/
def wides : Ranges := Ranges.ofLines
  ["3cw 2o 3i2 2 d 2 5a 4 3 1 2 1 eh 2 l 2 q 8 g c 17 1 a 6 3 1 d 1 8 2 h 2 5 2 8 1 5 1 l 1 7 2 ",
   "1 1 4 1 2 1 7 1 4 2 s 1 z 1 1 1 4 3 1 1 1p 3 o 1 e 1 nv 2 1f 1 4 1 mi q 1 2h c 5y q 1m 6 f 2 ",
   "2e 4 2t 5 17 1 1f 1 16 1 2e 9 1c 1 14 8 mkd 3 1j wp t hv 8mc 6l8 e8 ls a m z 1 j 1 4 45 2o ",
   "3j 7 m49 4 e 5 9 5p2 15 w 2p 37 6pp 4 1 7 1 2 1 83 f 1 t 3 2 1 e 4 8 b0 6bo 2f 9 n 5n1 1 5m ",
   "1 5a 1 2 a 2t 3 d 18 4 9 7 2 e 6 4a x c 9 1 1y 1 m c 17 4 5 c h 3 1 3 3 5 1r 1 1 1 57 2 1r d ",
   "4 1 o i 1 q 2 d 1 2e 2d 1c 1y 6 1 3 3 2 4 3 4 b 2 7 9 6b c 4 1 7v 1b 1 a 1 55 34 d 3 b 3 1l ",
   "1 1 4 g 2 c 4 a zr 1eke 2 1eke "]

/-- Characters that take no cell: marks, joiners and others that are not seen. -/
def shapeless : Ranges := Ranges.ofLines
  ["0 1 lb 34 7n 7 7b 19 1 1 1 2 1 2 1 1 20 b 1 1 1a l g 1 2t 7 2 6 2 2 1 4 z 1 u r 2j b 1m 9 9 ",
   "1 o 4 1 9 1 3 1 5 17 3 1n 9 16 o 1 x 1i 3 1 i 1 7 a 2 t 3 1k 1 1 7 2 2 2 3 9 1 a 2 q 1 2 3 ",
   "1k 1 1 5 4 2 2 3 3 1 u 2 3 1 b 3 1k 1 1 8 1 3 1 3 k 2 m 6 1 3 1k 1 1 7 2 2 2 3 7 3 a 2 u 1 ",
   "1n 5 3 3 1 4 9 1 14 5 1j 1 1 7 1 3 1 4 7 2 b 2 t 3 1k 1 1 7 1 3 1 4 7 2 b 2 f 1 c 4 1j 2 1 7 ",
   "1 3 1 4 9 1 a 2 t 3 1y 1 4 6 1 1 1 8 i 2 1p 1 2 7 c 8 2q 1 2 9 b 7 21 2 r 1 1 1 1 1 4 2 1d k ",
   "1 2 5 b 1 10 9 1 2s k n 4 4 3 1 3 2 7 3 4 d c 1 1 a 4 5e 4g 9p 3 qa 4 s 3 t 2 u 2 1s w 9 1 ",
   "19 5 39 2 y 1 3a c 4 c 63 5 1l a 1 t 2 1 1c 1a 2 c k 5 1b h 12 9 c 3 u d 1k e 1c k 48 3 1 l ",
   "4 1 6 1 2 3 5i 1s ej 5 o 7 1d g 2o x 2da 3 3x 1 2o w fe 6 2x 2 5l 1 n4a 4 1 a w 2 28 2 7k 1 ",
   "3 1 4 1 n 5 4 1 2b 2 1e i q i d 1 12 8 p d 18 4 1b e 10 1 1v e c 1 8 2 19 3 1e 1 1 3 2 2 5 2 ",
   "1 1 15 5 5 2 6k 8 1 2 8n6 28 6xq 1 kh g g g 5r 1 4g 1 27 c e9 1 6a 1 45 5 1ae 3 1 2 5 4 14 3 ",
   "4 1 4l 2 fx 4 1t 5 8t 2 25 6 1y b 1d 4 3e 3 1h f 15 1 2 2 a 4 19 b 7 1 1p 3 10 e g 2 18 1 c ",
   "3 1c e 8 4 1 2 2k c 6 1 2 1 4d c l 4 1j 2 1 7 2 2 2 3 9 1 a 2 2 7 3 5 1v 9 1 1 2 1 1 4 1 5 1 ",
   "1 e 2 2a i n 1 29 k 6j 7 2 9 r 2 2a h 2y d 2t f 74 f 6t 6 1 2 2 4 1 1 1 2 3x 7 2 7 3 1 s a ",
   "14 7 1 4 8 1 9 b 1a g 5i 8 5j 8 1 8 2a m 1 e 3e 6 3 1 1 2 1 7 1 1 1u 5 1 2 1 5 9n 4 9 2 1 1 ",
   "1c 7 3 5 n 1 445 h 6 f 8ug i 1xc 5 1n 7 t4 1 1 1j 7 4 29 1 b 2 f57 2 1 4 3mk 1a 2 n f2 5 3 m ",
   "2 7 u 4 44 3 1iz 1j 4 1e 8 1 e 1 m 5 1 f 11s 7 1 h 2 7 1 2 1 5 2s 1 4g 7 af 1 1p 4 e4 4 72 2 ",
   "6r 1 2 1 7 2 5 1 d6 7 31 7 240 5 gx6o 35s "]

/-- Narrow characters that take two cells in emoji shape. -/
def emojiText : Ranges := Ranges.ofLines
  ["z 1 6 1 5 a 33 1 4 1 68d 1 c 1 60 1 m 1 2i 6 f 2 al 1 4m 1 t 3 1 2 5 3 5j 1 6f 2 a 1 9 1 1m ",
   "2 3 5 9 1 2 1 6 1 4 1 2 1 1 2 2 1 3 1 3 2 8 3 5 1 1 1 s 2 2 1 1 2 1 1 i 1 2 1 j 1 1 4 1 1 1 ",
   "2 3 1 6 1 8 2 m 1 6 1 1 1 1 1 l 1 6 2 2 1 2 3 8 1 5 2 2 2 1 1 2 1 1 1 1 1 6 1 3 1 h 2 f 1 2 ",
   "1 r 2 1o 1 b6 2 cv 3 2hrc 2 c 2 bl 1 2 9 9 1 1y 1 o 2 1 3 2 2 17 4 5 c j 1 1 1 1 1 1z 1 1 1 ",
   "57 1 23 2 10 2 2 7 d 1 2 4 2 1 k 1 2 1 8 2 9 1 5 3 c 3 8 3 2 1 1 1 4 1 6 1 3 1 6 1 5s 1 1 3 ",
   "g 6 3 1 6 1 2 1 "]

/-- Joins the character before it with the one behind it. -/
def joiner : Char := '\u200d'

/-- Gives the character before it the shape of an emoji. -/
def emojiShape : Char := '\ufe0f'

/-- The cells that a character takes by itself. -/
def cellsOf (c : Char) : Nat :=
  let n := c.toNat
  if n < 32 || (0x7f ≤ n && n < 0xa0) then 0
  else if n < 0x300 then 1
  else if shapeless.has c then 0
  else if wides.has c then 2
  else 1

/-- The cells that a text takes behind a character that may still be widened. -/
def widthFrom (last : Option Char) : Text → Nat
  | [] => 0
  | [c] =>
    if c == joiner then 0
    else if c == emojiShape then (if last.any emojiText.has then 1 else 0)
    else cellsOf c
  | c :: next :: rest =>
    if c == joiner then widthFrom last rest
    else if c == emojiShape then
      (if last.any emojiText.has then 1 else 0) + widthFrom none (next :: rest)
    else if cellsOf c = 0 then widthFrom last (next :: rest)
    else cellsOf c + widthFrom (some c) (next :: rest)

/-- The cells that a line takes. -/
def width (text : Text) : Nat :=
  widthFrom none text

/-- A character with what changes or joins it, and the cells that they take. -/
structure Cluster where
  text : Text
  cells : Nat
deriving DecidableEq, Repr

/-- The clusters of a text behind one that is still open, and the character in that one that may be
widened. -/
def clustersFrom (first : Cluster) (last : Option Char) : Text → List Cluster
  | [] => [first]
  | [c] =>
    if c == joiner then [⟨first.text ++ [c], first.cells⟩]
    else if c == emojiShape then
      [⟨first.text ++ [c], first.cells + if last.any emojiText.has then 1 else 0⟩]
    else if cellsOf c = 0 then [⟨first.text ++ [c], first.cells⟩]
    else [first, ⟨[c], cellsOf c⟩]
  | c :: next :: rest =>
    if c == joiner then clustersFrom ⟨first.text ++ [c, next], first.cells⟩ last rest
    else if c == emojiShape then
      if last.any emojiText.has then
        clustersFrom ⟨first.text ++ [c], first.cells + 1⟩ none (next :: rest)
      else clustersFrom ⟨first.text ++ [c], first.cells⟩ last (next :: rest)
    else if cellsOf c = 0 then
      clustersFrom ⟨first.text ++ [c], first.cells⟩ last (next :: rest)
    else first :: clustersFrom ⟨[c], cellsOf c⟩ (some c) (next :: rest)

/-- The clusters of a text. One that starts with a joiner or a selector has nothing to join. -/
def clusters : Text → List Cluster
  | [] => []
  | c :: rest =>
    if c == joiner || c == emojiShape || cellsOf c = 0 then clustersFrom ⟨[c], 0⟩ none rest
    else clustersFrom ⟨[c], cellsOf c⟩ (some c) rest

/-- The first clusters that take some cells. One that would be cut in two is left out, with a blank
for its first half. -/
def takeCells (cells : Nat) : List Cluster → Text
  | [] => []
  | c :: rest =>
    if cells = 0 then []
    else if c.cells ≤ cells then c.text ++ takeCells (cells - c.cells) rest
    else [' ']

def blanks (n : Nat) : Text :=
  List.replicate n ' '

/-- The text filled with blanks, or cut, to some cells. -/
def fit (cells : Nat) (text : Text) : Text :=
  if width text ≤ cells then text ++ blanks (cells - width text)
  else takeCells cells (clusters text)

/-- Cuts clusters into pieces that fit a width. Some clusters, which take `used` cells, are in the
first piece already. -/
def chopFrom (width used : Nat) (piece : Text) : List Cluster → List Text
  | [] => if used = 0 then [] else [piece]
  | c :: rest =>
    if used + c.cells ≤ width then chopFrom width (used + c.cells) (piece ++ c.text) rest
    else piece :: chopFrom width c.cells c.text rest

/-- Cuts a text into pieces that fit a width. -/
def chop (width : Nat) (text : Text) : List Text :=
  chopFrom width 0 [] (clusters text)

end DepView.Text
