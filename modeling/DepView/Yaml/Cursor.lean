import DepView.Text.Basic
import DepView.Yaml.Fault

/-!
A place in a YAML document: what is left of the text, and how far it is from the start of the
document and of its line. Blocks are told apart by columns, so reading goes character by character.
The NUL character stands for the end of the text, which holds none itself.
-/

namespace DepView.Yaml

/-- The characters that a document may hold. -/
def isPrintable (c : Char) : Bool :=
  let n := c.toNat
  n == 9 || n == 10 || n == 13 || (0x20 ≤ n && n ≤ 0x7e) || n == 0x85 || (0xa0 ≤ n && n ≤ 0xd7ff) ||
    (0xe000 ≤ n && n ≤ 0xfffd) || 0x10000 ≤ n

def isBreak (c : Char) : Bool :=
  ['\n', '\r', '\x85', '\u2028', '\u2029'].contains c

def isTab (c : Char) : Bool :=
  c == ' ' || c == '\t'

/-- A line break or the end of the text. -/
def isLineEnd (c : Char) : Bool :=
  c == '\x00' || isBreak c

/-- What ends a line or a word. -/
def isGap (c : Char) : Bool :=
  isTab c || isLineEnd c

/-- What separates the parts of a collection in brackets. -/
def isFlowMark (c : Char) : Bool :=
  [',', '[', ']', '{', '}'].contains c

/-- What a name consists of. -/
def isWordChar (c : Char) : Bool :=
  c.isAlphanum || c == '-' || c == '_'

structure Cursor where
  rest : Text
  index : Nat
  line : Nat
  column : Nat

namespace Cursor

def ofText (text : Text) : Cursor :=
  ⟨text, 0, 0, 0⟩

def isAtEnd (c : Cursor) : Bool :=
  c.rest.isEmpty

/-- The character `n` places ahead. -/
def peekAt (c : Cursor) (n : Nat) : Char :=
  c.rest.getD n '\x00'

def peek (c : Cursor) : Char :=
  c.peekAt 0

/-- Goes over one character. A byte order mark has no width. -/
def next (c : Cursor) : Cursor :=
  match c.rest with
  | [] => c
  | ch :: rest =>
    if isBreak ch && !(ch == '\r' && rest.head? == some '\n') then
      ⟨rest, c.index + 1, c.line + 1, 0⟩
    else ⟨rest, c.index + 1, c.line, if ch == '\ufeff' then c.column else c.column + 1⟩

def skip (c : Cursor) : Nat → Cursor
  | 0 => c
  | n + 1 => c.next.skip n

/-- The characters of a class ahead, and the cursor behind them. -/
def span (c : Cursor) (p : Char → Bool) : Text × Cursor :=
  let found := c.rest.takeWhile p
  (found, c.skip found.length)

def skipWhile (c : Cursor) (p : Char → Bool) : Cursor :=
  (c.span p).2

/-- Goes over a line break. The common line breaks all count as a line feed. -/
def lineBreak (c : Cursor) : Text × Cursor :=
  match c.rest with
  | '\r' :: '\n' :: _ => (['\n'], c.skip 2)
  | ch :: _ =>
    if ch == '\u2028' || ch == '\u2029' then ([ch], c.next)
    else if isBreak ch then (['\n'], c.next)
    else ([], c)
  | [] => ([], c)

/-- Whether a document starts or ends here: three dashes or dots at the start of a line. -/
def isAtMarker (c : Cursor) (mark : Char) : Bool :=
  c.column == 0 && c.rest.take 3 == [mark, mark, mark] && isGap (c.peekAt 3)

def isAtBoundary (c : Cursor) : Bool :=
  c.isAtMarker '-' || c.isAtMarker '.'

/-- Goes over blanks and a comment to the end of the line, where nothing else may stand. -/
def endLine (c : Cursor) : Except Fault Cursor :=
  let c := c.skipWhile (· == ' ')
  let c := if c.peek == '#' then c.skipWhile (!isLineEnd ·) else c
  if isLineEnd c.peek then .ok c.lineBreak.2 else .error .malformed

end Cursor

end DepView.Yaml
