import DepView.Text.Percent
import DepView.Text.Surrogate
import DepView.Yaml.Cursor

/-!
The ways to write a scalar: plain, in single or double quotes, and as a block of lines. Where a
scalar goes on over several lines, a single line break counts as a blank, and of several ones the
first is dropped.
-/

namespace DepView.Yaml.Scalar

/-- A line break as it counts within a scalar, with the empty lines behind it. -/
def folded (first breaks : Text) : Text :=
  if first != ['\n'] then first ++ breaks
  else if breaks.isEmpty then [' ']
  else breaks

/-! Plain scalars. -/

/-- Goes over empty lines. There is nothing to find if the document ends behind them. -/
def plainBreaks : Nat → Text → Cursor → Option Text × Cursor
  | 0, breaks, c => (some breaks, c)
  | fuel + 1, breaks, c =>
    if c.isAtBoundary then (none, c)
    else if c.peek == ' ' then plainBreaks fuel breaks c.next
    else if isBreak c.peek then
      let (found, c) := c.lineBreak
      plainBreaks fuel (breaks ++ found) c
    else (some breaks, c)

/-- What stands between two words of a plain scalar. -/
structure PlainGap where
  text : Text
  hasBreak : Bool
  cursor : Cursor

def plainGap (c : Cursor) : PlainGap :=
  let (blanks, c) := c.span (· == ' ')
  if isBreak c.peek then
    let (first, c) := c.lineBreak
    match plainBreaks (c.rest.length + 1) [] c with
    | (none, c) => ⟨[], true, c⟩
    | (some breaks, c) => ⟨folded first breaks, true, c⟩
  else ⟨blanks, false, c⟩

/-- The length of a word of a plain scalar. A colon ends it only before a gap. -/
def plainWord (isFlow : Bool) : Text → Nat
  | [] => 0
  | ch :: rest =>
    let ahead := rest.headD '\x00'
    if isGap ch || (ch == ':' && (isGap ahead || (isFlow && isFlowMark ahead))) ||
        (isFlow && (isFlowMark ch || ch == '?')) then 0
    else plainWord isFlow rest + 1

/-- A plain scalar, whether it ends behind a line break, and the cursor behind it. Its lines are
indented by `indent` at least unless it stands in brackets. -/
def plainFrom (isFlow : Bool) (indent : Int) : Nat → Text → PlainGap → Text × Bool × Cursor
  | 0, found, gap => (found, gap.hasBreak, gap.cursor)
  | fuel + 1, found, gap =>
    let c := gap.cursor
    let size := plainWord isFlow c.rest
    if c.peek == '#' || size == 0 then (found, gap.hasBreak, c)
    else
      let found := found ++ gap.text ++ c.rest.take size
      let gap := plainGap (c.skip size)
      if gap.text.isEmpty || (!isFlow && (gap.cursor.column : Int) < indent) then
        (found, gap.hasBreak, gap.cursor)
      else plainFrom isFlow indent fuel found gap

def plain (isFlow : Bool) (indent : Int) (c : Cursor) : Text × Bool × Cursor :=
  plainFrom isFlow indent (c.rest.length + 1) [] ⟨[], false, c⟩

/-! Quoted scalars. -/

def escaped? (c : Char) : Option Char :=
  [('0', '\x00'), ('a', '\x07'), ('b', '\x08'), ('t', '\t'), ('\t', '\t'), ('n', '\n'), ('v', '\x0b'),
   ('f', '\x0c'), ('r', '\r'), ('e', '\x1b'), (' ', ' '), ('"', '"'), ('\\', '\\'), ('/', '/'),
   ('N', '\x85'), ('_', '\xa0'), ('L', '\u2028'), ('P', '\u2029')].lookup c

/-- How many digits the code of a character has. -/
def escapeSize? (c : Char) : Option Nat :=
  [('x', 2), ('u', 4), ('U', 8)].lookup c

/-- The text for a code, if there is a character with it. -/
def ofCode (code : Nat) : Except Fault Text :=
  if code < 0x110000 then .ok (Text.ofCode code)
  else .error (.scalar (if code < 0x80000000 then .noSuchCharacter else .tooLarge))

/-- The value of hexadecimal digits. -/
def hexadecimal? (ds : Text) : Option Nat :=
  ds.foldl (fun n d => do return 16 * (← n) + (← Text.Percent.hexValue? d)) (some 0)

/-- Goes over empty lines within quotes, where the document may not end. -/
def quotedBreaks : Nat → Text → Cursor → Except Fault (Text × Cursor)
  | 0, breaks, c => .ok (breaks, c)
  | fuel + 1, breaks, c =>
    if c.isAtBoundary then .error .malformed
    else
      let c := c.skipWhile isTab
      if isBreak c.peek then
        let (found, c) := c.lineBreak
        quotedBreaks fuel (breaks ++ found) c
      else .ok (breaks, c)

/-- The blanks and line breaks before the next word within quotes. -/
def quotedGap (c : Cursor) : Except Fault (Text × Cursor) := do
  let (blanks, c) := c.span isTab
  if isBreak c.peek then
    let (first, c) := c.lineBreak
    let (breaks, c) ← quotedBreaks (c.rest.length + 1) [] c
    return (folded first breaks, c)
  else return (blanks, c)

/-- What an escape stands for, from behind the backslash. -/
def escape (c : Cursor) : Except Fault (Text × Cursor) :=
  match escaped? c.peek, escapeSize? c.peek with
  | some ch, _ => .ok ([ch], c.next)
  | _, some size =>
    let ds := c.next.rest.take size
    match hexadecimal? ds with
    | some code =>
      if ds.length < size then .error .malformed
      else (ofCode code).map fun text => (text, c.skip (size + 1))
    | none => .error .malformed
  | _, _ =>
    if isBreak c.peek then quotedBreaks (c.rest.length + 1) [] c.lineBreak.2
    else .error .malformed

/-- A scalar in quotes, from behind the opening one. -/
def quotedFrom (isDouble : Bool) : Nat → Text → Cursor → Except Fault (Text × Cursor)
  | 0, _, _ => .error .malformed
  | fuel + 1, found, c =>
    let ch := c.peek
    if c.isAtEnd then .error .malformed
    else if isDouble && ch == '"' then .ok (found, c.next)
    else if !isDouble && ch == '\'' then
      if c.peekAt 1 == '\'' then quotedFrom isDouble fuel (found ++ ['\'']) (c.skip 2)
      else .ok (found, c.next)
    else if isDouble && ch == '\\' then do
      let (text, c) ← escape c.next
      quotedFrom isDouble fuel (found ++ text) c
    else if isGap ch then do
      let (text, c) ← quotedGap c
      quotedFrom isDouble fuel (found ++ text) c
    else quotedFrom isDouble fuel (found ++ [ch]) c.next

def quoted (isDouble : Bool) (c : Cursor) : Except Fault (Text × Cursor) :=
  quotedFrom isDouble (c.rest.length + 1) [] c.next

/-! Block scalars. -/

/-- What becomes of the line breaks at the end of a block. -/
inductive Chomping where
  | strip
  | clip
  | keep
deriving DecidableEq, Repr

def chomping? (c : Char) : Option Chomping :=
  if c == '+' then some .keep else if c == '-' then some .strip else none

def increment? (c : Char) : Except Fault (Option Nat) :=
  if c == '0' then .error .malformed
  else .ok (if c.isDigit then some (c.toNat - 48) else none)

/-- The marks behind the sign that opens a block, in either order. -/
def blockHeader (c : Cursor) : Except Fault (Chomping × Option Nat × Cursor) := do
  match chomping? c.peek with
  | some chomping =>
    let c := c.next
    let increment ← increment? c.peek
    return (chomping, increment, if increment.isSome then c.next else c)
  | none =>
    let increment ← increment? c.peek
    let c := if increment.isSome then c.next else c
    match increment, chomping? c.peek with
    | some _, some chomping => return (chomping, increment, c.next)
    | _, _ => return (.clip, increment, c)

/-- The empty lines before a block, and its indentation as far as they tell. -/
def blockIndent : Nat → Text → Nat → Cursor → Text × Nat × Cursor
  | 0, breaks, most, c => (breaks, most, c)
  | fuel + 1, breaks, most, c =>
    if c.peek == ' ' then blockIndent fuel breaks (max most c.next.column) c.next
    else if isBreak c.peek then
      let (found, c) := c.lineBreak
      blockIndent fuel (breaks ++ found) most c
    else (breaks, most, c)

/-- Goes over the indentation of a line. -/
def indentation (indent : Nat) (c : Cursor) : Cursor :=
  c.skip (min (indent - c.column) (c.span (· == ' ')).1.length)

/-- The empty lines within a block. -/
def blockBreaks (indent : Nat) : Nat → Text → Cursor → Text × Cursor
  | 0, breaks, c => (breaks, c)
  | fuel + 1, breaks, c =>
    let c := indentation indent c
    if isBreak c.peek then
      let (found, c) := c.lineBreak
      blockBreaks indent fuel (breaks ++ found) c
    else (breaks, c)

/-- A block on its way: what was found, the last line break and the empty lines behind it. -/
structure Block where
  found : Text
  last : Text
  breaks : Text
  cursor : Cursor

/-- What joins two lines of a block. -/
def joint (isFolded : Bool) (line : Text) (b : Block) : Text :=
  if isFolded && b.last == ['\n'] && !isTab (line.headD '\n') && !isTab b.cursor.peek then
    if b.breaks.isEmpty then [' '] else []
  else b.last

/-- The lines of a block, as long as they are indented. -/
def blockLines (isFolded : Bool) (indent : Nat) : Nat → Block → Block
  | 0, b => b
  | fuel + 1, b =>
    if b.cursor.column != indent || b.cursor.isAtEnd then b
    else
      let (line, c) := b.cursor.span (!isLineEnd ·)
      let (last, c) := c.lineBreak
      let (breaks, c) := blockBreaks indent (c.rest.length + 1) [] c
      let after : Block := ⟨b.found ++ b.breaks ++ line, last, breaks, c⟩
      if c.column == indent && !c.isAtEnd then
        blockLines isFolded indent fuel { after with found := after.found ++ joint isFolded line after }
      else after

/-- A block of lines within a parent of some indentation, from the sign that opens it. -/
def block (isFolded : Bool) (parent : Int) (c : Cursor) : Except Fault (Text × Cursor) := do
  let (chomping, increment, c) ← blockHeader c.next
  if !isLineEnd c.peek && c.peek != ' ' then throw .malformed
  let c ← c.endLine
  let least := max 1 (parent + 1).toNat
  let (indent, breaks, c) := match increment with
    | some n =>
      let indent := least + n - 1
      let (breaks, c) := blockBreaks indent (c.rest.length + 1) [] c
      (indent, breaks, c)
    | none =>
      let (breaks, most, c) := blockIndent (c.rest.length + 1) [] 0 c
      (max least most, breaks, c)
  let b := blockLines isFolded indent (c.rest.length + 1) ⟨[], [], breaks, c⟩
  match chomping with
  | .strip => return (b.found, b.cursor)
  | .clip => return (b.found ++ b.last, b.cursor)
  | .keep => return (b.found ++ b.last ++ b.breaks, b.cursor)

end DepView.Yaml.Scalar
