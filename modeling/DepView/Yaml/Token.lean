import DepView.Yaml.Scalar

/-!
The tokens of a YAML document. Beside what is written there are tokens for what the indentation
says: where a block starts and where it ends. Whether a scalar is a key shows only at the colon
behind it, so a place is kept for the key token where one may have to be put in.
-/

namespace DepView.Yaml

inductive Directive where
  | version (major : Nat)
  | tagHandle (handle start : Text)
  | other
deriving DecidableEq, Repr

inductive Token where
  | directive (d : Directive)
  | documentStart
  | documentEnd
  | blockSequence
  | blockMapping
  | blockEnd
  | flowSequence
  | flowSequenceEnd
  | flowMapping
  | flowMappingEnd
  | flowEntry
  | blockEntry
  | key
  | value
  | alias (name : Text)
  | anchor (name : Text)
  | tag (handle : Option Text) (suffix : Text)
  | scalar (isPlain : Bool) (text : Text)
deriving DecidableEq, Repr

/-! Tokens that need no state to be read. -/

namespace Token

def digits (c : Cursor) : Except Fault (Nat × Cursor) :=
  match c.span Char.isDigit with
  | ([], _) => .error .malformed
  | (ds, c) => .ok (ds.foldl (fun n d => 10 * n + (d.toNat - 48)) 0, c)

/-- The bytes of percent-encoded characters, as far as they follow each other. -/
def percentBytes : Text → Except Fault (Bytes × Text)
  | '%' :: a :: b :: rest =>
    match Text.Percent.hexValue? a, Text.Percent.hexValue? b with
    | some high, some low => (percentBytes rest).map fun (bytes, rest) =>
        ((16 * high + low).toUInt8 :: bytes, rest)
    | _, _ => .error .malformed
  | '%' :: _ => .error .malformed
  | rest => .ok ([], rest)

def isUriChar (c : Char) : Bool :=
  c.isAlphanum || "-;/?:@&=+$,_.!~*'()[]".toList.contains c

/-- The part of a tag that may be percent-encoded. -/
def uriFrom : Nat → Text → Cursor → Except Fault (Text × Cursor)
  | 0, found, c => .ok (found, c)
  | fuel + 1, found, c =>
    if c.peek == '%' then do
      let (bytes, rest) ← percentBytes c.rest
      match Text.Utf8.decode? bytes with
      | some text => uriFrom fuel (found ++ text) (c.skip (c.rest.length - rest.length))
      | none => throw .malformed
    else if isUriChar c.peek then uriFrom fuel (found ++ [c.peek]) c.next
    else .ok (found, c)

def uri (c : Cursor) : Except Fault (Text × Cursor) := do
  let (found, after) ← uriFrom (c.rest.length + 1) [] c
  if c.index == after.index then throw .malformed
  return (found, after)

/-- A handle of tags: an exclamation mark, or a name between two of them. -/
def tagHandle (c : Cursor) : Except Fault (Text × Cursor) :=
  if c.peek != '!' then .error .malformed
  else if c.peekAt 1 == ' ' then .ok (['!'], c.next)
  else
    let (name, c) := c.next.span isWordChar
    if c.peek == '!' then .ok ('!' :: name ++ ['!'], c.next) else .error .malformed

def directiveOf (c : Cursor) : Except Fault (Token × Cursor) := do
  let (name, c) := c.next.span isWordChar
  if name.isEmpty || !(isLineEnd c.peek || c.peek == ' ') then throw .malformed
  let blank := fun (c : Cursor) => c.skipWhile (· == ' ')
  let isDone := fun (c : Cursor) => isLineEnd c.peek || c.peek == ' '
  match String.ofList name with
  | "YAML" =>
    let (major, c) ← digits (blank c)
    if c.peek != '.' then throw .malformed
    let (_, c) ← digits c.next
    if !isDone c then throw .malformed
    return (.directive (.version major), ← c.endLine)
  | "TAG" =>
    let (handle, c) ← tagHandle (blank c)
    if c.peek != ' ' then throw .malformed
    let (start, c) ← uri (blank c)
    if !isDone c then throw .malformed
    return (.directive (.tagHandle handle start), ← c.endLine)
  | _ => return (.directive .other, ← (c.skipWhile (!isLineEnd ·)).endLine)

/-- The name behind the sign of an anchor or an alias. -/
def nameOf (c : Cursor) : Except Fault (Text × Cursor) :=
  let (found, c) := c.next.span isWordChar
  if found.isEmpty ||
      !(isGap c.peek || "?:,]\x7d%@".toList.contains c.peek || c.peek == '\x60') then
    .error .malformed
  else .ok (found, c)

/-- A tag: a full one in angle brackets, one with a handle, or a lone exclamation mark. -/
def tagOf (c : Cursor) : Except Fault (Token × Cursor) := do
  let (token, c) ←
    if c.peekAt 1 == '<' then do
      let (suffix, c) ← uri (c.skip 2)
      if c.peek != '>' then throw .malformed
      pure (Token.tag none suffix, c.next)
    else if isGap (c.peekAt 1) then pure (Token.tag none ['!'], c.next)
    else if (c.next.rest.takeWhile fun ch => !(isLineEnd ch || ch == ' ')).contains '!' then do
      let (handle, c) ← tagHandle c
      let (suffix, c) ← uri c
      pure (Token.tag (some handle) suffix, c)
    else do
      let (suffix, c) ← uri c.next
      pure (Token.tag (some ['!']) suffix, c)
  if isLineEnd c.peek || c.peek == ' ' then return (token, c) else throw .malformed

end Token

/-! The state of reading. -/

/-- A place where a key may have started. A required one has nothing else to be. -/
structure KeyPlace where
  position : Nat
  isRequired : Bool
  index : Nat
  line : Nat
  column : Nat

structure Lexer where
  cursor : Cursor
  tokens : Array Token
  /-- The column of the innermost block, and those of the blocks around it. -/
  indent : Int
  outer : List Int
  /-- The place of a key at this level of brackets, and those at the levels around it. -/
  place : Option KeyPlace
  outerPlaces : List (Option KeyPlace)
  mayStartKey : Bool

namespace Lexer

def ofText (text : Text) : Lexer :=
  ⟨.ofText text, #[], -1, [], none, [], true⟩

def isFlow (l : Lexer) : Bool :=
  !l.outerPlaces.isEmpty

def push (l : Lexer) (token : Token) : Lexer :=
  { l with tokens := l.tokens.push token }

/-- Adds a token of some characters and goes over them. -/
def pass (l : Lexer) (size : Nat) (token : Token) : Lexer :=
  { l.push token with cursor := l.cursor.skip size }

/-- Goes over blanks, comments and line breaks to the next token. Outside of brackets a key may
start on a new line. -/
def skipBlank : Nat → Lexer → Lexer
  | 0, l => l
  | fuel + 1, l =>
    let c := l.cursor.skipWhile (· == ' ')
    let c := if c.peek == '#' then c.skipWhile (!isLineEnd ·) else c
    if isBreak c.peek then
      skipBlank fuel { l with cursor := c.lineBreak.2, mayStartKey := l.mayStartKey || !l.isFlow }
    else { l with cursor := c }

/-- Gives up a place for a key. -/
def giveUp : Option KeyPlace → Except Fault (Option KeyPlace)
  | none => .ok none
  | some place => if place.isRequired then .error .malformed else .ok none

def dropPlace (l : Lexer) : Except Fault Lexer :=
  (giveUp l.place).map fun place => { l with place }

/-- A key stands on one line and has no more than 1024 characters. -/
def isStale (c : Cursor) (place : KeyPlace) : Bool :=
  place.line != c.line || 1024 < c.index - place.index

def dropStale (l : Lexer) : Except Fault Lexer := do
  let check : Option KeyPlace → Except Fault (Option KeyPlace)
    | none => .ok none
    | some place => if isStale l.cursor place then giveUp (some place) else .ok (some place)
  return { l with place := ← check l.place, outerPlaces := ← l.outerPlaces.mapM check }

/-- Keeps the place of what may be a key. -/
def keepPlace (l : Lexer) : Except Fault Lexer :=
  if l.mayStartKey then do
    let l ← l.dropPlace
    let c := l.cursor
    let isRequired := !l.isFlow && l.indent == c.column
    return { l with place := some ⟨l.tokens.size, isRequired, c.index, c.line, c.column⟩ }
  else .ok l

/-- Ends the blocks that are indented more than a column. -/
def unwindFrom (column : Int) (l : Lexer) : List Int → Lexer
  | [] => l
  | above :: outer =>
    if column < l.indent then unwindFrom column { l.push .blockEnd with indent := above, outer } outer
    else l

def unwind (l : Lexer) (column : Int) : Lexer :=
  if l.isFlow then l else unwindFrom column l l.outer

/-- Starts a block if a column is indented more than the innermost one. -/
def openBlock (l : Lexer) (column : Nat) (position : Nat) (token : Token) : Lexer :=
  if l.indent < column then
    { l with indent := column, outer := l.indent :: l.outer,
             tokens := l.tokens.insertIdxIfInBounds position token }
  else l

def openFlow (l : Lexer) (token : Token) : Except Fault Lexer := do
  let l ← l.keepPlace
  return { l.pass 1 token with
    place := none, outerPlaces := l.place :: l.outerPlaces, mayStartKey := true }

/-- A closing bracket without an opening one belongs to nothing. -/
def closeFlow (l : Lexer) (token : Token) : Except Fault Lexer := do
  let l ← l.dropPlace
  match l.outerPlaces with
  | [] => throw .malformed
  | place :: outerPlaces => return { l.pass 1 token with place, outerPlaces, mayStartKey := false }

/-- A dash or a question mark, which opens a block where it is the first of its kind. -/
def entry (l : Lexer) (block token : Token) (mayStartKey : Bool) : Except Fault Lexer := do
  let l ←
    if l.isFlow then pure l
    else if l.mayStartKey then pure (l.openBlock l.cursor.column l.tokens.size block)
    else throw .malformed
  let l ← l.dropPlace
  return { l.pass 1 token with mayStartKey }

/-- A colon: what stood before it in the line becomes a key. -/
def valueMark (l : Lexer) : Except Fault Lexer :=
  match l.place with
  | some place =>
    let l := { l with place := none, mayStartKey := false,
                      tokens := l.tokens.insertIdxIfInBounds place.position .key }
    let l := if l.isFlow then l else l.openBlock place.column place.position .blockMapping
    .ok (l.pass 1 .value)
  | none => l.entry .blockMapping .value (!l.isFlow)

/-- Adds a token that may be a key. -/
def word (l : Lexer) (read : Cursor → Except Fault (Token × Cursor)) : Except Fault Lexer := do
  let l ← l.keepPlace
  let (token, cursor) ← read l.cursor
  return { l.push token with cursor, mayStartKey := false }

def blockScalar (l : Lexer) (isFolded : Bool) : Except Fault Lexer := do
  let l ← l.dropPlace
  let (text, cursor) ← Scalar.block isFolded l.indent l.cursor
  return { l.push (.scalar false text) with cursor, mayStartKey := true }

def plainScalar (l : Lexer) : Except Fault Lexer := do
  let l ← l.keepPlace
  let (text, mayStartKey, cursor) := Scalar.plain l.isFlow (l.indent + 1) l.cursor
  return { l.push (.scalar true text) with cursor, mayStartKey }

/-- What stands at the start of a line and ends all blocks. -/
def boundary (l : Lexer) : Except Fault Lexer := do
  let l ← (l.unwind (-1)).dropPlace
  return { l with mayStartKey := false }

/-- Whether a plain scalar starts here. -/
def startsPlain (l : Lexer) : Bool :=
  let ch := l.cursor.peek
  !(isGap ch || "-?:,[]\x7b\x7d#&*!|>'\"%@".toList.contains ch || ch == '\x60') ||
    (!isGap (l.cursor.peekAt 1) && (ch == '-' || (!l.isFlow && (ch == '?' || ch == ':'))))

/-- Whether a sign at the cursor stands for itself and does not start a word. -/
def isSign (l : Lexer) (inFlow : Bool) : Bool :=
  (inFlow && l.isFlow) || isGap (l.cursor.peekAt 1)

/-- Reads one token at the cursor, which is not at the end. -/
def readToken (l : Lexer) : Except Fault Lexer :=
  let c := l.cursor
  let ch := c.peek
  if ch == '%' && c.column == 0 then do
    let l ← l.boundary
    let (token, cursor) ← Token.directiveOf c
    return { l.push token with cursor }
  else if c.isAtMarker '-' then l.boundary.map (·.pass 3 .documentStart)
  else if c.isAtMarker '.' then l.boundary.map (·.pass 3 .documentEnd)
  else if ch == '[' then l.openFlow .flowSequence
  else if ch == '{' then l.openFlow .flowMapping
  else if ch == ']' then l.closeFlow .flowSequenceEnd
  else if ch == '}' then l.closeFlow .flowMappingEnd
  else if ch == ',' then do return { (← l.dropPlace).pass 1 .flowEntry with mayStartKey := true }
  else if ch == '-' && l.isSign false then l.entry .blockSequence .blockEntry true
  else if ch == '?' && l.isSign true then l.entry .blockMapping .key (!l.isFlow)
  else if ch == ':' && l.isSign true then l.valueMark
  else if ch == '*' then l.word fun c => (Token.nameOf c).map fun (name, c) => (.alias name, c)
  else if ch == '&' then l.word fun c => (Token.nameOf c).map fun (name, c) => (.anchor name, c)
  else if ch == '!' then l.word Token.tagOf
  else if ch == '|' && !l.isFlow then l.blockScalar false
  else if ch == '>' && !l.isFlow then l.blockScalar true
  else if ch == '\'' || ch == '"' then
    l.word fun c => (Scalar.quoted (ch == '"') c).map fun (text, c) => (.scalar false text, c)
  else if l.startsPlain then l.plainScalar
  else .error .malformed

/-- How many tokens are settled: those before the first place where a key token may have to go. -/
def settled (l : Lexer) : Nat :=
  ((l.place :: l.outerPlaces).filterMap (·.map (·.position))).foldl min l.tokens.size

/-- Reads one more token, or none at the end of the document. The flag says whether to go on. -/
def step (l : Lexer) : Except Fault (Lexer × Bool) := do
  let l := l.unwind l.cursor.column
  if l.cursor.isAtEnd then return (← (l.unwind (-1)).dropPlace, false)
  else return (← l.readToken, true)

end Lexer

/-- The tokens of a document, and the fault behind the last one of them, if there is one. -/
structure Tokens where
  list : List Token
  fault : Option Fault

namespace Lexer

/-- The tokens before a fault. Those that are not settled are not seen. -/
def stop (l : Lexer) (fault : Fault) : Tokens :=
  ⟨(l.tokens.toList).take l.settled, some fault⟩

/-- Reads the tokens that are left. Each takes a character at least. -/
def readAll : Nat → Lexer → Tokens
  | 0, l => l.stop .malformed
  | fuel + 1, l =>
    let l := skipBlank (l.cursor.rest.length + 1) l
    match l.dropStale with
    | .error fault => l.stop fault
    | .ok l =>
      match l.step with
      | .error fault => l.stop fault
      | .ok (l, true) => readAll fuel l
      | .ok (l, false) => ⟨l.tokens.toList, none⟩

end Lexer

/-- The tokens of a document. A byte order mark at its start says nothing. -/
def Tokens.ofText (text : Text) : Tokens :=
  if text.all isPrintable then
    let start := Lexer.ofText text
    let start :=
      if start.cursor.peek == '\ufeff' then { start with cursor := start.cursor.next } else start
    start.readAll (text.length + 2)
  else ⟨[], some .malformed⟩

end DepView.Yaml
