import DepView.Charset.Basic
import DepView.Charset.JapaneseSheets

/-!
The Japanese character sets: the planes of JIS X 0208, 0212 and 0213 in their two ways of writing
them in eight bits.
-/

namespace DepView.Charset.Japanese

/-- The half-width katakana of JIS X 0201. -/
def katakana? (byte : Nat) : Option Char :=
  if 0xa1 ≤ byte && byte ≤ 0xdf then some (Char.ofNat (0xfec0 + byte)) else none

/-- The Roman letters of JIS X 0201, which has a yen sign and an overline. -/
def roman? (byte : Nat) : Option Char :=
  if byte == 0x5c then some '¥'
  else if byte == 0x7e then some '‾'
  else ascii? byte

/-- The place in the first plane of a syllable with a half-circle or of a sound with a tone, and its
two characters. -/
def doubles : List (Nat × Text) :=
  marked 368 '\u309a' "かきくけこ" ++ marked 462 '\u309a' "カキクケコセツト" ++
    marked 557 '\u309a' "ㇷ" ++ marked 975 '\u0300' "æ" ++
    both 979 "ɔ" ++ both 981 "ʌ" ++ both 983 "ə" ++ both 985 "ɚ" ++
    [(1008, "˩˥".toList), (1009, "˥˩".toList)]
where
  marked : Nat → Char → String → List (Nat × Text) := fun place mark letters =>
    letters.toList.zipIdx.map fun (c, n) => (place + n, [c, mark])
  both : Nat → String → List (Nat × Text) := fun place letter =>
    ['\u0300', '\u0301'].zipIdx.map fun (mark, n) => (place + n, letter.toList ++ [mark])

/-- The editions of JIS X 0213. The later one has some more characters. -/
inductive Edition where
  | of2000
  | of2004
deriving DecidableEq, Repr

/-- The places of the first plane, as two bytes, that the earlier edition does not have. -/
def added : List (Nat × Nat) :=
  [(0x2e, 0x21), (0x2f, 0x7e), (0x4f, 0x54), (0x4f, 0x7e), (0x74, 0x27), (0x7e, 0x7a), (0x7e, 0x7b),
    (0x7e, 0x7c), (0x7e, 0x7d), (0x7e, 0x7e)]

/-- A character of the first plane of JIS X 0213. -/
def first? (edition : Edition) (row column : Nat) : Option Text :=
  if edition = .of2000 && added.contains (row, column) then none
  else (((jisX0208.cell? row column).or (jisX0213.cell? row column)).map ([·])).or
    (if 0x21 ≤ row && 0x21 ≤ column && column ≤ 0x7e then
      doubles.lookup ((row - 0x21) * 94 + (column - 0x21))
    else none)

/-- A fault is one of both bytes where the earlier edition lacks a character that the later one has.
-/
def widen (edition : Edition) (place : Option (Nat × Nat)) (step : Step) : Step :=
  if step == .fault 0 && edition == .of2000 && place.any added.contains then .fault 1 else step

/-- A character of the second plane of JIS X 0213. -/
def second? (edition : Edition) (row column : Nat) : Option Char :=
  if edition = .of2000 && row == 0x7d && column == 0x3b then some '\u9b1d'
  else jisX0213Second.cell? row column

/-- The row and the column of two bytes in the way of writing that shifts the rows. -/
def unshift? (first second : Nat) : Option (Nat × Nat) := do
  let column ← rowPlace? 0xfc second
  let half ← if 0x81 ≤ first && first ≤ 0x9f then some (first - 0x81)
    else if 0xe0 ≤ first && first ≤ 0xfc then some (first - 0xc1)
    else none
  some (if column < 94 then (2 * half + 0x21, column + 0x21)
    else (2 * half + 0x22, column - 94 + 0x21))

/-- The step of Shift JIS. -/
def shiftStep : UInt8 → Bytes → Step :=
  pairStep (fun byte => (ascii? byte).or (katakana? byte)) fun first second => do
    let (row, column) ← unshift? first second
    (jisX0208.cell? row column).map ([·])

/-- A byte that is a character by itself in code page 932. Those that have no meaning stand for
private characters. -/
def windowsSingle? (byte : Nat) : Option Char :=
  if byte ≤ 0x80 then some (Char.ofNat byte)
  else if byte == 0xa0 then some '\uf8f0'
  else if 0xfd ≤ byte then some (Char.ofNat (0xf8f1 + (byte - 0xfd)))
  else katakana? byte

/-- A character of code page 932. Ten rows are for private characters. -/
def windows? (first second : Nat) : Option Char := do
  let column ← rowPlace? 0xfc second
  match ibm932.char? ((first - 0x81) * 188 + column) with
  | some c => some c
  | none =>
    if 0xf0 ≤ first && first ≤ 0xf9 then some (Char.ofNat (0xe000 + 188 * (first - 0xf0) + column))
    else do
      let (row, column) ← unshift? first second
      jisX0208.cell? row column

def windowsStep : UInt8 → Bytes → Step :=
  pairStep windowsSingle? fun first second => (windows? first second).map ([·])

/-- The row of the second plane that stands at a row behind the first plane. -/
def secondRow (row : Nat) : Nat :=
  let n := row - 0x21
  if 0x67 ≤ n then n + 7
  else if 0x63 ≤ n || n == 0x5f then n - 0x37
  else n - 0x3d

/-- The step of Shift JIS with JIS X 0213. It has the backslash and the tilde in their usual widths.
-/
def shiftStepOf (edition : Edition) (b : UInt8) (rest : Bytes) : Step :=
  widen edition (rest.head?.bind fun second => unshift? b.toNat second.toNat) <|
    pairStep (fun byte => (roman? byte).or (katakana? byte)) (fun first second => do
      let (row, column) ← unshift? first second
      if row < 0x7f then
        if row == 0x21 && column == 0x40 then some ['\\']
        else if row == 0x22 && column == 0x32 then some ['~']
        else first? edition row column
      else (second? edition (secondRow row) column).map ([·])) b rest

/-- What is read behind the byte that starts a half-width katakana, or three bytes. -/
def eucStepWith (pair third : Nat → Nat → Option Text) (b : UInt8) (rest : Bytes) : Step :=
  match ascii? b.toNat, rest with
  | some c, _ => .ofChar c
  | none, [] => .short
  | none, second :: more =>
    if b == 0x8f then
      match more with
      | [] => .short
      | last :: _ =>
        if 0x80 ≤ second.toNat && 0x80 ≤ last.toNat then
          match third (second.toNat - 0x80) (last.toNat - 0x80) with
          | some text => .text text 2
          | none => .fault 0
        else .fault 0
    else if b == 0x8e then
      match katakana? second.toNat with
      | some c => .text [c] 1
      | none => .fault 0
    else if 0x80 ≤ second.toNat then
      match pair (b.toNat - 0x80) (second.toNat - 0x80) with
      | some text => .text text 1
      | none => .fault 0
    else .fault 0

/-- The step of the way of writing that adds 0x80 to the bytes of JIS X 0208 and 0212. -/
def eucStep : UInt8 → Bytes → Step :=
  eucStepWith (fun row column => (jisX0208.cell? row column).map ([·]))
    fun row column => (jisX0212.cell? row column).map ([·])

/-- The same way of writing with JIS X 0213. -/
def eucStepOf (edition : Edition) (b : UInt8) (rest : Bytes) : Step :=
  widen edition (rest.head?.map fun second => (b.toNat - 0x80, second.toNat - 0x80)) <|
    eucStepWith
      (fun row column =>
        if row == 0x22 && column == 0x32 then some ['～'] else first? edition row column)
      (fun row column => ((second? edition row column).or (jisX0212.cell? row column)).map ([·]))
      b rest

end DepView.Charset.Japanese
