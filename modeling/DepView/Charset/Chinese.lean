import DepView.Charset.Basic
import DepView.Charset.ChineseSheets
import DepView.Charset.Gb18030

/-!
The Chinese character sets: GB 2312 with its extensions, also between seven-bit characters, and Big5
with its own.
-/

namespace DepView.Charset.Chinese

/-- The character of GB 2312 for two bytes from 0xa1 on. -/
def plane? (first second : Nat) : Option Char :=
  if 0x80 ≤ first && 0x80 ≤ second then gb2312.cell? (first - 0x80) (second - 0x80) else none

def gb2312Step : UInt8 → Bytes → Step :=
  pairStep ascii? fun first second => (plane? first second).map ([·])

/-- The place of two bytes in rows of 190. -/
def gbkPlace? (first second : Nat) : Option Nat :=
  if 0x81 ≤ first && first ≤ 0xfe then
    (rowPlace? 0xfe second).map ((first - 0x81) * 190 + ·)
  else none

def gbk? (first second : Nat) : Option Char :=
  ((gbkPlace? first second).bind gbkMore.char?).or (plane? first second)

def gbkStep : UInt8 → Bytes → Step :=
  pairStep ascii? fun first second => (gbk? first second).map ([·])

/-- The character at a place in some runs. -/
def inRuns? (runs : List CodeRun) (place : Nat) : Option Char :=
  (runs.find? fun r => r.place ≤ place && place < r.place + r.count).map fun r =>
    Char.ofNat (r.first + (place - r.place))

/-- A character of two bytes. -/
def gb18030? (first second : Nat) : Option Char :=
  (gbk? first second).or ((gbkPlace? first second).bind (inRuns? gb18030Pairs))

/-- How many of four bytes come before some of them. The second and the fourth are digits. -/
def numberOfFour? (first second third fourth : Nat) : Option Nat :=
  if 0x81 ≤ first && first ≤ 0xfe && 0x30 ≤ second && second ≤ 0x39 && 0x81 ≤ third &&
      third ≤ 0xfe && 0x30 ≤ fourth && fourth ≤ 0x39 then
    some ((((first - 0x81) * 10 + (second - 0x30)) * 126 + (third - 0x81)) * 10 + (fourth - 0x30))
  else none

/-- The character for a number of four bytes: in the basic plane first, and in the planes above it
from 0x90 on. -/
def ofNumber? (n : Nat) : Option Char :=
  if n < 39420 then
    (gb18030Fours.findRev? (·.1 ≤ n)).map fun (start, code) => Char.ofNat (code + (n - start))
  else if 189000 ≤ n && n < 189000 + 0x100000 then some (Char.ofNat (0x10000 + (n - 189000)))
  else none

/-- The step of GB 18030. A digit as the second byte starts a character of four. -/
def gb18030Step (b : UInt8) (rest : Bytes) : Step :=
  match ascii? b.toNat, rest with
  | some c, _ => .ofChar c
  | none, [] => .short
  | none, second :: more =>
    if 0x30 ≤ second.toNat && second.toNat ≤ 0x39 then
      match more with
      | third :: fourth :: _ =>
        match (numberOfFour? b.toNat second.toNat third.toNat fourth.toNat).bind ofNumber? with
        | some c => .text [c] 3
        | none => .fault 0
      | _ => .short
    else match gb18030? b.toNat second.toNat with
      | some c => .text [c] 1
      | none => .fault 0

/-- The step of the set that shifts between ASCII and pairs of seven-bit characters, with a tilde.
The state says whether pairs are read. -/
def shiftedStep (paired : Bool) (b : UInt8) (rest : Bytes) : Step × Bool :=
  if b.toNat == 0x7e then
    match rest with
    | [] => (.short, paired)
    | second :: _ =>
      match paired, Char.ofNat second.toNat with
      | false, '~' => (.text ['~'] 1, false)
      | false, '{' => (.text [] 1, true)
      | false, '\n' => (.text [] 1, false)
      | true, '}' => (.text [] 1, false)
      | _, _ => (.fault 0, paired)
  else match ascii? b.toNat with
    | none => (.fault 0, paired)
    | some c =>
      if !paired then (.ofChar c, paired)
      else match rest with
        | [] => (.short, paired)
        | second :: _ =>
          match gb2312.cell? b.toNat second.toNat with
          | some c => (.text [c] 1, paired)
          | none => (.fault 0, paired)

/-- The place of two bytes in rows of 157. -/
def big5Place? (first second : Nat) : Option Nat :=
  if first < 0x81 || 0xfe < first then none
  else if 0x40 ≤ second && second ≤ 0x7e then some ((first - 0x81) * 157 + (second - 0x40))
  else if 0xa1 ≤ second && second ≤ 0xfe then some ((first - 0x81) * 157 + (second - 0xa1 + 63))
  else none

def big5Step : UInt8 → Bytes → Step :=
  pairStep ascii? fun first second => ((big5Place? first second).bind big5.char?).map ([·])

def big5WindowsStep : UInt8 → Bytes → Step :=
  pairStep ascii? fun first second => do
    let place ← big5Place? first second
    ((big5Windows.char? place).or (big5.char? place)).map ([·])

/-- Two bytes that stand for a letter with two marks, which is written as two characters. -/
def marked? (first second : Nat) : Option Text :=
  if first != 0x88 then none
  else match second with
    | 0x62 => some ['\u00ca', '\u0304']
    | 0x64 => some ['\u00ca', '\u030c']
    | 0xa3 => some ['\u00ea', '\u0304']
    | 0xa5 => some ['\u00ea', '\u030c']
    | _ => none

/-- Whether two bytes are in the part of Big5 that the supplementary set of Hong Kong has anew. -/
def isAnew (first second : Nat) : Bool :=
  (first == 0xc6 && 0xa1 ≤ second) || first == 0xc7 || first == 0xc8

def hkscsStep : UInt8 → Bytes → Step :=
  pairStep ascii? fun first second => do
    let place ← big5Place? first second
    let old := if isAnew first second then none else big5.char? place
    (((hkscs.char? place).or old).map ([·])).or (marked? first second)

end DepView.Charset.Chinese
