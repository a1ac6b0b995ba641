import DepView.Charset.Basic
import DepView.Charset.KsX1001

/-!
The Korean character sets: the one of KS X 1001, the one that fills it up with all other syllables,
and the one that is put together from the parts of a syllable.
-/

namespace DepView.Charset.Korean

/-- The character of KS X 1001 for two bytes from 0xa1 on. -/
def plane? (first second : Nat) : Option Char :=
  if 0x80 ≤ first && 0x80 ≤ second then ksX1001.cell? (first - 0x80) (second - 0x80) else none

/-- The syllable of a first consonant, a vowel, and a last consonant, all counted from zero. -/
def syllable (lead vowel tail : Nat) : Char :=
  Char.ofNat (0xac00 + lead * 588 + vowel * 28 + tail)

/-- The letters that a syllable may start with, in order. -/
def leads : Text := "ㄱㄲㄴㄷㄸㄹㅁㅂㅃㅅㅆㅇㅈㅉㅊㅋㅌㅍㅎ".toList

/-- The vowels in order. -/
def vowels : Text := "ㅏㅐㅑㅒㅓㅔㅕㅖㅗㅘㅙㅚㅛㅜㅝㅞㅟㅠㅡㅢㅣ".toList

/-- The letters that a syllable may end with, in order. -/
def tails : Text := "ㄱㄲㄳㄴㄵㄶㄷㄹㄺㄻㄼㄽㄾㄿㅀㅁㅂㅄㅅㅆㅇㅈㅊㅋㅌㅍㅎ".toList

/-- The second byte of the filler that starts a spelled syllable. -/
def filler : Nat := 0xd4

/-- A syllable that is spelled: behind the filler stand three letters, each with the first byte
0xa4. The last one may be a filler again. -/
def spelled? (first second third : Nat) : Option Char := do
  let letter (byte : Nat) := plane? 0xa4 byte
  let lead ← leads.idxOf? (← letter first)
  let vowel ← vowels.idxOf? (← letter second)
  let tail ← if third = filler then some 0
    else do (tails.idxOf? (← letter third)).map (· + 1)
  some (syllable lead vowel tail)

/-- The step of the set of KS X 1001. -/
def step (b : UInt8) (rest : Bytes) : Step :=
  match ascii? b.toNat, rest with
  | some c, _ => .ofChar c
  | none, [] => .short
  | none, second :: more =>
    if b == 0xa4 && second.toNat == filler then
      match more with
      | a :: first :: b :: second :: c :: third :: _ =>
        if a == 0xa4 && b == 0xa4 && c == 0xa4 then
          match spelled? first.toNat second.toNat third.toNat with
          | some c => .text [c] 7
          | none => .fault 0
        else .fault 0
      | _ => .short
    else match plane? b.toNat second.toNat with
      | some c => .text [c] 1
      | none => .fault 0

/-- What is left of a list without a part of it, where both are in ascending order. -/
def without (part : List Nat) : List Nat → List Nat
  | [] => []
  | n :: rest =>
    match part.dropWhile (· < n) with
    | m :: part => if m = n then without part rest else n :: without (m :: part) rest
    | [] => n :: rest

/-- The syllables that KS X 1001 does not have. -/
def moreSyllables : Array Nat :=
  (without ((ksX1001.cells.toList.map Char.toNat).filter fun n => 0xac00 ≤ n && n ≤ 0xd7a3)
    ((List.range 11172).map (· + 0xac00))).toArray

/-- The place of a second byte in a row of more syllables. -/
def morePlace? (byte : Nat) : Option Nat :=
  if 0x41 ≤ byte && byte ≤ 0x5a then some (byte - 0x41)
  else if 0x61 ≤ byte && byte ≤ 0x7a then some (byte - 0x61 + 26)
  else if 0x81 ≤ byte && byte ≤ 0xfe then some (byte - 0x81 + 52)
  else none

/-- A syllable that KS X 1001 does not have. They fill the rows before its own, and then what is
free in the first of these. -/
def more? (first second : Nat) : Option Char := do
  let place ← morePlace? second
  if first < 0x81 then none
  else if first < 0xa1 then (moreSyllables[(first - 0x81) * 178 + place]?).map Char.ofNat
  else if place < 84 then (moreSyllables[32 * 178 + (first - 0xa1) * 84 + place]?).map Char.ofNat
  else none

/-- The step of code page 949, which has all syllables. -/
def windowsStep : UInt8 → Bytes → Step :=
  pairStep ascii? fun first second =>
    ((plane? first second).or (more? first second)).map ([·])

/-- What five bits stand for in a syllable that is put together. -/
inductive Part where
  | filler
  | letter (c : Char)
deriving DecidableEq, Repr

/-- A part that is the letter at a place, or the filler. -/
def partAt? (letters : Text) (place : Option Nat) : Option Part :=
  match place with
  | none => none
  | some 0 => some .filler
  | some (n + 1) => (letters[n]?).map .letter

def leadPart? (bits : Nat) : Option Part :=
  if bits = 0 then none else partAt? leads (some (bits - 1))

/-- Two values before each six vowels are not used. -/
def vowelPart? (bits : Nat) : Option Part :=
  if bits < 2 || bits % 8 < 2 then none
  else partAt? vowels (some (bits - 2 - 2 * (bits / 8)))

def tailPart? (bits : Nat) : Option Part :=
  if bits = 0 || bits = 18 then none
  else partAt? tails (some (if bits < 18 then bits - 1 else bits - 2))

/-- The character for three parts: a syllable, or a letter between fillers. -/
def assemble? : Part → Part → Part → Option Char
  | .filler, .filler, .filler => some '\u3000'
  | .letter c, .filler, .filler | .filler, .letter c, .filler | .filler, .filler, .letter c => some c
  | .letter lead, .letter vowel, tail => do
    let tail ← match tail with
      | .filler => some 0
      | .letter c => (tails.idxOf? c).map (· + 1)
    some (syllable (← leads.idxOf? lead) (← vowels.idxOf? vowel) tail)
  | _, _, _ => none

/-- A character of KS X 1001 that is no syllable and no letter of one, in its place behind the
syllables. -/
def shifted? (first second : Nat) : Option Char :=
  let row := if first < 0xe0 then 2 * (first - 0xd9) else 2 * first - 0x197
  let column := if second < 0x91 then second - 0x31 else second - 0x43
  if first < 0xd9 || first == 0xdf || 0xf9 < first || second < 0x31 ||
      (0x80 ≤ second && second < 0x91) || second % 0x80 == 0x7f ||
      (first == 0xda && 0xa1 ≤ second && second ≤ 0xd3) then none
  else if column < 94 then ksX1001.cell? (row + 0x21) (column + 0x21)
  else ksX1001.cell? (row + 0x22) (column - 94 + 0x21)

/-- The step of the set whose syllables are put together of five bits for each part. -/
def assembledStep : UInt8 → Bytes → Step :=
  pairStep ascii? fun first second =>
    if first < 0xd8 then do
      let bits := first * 256 + second
      let c ← assemble? (← leadPart? (bits / 1024 % 32)) (← vowelPart? (bits / 32 % 32))
        (← tailPart? (bits % 32))
      some [c]
    else (shifted? first second).map ([·])

end DepView.Charset.Korean
