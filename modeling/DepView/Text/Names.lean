import DepView.Text.Names.Words
import DepView.Text.Names.BasicPlane
import DepView.Text.Names.OtherPlanes
import DepView.Text.Percent
import DepView.Text.Ranges

/-!
The names of characters. Most names stand in tables, in the order of their characters and with a
comma behind each. A name is written as the number of its first words that are those of the name
before, one digit in base 36, and its other words; words that are frequent have a short form in
small letters. A plus and a number in base 36 stand for characters that are left out. The names of
ideographs and of Hangul syllables follow rules.
-/

namespace DepView.Text

namespace Names

/-- The lines of all tables, from the first characters on. -/
def tables : List String :=
  alphabets ++ syllabaries ++ symbols ++ forms ++ antiquity ++ signs ++ scores ++ pictures

/-- The number of a short form. The letters are digits in base 26 that count from one. -/
def shortNumber (short : Text) : Nat :=
  short.foldl (fun n c => 26 * n + (c.toNat - 96)) 0

/-- The words that have a short form, in the order of its number. -/
def longWords : Array Text :=
  (words.flatMap fun line => (splitAt ' ' line.toList).dropLast).toArray

/-- The word that is written in a table. -/
def word (written : Text) : Text :=
  if written.all Char.isLower then (longWords[shortNumber written - 1]?).getD written else written

/-- The number that is written in base 36. -/
def numeral (digits : Text) : Nat :=
  digits.foldl (fun n c => 36 * n + numeralDigit c) 0

/-- The pieces of a line, which has a comma behind each. -/
def pieces (line : String) : List Text :=
  (splitAt ',' line.toList).dropLast

/-- Where the search for a name is: the character that comes next, the words of the name before, and
what was found. -/
structure Search where
  code : Nat
  words : List Text
  found : Option Nat
deriving DecidableEq, Repr

/-- Reads one piece of a table in the search for the name with some words. -/
def Search.next (wanted : List Text) (s : Search) : Text → Search
  | '+' :: gap => ⟨s.code + numeral gap, s.words, s.found⟩
  | shared :: own =>
    let words := s.words.take (numeralDigit shared) ++ (splitAt ' ' own).map word
    ⟨s.code + 1, words, if words = wanted then some s.code else s.found⟩
  | [] => s

/-- The character whose name stands in the tables. -/
def listed? (name : Text) : Option Nat :=
  let wanted := splitAt ' ' name
  let start : Search := ⟨0, [], none⟩
  (tables.foldl (fun s line => (pieces line).foldl (Search.next wanted) s) start).found

/-- The character that has a name beside its own. -/
def alias? (name : Text) : Option Nat :=
  aliases.findSome? fun line => (pieces line).findSome? fun piece =>
    match splitAt ' ' piece with
    | number :: rest => if join [' '] rest = name then some (numeral number) else none
    | [] => none

/-- The code point that is written in base 16, with four or five digits. -/
def number? (digits : Text) : Option Nat :=
  if (digits.length = 4 || digits.length = 5) && !digits.any Char.isLower then
    digits.foldlM (fun n c => (Percent.hexValue? c).map (16 * n + ·)) 0
  else none

/-- The ideographs that are named by their number. -/
def ideographs : List (Nat × Nat) :=
  [(0x3400, 0x4dbf), (0x4e00, 0x9fff), (0x20000, 0x2a6df), (0x2a700, 0x2b738), (0x2b740, 0x2b81d),
    (0x2b820, 0x2cea1), (0x2ceb0, 0x2ebe0), (0x30000, 0x3134a)]

/-- The other characters that are named by their number, with what stands before it. -/
def numbered : List (String × List (Nat × Nat)) :=
  [("CJK COMPATIBILITY IDEOGRAPH-", [(0xf900, 0xfa6d), (0xfa70, 0xfad9), (0x2f800, 0x2fa1d)]),
    ("KHITAN SMALL SCRIPT CHARACTER-", [(0x18b00, 0x18cd5)]),
    ("NUSHU CHARACTER-", [(0x1b170, 0x1b2fb)])]

/-- The code point that is written, if it is one of some runs. -/
def numberIn? (runs : List (Nat × Nat)) (digits : Text) : Option Nat :=
  (number? digits).filter fun code => runs.any fun (first, last) => first ≤ code && code ≤ last

/-- The character that is named by its number. -/
def numbered? (name : Text) : Option Nat :=
  numbered.findSome? fun (beginning, runs) => do
    let digits ← after? beginning.toList name
    if digits.head? = some '0' then none else numberIn? runs digits

/-- The parts of a Hangul syllable: what it begins with, its vowel, and what it ends with. -/
def initials : List String :=
  ["G", "GG", "N", "D", "DD", "R", "M", "B", "BB", "S", "SS", "", "J", "JJ", "C", "K", "T", "P",
    "H"]

@[inherit_doc initials]
def vowels : List String :=
  ["A", "AE", "YA", "YAE", "EO", "E", "YEO", "YE", "O", "WA", "WAE", "OE", "YO", "U", "WEO", "WE",
    "WI", "YU", "EU", "YI", "I"]

@[inherit_doc initials]
def finals : List String :=
  ["", "G", "GG", "GS", "N", "NJ", "NH", "D", "L", "LG", "LM", "LB", "LS", "LT", "LP", "LH", "M",
    "B", "BS", "S", "SS", "NG", "J", "C", "K", "T", "P", "H"]

/-- The longest part that a text begins with, by its number, and the text behind it. -/
def longest? (parts : List String) (text : Text) : Option (Nat × Text) :=
  let fits := parts.zipIdx.filterMap fun (part, i) => (after? part.toList text).map (i, ·)
  fits.foldl (fun best fit =>
    match best with
    | some old => if fit.2.length < old.2.length then some fit else some old
    | none => some fit) none

/-- The Hangul syllable with some sound. -/
def syllable? (sound : Text) : Option Nat := do
  let (initial, rest) ← longest? initials sound
  let (vowel, rest) ← longest? vowels rest
  let (final, rest) ← longest? finals rest
  if rest.isEmpty then some (0xac00 + (initial * 21 + vowel) * 28 + final) else none

end Names

/-- The character that has a name. Small letters count as capitals, but not in the names of Hangul
syllables and of most ideographs. -/
def named? (name : Text) : Option Char :=
  match after? "HANGUL SYLLABLE ".toList name, after? "CJK UNIFIED IDEOGRAPH-".toList name with
  | some sound, _ => (Names.syllable? sound).map Char.ofNat
  | none, some digits => (Names.numberIn? Names.ideographs digits).map Char.ofNat
  | none, none =>
    let name := name.map Char.toUpper
    ((Names.numbered? name).or ((Names.alias? name).or (Names.listed? name))).map Char.ofNat

end DepView.Text
