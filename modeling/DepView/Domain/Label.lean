import DepView.Domain.Direction
import DepView.Domain.Joining
import DepView.Domain.Permitted
import DepView.Text.Composition
import DepView.Text.Punycode

/-!
The labels of a domain name, between its dots. A label in any script is written with ASCII
characters behind a mark of its own. Its characters have to be permitted, some of them only beside
certain others, and a label with a character from right to left has to keep to the rules for both
directions.
-/

namespace DepView.Domain

open Text

inductive Fault where
  | malformed
  | direction
  | character
  | context
deriving DecidableEq, Repr

namespace Label

/-- The directions of characters as far as labels ask for them. -/
inductive Direction where
  | left
  | right
  | arabicNumber
  | europeanNumber
  | mark
  | neutral
  | unknown
deriving DecidableEq, Repr

def directionOf (c : Char) : Direction :=
  if rightToLeft.has c || arabicLetter.has c then .right
  else if Domain.arabicNumber.has c then .arabicNumber
  else if Domain.europeanNumber.has c then .europeanNumber
  else if nonspacing.has c then .mark
  else if Domain.neutral.has c then .neutral
  else if Domain.unknown.has c then .unknown
  else .left

/-- Whether the last direction but those of marks is one of some. -/
def endsWith (allowed : List Direction) (directions : List Direction) : Bool :=
  (directions.reverse.find? (· != .mark)).any allowed.contains

/-- Whether the directions in a label go together. -/
def directionsFit (directions : List Direction) : Bool :=
  if directions.contains .unknown then false
  else if !directions.any fun d => d == .right || d == .arabicNumber then true
  else match directions.head? with
    | some .right =>
      !directions.contains .left &&
        !(directions.contains .arabicNumber && directions.contains .europeanNumber) &&
        endsWith [.right, .arabicNumber, .europeanNumber] directions
    | some .left =>
      !directions.any (fun d => d == .right || d == .arabicNumber) &&
        endsWith [.left, .europeanNumber] directions
    | _ => false

def isArabicDigit (c : Char) : Bool :=
  0x660 ≤ c.toNat && c.toNat ≤ 0x669

def isPersianDigit (c : Char) : Bool :=
  0x6f0 ≤ c.toNat && c.toNat ≤ 0x6f9

/-- What a character needs beside it: the characters before it in reverse, and those behind it. -/
def contextFits (label before : Text) (c : Char) (behind : Text) : Bool :=
  match c with
  | '\u200c' => before.head?.any viramas.has ||
      (!before.head?.any unknown.has &&
        (before.find? (!transparent.has ·)).any (fun c => joinsLeft.has c || joinsBoth.has c) &&
        (behind.find? (!transparent.has ·)).any fun c => joinsRight.has c || joinsBoth.has c)
  | '\u200d' => before.head?.any viramas.has
  | '\u00b7' => before.head? == some 'l' && behind.head? == some 'l'
  | '\u0375' => behind.head?.any greek.has
  | '\u05f3' | '\u05f4' => before.head?.any hebrew.has
  | '\u30fb' => label.any fun c => c != '\u30fb' && (hiragana.has c || katakana.has c || han.has c)
  | c =>
    if isArabicDigit c then !label.any isPersianDigit
    else isPersianDigit c && !label.any isArabicDigit

/-- Whether a character is one that joins others or keeps them apart. -/
def isJoiner (c : Char) : Bool :=
  c == '\u200c' || c == '\u200d'

/-- Whether a character is permitted only beside others. -/
def needsContext (c : Char) : Bool :=
  "\u200c\u200d\u00b7\u0375\u05f3\u05f4\u30fb".toList.contains c || isArabicDigit c ||
    isPersianDigit c

/-- Checks the characters of a label one by one. A joiner out of its place spoils the whole label.
-/
def checkCharacters (label before : Text) : Text → Except Fault Unit
  | [] => .ok ()
  | c :: behind =>
    if permitted.has c then checkCharacters label (c :: before) behind
    else if !needsContext c then .error .character
    else if contextFits label before c behind then checkCharacters label (c :: before) behind
    else .error (if isJoiner c then .malformed else .context)

/-- Checks a label that is written in its own script. -/
def check (label : Text) : Except Fault Unit := do
  if label.isEmpty || !Composition.isComposed label then throw .malformed
  if (label.drop 2).take 2 == ['-', '-'] then throw .malformed
  if label.head? == some '-' || label.getLast? == some '-' then throw .malformed
  if label.head?.any marks.has then throw .malformed
  checkCharacters label [] label
  if !directionsFit (label.map directionOf) then throw .direction

/-- What a label in ASCII starts with if it stands for one in another script. -/
def mark : Text := "xn--".toList

/-- The label in its own script for a label in ASCII. -/
def toScript (label : Text) : Except Fault Text := do
  let label := label.map Char.toLower
  match after? mark label with
  | none =>
    check label
    return label
  | some encoded =>
    if encoded.isEmpty || encoded.getLast? == some '-' then throw .malformed
    match Punycode.decode? encoded with
    | none => throw .malformed
    | some label =>
      check label
      return label

/-- The label in ASCII for a label. -/
def toAscii (label : Text) : Except Fault Text := do
  let ascii ← if label.all (·.toNat < 128) then do
      discard (toScript label)
      pure label
    else do
      check label
      pure (mark ++ Punycode.encode label)
  if 63 < ascii.length then throw .malformed
  return ascii

end Label

/-- The dots that part the labels of a name. -/
def isDot (c : Char) : Bool :=
  c == '.' || c == '\u3002' || c == '\uff0e' || c == '\uff61'

/-- The labels of a name, and whether a dot ends it. -/
def labelsOf (name : Text) : Except Fault (List Text × Bool) :=
  let labels := splitAt '.' (name.map fun c => if isDot c then '.' else c)
  if 254 < name.length || labels == [[]] then .error .malformed
  else if labels.getLast? == some [] then .ok (labels.dropLast, true)
  else .ok (labels, false)

/-- The name with its labels in ASCII. -/
def toAscii (name : Text) : Except Fault Text := do
  let (labels, isClosed) ← labelsOf name
  let labels ← labels.mapM Label.toAscii
  let ascii := join ['.'] (labels ++ if isClosed then [[]] else [])
  if (if isClosed then 254 else 253) < ascii.length then throw .malformed
  return ascii

/-- Checks that every label of a name in ASCII stands for one in its own script. -/
def checkAscii (name : Text) : Except Fault Unit := do
  let (labels, _) ← labelsOf name
  labels.forM fun label => discard (Label.toScript label)

end DepView.Domain
