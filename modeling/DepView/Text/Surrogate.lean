import DepView.Text.Basic

/-!
Halves of surrogate pairs. An escape can name one half of a pair alone, which is a code but no
character, and has no form in UTF-8. A text keeps such a half as two private-use characters: a mark,
and the character 0x100000 above the code. The codes of a text are those of its characters and of
such halves.
-/

namespace DepView.Text

def isSurrogate (code : Nat) : Bool :=
  0xd800 ≤ code && code ≤ 0xdfff

/-- Stands before the character for half of a pair. -/
def halfMark : Char := Char.ofNat 0x10fffd

/-- The code of the half that a character behind the mark stands for. -/
def half? (c : Char) : Option Nat :=
  if 0x100000 ≤ c.toNat && isSurrogate (c.toNat - 0x100000) then some (c.toNat - 0x100000) else none

/-- The text for a code. -/
def ofCode (code : Nat) : Text :=
  if isSurrogate code then [halfMark, Char.ofNat (0x100000 + code)] else [Char.ofNat code]

/-- The codes of a text, behind those that are found already, the last of them first. -/
def codesFrom (found : List Nat) : Text → List Nat
  | [] => found.reverse
  | [c] => (c.toNat :: found).reverse
  | c :: next :: rest =>
    match if c = halfMark then half? next else none with
    | some code => codesFrom (code :: found) rest
    | none => codesFrom (c.toNat :: found) (next :: rest)

/-- The codes of a text. -/
def codes (text : Text) : List Nat :=
  codesFrom [] text

def holdsSurrogate (text : Text) : Bool :=
  text.contains halfMark && (codes text).any isSurrogate

end DepView.Text
