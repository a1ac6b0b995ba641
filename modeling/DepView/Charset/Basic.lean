import DepView.Text.Utf8

/-!
Reading text from bytes, one character after the other. Bytes that mean nothing are marked as such
where they stand; a use of the text may then refuse it, or show a replacement for them.
-/

namespace DepView.Charset

/-- What was read from some bytes: characters, and `none` where bytes mean nothing. -/
abbrev Decoded := List (Option Char)

namespace Decoded

/-- The text, if all bytes mean something. -/
def text? (d : Decoded) : Option Text :=
  d.mapM id

/-- The text with the replacement character for bytes that mean nothing. -/
def lossy (d : Decoded) : Text :=
  d.map (·.getD '\ufffd')

/-- A text that was read without fault. -/
def ofText (text : Text) : Decoded :=
  text.map some

end Decoded

/-- What the next byte begins. Each step takes that byte and some more. -/
inductive Step where
  | text (text : Text) (more : Nat)
  | fault (more : Nat)
  /-- All bytes that are left begin a character of which the rest is missing. -/
  | short
deriving DecidableEq, Repr

/-- Reads bytes step by step. What a step is depends on a state, which it may change. -/
def readAll {σ : Type} (step : σ → UInt8 → Bytes → Step × σ) (state : σ) (bytes : Bytes) :
    Decoded :=
  match bytes with
  | [] => []
  | b :: rest =>
    match step state b rest with
    | (.text text more, state) => Decoded.ofText text ++ readAll step state (rest.drop more)
    | (.fault more, state) => none :: readAll step state (rest.drop more)
    | (.short, _) => [none]
termination_by bytes.length
decreasing_by all_goals (simp only [List.length_drop, List.length_cons]; omega)

/-- How many bytes are left where the rest of a character is missing. -/
def leftOver {σ : Type} (step : σ → UInt8 → Bytes → Step × σ) (state : σ) (bytes : Bytes) : Nat :=
  match bytes with
  | [] => 0
  | b :: rest =>
    match step state b rest with
    | (.text _ more, state) => leftOver step state (rest.drop more)
    | (.fault more, state) => leftOver step state (rest.drop more)
    | (.short, _) => rest.length + 1
termination_by bytes.length
decreasing_by all_goals (simp only [List.length_drop, List.length_cons]; omega)

/-- Reads bytes of a character set whose characters do not depend on what was before them. -/
def readEach (step : UInt8 → Bytes → Step) (bytes : Bytes) : Decoded :=
  readAll (fun _ b rest => (step b rest, ())) () bytes

/-- The step for a character that takes one byte. -/
def Step.ofChar (c : Char) : Step :=
  .text [c] 0

/-- The step for one or two bytes. A first byte that is a character by itself is read as such; the
others need a second byte. -/
def pairStep (single : Nat → Option Char) (pair : Nat → Nat → Option Text) (b : UInt8)
    (rest : Bytes) : Step :=
  match single b.toNat, rest with
  | some c, _ => .ofChar c
  | none, [] => .short
  | none, second :: _ =>
    match pair b.toNat second.toNat with
    | some text => .text text 1
    | none => .fault 0

/-- The character that a byte is in ASCII. -/
def ascii? (byte : Nat) : Option Char :=
  if byte < 0x80 then some (Char.ofNat byte) else none

end DepView.Charset
