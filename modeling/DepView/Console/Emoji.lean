import DepView.Console.EmojiNames
import DepView.Text.Blank
import DepView.Text.Lower
import DepView.Text.Scan

/-!
Emoji that are written by name, between colons. Behind the name may stand which of its two shapes an
emoji is to have. A name that no emoji has stays as it is written.
-/

namespace DepView.Console.Emoji

/-- The pieces of a text that have a blank behind them. -/
def pieces (text : Text) : List Text :=
  (Text.splitAt ' ' text).dropLast

/-- The names of emoji, each with its emoji. -/
def named : List (Text × Text) :=
  emojiNames.flatMap fun line => pairs (pieces line.toList)
where
  pairs : List Text → List (Text × Text)
    | name :: emoji :: rest => (name, emoji) :: pairs rest
    | _ => []

/-- The shapes that may be asked for, with the character that asks for it. -/
def shapes : List (Text × Char) :=
  [("-text".toList, '\ufe0e'), ("-emoji".toList, '\ufe0f')]

/-- The name between two colons, and the shape that is asked for behind it. -/
def nameOf (inner : Text) : Text × Text :=
  (shapes.findSome? fun (ending, shape) =>
    (Text.before? ending inner).map fun name => (name, [shape])).getD (inner, [])

/-- The emoji for what stands between two colons. -/
def emoji? (inner : Text) : Option Text :=
  let (name, shape) := nameOf inner
  (named.lookup (Text.lower name)).map (· ++ shape)

def endsName (c : Char) : Bool :=
  c == ':' || Text.isBlank c

/-- Reads what stands between two colons, where no blank is. -/
def code? : Text → Option (Text × Text)
  | ':' :: rest =>
    match rest.dropWhile (!endsName ·) with
    | ':' :: after => some (rest.takeWhile (!endsName ·), after)
    | _ => none
  | _ => none

def codePattern : Text.Pattern Text where
  match? := code?
  rest_lt := by
    intro text inner rest h
    unfold code? at h
    split at h
    · rename_i tail
      split at h
      · rename_i after ha
        have hl := Text.length_dropWhile_le (!endsName ·) tail
        rw [ha] at hl
        cases h
        simp only [List.length_cons] at hl ⊢
        omega
      · simp at h
    · simp at h

/-- The text with emoji for their names. -/
def replace (text : Text) : Text :=
  codePattern.replaceAll (fun inner => (emoji? inner).getD (':' :: inner ++ [':'])) text

end DepView.Console.Emoji
