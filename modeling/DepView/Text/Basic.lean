/-!
Text is a list of characters. This module holds the operations on it that every other part
needs: cutting into lines and segments, joining, trimming, and folding line endings.
-/

namespace DepView

abbrev Text := List Char

namespace Text

/-- The pieces between the occurrences of `sep`: one more than there are occurrences. -/
def splitAt (sep : Char) : Text → List Text
  | [] => [[]]
  | c :: rest =>
    if c = sep then [] :: splitAt sep rest
    else match splitAt sep rest with
      | [] => [[c]]
      | piece :: pieces => (c :: piece) :: pieces

/-- The pieces of a text, put back together with `sep` between them. -/
def join (sep : Text) (pieces : List Text) : Text :=
  List.intercalate sep pieces

/-- The lines of a text. A line feed separates two lines and belongs to neither. -/
def lines (text : Text) : List Text :=
  splitAt '\n' text

/-- Every carriage return that stands before a line feed is dropped. -/
def foldCrlf : Text → Text
  | [] => []
  | '\r' :: '\n' :: rest => '\n' :: foldCrlf rest
  | c :: rest => c :: foldCrlf rest

/-- Every line ending, written as CR LF, CR or LF, becomes one line feed. -/
def foldNewlines : Text → Text
  | [] => []
  | '\r' :: '\n' :: rest => '\n' :: foldNewlines rest
  | c :: rest => (if c = '\r' then '\n' else c) :: foldNewlines rest

/-- The text without the characters of class `p` at its end. -/
def trimEndWhile (p : Char → Bool) (text : Text) : Text :=
  (text.reverse.dropWhile p).reverse

/-- The text without the characters of class `p` at both ends. -/
def trimWhile (p : Char → Bool) (text : Text) : Text :=
  trimEndWhile p (text.dropWhile p)

/-- The last piece of a text that is cut at the characters of class `p`. -/
def lastPiece (p : Char → Bool) (text : Text) : Text :=
  (text.reverse.takeWhile (fun c => !p c)).reverse

/-- What follows `start` in a text that begins with it. -/
def after? : Text → Text → Option Text
  | [], text => some text
  | _ :: _, [] => none
  | s :: start, c :: text => if s = c then after? start text else none

/-- What comes before `ending` in a text that ends with it. -/
def before? (ending text : Text) : Option Text :=
  (after? ending.reverse text.reverse).map List.reverse

/-- Whether the text holds `part` somewhere. -/
def holds (part : Text) : Text → Bool
  | [] => part.isEmpty
  | c :: rest => (after? part (c :: rest)).isSome || holds part rest

theorem after?_eq_some {start text rest : Text} :
    after? start text = some rest ↔ text = start ++ rest := by
  induction start generalizing text with
  | nil => simp [after?, eq_comm]
  | cons s start ih =>
    cases text with
    | nil => simp [after?]
    | cons c text =>
      by_cases h : s = c
      · simp [after?, h, ih]
      · simp [after?, h, Ne.symm h]

theorem splitAt_ne_nil (sep : Char) (text : Text) : splitAt sep text ≠ [] := by
  cases text with
  | nil => simp [splitAt]
  | cons c rest =>
    simp only [splitAt]
    split
    · simp
    · split <;> simp

end Text

end DepView
