import DepView.Text.Scan

/-!
Text without the sequences that style it on a terminal. A sequence is an escape character and an
opening bracket, some parameters, and a letter that ends it.
-/

namespace DepView.Text

/-- A parameter of a sequence, or a part of one. -/
def isParameter (c : Char) : Bool :=
  c.isDigit || c == ';' || c == '?'

/-- The text behind a sequence that styles it. -/
def afterStyle? : Text → Option Text
  | '\x1b' :: '[' :: rest =>
    match rest.dropWhile isParameter with
    | c :: after => if c.isAlpha then some after else none
    | [] => none
  | _ => none

theorem afterStyle?_lt {text rest : Text} (h : afterStyle? text = some rest) :
    rest.length < text.length := by
  unfold afterStyle? at h
  split at h
  · rename_i tail
    split at h
    · rename_i c after ha
      have hl := length_dropWhile_le isParameter tail
      rw [ha] at hl
      split at h
      · cases h
        simp only [List.length_cons] at hl ⊢
        omega
      · simp at h
    · simp at h
  · simp at h

def stylePattern : Pattern Unit where
  match? text := (afterStyle? text).map fun rest => ((), rest)
  rest_lt := by
    intro text found rest h
    obtain ⟨after, ha, hr⟩ := Option.map_eq_some_iff.1 h
    cases hr
    exact afterStyle?_lt ha

/-- The text without its styles. -/
def unstyled (text : Text) : Text :=
  stylePattern.replaceAll (fun _ => []) text

end DepView.Text
