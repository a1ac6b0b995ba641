import DepView.Text.Basic

/-!
Scanning a text for a pattern. A pattern reads at the head of a text and, where it matches,
leaves a shorter rest; so the scan for all matches, from left to right and without overlap,
ends on every text.
-/

namespace DepView.Text

/-- What may be read at the head of a text: the value found and the text after it. -/
structure Pattern (α : Type) where
  match? : Text → Option (α × Text)
  rest_lt : ∀ {text : Text} {found : α} {rest : Text},
    match? text = some (found, rest) → rest.length < text.length

namespace Pattern

variable {α : Type}

/-- All matches from left to right. The search goes on behind each match. -/
def findAll (p : Pattern α) (text : Text) : List α :=
  match text with
  | [] => []
  | c :: tail =>
    match _h : p.match? (c :: tail) with
    | some (found, rest) => found :: findAll p rest
    | none => findAll p tail
termination_by text.length
decreasing_by
  · exact p.rest_lt _h
  · simp

/-- The text with every match written anew and all else kept. -/
def replaceAll (p : Pattern α) (write : α → Text) (text : Text) : Text :=
  match text with
  | [] => []
  | c :: tail =>
    match _h : p.match? (c :: tail) with
    | some (found, rest) => write found ++ replaceAll p write rest
    | none => c :: replaceAll p write tail
termination_by text.length
decreasing_by
  · exact p.rest_lt _h
  · simp

/-- The matches, each with the text before it, and the text behind the last one. -/
def cutAll (p : Pattern α) (text : Text) : List (Text × α) × Text :=
  match text with
  | [] => ([], [])
  | c :: tail =>
    match _h : p.match? (c :: tail) with
    | some (found, rest) =>
      let (cuts, last) := cutAll p rest
      (([], found) :: cuts, last)
    | none =>
      match cutAll p tail with
      | ([], last) => ([], c :: last)
      | ((before, found) :: cuts, last) => ((c :: before, found) :: cuts, last)
termination_by text.length
decreasing_by
  · exact p.rest_lt _h
  · simp

/-- Whether the pattern matches anywhere. -/
def occursIn (p : Pattern α) : Text → Bool
  | [] => false
  | c :: tail => (p.match? (c :: tail)).isSome || occursIn p tail

end Pattern

/-- The longest run of characters of a class at the head of a text, if there is one. -/
def run? (p : Char → Bool) (text : Text) : Option (Text × Text) :=
  match text.takeWhile p with
  | [] => none
  | found => some (found, text.dropWhile p)

theorem length_dropWhile_le (p : Char → Bool) (text : Text) :
    (text.dropWhile p).length ≤ text.length :=
  (List.dropWhile_suffix p).length_le

theorem after?_length {start text rest : Text} (h : after? start text = some rest) :
    text.length = start.length + rest.length := by
  rw [after?_eq_some] at h
  simp [h]

/-- A text itself, as a pattern. -/
def Pattern.exactly (part : Text) (h : part ≠ []) : Pattern Unit where
  match? text := (after? part text).map fun rest => ((), rest)
  rest_lt := by
    intro text found rest hmatch
    obtain ⟨behind, hbehind, hpair⟩ := Option.map_eq_some_iff.mp hmatch
    have hlength := after?_length hbehind
    have hpart : 0 < part.length := List.length_pos_iff.mpr h
    rw [← (Prod.mk.inj hpair).2]
    omega

theorem run?_lt {p : Char → Bool} {text found rest : Text} (h : run? p text = some (found, rest)) :
    rest.length < text.length := by
  unfold run? at h
  split at h
  · simp at h
  · rename_i ht
    simp only [Option.some.injEq, Prod.mk.injEq] at h
    have hl := congrArg List.length (List.takeWhile_append_dropWhile (p := p) (l := text))
    have hp : 0 < (text.takeWhile p).length := List.length_pos_iff.2 ht
    rw [List.length_append] at hl
    rw [← h.2]
    omega

end DepView.Text
