import DepView.Text.Scan

/-!
Quoted strings. A backslash and a double quote inside a string are written with a backslash
before them. Reading takes a backslash together with the character that follows, so the first
quote that is not taken this way closes the string.
-/

namespace DepView.Text.Quoted

/-- The inside of the quoted string that stands for a text: both characters are written anew in one
pass. -/
def escape : Text → Text
  | [] => []
  | c :: rest => if c = '\\' || c = '"' then '\\' :: c :: escape rest else c :: escape rest

/-- Each backslash gives way to the character behind it. One at the end of the text, or before
a line feed, stays. -/
def unescape : Text → Text
  | [] => []
  | '\\' :: c :: rest => if c = '\n' then '\\' :: c :: unescape rest else c :: unescape rest
  | c :: rest => c :: unescape rest

/-- Reads up to the closing quote: the inside of the string as it is written, and the text
after the quote. A backslash never takes a line feed, and a bare line feed is refused in a
string that is confined to one line. -/
def body? (multiline : Bool) : Text → Option (Text × Text)
  | [] => none
  | '"' :: rest => some ([], rest)
  | '\\' :: [] => none
  | '\\' :: c :: rest =>
    if c = '\n' then none
    else (body? multiline rest).map fun (inside, after) => ('\\' :: c :: inside, after)
  | c :: rest =>
    if c = '\n' && !multiline then none
    else (body? multiline rest).map fun (inside, after) => (c :: inside, after)

theorem body?_length {multiline : Bool} {text inside rest : Text}
    (h : body? multiline text = some (inside, rest)) :
    text.length = inside.length + 1 + rest.length := by
  fun_induction body? multiline text generalizing inside rest with
  | case1 => simp at h
  | case2 => simp at h; obtain ⟨rfl, rfl⟩ := h; simp; omega
  | case3 => simp at h
  | case4 => simp at h
  | case5 c tail hc ih =>
    obtain ⟨⟨i, r⟩, hb, he⟩ := Option.map_eq_some_iff.1 h
    simp at he
    obtain ⟨rfl, rfl⟩ := he
    simp [ih hb]
    omega
  | case6 => simp at h
  | case7 c tail _ _ _ hc ih =>
    obtain ⟨⟨i, r⟩, hb, he⟩ := Option.map_eq_some_iff.1 h
    simp at he
    obtain ⟨rfl, rfl⟩ := he
    simp [ih hb]
    omega

/-- A quoted string, line feeds allowed. -/
def string? : Text → Option (Text × Text)
  | '"' :: rest => body? true rest
  | _ => none

/-- A quoted string with an inside, confined to one line. -/
def label? : Text → Option (Text × Text)
  | '"' :: rest =>
    match body? false rest with
    | some ([], _) => none
    | found => found
  | _ => none

theorem string?_lt {text inside rest : Text} (h : string? text = some (inside, rest)) :
    rest.length < text.length := by
  unfold string? at h
  split at h
  · have := body?_length h
    simp only [List.length_cons]
    omega
  · simp at h

theorem label?_lt {text inside rest : Text} (h : label? text = some (inside, rest)) :
    rest.length < text.length := by
  unfold label? at h
  split at h
  · split at h
    · simp at h
    · have := body?_length h
      simp only [List.length_cons]
      omega
  · simp at h

/-- Quoted strings anywhere in a text. -/
def string : Pattern Text := ⟨string?, string?_lt⟩

end DepView.Text.Quoted
