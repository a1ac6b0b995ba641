import DepView.Proofs.PatternScan
import DepView.Text.Quoted

/-!
Escaped text between quotes delimits itself. Reading from an opening quote ends at
the closing one and gives back what was escaped, whatever follows. A reader that is
confined to one line does the same, or is stopped by a line feed of the text.
-/

namespace DepView.Text.Quoted

/-- How one character of a text is written between quotes. -/
def written (c : Char) : Text :=
  if c = '\\' ∨ c = '"' then ['\\', c] else [c]

theorem written_of_special {c : Char} (h : c = '\\' ∨ c = '"') : written c = ['\\', c] :=
  if_pos h

theorem written_of_plain {c : Char} (h : ¬ (c = '\\' ∨ c = '"')) : written c = [c] :=
  if_neg h

theorem escape_eq_flatMap (text : Text) : escape text = text.flatMap written := by
  induction text with
  | nil => rfl
  | cons c text ih =>
    by_cases h : c = '\\' ∨ c = '"'
    · simp [escape, written, h, ih]
    · simp [escape, written, h, ih]

theorem replaceAll_char (c : Char) (write : Text) (text : Text) :
    (Pattern.exactly [c] (List.cons_ne_nil c [])).replaceAll (fun _ => write) text =
      text.flatMap fun d => if d = c then write else [d] := by
  induction text with
  | nil => exact Pattern.replaceAll_nil _ _
  | cons d text ih =>
    rw [List.flatMap_cons, ← ih]
    by_cases h : d = c
    · rw [if_pos h]
      have hmatch : (Pattern.exactly [c] (List.cons_ne_nil c [])).match? (d :: text) =
          some ((), text) := by simp [Pattern.exactly, after?, h]
      exact Pattern.replaceAll_of_match _ _ hmatch
    · rw [if_neg h]
      have hnone : (Pattern.exactly [c] (List.cons_ne_nil c [])).match? (d :: text) = none := by
        simp [Pattern.exactly, after?, Ne.symm h]
      exact Pattern.replaceAll_cons_of_none _ _ hnone

/-- One pass is as good as two, of which the first doubles the backslashes and the second puts one
before each quote. The other way around, the backslashes before the quotes would be doubled, too. -/
theorem escape_eq_replaceAll (text : Text) :
    escape text =
      (Pattern.exactly ['"'] (List.cons_ne_nil _ _)).replaceAll (fun _ => ['\\', '"'])
        ((Pattern.exactly ['\\'] (List.cons_ne_nil _ _)).replaceAll (fun _ => ['\\', '\\'])
          text) := by
  rw [replaceAll_char, replaceAll_char, List.flatMap_assoc, escape_eq_flatMap]
  refine congrArg (List.flatMap · text) (funext fun c => ?_)
  by_cases hslash : c = '\\'
  · rw [written_of_special (Or.inl hslash), hslash]
    rfl
  by_cases hquote : c = '"'
  · rw [written_of_special (Or.inr hquote), hquote]
    rfl
  rw [written_of_plain (not_or.mpr ⟨hslash, hquote⟩), if_neg hslash, List.flatMap_singleton,
    if_neg hquote]

theorem escape_cons (c : Char) (text : Text) :
    escape (c :: text) = written c ++ escape text := by
  rw [escape_eq_flatMap, escape_eq_flatMap, List.flatMap_cons]

theorem mem_written {c d : Char} (h : c ∈ written d) : c = d ∨ c = '\\' := by
  by_cases hd : d = '\\' ∨ d = '"'
  · simpa [written_of_special hd, or_comm] using h
  · exact Or.inl (by simpa [written_of_plain hd] using h)

theorem mem_escape {c : Char} {text : Text} (h : c ∈ escape text) : c ∈ text ∨ c = '\\' := by
  rw [escape_eq_flatMap, List.mem_flatMap] at h
  obtain ⟨d, hd, hc⟩ := h
  rcases mem_written hc with rfl | hslash
  · exact Or.inl hd
  · exact Or.inr hslash

/-- A text without quotes and backslashes is written as it is. -/
theorem escape_of_notMem {text : Text} (hquote : '"' ∉ text) (hslash : '\\' ∉ text) :
    escape text = text := by
  induction text with
  | nil => rfl
  | cons c text ih =>
    rw [List.mem_cons, not_or] at hquote hslash
    have hc : ¬ (c = '\\' ∨ c = '"') := fun h => h.elim (Ne.symm hslash.1) (Ne.symm hquote.1)
    rw [escape_cons, written_of_plain hc, List.singleton_append, ih hquote.2 hslash.2]

theorem escape_ne_nil {text : Text} (h : text ≠ []) : escape text ≠ [] := by
  cases text with
  | nil => exact False.elim (h rfl)
  | cons c text =>
    by_cases hc : c = '\\' ∨ c = '"'
    · simp [escape_cons, written_of_special hc]
    · simp [escape_cons, written_of_plain hc]

theorem unescape_cons {c : Char} (hc : c ≠ '\\') (rest : Text) :
    unescape (c :: rest) = c :: unescape rest := by
  rw [unescape]
  intro d tail h _
  exact hc h

/-- What was escaped comes back, line feeds and runs of backslashes included. -/
theorem unescape_escape (text : Text) : unescape (escape text) = text := by
  induction text with
  | nil => rfl
  | cons c text ih =>
    rw [escape_cons]
    by_cases hc : c = '\\' ∨ c = '"'
    · have hlf : c ≠ '\n' := by
        rcases hc with rfl | rfl <;> decide
      simp [written_of_special hc, unescape, hlf, ih]
    · rw [written_of_plain hc, List.singleton_append,
        unescape_cons (fun h => hc (Or.inl h)), ih]

/-- Reading over one character of a text as it is written. -/
theorem body?_written (multiline : Bool) (c : Char) (tail : Text) :
    body? multiline (written c ++ tail) =
      if c = '\n' ∧ multiline = false then none
      else (body? multiline tail).map fun (inside, after) => (written c ++ inside, after) := by
  by_cases hc : c = '\\' ∨ c = '"'
  · have hlf : c ≠ '\n' := by
      rcases hc with rfl | rfl <;> decide
    simp [written_of_special hc, hlf, body?]
  · have hslash : c ≠ '\\' := fun h => hc (Or.inl h)
    have hquote : c ≠ '"' := fun h => hc (Or.inr h)
    rw [written_of_plain hc, List.singleton_append, body?]
    · simp
    · exact hquote
    · intro h _
      exact hslash h
    · intro d rest h _
      exact hslash h

/-- A reader ends at the closing quote, unless a line feed stops it. -/
theorem body?_escape (multiline : Bool) (text rest : Text) :
    body? multiline (escape text ++ '"' :: rest) =
      if '\n' ∈ text ∧ multiline = false then none else some (escape text, rest) := by
  induction text with
  | nil => simp [escape, body?]
  | cons c text ih =>
    rw [escape_cons, List.append_assoc, body?_written, ih]
    by_cases hm : multiline = false
    · by_cases hc : c = '\n'
      · simp [hc, hm]
      · have hc' : '\n' ≠ c := Ne.symm hc
        by_cases ht : '\n' ∈ text
        · simp [hc, hm, ht]
        · simp [hc, hc', hm, ht]
    · simp [hm]

/-- The closing quote of an escaped text is found again, so text and rest are the only ones. -/
theorem escape_quote_inj {a b rest other : Text}
    (h : escape a ++ '"' :: rest = escape b ++ '"' :: other) : a = b ∧ rest = other := by
  have hbody := congrArg (body? true) h
  simp only [body?_escape, Bool.true_eq_false, and_false, if_false, Option.some.injEq,
    Prod.mk.injEq] at hbody
  have hunescape := congrArg unescape hbody.1
  rw [unescape_escape, unescape_escape] at hunescape
  exact ⟨hunescape, hbody.2⟩

theorem string?_escape (text rest : Text) :
    string? ('"' :: (escape text ++ '"' :: rest)) = some (escape text, rest) := by
  simp [string?, body?_escape]

/-- A label confined to one line is read in full, or not at all. -/
theorem label?_escape (text rest : Text) :
    label? ('"' :: (escape text ++ '"' :: rest)) =
      if text = [] ∨ '\n' ∈ text then none else some (escape text, rest) := by
  by_cases hlf : '\n' ∈ text
  · simp [label?, body?_escape, hlf]
  · cases text with
    | nil => simp [label?, body?, escape]
    | cons c text =>
      have hne : escape (c :: text) ≠ [] := escape_ne_nil (List.cons_ne_nil c text)
      simp only [label?, body?_escape, hlf]
      split
      · rename_i h
        simp at h
        exact False.elim (hne h.1)
      · simp

/-! What can stand between quotes. -/

/-- The inside of a quoted string: plain characters, and backslashes that each take the character
behind them. -/
inductive Inside (multiline : Bool) : Text → Prop
  | nil : Inside multiline []
  | plain {c : Char} {rest : Text} (hquote : c ≠ '"') (hslash : c ≠ '\\')
    (hlf : c = '\n' → multiline = true) (hrest : Inside multiline rest) :
    Inside multiline (c :: rest)
  | escaped {c : Char} {rest : Text} (hlf : c ≠ '\n') (hrest : Inside multiline rest) :
    Inside multiline ('\\' :: c :: rest)

theorem inside_of_body? {multiline : Bool} {text inside rest : Text}
    (h : body? multiline text = some (inside, rest)) :
    Inside multiline inside ∧ text = inside ++ '"' :: rest := by
  fun_induction body? multiline text generalizing inside rest with
  | case1 | case3 | case4 | case6 => cases h
  | case2 tail =>
    cases h
    exact ⟨.nil, rfl⟩
  | case5 c tail hc ih =>
    obtain ⟨⟨found, after⟩, hfound, heq⟩ := Option.map_eq_some_iff.mp h
    cases heq
    obtain ⟨hinside, rfl⟩ := ih hfound
    exact ⟨.escaped hc hinside, rfl⟩
  | case7 c tail hquote hlast hslash hlf ih =>
    obtain ⟨⟨found, after⟩, hfound, heq⟩ := Option.map_eq_some_iff.mp h
    cases heq
    obtain ⟨hinside, rfl⟩ := ih hfound
    have hne : c ≠ '\\' := by
      rintro rfl
      cases hsplit : found ++ '"' :: rest with
      | nil => simp at hsplit
      | cons d tail => exact hslash d tail rfl hsplit
    have hline : c = '\n' → multiline = true := by simpa using hlf
    exact ⟨.plain hquote hne hline hinside, rfl⟩

theorem body?_of_inside {multiline : Bool} {inside : Text} (h : Inside multiline inside)
    (rest : Text) : body? multiline (inside ++ '"' :: rest) = some (inside, rest) := by
  induction h with
  | nil => rfl
  | plain hquote hslash hlf _ ih =>
    rw [List.cons_append, body?, if_neg (by simpa using hlf), ih]
    · rfl
    · exact hquote
    · exact fun heq _ => hslash heq
    · exact fun _ _ heq _ => hslash heq
  | escaped hlf _ ih =>
    rw [List.cons_append, List.cons_append, body?, if_neg hlf, ih]
    rfl

/-- A label on one line is read where one is written. -/
theorem label?_eq_some_iff {text inside rest : Text} : label? text = some (inside, rest) ↔
    inside ≠ [] ∧ Inside false inside ∧ text = '"' :: (inside ++ '"' :: rest) := by
  constructor
  · intro h
    unfold label? at h
    split at h
    · split at h
      · cases h
      · rename_i hne
        obtain ⟨hinside, rfl⟩ := inside_of_body? h
        refine ⟨?_, hinside, rfl⟩
        rintro rfl
        exact hne rest h
    · cases h
  · rintro ⟨hne, hinside, rfl⟩
    rw [label?, body?_of_inside hinside]
    cases inside with
    | nil => exact absurd rfl hne
    | cons c inside => rfl

theorem string?_cons_of_ne {c : Char} (h : c ≠ '"') (rest : Text) :
    string? (c :: rest) = none := by
  unfold string?
  split
  · rename_i heq
    cases heq
    exact False.elim (h rfl)
  · rfl

theorem label?_cons_of_ne {c : Char} (h : c ≠ '"') (rest : Text) :
    label? (c :: rest) = none := by
  unfold label?
  split
  · rename_i heq
    cases heq
    exact False.elim (h rfl)
  · rfl

/-- Without a quote there is no end of a label. -/
theorem body?_of_notMem {multiline : Bool} {text : Text} (h : '"' ∉ text) :
    body? multiline text = none := by
  cases hbody : body? multiline text with
  | none => rfl
  | some found =>
    obtain ⟨_, rfl⟩ := inside_of_body? hbody
    simp at h

theorem label?_append {text inside rest : Text} (h : label? text = some (inside, rest))
    (more : Text) : label? (text ++ more) = some (inside, rest ++ more) := by
  obtain ⟨hne, hinside, rfl⟩ := label?_eq_some_iff.mp h
  exact label?_eq_some_iff.mpr ⟨hne, hinside, by simp⟩

/-- Rewriting all quoted strings changes an escaped text between quotes as a whole. -/
theorem string_rewrites_escape (write : Text → Text) (text : Text) :
    string.Rewrites write ('"' :: escape text ++ ['"']) (write (escape text)) := by
  apply Pattern.Rewrites.of_match
  intro rest
  rw [List.append_assoc]
  exact string?_escape text rest

theorem string_rewrites_of_notMem (write : Text → Text) {chunk : Text} (h : '"' ∉ chunk) :
    string.Rewrites write chunk chunk := by
  apply Pattern.Rewrites.skips
  intro c hc rest
  apply string?_cons_of_ne
  intro heq
  exact h (heq ▸ hc)

/-! Quotes inside of an escaped text. -/

/-- What may stand in a string of one line may stand in a string of several. -/
theorem Inside.multiline {multiline : Bool} {inside : Text} (h : Inside multiline inside) :
    Inside true inside := by
  induction h with
  | nil => exact .nil
  | plain hquote hslash _ _ ih => exact .plain hquote hslash (fun _ => rfl) ih
  | escaped hlf _ ih => exact .escaped hlf ih

/-- A quote in an escaped text is one of the text, behind its backslash. -/
theorem escape_eq_append_quote {text before after : Text}
    (h : escape text = before ++ '"' :: after) :
    ∃ left right, text = left ++ '"' :: right ∧ before = escape left ++ ['\\'] ∧
      after = escape right := by
  induction text generalizing before with
  | nil => simp [escape] at h
  | cons c text ih =>
    rw [escape_cons] at h
    by_cases hc : c = '\\' ∨ c = '"'
    · rw [written_of_special hc] at h
      match before with
      | [] => simp at h
      | [d] =>
        obtain ⟨rfl, rfl, rfl⟩ : '\\' = d ∧ c = '"' ∧ escape text = after := by simpa using h
        exact ⟨[], text, rfl, rfl, rfl⟩
      | d :: e :: before =>
        obtain ⟨rfl, rfl, hrest⟩ : '\\' = d ∧ c = e ∧ escape text = before ++ '"' :: after := by
          simpa using h
        obtain ⟨left, right, rfl, rfl, rfl⟩ := ih hrest
        exact ⟨c :: left, right, rfl, by simp [escape_cons, written_of_special hc], rfl⟩
    · rw [written_of_plain hc] at h
      match before with
      | [] =>
        obtain ⟨rfl, _⟩ : c = '"' ∧ escape text = after := by simpa using h
        exact absurd (Or.inr rfl) hc
      | d :: before =>
        obtain ⟨rfl, hrest⟩ : c = d ∧ escape text = before ++ '"' :: after := by simpa using h
        obtain ⟨left, right, rfl, rfl, rfl⟩ := ih hrest
        exact ⟨c :: left, right, rfl, by simp [escape_cons, written_of_plain hc], rfl⟩

/-- Reading from an opening quote ends at the quote behind `inside`. A string ends there, a label
ends there or there is none, and nothing else can be taken for the inside of either. -/
structure EndsBehind (inside rest : Text) : Prop where
  string : string? ('"' :: (inside ++ '"' :: rest)) = some (inside, rest)
  label : label? ('"' :: (inside ++ '"' :: rest)) = none ∨
    label? ('"' :: (inside ++ '"' :: rest)) = some (inside, rest)
  only : ∀ multiline found after, Inside multiline found →
    inside ++ '"' :: rest = found ++ '"' :: after → found = inside ∧ after = rest

theorem endsBehind_escape (text rest : Text) : EndsBehind (escape text) rest where
  string := string?_escape text rest
  label := by
    rw [label?_escape]
    split
    · exact Or.inl rfl
    · exact Or.inr rfl
  only multiline found after hfound heq := by
    have hread := body?_of_inside hfound.multiline after
    rw [← heq, body?_escape] at hread
    simpa [eq_comm] using hread

/-- An escaped text between quotes delimits itself. It is read in full and gives the text back, as a
label if it is not empty and fits on one line. Reading that starts at a quote inside of it ends
where reading from the opening quote does. -/
theorem escape_selfDelimiting (text : Text) :
    unescape (escape text) = text ∧
      (∀ rest, EndsBehind (escape text) rest) ∧
      (∀ rest, label? ('"' :: (escape text ++ '"' :: rest)) =
        if text = [] ∨ '\n' ∈ text then none else some (escape text, rest)) ∧
      ∀ before after, escape text = before ++ '"' :: after → ∀ rest, EndsBehind after rest := by
  refine ⟨unescape_escape text, endsBehind_escape text, label?_escape text, ?_⟩
  intro before after hquote rest
  -- What stands behind that quote is the escaped rest of the text.
  obtain ⟨_, right, _, _, rfl⟩ := escape_eq_append_quote hquote
  exact endsBehind_escape right rest

/-- A text of a backslash, a quote, a backslash and a line feed, read from the quote in it. -/
theorem escape_selfDelimiting_inner :
    escape "\\\"\\\n".toList = "\\\\\\".toList ++ '"' :: "\\\\\n".toList ∧
      string? "\"\\\\\n\"]; more".toList = some ("\\\\\n".toList, "]; more".toList) :=
  ⟨by decide, ((escape_selfDelimiting "\\\"\\\n".toList).2.2.2 "\\\\\\".toList "\\\\\n".toList
    (by decide) "]; more".toList).string⟩

end DepView.Text.Quoted
