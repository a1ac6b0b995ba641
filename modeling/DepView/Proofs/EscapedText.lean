import DepView.Json.Literal
import DepView.Proofs.JsonGrammar
import DepView.Proofs.SurrogateHalves

/-!
Quoted texts are read back. A text is quoted code by code, and the reader joins two escapes only
where the first is for the first half of a surrogate pair and the second for a second half. So a
text without halves comes back as it is; where a first half is followed by a second one, the
character of the pair comes back.
-/

namespace DepView.Text

/-- A code for the first half of a surrogate pair. -/
def isFirstHalf (code : Nat) : Bool :=
  0xd800 ≤ code && code ≤ 0xdbff

/-- A code for the second half of a surrogate pair. -/
def isSecondHalf (code : Nat) : Bool :=
  0xdc00 ≤ code && code ≤ 0xdfff

theorem isSurrogate_of_isFirstHalf {code : Nat} (h : isFirstHalf code = true) :
    isSurrogate code = true := by
  simp only [isFirstHalf, isSurrogate, Bool.and_eq_true, decide_eq_true_eq] at h ⊢
  omega

theorem isSurrogate_of_isSecondHalf {code : Nat} (h : isSecondHalf code = true) :
    isSurrogate code = true := by
  simp only [isSecondHalf, isSurrogate, Bool.and_eq_true, decide_eq_true_eq] at h ⊢
  omega

theorem lt_of_isSurrogate {code : Nat} (h : isSurrogate code = true) : code < 0x10000 := by
  simp only [isSurrogate, Bool.and_eq_true, decide_eq_true_eq] at h
  omega

theorem lt_of_isFirstHalf {code : Nat} (h : isFirstHalf code = true) : code < 0x10000 :=
  lt_of_isSurrogate (isSurrogate_of_isFirstHalf h)

theorem lt_of_isSecondHalf {code : Nat} (h : isSecondHalf code = true) : code < 0x10000 :=
  lt_of_isSurrogate (isSurrogate_of_isSecondHalf h)

theorem not_isSecondHalf {code : Nat} (h : isFirstHalf code = true) :
    isSecondHalf code = false := by
  simp only [isFirstHalf, isSecondHalf, Bool.and_eq_true, Bool.and_eq_false_iff, decide_eq_true_eq,
    decide_eq_false_iff_not] at h ⊢
  omega

theorem not_isFirstHalf {code : Nat} (h : isSurrogate code = false) : isFirstHalf code = false := by
  simp only [isSurrogate, isFirstHalf, Bool.and_eq_false_iff, decide_eq_false_iff_not] at h ⊢
  omega

/-- The character of a surrogate pair. -/
def joined (first second : Nat) : Char :=
  Char.ofNat (0x10000 + (first - 0xd800) * 0x400 + (second - 0xdc00))

/-- The text of some codes. Two halves of a pair side by side are one character. -/
def paired : List Nat → Text
  | [] => []
  | [code] => ofCode code
  | code :: next :: rest =>
    if isFirstHalf code && isSecondHalf next then joined code next :: paired rest
    else ofCode code ++ paired (next :: rest)

/-- Codes of characters and of halves. -/
def IsCode (code : Nat) : Prop :=
  isSurrogate code = true ∨ ∃ c : Char, code = c.toNat

theorem isCode_codes (text : Text) : ∀ code ∈ codes text, IsCode code := by
  suffices ∀ found, (∀ code ∈ found, IsCode code) → ∀ code ∈ codesFrom found text, IsCode code from
    this [] (by simp)
  intro found hfound
  fun_induction codesFrom found text with
  | case1 => simpa using hfound
  | case2 found c =>
    intro code hcode
    rcases List.mem_cons.mp (List.mem_reverse.mp hcode) with rfl | hmem
    · exact Or.inr ⟨c, rfl⟩
    · exact hfound code hmem
  | case3 found c next rest code hhalf ih =>
    refine ih (List.forall_mem_cons.mpr ⟨Or.inl ?_, hfound⟩)
    split at hhalf
    · exact isSurrogate_of_half? hhalf
    · cases hhalf
  | case4 found c next rest _ ih =>
    exact ih (List.forall_mem_cons.mpr ⟨Or.inr ⟨c, rfl⟩, hfound⟩)

theorem ofCode_toNat (c : Char) : ofCode c.toNat = [c] := by
  simp [ofCode, isSurrogate_toNat]

theorem codes_eq_map {text : Text} (h : text.IsChain Apart) : codes text = text.map Char.toNat := by
  suffices ∀ found, codesFrom found text = found.reverse ++ text.map Char.toNat from this []
  intro found
  fun_induction codesFrom found text with
  | case1 => simp
  | case2 => simp
  | case3 found c next rest code hhalf ih =>
    split at hhalf
    · rw [List.isChain_cons_cons.mp h |>.1 ‹_›] at hhalf
      cases hhalf
    · cases hhalf
  | case4 found c next rest _ ih =>
    rw [ih h.tail]
    simp

theorem paired_toNat (text : Text) : paired (text.map Char.toNat) = text := by
  induction text with
  | nil => rfl
  | cons c rest ih =>
    cases rest with
    | nil => exact ofCode_toNat c
    | cons d rest =>
      have hfirst := not_isFirstHalf (isSurrogate_toNat c)
      rw [List.map_cons, List.map_cons, paired, hfirst, Bool.false_and, ofCode_toNat,
        ← List.map_cons, ih]
      rfl

/-- A text without halves is the text of its codes. -/
theorem paired_codes {text : Text} (h : text.IsChain Apart) : paired (codes text) = text := by
  rw [codes_eq_map h, paired_toNat]

end DepView.Text

namespace DepView.Json

open Text

theorem hexValue?_digitChar : ∀ d < 16, hexValue? d.digitChar = some d := by
  decide

theorem hexPadded_one {n : Nat} (h : n < 16) : hexPadded 1 n = [n.digitChar] := by
  simp [hexPadded, Nat.toDigits_of_lt_base h]

theorem hexPadded_succ (width n : Nat) (hwidth : 0 < width) :
    hexPadded (width + 1) n = hexPadded width (n / 16) ++ [(n % 16).digitChar] := by
  unfold hexPadded
  by_cases h : n < 16
  · obtain ⟨width, rfl⟩ := Nat.exists_eq_add_one.mpr hwidth
    rw [Nat.toDigits_of_lt_base h, Nat.div_eq_of_lt h, Nat.mod_eq_of_lt h]
    simp [List.replicate_succ']
  · rw [Nat.toDigits_eq_if (by decide), if_neg h]
    simp

theorem hex4_eq {n : Nat} (h : n < 0x10000) : hex4 n =
    [(n / 16 / 16 / 16).digitChar, (n / 16 / 16 % 16).digitChar, (n / 16 % 16).digitChar,
      (n % 16).digitChar] := by
  change hexPadded 4 n = _
  rw [hexPadded_succ 3 n (by decide), hexPadded_succ 2 _ (by decide),
    hexPadded_succ 1 _ (by decide), hexPadded_one (by omega)]
  rfl

theorem unit?_hex4 {n : Nat} (h : n < 0x10000) {text : Text} (htext : text ≠ []) :
    unit? (hex4 n ++ text) = some (n, text) := by
  rw [hex4_eq h]
  refine unit?_eq_some.mpr ⟨_, _, _, _, _, _, _, _, rfl, htext, hexValue?_digitChar _ ?_,
    hexValue?_digitChar _ ?_, hexValue?_digitChar _ ?_, hexValue?_digitChar _ ?_, ?_⟩
  all_goals omega

theorem unicodeEscape_single {n : Nat} (h : isFirstHalf n = false) (text : Text) :
    unicodeEscape n text = (ofCode n, text) := by
  unfold isFirstHalf at h
  simp [unicodeEscape, h]

theorem unicodeEscape_alone (n : Nat) {text : Text} (h : lowSurrogate? text = none) :
    unicodeEscape n text = (ofCode n, text) := by
  simp [unicodeEscape, h]

theorem unicodeEscape_pair {first second : Nat} {text rest : Text}
    (hfirst : isFirstHalf first = true) (hsecond : lowSurrogate? text = some (second, rest)) :
    unicodeEscape first text = ([joined first second], rest) := by
  unfold isFirstHalf at hfirst
  simp [unicodeEscape, hfirst, hsecond, joined]

theorem lowSurrogate?_hex4 {n : Nat} (h : n < 0x10000) {text : Text} (htext : text ≠ []) :
    lowSurrogate? ('\\' :: 'u' :: (hex4 n ++ text)) =
      if isSecondHalf n then some (n, text) else none := by
  simp [lowSurrogate?, unit?_hex4 h htext, isSecondHalf]

/-- The escape of a unit, and what the reader makes of it and of what follows. -/
theorem inside_unit {n : Nat} (hn : n < 0x10000) {text piece later found rest : Text}
    (htext : text ≠ []) (hpiece : unicodeEscape n text = (piece, later))
    (h : Inside later found rest) :
    Inside ('\\' :: 'u' :: (hex4 n ++ text)) (piece ++ found) rest := by
  have htail : Inside (unicodeEscape n text).2 found rest := by rwa [hpiece]
  have hinside := Inside.units (unit?_hex4 hn htext) htail
  rwa [hpiece] at hinside

/-- A character is escaped by a letter, stands as it is, or is written by its units. -/
theorem escapeChar_cases (c : Char) :
    (∃ letter, simpleEscape? letter = some c ∧ escapeChar c = ['\\', letter]) ∨
      (c ≠ '"' ∧ c ≠ '\\' ∧ 0x20 ≤ c.toNat ∧ escapeChar c = [c]) ∨
        escapeChar c = escapeUnits c.toNat := by
  unfold escapeChar
  split
  · rename_i h
    refine Or.inl ⟨c, ?_, rfl⟩
    rcases (by simpa using h : c = '"' ∨ c = '\\') with rfl | rfl <;> rfl
  · rename_i hplain
    obtain ⟨hquote, hslash⟩ : c ≠ '"' ∧ c ≠ '\\' := by simpa using hplain
    split_ifs with hn hr ht hb hf hprintable
    · exact Or.inl ⟨'n', by rw [hn]; rfl, rfl⟩
    · exact Or.inl ⟨'r', by rw [hr]; rfl, rfl⟩
    · exact Or.inl ⟨'t', by rw [ht]; rfl, rfl⟩
    · exact Or.inl ⟨'b', by rw [hb]; rfl, rfl⟩
    · exact Or.inl ⟨'f', by rw [hf]; rfl, rfl⟩
    · simp only [Bool.and_eq_true, decide_eq_true_eq] at hprintable
      exact Or.inr (Or.inl ⟨hquote, hslash, hprintable.1, rfl⟩)
    · exact Or.inr (Or.inr rfl)

theorem escapeCode_toNat (c : Char) : escapeCode c.toNat = escapeChar c := by
  simp [escapeCode, isSurrogate_toNat]

theorem escapeCode_surrogate {code : Nat} (h : isSurrogate code = true) :
    escapeCode code = '\\' :: 'u' :: hex4 code := by
  rw [escapeCode, if_pos h, escapeUnits, if_pos (lt_of_isSurrogate h)]

theorem joined_units {code : Nat} (h : 0x10000 ≤ code) :
    joined (0xd800 + (code - 0x10000) / 0x400) (0xdc00 + (code - 0x10000) % 0x400) =
      Char.ofNat code := by
  have hcode : 0x10000 + (0xd800 + (code - 0x10000) / 0x400 - 0xd800) * 0x400 +
      (0xdc00 + (code - 0x10000) % 0x400 - 0xdc00) = code := by omega
  exact congrArg Char.ofNat hcode

theorem escapeUnits_eq {code : Nat} (h : ¬ code < 0x10000) :
    escapeUnits code = '\\' :: 'u' :: (hex4 (0xd800 + (code - 0x10000) / 0x400) ++
      '\\' :: 'u' :: hex4 (0xdc00 + (code - 0x10000) % 0x400)) := by
  have hunits : escapeUnits code = '\\' :: 'u' :: hex4 (0xd800 + (code - 0x10000) / 0x400) ++
      '\\' :: 'u' :: hex4 (0xdc00 + (code - 0x10000) % 0x400) := if_neg h
  -- By rewriting: the digits must not be computed to see that the two are equal.
  rw [hunits, List.cons_append, List.cons_append]

/-- A character beyond the units is written by the two halves of a pair. -/
theorem escapeUnits_toNat {c : Char} (h : ¬ c.toNat < 0x10000) :
    ∃ first second, isFirstHalf first = true ∧ isSecondHalf second = true ∧
      joined first second = c ∧
      escapeUnits c.toNat = '\\' :: 'u' :: (hex4 first ++ '\\' :: 'u' :: hex4 second) := by
  have hvalid : c.toNat < 0x110000 := by
    have hc := c.valid
    unfold UInt32.isValidChar Nat.isValidChar at hc
    have hcode : c.val.toNat = c.toNat := rfl
    omega
  refine ⟨0xd800 + (c.toNat - 0x10000) / 0x400, 0xdc00 + (c.toNat - 0x10000) % 0x400, ?_, ?_,
    (joined_units (Nat.not_lt.mp h)).trans (Char.ofNat_toNat c), escapeUnits_eq h⟩
  · simp only [isFirstHalf, Bool.and_eq_true, decide_eq_true_eq]
    omega
  · simp only [isSecondHalf, Bool.and_eq_true, decide_eq_true_eq]
    omega

/-- The escapes of a character are read back as that character. -/
theorem inside_escapeChar (c : Char) {text found rest : Text} (h : Inside text found rest) :
    Inside (escapeChar c ++ text) (c :: found) rest := by
  have htext := h.ne_nil
  rcases escapeChar_cases c with ⟨letter, hletter, heq⟩ | ⟨hquote, hslash, hcode, heq⟩ | heq
  · rw [heq]
    exact .letter hletter h
  · rw [heq]
    exact .plain hquote hslash hcode h
  · rw [heq]
    by_cases hunit : c.toNat < 0x10000
    · have hsingle := unicodeEscape_single (not_isFirstHalf (isSurrogate_toNat c)) text
      rw [ofCode_toNat] at hsingle
      rw [escapeUnits, if_pos hunit]
      exact inside_unit hunit htext hsingle h
    · obtain ⟨first, second, hfirst, hsecond, hjoined, hunits⟩ := escapeUnits_toNat hunit
      have hlow := lowSurrogate?_hex4 (lt_of_isSecondHalf hsecond) htext
      rw [if_pos hsecond] at hlow
      have hpair := unicodeEscape_pair hfirst hlow
      rw [hjoined] at hpair
      rw [hunits]
      simpa using inside_unit (lt_of_isFirstHalf hfirst) (by simp) hpair h

/-- Behind a first half, only the escape of a second half goes on with the pair. -/
theorem lowSurrogate?_escapeCode {code : Nat} (hcode : IsCode code)
    (hsecond : isSecondHalf code = false) {text : Text} (htext : text ≠ []) :
    lowSurrogate? (escapeCode code ++ text) = none := by
  rcases hcode with hsurrogate | ⟨c, rfl⟩
  · have hlow := lowSurrogate?_hex4 (lt_of_isSurrogate hsurrogate) htext
    rw [hsecond] at hlow
    rw [escapeCode_surrogate hsurrogate]
    exact hlow
  · rw [escapeCode_toNat]
    rcases escapeChar_cases c with ⟨letter, hletter, heq⟩ | ⟨_, hslash, _, heq⟩ | heq
    · have hu : letter ≠ 'u' := by
        rintro rfl
        cases hletter
      rw [heq]
      exact lowSurrogate?_eq_none (by simpa using hu)
    · rw [heq]
      exact lowSurrogate?_eq_none (by simp [hslash])
    · rw [heq]
      by_cases hlt : c.toNat < 0x10000
      · have hlow := lowSurrogate?_hex4 hlt htext
        rw [hsecond] at hlow
        rw [escapeUnits, if_pos hlt]
        exact hlow
      · obtain ⟨first, second, hfirst, _, _, hunits⟩ := escapeUnits_toNat hlt
        have hbehind : '\\' :: 'u' :: (hex4 second ++ text) ≠ [] := List.cons_ne_nil _ _
        have hlow := lowSurrogate?_hex4 (lt_of_isFirstHalf hfirst) hbehind
        rw [not_isSecondHalf hfirst] at hlow
        simpa [hunits] using hlow

/-- The escape of a code, before what does not make a pair with it. -/
theorem inside_escapeCode {code : Nat} (hcode : IsCode code) {text found rest : Text}
    (hnext : isFirstHalf code = true → lowSurrogate? text = none) (h : Inside text found rest) :
    Inside (escapeCode code ++ text) (ofCode code ++ found) rest := by
  rcases hcode with hsurrogate | ⟨c, rfl⟩
  · have hlt := lt_of_isSurrogate hsurrogate
    have htext := h.ne_nil
    have hpiece : unicodeEscape code text = (ofCode code, text) := by
      by_cases hfirst : isFirstHalf code = true
      · exact unicodeEscape_alone code (hnext hfirst)
      · exact unicodeEscape_single (by simpa using hfirst) text
    rw [escapeCode_surrogate hsurrogate]
    exact inside_unit hlt htext hpiece h
  · rw [escapeCode_toNat, ofCode_toNat]
    exact inside_escapeChar c h

/-- What stands between the quotes is read back. -/
theorem inside_escapeCodes {codes : List Nat} (hcodes : ∀ code ∈ codes, IsCode code)
    (rest : Text) : Inside (codes.flatMap escapeCode ++ '"' :: rest) (paired codes) rest := by
  fun_induction paired codes with
  | case1 => exact .close rest
  | case2 code =>
    have hinside := inside_escapeCode (hcodes code List.mem_cons_self) (fun _ => rfl) (.close rest)
    simpa using hinside
  | case3 code next codes hpair ih =>
    obtain ⟨hfirst, hsecond⟩ := Bool.and_eq_true_iff.mp hpair
    have hrest := ih fun other hother => hcodes other (by simp [hother])
    have htext := hrest.ne_nil
    have hlow := lowSurrogate?_hex4 (lt_of_isSecondHalf hsecond) htext
    rw [if_pos hsecond] at hlow
    have hinside := inside_unit (lt_of_isFirstHalf hfirst) (by simp)
      (unicodeEscape_pair hfirst hlow) hrest
    simpa [escapeCode_surrogate (isSurrogate_of_isFirstHalf hfirst),
      escapeCode_surrogate (isSurrogate_of_isSecondHalf hsecond)] using hinside
  | case4 code next codes hpair ih =>
    have hrest := ih fun other hother => hcodes other (List.mem_cons_of_mem code hother)
    rw [List.flatMap_cons, List.append_assoc]
    refine inside_escapeCode (hcodes code List.mem_cons_self) ?_ hrest
    intro hfirst
    have hsecond : isSecondHalf next = false := by simpa [hfirst] using hpair
    rw [List.flatMap_cons, List.append_assoc]
    exact lowSurrogate?_escapeCode (hcodes next (by simp)) hsecond (by simp)

/-- A quoted text is read back up to the closing quote. -/
theorem inside_quote (text rest : Text) :
    ∃ inside, quote text ++ rest = '"' :: inside ∧ Inside inside (paired (codes text)) rest := by
  refine ⟨(codes text).flatMap escapeCode ++ '"' :: rest, by simp [quote], ?_⟩
  exact inside_escapeCodes (isCode_codes text) rest

end DepView.Json
