import DepView.Text.Blank
import DepView.Text.Digit
import DepView.Text.Word

/-!
How the classes of characters lie to each other. No character of an identifier and no
decimal digit is a blank, and the signs that structure graph texts are in no class.
-/

namespace DepView.Text

theorem ne_of_class {p : Char → Bool} {c d : Char} (hc : p c = true) (hd : p d = false) :
    c ≠ d := by
  intro heq
  rw [heq, hd] at hc
  cases hc

/-- The class of each character of a text that is written out. -/
theorem class_of_all {p : Char → Bool} {b : Bool} {text : List Char}
    (h : (text.all fun c => p c == b) = true) : ∀ c ∈ text, p c = b := by
  intro c hc
  exact eq_of_beq (List.all_eq_true.mp h c hc)

/-- The same for words and the blanks between them. -/
theorem word_of_all {text : List Char} (h : (text.all fun c => isWord c || c == ' ') = true) :
    ∀ c ∈ text, isWord c = true ∨ c = ' ' := by
  intro c hc
  simpa using List.all_eq_true.mp h c hc

theorem isIndent_cases {c : Char} (h : isIndent c = true) : c = ' ' ∨ c = '\t' := by
  simpa [isIndent] using h

theorem isIdent_of_isIndent {c : Char} (h : isIndent c = true) : isIdent c = false := by
  rcases isIndent_cases h with rfl | rfl <;> decide

theorem isBlank_of_isIndent {c : Char} (h : isIndent c = true) : isBlank c = true := by
  rcases isIndent_cases h with rfl | rfl <;> decide

theorem code_of_isIdent {c : Char} (h : isIdent c = true) : 48 ≤ c.toNat ∧ c.toNat ≤ 122 := by
  rcases (Bool.or_eq_true _ _).mp h with halphanum | hunderscore
  · rcases (Bool.or_eq_true _ _).mp halphanum with halpha | hdigit
    · rcases (Bool.or_eq_true _ _).mp halpha with hupper | hlower
      · obtain ⟨hlow, hhigh⟩ := of_decide_eq_true hupper
        change 65 ≤ c.toNat at hlow
        change c.toNat ≤ 90 at hhigh
        omega
      · obtain ⟨hlow, hhigh⟩ := (Bool.and_eq_true _ _).mp hlower
        have hlow' : 97 ≤ c.toNat := of_decide_eq_true hlow
        have hhigh' : c.toNat ≤ 122 := of_decide_eq_true hhigh
        omega
    · obtain ⟨hlow, hhigh⟩ := (Bool.and_eq_true _ _).mp hdigit
      have hlow' : 48 ≤ c.toNat := of_decide_eq_true hlow
      have hhigh' : c.toNat ≤ 57 := of_decide_eq_true hhigh
      omega
  · rw [eq_of_beq hunderscore]
    decide

/-- The code points of the blanks. -/
theorem code_of_isBlank {c : Char} (h : isBlank c = true) :
    c.toNat ≤ 32 ∨ c.toNat = 0x85 ∨ c.toNat = 0xa0 ∨ c.toNat = 0x1680 ∨
      (0x2000 ≤ c.toNat ∧ c.toNat ≤ 0x205f) ∨ c.toNat = 0x3000 := by
  simp only [isBlank, Bool.or_eq_true, Bool.and_eq_true, decide_eq_true_eq, beq_iff_eq] at h
  omega

theorem isBlank_of_isIdent {c : Char} (h : isIdent c = true) : isBlank c = false := by
  have hcode := code_of_isIdent h
  rw [Bool.eq_false_iff]
  intro hblank
  have hblank' := code_of_isBlank hblank
  omega

theorem digitZeros_bounds : ∀ z ∈ digitZeros, 48 ≤ z ∧
    (z + 9 < 0x85 ∨ 0xa0 < z) ∧ (z + 9 < 0x1680 ∨ 0x1680 < z) ∧
    (z + 9 < 0x2000 ∨ 0x205f < z) ∧ (z + 9 < 0x3000 ∨ 0x3000 < z) := by
  decide

theorem code_of_isDecimal {c : Char} (h : isDecimal c = true) :
    ∃ z ∈ digitZeros, z ≤ c.toNat ∧ c.toNat < z + 10 := by
  obtain ⟨value, hvalue⟩ := Option.isSome_iff_exists.mp h
  obtain ⟨z, hz, _⟩ := Option.map_eq_some_iff.mp hvalue
  have hmem := List.mem_of_find?_eq_some hz
  have hrange := List.find?_some hz
  simp only [Bool.and_eq_true, decide_eq_true_eq] at hrange
  exact ⟨z, hmem, hrange⟩

theorem isBlank_of_isDecimal {c : Char} (h : isDecimal c = true) : isBlank c = false := by
  obtain ⟨z, hz, hlow, hhigh⟩ := code_of_isDecimal h
  have hbounds := digitZeros_bounds z hz
  rw [Bool.eq_false_iff]
  intro hblank
  have hblank' := code_of_isBlank hblank
  omega

theorem isIndent_of_isDecimal {c : Char} (h : isDecimal c = true) : isIndent c = false := by
  rw [Bool.eq_false_iff]
  intro hindent
  have hblank := isBlank_of_isIndent hindent
  rw [isBlank_of_isDecimal h] at hblank
  cases hblank

theorem isWord_quote : isWord '"' = false := by decide +kernel

theorem isWord_bracket : isWord '[' = false := by decide +kernel

theorem isWord_dash : isWord '-' = false := by decide +kernel

theorem isWord_slash : isWord '/' = false := by decide +kernel

theorem isWord_backslash : isWord '\\' = false := by decide +kernel

theorem isWord_return : isWord '\r' = false := by decide +kernel

theorem isWord_lineFeed : isWord '\n' = false := by decide +kernel

end DepView.Text
