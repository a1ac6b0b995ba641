import DepView.Page.Config
import DepView.Proofs.JsonGrammar
import DepView.Proofs.PatternScan

/-!
The guard against a closing tag. It puts a backslash only between a less-than sign and a slash. No
rule of JSON but those for the inside of a string takes a less-than sign, and there a slash means
the same with a backslash before it. So a guarded text spells whatever the text spells, and a
backslash that the text had already is not touched.
-/

namespace DepView.Page

open Json

theorem guardClosing_cons {c : Char} (hc : c ≠ '<') (text : Text) :
    guardClosing (c :: text) = c :: guardClosing text := by
  rw [guardClosing]
  intro _ hlt
  exact absurd hlt hc

theorem guardClosing_open {text : Text} (h : text.head? ≠ some '/') :
    guardClosing ('<' :: text) = '<' :: guardClosing text := by
  rw [guardClosing]
  rintro rest - rfl
  exact h rfl

/-- The first character stays the first. -/
theorem exists_guardClosing_cons (c : Char) (text : Text) :
    ∃ tail, guardClosing (c :: text) = c :: tail := by
  unfold guardClosing
  split
  · cases ‹c :: text = []›
  · rename_i heq
    cases heq
    exact ⟨_, rfl⟩
  · rename_i heq
    cases heq
    exact ⟨_, rfl⟩

theorem head?_guardClosing (text : Text) : (guardClosing text).head? = text.head? := by
  cases text with
  | nil => rfl
  | cons c text =>
    obtain ⟨tail, htail⟩ := exists_guardClosing_cons c text
    rw [htail, List.head?_cons, List.head?_cons]

theorem eq_cons_of_guardClosing {text tail : Text} {c : Char} (hc : c ≠ '<')
    (h : guardClosing text = c :: tail) : ∃ rest, text = c :: rest ∧ guardClosing rest = tail := by
  cases text with
  | nil => cases h
  | cons d text =>
    have hd : d = c := by
      obtain ⟨more, hmore⟩ := exists_guardClosing_cons d text
      rw [hmore] at h
      exact (List.cons.inj h).1
    subst hd
    rw [guardClosing_cons hc] at h
    exact ⟨text, rfl, (List.cons.inj h).2⟩

/-- No closing tag stands in a guarded text. -/
theorem holds_guardClosing (text : Text) : Text.holds ['<', '/'] (guardClosing text) = false := by
  fun_induction guardClosing text with
  | case1 => rfl
  | case2 rest ih => simp [Text.holds, Text.after?, ih]
  | case3 c rest hclosing ih =>
    have hhead : Text.after? ['<', '/'] (c :: guardClosing rest) = none := by
      by_cases hc : '<' = c
      · have hslash : rest.head? ≠ some '/' := by
          intro hrest
          obtain ⟨tail, rfl⟩ := List.head?_eq_some_iff.mp hrest
          exact hclosing tail hc.symm rfl
        rw [Text.after?, if_pos hc]
        exact Text.after?_eq_none (by rwa [head?_guardClosing])
      · rw [Text.after?, if_neg hc]
    rw [Text.holds, hhead, ih]
    rfl

/-- The guard adds nothing but backslashes. -/
theorem mem_guardClosing {c : Char} {text : Text} (h : c ∈ guardClosing text) :
    c ∈ text ∨ c = '\\' := by
  fun_induction guardClosing text with
  | case1 => exact Or.inl h
  | case2 rest ih =>
    simp only [List.mem_cons] at h ⊢
    tauto
  | case3 d rest _ ih =>
    simp only [List.mem_cons] at h ⊢
    tauto

/-! Scans that do not take a less-than sign. -/

/-- A scan finds the same in a guarded text, and leaves a guarded rest. -/
def PassesGuard {α : Type} (scan : Text → Option (α × Text)) : Prop :=
  ∀ text, scan (guardClosing text) = (scan text).map fun (found, rest) => (found, guardClosing rest)

theorem dropWhile_guardClosing {p : Char → Bool} (hp : p '<' = false) (text : Text) :
    (guardClosing text).dropWhile p = guardClosing (text.dropWhile p) := by
  induction text with
  | nil => rfl
  | cons c text ih =>
    by_cases hc : p c = true
    · have hlt : c ≠ '<' := by
        rintro rfl
        rw [hp] at hc
        cases hc
      rw [guardClosing_cons hlt, List.dropWhile_cons_of_pos hc, List.dropWhile_cons_of_pos hc, ih]
    · obtain ⟨tail, htail⟩ := exists_guardClosing_cons c text
      rw [List.dropWhile_cons_of_neg hc, htail, List.dropWhile_cons_of_neg hc]

theorem takeWhile_guardClosing {p : Char → Bool} (hp : p '<' = false) (text : Text) :
    (guardClosing text).takeWhile p = text.takeWhile p := by
  induction text with
  | nil => rfl
  | cons c text ih =>
    by_cases hc : p c = true
    · have hlt : c ≠ '<' := by
        rintro rfl
        rw [hp] at hc
        cases hc
      rw [guardClosing_cons hlt, List.takeWhile_cons_of_pos hc, List.takeWhile_cons_of_pos hc, ih]
    · obtain ⟨tail, htail⟩ := exists_guardClosing_cons c text
      rw [List.takeWhile_cons_of_neg hc, htail, List.takeWhile_cons_of_neg hc]

theorem skip_guardClosing (text : Text) : skip (guardClosing text) = guardClosing (skip text) :=
  dropWhile_guardClosing (by decide) text

theorem passesGuard_run? {p : Char → Bool} (hp : p '<' = false) : PassesGuard (Text.run? p) := by
  intro text
  unfold Text.run?
  rw [takeWhile_guardClosing hp, dropWhile_guardClosing hp]
  cases text.takeWhile p <;> rfl

theorem passesGuard_digits : PassesGuard (Text.run? Char.isDigit) :=
  passesGuard_run? (by decide)

theorem passesGuard_none {α : Type} : PassesGuard fun _ : Text => (none : Option (α × Text)) :=
  fun _ => rfl

/-- A scan that goes one way behind a mark, and another where the mark is not there. -/
theorem PassesGuard.mark {α : Type} {scan behind other : Text → Option (α × Text)} {m : Char}
    (hm : m ≠ '<') (hbehind : PassesGuard behind) (hother : PassesGuard other)
    (hmark : ∀ rest, scan (m :: rest) = behind rest)
    (hno : ∀ text, text.head? ≠ some m → scan text = other text) : PassesGuard scan := by
  intro text
  by_cases hhead : text.head? = some m
  · obtain ⟨rest, rfl⟩ := List.head?_eq_some_iff.mp hhead
    rw [guardClosing_cons hm, hmark, hmark, hbehind]
  · rw [hno text hhead, hno _ (by rwa [head?_guardClosing]), hother]

theorem passesGuard_whole? : PassesGuard whole? := by
  have hzero : PassesGuard fun rest => some (['0'], rest) := fun _ => rfl
  apply PassesGuard.mark (m := '0') (by decide) hzero passesGuard_digits (fun _ => rfl)
  intro text hhead
  unfold whole?
  split
  · exact absurd rfl hhead
  · rfl

theorem passesGuard_fraction? : PassesGuard fraction? := by
  apply PassesGuard.mark (m := '.') (by decide) passesGuard_digits passesGuard_none (fun _ => rfl)
  intro text hhead
  unfold fraction?
  split
  · exact absurd rfl hhead
  · rfl

theorem signOf_guardClosing (text : Text) : Decimal.signOf (guardClosing text) =
    ((Decimal.signOf text).1, guardClosing (Decimal.signOf text).2) := by
  have hnone : ∀ c tail, c ≠ '-' → c ≠ '+' → Decimal.signOf (c :: tail) = (false, c :: tail) := by
    intro c tail hminus hplus
    simp [Decimal.signOf, hminus, hplus]
  cases text with
  | nil => rfl
  | cons c text =>
    by_cases hminus : c = '-'
    · subst hminus
      rw [guardClosing_cons (by decide)]
      rfl
    · by_cases hplus : c = '+'
      · subst hplus
        rw [guardClosing_cons (by decide)]
        rfl
      · obtain ⟨tail, htail⟩ := exists_guardClosing_cons c text
        rw [hnone c text hminus hplus, htail, hnone c tail hminus hplus]

theorem passesGuard_signedDigits? : PassesGuard signedDigits? := by
  intro text
  simp only [signedDigits?, signOf_guardClosing, passesGuard_digits (Decimal.signOf text).2,
    Option.map_map]
  rfl

theorem passesGuard_exponent? : PassesGuard exponent? := by
  intro text
  cases text with
  | nil => rfl
  | cons c text =>
    by_cases hc : (c == 'e' || c == 'E') = true
    · have hlt : c ≠ '<' := by
        rintro rfl
        cases hc
      simp only [guardClosing_cons hlt, exponent?, if_pos hc, passesGuard_signedDigits? text]
    · obtain ⟨tail, htail⟩ := exists_guardClosing_cons c text
      rw [htail, exponent?, if_neg hc, exponent?, if_neg hc]
      rfl

theorem PassesGuard.optional {α : Type} {scan : Text → Option (α × Text)} (h : PassesGuard scan)
    (text : Text) : optional scan (guardClosing text) =
      ((optional scan text).1, guardClosing (optional scan text).2) := by
  unfold Json.optional
  rw [h text]
  cases scan text <;> rfl

theorem passesGuard_unsigned? (negative : Bool) : PassesGuard (unsigned? negative) := by
  intro text
  simp only [unsigned?, passesGuard_whole? text]
  cases whole? text with
  | none => rfl
  | some found =>
    simp [passesGuard_fraction?.optional, passesGuard_exponent?.optional]

theorem passesGuard_number? : PassesGuard number? := by
  apply PassesGuard.mark (m := '-') (by decide) (passesGuard_unsigned? true)
    (passesGuard_unsigned? false) (fun _ => rfl)
  intro text hhead
  unfold number?
  split
  · exact absurd rfl hhead
  · rfl

theorem after?_guardClosing {word : Text} (h : '<' ∉ word) (text : Text) :
    Text.after? word (guardClosing text) = (Text.after? word text).map guardClosing := by
  induction word generalizing text with
  | nil => rfl
  | cons s word ih =>
    rw [List.mem_cons, not_or] at h
    cases text with
    | nil => rfl
    | cons c text =>
      by_cases hs : s = c
      · subst hs
        rw [guardClosing_cons (Ne.symm h.1), Text.after?, if_pos rfl, Text.after?, if_pos rfl,
          ih h.2]
      · obtain ⟨tail, htail⟩ := exists_guardClosing_cons c text
        rw [htail, Text.after?, if_neg hs, Text.after?, if_neg hs]
        rfl

theorem findSome?_wordAt?_guardClosing {table : List (Text × Json)}
    (h : ∀ entry ∈ table, '<' ∉ entry.1) (text : Text) :
    table.findSome? (wordAt? (guardClosing text)) =
      (table.findSome? (wordAt? text)).map fun found => (found.1, guardClosing found.2) := by
  induction table with
  | nil => rfl
  | cons entry table ih =>
    have hentry := after?_guardClosing (h entry List.mem_cons_self) text
    have hlater := ih fun other hother => h other (List.mem_cons_of_mem entry hother)
    simp only [List.findSome?_cons, wordAt?, hentry, hlater]
    cases Text.after? entry.1 text <;> rfl

theorem passesGuard_atom? : PassesGuard atom? := by
  intro text
  have hclear : ∀ entry ∈ words, '<' ∉ entry.1 := by decide
  rw [atom?, atom?, findSome?_wordAt?_guardClosing hclear, passesGuard_number? text]
  cases words.findSome? (wordAt? text) <;> rfl

/-! Strings and values. -/

theorem hexValue?_ne {c : Char} {n : Nat} (h : hexValue? c = some n) : c ≠ '<' := by
  rintro rfl
  cases h

theorem passesGuard_unit? : PassesGuard unit? := by
  intro text
  cases hunit : unit? text with
  | some found =>
    obtain ⟨n, rest⟩ := found
    obtain ⟨a, b, c, d, p, q, r, s, rfl, hrest, hp, hq, hr, hs, hn⟩ := unit?_eq_some.mp hunit
    have hguarded : guardClosing rest ≠ [] := by
      cases rest with
      | nil => exact absurd rfl hrest
      | cons e rest =>
        obtain ⟨tail, htail⟩ := exists_guardClosing_cons e rest
        rw [htail]
        exact List.cons_ne_nil e tail
    rw [guardClosing_cons (hexValue?_ne hp), guardClosing_cons (hexValue?_ne hq),
      guardClosing_cons (hexValue?_ne hr), guardClosing_cons (hexValue?_ne hs)]
    exact unit?_eq_some.mpr ⟨a, b, c, d, p, q, r, s, rfl, hguarded, hp, hq, hr, hs, hn⟩
  | none =>
    refine Option.eq_none_iff_forall_ne_some.mpr ?_
    rintro ⟨n, rest⟩ hguarded
    obtain ⟨a, b, c, d, p, q, r, s, hword, hrest, hp, hq, hr, hs, hn⟩ :=
      unit?_eq_some.mp hguarded
    obtain ⟨_, rfl, hb⟩ := eq_cons_of_guardClosing (hexValue?_ne hp) hword
    obtain ⟨_, rfl, hc⟩ := eq_cons_of_guardClosing (hexValue?_ne hq) hb
    obtain ⟨_, rfl, hd⟩ := eq_cons_of_guardClosing (hexValue?_ne hr) hc
    obtain ⟨behind, rfl, hend⟩ := eq_cons_of_guardClosing (hexValue?_ne hs) hd
    have hbehind : behind ≠ [] := by
      rintro rfl
      exact hrest hend.symm
    have hsome := unit?_eq_some.mpr ⟨a, b, c, d, p, q, r, s, rfl, hbehind, hp, hq, hr, hs, hn⟩
    rw [hunit] at hsome
    cases hsome

theorem passesGuard_lowSurrogate? : PassesGuard lowSurrogate? := by
  intro text
  by_cases hescape : ∃ rest, text = '\\' :: 'u' :: rest
  · obtain ⟨rest, rfl⟩ := hescape
    rw [guardClosing_cons (by decide), guardClosing_cons (by decide)]
    simp only [lowSurrogate?, passesGuard_unit? rest]
    cases unit? rest with
    | none => rfl
    | some found =>
      by_cases hlow : (0xdc00 ≤ found.1 && found.1 ≤ 0xdfff) = true
      · simp only [Option.map_some, if_pos hlow]
      · simp only [Option.map_some, if_neg hlow]
        rfl
  · have hother : ∀ rest, guardClosing text ≠ '\\' :: 'u' :: rest := by
      intro rest hguarded
      obtain ⟨_, rfl, hbehind⟩ := eq_cons_of_guardClosing (by decide) hguarded
      obtain ⟨behind, rfl, _⟩ := eq_cons_of_guardClosing (by decide) hbehind
      exact hescape ⟨behind, rfl⟩
    rw [lowSurrogate?_eq_none hother, lowSurrogate?_eq_none (not_exists.mp hescape)]
    rfl

theorem unicodeEscape_guardClosing (n : Nat) (text : Text) :
    unicodeEscape n (guardClosing text) =
      ((unicodeEscape n text).1, guardClosing (unicodeEscape n text).2) := by
  unfold unicodeEscape
  split
  · rw [passesGuard_lowSurrogate? text]
    cases lowSurrogate? text <;> rfl
  · rfl

/-- Guarding a text keeps what the inside of a string holds. -/
theorem inside_guardClosing {text found rest : Text} (h : Inside text found rest) :
    Inside (guardClosing text) found (guardClosing rest) := by
  induction h with
  | close rest =>
    rw [guardClosing_cons (by decide)]
    exact .close _
  | @units text after found rest n hunit _ ih =>
    have hunit' : unit? (guardClosing text) = some (n, guardClosing after) := by
      rw [passesGuard_unit? text, hunit]
      rfl
    have hescape := unicodeEscape_guardClosing n after
    have htail : Inside (unicodeEscape n (guardClosing after)).2 found (guardClosing rest) := by
      rwa [hescape]
    have hinside := Inside.units hunit' htail
    rw [hescape] at hinside
    rw [guardClosing_cons (by decide), guardClosing_cons (by decide)]
    exact hinside
  | @letter text found rest c d hletter _ ih =>
    have hc : c ≠ '<' := by
      rintro rfl
      cases hletter
    rw [guardClosing_cons (by decide), guardClosing_cons hc]
    exact .letter hletter ih
  | @plain text found rest c hquote hslash hcode htail ih =>
    by_cases hc : c = '<'
    · subst hc
      by_cases hclosing : text.head? = some '/'
      · obtain ⟨text, rfl⟩ := List.head?_eq_some_iff.mp hclosing
        -- The slash was a character by itself; now it is the letter of an escape.
        rw [guardClosing_cons (by decide)] at ih
        cases ih with
        | plain _ _ _ hbehind => exact .plain hquote hslash hcode (.letter rfl hbehind)
      · rw [guardClosing_open hclosing]
        exact .plain hquote hslash hcode ih
    · rw [guardClosing_cons hc]
      exact .plain hquote hslash hcode ih

/-- Guarding a text keeps whatever it spells. -/
theorem spells_guardClosing {text rest : Text} {p : Phrase} (h : Spells text p rest) :
    Spells (guardClosing text) p (guardClosing rest) := by
  have hskip : ∀ {text later : Text} {c : Char}, c ≠ '<' → skip text = c :: later →
      skip (guardClosing text) = c :: guardClosing later := by
    intro text later c hc h
    rw [skip_guardClosing, h, guardClosing_cons hc]
  induction h with
  | @atom text rest v h =>
    apply Spells.atom
    rw [passesGuard_atom? text, h]
    rfl
  | string h =>
    rw [guardClosing_cons (by decide)]
    exact .string (inside_guardClosing h)
  | noItems hclose =>
    rw [guardClosing_cons (by decide)]
    exact .noItems (hskip (by decide) hclose)
  | list _ ih =>
    rw [guardClosing_cons (by decide)]
    rw [← skip_guardClosing] at ih
    exact .list ih
  | noMembers hclose =>
    rw [guardClosing_cons (by decide)]
    exact .noMembers (hskip (by decide) hclose)
  | object _ ih =>
    rw [guardClosing_cons (by decide)]
    rw [← skip_guardClosing] at ih
    exact .object ih
  | lastItem _ hclose ih => exact .lastItem ih (hskip (by decide) hclose)
  | moreItems _ hcomma _ ihvalue ihitems =>
    rw [← skip_guardClosing] at ihitems
    exact .moreItems ihvalue (hskip (by decide) hcomma) ihitems
  | member hname hcolon _ ih =>
    rw [guardClosing_cons (by decide)]
    rw [← skip_guardClosing] at ih
    exact .member (inside_guardClosing hname) (hskip (by decide) hcolon) ih
  | lastMember _ hclose ih => exact .lastMember ih (hskip (by decide) hclose)
  | moreMembers _ hcomma _ ihmember ihmembers =>
    rw [← skip_guardClosing] at ihmembers
    exact .moreMembers ihmember (hskip (by decide) hcomma) ihmembers

end DepView.Page
