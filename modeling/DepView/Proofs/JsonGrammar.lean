import DepView.Json.Reader
import Mathlib.Tactic.Common

/-!
The grammar of JSON texts. Rules tell what the head of a text spells and where the rest begins,
without a bound on how deep a value is nested. The reader finds whatever is spelt: each of its calls
has two units of fuel for every character that is left. With the limits of the interpreter it finds
the same, or tells that something is too much.
-/

namespace DepView.Json

/-! What is read without a look inside. -/

theorem unit?_eq_some {text rest : Text} {n : Nat} : unit? text = some (n, rest) ↔
    ∃ a b c d p q r s, text = a :: b :: c :: d :: rest ∧ rest ≠ [] ∧ hexValue? a = some p ∧
      hexValue? b = some q ∧ hexValue? c = some r ∧ hexValue? d = some s ∧
      ((p * 16 + q) * 16 + r) * 16 + s = n := by
  constructor
  · intro h
    unfold unit? at h
    split at h
    · rename_i a b c d behind
      split_ifs at h with hempty
      · cases h
      · simp only [Option.bind_eq_bind, Option.bind_eq_some_iff, Option.pure_def,
          Option.some.injEq, Prod.mk.injEq] at h
        obtain ⟨p, hp, q, hq, r, hr, s, hs, hn, rfl⟩ := h
        exact ⟨a, b, c, d, p, q, r, s, rfl, by simpa using hempty, hp, hq, hr, hs, hn⟩
    · cases h
  · rintro ⟨a, b, c, d, p, q, r, s, rfl, hrest, hp, hq, hr, hs, rfl⟩
    have hempty : rest.isEmpty = false := by simpa using hrest
    simp [unit?, hempty, hp, hq, hr, hs]

/-- A scan that leaves less than the text it is given. -/
def Shortens {α : Type} (scan : Text → Option (α × Text)) : Prop :=
  ∀ {text rest : Text} {found : α}, scan text = some (found, rest) → rest.length < text.length

theorem shortens_unit? : Shortens unit? := by
  intro text rest n h
  obtain ⟨_, _, _, _, _, _, _, _, rfl, _⟩ := unit?_eq_some.mp h
  simp only [List.length_cons]
  omega

theorem lowSurrogate?_eq_none {text : Text} (h : ∀ rest, text ≠ '\\' :: 'u' :: rest) :
    lowSurrogate? text = none := by
  unfold lowSurrogate?
  split
  · exact absurd rfl (h _)
  · rfl

theorem shortens_lowSurrogate? : Shortens lowSurrogate? := by
  intro text rest n h
  unfold lowSurrogate? at h
  split at h
  · split at h
    · rename_i hunit
      split at h
      · cases h
        have hlt := shortens_unit? hunit
        simp only [List.length_cons]
        omega
      · cases h
    · cases h
  · cases h

theorem length_unicodeEscape (n : Nat) (text : Text) :
    (unicodeEscape n text).2.length ≤ text.length := by
  unfold unicodeEscape
  split
  · split
    · exact Nat.le_of_lt (shortens_lowSurrogate? ‹_›)
    · exact Nat.le_refl _
  · exact Nat.le_refl _

theorem length_skip (text : Text) : (skip text).length ≤ text.length :=
  Text.length_dropWhile_le isSpace text

/-! Strings. -/

/-- The inside of a string: the text, the characters found in it and what stands behind the closing
quote. -/
inductive Inside : Text → Text → Text → Prop where
  | close (rest : Text) : Inside ('"' :: rest) [] rest
  | units {text after found rest : Text} {n : Nat} (hunit : unit? text = some (n, after))
      (htail : Inside (unicodeEscape n after).2 found rest) :
      Inside ('\\' :: 'u' :: text) ((unicodeEscape n after).1 ++ found) rest
  | letter {text found rest : Text} {c d : Char} (hletter : simpleEscape? c = some d)
      (htail : Inside text found rest) : Inside ('\\' :: c :: text) (d :: found) rest
  | plain {text found rest : Text} {c : Char} (hquote : c ≠ '"') (hslash : c ≠ '\\')
      (hcode : 0x20 ≤ c.toNat) (htail : Inside text found rest) :
      Inside (c :: text) (c :: found) rest

theorem Inside.length_lt {text found rest : Text} (h : Inside text found rest) :
    rest.length < text.length := by
  induction h with
  | close => simp
  | @units text after found rest n hunit _ ih =>
    have hlt := shortens_unit? hunit
    have hle := length_unicodeEscape n after
    simp only [List.length_cons]
    omega
  | letter _ _ ih | plain _ _ _ _ ih =>
    simp only [List.length_cons]
    omega

theorem Inside.ne_nil {text found rest : Text} (h : Inside text found rest) : text ≠ [] :=
  List.ne_nil_of_length_pos (Nat.zero_lt_of_lt h.length_lt)

theorem Inside.readString {text found rest : Text} (h : Inside text found rest) (start : Text) :
    ∀ (fuel : Nat) (before : Text), text.length ≤ fuel →
      readString fuel start before text = .ok (before.reverse ++ found, rest) := by
  induction h with
  | close rest =>
    intro fuel before hfuel
    obtain ⟨fuel, rfl⟩ := Nat.exists_eq_add_one.mpr (Nat.lt_of_lt_of_le (by simp) hfuel)
    simp [Json.readString]
  | @units text after found rest n hunit htail ih =>
    intro fuel before hfuel
    obtain ⟨fuel, rfl⟩ := Nat.exists_eq_add_one.mpr (Nat.lt_of_lt_of_le (by simp) hfuel)
    have hlt := shortens_unit? hunit
    have hle := length_unicodeEscape n after
    have hlater := ih fuel ((unicodeEscape n after).1.reverse ++ before) (by
      simp only [List.length_cons] at hfuel
      omega)
    simp [Json.readString, hunit, hlater]
  | @letter text found rest c d hletter htail ih =>
    intro fuel before hfuel
    obtain ⟨fuel, rfl⟩ := Nat.exists_eq_add_one.mpr (Nat.lt_of_lt_of_le (by simp) hfuel)
    have hlater := ih fuel (d :: before) (by simp only [List.length_cons] at hfuel; omega)
    have hu : c ≠ 'u' := by
      rintro rfl
      cases hletter
    rw [Json.readString, hletter]
    · simpa using hlater
    · exact hu
  | @plain text found rest c hquote hslash hcode htail ih =>
    intro fuel before hfuel
    obtain ⟨fuel, rfl⟩ := Nat.exists_eq_add_one.mpr (Nat.lt_of_lt_of_le (by simp) hfuel)
    have hlater := ih fuel (c :: before) (by simp only [List.length_cons] at hfuel; omega)
    have hcontrol : ¬ c.toNat < 0x20 := by omega
    simp [Json.readString, hslash, hcontrol, hlater]

/-! Values without parts. -/

/-- What a word or a number begins with. -/
def startsAtom (c : Char) : Bool :=
  c.isDigit || ['-', 'n', 't', 'f', 'N', 'I'].contains c

theorem startsAtom_of_run? {text ds rest : Text}
    (h : Text.run? Char.isDigit text = some (ds, rest)) :
    ∃ c tail, text = c :: tail ∧ startsAtom c = true := by
  cases text with
  | nil => cases h
  | cons c tail =>
    refine ⟨c, tail, rfl, ?_⟩
    by_cases hc : c.isDigit = true
    · simp [startsAtom, hc]
    · simp [Text.run?, hc] at h

theorem startsAtom_of_whole? {text ds rest : Text} (h : whole? text = some (ds, rest)) :
    ∃ c tail, text = c :: tail ∧ startsAtom c = true := by
  unfold whole? at h
  split at h
  · exact ⟨'0', _, rfl, rfl⟩
  · exact startsAtom_of_run? h

theorem startsAtom_of_number? {text rest : Text} {v : Json} (h : number? text = some (v, rest)) :
    ∃ c tail, text = c :: tail ∧ startsAtom c = true := by
  unfold number? at h
  split at h
  · exact ⟨'-', _, rfl, rfl⟩
  · simp only [unsigned?, Option.bind_eq_bind, Option.bind_eq_some_iff] at h
    obtain ⟨_, hwhole, _⟩ := h
    exact startsAtom_of_whole? hwhole

theorem startsAtom_of_words {word : Text} {v : Json} (h : (word, v) ∈ words) :
    ∃ c tail, word = c :: tail ∧ startsAtom c = true := by
  simp only [words, List.mem_cons, Prod.mk.injEq, List.not_mem_nil, or_false] at h
  rcases h with ⟨rfl, _⟩ | ⟨rfl, _⟩ | ⟨rfl, _⟩ | ⟨rfl, _⟩ | ⟨rfl, _⟩ | ⟨rfl, _⟩ <;>
    exact ⟨_, _, rfl, rfl⟩

/-- A word, or a number. -/
theorem atom?_cases {text rest : Text} {v : Json} (h : atom? text = some (v, rest)) :
    (∃ word, (word, v) ∈ words ∧ text = word ++ rest) ∨ number? text = some (v, rest) := by
  unfold atom? at h
  split at h
  · rename_i found hfound
    cases h
    obtain ⟨⟨word, value⟩, hmem, hafter⟩ := List.exists_of_findSome?_eq_some hfound
    obtain ⟨behind, hbehind, hpair⟩ := Option.map_eq_some_iff.mp hafter
    cases hpair
    exact Or.inl ⟨word, hmem, Text.after?_eq_some.mp hbehind⟩
  · exact Or.inr h

theorem startsAtom_of_atom? {text rest : Text} {v : Json} (h : atom? text = some (v, rest)) :
    ∃ c tail, text = c :: tail ∧ startsAtom c = true := by
  rcases atom?_cases h with ⟨word, hword, rfl⟩ | hnumber
  · obtain ⟨c, tail, rfl, hc⟩ := startsAtom_of_words hword
    exact ⟨c, tail ++ rest, rfl, hc⟩
  · exact startsAtom_of_number? hnumber

theorem shortens_whole? : Shortens whole? := by
  intro text rest ds h
  unfold whole? at h
  split at h
  · cases h
    simp
  · exact Text.run?_lt h

theorem shortens_fraction? : Shortens fraction? := by
  intro text rest ds h
  unfold fraction? at h
  split at h
  · have hlt := Text.run?_lt h
    simp only [List.length_cons]
    omega
  · cases h

theorem length_signOf (text : Text) : (Decimal.signOf text).2.length ≤ text.length := by
  fun_cases Decimal.signOf text <;> simp

theorem shortens_signedDigits? : Shortens signedDigits? := by
  intro text rest n h
  obtain ⟨⟨ds, behind⟩, hrun, hpair⟩ := Option.map_eq_some_iff.mp h
  cases hpair
  exact Nat.lt_of_lt_of_le (Text.run?_lt hrun) (length_signOf text)

theorem shortens_exponent? : Shortens exponent? := by
  intro text rest n h
  unfold exponent? at h
  split at h
  · cases h
  · split_ifs at h
    have hlt := shortens_signedDigits? h
    simp only [List.length_cons]
    omega

theorem Shortens.optional {α : Type} {scan : Text → Option (α × Text)} (h : Shortens scan)
    (text : Text) : (optional scan text).2.length ≤ text.length := by
  unfold Json.optional
  split
  · exact Nat.le_of_lt (h ‹_›)
  · exact Nat.le_refl _

theorem shortens_unsigned? (negative : Bool) : Shortens (unsigned? negative) := by
  intro text rest v h
  simp only [unsigned?, Option.bind_eq_bind, Option.bind_eq_some_iff, Option.pure_def,
    Option.some.injEq, Prod.mk.injEq] at h
  obtain ⟨⟨whole, behind⟩, hwhole, -, rfl⟩ := h
  have hwhole := shortens_whole? hwhole
  have hfraction := shortens_fraction?.optional behind
  have hexponent := shortens_exponent?.optional (optional fraction? behind).2
  exact Nat.lt_of_le_of_lt (Nat.le_trans hexponent hfraction) hwhole

theorem shortens_number? : Shortens number? := by
  intro text rest v h
  unfold number? at h
  split at h
  · have hlt := shortens_unsigned? true h
    simp only [List.length_cons]
    omega
  · exact shortens_unsigned? false h

theorem shortens_atom? : Shortens atom? := by
  intro text rest v h
  rcases atom?_cases h with ⟨word, hword, rfl⟩ | hnumber
  · obtain ⟨c, tail, rfl, _⟩ := startsAtom_of_words hword
    simp only [List.length_append, List.length_cons]
    omega
  · exact shortens_number? hnumber

/-! Values. -/

/-- What a stretch of a text can spell. -/
inductive Phrase where
  | value (v : Json)
  | items (items : List Json)
  | member (m : Text × Json)
  | members (members : List (Text × Json))

/-- The head of a text spells a phrase, and the rest stands behind it. -/
inductive Spells : Text → Phrase → Text → Prop where
  | atom {text rest : Text} {v : Json} (h : atom? text = some (v, rest)) :
      Spells text (.value v) rest
  | string {text s rest : Text} (h : Inside text s rest) :
      Spells ('"' :: text) (.value (.str s)) rest
  | noItems {text rest : Text} (hclose : skip text = ']' :: rest) :
      Spells ('[' :: text) (.value (.arr [])) rest
  | list {text rest : Text} {items : List Json} (hitems : Spells (skip text) (.items items) rest) :
      Spells ('[' :: text) (.value (.arr items)) rest
  | noMembers {text rest : Text} (hclose : skip text = '\x7d' :: rest) :
      Spells ('\x7b' :: text) (.value (.obj [])) rest
  | object {text rest : Text} {members : List (Text × Json)}
      (hmembers : Spells (skip text) (.members members) rest) :
      Spells ('\x7b' :: text) (.value (.obj (Table.ofPairs members))) rest
  | lastItem {text after rest : Text} {v : Json} (hvalue : Spells text (.value v) after)
      (hclose : skip after = ']' :: rest) : Spells text (.items [v]) rest
  | moreItems {text after later rest : Text} {v : Json} {items : List Json}
      (hvalue : Spells text (.value v) after) (hcomma : skip after = ',' :: later)
      (hitems : Spells (skip later) (.items items) rest) : Spells text (.items (v :: items)) rest
  | member {text name after later rest : Text} {v : Json} (hname : Inside text name after)
      (hcolon : skip after = ':' :: later) (hvalue : Spells (skip later) (.value v) rest) :
      Spells ('"' :: text) (.member (name, v)) rest
  | lastMember {text after rest : Text} {m : Text × Json} (hmember : Spells text (.member m) after)
      (hclose : skip after = '\x7d' :: rest) : Spells text (.members [m]) rest
  | moreMembers {text after later rest : Text} {m : Text × Json} {members : List (Text × Json)}
      (hmember : Spells text (.member m) after) (hcomma : skip after = ',' :: later)
      (hmembers : Spells (skip later) (.members members) rest) :
      Spells text (.members (m :: members)) rest

/-- What a value begins with. -/
def startsValue (c : Char) : Bool :=
  startsAtom c || ['"', '[', '\x7b'].contains c

theorem Spells.startsValue {text rest : Text} {p : Phrase} (h : Spells text p rest) :
    ∃ c tail, text = c :: tail ∧ Json.startsValue c = true := by
  induction h with
  | atom h =>
    obtain ⟨c, tail, htext, hc⟩ := startsAtom_of_atom? h
    exact ⟨c, tail, htext, by simp [Json.startsValue, hc]⟩
  | string | noItems | list | noMembers | object | member => exact ⟨_, _, rfl, rfl⟩
  | lastItem _ _ ih | moreItems _ _ _ ih | lastMember _ _ ih | moreMembers _ _ _ ih => exact ih

theorem Spells.length_lt {text rest : Text} {p : Phrase} (h : Spells text p rest) :
    rest.length < text.length := by
  induction h with
  | atom h => exact shortens_atom? h
  | string h =>
    have hlt := h.length_lt
    simp only [List.length_cons]
    omega
  | @noItems text rest hclose | @noMembers text rest hclose =>
    have hle := length_skip text
    rw [hclose] at hle
    simp only [List.length_cons] at hle ⊢
    omega
  | @list text rest items _ ih | @object text rest members _ ih =>
    have hle := length_skip text
    simp only [List.length_cons]
    omega
  | @lastItem text after rest v _ hclose ih | @lastMember text after rest m _ hclose ih =>
    have hle := length_skip after
    rw [hclose] at hle
    simp only [List.length_cons] at hle
    omega
  | @moreItems text after later rest v items _ hcomma _ ihvalue ihitems
  | @moreMembers text after later rest m members _ hcomma _ ihvalue ihitems =>
    have hle := length_skip after
    have hlater := length_skip later
    rw [hcomma] at hle
    simp only [List.length_cons] at hle
    omega
  | @member text name after later rest v hname hcolon _ ih =>
    have hlt := hname.length_lt
    have hle := length_skip after
    have hlater := length_skip later
    rw [hcolon] at hle
    simp only [List.length_cons] at hle ⊢
    omega

/-! The reader finds what is spelt. -/

/-- The reader takes a phrase off the head of a text, given two units of fuel a character. -/
def Phrase.Found (text rest : Text) : Phrase → Prop
  | .value v => ∀ fuel, 2 * text.length ≤ fuel → readValue .unlimited fuel text = .ok (v, rest)
  | .items vs => ∀ fuel found, 2 * text.length + 1 ≤ fuel →
      readItems .unlimited fuel found text = .ok (.arr (found.reverse ++ vs), rest)
  | .member (name, v) => ∃ inside after later, text = '"' :: inside ∧ Inside inside name after ∧
      skip after = ':' :: later ∧ ∀ fuel, 2 * text.length ≤ fuel →
        readValue .unlimited fuel (skip later) = .ok (v, rest)
  | .members ms => ∀ fuel found, 2 * text.length + 1 ≤ fuel →
      readMembers .unlimited fuel found text =
        .ok (.obj (Table.ofPairs (found.reverse ++ ms)), rest)

theorem readValue_of_atom {text rest : Text} {v : Json} (h : atom? text = some (v, rest))
    (fuel : Nat) : readValue .unlimited (fuel + 1) text = .ok (v, rest) := by
  obtain ⟨c, tail, rfl, hc⟩ := startsAtom_of_atom? h
  rw [readValue, h]
  · exact if_pos (Limits.allows_unlimited v)
  all_goals
    rintro _ heq
    cases heq
    exact absurd hc (by decide)

theorem readValue_list {text later rest : Text} {v : Json} {fuel : Nat}
    (hskip : skip text = later) (hhead : later.head? ≠ some ']')
    (h : readItems .unlimited fuel [] later = .ok (v, rest)) :
    readValue .unlimited (fuel + 1) ('[' :: text) = .ok (v, rest) := by
  rw [readValue, Limits.inner?_unlimited, hskip]
  dsimp only
  split
  · exact absurd rfl hhead
  · exact h

theorem readValue_object {text later rest : Text} {v : Json} {fuel : Nat}
    (hskip : skip text = later) (hhead : later.head? ≠ some '\x7d')
    (h : readMembers .unlimited fuel [] later = .ok (v, rest)) :
    readValue .unlimited (fuel + 1) ('\x7b' :: text) = .ok (v, rest) := by
  rw [readValue, Limits.inner?_unlimited, hskip]
  dsimp only
  split
  · exact absurd rfl hhead
  · exact h

theorem Spells.head?_ne {text rest : Text} {p : Phrase} (h : Spells text p rest) {c : Char}
    (hc : Json.startsValue c = false) : text.head? ≠ some c := by
  obtain ⟨d, tail, rfl, hd⟩ := h.startsValue
  intro heq
  cases heq
  rw [hc] at hd
  cases hd

theorem Spells.found {text rest : Text} {p : Phrase} (h : Spells text p rest) :
    p.Found text rest := by
  induction h with
  | @atom text rest v h =>
    intro fuel hfuel
    have hlt := shortens_atom? h
    obtain ⟨fuel, rfl⟩ := Nat.exists_eq_add_one.mpr (show 0 < fuel by omega)
    exact readValue_of_atom h fuel
  | @string text s rest h =>
    intro fuel hfuel
    simp only [List.length_cons] at hfuel
    obtain ⟨fuel, rfl⟩ := Nat.exists_eq_add_one.mpr (show 0 < fuel by omega)
    have hread := h.readString ('"' :: text) text.length.succ [] (Nat.le_succ _)
    rw [readValue, hread]
    rfl
  | @noItems text rest hclose | @noMembers text rest hclose =>
    intro fuel hfuel
    simp only [List.length_cons] at hfuel
    obtain ⟨fuel, rfl⟩ := Nat.exists_eq_add_one.mpr (show 0 < fuel by omega)
    simp [readValue, hclose]
  | @list text rest items hitems ih =>
    intro fuel hfuel
    simp only [List.length_cons] at hfuel
    obtain ⟨fuel, rfl⟩ := Nat.exists_eq_add_one.mpr (show 0 < fuel by omega)
    have hle := length_skip text
    exact readValue_list rfl (hitems.head?_ne (by decide)) (ih fuel [] (by omega))
  | @object text rest members hmembers ih =>
    intro fuel hfuel
    simp only [List.length_cons] at hfuel
    obtain ⟨fuel, rfl⟩ := Nat.exists_eq_add_one.mpr (show 0 < fuel by omega)
    have hle := length_skip text
    exact readValue_object rfl (hmembers.head?_ne (by decide)) (ih fuel [] (by omega))
  | @lastItem text after rest v hvalue hclose ih =>
    intro fuel found hfuel
    obtain ⟨fuel, rfl⟩ := Nat.exists_eq_add_one.mpr (show 0 < fuel by omega)
    rw [readItems, ih fuel (by omega)]
    simp [Bind.bind, Except.bind, pure, Except.pure, hclose]
  | @moreItems text after later rest v items hvalue hcomma hitems ihvalue ihitems =>
    intro fuel found hfuel
    obtain ⟨fuel, rfl⟩ := Nat.exists_eq_add_one.mpr (show 0 < fuel by omega)
    have hlt := hvalue.length_lt
    have hle := length_skip after
    have hlater := length_skip later
    rw [hcomma, List.length_cons] at hle
    have hrest := ihitems fuel (v :: found) (by omega)
    rw [readItems, ihvalue fuel (by omega)]
    simp [Bind.bind, Except.bind, hcomma, hrest]
  | @member text name after later rest v hname hcolon hvalue ih =>
    refine ⟨text, after, later, rfl, hname, hcolon, ?_⟩
    intro fuel hfuel
    have hlt := hname.length_lt
    have hle := length_skip after
    have hlater := length_skip later
    rw [hcolon] at hle
    simp only [List.length_cons] at hfuel hle
    exact ih fuel (by omega)
  | @lastMember text after rest m hmember hclose ih =>
    intro fuel found hfuel
    obtain ⟨fuel, rfl⟩ := Nat.exists_eq_add_one.mpr (show 0 < fuel by omega)
    obtain ⟨inside, middle, later, rfl, hname, hcolon, hvalue⟩ := ih
    have hread := hname.readString ('"' :: inside) inside.length.succ [] (Nat.le_succ _)
    rw [readMembers, hread]
    simp [Bind.bind, Except.bind, pure, Except.pure, hcolon, hvalue fuel (by omega), hclose]
  | @moreMembers text after later rest m members hmember hcomma hmembers ihmember ihmembers =>
    intro fuel found hfuel
    obtain ⟨fuel, rfl⟩ := Nat.exists_eq_add_one.mpr (show 0 < fuel by omega)
    have hlt := hmember.length_lt
    have hle := length_skip after
    have hlater := length_skip later
    rw [hcomma, List.length_cons] at hle
    have hrest := ihmembers fuel (m :: found) (by omega)
    obtain ⟨inside, middle, behind, rfl, hname, hcolon, hvalue⟩ := ihmember
    have hread := hname.readString ('"' :: inside) inside.length.succ [] (Nat.le_succ _)
    rw [readMembers, hread]
    simp [Bind.bind, Except.bind, hcolon, hvalue fuel (by omega), hcomma, hrest]

/-- A text that spells a value, with nothing but blanks around it, is read as that value. -/
theorem Spells.read {text rest : Text} {v : Json} (h : Spells (skip text) (.value v) rest)
    (hrest : skip rest = []) : read text = .ok v := by
  have hle := length_skip text
  have hvalue := h.found (2 * text.length + 2) (by omega)
  have hmark : text.head? ≠ some '\ufeff' := by
    intro hhead
    obtain ⟨tail, rfl⟩ := List.head?_eq_some_iff.mp hhead
    exact h.head?_ne (c := '\ufeff') (by decide) rfl
  have hall : readAll .unlimited text = .ok v := by
    unfold readAll
    split
    · exact absurd rfl hmark
    · simp [Bind.bind, Except.bind, pure, Except.pure, hvalue, hrest]
  rw [Json.read, hall]
  rfl

/-! The limits of a reading. -/

/-- A reading with limits gives what the reading without them gives, unless something in the text
is too much. -/
def Below {α : Type} (limited full : Except Stop α) : Prop :=
  limited = full ∨ ∃ overrun rest, limited = .error ⟨.overrun overrun, rest⟩

theorem Below.refl {α : Type} (read : Except Stop α) : Below read read :=
  Or.inl rfl

theorem Below.overrun {α : Type} (overrun : Overrun) (rest : Text) (full : Except Stop α) :
    Below (.error ⟨.overrun overrun, rest⟩) full :=
  Or.inr ⟨overrun, rest, rfl⟩

theorem Below.bind {α β : Type} {limited full : Except Stop α} {f g : α → Except Stop β}
    (h : Below limited full) (hnext : ∀ a, Below (f a) (g a)) :
    Below (limited >>= f) (full >>= g) := by
  rcases h with rfl | ⟨overrun, rest, rfl⟩
  · cases limited with
    | error stop => exact Below.refl _
    | ok a => exact hnext a
  · exact Below.overrun overrun rest _

theorem below_read (fuel : Nat) :
    (∀ limits text, Below (readValue limits fuel text) (readValue .unlimited fuel text)) ∧
    (∀ limits found text,
      Below (readItems limits fuel found text) (readItems .unlimited fuel found text)) ∧
    ∀ limits found text,
      Below (readMembers limits fuel found text) (readMembers .unlimited fuel found text) := by
  induction fuel with
  | zero => exact ⟨fun _ _ => .refl _, fun _ _ _ => .refl _, fun _ _ _ => .refl _⟩
  | succ fuel ih =>
    obtain ⟨ihvalue, ihitems, ihmembers⟩ := ih
    refine ⟨fun limits text => ?_, fun limits found text => ?_, fun limits found text => ?_⟩
    · simp only [readValue, Limits.inner?_unlimited, Limits.allows_unlimited]
      split
      · exact Below.refl _
      · cases limits.inner? with
        | none => exact Below.overrun _ _ _
        | some inner =>
          dsimp only
          split
          · exact Below.refl _
          · exact ihitems _ _ _
      · cases limits.inner? with
        | none => exact Below.overrun _ _ _
        | some inner =>
          dsimp only
          split
          · exact Below.refl _
          · exact ihmembers _ _ _
      · split
        · split
          · exact Below.refl _
          · exact Below.overrun _ _ _
        · exact Below.refl _
    · simp only [readItems]
      refine (ihvalue limits text).bind fun ⟨item, rest⟩ => ?_
      dsimp only
      split
      · exact Below.refl _
      · exact ihitems _ _ _
      · exact Below.refl _
    · simp only [readMembers]
      split
      · refine (Below.refl _).bind fun ⟨name, rest⟩ => ?_
        dsimp only
        split
        · refine (ihvalue _ _).bind fun ⟨value, rest⟩ => ?_
          dsimp only
          split
          · exact Below.refl _
          · exact ihmembers _ _ _
          · exact Below.refl _
        · exact Below.refl _
      · exact Below.refl _

/-! What is within the limits. -/

mutual

/-- Whether a value is within the limits, and all that is inside of it. -/
def fits (limits : Limits) : Json → Bool
  | .arr items =>
    match limits.inner? with
    | none => false
    | some inner => fitItems inner items
  | .obj members =>
    match limits.inner? with
    | none => false
    | some inner => fitMembers inner members
  | value => limits.allows value

def fitItems (limits : Limits) : List Json → Bool
  | [] => true
  | item :: items => fits limits item && fitItems limits items

def fitMembers (limits : Limits) : List (Text × Json) → Bool
  | [] => true
  | (_, value) :: members => fits limits value && fitMembers limits members

end

theorem fitItems_iff {limits : Limits} {items : List Json} :
    fitItems limits items = true ↔ ∀ item ∈ items, fits limits item = true := by
  induction items with
  | nil => simp [fitItems]
  | cons item items ih => simp [fitItems, ih]

theorem fitMembers_iff {limits : Limits} {members : List (Text × Json)} :
    fitMembers limits members = true ↔ ∀ m ∈ members, fits limits m.2 = true := by
  induction members with
  | nil => simp [fitMembers]
  | cons m members ih => simp [fitMembers, ih]

/-- A value without parts fits if it is allowed. -/
theorem fits_of_atom? {limits : Limits} {text rest : Text} {v : Json}
    (h : atom? text = some (v, rest)) : fits limits v = limits.allows v := by
  rcases atom?_cases h with ⟨word, hword, _⟩ | hnumber
  · simp only [words, List.mem_cons, Prod.mk.injEq, List.not_mem_nil, or_false] at hword
    rcases hword with ⟨_, rfl⟩ | ⟨_, rfl⟩ | ⟨_, rfl⟩ | ⟨_, rfl⟩ | ⟨_, rfl⟩ | ⟨_, rfl⟩ <;> rfl
  · have hunsigned : ∃ negative text, unsigned? negative text = some (v, rest) := by
      unfold number? at hnumber
      split at hnumber <;> exact ⟨_, _, hnumber⟩
    obtain ⟨negative, text, hunsigned⟩ := hunsigned
    simp only [unsigned?, Option.bind_eq_bind, Option.bind_eq_some_iff, Option.pure_def,
      Option.some.injEq, Prod.mk.injEq] at hunsigned
    obtain ⟨_, _, rfl, _⟩ := hunsigned
    unfold numberOf
    split <;> rfl

/-- All that a reading can give has a property. -/
def Yields {α : Type} (read : Except Stop α) (holds : α → Prop) : Prop :=
  ∀ a, read = .ok a → holds a

theorem Yields.error {α : Type} (stop : Stop) (holds : α → Prop) : Yields (.error stop) holds := by
  intro a h
  cases h

theorem Yields.ok {α : Type} {a : α} {holds : α → Prop} (h : holds a) : Yields (.ok a) holds := by
  intro b hb
  cases hb
  exact h

theorem Yields.bind {α β : Type} {read : Except Stop α} {next : α → Except Stop β}
    {between : α → Prop} {holds : β → Prop} (h : Yields read between)
    (hnext : ∀ a, between a → Yields (next a) holds) : Yields (read >>= next) holds := by
  cases read with
  | error stop => exact Yields.error stop holds
  | ok a => exact hnext a (h a rfl)

theorem Yields.next {α β : Type} {read : Except Stop α} {next : α → Except Stop β}
    {holds : β → Prop} (hnext : ∀ a, Yields (next a) holds) : Yields (read >>= next) holds := by
  cases read with
  | error stop => exact Yields.error stop holds
  | ok a => exact hnext a

/-- What is read fits the limits. Items and members that were found before have to fit, too. -/
theorem fits_read (fuel : Nat) :
    (∀ limits text, Yields (readValue limits fuel text) fun r => fits limits r.1 = true) ∧
    (∀ limits found text, fitItems limits found = true →
      Yields (readItems limits fuel found text) fun r =>
        ∃ items, r.1 = .arr items ∧ fitItems limits items = true) ∧
    ∀ limits found text, fitMembers limits found = true →
      Yields (readMembers limits fuel found text) fun r =>
        ∃ members, r.1 = .obj members ∧ fitMembers limits members = true := by
  induction fuel with
  | zero => exact ⟨fun _ _ => .error _ _, fun _ _ _ _ => .error _ _, fun _ _ _ _ => .error _ _⟩
  | succ fuel ih =>
    obtain ⟨ihvalue, ihitems, ihmembers⟩ := ih
    refine ⟨fun limits text => ?_, fun limits found text hfound => ?_,
      fun limits found text hfound => ?_⟩
    · rw [readValue.eq_def]
      dsimp only
      split
      · exact Yields.next fun ⟨s, rest⟩ => Yields.ok rfl
      · cases hinner : limits.inner? with
        | none => exact Yields.error _ _
        | some inner =>
          dsimp only
          split
          · exact Yields.ok (by simp [fits, hinner, fitItems])
          · intro r hr
            obtain ⟨items, hitems, hfit⟩ := ihitems inner [] _ rfl r hr
            simp [hitems, fits, hinner, hfit]
      · cases hinner : limits.inner? with
        | none => exact Yields.error _ _
        | some inner =>
          dsimp only
          split
          · exact Yields.ok (by simp [fits, hinner, fitMembers])
          · intro r hr
            obtain ⟨members, hmembers, hfit⟩ := ihmembers inner [] _ rfl r hr
            simp [hmembers, fits, hinner, hfit]
      · split
        · rename_i value rest hatom
          split
          · rename_i hallows
            exact Yields.ok ((fits_of_atom? hatom).trans hallows)
          · exact Yields.error _ _
        · exact Yields.error _ _
    · rw [readItems.eq_def]
      dsimp only
      refine (ihvalue limits text).bind fun ⟨item, rest⟩ hitem => ?_
      have hmore : fitItems limits (item :: found) = true := by
        simp [fitItems, hfound, show fits limits item = true from hitem]
      dsimp only
      split
      · refine Yields.ok ⟨_, rfl, ?_⟩
        rw [fitItems_iff] at hmore ⊢
        simpa [or_comm, forall_and] using hmore
      · exact ihitems _ _ _ hmore
      · exact Yields.error _ _
    · rw [readMembers.eq_def]
      dsimp only
      split
      · refine Yields.next fun ⟨name, rest⟩ => ?_
        dsimp only
        split
        · refine (ihvalue _ _).bind fun ⟨value, rest⟩ hvalue => ?_
          have hmore : fitMembers limits ((name, value) :: found) = true := by
            simp [fitMembers, hfound, show fits limits value = true from hvalue]
          dsimp only
          split
          · refine Yields.ok ⟨_, rfl, ?_⟩
            rw [fitMembers_iff] at hmore ⊢
            exact Table.forall_ofPairs (fits limits · = true) fun m hm =>
              hmore m (List.mem_reverse.mp hm)
          · exact ihmembers _ _ _ hmore
          · exact Yields.error _ _
        · exact Yields.error _ _
      · exact Yields.error _ _

theorem below_readAll (limits : Limits) (text : Text) :
    Below (readAll limits text) (readAll .unlimited text) := by
  unfold readAll
  split
  · exact Below.refl _
  · refine ((below_read _).1 limits _).bind fun ⟨value, rest⟩ => ?_
    dsimp only
    split <;> exact Below.refl _

theorem fits_readAll (limits : Limits) (text : Text) :
    Yields (readAll limits text) fun value => fits limits value = true := by
  unfold readAll
  split
  · exact Yields.error _ _
  · refine ((fits_read _).1 limits _).bind fun ⟨value, rest⟩ hvalue => ?_
    dsimp only
    split
    · exact Yields.ok hvalue
    · exact Yields.error _ _

/-- The interpreter reads a text as it is, as far as it is not too much. -/
theorem read_of_load {depth : Nat} {text : Text} {found : Except ReadError Json}
    (h : load depth text = .ok found) : read text = found := by
  have hbelow := below_readAll (.interpreter depth) text
  unfold load at h
  unfold read
  split at h
  · cases h
  · rename_i stop hplain hstop
    cases h
    rcases hbelow with heq | ⟨overrun, rest, heq⟩
    · rw [← heq, hstop]
      rfl
    · obtain rfl := Except.error.inj (hstop.symm.trans heq)
      exact absurd rfl (hplain overrun rest)
  · rename_i value hvalue
    cases h
    rcases hbelow with heq | ⟨overrun, rest, heq⟩
    · rw [← heq, hvalue]
      rfl
    · cases hvalue.symm.trans heq

/-- A value that is not within the limits is too much for the interpreter. -/
theorem exists_overrun {depth : Nat} {text : Text} {value : Json} (hread : read text = .ok value)
    (hlimits : fits (.interpreter depth) value = false) :
    ∃ overrun, load depth text = .error overrun := by
  cases hload : load depth text with
  | error overrun => exact ⟨overrun, rfl⟩
  | ok found =>
    obtain rfl := (read_of_load hload).symm.trans hread
    have hfits : fits (.interpreter depth) value = true := by
      apply fits_readAll (.interpreter depth) text
      unfold load at hload
      split at hload
      · cases hload
      · cases hload
      · rename_i hvalue
        cases hload
        exact hvalue
    rw [hlimits] at hfits
    cases hfits

end DepView.Json
