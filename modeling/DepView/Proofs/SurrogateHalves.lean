import DepView.Proofs.LineEndings
import DepView.Proofs.QuotedText
import DepView.Text.Surrogate
import Mathlib.Data.List.Chain

/-!
Texts that have a UTF-8 form. A half of a surrogate pair shows as two characters side by side, so
a text without one is a text whose neighbours all go together, and so is every stretch of it.
Ordinary characters can be put in or taken out at any place as long as none of them is the mark
of a half.
-/

namespace DepView.Text

/-- Two neighbours that do not stand for half of a surrogate pair. -/
def Apart (a b : Char) : Prop :=
  a = halfMark → half? b = none

theorem isSurrogate_toNat (c : Char) : isSurrogate c.toNat = false := by
  have hvalid := c.valid
  unfold UInt32.isValidChar Nat.isValidChar at hvalid
  have hcode : c.val.toNat = c.toNat := rfl
  simp only [isSurrogate, Bool.and_eq_false_iff, decide_eq_false_iff_not]
  omega

theorem isSurrogate_of_half? {c : Char} {code : Nat} (h : half? c = some code) :
    isSurrogate code = true := by
  unfold half? at h
  split at h
  · rename_i hcode
    simp only [Bool.and_eq_true] at hcode
    exact Option.some.inj h ▸ hcode.2
  · cases h

theorem any_isSurrogate_codesFrom (found : List Nat) (text : Text) :
    (codesFrom found text).any isSurrogate = false ↔
      found.any isSurrogate = false ∧ text.IsChain Apart := by
  fun_induction codesFrom found text with
  | case1 => simp
  | case2 found c => simp [isSurrogate_toNat]
  | case3 found c next rest code hhalf ih =>
    have hmark : c = halfMark ∧ half? next = some code := by
      split at hhalf
      · exact ⟨‹_›, hhalf⟩
      · cases hhalf
    simp [ih, isSurrogate_of_half? hmark.2, Apart, hmark]
  | case4 found c next rest hhalf ih =>
    have hapart : Apart c next := by
      intro hmark
      rwa [if_pos hmark] at hhalf
    simp [ih, isSurrogate_toNat, hapart]

theorem isChain_of_notMem {text : Text} (h : halfMark ∉ text) : text.IsChain Apart := by
  induction text with
  | nil => exact List.isChain_nil
  | cons c rest ih =>
    rw [List.mem_cons, not_or] at h
    rw [List.isChain_cons]
    exact ⟨fun _ _ hmark => False.elim (h.1 hmark.symm), ih h.2⟩

theorem holdsSurrogate_eq_false {text : Text} :
    holdsSurrogate text = false ↔ text.IsChain Apart := by
  have hcodes := any_isSurrogate_codesFrom [] text
  rw [List.any_nil, eq_self, true_and] at hcodes
  unfold holdsSurrogate codes
  rw [Bool.and_eq_false_iff, hcodes, List.contains_eq_mem, decide_eq_false_iff_not]
  exact or_iff_right_of_imp isChain_of_notMem

/-! Ordinary characters. -/

/-- A character that is neither the mark of a half nor what follows the mark. -/
def IsOrdinary (c : Char) : Prop :=
  c.toNat < 0x100000

theorem isOrdinary_of_isAscii {c : Char} (h : c.toNat < 0x80) : IsOrdinary c := by
  unfold IsOrdinary
  omega

theorem IsOrdinary.apart_left {a : Char} (h : IsOrdinary a) (b : Char) : Apart a b := by
  rintro rfl
  exact absurd h (by unfold IsOrdinary; decide)

theorem IsOrdinary.apart_right {b : Char} (h : IsOrdinary b) (a : Char) : Apart a b := by
  intro _
  have hcode : ¬ 0x100000 ≤ b.toNat := not_le.mpr h
  simp [half?, hcode]

theorem isChain_of_isOrdinary {text : Text} (h : ∀ c ∈ text, IsOrdinary c) :
    text.IsChain Apart := by
  apply isChain_of_notMem
  intro hmark
  exact absurd (h _ hmark) (by unfold IsOrdinary; decide)

/-- An ordinary character keeps what stands before it from what stands behind it. -/
theorem isChain_append_cons {c : Char} (hc : IsOrdinary c) (a b : Text) :
    (a ++ c :: b).IsChain Apart ↔ a.IsChain Apart ∧ b.IsChain Apart := by
  rw [List.isChain_append, List.isChain_cons]
  constructor
  · rintro ⟨ha, ⟨_, hb⟩, _⟩
    exact ⟨ha, hb⟩
  · rintro ⟨ha, hb⟩
    refine ⟨ha, ⟨fun d _ => hc.apart_left d, hb⟩, fun d _ e he => ?_⟩
    obtain rfl : c = e := by simpa using he
    exact hc.apart_right d

theorem isChain_ordinary_append {a : Text} (ha : ∀ c ∈ a, IsOrdinary c) (b : Text) :
    (a ++ b).IsChain Apart ↔ b.IsChain Apart := by
  induction a with
  | nil => rfl
  | cons c a ih =>
    have hc := isChain_append_cons (ha c List.mem_cons_self) [] (a ++ b)
    rw [List.nil_append] at hc
    rw [List.cons_append, hc, ih (fun d hd => ha d (List.mem_cons_of_mem c hd))]
    exact and_iff_right List.isChain_nil

/-- A text each of whose lines is ended by a line feed. -/
theorem isChain_flatMap_lines {texts : List Text} (h : ∀ line ∈ texts, line.IsChain Apart) :
    (texts.flatMap (· ++ ['\n'])).IsChain Apart := by
  induction texts with
  | nil => exact List.isChain_nil
  | cons line rest ih =>
    have hline := h line List.mem_cons_self
    have hrest := ih fun other hother => h other (List.mem_cons_of_mem line hother)
    rw [List.flatMap_cons, List.append_assoc]
    exact (isChain_append_cons (isOrdinary_of_isAscii (by decide)) line _).mpr ⟨hline, hrest⟩

theorem codesFrom_append (found before : List Nat) (text : Text) :
    codesFrom (found ++ before) text = before.reverse ++ codesFrom found text := by
  fun_induction codesFrom found text with
  | case1 => simp [codesFrom]
  | case2 => simp [codesFrom]
  | case3 found c next rest code hhalf ih =>
    rw [codesFrom, hhalf]
    exact ih
  | case4 found c next rest hhalf ih =>
    rw [codesFrom, hhalf]
    exact ih

theorem codesFrom_cons {c : Char} (hc : IsOrdinary c) (found : List Nat) (text : Text) :
    codesFrom found (c :: text) = found.reverse ++ c.toNat :: codes text := by
  have hmark : c ≠ halfMark := by
    rintro rfl
    exact absurd hc (by unfold IsOrdinary; decide)
  have hstep : codesFrom found (c :: text) = codesFrom (c.toNat :: found) text := by
    cases text with
    | nil => rfl
    | cons next rest => simp [codesFrom, hmark]
  have happend := codesFrom_append [] (c.toNat :: found) text
  rw [hstep]
  simpa [codes] using happend

/-- An ordinary character is a code of its own wherever it stands. -/
theorem codes_append_cons {c : Char} (hc : IsOrdinary c) (a b : Text) :
    codes (a ++ c :: b) = codes a ++ c.toNat :: codes b := by
  suffices ∀ found, codesFrom found (a ++ c :: b) = codesFrom found a ++ c.toNat :: codes b from
    this []
  intro found
  fun_induction codesFrom found a with
  | case1 found => exact codesFrom_cons hc found b
  | case2 found d =>
    have hhalf : (if d = halfMark then half? c else none) = none := by
      split
      · exact hc.apart_right d ‹_›
      · rfl
    rw [List.singleton_append, codesFrom, hhalf]
    exact codesFrom_cons hc (d.toNat :: found) b
  | case3 found d next rest code hhalf ih =>
    rw [List.cons_append, List.cons_append, codesFrom, hhalf]
    exact ih
  | case4 found d next rest hhalf ih =>
    rw [List.cons_append, List.cons_append, codesFrom, hhalf]
    exact ih

/-- No code of ordinary characters is half of a surrogate pair. -/
theorem isSurrogate_of_mem_codes {text : Text} (h : text.IsChain Apart) :
    ∀ code ∈ codes text, isSurrogate code = false := by
  have hany := (any_isSurrogate_codesFrom [] text).mpr ⟨rfl, h⟩
  intro code hcode
  exact Bool.eq_false_iff.mpr (List.any_eq_false.mp hany code hcode)

/-! Operations on a text. -/

theorem head?_foldNewlines (text : Text) :
    (foldNewlines text).head? = text.head?.map fun c => if c = '\r' then '\n' else c := by
  fun_cases foldNewlines text <;> simp

theorem isChain_foldNewlines {text : Text} (h : text.IsChain Apart) :
    (foldNewlines text).IsChain Apart := by
  have hlf : IsOrdinary '\n' := isOrdinary_of_isAscii (by decide)
  fun_induction foldNewlines text with
  | case1 => exact h
  | case2 rest ih =>
    rw [List.isChain_cons]
    exact ⟨fun c _ => hlf.apart_left c, ih h.tail.tail⟩
  | case3 c rest _ ih =>
    rw [List.isChain_cons]
    refine ⟨fun d hd => ?_, ih h.tail⟩
    rw [head?_foldNewlines, Option.mem_def, Option.map_eq_some_iff] at hd
    obtain ⟨e, he, rfl⟩ := hd
    split
    · exact hlf.apart_left _
    · split
      · exact hlf.apart_right _
      · exact (List.isChain_cons.mp h).1 e he

theorem cr_notMem_foldNewlines (text : Text) : '\r' ∉ foldNewlines text := by
  fun_induction foldNewlines text with
  | case1 => exact List.not_mem_nil
  | case2 rest ih => simpa using ih
  | case3 c rest _ ih =>
    rw [List.mem_cons, not_or]
    refine ⟨?_, ih⟩
    split
    · decide
    · exact Ne.symm ‹_›

theorem foldCrlf_foldNewlines (text : Text) : foldCrlf (foldNewlines text) = foldNewlines text :=
  foldCrlf_of_cr_notMem (cr_notMem_foldNewlines text)

theorem head?_escape {text : Text} {c : Char} (h : (Quoted.escape text).head? = some c) :
    text.head? = some c ∨ c = '\\' := by
  cases text with
  | nil => simp [Quoted.escape] at h
  | cons d rest =>
    rw [Quoted.escape_cons] at h
    by_cases hd : d = '\\' ∨ d = '"'
    · rw [Quoted.written_of_special hd] at h
      exact Or.inr (by simpa using h.symm)
    · rw [Quoted.written_of_plain hd] at h
      exact Or.inl (by simpa using h)

theorem isChain_escape {text : Text} (h : text.IsChain Apart) :
    (Quoted.escape text).IsChain Apart := by
  have hslash : IsOrdinary '\\' := isOrdinary_of_isAscii (by decide)
  induction text with
  | nil => exact List.isChain_nil
  | cons c rest ih =>
    have hrest := ih h.tail
    rw [Quoted.escape_cons]
    by_cases hc : c = '\\' ∨ c = '"'
    · rw [Quoted.written_of_special hc]
      apply (isChain_ordinary_append _ _).mpr hrest
      rcases hc with rfl | rfl <;> simp [hslash, isOrdinary_of_isAscii]
    · rw [Quoted.written_of_plain hc, List.singleton_append, List.isChain_cons]
      refine ⟨fun d hd => ?_, hrest⟩
      rcases head?_escape hd with hhead | rfl
      · exact (List.isChain_cons.mp h).1 d hhead
      · exact hslash.apart_right c

end DepView.Text
