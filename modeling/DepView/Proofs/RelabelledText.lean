import DepView.Dependency.Label
import DepView.Proofs.DependencyLabels
import DepView.Proofs.LineKinds
import DepView.Proofs.SurrogateHalves

/-!
Relabelled text can be written whenever the text it was made from could be read. All that a
relabelling puts into a text are labels and ordinary characters, and a label is a stretch of the
text or a number.
-/

namespace DepView.Text.Pattern

variable {α : Type}

/-- Each match of a scan starts somewhere in the text. -/
theorem exists_of_mem_findAll {p : Pattern α}
    (hsuffix : ∀ {text rest : Text} {found : α}, p.match? text = some (found, rest) → rest <:+ text)
    {text : Text} {found : α} (h : found ∈ p.findAll text) :
    ∃ part rest, part <:+ text ∧ p.match? part = some (found, rest) := by
  fun_induction findAll p text with
  | case1 => cases h
  | case2 c tail first rest hmatch ih =>
    rcases List.mem_cons.mp h with rfl | hlater
    · exact ⟨c :: tail, rest, List.suffix_rfl, hmatch⟩
    · obtain ⟨part, after, hpart, hfound⟩ := ih hlater
      exact ⟨part, after, hpart.trans (hsuffix hmatch), hfound⟩
  | case3 c tail _ ih =>
    obtain ⟨part, after, hpart, hfound⟩ := ih h
    exact ⟨part, after, hpart.trans (List.suffix_cons c tail), hfound⟩

end DepView.Text.Pattern

namespace DepView.Text

theorem suffix_of_after? {start text rest : Text} (h : after? start text = some rest) :
    rest <:+ text :=
  ⟨start, (after?_eq_some.mp h).symm⟩

theorem suffix_of_run? {p : Char → Bool} {text word rest : Text}
    (h : run? p text = some (word, rest)) : rest <:+ text :=
  run?_rest h ▸ List.dropWhile_suffix p

theorem trimEndWhile_isPrefix (p : Char → Bool) (text : Text) : trimEndWhile p text <+: text :=
  List.reverse_suffix.mp (by
    rw [trimEndWhile, List.reverse_reverse]
    exact List.dropWhile_suffix p)

theorem lastPiece_isSuffix (p : Char → Bool) (text : Text) : lastPiece p text <:+ text :=
  List.reverse_prefix.mp (by
    rw [lastPiece, List.reverse_reverse]
    exact List.takeWhile_prefix _)

theorem trim_isInfix (text : Text) : trim text <:+: text :=
  (trimEndWhile_isPrefix isBlank _).isInfix.trans (List.dropWhile_suffix isBlank).isInfix

theorem isOrdinary_of_isDecimal {c : Char} (h : isDecimal c = true) : IsOrdinary c := by
  have hzeros : ∀ z ∈ digitZeros, z + 10 < 0x100000 := by decide
  obtain ⟨z, hz, _, hhigh⟩ := code_of_isDecimal h
  have hzero := hzeros z hz
  unfold IsOrdinary
  omega

end DepView.Text

namespace DepView.Dependency

open Text

/-! Labels. -/

theorem basename_isInfix (path : Text) : basename path <:+: path := by
  unfold basename
  split
  · exact trim_isInfix path
  · exact (lastPiece_isSuffix isSeparator _).isInfix.trans
      ((trimEndWhile_isPrefix isSeparator _).isInfix.trans (trim_isInfix path))

/-- The path of a comment is a stretch of the text, and what follows it is the end of the text. -/
theorem idComment?_stretches {text id path rest : Text}
    (h : idComment? text = some ((id, path), rest)) : path <:+: text ∧ rest <:+ text := by
  simp only [idComment?, Option.bind_eq_bind, Option.bind_eq_some_iff] at h
  obtain ⟨afterSlashes, hslashes, ⟨_, afterId⟩, hid, afterColon, hcolon, hfound⟩ := h
  simp only [Option.pure_def, Option.some.injEq, Prod.mk.injEq] at hfound
  obtain ⟨⟨_, rfl⟩, rfl⟩ := hfound
  have hbehind : afterColon <:+ text :=
    (suffix_of_after? hcolon).trans ((suffix_of_run? hid).trans
      ((List.dropWhile_suffix isBlank).trans (suffix_of_after? hslashes)))
  exact ⟨(List.takeWhile_prefix _).isInfix.trans hbehind.isInfix,
    (List.dropWhile_suffix _).trans hbehind⟩

/-- What a number is labelled with is a stretch of the text. -/
theorem label_isInfix {text id label : Text} (h : (labelsOf text).find? id = some label) :
    label <:+: text := by
  obtain ⟨path, hfound, rfl⟩ := exists_of_find?_labelsOf h
  obtain ⟨part, rest, hpart, hmatch⟩ :=
    Pattern.exists_of_mem_findAll (fun hm => (idComment?_stretches hm).2) hfound
  exact (basename_isInfix path).trans ((idComment?_stretches hmatch).1.trans hpart.isInfix)

/-! Lines. -/

/-- What an edge is read from: numbers, what stands before them, and the end of the line. -/
theorem numberedEdge?_stretches {line rest : Text} {edge : NumberedEdge}
    (h : numberedEdge? line = some (edge, rest)) :
    (∀ c ∈ edge.indent, isIndent c = true) ∧ (∀ c ∈ edge.source, isDecimal c = true) ∧
      (∀ c ∈ edge.target, isDecimal c = true) ∧ rest <:+ line := by
  obtain ⟨e, rfl, rfl⟩ := exists_of_numberedEdge? h
  exact ⟨e.indent.isIndent, e.source.isDecimal, e.target.isDecimal, List.suffix_append e.text rest⟩

section

variable {labels : Labels} (hlabels : ∀ id label, labels.find? id = some label →
  label.IsChain Apart)
include hlabels

theorem isChain_labelFor {id : Text} (hid : ∀ c ∈ id, isDecimal c = true) :
    (labelFor labels id).IsChain Apart := by
  unfold labelFor
  split
  · exact hlabels id _ ‹_›
  · exact isChain_of_isOrdinary fun c hc => isOrdinary_of_isDecimal (hid c hc)

theorem isChain_relabelLine {line : Text} (h : line.IsChain Apart) :
    (relabelLine labels line).IsChain Apart := by
  unfold relabelLine
  split
  · exact h
  · rename_i edge rest hedge
    obtain ⟨hindent, hsource, htarget, hrest⟩ := numberedEdge?_stretches hedge
    have hblank : ∀ c ∈ edge.indent, IsOrdinary c := by
      intro c hc
      rcases isIndent_cases (hindent c hc) with rfl | rfl
      all_goals exact isOrdinary_of_isAscii (by decide)
    have hquote : IsOrdinary '"' := isOrdinary_of_isAscii (by decide)
    have harrow : ∀ c ∈ [' ', '-', '>', ' ', '"'], IsOrdinary c := by
      simp [isOrdinary_of_isAscii]
    have hsemicolon : ∀ c ∈ [';'], IsOrdinary c := by
      simp [isOrdinary_of_isAscii]
    have htail := (isChain_ordinary_append hsemicolon rest).mpr (h.suffix hrest)
    have hto := (isChain_append_cons hquote _ _).mpr
      ⟨isChain_escape (isChain_labelFor hlabels htarget), htail⟩
    have hfrom := (isChain_append_cons hquote _ _).mpr
      ⟨isChain_escape (isChain_labelFor hlabels hsource),
        (isChain_ordinary_append harrow _).mpr hto⟩
    have hline := (isChain_append_cons hquote _ _).mpr ⟨isChain_of_isOrdinary hblank, hfrom⟩
    simpa [quote] using hline

theorem isChain_relabelWith {text : Text} (hcr : '\r' ∉ text) (h : text.IsChain Apart) :
    (relabelWith labels text).IsChain Apart := by
  unfold relabelWith
  rw [foldCrlf_of_cr_notMem hcr]
  apply isChain_flatMap_lines
  intro line hline
  obtain ⟨raw, hraw, hpiece⟩ := List.mem_flatMap.mp (List.mem_of_mem_filter hline)
  have hraw' := List.IsChain.infix h (infix_of_mem_splitAt hraw)
  have hrelabelled := isChain_relabelLine hlabels hraw'
  exact List.IsChain.infix hrelabelled (infix_of_mem_splitAt hpiece)

end

/-- In a text as it was read there are no line endings left to fold. -/
theorem relabel_foldNewlines (text : Text) : relabel (foldNewlines text) =
    relabelWith (labelsOf (foldNewlines text)) (foldNewlines text) := by
  rw [relabel, foldCrlf_foldNewlines]

/-- Relabelled text has a UTF-8 form if the text has one. -/
theorem holdsSurrogate_relabelWith {text : Text} (hcr : '\r' ∉ text)
    (h : holdsSurrogate text = false) :
    holdsSurrogate (relabelWith (labelsOf text) text) = false := by
  rw [holdsSurrogate_eq_false] at h ⊢
  apply isChain_relabelWith _ hcr h
  intro id label hlabel
  exact List.IsChain.infix h (label_isInfix hlabel)

end DepView.Dependency
