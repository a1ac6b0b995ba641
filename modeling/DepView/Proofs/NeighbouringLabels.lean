import DepView.Proofs.StatementRows

/-!
Documents of labelled nodes in any layout. Several rows may stand on one line, and then the text
between two labels lies between quotes, too. A label that is nothing but an arrow makes a quoted
edge of the texts before and behind it, if the labels next to it are on its line. No other label
decides for the quoted dialect, whatever it holds.
-/

namespace DepView.Graph

open Text

/-- A part of a document of labelled nodes: blanks of any kind, or a row. -/
inductive Part where
  | blanks (text : Text) (isBlank : ∀ c ∈ text, Text.isBlank c = true)
  | row (row : Row)

namespace Part

def text : Part → Text
  | blanks text _ => text
  | row r => r.text

/-- The label of the node that a part declares. -/
def label? : Part → Option Text
  | row (.node _ _ label) => some label
  | _ => none

end Part

/-- Parts that follow each other without anything between them. -/
def partsText (parts : List Part) : Text :=
  parts.flatMap Part.text

/-- The next label in some parts, on the line that they begin on, and the parts behind it. -/
def NextLabel (parts : List Part) (label : Text) (rest : List Part) : Prop :=
  ∃ between node, parts = between ++ node :: rest ∧ node.label? = some label ∧
    ∀ part ∈ between, part.label? = none ∧ '\n' ∉ part.text

/-- A label that is nothing but an arrow. -/
def IsArrow (label : Text) : Prop :=
  ∃ before after : Indent, label = before.text ++ '-' :: '>' :: after.text

/-- The next label is an arrow, and there is another one behind it on the same line. -/
def ArrowNext (parts : List Part) : Prop :=
  ∃ arrow rest label last, NextLabel parts arrow rest ∧ IsArrow arrow ∧ NextLabel rest label last

/-- Somewhere an arrow is the label between two others on one line. -/
def ArrowBetween (parts : List Part) : Prop :=
  ∃ before first rest, parts = before ++ first :: rest ∧ first.label?.isSome = true ∧ ArrowNext rest

theorem arrowBetween_cons {part : Part} {parts : List Part} :
    ArrowBetween (part :: parts) ↔
      part.label?.isSome = true ∧ ArrowNext parts ∨ ArrowBetween parts := by
  constructor
  · rintro ⟨before, first, rest, heq, hfirst, hnext⟩
    cases before with
    | nil =>
      obtain ⟨rfl, rfl⟩ := List.cons.inj heq
      exact Or.inl ⟨hfirst, hnext⟩
    | cons head before => exact Or.inr ⟨before, first, rest, (List.cons.inj heq).2, hfirst, hnext⟩
  · rintro (⟨hfirst, hnext⟩ | ⟨before, first, rest, rfl, hfirst, hnext⟩)
    · exact ⟨[], part, parts, rfl, hfirst, hnext⟩
    · exact ⟨part :: before, first, rest, rfl, hfirst, hnext⟩

/-! What stands between labels. -/

/-- Only a label can hold quotes and backslashes. -/
theorem Part.notMem_text {part : Part} (h : part.label? = none) :
    '"' ∉ part.text ∧ '\\' ∉ part.text := by
  cases part with
  | blanks text isBlank =>
    have hclass : ∀ d, Text.isBlank d = false → d ∉ text :=
      fun d hd hmem => ne_of_class (isBlank d hmem) hd rfl
    exact ⟨hclass '"' (by decide), hclass '\\' (by decide)⟩
  | row row =>
    cases row with
    | frame f => exact ⟨f.notMem isWord_quote (by decide), f.notMem isWord_backslash (by decide)⟩
    | node indent id label => cases h
    | link indent source target =>
      exact ⟨quote_notMem_link indent source target,
        Row.notMem_link indent source target (by decide) (by decide) (by decide)⟩

theorem notMem_partsText {parts : List Part} (h : ∀ part ∈ parts, part.label? = none) :
    '"' ∉ partsText parts ∧ '\\' ∉ partsText parts := by
  constructor <;>
  · intro hmem
    obtain ⟨part, hpart, hmem⟩ := List.mem_flatMap.mp hmem
    have hnot := part.notMem_text (h part hpart)
    simp_all

/-- What stands before the label of a node, and the label. -/
theorem Part.exists_start {node : Part} {label : Text} (h : node.label? = some label) :
    ∃ start, node.text = start ++ '"' :: (Quoted.escape label ++ '"' :: Row.labelStop) ∧
      '"' ∉ start ∧ '\\' ∉ start ∧ '\n' ∉ start := by
  cases node with
  | blanks text isBlank => cases h
  | row row =>
    cases row with
    | frame f => cases h
    | link indent source target => cases h
    | node indent id other =>
      obtain rfl := Option.some.inj h
      exact ⟨indent.text ++ id.text ++ Row.labelStart, by simp [Part.text, Row.text],
        quote_notMem_start indent id,
        Row.notMem_start indent id (by decide) (by decide) (by decide),
        Row.notMem_start indent id (by decide) (by decide) (by decide)⟩

/-- Either there is no label in some parts, or there is a first one. -/
theorem exists_first_label (parts : List Part) :
    (∀ part ∈ parts, part.label? = none) ∨ ∃ between node label rest,
      parts = between ++ node :: rest ∧ node.label? = some label ∧
        ∀ part ∈ between, part.label? = none := by
  induction parts with
  | nil => exact Or.inl fun _ hpart => nomatch hpart
  | cons part parts ih =>
    cases hpart : part.label? with
    | some label => exact Or.inr ⟨[], part, label, parts, rfl, hpart, fun _ hmem => nomatch hmem⟩
    | none =>
      rcases ih with hnone | ⟨between, node, label, rest, rfl, hlabel, hbetween⟩
      · exact Or.inl (List.forall_mem_cons.mpr ⟨hpart, hnone⟩)
      · exact Or.inr ⟨part :: between, node, label, rest, rfl, hlabel,
          List.forall_mem_cons.mpr ⟨hpart, hbetween⟩⟩

/-- Read from the quote behind a label, the text up to the next label is like a label, unless a
line ends in it. -/
theorem label?_to_next {between : List Part} {node : Part} {label : Text}
    (hbetween : ∀ part ∈ between, part.label? = none) (hlabel : node.label? = some label)
    (rest : List Part) : ∃ gap,
      Quoted.label? ('"' :: (Row.labelStop ++ partsText (between ++ node :: rest))) =
        if '\n' ∈ partsText between then none
        else some (gap, Quoted.escape label ++ '"' :: (Row.labelStop ++ partsText rest)) := by
  obtain ⟨start, hnode, hquote, hslash, hlf⟩ := Part.exists_start hlabel
  obtain ⟨hquotes, hslashes⟩ := notMem_partsText hbetween
  have hgap : Quoted.escape (Row.labelStop ++ partsText between ++ start) =
      Row.labelStop ++ partsText between ++ start := by
    apply Quoted.escape_of_notMem
    · simp [Row.labelStop, hquotes, hquote]
    · simp [Row.labelStop, hslashes, hslash]
  have htext : Row.labelStop ++ partsText (between ++ node :: rest) =
      Quoted.escape (Row.labelStop ++ partsText between ++ start) ++
        '"' :: (Quoted.escape label ++ '"' :: (Row.labelStop ++ partsText rest)) := by
    rw [hgap, partsText, List.flatMap_append, List.flatMap_cons, hnode]
    simp [partsText]
  refine ⟨Quoted.escape (Row.labelStop ++ partsText between ++ start), ?_⟩
  rw [htext, Quoted.label?_escape]
  have hmem : (Row.labelStop ++ partsText between ++ start = [] ∨
      '\n' ∈ Row.labelStop ++ partsText between ++ start) ↔ '\n' ∈ partsText between := by
    simp [Row.labelStop, hlf]
  simp only [hmem]

theorem label?_of_nextLabel {parts rest : List Part} {label : Text}
    (h : NextLabel parts label rest) : ∃ gap,
      Quoted.label? ('"' :: (Row.labelStop ++ partsText parts)) =
        some (gap, Quoted.escape label ++ '"' :: (Row.labelStop ++ partsText rest)) := by
  obtain ⟨between, node, rfl, hlabel, hbetween⟩ := h
  obtain ⟨gap, hgap⟩ := label?_to_next (fun part hpart => (hbetween part hpart).1) hlabel rest
  have hlf : '\n' ∉ partsText between := by
    intro hmem
    obtain ⟨part, hpart, hmem⟩ := List.mem_flatMap.mp hmem
    exact (hbetween part hpart).2 hmem
  rw [if_neg hlf] at hgap
  exact ⟨gap, hgap⟩

theorem label?_of_no_nextLabel {parts : List Part}
    (h : ∀ label rest, ¬ NextLabel parts label rest) :
    Quoted.label? ('"' :: (Row.labelStop ++ partsText parts)) = none := by
  rcases exists_first_label parts with hnone | ⟨between, node, label, rest, rfl, hlabel, hbetween⟩
  · have hquote : '"' ∉ Row.labelStop ++ partsText parts := by
      simp [Row.labelStop, (notMem_partsText hnone).1]
    rw [Quoted.label?, Quoted.body?_of_notMem hquote]
  · obtain ⟨gap, hgap⟩ := label?_to_next hbetween hlabel rest
    rw [hgap, if_pos]
    by_contra hlf
    refine h label rest ⟨between, node, rfl, hlabel, fun part hpart => ⟨hbetween part hpart, ?_⟩⟩
    exact fun hmem => hlf (List.mem_flatMap.mpr ⟨part, hpart, hmem⟩)

/-! Arrows. -/

theorem escape_isArrow {label : Text} (h : IsArrow label) : Quoted.escape label = label := by
  obtain ⟨before, after, rfl⟩ := h
  apply Quoted.escape_of_notMem
  · have hbefore := before.notMem (d := '"') (by decide)
    have hafter := after.notMem (d := '"') (by decide)
    simp [hbefore, hafter]
  · have hbefore := before.notMem (d := '\\') (by decide)
    have hafter := after.notMem (d := '\\') (by decide)
    simp [hbefore, hafter]

/-- An arrow that is read from the inside of a label is all of the label, if a quote follows. -/
theorem isArrow_of_arrow? {label rest tail : Text}
    (h : arrow? (Quoted.escape label ++ '"' :: rest) = some ('"' :: tail)) :
    IsArrow label ∧ tail = rest := by
  obtain ⟨before, after, heq⟩ := eq_of_arrow? h
  have harrow : IsArrow (before.text ++ '-' :: '>' :: after.text) := ⟨before, after, rfl⟩
  have htext : Quoted.escape label ++ '"' :: rest =
      Quoted.escape (before.text ++ '-' :: '>' :: after.text) ++ '"' :: tail := by
    rw [heq, escape_isArrow harrow]
    simp
  obtain ⟨rfl, rfl⟩ := Quoted.escape_quote_inj htext
  exact ⟨harrow, rfl⟩

theorem quotedEdge?_behind_label_iff (parts : List Part) :
    quotedEdge? ('"' :: (Row.labelStop ++ partsText parts)) ≠ none ↔ ArrowNext parts := by
  constructor
  · intro hsome
    obtain ⟨⟨edge, last⟩, hedge⟩ := Option.ne_none_iff_exists'.mp hsome
    simp only [quotedEdge?, Option.bind_eq_bind, Option.bind_eq_some_iff] at hedge
    obtain ⟨⟨source, afterSource⟩, hsource, afterArrow, harrow, ⟨target, afterTarget⟩, htarget,
      _⟩ := hedge
    by_cases hnext : ∃ arrow rest, NextLabel parts arrow rest
    · obtain ⟨arrow, rest, hnext⟩ := hnext
      obtain ⟨gap, hgap⟩ := label?_of_nextLabel hnext
      rw [hgap] at hsource
      obtain ⟨_, rfl⟩ := Prod.mk.inj (Option.some.inj hsource)
      obtain ⟨tail, rfl⟩ : ∃ tail, afterArrow = '"' :: tail := by
        cases afterArrow with
        | nil => cases htarget
        | cons c tail =>
          by_cases hc : c = '"'
          · exact ⟨tail, by rw [hc]⟩
          · rw [Quoted.label?_cons_of_ne hc] at htarget
            cases htarget
      obtain ⟨hisArrow, rfl⟩ := isArrow_of_arrow? harrow
      by_cases hlast : ∃ label last, NextLabel rest label last
      · obtain ⟨label, last, hlast⟩ := hlast
        exact ⟨arrow, rest, label, last, hnext, hisArrow, hlast⟩
      · rw [label?_of_no_nextLabel fun label last h => hlast ⟨label, last, h⟩] at htarget
        cases htarget
    · rw [label?_of_no_nextLabel fun label rest h => hnext ⟨label, rest, h⟩] at hsource
      cases hsource
  · rintro ⟨arrow, rest, label, last, hnext, hisArrow, hlast⟩
    obtain ⟨gap, hgap⟩ := label?_of_nextLabel hnext
    obtain ⟨other, hother⟩ := label?_of_nextLabel hlast
    have harrow : arrow? (Quoted.escape arrow ++ '"' :: (Row.labelStop ++ partsText rest)) =
        some ('"' :: (Row.labelStop ++ partsText rest)) := by
      rw [escape_isArrow hisArrow]
      obtain ⟨before, after, rfl⟩ := hisArrow
      simpa using arrow?_between before after (Row.labelStop ++ partsText rest)
    simp [quotedEdge?, hgap, harrow, hother]

theorem findAll_quotedEdge_partsText (parts : List Part) :
    quotedEdge.findAll (partsText parts) = [] ↔ ¬ ArrowBetween parts := by
  induction parts with
  | nil =>
    refine iff_of_true (Pattern.findAll_nil quotedEdge) ?_
    rintro ⟨before, first, rest, heq, _⟩
    simp at heq
  | cons part parts ih =>
    have htext : partsText (part :: parts) = part.text ++ partsText parts := rfl
    rw [arrowBetween_cons, htext]
    cases hlabel : part.label? with
    | none =>
      have hskip := quotedEdge_skips (Part.notMem_text hlabel).1 (partsText parts)
      rw [hskip, List.nil_append, ih]
      simp
    | some label =>
      have hstop : quotedEdge.Yields Row.labelStop [] := quotedEdge_skips (by decide)
      have hnode : quotedEdge.findAll (part.text ++ partsText parts) =
          quotedEdge.findAll ('"' :: (Row.labelStop ++ partsText parts)) := by
        cases part with
        | blanks text isBlank => cases hlabel
        | row row =>
          cases row with
          | node indent id other => exact findAll_quotedEdge_node indent id other _
          | _ => cases hlabel
      have hedge := not_congr (quotedEdge?_behind_label_iff parts)
      rw [not_not] at hedge
      rw [hnode, Pattern.findAll_cons_eq_nil, hstop, List.nil_append, ih]
      simp only [Option.isSome_some, true_and, not_or]
      exact and_congr_left' hedge

/-- A document of labelled nodes is taken for one, whatever its labels hold and in whatever way it
is laid out, unless an arrow is the label between two others on one line. -/
theorem dialectOf_partsText (parts : List Part) :
    dialectOf (partsText parts) = .labeledNode ↔ ¬ ArrowBetween parts := by
  rw [← findAll_quotedEdge_partsText, dialectOf]
  by_cases h : quotedEdge.occursIn (partsText parts) = true
  · simp [h, (Pattern.occursIn_iff _ _).mp h]
  · have hnil := mt (Pattern.occursIn_iff _ _).mpr h
    simpa [h] using hnil

/-- Three declarations on one line, the second of which is labelled with an arrow. -/
def arrowLine : List Part :=
  [.row (.node noIndent n0 ['a']), .blanks [' '] (class_of_all (by decide)),
    .row (.node noIndent n1 ['-', '>']), .blanks [' '] (class_of_all (by decide)),
    .row (.node noIndent n2 ['b'])]
where
  n0 : Ident := ⟨['n', '0'], by decide, class_of_all (by decide)⟩
  n1 : Ident := ⟨['n', '1'], by decide, class_of_all (by decide)⟩
  n2 : Ident := ⟨['n', '2'], by decide, class_of_all (by decide)⟩

/-- The texts between the labels are taken for quoted ones. -/
theorem dialectOf_arrowLine :
    partsText arrowLine = "n0 [label=\"a\"]; n1 [label=\"->\"]; n2 [label=\"b\"];".toList ∧
      dialectOf (partsText arrowLine) = .quoted := by
  decide

end DepView.Graph
