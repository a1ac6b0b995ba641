import DepView.Proofs.DependencyLabels
import DepView.Proofs.LinewiseRelabelling
import Mathlib.Data.List.Basic

/-!
Relabelled text is settled. It is made of lines that are each ended by one line feed, and none of
them is blank, is a comment or begins with a numbered edge, whatever the labels hold besides line
feeds. There is nothing left to relabel in such a text, so relabelling it with any labels gives the
same text again.
-/

namespace DepView.Dependency

open Text

/-- Lines, each ended by one line feed, that are neither blank nor comments and begin with no
numbered edge. -/
def IsSettled (text : Text) : Prop :=
  ∃ body : List Text, text = body.flatMap (· ++ ['\n']) ∧
    ∀ line ∈ body, '\n' ∉ line ∧ ¬ BlankLine line ∧ ¬ CommentLine line ∧ ¬ EdgeLine line

theorem IsSettled.ending {text : Text} (h : IsSettled text) :
    text = [] ∨ ∃ start last, last ≠ '\n' ∧ text = start ++ [last, '\n'] := by
  obtain ⟨body, rfl, hbody⟩ := h
  rcases List.eq_nil_or_concat' body with rfl | ⟨before, line, rfl⟩
  · exact Or.inl rfl
  · obtain ⟨hlf, hblank, _, _⟩ := hbody line (List.mem_append_right _ (List.mem_singleton_self _))
    rcases List.eq_nil_or_concat' line with rfl | ⟨start, last, rfl⟩
    · exact absurd (List.forall_mem_nil _) hblank
    · refine Or.inr ⟨before.flatMap (· ++ ['\n']) ++ start, last, ?_, by simp⟩
      rintro rfl
      exact hlf (List.mem_append_right _ (List.mem_singleton_self _))

/-- There is nothing left to relabel. -/
theorem relabelWith_of_isSettled (labels : Labels) {text : Text} (h : IsSettled text)
    (hfold : foldCrlf text = text) : relabelWith labels text = text := by
  obtain ⟨body, rfl, hbody⟩ := h
  have hlines : lines (body.flatMap (· ++ ['\n'])) = body ++ [[]] := by
    have hlf : ∀ line ∈ body, '\n' ∉ line := fun line hline => (hbody line hline).1
    have hsplit := lines_flatMap_append body hlf (List.not_mem_nil (a := '\n'))
    rwa [List.append_nil] at hsplit
  have hsame : ∀ line ∈ body, lines (relabelLine labels line) = [line] := by
    intro line hline
    obtain ⟨hlf, _, _, hedge⟩ := hbody line hline
    rw [relabelLine_of_not_edgeLine labels hedge, lines_of_notMem hlf]
  have hkept : body.filter isKept = body := by
    rw [List.filter_eq_self]
    intro line hline
    obtain ⟨_, hblank, hcomment, _⟩ := hbody line hline
    exact isKept_iff.mpr ⟨hblank, hcomment⟩
  have hlast : (lines (relabelLine labels [])).filter isKept = [] := rfl
  simp only [relabelWith, hfold, hlines, List.flatMap_append, List.filter_append,
    List.flatMap_singleton, hlast, List.append_nil]
  rw [List.flatMap_congr hsame, List.flatMap_singleton', hkept]

/-! What relabelling leaves. -/

/-- No edge begins with a quote. -/
theorem not_edgeLine_indent_quote (indent : Graph.Indent) (rest : Text) :
    ¬ EdgeLine (indent.text ++ '"' :: rest) := by
  rw [← numberedEdge?_eq_none_iff]
  unfold numberedEdge?
  rw [Graph.dropWhile_indent indent (by decide), run?_cons_of_neg (by decide)]
  rfl

/-- A line does not begin with a numbered edge any more. -/
theorem not_edgeLine_relabelLine (labels : Labels) (line : Text) :
    ¬ EdgeLine (relabelLine labels line) := by
  by_cases hedge : EdgeLine line
  · obtain ⟨e, rest, rfl⟩ := hedge
    have h := not_edgeLine_indent_quote e.indent (Quoted.escape (labelFor labels e.source.text) ++
      '"' :: ' ' :: '-' :: '>' :: ' ' :: (quote (labelFor labels e.target.text) ++ ';' :: rest))
    rw [relabelLine_append]
    simpa [EdgeStart.labelled, quote] using h
  · rwa [relabelLine_of_not_edgeLine labels hedge]

/-- A line becomes one line, or goes. -/
theorem relabelWith_eq {labels : Labels} (h : OneLine labels) (text : Text) :
    relabelWith labels text =
      (((lines (foldCrlf text)).map (relabelLine labels)).filter isKept).flatMap
        (· ++ ['\n']) := by
  have hone : ∀ line ∈ lines (foldCrlf text),
      lines (relabelLine labels line) = [relabelLine labels line] :=
    fun line hline => lines_of_notMem (lf_notMem_relabelLine h (notMem_of_mem_splitAt hline))
  simp only [relabelWith]
  rw [List.flatMap_congr hone, ← List.map_eq_flatMap]

theorem isSettled_relabelWith {labels : Labels} (h : OneLine labels) (text : Text) :
    IsSettled (relabelWith labels text) := by
  refine ⟨_, relabelWith_eq h text, fun line hline => ?_⟩
  obtain ⟨hmem, hkept⟩ := List.mem_filter.mp hline
  obtain ⟨raw, hraw, rfl⟩ := List.mem_map.mp hmem
  obtain ⟨hblank, hcomment⟩ := isKept_iff.mp hkept
  exact ⟨lf_notMem_relabelLine h (notMem_of_mem_splitAt hraw), hblank, hcomment,
    not_edgeLine_relabelLine labels raw⟩

/-- A carriage return in a label is not at the end of a line. -/
theorem getLast?_relabelLine (labels : Labels) {line : Text} (h : '\r' ∉ line) :
    (relabelLine labels line).getLast? ≠ some '\r' := by
  by_cases hedge : EdgeLine line
  · obtain ⟨e, rest, rfl⟩ := hedge
    have hend : ∀ front : Text, (front ++ ';' :: rest).getLast? = (';' :: rest).getLast? :=
      fun front => by simp [List.getLast?_append, List.getLast?_cons]
    have htext : e.labelled labels ++ rest =
        e.indent.text ++ quote (labelFor labels e.source.text) ++ [' ', '-', '>', ' '] ++
          quote (labelFor labels e.target.text) ++ ';' :: rest := by
      simp [EdgeStart.labelled]
    rw [relabelLine_append, htext, hend]
    intro hlast
    have hmem := List.mem_of_getLast? hlast
    simp only [List.mem_cons, Char.reduceEq, false_or] at hmem
    exact h (List.mem_append_right _ hmem)
  · rw [relabelLine_of_not_edgeLine labels hedge]
    exact fun hlast => h (List.mem_of_getLast? hlast)

theorem foldCrlf_endedLines {body : List Text}
    (h : ∀ line ∈ body, '\n' ∉ line ∧ line.getLast? ≠ some '\r') :
    foldCrlf (body.flatMap (· ++ ['\n'])) = body.flatMap (· ++ ['\n']) := by
  induction body with
  | nil => rfl
  | cons line body ih =>
    obtain ⟨hlf, hlast⟩ := h line List.mem_cons_self
    have hbody := ih fun other hother => h other (List.mem_cons_of_mem line hother)
    rw [List.flatMap_cons, List.append_assoc, List.singleton_append,
      foldCrlf_append fun hreturn => absurd hreturn hlast,
      foldCrlf_cons fun heq => absurd heq (by decide), hbody, foldCrlf_of_lf_notMem hlf]

/-- No line ending in relabelled text can be folded. -/
theorem foldCrlf_relabelWith {labels : Labels} (h : OneLine labels) {text : Text}
    (hcr : '\r' ∉ text) : foldCrlf (relabelWith labels text) = relabelWith labels text := by
  rw [relabelWith_eq h, foldCrlf_of_cr_notMem hcr]
  apply foldCrlf_endedLines
  intro line hline
  obtain ⟨raw, hraw, rfl⟩ := List.mem_map.mp (List.mem_of_mem_filter hline)
  have hreturn : '\r' ∉ raw := fun hmem => hcr ((infix_of_mem_splitAt hraw).subset hmem)
  exact ⟨lf_notMem_relabelLine h (notMem_of_mem_splitAt hraw), getLast?_relabelLine labels hreturn⟩

theorem lf_notMem_of_idComment? {text id path rest : Text}
    (h : idComment? text = some ((id, path), rest)) : '\n' ∉ path := by
  simp only [idComment?, Option.bind_eq_bind, Option.bind_eq_some_iff] at h
  obtain ⟨_, _, _, _, _, _, heq⟩ := h
  simp only [Option.pure_def, Option.some.injEq, Prod.mk.injEq] at heq
  obtain ⟨⟨_, rfl⟩, _⟩ := heq
  intro hmem
  have hclass := List.all_eq_true.mp List.all_takeWhile '\n' hmem
  simp at hclass

/-- The labels of a text's own comments are of one line each. -/
theorem oneLine_labelsOf (text : Text) : OneLine (labelsOf text) := by
  intro id label hlabel
  obtain ⟨path, hfound, rfl⟩ := exists_of_find?_labelsOf hlabel
  have hpaths : ∀ found ∈ idComment.findAll text, '\n' ∉ found.2 :=
    Pattern.forall_mem_findAll (fun _ _ _ hmatch => lf_notMem_of_idComment? hmatch) text
  exact fun hmem => hpaths _ hfound (basename_subset path hmem)

/-- Relabels a text with given labels, or else with those of its own comments. -/
def relabelBy : Option Labels → Text → Text
  | some labels, text => relabelWith labels text
  | none, text => relabel text

theorem exists_relabelBy {given : Option Labels} (h : ∀ labels ∈ given, OneLine labels)
    (text : Text) : ∃ labels, OneLine labels ∧ relabelBy given text = relabelWith labels text := by
  cases given with
  | none => exact ⟨labelsOf (foldCrlf text), oneLine_labelsOf _, rfl⟩
  | some labels => exact ⟨labels, h labels rfl, rfl⟩

/-- Relabelled text is empty or ends with just one line feed, no line of it is blank, a comment or
begins with a numbered edge, and relabelling it once more changes nothing, whatever the labels. -/
theorem relabelBy_settles {given : Option Labels} (hgiven : ∀ labels ∈ given, OneLine labels)
    {text : Text} (hcr : '\r' ∉ text) :
    (relabelBy given text = [] ∨
      ∃ start last, last ≠ '\n' ∧ relabelBy given text = start ++ [last, '\n']) ∧
    IsSettled (relabelBy given text) ∧
    ∀ other, relabelBy other (relabelBy given text) = relabelBy given text := by
  obtain ⟨labels, hlabels, htext⟩ := exists_relabelBy hgiven text
  have hsettled : IsSettled (relabelBy given text) := htext ▸ isSettled_relabelWith hlabels text
  have hfold : foldCrlf (relabelBy given text) = relabelBy given text :=
    htext ▸ foldCrlf_relabelWith hlabels hcr
  refine ⟨hsettled.ending, hsettled, fun other => ?_⟩
  cases other with
  | none => exact relabelWith_of_isSettled _ hsettled hfold
  | some labels => exact relabelWith_of_isSettled labels hsettled hfold

/-- A label that is nothing but a carriage return. -/
def returnLabels : Labels :=
  [(['0'], ['\r'])]

theorem relabelBy_settles_return :
    (∀ labels ∈ some returnLabels, OneLine labels) ∧ '\r' ∉ "0 -> 1;\n\n // 1:/a\n;".toList ∧
      relabelBy (some returnLabels) "0 -> 1;\n\n // 1:/a\n;".toList =
        "\"\r\" -> \"1\";\n;\n".toList ∧
      relabelBy none "\"\r\" -> \"1\";\n;\n".toList = "\"\r\" -> \"1\";\n;\n".toList := by
  have hlabels : ∀ labels ∈ some returnLabels, OneLine labels := by
    rintro labels ⟨rfl⟩ id label h
    obtain ⟨_, rfl⟩ : ['0'] = id ∧ ['\r'] = label := by
      simpa [returnLabels, Table.find?] using h
    decide
  have hcr : '\r' ∉ "0 -> 1;\n\n // 1:/a\n;".toList := by decide
  have htext : relabelBy (some returnLabels) "0 -> 1;\n\n // 1:/a\n;".toList =
      "\"\r\" -> \"1\";\n;\n".toList := by decide
  refine ⟨hlabels, hcr, htext, ?_⟩
  rw [← htext]
  exact (relabelBy_settles hlabels hcr).2.2 none

end DepView.Dependency
