import DepView.Proofs.LineKinds

/-!
Relabelling works line by line and touches nothing else. Edges can as well be replaced in one pass
over the whole text, because no edge goes on behind the end of its line and only one can begin a
line. A text in front of a line feed and the text behind it are relabelled apart, and of a line
either nothing is left, or its edge is between labels, or it stays as it is.
-/

namespace DepView.Dependency

open Text

/-- The edge between labels. -/
def EdgeStart.labelled (labels : Labels) (e : EdgeStart) : Text :=
  e.indent.text ++ quote (labelFor labels e.source.text) ++ [' ', '-', '>', ' '] ++
    quote (labelFor labels e.target.text) ++ [';']

theorem relabelLine_append (labels : Labels) (e : EdgeStart) (rest : Text) :
    relabelLine labels (e.text ++ rest) = e.labelled labels ++ rest := by
  unfold relabelLine
  rw [numberedEdge?_append]
  simp [EdgeStart.edge, EdgeStart.labelled]

theorem relabelLine_of_not_edgeLine (labels : Labels) {line : Text} (h : ¬ EdgeLine line) :
    relabelLine labels line = line := by
  unfold relabelLine
  rw [numberedEdge?_eq_none_iff.mpr h]

/-! One pass over a text. -/

theorem numberedEdge?_lt {text rest : Text} {edge : NumberedEdge}
    (h : numberedEdge? text = some (edge, rest)) : rest.length < text.length := by
  obtain ⟨e, _, rfl⟩ := exists_of_numberedEdge? h
  simp [EdgeStart.text]
  omega

/-- The text with all numbered edges at line starts between labels. The flag tells whether the text
begins where a line does. -/
def relabelEdges (labels : Labels) (atStart : Bool) (text : Text) : Text :=
  match text with
  | [] => []
  | c :: tail =>
    match _h : if atStart then numberedEdge? (c :: tail) else none with
    | some (edge, rest) =>
      edge.indent ++ quote (labelFor labels edge.source) ++ [' ', '-', '>', ' '] ++
        quote (labelFor labels edge.target) ++ ';' :: relabelEdges labels false rest
    | none => c :: relabelEdges labels (c == '\n') tail
termination_by text.length
decreasing_by
  · split at _h
    · exact numberedEdge?_lt _h
    · cases _h
  · simp

theorem relabelEdges_nil (labels : Labels) (atStart : Bool) :
    relabelEdges labels atStart [] = [] := by
  rw [relabelEdges]

theorem relabelEdges_append (labels : Labels) (e : EdgeStart) (rest : Text) :
    relabelEdges labels true (e.text ++ rest) =
      e.labelled labels ++ relabelEdges labels false rest := by
  have hedge := numberedEdge?_append e rest
  cases htext : e.text ++ rest with
  | nil => simp [EdgeStart.text] at htext
  | cons c tail =>
    rw [htext] at hedge
    rw [relabelEdges]
    split
    · rename_i edge rest' hfound
      rw [if_pos rfl, hedge] at hfound
      obtain ⟨rfl, rfl⟩ := Prod.mk.inj (Option.some.inj hfound)
      simp [EdgeStart.edge, EdgeStart.labelled]
    · rename_i hnone
      rw [if_pos rfl, hedge] at hnone
      cases hnone

theorem relabelEdges_cons (labels : Labels) (atStart : Bool) {c : Char} {tail : Text}
    (h : atStart = true → ¬ EdgeLine (c :: tail)) :
    relabelEdges labels atStart (c :: tail) = c :: relabelEdges labels (c == '\n') tail := by
  rw [relabelEdges]
  split
  · rename_i hfound
    split at hfound
    · rw [numberedEdge?_eq_none_iff.mpr (h ‹_›)] at hfound
      cases hfound
    · cases hfound
  · rfl

theorem not_edgeLine_lf (rest : Text) : ¬ EdgeLine ('\n' :: rest) := by
  rw [← numberedEdge?_eq_none_iff]
  have hindent : isIndent '\n' = false := by decide
  simp [numberedEdge?, hindent, run?_cons_of_neg (p := isDecimal) (c := '\n') (by decide)]

/-- Where an edge is in front of a line feed or of the end of the text, all of it is. -/
theorem edgeLine_append {line tail : Text} (hline : '\n' ∉ line)
    (htail : ∀ c ∈ tail.head?, c = '\n') : EdgeLine (line ++ tail) ↔ EdgeLine line := by
  constructor
  · rintro ⟨e, rest, heq⟩
    rcases List.append_eq_append_iff.mp heq with ⟨more, hedge, hmore⟩ | ⟨more, rfl, _⟩
    · cases more with
      | nil => exact ⟨e, [], by simpa using hedge.symm⟩
      | cons c more =>
        have hc : c = '\n' := htail c (by rw [hmore]; rfl)
        have hmem : c ∈ e.text := hedge ▸ List.mem_append_right line List.mem_cons_self
        exact absurd (hc ▸ hmem) e.lf_notMem
    · exact ⟨e, more, rfl⟩
  · rintro ⟨e, rest, rfl⟩
    exact ⟨e, rest ++ tail, List.append_assoc ..⟩

/-- No edge begins within a line. -/
theorem relabelEdges_within (labels : Labels) {line : Text} (hline : '\n' ∉ line) (tail : Text) :
    relabelEdges labels false (line ++ tail) = line ++ relabelEdges labels false tail := by
  induction line with
  | nil => rfl
  | cons c line ih =>
    rw [List.mem_cons, not_or] at hline
    have hc : (c == '\n') = false := by simpa using Ne.symm hline.1
    rw [List.cons_append, relabelEdges_cons labels false (by simp), hc, ih hline.2,
      List.cons_append]

/-- What is done to a line in the pass over the text is what is done to it alone. -/
theorem relabelEdges_line (labels : Labels) {line tail : Text} (hline : '\n' ∉ line)
    (htail : ∀ c ∈ tail.head?, c = '\n') : relabelEdges labels true (line ++ tail) =
      relabelLine labels line ++ relabelEdges labels false tail := by
  by_cases hedge : EdgeLine line
  · obtain ⟨e, rest, rfl⟩ := hedge
    have hrest : '\n' ∉ rest := fun hmem => hline (List.mem_append_right _ hmem)
    rw [relabelLine_append, List.append_assoc, relabelEdges_append,
      relabelEdges_within labels hrest, List.append_assoc]
  · rw [relabelLine_of_not_edgeLine labels hedge]
    cases line with
    | nil =>
      cases tail with
      | nil => rw [List.nil_append, List.nil_append, relabelEdges_nil, relabelEdges_nil]
      | cons c tail =>
        obtain rfl : c = '\n' := htail c rfl
        rw [List.nil_append, List.nil_append,
          relabelEdges_cons labels true (fun _ => not_edgeLine_lf tail),
          relabelEdges_cons labels false (by simp)]
    | cons c line =>
      rw [List.mem_cons, not_or] at hline
      have hc : (c == '\n') = false := by simpa using Ne.symm hline.1
      have hnone : ¬ EdgeLine (c :: (line ++ tail)) := by
        rwa [← List.cons_append, edgeLine_append (by simp [hline]) htail]
      rw [List.cons_append, relabelEdges_cons labels true (fun _ => hnone), hc,
        relabelEdges_within labels hline.2, List.cons_append]

/-- After one pass over a text its lines are those that the lines of the text become. -/
theorem lines_relabelEdges (labels : Labels) (text : Text) :
    lines (relabelEdges labels true text) =
      (lines text).flatMap fun line => lines (relabelLine labels line) := by
  induction text using lines_induction with
  | last line hline =>
    have hnone : ∀ c ∈ ([] : Text).head?, c = '\n' := fun c hc => nomatch hc
    have hpass := relabelEdges_line labels hline hnone
    rw [List.append_nil, relabelEdges_nil, List.append_nil] at hpass
    rw [hpass, lines_of_notMem hline, List.flatMap_singleton]
  | ended line rest hline ih =>
    have hhead : ∀ c ∈ ('\n' :: rest).head?, c = '\n' := fun c hc => (Option.some.inj hc).symm
    rw [relabelEdges_line labels hline hhead, relabelEdges_cons labels false (by simp),
      beq_self_eq_true, lines_append, lines_append, List.flatMap_append, ih,
      lines_of_notMem hline, List.flatMap_singleton]

/-- The text with its edges replaced in one pass, and then without the lines that go. -/
def relabelAtOnce (labels : Labels) (text : Text) : Text :=
  match (lines (relabelEdges labels true (foldCrlf text))).filter isKept with
  | [] => []
  | kept => join ['\n'] kept ++ ['\n']

theorem join_lf {texts : List Text} (h : texts ≠ []) :
    join ['\n'] texts ++ ['\n'] = texts.flatMap (· ++ ['\n']) := by
  unfold join
  induction texts with
  | nil => exact absurd rfl h
  | cons text texts ih =>
    cases texts with
    | nil => simp [List.intercalate]
    | cons next texts =>
      rw [List.flatMap_cons, ← ih (List.cons_ne_nil next texts)]
      simp [List.intercalate]

theorem relabelAtOnce_eq (labels : Labels) (text : Text) :
    relabelAtOnce labels text = relabelWith labels text := by
  unfold relabelAtOnce relabelWith
  rw [lines_relabelEdges]
  dsimp only
  split
  · rename_i hnone
    rw [hnone, List.flatMap_nil]
  · rename_i hsome
    exact join_lf hsome

/-! Lines and parts of a text. -/

/-- The two sides of a line feed are relabelled apart, unless it belongs to a carriage return. -/
theorem relabelWith_append (labels : Labels) {a : Text} (h : a.getLast? ≠ some '\r') (b : Text) :
    relabelWith labels (a ++ '\n' :: b) = relabelWith labels a ++ relabelWith labels b := by
  have hfold : foldCrlf (a ++ '\n' :: b) = foldCrlf a ++ '\n' :: foldCrlf b := by
    rw [foldCrlf_append fun hlast => absurd hlast h,
      foldCrlf_cons fun heq => absurd heq (by decide)]
  simp only [relabelWith, hfold, lines_append, List.flatMap_append, List.filter_append]

/-- No label holds a line feed. -/
def OneLine (labels : Labels) : Prop :=
  ∀ id label, labels.find? id = some label → '\n' ∉ label

theorem lf_notMem_labelFor {labels : Labels} (h : OneLine labels) (number : Number) :
    '\n' ∉ labelFor labels number.text := by
  unfold labelFor
  split
  · exact h number.text _ ‹_›
  · exact number.notMem (by decide)

theorem lf_notMem_quote {label : Text} (h : '\n' ∉ label) : '\n' ∉ quote label := by
  have hescape : '\n' ∉ Quoted.escape label := by
    intro hmem
    rcases Quoted.mem_escape hmem with hlabel | hslash
    · exact h hlabel
    · exact absurd hslash (by decide)
  simp [quote, hescape]

/-- A line stays a line. -/
theorem lf_notMem_relabelLine {labels : Labels} (h : OneLine labels) {line : Text}
    (hline : '\n' ∉ line) : '\n' ∉ relabelLine labels line := by
  by_cases hedge : EdgeLine line
  · obtain ⟨e, rest, rfl⟩ := hedge
    have hindent := e.indent.notMem (d := '\n') (by decide)
    have hsource := lf_notMem_quote (lf_notMem_labelFor h e.source)
    have htarget := lf_notMem_quote (lf_notMem_labelFor h e.target)
    have hrest : '\n' ∉ rest := fun hmem => hline (List.mem_append_right _ hmem)
    rw [relabelLine_append]
    simp [EdgeStart.labelled, hindent, hsource, htarget, hrest]
  · rwa [relabelLine_of_not_edgeLine labels hedge]

theorem isKept_labelled (labels : Labels) (e : EdgeStart) (rest : Text) :
    isKept (e.labelled labels ++ rest) = true := by
  have h := isKept_indent_quote e.indent (Quoted.escape (labelFor labels e.source.text) ++
    '"' :: ' ' :: '-' :: '>' :: ' ' :: (quote (labelFor labels e.target.text) ++ ';' :: rest))
  simpa [EdgeStart.labelled, quote] using h

theorem relabelWith_line {labels : Labels} (h : OneLine labels) {line : Text}
    (hline : '\n' ∉ line) : relabelWith labels line =
      if isKept (relabelLine labels line) then relabelLine labels line ++ ['\n'] else [] := by
  unfold relabelWith
  rw [foldCrlf_of_lf_notMem hline, lines_of_notMem hline, List.flatMap_singleton,
    lines_of_notMem (lf_notMem_relabelLine h hline)]
  split <;> simp [*]

/-- Relabelling replaces the edges of a text in one pass and drops lines. What it makes of a text
with a line feed in it is what it makes of the text before and of the text behind. Of a single line
nothing is left if it is blank or a comment, a numbered edge at its start is put between labels, and
any other line stays as it is. -/
theorem relabelWith_linewise (labels : Labels) :
    (∀ text, relabelWith labels text = relabelAtOnce labels text) ∧
    (∀ a b : Text, a.getLast? ≠ some '\r' →
      relabelWith labels (a ++ '\n' :: b) = relabelWith labels a ++ relabelWith labels b) ∧
    (OneLine labels → ∀ line, '\n' ∉ line →
      (BlankLine line ∨ CommentLine line → relabelWith labels line = []) ∧
      (∀ (e : EdgeStart) rest, line = e.text ++ rest → relabelWith labels line =
        e.indent.text ++ quote (labelFor labels e.source.text) ++ " -> ".toList ++
          quote (labelFor labels e.target.text) ++ ';' :: rest ++ ['\n']) ∧
      (¬ BlankLine line → ¬ CommentLine line → ¬ EdgeLine line →
        relabelWith labels line = line ++ ['\n'])) := by
  refine ⟨fun text => (relabelAtOnce_eq labels text).symm,
    fun a b h => relabelWith_append labels h b, fun hlabels line hline => ⟨?_, ?_, ?_⟩⟩
  · intro hgone
    have hkept : ¬ isKept line = true := by
      rw [isKept_iff]
      exact fun hstays => hgone.elim hstays.1 hstays.2
    have hedge : ¬ EdgeLine line := by
      rintro ⟨e, rest, rfl⟩
      exact hkept (isKept_edge e rest)
    rw [relabelWith_line hlabels hline, relabelLine_of_not_edgeLine labels hedge, if_neg hkept]
  · rintro e rest rfl
    rw [relabelWith_line hlabels hline, relabelLine_append, isKept_labelled]
    simp [EdgeStart.labelled]
  · intro hblank hcomment hedge
    rw [relabelWith_line hlabels hline, relabelLine_of_not_edgeLine labels hedge,
      if_pos (isKept_iff.mpr ⟨hblank, hcomment⟩)]

/-- A label with a quote in it. -/
def quoteLabels : Labels :=
  [(['1'], ['a', '"', 'b'])]

theorem oneLine_quoteLabels : OneLine quoteLabels := by
  intro id label h
  obtain ⟨_, rfl⟩ : ['1'] = id ∧ ['a', '"', 'b'] = label := by
    simpa [quoteLabels, Table.find?] using h
  decide

/-- An edge with tabs before it and around its arrow. -/
def tabbedEdge : EdgeStart where
  indent := ⟨['\t', '\t'], class_of_all (by decide)⟩
  source := ⟨['1'], List.cons_ne_nil _ _, class_of_all (by decide)⟩
  before := ⟨⟨[' ', '\t'], class_of_all (by decide)⟩, List.cons_ne_nil _ _⟩
  after := ⟨⟨[' ', ' ', '\t'], class_of_all (by decide)⟩, List.cons_ne_nil _ _⟩
  target := ⟨['2'], List.cons_ne_nil _ _, class_of_all (by decide)⟩

theorem relabelWith_linewise_tabbed :
    OneLine quoteLabels ∧ CommentLine " // 1:/x".toList ∧
      tabbedEdge.text ++ " // x".toList = "\t\t1 \t->  \t2; // x".toList ∧
      relabelWith quoteLabels " // 1:/x\n\t\t1 \t->  \t2; // x".toList =
        "\t\t\"a\\\"b\" -> \"2\"; // x\n".toList := by
  have hcomment : CommentLine " // 1:/x".toList :=
    ⟨[' '], " 1:/x".toList, class_of_all (by decide), rfl⟩
  have hedge : tabbedEdge.text ++ " // x".toList = "\t\t1 \t->  \t2; // x".toList := by decide
  obtain ⟨_, happend, hline⟩ := relabelWith_linewise quoteLabels
  have hgone := (hline oneLine_quoteLabels " // 1:/x".toList (by decide)).1 (Or.inr hcomment)
  have hkept := (hline oneLine_quoteLabels "\t\t1 \t->  \t2; // x".toList (by decide)).2.1
    tabbedEdge " // x".toList hedge.symm
  refine ⟨oneLine_quoteLabels, hcomment, hedge, ?_⟩
  have happended := happend " // 1:/x".toList "\t\t1 \t->  \t2; // x".toList (by decide)
  rw [hgone, hkept] at happended
  exact happended.trans (by decide)

end DepView.Dependency
