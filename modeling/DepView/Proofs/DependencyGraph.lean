import DepView.Proofs.DependencyLabels
import DepView.Proofs.LineKinds
import Mathlib.Data.List.Basic

/-!
Relabelling a document and reading the result. Blank lines and comments go, what opens
or closes the graph stays, and each numbered edge becomes one quoted edge between
labels, whatever the paths hold. So the graph has one edge for each edge line.
-/

namespace DepView.Dependency

open Text DepView.Graph

/-! Numbered edges are recognised on edge lines and on no others. -/

/-- The blank before and behind the arrow of an edge. -/
def blankGap : Gap :=
  ⟨⟨[' '], class_of_all (by decide)⟩, List.cons_ne_nil ' ' []⟩

theorem numberedEdge?_edge (indent : Indent) (source target : Number) :
    numberedEdge? (Line.edge indent source target).text =
      some (⟨indent.text, source.text, target.text⟩, []) := by
  have hedge := numberedEdge?_append ⟨indent, source, blankGap, blankGap, target⟩ []
  simpa [EdgeStart.text, EdgeStart.edge, blankGap, Line.text] using hedge

/-- There is no edge without an arrow. -/
theorem numberedEdge?_of_notMem {line : Text} (h : '-' ∉ line) : numberedEdge? line = none := by
  rw [numberedEdge?_eq_none_iff]
  rintro ⟨e, rest, rfl⟩
  simp [EdgeStart.text] at h

theorem numberedEdge?_comment (id : Number) (path : LinePath) :
    numberedEdge? (Line.comment id path).text = none := by
  have hindent : isIndent '/' = false := by decide
  have hrun : ∀ rest, run? isDecimal ('/' :: rest) = none := run?_cons_of_neg (by decide)
  simp [numberedEdge?, Line.text, hindent, hrun]

/-! What becomes of a line. -/

/-- A label of a document, as it can stand between quotes. -/
def Document.labelled (d : Document) (id : Number) : Label :=
  ⟨d.label id.text, (label_number d id).1, (label_number d id).2.1⟩

def space : Indent :=
  ⟨[' '], class_of_all (by decide)⟩

/-- An edge line after relabelling. -/
def Document.relabelled (d : Document) (indent : Indent) (source target : Number) : List Piece :=
  [.plain indent.text (indent.notMem (by decide)),
    .edge (d.labelled source) space space (d.labelled target),
    .plain [';'] (by decide)]

/-- The line that is left of a line after relabelling, if it stays. -/
def Document.kept (d : Document) : Line → List (List Piece)
  | .blank _ => []
  | .frame f => [[.plain f.text (f.notMem isWord_quote (by decide))]]
  | .comment _ _ => []
  | .edge indent source target => [d.relabelled indent source target]

theorem lineEnds_notMem_quoted (d : Document) (id : Number) :
    '\n' ∉ Piece.quoted (d.label id.text) ∧ '\r' ∉ Piece.quoted (d.label id.text) := by
  obtain ⟨_, hlf, hcr⟩ := label_number d id
  have hescape : ∀ c, c ∉ d.label id.text → c ≠ '\\' →
      c ∉ Quoted.escape (d.label id.text) := by
    intro c hc hslash hmem
    rcases Quoted.mem_escape hmem with h | h
    · exact hc h
    · exact hslash h
  constructor
  · simp [Piece.quoted, hescape '\n' hlf (by decide)]
  · simp [Piece.quoted, hescape '\r' hcr (by decide)]

/-- The lines that stay have no line endings in them. -/
theorem lineEnds_notMem_kept (d : Document) (line : Line) :
    ∀ pieces ∈ d.kept line, '\n' ∉ lineText pieces ∧ '\r' ∉ lineText pieces := by
  intro pieces hpieces
  cases line with
  | blank blanks => cases hpieces
  | frame f =>
    rw [List.mem_singleton.mp hpieces]
    have hlf := f.notMem isWord_lineFeed (by decide)
    have hcr := f.notMem isWord_return (by decide)
    simp [lineText, Piece.text, hlf, hcr]
  | comment id path => cases hpieces
  | edge indent source target =>
    rw [List.mem_singleton.mp hpieces]
    obtain ⟨hsourceLf, hsourceCr⟩ := lineEnds_notMem_quoted d source
    obtain ⟨htargetLf, htargetCr⟩ := lineEnds_notMem_quoted d target
    have hlf := indent.notMem (d := '\n') (by decide)
    have hcr := indent.notMem (d := '\r') (by decide)
    constructor
    · simp [Document.relabelled, lineText, Piece.text, Document.labelled, space, hlf, hsourceLf,
        htargetLf]
    · simp [Document.relabelled, lineText, Piece.text, Document.labelled, space, hcr, hsourceCr,
        htargetCr]

theorem isKept_frame (f : Frame) : isKept f.text = true := by
  have hbrace : isBlank f.brace = false := f.isStop.2
  apply isKept_of (c := f.brace) (by simp [Frame.text]) hbrace
  intro hhead
  have hmem : '/' ∈ f.text :=
    (List.dropWhile_suffix isBlank).subset (List.mem_of_mem_head? hhead)
  exact f.notMem isWord_slash (by decide) hmem

theorem isKept_relabelled (d : Document) (indent : Indent) (source target : Number) :
    isKept (lineText (d.relabelled indent source target)) = true := by
  obtain ⟨rest, htext⟩ : ∃ rest, lineText (d.relabelled indent source target) =
      indent.text ++ '"' :: rest := by
    simp [Document.relabelled, lineText, Piece.text, Piece.quoted]
  rw [htext]
  exact isKept_indent_quote indent rest

theorem relabelLine_edge (d : Document) (indent : Indent) (source target : Number) :
    relabelLine (labelsOf (foldCrlf d.text)) (Line.edge indent source target).text =
      lineText (d.relabelled indent source target) := by
  unfold relabelLine
  rw [numberedEdge?_edge]
  simp [labelFor_labelsOf, Document.relabelled, lineText, Piece.text, Piece.quoted, quote,
    Document.labelled, space]

/-- A line goes, or it is kept as one line. -/
theorem filter_isKept_line (d : Document) (line : Line) :
    (Text.lines (relabelLine (labelsOf (foldCrlf d.text)) line.text)).filter isKept =
      (d.kept line).map lineText := by
  have hsame : numberedEdge? line.text = none →
      Text.lines (relabelLine (labelsOf (foldCrlf d.text)) line.text) = [line.text] := by
    intro hnone
    unfold relabelLine
    rw [hnone]
    exact splitAt_of_notMem line.lf_notMem
  cases line with
  | blank blanks =>
    have hnone := numberedEdge?_of_notMem (blanks.notMem (d := '-') (by decide))
    have hgone : isKept blanks.text = false := by
      simp only [isKept, List.all_eq_true.mpr blanks.isBlank, Bool.not_true, Bool.false_and]
    rw [hsame hnone]
    simp [Line.text, hgone, Document.kept]
  | frame f =>
    have hnone := numberedEdge?_of_notMem (f.notMem isWord_dash (by decide))
    rw [hsame hnone]
    simp [Line.text, isKept_frame, Document.kept, lineText, Piece.text]
  | comment id path =>
    have hslash : isBlank '/' = false := by decide
    have hgone : isKept (Line.comment id path).text = false := by
      simp [isKept, isComment, Line.text, hslash, after?]
    rw [hsame (numberedEdge?_comment id path)]
    simp [hgone, Document.kept]
  | edge indent source target =>
    have hlf := (lineEnds_notMem_kept d (.edge indent source target) _
      (List.mem_singleton_self _)).1
    rw [relabelLine_edge, Text.lines, splitAt_of_notMem hlf]
    simp [isKept_relabelled, Document.kept]

/-! The whole document. -/

theorem lines_linesText (body : List Line) (last : Line) :
    Text.lines (linesText body last) = (body ++ [last]).map Line.text := by
  have hbody : body.flatMap (fun line => line.text ++ ['\n']) =
      (body.map Line.text).flatMap (· ++ ['\n']) := by
    rw [List.flatMap_map]
  have hlf : ∀ text ∈ body.map Line.text, '\n' ∉ text := by
    intro text htext
    obtain ⟨line, _, rfl⟩ := List.mem_map.mp htext
    exact line.lf_notMem
  unfold linesText
  rw [hbody, lines_flatMap_append _ hlf last.lf_notMem, List.map_append]
  rfl

/-- Relabelling keeps what is left of the lines of a document, and these join the same
numbers as before. -/
theorem exists_relabel_text (d : Document) :
    ∃ lines : List Line, relabel d.text = piecesText (lines.flatMap d.kept) ∧
      lines.flatMap Line.joined = d.lines.flatMap Line.joined := by
  obtain ⟨body, htext, _, hjoined⟩ := exists_foldCrlf_text d
  refine ⟨body ++ [d.last], ?_, hjoined⟩
  unfold relabel relabelWith piecesText
  have hlines := congrArg Text.lines htext
  rw [lines_linesText] at hlines
  simp only [hlines, List.flatMap_map, List.filter_flatMap, filter_isKept_line, List.map_flatMap]

theorem drawnEdges_kept (d : Document) (lines : List Line) :
    drawnEdges (lines.flatMap d.kept) =
      (lines.flatMap Line.joined).map fun (source, target) =>
        ⟨d.label source.text, d.label target.text⟩ := by
  unfold drawnEdges
  rw [List.flatMap_assoc, List.map_flatMap]
  congr 1
  funext line
  cases line <;> rfl

/-- The line of a frame, or nothing. -/
def Line.frames : Line → List Row
  | .frame f => [.frame f]
  | _ => []

/-- Without edges nothing stays but frames. -/
theorem piecesText_kept_of_joined (d : Document) (lines : List Line)
    (h : lines.flatMap Line.joined = []) :
    piecesText (lines.flatMap d.kept) = rowsText (lines.flatMap Line.frames) := by
  unfold piecesText rowsText
  rw [List.flatMap_map, List.flatMap_assoc, List.flatMap_assoc]
  rw [List.flatMap_eq_nil_iff] at h
  apply List.flatMap_congr
  intro line hline
  have hjoined := h line hline
  cases line with
  | edge indent source target => cases hjoined
  | _ => simp [Document.kept, Line.frames, lineText, Piece.text, Row.text]

theorem ofRows_frames (lines : List Line) :
    ofRows ((lines.flatMap Line.frames).map Row.folded) = empty := by
  have hempty : ∀ line : Line, (line.frames.map Row.folded).flatMap Row.drawn = [] ∧
      (line.frames.map Row.folded).flatMap Row.declared = [] := by
    intro line
    cases line <;> exact ⟨rfl, rfl⟩
  unfold ofRows
  rw [List.map_flatMap, List.flatMap_assoc, List.flatMap_assoc,
    List.flatMap_eq_nil_iff.mpr (fun line _ => (hempty line).1),
    List.flatMap_eq_nil_iff.mpr (fun line _ => (hempty line).2)]
  rfl

/-- The graph of a relabelled document has the edges of its edge lines between labels, and
the labels as nodes in the order in which the edges mention them. It is empty if and only
if there is no edge line. -/
theorem ofText_relabel (d : Document) :
    ofText (relabel d.text) = ⟨selfLabelled (mentions d.edges), d.edges⟩ ∧
      (ofText (relabel d.text)).isEmpty = (d.lines.flatMap Line.joined).isEmpty := by
  obtain ⟨lines, htext, hjoined⟩ := exists_relabel_text d
  have hdrawn : drawnEdges (lines.flatMap d.kept) = d.edges := by
    rw [drawnEdges_kept, hjoined]
    rfl
  have hgraph : ofText (relabel d.text) = ⟨selfLabelled (mentions d.edges), d.edges⟩ := by
    by_cases hnone : d.lines.flatMap Line.joined = []
    · have hedges : d.edges = [] := by
        unfold Document.edges
        rw [hnone, List.map_nil]
      unfold ofText
      rw [htext, piecesText_kept_of_joined d lines (hjoined.trans hnone), read_rowsText,
        ofRows_frames, hedges]
      rfl
    · have hne : drawnEdges (lines.flatMap d.kept) ≠ [] := by
        rw [hdrawn]
        intro hnil
        exact hnone (List.map_eq_nil_iff.mp hnil)
      have hlines : ∀ pieces ∈ lines.flatMap d.kept,
          '\n' ∉ lineText pieces ∧ '\r' ∉ lineText pieces := by
        intro pieces hpieces
        obtain ⟨line, _, hline⟩ := List.mem_flatMap.mp hpieces
        exact lineEnds_notMem_kept d line pieces hline
      unfold ofText
      rw [htext, read_piecesText _ hlines hne, hdrawn, ofEdges_eq]
  refine ⟨hgraph, ?_⟩
  rw [hgraph]
  cases hcase : d.lines.flatMap Line.joined with
  | nil => simp [Document.edges, hcase, mentions, selfLabelled, isEmpty]
  | cons pair pairs =>
    simp [Document.edges, hcase, mentions, selfLabelled, isEmpty, List.eraseDups_cons]

end DepView.Dependency
