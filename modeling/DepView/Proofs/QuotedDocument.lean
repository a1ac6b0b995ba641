import DepView.Proofs.CharacterClasses
import DepView.Proofs.QuotedRows

/-!
Documents of quoted edges. Any number of edges can stand on a line, with text without quotes before,
between and behind them, and a line may end in a carriage return. Such a document is read back in
full: all edges in their order, and just the labels that they mention.
-/

namespace DepView.Graph

open Text

/-- Lines that are ended by line feeds, and a last line that is not. -/
structure PieceDocument where
  body : List (List Piece)
  last : List Piece
  lf_notMem : ∀ pieces ∈ body ++ [last], '\n' ∉ lineText pieces

namespace PieceDocument

def text (d : PieceDocument) : Text :=
  piecesText d.body ++ lineText d.last

/-- The edges of all lines, in order. -/
def drawn (d : PieceDocument) : List Edge :=
  drawnEdges (d.body ++ [d.last])

end PieceDocument

theorem drawnEdges_cons (pieces : List Piece) (lines : List (List Piece)) :
    drawnEdges (pieces :: lines) = pieces.flatMap Piece.drawn ++ drawnEdges lines :=
  rfl

/-! Carriage returns before line feeds. -/

/-- A carriage return at the end of a line is outside of all edges. -/
theorem exists_before_return (pieces : List Piece) {before : Text}
    (h : lineText pieces = before ++ ['\r']) : ∃ left, lineText left = before ∧
      left.flatMap Piece.drawn = pieces.flatMap Piece.drawn := by
  induction pieces using List.reverseRecOn with
  | nil => simp [lineText] at h
  | append_singleton pieces piece ih =>
    rw [lineText, List.flatMap_append, List.flatMap_singleton] at h
    cases piece with
    | plain plain quote_notMem =>
      rcases List.eq_nil_or_concat plain with rfl | ⟨start, last, hplain⟩
      · rw [Piece.text, List.append_nil] at h
        obtain ⟨left, htext, hdrawn⟩ := ih h
        exact ⟨left, htext, by simp [hdrawn, Piece.drawn]⟩
      · rw [List.concat_eq_append] at hplain
        subst hplain
        rw [Piece.text, ← List.append_assoc] at h
        obtain ⟨hstart, _⟩ := List.append_inj' h rfl
        have hquote : '"' ∉ start := fun hmem => quote_notMem (List.mem_append_left _ hmem)
        exact ⟨pieces ++ [.plain start hquote], by simpa [lineText, Piece.text] using hstart,
          by simp [Piece.drawn]⟩
    | edge source before after target =>
      have hlast := congrArg List.getLast? h
      simp only [Piece.text, Piece.quoted, List.getLast?_append, List.getLast?_singleton,
        Option.some_or] at hlast
      exact absurd hlast (by decide)

/-- Folding the endings of lines changes no edge. -/
theorem exists_foldCrlf_pieces (lines : List (List Piece)) (last : List Piece)
    (h : ∀ pieces ∈ lines ++ [last], '\n' ∉ lineText pieces) : ∃ folded,
      foldCrlf (piecesText lines ++ lineText last) = piecesText folded ++ lineText last ∧
      drawnEdges folded = drawnEdges lines ∧ ∀ pieces ∈ folded, '\n' ∉ lineText pieces := by
  induction lines with
  | nil =>
    exact ⟨[], foldCrlf_of_lf_notMem (h last List.mem_cons_self), rfl, fun _ hmem => nomatch hmem⟩
  | cons pieces lines ih =>
    obtain ⟨folded, hfold, hdrawn, hlf⟩ :=
      ih fun line hline => h line (List.mem_cons_of_mem _ hline)
    have hpieces : '\n' ∉ lineText pieces := h pieces List.mem_cons_self
    have htext : ∀ first others, piecesText (first :: others) ++ lineText last =
        lineText first ++ '\n' :: (piecesText others ++ lineText last) := by
      intro first others
      simp [piecesText]
    by_cases hreturn : (lineText pieces).getLast? = some '\r'
    · obtain ⟨before, hbefore⟩ := List.getLast?_eq_some_iff.mp hreturn
      obtain ⟨left, hleft, hsame⟩ := exists_before_return pieces hbefore
      have hlfBefore : '\n' ∉ before := fun hmem => hpieces (hbefore ▸ List.mem_append_left _ hmem)
      refine ⟨left :: folded, ?_, by rw [drawnEdges_cons, drawnEdges_cons, hsame, hdrawn], ?_⟩
      · rw [htext, htext, hbefore, hleft, List.append_assoc, List.singleton_append,
          foldCrlf_append_cons (by decide), foldCrlf_of_lf_notMem hlfBefore, foldCrlf_crlf, hfold]
      · rintro line (_ | ⟨_, hline⟩)
        · exact hleft ▸ hlfBefore
        · exact hlf line hline
    · refine ⟨pieces :: folded, ?_, by rw [drawnEdges_cons, drawnEdges_cons, hdrawn], ?_⟩
      · rw [htext, htext, foldCrlf_append fun hlast => absurd hlast hreturn,
          foldCrlf_of_lf_notMem hpieces, foldCrlf_cons fun heq => absurd heq (by decide), hfold]
      · rintro line (_ | ⟨_, hline⟩)
        · exact hpieces
        · exact hlf line hline

/-- A document with an edge is read as the graph of its edges: they are all there in their order,
and so are the labels that they mention, each in the place of its first mention and naming
itself. -/
theorem read_pieceDocument (d : PieceDocument) (h : d.drawn ≠ []) :
    read d.text = (.quoted, ⟨selfLabelled (mentions d.drawn), d.drawn⟩) := by
  obtain ⟨folded, hfold, hdrawn, hlf⟩ := exists_foldCrlf_pieces d.body d.last d.lf_notMem
  have hsame : drawnEdges (folded ++ [d.last]) = d.drawn := by
    rw [PieceDocument.drawn, drawnEdges, drawnEdges, List.flatMap_append, List.flatMap_append]
    exact congrArg (· ++ _) hdrawn
  have hdialect : dialectOf (piecesText folded ++ lineText d.last) = .quoted := by
    have hyields := (quotedEdge_yields_pieces folded).append (quotedEdge_yields_line d.last)
    have hfound := found_ne_nil (hsame ▸ h)
    rw [List.flatMap_append, List.flatMap_singleton] at hfound
    exact dialectOf_of_yields hyields hfound
  have hedges : quotedEdges (piecesText folded ++ lineText d.last) = d.drawn := by
    rw [quotedEdges_piecesText_append, hsame]
    intro pieces hpieces
    rcases List.mem_append.mp hpieces with hline | hline
    · exact hlf pieces hline
    · exact d.lf_notMem pieces (List.mem_append_right _ hline)
  unfold read PieceDocument.text
  rw [hfold]
  simp only [hdialect, ofQuoted, hedges, ofEdges_eq]

/-- A label with a quote and a backslash at its end. -/
def slashLabel : Label :=
  ⟨"a\"\\".toList, by decide, by decide⟩

/-- A label that looks like an edge, with a carriage return at its end. -/
def arrowLabel : Label :=
  ⟨"\" -> \"\r".toList, by decide, by decide⟩

theorem isIndent_tab : ∀ c ∈ ['\t'], isIndent c = true :=
  class_of_all (by decide)

def tab : Indent :=
  ⟨['\t'], isIndent_tab⟩

/-- Two edges on a line without anything between them, a line that ends in a carriage return, and
text that looks like the beginning or the end of an edge. -/
def crowdedLines : PieceDocument where
  body :=
    [[.plain "\\ ->".toList (by decide), .edge slashLabel tab noIndent arrowLabel,
        .edge arrowLabel noIndent tab slashLabel, .plain ";\r".toList (by decide)],
      [.plain "// -> ".toList (by decide)]]
  last := [.edge slashLabel noIndent noIndent slashLabel, .plain " -> x".toList (by decide)]
  lf_notMem := by decide

theorem read_pieceDocument_crowded :
    crowdedLines.drawn ≠ [] ∧
      read crowdedLines.text =
        (.quoted,
          ⟨[⟨"a\"\\".toList, "a\"\\".toList⟩, ⟨"\" -> \"\r".toList, "\" -> \"\r".toList⟩],
            [⟨"a\"\\".toList, "\" -> \"\r".toList⟩, ⟨"\" -> \"\r".toList, "a\"\\".toList⟩,
              ⟨"a\"\\".toList, "a\"\\".toList⟩]⟩) :=
  ⟨by decide, (read_pieceDocument crowdedLines (by decide)).trans (by decide)⟩

end DepView.Graph
