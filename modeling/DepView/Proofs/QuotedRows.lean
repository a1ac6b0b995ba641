import DepView.Graph.Parser
import DepView.Proofs.GraphBuilding
import DepView.Proofs.LineEndings

/-!
Texts of quoted edges. A line is made of pieces, each a quoted edge or text without a
quote. Such a text is read as the graph of its edges in the order in which they stand,
and a single edge decides for the quoted dialect.
-/

namespace DepView.Graph

open Text

/-- What can stand between quotes on one line. -/
structure Label where
  text : Text
  ne_nil : text ≠ []
  lf_notMem : '\n' ∉ text

/-- Blanks and tabs before or behind something on a line. -/
structure Indent where
  text : Text
  isIndent : ∀ c ∈ text, Text.isIndent c = true

def noIndent : Indent :=
  ⟨[], fun _ hmem => nomatch hmem⟩

inductive Piece where
  | plain (text : Text) (quote_notMem : '"' ∉ text)
  | edge (source : Label) (before after : Indent) (target : Label)

namespace Piece

/-- A label between quotes. -/
def quoted (label : Text) : Text :=
  '"' :: Quoted.escape label ++ ['"']

def text : Piece → Text
  | plain text _ => text
  | edge source before after target =>
    quoted source.text ++ before.text ++ ['-', '>'] ++ after.text ++ quoted target.text

/-- The edge that a piece draws. -/
def drawn : Piece → List Edge
  | plain _ _ => []
  | edge source _ _ target => [⟨source.text, target.text⟩]

/-- The edge with its labels as they are written. -/
def found (piece : Piece) : List Edge :=
  piece.drawn.map fun e => ⟨Quoted.escape e.source, Quoted.escape e.target⟩

end Piece

theorem label?_quoted (label : Label) (rest : Text) :
    Quoted.label? ('"' :: (Quoted.escape label.text ++ '"' :: rest)) =
      some (Quoted.escape label.text, rest) := by
  rw [Quoted.label?_escape, if_neg]
  rintro (h | h)
  · exact label.ne_nil h
  · exact label.lf_notMem h

theorem dropWhile_indent (indent : Indent) {d : Char} (hd : isIndent d = false) (rest : Text) :
    (indent.text ++ d :: rest).dropWhile isIndent = d :: rest := by
  rw [List.dropWhile_append_of_pos indent.isIndent, List.dropWhile_cons_of_neg (by simp [hd])]

theorem arrow?_between (before after : Indent) (rest : Text) :
    arrow? (before.text ++ '-' :: '>' :: (after.text ++ '"' :: rest)) = some ('"' :: rest) := by
  unfold arrow?
  rw [dropWhile_indent before (by decide)]
  simp [after?, dropWhile_indent after (d := '"') (by decide)]

theorem exists_indent (text : Text) : ∃ indent : Indent,
    text = indent.text ++ text.dropWhile isIndent :=
  ⟨⟨text.takeWhile isIndent, fun c hc => List.all_eq_true.mp List.all_takeWhile c hc⟩,
    List.takeWhile_append_dropWhile.symm⟩

theorem eq_of_arrow? {text rest : Text} (h : arrow? text = some rest) :
    ∃ before after : Indent, text = before.text ++ '-' :: '>' :: (after.text ++ rest) := by
  obtain ⟨tail, htail, rfl⟩ := Option.map_eq_some_iff.mp h
  obtain ⟨before, hbefore⟩ := exists_indent text
  obtain ⟨after, hafter⟩ := exists_indent tail
  rw [after?_eq_some.mp htail] at hbefore
  refine ⟨before, after, ?_⟩
  rw [← hafter]
  exact hbefore

theorem quotedEdge?_piece (source : Label) (before after : Indent) (target : Label) (rest : Text) :
    quotedEdge? ((Piece.edge source before after target).text ++ rest) =
      some (⟨Quoted.escape source.text, Quoted.escape target.text⟩, rest) := by
  have hsource := label?_quoted source (before.text ++ '-' :: '>' ::
    (after.text ++ '"' :: (Quoted.escape target.text ++ '"' :: rest)))
  have harrow := arrow?_between before after (Quoted.escape target.text ++ '"' :: rest)
  have htarget := label?_quoted target rest
  have htext : (Piece.edge source before after target).text ++ rest =
      '"' :: (Quoted.escape source.text ++ '"' :: (before.text ++ '-' :: '>' ::
        (after.text ++ '"' :: (Quoted.escape target.text ++ '"' :: rest)))) := by
    simp [Piece.text, Piece.quoted]
  unfold quotedEdge?
  rw [htext, hsource]
  simp [harrow, htarget]

theorem arrow?_append {text rest : Text} (h : arrow? text = some rest) {more : Text}
    (hrest : rest ≠ []) : arrow? (text ++ more) = some (rest ++ more) := by
  obtain ⟨tail, htail, rfl⟩ := Option.map_eq_some_iff.mp h
  have hne : text.dropWhile isIndent ≠ [] := by
    intro hnil
    rw [hnil] at htail
    cases htail
  unfold arrow?
  rw [dropWhile_append_of_ne_nil hne, after?_append htail, Option.map_some,
    dropWhile_append_of_ne_nil hrest]

/-- A quoted edge is read whatever follows. -/
theorem quotedEdge?_append {text rest : Text} {edge : Edge}
    (h : quotedEdge? text = some (edge, rest)) (more : Text) :
    quotedEdge? (text ++ more) = some (edge, rest ++ more) := by
  simp only [quotedEdge?, Option.bind_eq_bind, Option.bind_eq_some_iff] at h ⊢
  obtain ⟨⟨source, afterSource⟩, hsource, afterArrow, harrow, ⟨target, last⟩, htarget, heq⟩ := h
  cases heq
  have hne : afterArrow ≠ [] := by
    rintro rfl
    cases htarget
  exact ⟨_, Quoted.label?_append hsource more, _, arrow?_append harrow hne, _,
    Quoted.label?_append htarget more, rfl⟩

theorem quotedEdge_occursIn_append {text : Text} (h : quotedEdge.occursIn text = true)
    (more : Text) : quotedEdge.occursIn (text ++ more) = true := by
  refine Pattern.occursIn_append (fun text more hsome => ?_) h more
  obtain ⟨⟨edge, rest⟩, hmatch⟩ := Option.isSome_iff_exists.mp hsome
  exact Option.isSome_iff_exists.mpr ⟨_, quotedEdge?_append hmatch more⟩

theorem quotedEdge_skips {chunk : Text} (h : '"' ∉ chunk) : quotedEdge.Yields chunk [] := by
  apply Pattern.Yields.skips
  intro c hc rest
  have hne : c ≠ '"' := fun heq => h (heq ▸ hc)
  simp [quotedEdge, quotedEdge?, Quoted.label?_cons_of_ne hne]

theorem quotedEdge_yields_piece (piece : Piece) : quotedEdge.Yields piece.text piece.found := by
  cases piece with
  | plain text quote_notMem => exact quotedEdge_skips quote_notMem
  | edge source before after target =>
    have hmatch : quotedEdge.Yields ((Piece.edge source before after target).text ++ [])
        (⟨Quoted.escape source.text, Quoted.escape target.text⟩ :: []) := by
      apply Pattern.Yields.of_match
      · intro rest
        exact quotedEdge?_piece source before after target rest
      · exact Pattern.Yields.nil quotedEdge
    rw [List.append_nil] at hmatch
    exact hmatch

/-- A line of pieces. -/
def lineText (pieces : List Piece) : Text :=
  pieces.flatMap Piece.text

/-- Lines of pieces, each ended by a line feed. -/
def piecesText (lines : List (List Piece)) : Text :=
  (lines.map lineText).flatMap (· ++ ['\n'])

/-- The edges of all lines, in order. -/
def drawnEdges (lines : List (List Piece)) : List Edge :=
  lines.flatMap fun pieces => pieces.flatMap Piece.drawn

theorem quotedEdge_yields_line (pieces : List Piece) :
    quotedEdge.Yields (lineText pieces) (pieces.flatMap Piece.found) :=
  Pattern.Yields.flatMap pieces _ _ (fun piece _ => quotedEdge_yields_piece piece)

theorem quotedEdge_yields_pieces (lines : List (List Piece)) :
    quotedEdge.Yields (piecesText lines)
      (lines.flatMap fun pieces => pieces.flatMap Piece.found) := by
  unfold piecesText
  rw [List.flatMap_map]
  apply Pattern.Yields.flatMap
  intro pieces _
  have hend : quotedEdge.Yields ['\n'] [] := quotedEdge_skips (by decide)
  have h := (quotedEdge_yields_line pieces).append hend
  rw [List.append_nil] at h
  exact h

theorem map_unescape_found (pieces : List Piece) :
    (pieces.flatMap Piece.found).map
        (fun e => (⟨Quoted.unescape e.source, Quoted.unescape e.target⟩ : Edge)) =
      pieces.flatMap Piece.drawn := by
  rw [List.map_flatMap]
  congr 1
  funext piece
  simp [Piece.found, Quoted.unescape_escape, Function.comp_def]

/-- One quoted edge is enough for the quoted dialect. -/
theorem dialectOf_of_yields {text : Text} {found : List Edge} (h : quotedEdge.Yields text found)
    (hne : found ≠ []) : dialectOf text = .quoted := by
  rw [← h.findAll] at hne
  exact if_pos ((Pattern.occursIn_iff quotedEdge text).mpr hne)

theorem found_ne_nil {lines : List (List Piece)} (h : drawnEdges lines ≠ []) :
    (lines.flatMap fun pieces => pieces.flatMap Piece.found) ≠ [] := by
  intro hnil
  apply h
  unfold drawnEdges
  rw [List.flatMap_eq_nil_iff] at hnil ⊢
  intro pieces hpieces
  rw [← map_unescape_found, hnil pieces hpieces, List.map_nil]

theorem dialectOf_piecesText (lines : List (List Piece)) (h : drawnEdges lines ≠ []) :
    dialectOf (piecesText lines) = .quoted :=
  dialectOf_of_yields (quotedEdge_yields_pieces lines) (found_ne_nil h)

/-- The edges of lines of pieces are read line by line, whether or not the last line is ended. -/
theorem quotedEdges_piecesText_append (lines : List (List Piece)) (last : List Piece)
    (h : ∀ pieces ∈ lines ++ [last], '\n' ∉ lineText pieces) :
    quotedEdges (piecesText lines ++ lineText last) = drawnEdges (lines ++ [last]) := by
  have hlines : Text.lines (piecesText lines ++ lineText last) =
      (lines ++ [last]).map lineText := by
    rw [List.map_append]
    apply lines_flatMap_append
    · intro line hline
      obtain ⟨pieces, hpieces, rfl⟩ := List.mem_map.mp hline
      exact h pieces (List.mem_append_left _ hpieces)
    · exact h last (by simp)
  unfold quotedEdges drawnEdges
  rw [hlines, List.flatMap_map]
  simp only [(quotedEdge_yields_line _).findAll, map_unescape_found]

theorem quotedEdges_piecesText (lines : List (List Piece))
    (h : ∀ pieces ∈ lines, '\n' ∉ lineText pieces) :
    quotedEdges (piecesText lines) = drawnEdges lines := by
  have hlast : ∀ pieces ∈ lines ++ [[]], '\n' ∉ lineText pieces := by
    intro pieces hpieces
    rcases List.mem_append.mp hpieces with hline | hline
    · exact h pieces hline
    · rw [List.mem_singleton.mp hline]
      exact List.not_mem_nil
  simpa [lineText, drawnEdges] using quotedEdges_piecesText_append lines [] hlast

/-- A text of pieces with an edge is read as the graph of its edges. -/
theorem read_piecesText (lines : List (List Piece))
    (hlines : ∀ pieces ∈ lines, '\n' ∉ lineText pieces ∧ '\r' ∉ lineText pieces)
    (hdrawn : drawnEdges lines ≠ []) :
    read (piecesText lines) = (.quoted, ofEdges (drawnEdges lines)) := by
  have hcr : '\r' ∉ piecesText lines := by
    intro hmem
    unfold piecesText at hmem
    rw [List.flatMap_map, List.mem_flatMap] at hmem
    obtain ⟨pieces, hpieces, hmem⟩ := hmem
    rcases List.mem_append.mp hmem with hline | hend
    · exact (hlines pieces hpieces).2 hline
    · simp at hend
  have hedges := quotedEdges_piecesText lines (fun pieces hpieces => (hlines pieces hpieces).1)
  unfold read
  rw [foldCrlf_of_cr_notMem hcr]
  simp only [dialectOf_piecesText lines hdrawn, ofQuoted, hedges]

end DepView.Graph
