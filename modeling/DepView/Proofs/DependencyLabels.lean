import DepView.Proofs.DependencyDocument

/-!
The labels of a document. Each comment line is one match of the scan for comments, with
its path up to the end of the line, and no match starts in another line. The labels are
basenames of paths or numbers, so they are not empty and fit on one line.
-/

namespace DepView.Dependency

open Text

/-! The scan for comments. -/

theorem takeWhile_path (path : LinePath) {rest : Text}
    (h : rest = [] ∨ ∃ tail, rest = '\n' :: tail) :
    (path.text ++ rest).takeWhile (· != '\n') = path.text ∧
      (path.text ++ rest).dropWhile (· != '\n') = rest := by
  have hpath : ∀ c ∈ path.text, (c != '\n') = true := by
    intro c hc
    rw [bne_iff_ne]
    intro heq
    exact path.lf_notMem (heq ▸ hc)
  rw [List.takeWhile_append_of_pos hpath, List.dropWhile_append_of_pos hpath]
  rcases h with rfl | ⟨tail, rfl⟩ <;> simp

/-- A comment is read up to the end of its line. -/
theorem idComment?_comment (id : Number) (path : LinePath) {rest : Text}
    (h : rest = [] ∨ ∃ tail, rest = '\n' :: tail) :
    idComment? ((Line.comment id path).text ++ rest) = some ((id.text, path.text), rest) := by
  have htext : (Line.comment id path).text ++ rest =
      '/' :: '/' :: ' ' :: (id.text ++ ':' :: (path.text ++ rest)) := by
    simp [Line.text]
  have hblank : isBlank ' ' = true := by decide
  have hid := dropWhile_append_of_neg id.ne_nil
    (fun c hc => isBlank_of_isDecimal (id.isDecimal c hc)) (':' :: (path.text ++ rest))
  have hrun := run?_append id.ne_nil id.isDecimal (d := ':') (by decide) (path.text ++ rest)
  obtain ⟨htake, hdrop⟩ := takeWhile_path path h
  unfold idComment?
  rw [htext]
  simp [after?, hblank, hid, hrun, htake, hdrop]

theorem idComment_skips {chunk : Text} (h : '/' ∉ chunk) : idComment.Yields chunk [] := by
  apply Pattern.Yields.skips
  intro c hc rest
  have hne : (c :: rest).head? ≠ some '/' := by
    intro heq
    exact h (Option.some.inj heq ▸ hc)
  simp [idComment, idComment?, after?_eq_none hne]

theorem Line.comment_or_slash_notMem (line : Line) :
    (∃ id path, line = comment id path) ∨ ('/' ∉ line.text ∧ line.given = []) := by
  cases line with
  | blank blanks => exact Or.inr ⟨blanks.notMem (by decide), rfl⟩
  | frame f => exact Or.inr ⟨f.notMem isWord_slash (by decide), rfl⟩
  | comment id path => exact Or.inl ⟨id, path, rfl⟩
  | edge indent source target =>
    exact Or.inr ⟨notMem_edge indent source target (by decide) (by decide) (by decide), rfl⟩

theorem idComment_yields_line (line : Line) :
    idComment.Yields (line.text ++ ['\n']) line.given := by
  rcases line.comment_or_slash_notMem with ⟨id, path, rfl⟩ | ⟨hslash, hgiven⟩
  · apply Pattern.Yields.of_match
    · intro rest
      exact idComment?_comment id path (Or.inr ⟨rest, rfl⟩)
    · exact idComment_skips (by decide)
  · rw [hgiven]
    exact idComment_skips (by simpa using hslash)

/-- The same on a last line, which no line feed ends. -/
theorem findAll_idComment_last (line : Line) : idComment.findAll line.text = line.given := by
  rcases line.comment_or_slash_notMem with ⟨id, path, rfl⟩ | ⟨hslash, hgiven⟩
  · have hmatch := idComment?_comment id path (Or.inl rfl)
    rw [List.append_nil] at hmatch
    rw [Pattern.findAll_of_match idComment hmatch, Pattern.findAll_nil]
    rfl
  · rw [hgiven]
    exact (idComment_skips hslash).findAll

theorem findAll_idComment_linesText (body : List Line) (last : Line) :
    idComment.findAll (linesText body last) = (body ++ [last]).flatMap Line.given := by
  have hbody := Pattern.Yields.flatMap body _ _ (fun line _ => idComment_yields_line line)
  unfold linesText
  rw [hbody, findAll_idComment_last]
  simp

/-! What a number is labelled with. -/

theorem labelFor_labelsOf (d : Document) (id : Text) :
    labelFor (labelsOf (foldCrlf d.text)) id = d.label id := by
  obtain ⟨kept, htext, hgiven, _⟩ := exists_foldCrlf_text d
  have hfind : (labelsOf (foldCrlf d.text)).find? id =
      (Table.last? (d.lines.flatMap Line.given) id).map basename := by
    unfold labelsOf
    rw [htext, findAll_idComment_linesText, hgiven, Table.find?_ofPairs, Table.last?_map]
  unfold labelFor Document.label
  rw [hfind]
  cases Table.last? (d.lines.flatMap Line.given) id with
  | none => rfl
  | some path =>
    cases hbase : basename path with
    | nil => simp [hbase]
    | cons c label => simp [hbase]

theorem trimEndWhile_subset (p : Char → Bool) (text : Text) : trimEndWhile p text ⊆ text := by
  intro c hc
  rw [trimEndWhile, List.mem_reverse] at hc
  exact List.mem_reverse.mp ((List.dropWhile_suffix p).subset hc)

theorem trim_subset (text : Text) : trim text ⊆ text := by
  intro c hc
  exact (List.dropWhile_suffix isBlank).subset (trimEndWhile_subset isBlank _ hc)

theorem lastPiece_subset (p : Char → Bool) (text : Text) : lastPiece p text ⊆ text := by
  intro c hc
  rw [lastPiece, List.mem_reverse] at hc
  exact List.mem_reverse.mp ((List.takeWhile_prefix _).subset hc)

theorem class_of_mem_lastPiece {p : Char → Bool} {text : Text} {c : Char}
    (h : c ∈ lastPiece p text) : p c = false := by
  rw [lastPiece, List.mem_reverse] at h
  simpa using List.all_eq_true.mp List.all_takeWhile c h

/-- A label is the basename of a path that stands in a comment. -/
theorem exists_of_find?_labelsOf {text id label : Text}
    (h : (labelsOf text).find? id = some label) :
    ∃ path, (id, path) ∈ idComment.findAll text ∧ basename path = label := by
  rw [labelsOf, Table.find?_ofPairs] at h
  obtain ⟨⟨number, path⟩, hfound, heq⟩ := List.mem_map.mp (Table.mem_of_last? h)
  obtain ⟨rfl, rfl⟩ := Prod.mk.inj heq
  exact ⟨path, hfound, rfl⟩

/-- A basename holds nothing that its path does not hold. -/
theorem basename_subset (path : Text) : basename path ⊆ path := by
  unfold basename
  intro c hc
  split at hc
  · exact trim_subset path hc
  · exact trim_subset path (trimEndWhile_subset isSeparator _ (lastPiece_subset isSeparator _ hc))

/-- A label is never empty, and no line ending is in it. -/
theorem label_number (d : Document) (id : Number) :
    d.label id.text ≠ [] ∧ '\n' ∉ d.label id.text ∧ '\r' ∉ d.label id.text := by
  have hnumber : id.text ≠ [] ∧ '\n' ∉ id.text ∧ '\r' ∉ id.text :=
    ⟨id.ne_nil, id.notMem (by decide), id.notMem (by decide)⟩
  unfold Document.label
  cases hlast : Table.last? (d.lines.flatMap Line.given) id.text with
  | none => exact hnumber
  | some text =>
    by_cases hbase : basename text = []
    · simpa only [hbase, if_true] using hnumber
    · obtain ⟨line, _, hgiven⟩ := List.mem_flatMap.mp (Table.mem_of_last? hlast)
      rcases line.comment_or_slash_notMem with ⟨number, path, rfl⟩ | ⟨_, hnone⟩
      · simp only [Line.given, List.mem_singleton, Prod.mk.injEq] at hgiven
        obtain ⟨_, rfl⟩ := hgiven
        simp only [hbase, if_false]
        exact ⟨hbase, fun h => path.lf_notMem (basename_subset _ h),
          fun h => path.cr_notMem (basename_subset _ h)⟩
      · rw [hnone] at hgiven
        cases hgiven

end DepView.Dependency
