import DepView.Proofs.CharacterClasses
import DepView.Proofs.QuotedRows

/-!
Texts of labelled nodes with one statement a line. A row declares a node, draws an
edge, or opens or closes the graph with a brace. Such a text is read as the graph of
its rows, whatever the labels hold: no text between quotes is taken for a quoted edge,
a declaration or an edge between identifiers.
-/

namespace DepView.Graph

open Text

/-- An identifier of ASCII letters, ASCII digits and underscores. -/
structure Ident where
  text : Text
  ne_nil : text ≠ []
  isIdent : ∀ c ∈ text, Text.isIdent c = true

/-- A line that opens or closes a graph: words and blanks, and a brace behind them. -/
structure Frame where
  words : Text
  brace : Char
  isWord : ∀ c ∈ words, Text.isWord c = true ∨ c = ' '
  isBrace : brace = '\x7b' ∨ brace = '\x7d'

theorem Frame.isBrace_opening : '\x7b' = '\x7b' ∨ '\x7b' = '\x7d' :=
  Or.inl rfl

inductive Row where
  | frame (frame : Frame)
  | node (indent : Indent) (id : Ident) (label : Text)
  | link (indent : Indent) (source target : Ident)

def Frame.text (f : Frame) : Text :=
  f.words ++ [f.brace]

namespace Row

/-- What stands before and behind the label of a node. -/
def labelStart : Text := [' ', '[', 'l', 'a', 'b', 'e', 'l', '=']

def labelStop : Text := [']', ';']

/-- An arrow between two identifiers. -/
def arrow : Text := [' ', '-', '>', ' ']

def text : Row → Text
  | frame f => f.text
  | node indent id label =>
    indent.text ++ id.text ++ labelStart ++ ('"' :: Quoted.escape label ++ ['"']) ++ labelStop
  | link indent source target =>
    indent.text ++ source.text ++ arrow ++ target.text ++ [';']

/-- The row with an empty label. -/
def unlabelled : Row → Row
  | node indent id _ => node indent id []
  | row => row

/-- The row with the line endings of its label folded. -/
def folded : Row → Row
  | node indent id label => node indent id (foldCrlf label)
  | row => row

/-- The node that a row declares. -/
def declared : Row → List Node
  | node _ id label => [⟨id.text, label⟩]
  | _ => []

/-- The edge that a row draws. -/
def drawn : Row → List Edge
  | link _ source target => [⟨source.text, target.text⟩]
  | _ => []

end Row

/-- A text with one row a line. -/
def rowsText (rows : List Row) : Text :=
  rows.flatMap fun row => row.text ++ ['\n']

/-- The graph of some rows: first what they declare, then what they draw. -/
def ofRows (rows : List Row) : Graph :=
  (rows.flatMap Row.drawn).foldl (fun g e => g.addEdge e.source e.target)
    ((rows.flatMap Row.declared).foldl (fun g n => g.addNode n.id n.label) empty)

/-! Characters of identifiers, indentation and frames. -/

/-- A sign that is no word character is not in a frame, unless it is a blank or a brace. -/
theorem Frame.notMem (f : Frame) {d : Char} (hword : Text.isWord d = false)
    (hd : d ≠ ' ' ∧ d ≠ '\x7b' ∧ d ≠ '\x7d') : d ∉ f.text := by
  intro hmem
  rcases List.mem_append.mp hmem with hmem | hmem
  · rcases f.isWord d hmem with h | h
    · exact ne_of_class h hword rfl
    · exact hd.1 h
  · have hbrace := f.isBrace
    rw [← List.mem_singleton.mp hmem] at hbrace
    rcases hbrace with h | h
    · exact hd.2.1 h
    · exact hd.2.2 h

/-! Where no declaration and no edge starts. -/

/-- A character at which identifiers and blanks end. -/
def IsStop (d : Char) : Prop :=
  isIdent d = false ∧ isBlank d = false

/-- Behind an identifier and blanks stands a character of the text, up to the first stop. -/
theorem head?_behind_ident {d : Char} (hd : IsStop d) (word rest : Text) :
    ∃ c ∈ word ++ [d], (((word ++ d :: rest).dropWhile isIdent).dropWhile isBlank).head? =
      some c := by
  obtain ⟨left, hleft, heq⟩ := dropWhile_append_cons hd.1 word rest
  obtain ⟨left', hleft', heq'⟩ := dropWhile_append_cons hd.2 left rest
  rw [heq, heq']
  cases left' with
  | nil => exact ⟨d, by simp, rfl⟩
  | cons c left' =>
    have hc : c ∈ word := (hleft'.trans hleft).subset (List.mem_cons_self ..)
    exact ⟨c, List.mem_append_left _ hc, rfl⟩

theorem declaration?_eq_none {text : Text}
    (h : ((text.dropWhile isIdent).dropWhile isBlank).head? ≠ some '[') :
    declaration? text = none := by
  unfold declaration?
  cases hrun : run? isIdent text with
  | none => rfl
  | some result =>
    have hrest := run?_rest hrun
    rw [← hrest] at h
    simp [after?_eq_none h]

theorem identEdge?_eq_none {text : Text}
    (h : ((text.dropWhile isIdent).dropWhile isBlank).head? ≠ some '-') :
    identEdge? text = none := by
  unfold identEdge?
  cases hrun : run? isIdent text with
  | none => rfl
  | some result =>
    have hrest := run?_rest hrun
    rw [← hrest] at h
    simp [after?_eq_none h]

/-- The same at any place of a chunk that ends in a stop. -/
theorem head?_behind_suffix {d : Char} (hd : IsStop d) {word : Text} {c : Char} {tail : Text}
    (h : c :: tail <:+ word ++ [d]) (rest : Text) :
    ∃ e ∈ word ++ [d], (((c :: (tail ++ rest)).dropWhile isIdent).dropWhile isBlank).head? =
      some e := by
  rcases List.suffix_concat_iff.mp h with hnil | ⟨left, hleft, hsuffix⟩
  · cases hnil
  · obtain ⟨e, he, hhead⟩ := head?_behind_ident hd left rest
    refine ⟨e, (hleft ▸ h).subset he, ?_⟩
    rw [← hhead, ← List.cons_append, hleft, List.append_assoc, List.singleton_append]

theorem declaration_yields_nil {word : Text} {d : Char} (hd : IsStop d) (h : '[' ∉ word ++ [d]) :
    declaration.Yields (word ++ [d]) [] := by
  apply Pattern.Yields.of_suffixes
  intro c tail hsuffix rest
  obtain ⟨e, he, hhead⟩ := head?_behind_suffix hd hsuffix rest
  apply declaration?_eq_none
  rw [hhead]
  intro heq
  exact h (Option.some.inj heq ▸ he)

theorem identEdge_yields_nil {word : Text} {d : Char} (hd : IsStop d) (h : '-' ∉ word ++ [d]) :
    identEdge.Yields (word ++ [d]) [] := by
  apply Pattern.Yields.of_suffixes
  intro c tail hsuffix rest
  obtain ⟨e, he, hhead⟩ := head?_behind_suffix hd hsuffix rest
  apply identEdge?_eq_none
  rw [hhead]
  intro heq
  exact h (Option.some.inj heq ▸ he)

theorem declaration_skips {chunk : Text} (h : ∀ c ∈ chunk, isIdent c = false) :
    declaration.Yields chunk [] := by
  apply Pattern.Yields.skips
  intro c hc rest
  simp [declaration, declaration?, run?_cons_of_neg (h c hc)]

theorem identEdge_skips {chunk : Text} (h : ∀ c ∈ chunk, isIdent c = false) :
    identEdge.Yields chunk [] := by
  apply Pattern.Yields.skips
  intro c hc rest
  simp [identEdge, identEdge?, run?_cons_of_neg (h c hc)]

/-! Statements are found where they are written. -/

theorem run?_ident (id : Ident) {d : Char} (hd : isIdent d = false) (rest : Text) :
    run? isIdent (id.text ++ d :: rest) = some (id.text, d :: rest) :=
  run?_append id.ne_nil id.isIdent hd rest

theorem dropWhile_isBlank_ident (id : Ident) (rest : Text) :
    (id.text ++ rest).dropWhile isBlank = id.text ++ rest :=
  dropWhile_append_of_neg id.ne_nil (fun c hc => isBlank_of_isIdent (id.isIdent c hc)) rest

theorem declaration?_statement (id : Ident) (label rest : Text) :
    declaration? (id.text ++
        (Row.labelStart ++ ('"' :: (Quoted.escape label ++ '"' :: ']' :: rest)))) =
      some (⟨id.text, Quoted.escape label⟩, rest) := by
  have hspace : isBlank ' ' = true := by decide
  have hbracket : isBlank '[' = false := by decide
  have hequals : isBlank '=' = false := by decide
  have hquote : isBlank '"' = false := by decide
  unfold declaration?
  rw [Row.labelStart, List.cons_append, run?_ident id (by decide)]
  simp [hspace, hbracket, hequals, hquote, after?, Quoted.string?_escape]

theorem identEdge?_statement (source target : Ident) (rest : Text) :
    identEdge? (source.text ++ (Row.arrow ++ (target.text ++ ';' :: rest))) =
      some (⟨source.text, target.text⟩, ';' :: rest) := by
  have hspace : isBlank ' ' = true := by decide
  have hdash : isBlank '-' = false := by decide
  have htarget := run?_ident target (d := ';') (by decide) rest
  unfold identEdge?
  rw [Row.arrow, List.cons_append, run?_ident source (by decide)]
  simp [hspace, hdash, after?, dropWhile_isBlank_ident, htarget]

/-! What the scans find in a row. -/

instance (d : Char) : Decidable (IsStop d) :=
  inferInstanceAs (Decidable (_ ∧ _))

theorem Frame.isStop (f : Frame) : IsStop f.brace := by
  rcases f.isBrace with h | h <;> rw [h] <;> decide

theorem Indent.isIdent (indent : Indent) : ∀ c ∈ indent.text, Text.isIdent c = false :=
  fun c hc => isIdent_of_isIndent (indent.isIndent c hc)

theorem Indent.notMem (indent : Indent) {d : Char} (hd : Text.isIndent d = false) :
    d ∉ indent.text :=
  fun hmem => ne_of_class (indent.isIndent d hmem) hd rfl

theorem Ident.notMem (id : Ident) {d : Char} (hd : Text.isIdent d = false) : d ∉ id.text :=
  fun hmem => ne_of_class (id.isIdent d hmem) hd rfl

/-- An arrow behind an identifier is no part of a declaration. -/
theorem declaration_yields_link (indent : Indent) (source target : Ident) :
    declaration.Yields (Row.link indent source target).text [] := by
  have htext : (Row.link indent source target).text =
      (indent.text ++ source.text ++ [' '] ++ ['-']) ++ (['>', ' '] ++ (target.text ++ [';'])) := by
    simp [Row.text, Row.arrow]
  rw [htext]
  apply Pattern.Yields.after_nil
  · apply declaration_yields_nil (by decide)
    have hindent := indent.notMem (d := '[') (by decide)
    have hsource := source.notMem (d := '[') (by decide)
    simp [hindent, hsource]
  apply Pattern.Yields.after_nil
  · exact declaration_skips (class_of_all (by decide))
  · apply declaration_yields_nil (by decide)
    have htarget := target.notMem (d := '[') (by decide)
    simp [htarget]

theorem declaration_yields_node (indent : Indent) (id : Ident) (label : Text) :
    declaration.Yields (Row.node indent id label).text [⟨id.text, Quoted.escape label⟩] := by
  have htext : (Row.node indent id label).text =
      indent.text ++ ((id.text ++ (Row.labelStart ++
        ('"' :: (Quoted.escape label ++ ['"', ']'])))) ++ [';']) := by
    simp [Row.text, Row.labelStop]
  rw [htext]
  apply Pattern.Yields.after_nil
  · exact declaration_skips indent.isIdent
  · apply Pattern.Yields.of_match
    · intro rest
      have h := declaration?_statement id label (';' :: rest)
      simpa [declaration] using h
    · exact declaration_skips (class_of_all (by decide))

theorem declaration_yields_frame (f : Frame) : declaration.Yields (Row.frame f).text [] := by
  have hframe : '[' ∉ f.words ++ [f.brace] := f.notMem isWord_bracket (by decide)
  exact declaration_yields_nil f.isStop hframe

/-- The node that a row declares, with its label as it is written. -/
def Row.found (row : Row) : List Node :=
  row.declared.map fun n => ⟨n.id, Quoted.escape n.label⟩

theorem declaration_yields_row (row : Row) : declaration.Yields row.text row.found := by
  cases row with
  | frame f => exact declaration_yields_frame f
  | node indent id label => exact declaration_yields_node indent id label
  | link indent source target => exact declaration_yields_link indent source target

theorem declaration_yields_rowLine (row : Row) :
    declaration.Yields (row.text ++ ['\n']) row.found := by
  have hend : declaration.Yields ['\n'] [] := declaration_skips (class_of_all (by decide))
  have hline := (declaration_yields_row row).append hend
  rwa [List.append_nil] at hline

theorem identEdge_yields_link (indent : Indent) (source target : Ident) :
    identEdge.Yields (Row.link indent source target).text [⟨source.text, target.text⟩] := by
  have htext : (Row.link indent source target).text =
      indent.text ++ ((source.text ++ (Row.arrow ++ target.text)) ++ [';']) := by
    simp [Row.text]
  rw [htext]
  apply Pattern.Yields.after_nil
  · exact identEdge_skips indent.isIdent
  · apply Pattern.Yields.of_match
    · intro rest
      have h := identEdge?_statement source target rest
      simpa [identEdge] using h
    · exact identEdge_skips (class_of_all (by decide))

/-- An empty label holds no edge. -/
theorem identEdge_yields_unlabelled (indent : Indent) (id : Ident) :
    identEdge.Yields (Row.node indent id []).text [] := by
  have htext : (Row.node indent id []).text =
      (indent.text ++ id.text ++ [' '] ++ ['[']) ++
        ((['l', 'a', 'b', 'e', 'l'] ++ ['=']) ++ ['"', '"', ']', ';']) := by
    simp [Row.text, Row.labelStart, Row.labelStop, Quoted.escape]
  rw [htext]
  apply Pattern.Yields.after_nil
  · apply identEdge_yields_nil (by decide)
    have hindent := indent.notMem (d := '-') (by decide)
    have hid := id.notMem (d := '-') (by decide)
    simp [hindent, hid]
  apply Pattern.Yields.after_nil
  · exact identEdge_yields_nil (by decide) (by decide)
  · exact identEdge_skips (class_of_all (by decide))

theorem identEdge_yields_frame (f : Frame) : identEdge.Yields (Row.frame f).text [] := by
  have hframe : '-' ∉ f.words ++ [f.brace] := f.notMem isWord_dash (by decide)
  exact identEdge_yields_nil f.isStop hframe

theorem identEdge_yields_row (row : Row) : identEdge.Yields row.unlabelled.text row.drawn := by
  cases row with
  | frame f => exact identEdge_yields_frame f
  | node indent id label => exact identEdge_yields_unlabelled indent id
  | link indent source target => exact identEdge_yields_link indent source target

theorem identEdge_yields_rowLine (row : Row) :
    identEdge.Yields (row.unlabelled.text ++ ['\n']) row.drawn := by
  have hend : identEdge.Yields ['\n'] [] := identEdge_skips (class_of_all (by decide))
  have hline := (identEdge_yields_row row).append hend
  rwa [List.append_nil] at hline

/-- A sign that has no part in the writing of a link. -/
theorem Row.notMem_link (indent : Indent) (source target : Ident) {d : Char}
    (hindent : Text.isIndent d = false) (hident : Text.isIdent d = false)
    (hsign : d ∉ arrow ++ [';']) : d ∉ (link indent source target).text := by
  have hbefore := indent.notMem hindent
  have hsource := source.notMem hident
  have htarget := target.notMem hident
  rw [List.mem_append, not_or] at hsign
  simp only [Row.text, List.mem_append, not_or]
  exact ⟨⟨⟨⟨hbefore, hsource⟩, hsign.1⟩, htarget⟩, hsign.2⟩

/-- The same for what stands before the label of a node. -/
theorem Row.notMem_start (indent : Indent) (id : Ident) {d : Char}
    (hindent : Text.isIndent d = false) (hident : Text.isIdent d = false)
    (hsign : d ∉ labelStart) : d ∉ indent.text ++ id.text ++ labelStart := by
  have hbefore := indent.notMem hindent
  have hid := id.notMem hident
  simp only [List.mem_append, not_or]
  exact ⟨⟨hbefore, hid⟩, hsign⟩

theorem quote_notMem_link (indent : Indent) (source target : Ident) :
    '"' ∉ (Row.link indent source target).text :=
  Row.notMem_link indent source target (by decide) (by decide) (by decide)

theorem quote_notMem_frame (f : Frame) : '"' ∉ (Row.frame f).text :=
  f.notMem isWord_quote (by decide)

theorem quote_notMem_start (indent : Indent) (id : Ident) :
    '"' ∉ indent.text ++ id.text ++ Row.labelStart :=
  Row.notMem_start indent id (by decide) (by decide) (by decide)

/-- Emptying all strings of a row takes its label away. -/
theorem string_rewrites_row (row : Row) :
    Quoted.string.Rewrites (fun _ => ['"', '"']) row.text row.unlabelled.text := by
  cases row with
  | frame f => exact Quoted.string_rewrites_of_notMem _ (quote_notMem_frame f)
  | node indent id label =>
    have hstart := Quoted.string_rewrites_of_notMem (fun _ => ['"', '"'])
      (quote_notMem_start indent id)
    have hlabel := Quoted.string_rewrites_escape (fun _ => ['"', '"']) label
    have hquote : '"' ∉ Row.labelStop := by decide
    have hstop := Quoted.string_rewrites_of_notMem (fun _ => ['"', '"']) hquote
    have h := (hstart.append hlabel).append hstop
    simpa [Row.text, Row.unlabelled, Quoted.escape] using h
  | link indent source target =>
    exact Quoted.string_rewrites_of_notMem _ (quote_notMem_link indent source target)

theorem string_rewrites_rowLine (row : Row) :
    Quoted.string.Rewrites (fun _ => ['"', '"']) (row.text ++ ['\n'])
      (row.unlabelled.text ++ ['\n']) :=
  (string_rewrites_row row).append (Quoted.string_rewrites_of_notMem _ (by decide))

/-! No label is taken for a quoted edge. -/

/-- From a quote before a label or in it, a reader comes to the bracket behind the label. -/
theorem quotedEdge?_in_label (text rest : Text) :
    quotedEdge? ('"' :: (Quoted.escape text ++ '"' :: ']' :: rest)) = none := by
  unfold quotedEdge?
  rw [Quoted.label?_escape]
  by_cases h : text = [] ∨ '\n' ∈ text
  · simp [h]
  · simp [h, arrow?, after?, isIndent]

theorem findAll_quotedEdge_label (text rest : Text) :
    quotedEdge.findAll (Quoted.escape text ++ '"' :: ']' :: rest) =
      quotedEdge.findAll ('"' :: ']' :: rest) := by
  induction text with
  | nil => rfl
  | cons c text ih =>
    rw [Quoted.escape_cons, List.append_assoc]
    by_cases hc : c = '"'
    · subst hc
      have hskip : quotedEdge.Yields ['\\'] [] := quotedEdge_skips (by decide)
      have hslash := hskip ('"' :: (Quoted.escape text ++ '"' :: ']' :: rest))
      have hquote := Pattern.findAll_cons_of_none quotedEdge (quotedEdge?_in_label text rest)
      rw [Quoted.written_of_special (Or.inr rfl)]
      exact (hslash.trans hquote).trans ih
    · have hwritten : '"' ∉ Quoted.written c := by
        intro hmem
        rcases Quoted.mem_written hmem with heq | heq
        · exact hc heq.symm
        · cases heq
      exact (quotedEdge_skips hwritten _).trans ih

/-- In a declaration, at most the quote behind the label can begin a quoted edge. -/
theorem findAll_quotedEdge_node (indent : Indent) (id : Ident) (label rest : Text) :
    quotedEdge.findAll ((Row.node indent id label).text ++ rest) =
      quotedEdge.findAll ('"' :: (Row.labelStop ++ rest)) := by
  have htext : (Row.node indent id label).text ++ rest =
      (indent.text ++ id.text ++ Row.labelStart) ++
        '"' :: (Quoted.escape label ++ '"' :: ']' :: ';' :: rest) := by
    simp [Row.text, Row.labelStop]
  have hstart := quotedEdge_skips (quote_notMem_start indent id)
    ('"' :: (Quoted.escape label ++ '"' :: ']' :: ';' :: rest))
  have hquote := Pattern.findAll_cons_of_none quotedEdge
    (quotedEdge?_in_label label (';' :: rest))
  rw [htext]
  exact (hstart.trans hquote).trans (findAll_quotedEdge_label label (';' :: rest))

/-- From the quote behind a label, a reader comes to the end of the line. -/
theorem quotedEdge?_behind_label (rest : Text) :
    quotedEdge? ('"' :: (Row.labelStop ++ '\n' :: rest)) = none := by
  simp [quotedEdge?, Row.labelStop, Quoted.label?, Quoted.body?]

/-- A line feed behind a row keeps its last quote from being taken for an opening one. -/
theorem quotedEdge_yields_rowLine (row : Row) : quotedEdge.Yields (row.text ++ ['\n']) [] := by
  have hend : quotedEdge.Yields ['\n'] [] := quotedEdge_skips (by decide)
  cases row with
  | frame f => exact (quotedEdge_skips (quote_notMem_frame f)).append hend
  | node indent id label =>
    intro rest
    have hnode := findAll_quotedEdge_node indent id label ('\n' :: rest)
    have hquote := Pattern.findAll_cons_of_none quotedEdge (quotedEdge?_behind_label rest)
    have hstop : quotedEdge.Yields (Row.labelStop ++ ['\n']) [] := quotedEdge_skips (by decide)
    rw [List.append_assoc]
    exact (hnode.trans hquote).trans (hstop rest)
  | link indent source target =>
    exact (quotedEdge_skips (quote_notMem_link indent source target)).append hend

/-! The whole text. -/

/-- Rows that are ended by line feeds, and perhaps a last row that is not. -/
def openText (rows : List Row) (last : Option Row) : Text :=
  rowsText rows ++ last.elim [] Row.text

theorem dialectOf_rowsText (rows : List Row) : dialectOf (rowsText rows) = .labeledNode := by
  have hyields := Pattern.Yields.flatMap (p := quotedEdge) rows (fun row => row.text ++ ['\n'])
    (fun _ => []) (fun row _ => quotedEdge_yields_rowLine row)
  have hnone : quotedEdge.findAll (rowsText rows) = [] := by
    have hfind := hyields.findAll
    rw [List.flatMap_eq_nil_iff.mpr (fun _ _ => rfl)] at hfind
    exact hfind
  have hoccurs : ¬ quotedEdge.occursIn (rowsText rows) = true := by
    rw [Pattern.occursIn_iff]
    exact fun h => h hnone
  exact if_neg hoccurs

/-- What a text without a quoted edge begins with has none either. -/
theorem dialectOf_of_append {text more : Text} (h : dialectOf (text ++ more) = .labeledNode) :
    dialectOf text = .labeledNode := by
  have hmore : ¬ quotedEdge.occursIn (text ++ more) = true := by
    intro hoccurs
    rw [dialectOf, if_pos hoccurs] at h
    cases h
  exact if_neg fun hoccurs => hmore (quotedEdge_occursIn_append hoccurs more)

theorem dialectOf_openText (rows : List Row) (last : Option Row) :
    dialectOf (openText rows last) = .labeledNode := by
  cases last with
  | none => simpa [openText] using dialectOf_rowsText rows
  | some row =>
    have htext : openText rows (some row) ++ ['\n'] = rowsText (rows ++ [row]) := by
      simp [openText, rowsText]
    exact dialectOf_of_append (htext ▸ dialectOf_rowsText (rows ++ [row]))

theorem ofLabeledNodes_openText (rows : List Row) (last : Option Row) :
    ofLabeledNodes (openText rows last) = ofRows (rows ++ last.toList) := by
  have hdeclared : declaration.findAll (openText rows last) =
      (rows ++ last.toList).flatMap Row.found := by
    have hrows : declaration.Yields (rowsText rows) _ :=
      Pattern.Yields.flatMap rows _ _ (fun row _ => declaration_yields_rowLine row)
    have hlast : declaration.Yields (last.elim [] Row.text) (last.toList.flatMap Row.found) := by
      cases last with
      | none => exact Pattern.Yields.nil declaration
      | some row => simpa using declaration_yields_row row
    rw [List.flatMap_append]
    exact (hrows.append hlast).findAll
  have hunlabelled : Quoted.string.replaceAll (fun _ => ['"', '"']) (openText rows last) =
      (rows.flatMap fun row => row.unlabelled.text ++ ['\n']) ++
        last.elim [] fun row => row.unlabelled.text := by
    have hrows : Quoted.string.Rewrites (fun _ => ['"', '"']) (rowsText rows) _ :=
      Pattern.Rewrites.flatMap rows _ _ (fun row _ => string_rewrites_rowLine row)
    have hlast : Quoted.string.Rewrites (fun _ => ['"', '"']) (last.elim [] Row.text)
        (last.elim [] fun row => row.unlabelled.text) := by
      cases last with
      | none => exact Pattern.Rewrites.nil Quoted.string _
      | some row => exact string_rewrites_row row
    exact (hrows.append hlast).replaceAll
  have hdrawn : identEdge.findAll ((rows.flatMap fun row => row.unlabelled.text ++ ['\n']) ++
      last.elim [] fun row => row.unlabelled.text) = (rows ++ last.toList).flatMap Row.drawn := by
    have hrows : identEdge.Yields (rows.flatMap fun row => row.unlabelled.text ++ ['\n']) _ :=
      Pattern.Yields.flatMap rows _ _ (fun row _ => identEdge_yields_rowLine row)
    have hlast : identEdge.Yields (last.elim [] fun row => row.unlabelled.text)
        (last.toList.flatMap Row.drawn) := by
      cases last with
      | none => exact Pattern.Yields.nil identEdge
      | some row => simpa using identEdge_yields_row row
    rw [List.flatMap_append]
    exact (hrows.append hlast).findAll
  have hfound : (rows ++ last.toList).flatMap Row.found =
      ((rows ++ last.toList).flatMap Row.declared).map fun n => ⟨n.id, Quoted.escape n.label⟩ := by
    rw [List.map_flatMap]
    rfl
  unfold ofLabeledNodes ofRows
  simp only [hdeclared, hunlabelled, hdrawn, hfound, List.foldl_map, Quoted.unescape_escape]

theorem getLast?_row (row : Row) : row.text.getLast? ≠ some '\r' := by
  cases row with
  | frame f =>
    rcases f.isBrace with h | h <;> simp [Row.text, Frame.text, h]
  | node indent id label =>
    have hstop : Row.labelStop.getLast? = some ';' := rfl
    unfold Row.text
    rw [List.getLast?_append, hstop]
    simp
  | link indent source target => simp [Row.text]

theorem foldCrlf_row (row : Row) : foldCrlf row.text = row.folded.text := by
  cases row with
  | frame f => exact foldCrlf_of_cr_notMem (f.notMem isWord_return (by decide))
  | node indent id label =>
    have hstart : foldCrlf (indent.text ++ id.text ++ Row.labelStart) =
        indent.text ++ id.text ++ Row.labelStart :=
      foldCrlf_of_cr_notMem (Row.notMem_start indent id (by decide) (by decide) (by decide))
    have hstop : foldCrlf ('"' :: Row.labelStop) = '"' :: Row.labelStop := by decide
    have hquote : foldCrlf ('"' :: (Quoted.escape label ++ '"' :: Row.labelStop)) =
        '"' :: (Quoted.escape (foldCrlf label) ++ '"' :: Row.labelStop) := by
      rw [foldCrlf_cons (by simp), foldCrlf_append_cons (by decide), foldCrlf_escape, hstop]
    have h := foldCrlf_append_cons (c := '"') (by decide)
      (indent.text ++ id.text ++ Row.labelStart) (Quoted.escape label ++ '"' :: Row.labelStop)
    rw [hstart, hquote] at h
    simpa [Row.text, Row.folded] using h
  | link indent source target =>
    exact foldCrlf_of_cr_notMem
      (Row.notMem_link indent source target (by decide) (by decide) (by decide))

theorem foldCrlf_rowsText (rows : List Row) :
    foldCrlf (rowsText rows) = rowsText (rows.map Row.folded) := by
  induction rows with
  | nil => rfl
  | cons row rows ih =>
    unfold rowsText at ih ⊢
    rw [List.flatMap_cons, List.append_assoc, List.singleton_append, foldCrlf_append,
      foldCrlf_row, foldCrlf_cons (by simp), ih]
    · simp
    · intro hlast
      exact False.elim (getLast?_row row hlast)

/-- With its line endings folded, a text of rows is read as the graph of its rows. -/
theorem read_of_foldCrlf {text : Text} {rows : List Row} {last : Option Row}
    (h : foldCrlf text = openText rows last) :
    read text = (.labeledNode, ofRows (rows ++ last.toList)) := by
  unfold read
  rw [h]
  simp only [dialectOf_openText, ofLabeledNodes_openText]

/-- A text of rows is read as the graph of its rows, with the line endings of labels folded. -/
theorem read_rowsText (rows : List Row) :
    read (rowsText rows) = (.labeledNode, ofRows (rows.map Row.folded)) := by
  have hfold : foldCrlf (rowsText rows) = openText (rows.map Row.folded) none := by
    rw [foldCrlf_rowsText, openText, Option.elim_none, List.append_nil]
  have hread := read_of_foldCrlf hfold
  rwa [Option.toList_none, List.append_nil] at hread

end DepView.Graph
