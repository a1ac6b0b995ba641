import DepView.Dependency.Label
import DepView.Proofs.StatementRows

/-!
Documents of numbered edges. A line is blank, opens or closes the graph, gives the path
of a number in a comment, or draws an edge between two numbers. The scan for comments
finds those of the comment lines and no others, so a number is labelled by the last
comment for it, before or behind its edges.
-/

namespace DepView.Table

variable {α : Type}

/-- What pairs give for a key last. -/
def last? (pairs : List (Text × α)) (key : Text) : Option α :=
  ((pairs.filter fun pair => pair.1 = key).getLast?).map (·.2)

theorem last?_cons (pair : Text × α) (pairs : List (Text × α)) (key : Text) :
    last? (pair :: pairs) key =
      (last? pairs key).or (if pair.1 = key then some pair.2 else none) := by
  by_cases h : pair.1 = key
  · cases hlast : (pairs.filter fun pair => pair.1 = key).getLast? with
    | none => simp [last?, List.filter_cons_of_pos, h, List.getLast?_cons, hlast]
    | some found => simp [last?, List.filter_cons_of_pos, h, List.getLast?_cons, hlast]
  · simp [last?, h]

theorem last?_map {β : Type} (f : α → β) (pairs : List (Text × α)) (key : Text) :
    last? (pairs.map fun (k, value) => (k, f value)) key = (last? pairs key).map f := by
  induction pairs with
  | nil => rfl
  | cons pair pairs ih =>
    rw [List.map_cons, last?_cons, last?_cons, ih]
    by_cases h : pair.1 = key
    · cases last? pairs key with
      | none => simp [h]
      | some value => simp [h]
    · simp [h]

theorem mem_of_last? {pairs : List (Text × α)} {key : Text} {value : α}
    (h : last? pairs key = some value) : (key, value) ∈ pairs := by
  obtain ⟨pair, hpair, hvalue⟩ := Option.map_eq_some_iff.mp h
  have hmem := List.mem_of_getLast? hpair
  rw [List.mem_filter, decide_eq_true_eq] at hmem
  rw [← hmem.2, ← hvalue]
  exact hmem.1

theorem find?_foldl_insert (table : Table α) (pairs : List (Text × α)) (key : Text) :
    find? (pairs.foldl (fun table pair => insert pair.1 pair.2 table) table) key =
      (last? pairs key).or (find? table key) := by
  induction pairs generalizing table with
  | nil => rfl
  | cons pair pairs ih =>
    rw [List.foldl_cons, ih, last?_cons, find?_insert]
    cases last? pairs key with
    | none =>
      by_cases h : pair.1 = key
      · simp [h]
      · simp [h, Ne.symm h]
    | some value => rfl

/-- A table of pairs gives for each key what the pairs give last. -/
theorem find?_ofPairs (pairs : List (Text × α)) (key : Text) :
    find? (ofPairs pairs) key = last? pairs key := by
  unfold ofPairs
  rw [find?_foldl_insert]
  simp [find?]

end DepView.Table

namespace DepView.Dependency

open Text

structure Number where
  text : Text
  ne_nil : text ≠ []
  isDecimal : ∀ c ∈ text, Text.isDecimal c = true

/-- A line without anything to see. It may end in a carriage return. -/
structure Blanks where
  text : Text
  isBlank : ∀ c ∈ text, Text.isBlank c = true
  lf_notMem : '\n' ∉ text

/-- A path that fits on one line. -/
structure LinePath where
  text : Text
  cr_notMem : '\r' ∉ text
  lf_notMem : '\n' ∉ text

inductive Line where
  | blank (blanks : Blanks)
  | frame (frame : Graph.Frame)
  | comment (id : Number) (path : LinePath)
  | edge (indent : Graph.Indent) (source target : Number)

inductive Ending where
  | lf
  | crlf

/-- Lines with their endings, and a last line that has none. -/
structure Document where
  body : List (Line × Ending)
  last : Line

namespace Line

def text : Line → Text
  | blank blanks => blanks.text
  | frame f => f.text
  | comment id path => ['/', '/', ' '] ++ id.text ++ [':'] ++ path.text
  | edge indent source target =>
    indent.text ++ source.text ++ [' ', '-', '>', ' '] ++ target.text ++ [';']

/-- The number and the path of a comment. -/
def given : Line → List (Text × Text)
  | comment id path => [(id.text, path.text)]
  | _ => []

/-- The numbers that an edge joins. -/
def joined : Line → List (Number × Number)
  | edge _ source target => [(source, target)]
  | _ => []

end Line

def Ending.text : Ending → Text
  | lf => ['\n']
  | crlf => ['\r', '\n']

namespace Document

def text (d : Document) : Text :=
  (d.body.flatMap fun (line, ending) => line.text ++ ending.text) ++ d.last.text

def lines (d : Document) : List Line :=
  d.body.map (·.1) ++ [d.last]

/-- What a number stands for: the basename of the last path given for it, or itself if
there is no path or if the basename is empty. -/
def label (d : Document) (id : Text) : Text :=
  match Table.last? (d.lines.flatMap Line.given) id with
  | none => id
  | some path => if basename path = [] then id else basename path

/-- The edges of all edge lines, in order, between labels. -/
def edges (d : Document) : List Edge :=
  (d.lines.flatMap Line.joined).map fun (source, target) =>
    ⟨d.label source.text, d.label target.text⟩

end Document

/-! No line holds a line feed, and only a blank one holds a carriage return. -/

theorem Number.notMem (number : Number) {d : Char} (hd : Text.isDecimal d = false) :
    d ∉ number.text :=
  fun hmem => ne_of_class (number.isDecimal d hmem) hd rfl

theorem Blanks.notMem (blanks : Blanks) {d : Char} (hd : Text.isBlank d = false) :
    d ∉ blanks.text :=
  fun hmem => ne_of_class (blanks.isBlank d hmem) hd rfl

theorem Line.notMem_comment (id : Number) (path : LinePath) {d : Char}
    (hdigit : Text.isDecimal d = false) (hsign : d ≠ '/' ∧ d ≠ ' ' ∧ d ≠ ':')
    (hpath : d ∉ path.text) : d ∉ (comment id path).text := by
  obtain ⟨hslash, hblank, hcolon⟩ := hsign
  have hid := id.notMem hdigit
  simp [Line.text, hid, hpath, hslash, hblank, hcolon]

theorem Line.notMem_edge (indent : Graph.Indent) (source target : Number) {d : Char}
    (hindent : Text.isIndent d = false) (hdigit : Text.isDecimal d = false)
    (hsign : d ≠ '-' ∧ d ≠ '>' ∧ d ≠ ';') : d ∉ (edge indent source target).text := by
  obtain ⟨hdash, hangle, hsemicolon⟩ := hsign
  have hblank : d ≠ ' ' := by
    rintro rfl
    cases hindent
  have hbefore := indent.notMem hindent
  have hsource := source.notMem hdigit
  have htarget := target.notMem hdigit
  simp [Line.text, hbefore, hsource, htarget, hblank, hdash, hangle, hsemicolon]

theorem Line.lf_notMem (line : Line) : '\n' ∉ line.text := by
  cases line with
  | blank blanks => exact blanks.lf_notMem
  | frame f => exact f.notMem isWord_lineFeed (by decide)
  | comment id path => exact notMem_comment id path (by decide) (by decide) path.lf_notMem
  | edge indent source target =>
    exact notMem_edge indent source target (by decide) (by decide) (by decide)

theorem Line.blank_or_cr_notMem (line : Line) :
    (∃ blanks, line = blank blanks) ∨ '\r' ∉ line.text := by
  cases line with
  | blank blanks => exact Or.inl ⟨blanks, rfl⟩
  | frame f => exact Or.inr (f.notMem isWord_return (by decide))
  | comment id path =>
    exact Or.inr (notMem_comment id path (by decide) (by decide) path.cr_notMem)
  | edge indent source target =>
    exact Or.inr (notMem_edge indent source target (by decide) (by decide) (by decide))

/-! Folding the line endings of a document. -/

theorem foldCrlf_line_crlf {text : Text} (h : '\n' ∉ text) :
    foldCrlf (text ++ Ending.crlf.text) = text ++ ['\n'] := by
  have hend : foldCrlf ['\r', '\n'] = ['\n'] := by decide
  unfold Ending.text
  rw [foldCrlf_append_cons (by decide), foldCrlf_of_lf_notMem h, hend]

theorem foldCrlf_line_lf {text : Text} (h : '\n' ∉ text) (hlast : text.getLast? ≠ some '\r') :
    foldCrlf (text ++ Ending.lf.text) = text ++ ['\n'] := by
  have hend : foldCrlf ['\n'] = ['\n'] := by decide
  unfold Ending.text
  rw [foldCrlf_append (fun heq => False.elim (hlast heq)), foldCrlf_of_lf_notMem h, hend]

/-- A blank line may lose a carriage return at its end. All else stays. -/
theorem exists_foldCrlf_line (line : Line) (ending : Ending) :
    ∃ kept : Line, foldCrlf (line.text ++ ending.text) = kept.text ++ ['\n'] ∧
      kept.given = line.given ∧ kept.joined = line.joined := by
  by_cases hlast : ending = .lf ∧ line.text.getLast? = some '\r'
  · obtain ⟨rfl, hlast⟩ := hlast
    obtain ⟨init, hinit⟩ := List.getLast?_eq_some_iff.mp hlast
    rcases line.blank_or_cr_notMem with ⟨blanks, rfl⟩ | hcr
    · have hmem : ∀ c ∈ init, c ∈ blanks.text := by
        intro c hc
        change c ∈ (Line.blank blanks).text
        rw [hinit]
        exact List.mem_append_left _ hc
      have hlf : '\n' ∉ init := fun hc => blanks.lf_notMem (hmem '\n' hc)
      refine ⟨.blank ⟨init, fun c hc => blanks.isBlank c (hmem c hc), hlf⟩, ?_, rfl, rfl⟩
      rw [hinit, List.append_assoc]
      exact foldCrlf_line_crlf hlf
    · exact False.elim (hcr (List.mem_of_getLast? hlast))
  · refine ⟨line, ?_, rfl, rfl⟩
    cases ending with
    | crlf => exact foldCrlf_line_crlf line.lf_notMem
    | lf => exact foldCrlf_line_lf line.lf_notMem (fun heq => hlast ⟨rfl, heq⟩)

/-- Lines ended by line feeds, and a last line without. -/
def linesText (body : List Line) (last : Line) : Text :=
  (body.flatMap fun line => line.text ++ ['\n']) ++ last.text

theorem exists_foldCrlf_body (body : List (Line × Ending)) (last : Line) :
    ∃ kept : List Line, foldCrlf (Document.text ⟨body, last⟩) = linesText kept last ∧
      kept.flatMap Line.given = (body.map (·.1)).flatMap Line.given ∧
      kept.flatMap Line.joined = (body.map (·.1)).flatMap Line.joined := by
  induction body with
  | nil => exact ⟨[], foldCrlf_of_lf_notMem last.lf_notMem, rfl, rfl⟩
  | cons head body ih =>
    obtain ⟨line, ending⟩ := head
    obtain ⟨kept, htext, hgiven, hjoined⟩ := ih
    obtain ⟨first, hfirst, hfirstGiven, hfirstJoined⟩ := exists_foldCrlf_line line ending
    refine ⟨first :: kept, ?_, ?_, ?_⟩
    · have hend : (line.text ++ ending.text).getLast? = some '\n' := by
        cases ending with
        | lf => simp [Ending.text]
        | crlf => simp [Ending.text]
      have hsplit : Document.text ⟨(line, ending) :: body, last⟩ =
          (line.text ++ ending.text) ++ Document.text ⟨body, last⟩ := by
        simp [Document.text]
      rw [hsplit, foldCrlf_append, hfirst, htext]
      · simp [linesText]
      · intro heq
        rw [hend] at heq
        cases heq
    · simp [hfirstGiven, hgiven]
    · simp [hfirstJoined, hjoined]

/-- With its line endings folded, a document is lines that give and join the same. -/
theorem exists_foldCrlf_text (d : Document) :
    ∃ kept : List Line, foldCrlf d.text = linesText kept d.last ∧
      (kept ++ [d.last]).flatMap Line.given = d.lines.flatMap Line.given ∧
      (kept ++ [d.last]).flatMap Line.joined = d.lines.flatMap Line.joined := by
  obtain ⟨kept, htext, hgiven, hjoined⟩ := exists_foldCrlf_body d.body d.last
  refine ⟨kept, htext, ?_, ?_⟩
  · rw [Document.lines, List.flatMap_append, List.flatMap_append, hgiven]
  · rw [Document.lines, List.flatMap_append, List.flatMap_append, hjoined]

end DepView.Dependency
