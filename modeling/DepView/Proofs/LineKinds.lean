import DepView.Proofs.DependencyDocument

/-!
Kinds of lines, by how they are written. A line is blank, it is a comment, or it begins with a
numbered edge: indentation, two numbers with an arrow between blanks, and a semicolon. What is read
as an edge is written as one, and what is dropped is blank or a comment.
-/

namespace DepView.Dependency

open Text

/-- Blanks and tabs, at least one of them. -/
structure Gap extends Graph.Indent where
  ne_nil : text ≠ []

/-- A numbered edge up to its semicolon. -/
structure EdgeStart where
  indent : Graph.Indent
  source : Number
  before : Gap
  after : Gap
  target : Number

namespace EdgeStart

def text (e : EdgeStart) : Text :=
  e.indent.text ++ e.source.text ++ e.before.text ++ ['-', '>'] ++ e.after.text ++ e.target.text ++
    [';']

/-- What the edge says. -/
def edge (e : EdgeStart) : NumberedEdge :=
  ⟨e.indent.text, e.source.text, e.target.text⟩

theorem lf_notMem (e : EdgeStart) : '\n' ∉ e.text := by
  have hindent := e.indent.notMem (d := '\n') (by decide)
  have hsource := e.source.notMem (d := '\n') (by decide)
  have hbefore := e.before.notMem (d := '\n') (by decide)
  have hafter := e.after.notMem (d := '\n') (by decide)
  have htarget := e.target.notMem (d := '\n') (by decide)
  simp [text, hindent, hsource, hbefore, hafter, htarget]

theorem text_append (e : EdgeStart) (rest : Text) :
    e.text ++ rest = e.indent.text ++ (e.source.text ++ (e.before.text ++ '-' :: '>' ::
      (e.after.text ++ (e.target.text ++ ';' :: rest)))) := by
  simp [text]

end EdgeStart

/-! Reading an edge. -/

theorem Gap.isDecimal (gap : Gap) : ∀ c ∈ gap.text, Text.isDecimal c = false := by
  intro c hc
  rw [Bool.eq_false_iff]
  intro hdecimal
  have hindent := gap.isIndent c hc
  rw [isIndent_of_isDecimal hdecimal] at hindent
  cases hindent

theorem Number.isIndent (number : Number) : ∀ c ∈ number.text, Text.isIndent c = false :=
  fun c hc => isIndent_of_isDecimal (number.isDecimal c hc)

theorem takeWhile_indent (indent : Graph.Indent) (number : Number) (rest : Text) :
    (indent.text ++ (number.text ++ rest)).takeWhile isIndent = indent.text ∧
      (indent.text ++ (number.text ++ rest)).dropWhile isIndent = number.text ++ rest := by
  have hdrop := dropWhile_append_of_neg number.ne_nil number.isIndent rest
  have htake : (number.text ++ rest).takeWhile isIndent = [] := by
    have h := List.takeWhile_append_dropWhile (p := isIndent) (l := number.text ++ rest)
    rw [hdrop] at h
    exact List.append_left_eq_self.mp h
  rw [List.takeWhile_append_of_pos indent.isIndent, List.dropWhile_append_of_pos indent.isIndent,
    htake, hdrop, List.append_nil]
  exact ⟨rfl, rfl⟩

/-- An edge is read where one is written, whatever follows it. -/
theorem numberedEdge?_append (e : EdgeStart) (rest : Text) :
    numberedEdge? (e.text ++ rest) = some (e.edge, rest) := by
  obtain ⟨htake, hdrop⟩ := takeWhile_indent e.indent e.source
    (e.before.text ++ '-' :: '>' :: (e.after.text ++ (e.target.text ++ ';' :: rest)))
  have hsource := run?_append_word e.source.ne_nil e.source.isDecimal e.before.ne_nil
    e.before.isDecimal ('-' :: '>' :: (e.after.text ++ (e.target.text ++ ';' :: rest)))
  have hbefore := run?_append e.before.ne_nil e.before.isIndent (d := '-') (by decide)
    ('>' :: (e.after.text ++ (e.target.text ++ ';' :: rest)))
  have hafter := run?_append_word e.after.ne_nil e.after.isIndent e.target.ne_nil
    e.target.isIndent (';' :: rest)
  have htarget := run?_append e.target.ne_nil e.target.isDecimal (d := ';') (by decide) rest
  unfold numberedEdge?
  rw [EdgeStart.text_append, htake, hdrop]
  simp [hsource, hbefore, hafter, htarget, after?, EdgeStart.edge]

/-- What is read as an edge is written as one. -/
theorem exists_of_numberedEdge? {text rest : Text} {edge : NumberedEdge}
    (h : numberedEdge? text = some (edge, rest)) :
    ∃ e : EdgeStart, e.edge = edge ∧ text = e.text ++ rest := by
  simp only [numberedEdge?, Option.bind_eq_bind, Option.bind_eq_some_iff] at h
  obtain ⟨⟨source, afterSource⟩, hsource, ⟨before, beforeArrow⟩, hbefore, afterArrow, harrow,
    ⟨after, beforeTarget⟩, hafter, ⟨target, afterTarget⟩, htarget, last, hlast, heq⟩ := h
  obtain ⟨rfl, rfl⟩ := Prod.mk.inj (Option.some.inj heq)
  obtain ⟨hsourceNe, hsourceText⟩ := eq_append_of_run? hsource
  obtain ⟨hbeforeNe, rfl⟩ := eq_append_of_run? hbefore
  obtain ⟨hafterNe, rfl⟩ := eq_append_of_run? hafter
  obtain ⟨htargetNe, rfl⟩ := eq_append_of_run? htarget
  rw [after?_eq_some] at harrow hlast
  subst harrow hlast
  refine ⟨⟨⟨text.takeWhile isIndent, List.all_eq_true.mp List.all_takeWhile⟩,
    ⟨source, hsourceNe, run?_word hsource⟩, ⟨⟨before, run?_word hbefore⟩, hbeforeNe⟩,
    ⟨⟨after, run?_word hafter⟩, hafterNe⟩, ⟨target, htargetNe, run?_word htarget⟩⟩, rfl, ?_⟩
  rw [EdgeStart.text_append]
  have hsplit := List.takeWhile_append_dropWhile (p := isIndent) (l := text)
  rw [hsourceText] at hsplit
  simpa using hsplit.symm

/-- A line that begins with a numbered edge. -/
def EdgeLine (line : Text) : Prop :=
  ∃ (e : EdgeStart) (rest : Text), line = e.text ++ rest

theorem numberedEdge?_eq_none_iff {text : Text} : numberedEdge? text = none ↔ ¬ EdgeLine text := by
  constructor
  · rintro hnone ⟨e, rest, rfl⟩
    rw [numberedEdge?_append] at hnone
    cases hnone
  · intro h
    cases hedge : numberedEdge? text with
    | none => rfl
    | some found =>
      obtain ⟨e, _, htext⟩ := exists_of_numberedEdge? hedge
      exact absurd ⟨e, found.2, htext⟩ h

/-! Lines that go. -/

def BlankLine (line : Text) : Prop :=
  ∀ c ∈ line, isBlank c = true

/-- A line with two slashes behind nothing but blanks. -/
def CommentLine (line : Text) : Prop :=
  ∃ blanks rest, (∀ c ∈ blanks, isBlank c = true) ∧ line = blanks ++ '/' :: '/' :: rest

theorem isComment_iff {line : Text} : isComment line = true ↔ CommentLine line := by
  unfold isComment
  rw [Option.isSome_iff_exists]
  constructor
  · rintro ⟨rest, hrest⟩
    have hsplit := List.takeWhile_append_dropWhile (p := isBlank) (l := line)
    rw [after?_eq_some.mp hrest] at hsplit
    exact ⟨line.takeWhile isBlank, rest, List.all_eq_true.mp List.all_takeWhile, hsplit.symm⟩
  · rintro ⟨blanks, rest, hblanks, rfl⟩
    have hslash : isBlank '/' = false := by decide
    refine ⟨rest, ?_⟩
    rw [List.dropWhile_append_of_pos hblanks, List.dropWhile_cons_of_neg (by simp [hslash])]
    exact after?_eq_some.mpr rfl

theorem isKept_iff {line : Text} : isKept line = true ↔ ¬ BlankLine line ∧ ¬ CommentLine line := by
  have hblank : line.all isBlank = true ↔ BlankLine line := List.all_eq_true
  rw [isKept, Bool.and_eq_true, Bool.not_eq_true', Bool.not_eq_true', ← Bool.not_eq_true,
    ← Bool.not_eq_true, hblank, isComment_iff]

theorem isKept_of {line : Text} {c : Char} (hc : c ∈ line) (hblank : isBlank c = false)
    (hhead : (line.dropWhile isBlank).head? ≠ some '/') : isKept line = true := by
  have hcomment : isComment line = false := by
    simp [isComment, after?_eq_none hhead]
  have hall : line.all isBlank = false := by
    rw [List.all_eq_false]
    exact ⟨c, hc, by simp [hblank]⟩
  simp [isKept, hcomment, hall]

/-- A line with an edge is neither blank nor a comment. -/
theorem isKept_edge (e : EdgeStart) (rest : Text) : isKept (e.text ++ rest) = true := by
  obtain ⟨c, digits, hsource⟩ := List.exists_cons_of_ne_nil e.source.ne_nil
  have hdecimal := e.source.isDecimal c (hsource ▸ List.mem_cons_self)
  have hblank : ∀ d ∈ e.indent.text, isBlank d = true :=
    fun d hd => isBlank_of_isIndent (e.indent.isIndent d hd)
  have hmem : c ∈ e.text ++ rest := by
    simp [EdgeStart.text, hsource]
  apply isKept_of hmem (isBlank_of_isDecimal hdecimal)
  rw [EdgeStart.text_append, hsource, List.dropWhile_append_of_pos hblank, List.cons_append,
    List.dropWhile_cons_of_neg (by simp [isBlank_of_isDecimal hdecimal]), List.head?_cons]
  intro hslash
  exact ne_of_class hdecimal (by decide) (Option.some.inj hslash)

/-- A quote behind nothing but indentation makes a line that stays. -/
theorem isKept_indent_quote (indent : Graph.Indent) (rest : Text) :
    isKept (indent.text ++ '"' :: rest) = true := by
  have hindent : ∀ c ∈ indent.text, isBlank c = true :=
    fun c hc => isBlank_of_isIndent (indent.isIndent c hc)
  have hquote : isBlank '"' = false := by decide
  apply isKept_of (c := '"') (by simp) hquote
  rw [List.dropWhile_append_of_pos hindent]
  simp [hquote]

end DepView.Dependency
