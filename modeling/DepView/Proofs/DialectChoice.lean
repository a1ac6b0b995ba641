import DepView.Proofs.WellFormedGraphs

/-!
The dialect of a text and what is read from it agree. A quoted edge is written on one line: no part
of it is a line feed, and no carriage return in it stands before one. So it makes no difference
whether such an edge is looked for in the whole text or line by line, before or after line endings
are folded, and a text is of the quoted dialect just if the scan of its lines finds an edge.
-/

namespace DepView

namespace Text

/-- A pattern occurs in a text if it matches at some place in it. -/
theorem Pattern.occursIn_iff_suffix {α : Type} (p : Pattern α) (text : Text) :
    p.occursIn text = true ↔ ∃ part, part <:+ text ∧ (p.match? part).isSome = true := by
  have hnil : p.match? [] = none := by
    cases h : p.match? [] with
    | none => rfl
    | some found => exact absurd (p.rest_lt h) (Nat.not_lt_zero _)
  induction text with
  | nil => simp [occursIn, hnil]
  | cons c tail ih => simp [occursIn, ih, List.suffix_cons_iff, or_and_right, exists_or]

/-- Unescaping leaves something of a text that is not empty. -/
theorem Quoted.unescape_ne_nil {text : Text} (h : text ≠ []) : unescape text ≠ [] := by
  fun_cases unescape text with
  | case1 => exact absurd rfl h
  | case2 | case3 | case4 => exact List.cons_ne_nil _ _

end Text

namespace Graph

open Text

/-- A label as it can stand between the quotes of an edge. -/
structure WrittenLabel where
  inside : Text
  ne_nil : inside ≠ []
  isInside : Quoted.Inside false inside

/-- A quoted edge as it is written. -/
structure WrittenEdge where
  source : WrittenLabel
  before : Indent
  after : Indent
  target : WrittenLabel

namespace WrittenEdge

/-- The edge up to its closing quote. -/
def front (e : WrittenEdge) : Text :=
  '"' :: e.source.inside ++ ['"'] ++ e.before.text ++ ['-', '>'] ++ e.after.text ++
    '"' :: e.target.inside

def text (e : WrittenEdge) : Text :=
  e.front ++ ['"']

/-- The edge between its labels, still escaped. -/
def edge (e : WrittenEdge) : Edge :=
  ⟨e.source.inside, e.target.inside⟩

theorem text_append (e : WrittenEdge) (rest : Text) :
    e.text ++ rest = '"' :: (e.source.inside ++ '"' :: (e.before.text ++ '-' :: '>' ::
      (e.after.text ++ '"' :: (e.target.inside ++ '"' :: rest)))) := by
  simp [text, front]

end WrittenEdge

theorem WrittenLabel.lf_notMem (label : WrittenLabel) : '\n' ∉ label.inside := by
  have h := label.isInside
  generalize label.inside = inside at h
  induction h with
  | nil => exact List.not_mem_nil
  | plain _ _ hlf _ ih =>
    rw [List.mem_cons, not_or]
    exact ⟨fun heq => absurd (hlf heq.symm) Bool.false_ne_true, ih⟩
  | escaped hlf _ ih => simp [Ne.symm hlf, ih]

/-- A quoted edge is on one line. -/
theorem WrittenEdge.lf_notMem (e : WrittenEdge) : '\n' ∉ e.text := by
  have hsource := e.source.lf_notMem
  have htarget := e.target.lf_notMem
  have hbefore : '\n' ∉ e.before.text := fun hmem => absurd (e.before.isIndent _ hmem) (by decide)
  have hafter : '\n' ∉ e.after.text := fun hmem => absurd (e.after.isIndent _ hmem) (by decide)
  simp [text, front, hsource, htarget, hbefore, hafter]

/-- A quoted edge is read where one is written. -/
theorem quotedEdge?_eq_some_iff {text rest : Text} {edge : Edge} :
    quotedEdge? text = some (edge, rest) ↔
      ∃ e : WrittenEdge, e.edge = edge ∧ text = e.text ++ rest := by
  constructor
  · intro h
    simp only [quotedEdge?, Option.bind_eq_bind, Option.bind_eq_some_iff] at h
    obtain ⟨⟨source, afterSource⟩, hsource, afterArrow, harrow, ⟨target, last⟩, htarget, heq⟩ := h
    cases heq
    obtain ⟨hsourceNe, hsourceInside, rfl⟩ := Quoted.label?_eq_some_iff.mp hsource
    obtain ⟨htargetNe, htargetInside, rfl⟩ := Quoted.label?_eq_some_iff.mp htarget
    obtain ⟨before, after, rfl⟩ := eq_of_arrow? harrow
    refine ⟨⟨⟨source, hsourceNe, hsourceInside⟩, before, after,
      ⟨target, htargetNe, htargetInside⟩⟩, rfl, ?_⟩
    rw [WrittenEdge.text_append]
  · rintro ⟨e, rfl, rfl⟩
    have hsource : ∀ more, Quoted.label? ('"' :: (e.source.inside ++ '"' :: more)) =
        some (e.source.inside, more) :=
      fun more => Quoted.label?_eq_some_iff.mpr ⟨e.source.ne_nil, e.source.isInside, rfl⟩
    have htarget : ∀ more, Quoted.label? ('"' :: (e.target.inside ++ '"' :: more)) =
        some (e.target.inside, more) :=
      fun more => Quoted.label?_eq_some_iff.mpr ⟨e.target.ne_nil, e.target.isInside, rfl⟩
    rw [WrittenEdge.text_append, quotedEdge?, hsource]
    simp [arrow?_between, htarget, WrittenEdge.edge]

/-- A text with a quoted edge somewhere in it. -/
def HoldsEdge (text : Text) : Prop :=
  ∃ e : WrittenEdge, e.text <:+: text

theorem quotedEdge_occursIn_iff (text : Text) :
    quotedEdge.occursIn text = true ↔ HoldsEdge text := by
  rw [Pattern.occursIn_iff_suffix]
  constructor
  · rintro ⟨part, hpart, hmatch⟩
    obtain ⟨⟨edge, rest⟩, hedge⟩ := Option.isSome_iff_exists.mp hmatch
    obtain ⟨e, _, rfl⟩ := quotedEdge?_eq_some_iff.mp hedge
    exact ⟨e, List.infix_iff_prefix_suffix.mpr ⟨_, List.prefix_append e.text rest, hpart⟩⟩
  · rintro ⟨e, hinfix⟩
    obtain ⟨_, ⟨rest, rfl⟩, hpart⟩ := List.infix_iff_prefix_suffix.mp hinfix
    have hedge : quotedEdge? (e.text ++ rest) = some (e.edge, rest) :=
      quotedEdge?_eq_some_iff.mpr ⟨e, rfl, rfl⟩
    exact ⟨e.text ++ rest, hpart, Option.isSome_iff_exists.mpr ⟨_, hedge⟩⟩

/-! The same line by line, and with line endings folded. -/

theorem holdsEdge_iff_lines (text : Text) :
    HoldsEdge text ↔ ∃ line ∈ lines text, HoldsEdge line := by
  unfold HoldsEdge
  constructor
  · rintro ⟨e, hinfix⟩
    obtain ⟨line, hline, hpart⟩ := (infix_iff_lines e.lf_notMem text).mp hinfix
    exact ⟨line, hline, e, hpart⟩
  · rintro ⟨line, hline, e, hpart⟩
    exact ⟨e, (infix_iff_lines e.lf_notMem text).mpr ⟨line, hline, hpart⟩⟩

theorem holdsEdge_foldCrlf (text : Text) : HoldsEdge (foldCrlf text) ↔ HoldsEdge text :=
  exists_congr fun e => infix_foldCrlf e.lf_notMem (by decide) text

theorem dialectOf_eq_quoted_iff (text : Text) : dialectOf text = .quoted ↔ HoldsEdge text := by
  rw [← quotedEdge_occursIn_iff, dialectOf]
  split <;> simp_all

theorem dialectOf_foldCrlf (text : Text) : dialectOf (foldCrlf text) = dialectOf text := by
  have hquoted : dialectOf (foldCrlf text) = .quoted ↔ dialectOf text = .quoted := by
    rw [dialectOf_eq_quoted_iff, dialectOf_eq_quoted_iff, holdsEdge_foldCrlf]
  cases hfolded : dialectOf (foldCrlf text) <;> cases hdialect : dialectOf text <;> simp_all

/-- The scan of the lines finds an edge just where there is one. -/
theorem quotedEdges_ne_nil_iff (text : Text) : quotedEdges text ≠ [] ↔ HoldsEdge text := by
  have hline : ∀ line, quotedEdge.findAll line ≠ [] ↔ HoldsEdge line := fun line => by
    rw [← Pattern.occursIn_iff, quotedEdge_occursIn_iff]
  rw [holdsEdge_iff_lines, quotedEdges, ne_eq, List.flatMap_eq_nil_iff]
  simp only [List.map_eq_nil_iff, not_forall, exists_prop, ← hline, ne_eq]

/-! What the nodes are called. -/

theorem ne_nil_of_mem_quotedEdges {text : Text} :
    ∀ e ∈ quotedEdges text, e.source ≠ [] ∧ e.target ≠ [] := by
  intro e he
  obtain ⟨line, _, hline⟩ := List.mem_flatMap.mp he
  obtain ⟨found, hfound, rfl⟩ := List.mem_map.mp hline
  have hlabels : ∀ found ∈ quotedEdge.findAll line, found.source ≠ [] ∧ found.target ≠ [] := by
    refine Pattern.forall_mem_findAll (fun text found rest hmatch => ?_) line
    obtain ⟨e, rfl, _⟩ := quotedEdge?_eq_some_iff.mp hmatch
    exact ⟨e.source.ne_nil, e.target.ne_nil⟩
  obtain ⟨hsource, htarget⟩ := hlabels found hfound
  exact ⟨Quoted.unescape_ne_nil hsource, Quoted.unescape_ne_nil htarget⟩

/-- In the quoted dialect a node is an end of an edge, and is labelled with its identifier. -/
theorem node_of_mem_ofQuoted {text : Text} {node : Node} (h : node ∈ (ofQuoted text).nodes) :
    node.id ≠ [] ∧ node.label = node.id := by
  rw [ofQuoted, ofEdges_eq] at h
  obtain ⟨id, hid, rfl⟩ := List.mem_map.mp h
  refine ⟨?_, rfl⟩
  obtain ⟨e, he, hend⟩ := List.mem_flatMap.mp (List.mem_eraseDups.mp hid)
  obtain ⟨hsource, htarget⟩ := ne_nil_of_mem_quotedEdges e he
  rcases List.mem_cons.mp hend with rfl | hend
  · exact hsource
  · exact List.mem_singleton.mp hend ▸ htarget

theorem isEmpty_ofQuoted (text : Text) : (ofQuoted text).isEmpty = (quotedEdges text).isEmpty := by
  rw [ofQuoted, ofEdges_eq]
  cases quotedEdges text with
  | nil => rfl
  | cons e edges => simp [mentions, selfLabelled, isEmpty, List.eraseDups_cons]

theorem ne_nil_of_declaration? {text rest : Text} {node : Node}
    (h : declaration? text = some (node, rest)) : node.id ≠ [] := by
  simp only [declaration?, Option.bind_eq_bind, Option.bind_eq_some_iff] at h
  obtain ⟨⟨id, _⟩, hid, _, _, _, _, ⟨label, _⟩, _, _, _, heq⟩ := h
  cases heq
  exact (eq_append_of_run? hid).1

theorem ne_nil_of_identEdge? {text rest : Text} {edge : Edge}
    (h : identEdge? text = some (edge, rest)) : edge.source ≠ [] ∧ edge.target ≠ [] := by
  simp only [identEdge?, Option.bind_eq_bind, Option.bind_eq_some_iff] at h
  obtain ⟨⟨source, _⟩, hsource, _, _, ⟨target, _⟩, htarget, heq⟩ := h
  cases heq
  exact ⟨(eq_append_of_run? hsource).1, (eq_append_of_run? htarget).1⟩

/-- No node is without a name. -/
def Named (g : Graph) : Prop :=
  ∀ id ∈ g.ids, id ≠ []

theorem Named.addNode {g : Graph} (h : g.Named) {id : Text} (hid : id ≠ []) (label : Text) :
    (g.addNode id label).Named := by
  intro other hother
  rcases mem_ids_addNode.mp hother with hother | rfl
  · exact h other hother
  · exact hid

theorem Named.ensureNode {g : Graph} (h : g.Named) {id : Text} (hid : id ≠ []) :
    (g.ensureNode id).Named := by
  intro other hother
  rcases mem_ids_ensureNode.mp hother with hother | rfl
  · exact h other hother
  · exact hid

theorem Named.addEdge {g : Graph} (h : g.Named) {source target : Text} (hsource : source ≠ [])
    (htarget : target ≠ []) : (g.addEdge source target).Named :=
  (h.ensureNode hsource).ensureNode htarget

theorem named_ofLabeledNodes (text : Text) : (ofLabeledNodes text).Named := by
  have hdeclared : ∀ n ∈ declaration.findAll text, n.id ≠ [] :=
    Pattern.forall_mem_findAll (fun _ _ _ hmatch => ne_nil_of_declaration? hmatch) text
  have hdrawn : ∀ unquoted, ∀ e ∈ identEdge.findAll unquoted, e.source ≠ [] ∧ e.target ≠ [] :=
    Pattern.forall_mem_findAll fun _ _ _ hmatch => ne_nil_of_identEdge? hmatch
  have hempty : empty.Named := fun _ hid => nomatch hid
  refine List.foldlRecOn (motive := Named) _ _ ?_ fun g hg e he => ?_
  · exact List.foldlRecOn (motive := Named) _ _ hempty fun g hg n hn =>
      hg.addNode (hdeclared n hn) _
  · exact hg.addEdge (hdrawn _ e he).1 (hdrawn _ e he).2

/-! The dialect and the graph. -/

theorem read_fst (text : Text) : (read text).1 = dialectOf text := by
  rw [← dialectOf_foldCrlf]
  unfold read
  dsimp only
  split <;> simp [*]

theorem read_of_quoted {text : Text} (h : dialectOf text = .quoted) :
    (read text).2 = ofQuoted (foldCrlf text) := by
  rw [← dialectOf_foldCrlf] at h
  simp only [read, h]

theorem read_of_labeledNode {text : Text} (h : dialectOf text = .labeledNode) :
    (read text).2 = ofLabeledNodes (foldCrlf text) := by
  rw [← dialectOf_foldCrlf] at h
  simp only [read, h]

theorem dialectOf_eq_labeledNode_iff (text : Text) :
    dialectOf text = .labeledNode ↔ ¬ HoldsEdge text := by
  rw [← dialectOf_eq_quoted_iff]
  cases dialectOf text <;> simp

theorem dialectOf_eq_quoted_iff_edges (text : Text) :
    dialectOf text = .quoted ↔ quotedEdges (foldCrlf text) ≠ [] := by
  rw [quotedEdges_ne_nil_iff, holdsEdge_foldCrlf, dialectOf_eq_quoted_iff]

theorem node_of_mem_read {text : Text} {node : Node} (h : node ∈ (read text).2.nodes) :
    node.id ≠ [] ∧ (dialectOf text = .quoted → node.label = node.id) := by
  cases hdialect : dialectOf text with
  | quoted =>
    rw [read_of_quoted hdialect] at h
    obtain ⟨hid, hlabel⟩ := node_of_mem_ofQuoted h
    exact ⟨hid, fun _ => hlabel⟩
  | labeledNode =>
    rw [read_of_labeledNode hdialect] at h
    exact ⟨named_ofLabeledNodes _ node.id (List.mem_map_of_mem h), fun hquoted => nomatch hquoted⟩

/-- The dialect of a text does not depend on the form of its line endings, and it is the quoted one
just if the scan of the lines finds an edge, that is if a quoted edge is written on one of them. So
a graph that is read from quoted edges is not empty, and no line has a quoted edge in it that is not
read. No node is without a name, and in the quoted dialect each is labelled with its name. -/
theorem dialectOf_iff_quotedEdges (text : Text) :
    dialectOf text = dialectOf (foldCrlf text) ∧
    (dialectOf text = .quoted ↔ quotedEdges (foldCrlf text) ≠ []) ∧
    (read text).1 = dialectOf text ∧
    ((read text).1 = .quoted → (read text).2.isEmpty = false) ∧
    (∀ form ∈ [text, foldCrlf text],
      ((read text).1 = .labeledNode ↔ ∀ line ∈ lines form, ¬ HoldsEdge line)) ∧
    ∀ node ∈ (read text).2.nodes,
      node.id ≠ [] ∧ ((read text).1 = .quoted → node.label = node.id) := by
  rw [read_fst]
  refine ⟨(dialectOf_foldCrlf text).symm, dialectOf_eq_quoted_iff_edges text, rfl, ?_, ?_,
    fun node hnode => node_of_mem_read hnode⟩
  · intro hquoted
    have hedges := (dialectOf_eq_quoted_iff_edges text).mp hquoted
    rw [read_of_quoted hquoted, isEmpty_ofQuoted, List.isEmpty_eq_false_iff]
    exact hedges
  · have hlines : ∀ form, (HoldsEdge form ↔ HoldsEdge text) →
        (dialectOf text = .labeledNode ↔ ∀ line ∈ lines form, ¬ HoldsEdge line) := by
      intro form hform
      rw [dialectOf_eq_labeledNode_iff, ← hform, holdsEdge_iff_lines]
      simp only [not_exists, not_and]
    simpa using ⟨hlines text Iff.rfl, hlines (foldCrlf text) (holdsEdge_foldCrlf text)⟩

/-- What could be an edge but has a line ending before its target is none. -/
example : quotedEdges (foldCrlf "\"a\" ->\r\n\"b\"\r\n\"b\\\"\" ->\t\"c\"\r\n".toList) =
    [⟨"b\"".toList, "c".toList⟩] := by
  cbv

end Graph

end DepView
