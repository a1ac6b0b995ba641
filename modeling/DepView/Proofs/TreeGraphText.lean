import DepView.Proofs.StatementRows
import DepView.Proofs.TreeVisits
import Mathlib.Data.List.Nodup

/-!
A tree that is written as graph text is read back without loss. Its text has one
statement a line, so reading gives a node for each visit and an edge for each relation
of the tree, and nothing that stands in a type is taken for structure.
-/

namespace DepView.Shape

open Text DepView.Graph

/-- The graph of a tree. Of a type, only the line endings may change. -/
def graph (start : Text) (shape : Shape) : Graph where
  nodes := shape.preorder.zipIdx.map fun (type, number) => ⟨nodeId start number, foldCrlf type⟩
  edges := (shape.relations 0).map fun (parent, child) =>
    ⟨nodeId start parent, nodeId start child⟩

theorem isIdent_nodeId {start : Text} (h : ∀ c ∈ start, isIdent c = true) (number : Nat) :
    ∀ c ∈ nodeId start number, isIdent c = true := by
  intro c hc
  rcases List.mem_append.mp hc with hc | hc
  · exact h c hc
  · have hdigit : c.isDigit = true :=
      Nat.isDigit_of_mem_toDigits (by omega) (by omega) hc
    simp [isIdent, Char.isAlphanum, hdigit]

theorem nodeId_ne_nil (start : Text) (number : Nat) : nodeId start number ≠ [] := by
  intro hnil
  have hdigits := (List.append_eq_nil_iff.mp hnil).2
  exact Nat.toDigits_ne_nil hdigits

theorem nodeId_injective (start : Text) : Function.Injective (nodeId start) :=
  fun _ _ h => Decimal.digits_injective (List.append_cancel_left h)

/-! The rows of the text. -/

/-- The identifier of the node with a number. -/
def ident (start : Text) (h : ∀ c ∈ start, isIdent c = true) (number : Nat) : Ident :=
  ⟨nodeId start number, nodeId_ne_nil start number, isIdent_nodeId h number⟩

/-- The indentation of all statements. -/
def indent : Indent := ⟨[' ', ' '], class_of_all (by decide)⟩

/-- The rows of a visit: the declaration of the node, and the edge to it. -/
def Visit.rows (start : Text) (h : ∀ c ∈ start, isIdent c = true) (v : Visit) : List Row :=
  .node indent (ident start h v.number) v.type ::
    (v.parent.map fun parent => .link indent (ident start h parent) (ident start h v.number)).toList

theorem isWord_graphName (name : Text) : ∀ c ∈ graphName name, isWord c = true := by
  intro c hc
  unfold graphName at hc
  split at hc
  · have hall : ∀ c ∈ "AST".toList, isWord c = true := class_of_all (by decide +kernel)
    exact hall c hc
  · obtain ⟨d, _, hd⟩ := List.mem_map.mp hc
    by_cases hword : isWord d = true
    · rw [if_pos hword] at hd
      rw [← hd]
      exact hword
    · rw [if_neg hword] at hd
      rw [← hd]
      decide

theorem isWord_opening (name : Text) :
    ∀ c ∈ "digraph ".toList ++ graphName name ++ [' '], isWord c = true ∨ c = ' ' := by
  intro c hc
  simp only [List.mem_append, List.mem_singleton] at hc
  rcases hc with (hc | hc) | hc
  · exact word_of_all (by decide +kernel) c hc
  · exact Or.inl (isWord_graphName name c hc)
  · exact Or.inr hc

def opening (name : Text) : Frame where
  words := "digraph ".toList ++ graphName name ++ [' ']
  brace := '\x7b'
  isWord := isWord_opening name
  isBrace := Frame.isBrace_opening

def closing : Frame := ⟨[], '\x7d', fun _ hc => (List.not_mem_nil hc).elim, Or.inr rfl⟩

def rows (name start : Text) (h : ∀ c ∈ start, isIdent c = true) (shape : Shape) : List Row :=
  .frame (opening name) :: (visits none 0 shape).flatMap (Visit.rows start h) ++ [.frame closing]

theorem map_text_rows (start : Text) (h : ∀ c ∈ start, isIdent c = true) (v : Visit) :
    (v.rows start h).map Row.text = v.lines start := by
  have hstart : " [label=\"".toList = Row.labelStart ++ ['"'] := rfl
  have hstop : "\"];".toList = '"' :: Row.labelStop := rfl
  have harrow : " -> ".toList = Row.arrow := rfl
  obtain ⟨parent, number, type⟩ := v
  cases parent with
  | none => simp [Visit.rows, Visit.lines, nodeLines, declaration, Row.text, indent, ident,
      hstart, hstop]
  | some parent => simp [Visit.rows, Visit.lines, nodeLines, declaration, edgeLine, Row.text,
      indent, ident, hstart, hstop, harrow]

theorem toDot_eq_rowsText (name start : Text) (h : ∀ c ∈ start, isIdent c = true)
    (shape : Shape) : shape.toDot name start = rowsText (rows name start h shape) := by
  have hvisits : visit start 0 [(shape, none)] =
      ((visits none 0 shape).flatMap (Visit.rows start h)).map Row.text := by
    rw [visit_root, List.map_flatMap]
    congr 1
    funext v
    exact (map_text_rows start h v).symm
  have hopening : (Row.frame (opening name)).text =
      "digraph ".toList ++ graphName name ++ [' ', '\x7b'] :=
    List.append_assoc _ _ _
  have hlines : dotLines name start shape = (rows name start h shape).map Row.text := by
    unfold dotLines rows
    rw [hvisits, ← hopening]
    simp [Row.text, Frame.text, closing]
  unfold toDot rowsText
  rw [hlines, List.flatMap_map]

/-! The graph of the rows. -/

theorem declared_visit (start : Text) (h : ∀ c ∈ start, isIdent c = true) (v : Visit) :
    ((v.rows start h).map Row.folded).flatMap Row.declared =
      [⟨nodeId start v.number, foldCrlf v.type⟩] := by
  obtain ⟨parent, number, type⟩ := v
  cases parent <;> rfl

theorem drawn_visit (start : Text) (h : ∀ c ∈ start, isIdent c = true) (v : Visit) :
    ((v.rows start h).map Row.folded).flatMap Row.drawn =
      (v.relation?.map fun (parent, child) =>
        (⟨nodeId start parent, nodeId start child⟩ : Edge)).toList := by
  obtain ⟨parent, number, type⟩ := v
  cases parent <;> rfl

theorem declared_rows (name start : Text) (h : ∀ c ∈ start, isIdent c = true) (shape : Shape) :
    ((rows name start h shape).map Row.folded).flatMap Row.declared =
      (graph start shape).nodes := by
  have hvisits : ((visits none 0 shape).flatMap fun v =>
      ((v.rows start h).map Row.folded).flatMap Row.declared) =
      ((visits none 0 shape).map fun v => (v.type, v.number)).map
        fun (type, number) => ⟨nodeId start number, foldCrlf type⟩ := by
    simp only [declared_visit, ← List.map_eq_flatMap, List.map_map]
    rfl
  rw [map_type_visits] at hvisits
  simp only [rows, List.map_append, List.map_cons, List.map_flatMap, List.flatMap_append,
    List.flatMap_cons, List.flatMap_assoc, hvisits]
  simp [Row.folded, Row.declared, graph]

theorem drawn_rows (name start : Text) (h : ∀ c ∈ start, isIdent c = true) (shape : Shape) :
    ((rows name start h shape).map Row.folded).flatMap Row.drawn = (graph start shape).edges := by
  have hvisits : ((visits none 0 shape).flatMap fun v =>
      ((v.rows start h).map Row.folded).flatMap Row.drawn) =
      ((visits none 0 shape).filterMap Visit.relation?).map
        fun (parent, child) => ⟨nodeId start parent, nodeId start child⟩ := by
    rw [List.map_filterMap, List.filterMap_eq_flatMap_toList]
    congr 1
    funext v
    exact drawn_visit start h v
  rw [filterMap_relation_visits] at hvisits
  simp only [rows, List.map_append, List.map_cons, List.map_flatMap, List.flatMap_append,
    List.flatMap_cons, List.flatMap_assoc, hvisits]
  simp [Row.folded, Row.drawn, graph]

/-- The identifiers of the nodes are numbered without gap. -/
theorem ids_graph (start : Text) (shape : Shape) :
    (graph start shape).ids = (List.range shape.size).map (nodeId start) := by
  have hnumbers : (shape.preorder.zipIdx).map Prod.snd = List.range shape.size := by
    rw [← List.unzip_snd, List.unzip_zipIdx_eq_prod, length_preorder, List.range_eq_range']
  rw [← hnumbers, List.map_map]
  simp [ids, graph, Function.comp_def]

theorem mem_ids_graph {start : Text} {shape : Shape} {number : Nat} (h : number < shape.size) :
    nodeId start number ∈ (graph start shape).ids := by
  rw [ids_graph]
  exact List.mem_map_of_mem (List.mem_range.mpr h)

theorem relations_lt_size {shape : Shape} {pair : Nat × Nat} (h : pair ∈ shape.relations 0) :
    pair.1 < pair.2 ∧ pair.2 < shape.size := by
  have hlt := (fst_lt_of_mem_relations 0 shape pair h).2
  have hmem : pair.2 ∈ 0 :: (shape.relations 0).map Prod.snd :=
    List.mem_cons_of_mem _ (List.mem_map_of_mem h)
  rw [map_snd_relations] at hmem
  have hsize := (List.mem_range'_1.mp hmem).2
  omega

/-- Building the graph of the rows adds each node once, and then the edges between them. -/
theorem ofRows_rows (name start : Text) (h : ∀ c ∈ start, isIdent c = true) (shape : Shape) :
    ofRows ((rows name start h shape).map Row.folded) = graph start shape := by
  have hnodup : (graph start shape).ids.Nodup := by
    rw [ids_graph]
    exact List.Nodup.map (nodeId_injective start) List.nodup_range
  have hnodes : ((graph start shape).nodes).foldl (fun g n => g.addNode n.id n.label) empty =
      ⟨(graph start shape).nodes, []⟩ :=
    foldl_addNode empty _ hnodup
  have hedges : ∀ e ∈ (graph start shape).edges,
      e.source ∈ (graph start shape).ids ∧ e.target ∈ (graph start shape).ids := by
    intro e he
    obtain ⟨⟨parent, child⟩, hpair, rfl⟩ := List.mem_map.mp he
    have hlt := relations_lt_size hpair
    exact ⟨mem_ids_graph (by omega), mem_ids_graph hlt.2⟩
  unfold ofRows
  rw [declared_rows, drawn_rows, hnodes]
  exact foldl_addEdge_of_mem ⟨(graph start shape).nodes, []⟩ _ hedges

/-- Writing a tree as graph text and reading the text gives the graph of the tree: the types in
preorder under consecutive numbers, and one edge for each node behind the root, in the order of
the visit. -/
theorem read_toDot (name start : Text) (shape : Shape)
    (hstart : ∀ c ∈ start, isIdent c = true) :
    Graph.read (shape.toDot name start) = (.labeledNode, shape.graph start) ∧
      (shape.graph start).ids = (List.range shape.size).map (nodeId start) ∧
      (shape.graph start).nodes.map (·.label) = shape.preorder.map foldCrlf ∧
      (shape.relations 0).map Prod.snd = List.range' 1 (shape.size - 1) ∧
      (shape.graph start).edgeCount = shape.size - 1 := by
  have hsize : shape.size - 1 + 1 = shape.size := by
    cases shape
    simp only [size]
    omega
  have hchildren : (shape.relations 0).map Prod.snd = List.range' 1 (shape.size - 1) := by
    have h := map_snd_relations 0 shape
    rw [← hsize, List.range'_succ] at h
    exact (List.cons.inj h).2
  refine ⟨?_, ids_graph start shape, ?_, hchildren, ?_⟩
  · rw [toDot_eq_rowsText name start hstart, read_rowsText, ofRows_rows]
  · have htypes : shape.preorder.zipIdx.map Prod.fst = shape.preorder := List.zipIdx_map_fst 0 _
    rw [← htypes, List.map_map]
    simp [graph, Function.comp_def]
  · have hlength := congrArg List.length hchildren
    simpa [edgeCount, graph] using hlength

/-- Types that imitate quoted edges, declarations and edges. -/
theorem read_toDot_imitations :
    (∀ c ∈ ['n'], isIdent c = true) ∧
      Graph.read (toDot [] ['n'] (.node "\"->\"\r\n".toList
        [.node "\"]; n0 -> n0; n1 [label=\"".toList [], .node [] []])) =
      (.labeledNode,
        ⟨[⟨"n0".toList, "\"->\"\n".toList⟩,
          ⟨"n1".toList, "\"]; n0 -> n0; n1 [label=\"".toList⟩, ⟨"n2".toList, []⟩],
         [⟨"n0".toList, "n1".toList⟩, ⟨"n0".toList, "n2".toList⟩]⟩) :=
  ⟨class_of_all (by decide), (read_toDot [] ['n'] _ (class_of_all (by decide))).1.trans (by decide)⟩

end DepView.Shape
