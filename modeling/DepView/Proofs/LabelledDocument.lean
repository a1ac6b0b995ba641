import DepView.Proofs.DependencyDocument
import DepView.Proofs.GraphBuilding

/-!
Documents of labelled nodes. Each line of a document is a row: it declares a node, draws an
edge, or opens or closes the graph, in any order. A document is read back in full: first the
declared nodes in the order of their first declarations, each with its last label, then those
that only edges mention, and all edges as they stand.
-/

namespace DepView.Graph

open Text

/-- The label that declarations give an identifier last. Without one it stands for itself. -/
def lastLabel (declared : List Node) (id : Text) : Text :=
  (Table.last? (declared.map fun n => (n.id, n.label)) id).getD id

theorem lastLabel_of_notMem {declared : List Node} {id : Text}
    (h : id ∉ declared.map (·.id)) : lastLabel declared id = id := by
  unfold lastLabel
  cases hlast : Table.last? (declared.map fun n => (n.id, n.label)) id with
  | none => rfl
  | some label =>
    obtain ⟨n, hn, heq⟩ := List.mem_map.mp (Table.mem_of_last? hlast)
    obtain ⟨rfl, rfl⟩ := Prod.mk.inj heq
    exact absurd (List.mem_map_of_mem hn) h

/-- Of all declarations of an identifier the first gives its place, and the last its label. -/
theorem foldl_addNode_labelled (label : Text → Text) (mentioned : List Text) (edges : List Edge)
    (declared : List Node) :
    declared.foldl (fun (g : Graph) n => g.addNode n.id n.label) ⟨labelled label mentioned, edges⟩ =
      ⟨labelled
        (fun id => (Table.last? (declared.map fun n => (n.id, n.label)) id).getD (label id))
        (mentioned ++ declared.map (·.id)), edges⟩ := by
  induction declared generalizing label mentioned with
  | nil => simp [Table.last?]
  | cons n declared ih =>
    rw [List.foldl_cons, addNode_labelled, ih, List.map_cons, List.map_cons, List.append_assoc,
      List.singleton_append]
    congr 2
    funext id
    rw [Table.last?_cons]
    cases Table.last? (declared.map fun n => (n.id, n.label)) id with
    | some found => rfl
    | none =>
      by_cases h : n.id = id
      · simp [h]
      · simp [h, Ne.symm h]

/-- The graph of some rows. -/
theorem ofRows_eq (rows : List Row) :
    let declared := rows.flatMap Row.declared
    let drawn := rows.flatMap Row.drawn
    ofRows rows =
      ⟨labelled (lastLabel declared) (declared.map (·.id)) ++
        selfLabelled ((mentions drawn).removeAll (declared.map (·.id))), drawn⟩ := by
  intro declared drawn
  have hdeclared : declared.foldl (fun g n => g.addNode n.id n.label) empty =
      ⟨labelled (lastLabel declared) (declared.map (·.id)), []⟩ :=
    foldl_addNode_labelled (fun id => id) [] [] declared
  have hdrawn := foldl_addEdge_labelled (lastLabel declared) (declared.map (·.id))
    (fun id => lastLabel_of_notMem) [] drawn
  have hself : ∀ id ∈ ((mentions drawn).removeAll (declared.map (·.id))).eraseDups,
      (⟨id, lastLabel declared id⟩ : Node) = ⟨id, id⟩ := by
    intro id hid
    have hmem := List.mem_eraseDups.mp hid
    rw [List.removeAll, List.mem_filter] at hmem
    rw [lastLabel_of_notMem (by simpa using hmem.2)]
  have hsplit : labelled (lastLabel declared) (declared.map (·.id) ++ mentions drawn) =
      labelled (lastLabel declared) (declared.map (·.id)) ++
        selfLabelled ((mentions drawn).removeAll (declared.map (·.id))) := by
    unfold labelled selfLabelled
    rw [List.eraseDups_append, List.map_append, List.map_congr_left hself]
  unfold ofRows
  rw [hdeclared, hdrawn, hsplit, List.nil_append]

/-- Rows with the endings of their lines, and perhaps a last row whose line has none. -/
structure RowDocument where
  body : List (Row × Dependency.Ending)
  last : Option Row

namespace RowDocument

def text (d : RowDocument) : Text :=
  (d.body.flatMap fun (row, ending) => row.text ++ ending.text) ++ d.last.elim [] Row.text

def rows (d : RowDocument) : List Row :=
  d.body.map (·.1) ++ d.last.toList

/-- All declarations, in order. -/
def declared (d : RowDocument) : List Node :=
  d.rows.flatMap Row.declared

/-- All edges, in order. -/
def drawn (d : RowDocument) : List Edge :=
  d.rows.flatMap Row.drawn

/-- The endings of lines are folded, and those in labels. -/
theorem foldCrlf_text (d : RowDocument) :
    foldCrlf d.text =
      openText (d.body.map fun (row, _) => row.folded) (d.last.map Row.folded) := by
  obtain ⟨body, last⟩ := d
  have hlast : foldCrlf (last.elim [] Row.text) = (last.map Row.folded).elim [] Row.text := by
    cases last with
    | none => rfl
    | some row => exact foldCrlf_row row
  induction body with
  | nil => simpa [text, openText, rowsText] using hlast
  | cons head body ih =>
    obtain ⟨row, ending⟩ := head
    have hcons : text ⟨(row, ending) :: body, last⟩ =
        row.text ++ (ending.text ++ text ⟨body, last⟩) := by
      simp [text]
    have hline : foldCrlf (text ⟨(row, ending) :: body, last⟩) =
        row.folded.text ++ '\n' :: foldCrlf (text ⟨body, last⟩) := by
      rw [hcons, ← foldCrlf_row]
      cases ending with
      | lf =>
        rw [foldCrlf_append fun hlast => False.elim (getLast?_row row hlast),
          Dependency.Ending.text, List.singleton_append, foldCrlf_cons (by simp)]
      | crlf =>
        rw [Dependency.Ending.text, List.cons_append, foldCrlf_append_cons (by decide),
          List.singleton_append, foldCrlf_crlf]
    rw [hline, ih]
    simp [openText, rowsText]

/-- A label without a carriage return stays as it is. -/
theorem folded_of_declared {row : Row} (h : ∀ n ∈ row.declared, '\r' ∉ n.label) :
    row.folded = row := by
  cases row with
  | node indent id label =>
    have hlabel := foldCrlf_of_cr_notMem (h ⟨id.text, label⟩ List.mem_cons_self)
    rw [Row.folded, hlabel]
  | _ => rfl

/-- A document is read as the graph of its rows. The declared identifiers come first, each in
the place of its first declaration and with the label of its last one. Those that are only
mentioned follow with themselves as labels, and the edges are all there in their order. -/
theorem read_rowDocument (d : RowDocument) (h : ∀ n ∈ d.declared, '\r' ∉ n.label) :
    read d.text =
      (.labeledNode,
        ⟨labelled (lastLabel d.declared) (d.declared.map (·.id)) ++
            selfLabelled ((mentions d.drawn).removeAll (d.declared.map (·.id))),
          d.drawn⟩) := by
  have hfolded : (d.body.map fun (row, _) => row.folded) ++ (d.last.map Row.folded).toList =
      d.rows := by
    have hrow : ∀ row ∈ d.rows, row.folded = row := fun row hrow =>
      folded_of_declared fun n hn => h n (List.mem_flatMap.mpr ⟨row, hrow, hn⟩)
    have hall : d.rows.map Row.folded = d.rows :=
      (List.map_congr_left hrow).trans (List.map_id' d.rows)
    have hmap : d.rows.map Row.folded =
        (d.body.map fun (row, _) => row.folded) ++ (d.last.map Row.folded).toList := by
      simp [rows, Option.toList_map]
    rw [← hmap, hall]
  have hread := read_of_foldCrlf (foldCrlf_text d)
  rw [hfolded, ofRows_eq] at hread
  exact hread

/-- Edges before declarations, an identifier that is declared twice, one that is not declared, and
labels that look like statements. -/
def imitations : RowDocument where
  body :=
    [(.frame ⟨"digraph G ".toList, '\x7b', word_of_all (by decide +kernel),
        Frame.isBrace_opening⟩, .lf),
      (.link ⟨['\t'], class_of_all (by decide)⟩ label a, .crlf),
      (.node ⟨[], class_of_all (by decide)⟩ a "\"->\"\n a -> a; [label=".toList, .lf),
      (.node ⟨['\t', ' '], class_of_all (by decide)⟩ label [], .lf),
      (.link ⟨[], class_of_all (by decide)⟩ a b, .lf),
      (.node ⟨[], class_of_all (by decide)⟩ a "\"]; b [label=\"".toList, .lf)]
  last := some (.link ⟨[], class_of_all (by decide)⟩ b b)
where
  a : Ident := ⟨['a'], by decide, class_of_all (by decide)⟩
  b : Ident := ⟨['b'], by decide, class_of_all (by decide)⟩
  label : Ident := ⟨"label".toList, by decide, class_of_all (by decide)⟩

theorem read_rowDocument_imitations :
    (∀ n ∈ imitations.declared, '\r' ∉ n.label) ∧
      read imitations.text =
        (.labeledNode,
          ⟨[⟨['a'], "\"]; b [label=\"".toList⟩, ⟨"label".toList, []⟩, ⟨['b'], ['b']⟩],
            [⟨"label".toList, ['a']⟩, ⟨['a'], ['b']⟩, ⟨['b'], ['b']⟩]⟩) :=
  ⟨by decide, (read_rowDocument imitations (by decide)).trans (by decide)⟩

end RowDocument

end DepView.Graph
