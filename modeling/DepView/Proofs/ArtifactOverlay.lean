import DepView.Overlay.View
import DepView.Proofs.ActionSteps
import DepView.Proofs.ArtifactNames
import DepView.Proofs.JsonAscii
import DepView.Proofs.OverlayEnds
import DepView.Proofs.StoreWrites
import DepView.Proofs.TreeGraphText
import Mathlib

/-!
The overlay of a source file. The dumps of its tree are written, a fetch serves the files of
their directory, and a load of the node with the name of the file finds the graph at the first
location. What the page is handed is the tree itself: its types in preorder, and its relations.
-/

namespace DepView

open Text

namespace Shape

/-! The graph text of a tree. -/

theorem isAscii_nodeId (number : Nat) : IsAscii (nodeId ['n'] number) := by
  simp [nodeId, Decimal.digits, IsAscii.toDigits]

theorem isChain_declaration (number : Nat) {type : Text} (h : type.IsChain Apart) :
    (declaration (nodeId ['n'] number) type).IsChain Apart := by
  have hfront : IsAscii ([' ', ' '] ++ nodeId ['n'] number ++ " [label=\"".toList) :=
    IsAscii.append_iff.mpr
      ⟨IsAscii.append_iff.mpr ⟨by decide, isAscii_nodeId number⟩, by decide⟩
  have hend : IsAscii "];".toList := by decide
  have hlabel := (isChain_append_cons (c := '"') (isOrdinary_of_isAscii (by decide)) _ _).mpr
    ⟨isChain_escape h, hend.isChain⟩
  unfold declaration
  rw [List.append_assoc]
  exact (isChain_ordinary_append hfront.isOrdinary _).mpr hlabel

theorem isAscii_edgeLine (parent child : Nat) :
    IsAscii (edgeLine (nodeId ['n'] parent) (nodeId ['n'] child)) := by
  have harrow : IsAscii " -> ".toList := by decide
  unfold edgeLine
  simp only [IsAscii.append_iff, isAscii_nodeId, harrow]
  decide

theorem type_of_mem_visits {shape : Shape} {v : Visit} (h : v ∈ visits none 0 shape) :
    v.type ∈ shape.preorder := by
  rw [← types_visits none 0 shape]
  exact List.mem_map_of_mem h

theorem isChain_lines {v : Visit} (h : v.type.IsChain Apart) :
    ∀ line ∈ v.lines ['n'], line.IsChain Apart := by
  obtain ⟨parent, number, type⟩ := v
  have hdeclaration := isChain_declaration number h
  cases parent with
  | none => simpa [Visit.lines, nodeLines] using hdeclaration
  | some parent =>
    have hedge := (isAscii_edgeLine parent number).isChain
    simpa [Visit.lines, nodeLines] using ⟨hdeclaration, hedge⟩

/-- The graph text of a tree has a UTF-8 form if its types have one. -/
theorem holdsSurrogate_toDot {shape : Shape}
    (h : ∀ type ∈ shape.preorder, holdsSurrogate type = false) :
    holdsSurrogate (shape.toDot [] ['n']) = false := by
  rw [holdsSurrogate_eq_false]
  unfold toDot dotLines
  apply isChain_flatMap_lines
  intro line hline
  rw [visit_root, List.mem_append, List.mem_cons, List.mem_flatMap, List.mem_singleton] at hline
  rcases hline with (rfl | ⟨v, hv, hline⟩) | rfl
  · exact IsAscii.isChain (by decide)
  · have htype := holdsSurrogate_eq_false.mp (h v.type (type_of_mem_visits hv))
    exact isChain_lines htype line hline
  · exact IsAscii.isChain (by decide)

/-- The elements of a tree: its types in preorder under consecutive numbers, and its relations. -/
def elements (shape : Shape) : List Element :=
  (shape.preorder.zipIdx.map fun (type, number) => .node (nodeId ['n'] number) type none) ++
    Layout.edgeElements 0 ((shape.relations 0).map fun (parent, child) =>
      ⟨nodeId ['n'] parent, nodeId ['n'] child⟩)

theorem nodeElements_nil (nodes : List Node) :
    Layout.nodeElements nodes [] = nodes.map fun n => .node n.id n.label none := by
  induction nodes with
  | nil => rfl
  | cons n nodes ih => rw [Layout.nodeElements, ih, List.map_cons]

/-- The layout of the graph text of a tree shows the tree. -/
theorem elements_layoutOf {shape : Shape} (h : ∀ type ∈ shape.preorder, '\r' ∉ type)
    (v : Overlay.View) : (v.layoutOf (shape.toDot [] ['n'])).elements = shape.elements := by
  have hread : Graph.ofText (shape.toDot [] ['n']) = shape.graph ['n'] := by
    have hstart : ∀ c ∈ ['n'], isIdent c = true := class_of_all (by decide)
    rw [Graph.ofText, toDot_eq_rowsText [] ['n'] hstart, Graph.read_rowsText, ofRows_rows]
  have hnodes : (shape.graph ['n']).nodes.map (fun n => Element.node n.id n.label none) =
      shape.preorder.zipIdx.map fun (type, number) => .node (nodeId ['n'] number) type none := by
    rw [graph, List.map_map]
    apply List.map_congr_left
    rintro ⟨type, number⟩ hpair
    have htype := foldCrlf_of_cr_notMem (h type (List.fst_mem_of_mem_zipIdx hpair))
    simp [htype]
  unfold Overlay.View.layoutOf Layout.elements Layout.hierarchical Layout.points
  dsimp only
  rw [hread, nodeElements_nil, hnodes]
  rfl

end Shape

/-! Writing the dumps. -/

namespace SyntaxTree

/-- The dumps of a tree can be written for a source file: the directory can be made, the three
paths in it can be written, and what is written has a UTF-8 form. How deep a tree an interpreter can
walk before it runs out of stack is not modelled. -/
structure CanDump (s : Store) (tree : SyntaxTree) (source directory : Path) : Prop where
  paths : ∃ made, s.ensureDir directory = .ok made ∧
    (∃ place, made.Writable (TreeFiles.of source directory).textPath place) ∧
    (∃ place, made.Writable (TreeFiles.of source directory).jsonPath place) ∧
    ∃ place, made.Writable (TreeFiles.of source directory).dotPath place
  json : ∃ value, tree.toJson none = .ok value
  expression : holdsSurrogate tree.expression = false
  types : ∀ type ∈ tree.shape.preorder, holdsSurrogate type = false

/-- The dumps are written, and the last of them is the graph text of the tree. -/
theorem run_writeFiles {s : Session} {tree : SyntaxTree} {source directory : Path}
    (h : CanDump s.store tree source directory) : ∃ final,
    (tree.writeFiles source directory).run s = (.ok (TreeFiles.of source directory), final) ∧
      final.store.read (TreeFiles.of source directory).dotPath =
        .ok (Utf8.encode (tree.toDot [] ['n'])) := by
  obtain ⟨made, hmade, ⟨textPlace, htext⟩, ⟨jsonPlace, hjson⟩, ⟨dotPlace, hdot⟩⟩ := h.paths
  obtain ⟨value, hvalue⟩ := h.json
  have hjson' := htext.setEntry (Utf8.encode tree.expression) hjson
  have hdot' := hjson'.setEntry (Utf8.encode value.indented)
    (htext.setEntry (Utf8.encode tree.expression) hdot)
  have hread := hdot'.read_setEntry (Utf8.encode (tree.toDot [] ['n'])) hdot'.locate
  have hshape : ∀ s, (orShapeFault (tree.toJson none)).run s = (.ok value, s) := by
    rw [hvalue]
    exact fun s => rfl
  have hwriteText := Action.run_writeText s h.expression (htext.write_eq _)
  have hwriteJson := Action.run_writeText s (Json.isAscii_indented value).holdsSurrogate
    (hjson'.write_eq _)
  have hwriteDot := Action.run_writeText s (Shape.holdsSurrogate_toDot h.types)
    (hdot'.write_eq _)
  refine ⟨{ s with store := _ }, ?_, hread⟩
  unfold writeFiles
  rw [Action.run_bind_of_ok (Action.run_ensureDir hmade)]
  dsimp only
  rw [Action.run_bind_of_ok hwriteText, Action.run_bind_of_ok (hshape _),
    Action.run_bind_of_ok hwriteJson]
  exact Action.run_bind_of_ok hwriteDot _

end SyntaxTree

/-! Loading a node. -/

namespace Overlay

/-- The file in a directory that is named for a node. -/
def graphFile (directory : Path) (node : Text) : Path :=
  directory / ⟨[], [node ++ treeDot]⟩

/-- A fetch answers the route of the artifacts with the texts of the files in a directory. -/
def Serves (fetch : Text → Except Failure (Option Text)) (s : Store) (directory : Path) : Prop :=
  ∀ segment name bytes text, Utf8.decode? (Percent.decode segment) = some name →
    s.read (directory / ⟨[], [name]⟩) = .ok bytes → Utf8.decode? bytes = some text →
    fetch (artifactRoute ++ '/' :: segment) = .ok (some text)

/-- The fetch that looks for the files in a directory and for nothing else. -/
def fetchFrom (s : Store) (directory : Path) (location : Text) : Except Failure (Option Text) :=
  match (after? (artifactRoute ++ ['/']) location).bind fun segment =>
      Utf8.decode? (Percent.decode segment) with
  | none => .ok none
  | some name =>
    match s.read (directory / ⟨[], [name]⟩) with
    | .ok bytes => .ok (Utf8.decode? bytes)
    | .error _ => .ok none

theorem serves_fetchFrom (s : Store) (directory : Path) :
    Serves (fetchFrom s directory) s directory := by
  intro segment name bytes text hname hread htext
  have hafter : after? (artifactRoute ++ ['/']) (artifactRoute ++ '/' :: segment) =
      some segment := after?_eq_some.mpr (by simp)
  unfold fetchFrom
  rw [hafter, Option.bind_some, hname]
  dsimp only
  rw [hread]
  dsimp only
  rw [htext]

/-- A search ends at the first location if there is a text. -/
theorem tryResolve_head {gens : List Generator} {fetch : Text → Except Failure (Option Text)}
    {node location text : Text} (hlocate : canLocate gens node = true)
    (hhead : (locationsBy gens node).head? = some location)
    (hfetch : fetch location = .ok (some text)) :
    tryResolve gens fetch node = .ok ([location], .found node location text) := by
  obtain ⟨rest, hrest⟩ := List.head?_eq_some_iff.mp hhead
  rw [tryResolve_eq_tryFrom hlocate, hrest, Search.tryFrom, hfetch]
  rfl

namespace View

/-- A load that runs alone tells what is shown when it has ended. -/
theorem snapshot_fst_loadAlone (v : View) (node : Text) (outcome : Outcome) :
    (v.loadAlone node outcome).1.snapshot = (v.loadAlone node outcome).2 := by
  have hcurrent := isCurrent_activate v (some node)
  have hgeneration := (finish_frame (v.activate (some node)) (v.activate (some node)).generation
    outcome).2.2
  unfold loadAlone snapshot
  rw [hgeneration, finish_of_current hcurrent]

/-- A load that finds a text shows its graph. -/
theorem tryLoad_of_found {v : View} (hpage : v.renderer = .page) {gens : List Generator}
    {fetch : Text → Except Failure (Option Text)} {node location text : Text} {tried : List Text}
    (h : tryResolve gens fetch node = .ok (tried, .found node location text)) :
    ∃ after, v.tryLoad gens fetch node = (after, .ok after.snapshot) ∧ after.snapshot =
      .displaying (v.generation + 1 : Nat) (some node) text (some location) (v.layoutOf text) := by
  have hload : v.tryLoad gens fetch node = ((v.loadAlone node (.found node location text)).1,
      .ok (v.loadAlone node (.found node location text)).2) := by
    unfold tryLoad
    rw [h]
    rfl
  have hsame := v.snapshot_fst_loadAlone node (.found node location text)
  refine ⟨_, hload.trans (by rw [hsame]), hsame.trans ?_⟩
  exact v.snapshot_loadAlone hpage (.found node location text)

end View

/-- A load ends with the tree of a file name on display, from the first location. -/
structure DisplaysTree (shot : Snapshot) (node : Text) (shape : Shape) : Prop where
  state : shot.state = .displaying
  title : shot.title = some node
  source : shot.source = (locations node).head?
  text : shot.text = some (shape.toDot [] ['n'])
  elements : shot.elements = shape.elements
  superseded : shot.superseded = false

theorem load_graphFile {s : Store} {directory : Path} {N : FileName} {shape : Shape}
    (hwhole : holdsSurrogate N.text = false) (htypes : ∀ type ∈ shape.preorder, '\r' ∉ type)
    (hread : s.read (graphFile directory N.text) = .ok (Utf8.encode (shape.toDot [] ['n'])))
    {fetch : Text → Except Failure (Option Text)} (hfetch : Serves fetch s directory) {v : View}
    (hpage : v.renderer = .page) :
    ∃ after, v.tryLoad generators fetch N.text = (after, .ok after.snapshot) ∧
      DisplaysTree after.snapshot N.text shape := by
  obtain ⟨segment, hhead, hsegment⟩ := decode_firstLocation N.text
  have hlocate : canLocate generators N.text = true := by
    simp [canLocate, hwhole]
  have htext := hfetch segment _ _ _ hsegment hread (Utf8.decode?_encode _)
  obtain ⟨after, hload, hshot⟩ := View.tryLoad_of_found hpage (tryResolve_head hlocate hhead htext)
  refine ⟨after, hload, ?_⟩
  rw [hshot]
  exact ⟨rfl, rfl, hhead.symm, rfl, Shape.elements_layoutOf htypes v, rfl⟩

/-- The name of a source file leads from the comment of its number to its tree: the comment gives
the name as label, the dumps are named for it, and a load of the label shows the tree, whatever
else is in the directory. -/
theorem name_leads_to_tree (N : FileName) :
    (∀ (id : Dependency.Number) (path : Dependency.LinePath) (before : Text),
      path.text = before ++ N.text → IsDirectories before →
        Dependency.labelsOf (Dependency.Line.comment id path).text = [(id.text, N.text)]) ∧
    (holdsSurrogate N.text = false → canLocate generators N.text = true ∧ ∃ segment,
      (locations N.text).head? = some (artifactRoute ++ '/' :: segment) ∧
        Utf8.decode? (Percent.decode segment) = some (N.text ++ treeDot)) ∧
    ∀ (s : Session) (tree : SyntaxTree) (source directory : Path), source.name = N.text →
      SyntaxTree.CanDump s.store tree source directory → ∃ files final,
        (tree.writeFiles source directory).run s = (.ok files, final) ∧
        files.dotPath = graphFile directory N.text ∧
        final.store.read (graphFile directory N.text) =
          .ok (Utf8.encode (tree.toDot [] ['n'])) ∧
        (holdsSurrogate N.text = false → (∀ type ∈ tree.shape.preorder, '\r' ∉ type) →
          ∀ (v : View) fetch, v.renderer = .page → Serves fetch final.store directory →
            ∃ after, v.tryLoad generators fetch N.text = (after, .ok after.snapshot) ∧
              DisplaysTree after.snapshot N.text tree.shape) := by
  refine ⟨fun id path before hpath hbefore => ?_, fun hwhole => ⟨?_, ?_⟩, ?_⟩
  · exact Dependency.labelsOf_comment id path hpath hbefore
  · simp [canLocate, hwhole]
  · exact decode_firstLocation N.text
  · intro s tree source directory hsource hdump
    obtain ⟨final, hrun, hread⟩ := SyntaxTree.run_writeFiles hdump
    have hpath : (TreeFiles.of source directory).dotPath = graphFile directory N.text := by
      simp [TreeFiles.of, graphFile, hsource, treeDot]
    rw [hpath] at hread
    refine ⟨_, final, hrun, hpath, hread, ?_⟩
    intro hwhole htypes v fetch hpage hfetch
    exact load_graphFile hwhole htypes hread hfetch hpage

/-- A tree of one node. -/
def leafTree (type : Text) : SyntaxTree :=
  .stored (.node ⟨type, .zero, .zero, true, false, none⟩ [])

/-- A current directory with nothing in it. -/
def emptyStore : Store :=
  ⟨[['w']], []⟩

theorem canDump_leafTree : SyntaxTree.CanDump emptyStore (leafTree "module".toList)
    (.ofString "src/a b.py") (.ofString "out") where
  paths := by
    refine ⟨emptyStore.setEntry [['w'], "out".toList] .dir, by cbv,
      ⟨[['w'], "out".toList, "a b.py.tree.txt".toList], ?_, Or.inl ?_⟩,
      ⟨[['w'], "out".toList, "a b.py.tree.json".toList], ?_, Or.inl ?_⟩,
      ⟨[['w'], "out".toList, "a b.py.tree.dot".toList], ?_, Or.inl ?_⟩⟩ <;> cbv
  json := ⟨_, rfl⟩
  expression := by decide
  types := by decide

theorem name_leads_to_tree_spaced : ∃ files final after,
    ((leafTree "module".toList).writeFiles (.ofString "src/a b.py") (.ofString "out")).run
        (.ofStore emptyStore) = (.ok files, final) ∧
      (View.initial .standard .page).tryLoad generators (fetchFrom final.store (.ofString "out"))
        "a b.py".toList = (after, .ok after.snapshot) ∧
      DisplaysTree after.snapshot "a b.py".toList (.node "module".toList []) := by
  let N : FileName := ⟨"a b.py".toList, by decide, by decide, by decide, by decide, by decide⟩
  obtain ⟨_, _, hdumps⟩ := name_leads_to_tree N
  obtain ⟨files, final, hrun, _, _, hload⟩ := hdumps (.ofStore emptyStore) _ _ _ (by decide)
    canDump_leafTree
  obtain ⟨after, hafter, hshows⟩ := hload (by decide) (by decide) (View.initial .standard .page) _
    rfl (serves_fetchFrom final.store (.ofString "out"))
  exact ⟨files, final, after, hrun, hafter, hshows⟩

/-- A name of 62 characters outside the basic plane takes 248 bytes. -/
def longName : FileName where
  text := List.replicate 62 (Char.ofNat 0x1f332)
  ne_nil := by decide
  slash_notMem := by decide
  backslash_notMem := by decide
  isBlank_head := by decide
  isBlank_last := by decide

/-- A name that is half of a surrogate pair. -/
def halfName : FileName where
  text := ofCode 0xd800
  ne_nil := by decide
  slash_notMem := by decide
  backslash_notMem := by decide
  isBlank_head := by decide
  isBlank_last := by decide

/-- There is no file for a name that gets too long by the ending, and no location for a name
without a UTF-8 form, and no type without one can be written. -/
theorem name_leads_to_tree_limits :
    (((leafTree "module".toList).writeFiles ⟨[], [longName.text]⟩ (.ofString "out")).run
      (.ofStore emptyStore)).1 = .error (.file .nameTooLong) ∧
    tryResolve generators (fun _ => .ok none) halfName.text = .error .unencodable ∧
    (((leafTree halfName.text).writeFiles (.ofString "a.py") (.ofString "out")).run
      (.ofStore emptyStore)).1 = .error .unencodable := by
  refine ⟨by cbv, ?_, by cbv⟩
  exact if_neg (by decide)

end Overlay

end DepView
