import DepView.Proofs.ActionSteps
import DepView.Tree.Live

/-!
Dumps of trees that are loaded again. A dump keeps all that a node says of itself, except for the
name that a parent has for the root. So a loaded tree is dumped as it was, and it shows itself as
before; and a tree given by a grammar is dumped like the tree that its dump is loaded as.
-/

namespace DepView.Tree

/-- The tree under another name of its parent. -/
def withField (field : Option Json) : Tree → Tree
  | node info children => node { info with field } children

mutual

/-- Each name that a parent has for a child counts as one. -/
def FieldsCount : Tree → Prop
  | node info children => info.field.bind ifTrue = info.field ∧ FieldsCountIn children

def FieldsCountIn : List Tree → Prop
  | [] => True
  | tree :: rest => FieldsCount tree ∧ FieldsCountIn rest

end

theorem shape_withField (field : Option Json) (tree : Tree) :
    (tree.withField field).shape = tree.shape := by
  cases tree
  rfl

/-- The name that a parent has for a tree appears with the parent only. -/
theorem expression_withField (field : Option Json) (tree : Tree) :
    (tree.withField field).expression = tree.expression := by
  cases tree
  rfl

theorem toJson_withField (field other : Option Json) (tree : Tree) :
    (tree.withField field).toJson other = tree.toJson other := by
  cases tree
  rfl

theorem bind_ifTrue_idem (field : Option Json) :
    (field.bind ifTrue).bind ifTrue = field.bind ifTrue := by
  cases field with
  | none => rfl
  | some value =>
    by_cases h : value.isTrue = true <;> simp [ifTrue, h]

/-! What is read from a node that was written. -/

theorem childrenIn_members (type : Json) (info : NodeInfo) (field : Option Json)
    (items : List Json) {members : List (Text × Json)}
    (h : nodeJson type info field items = .obj members) : childrenIn members = ofItems items := by
  cases h
  cases field <;> simp [middleMembers, childrenIn, childrenOf]

theorem infoOf_members (type : Json) (info : NodeInfo) (field : Option Json)
    (items : List Json) {members : List (Text × Json)}
    (h : nodeJson type info field items = .obj members) :
    infoOf members = .ok { info with type := type.plain, field := field.bind ifTrue } := by
  cases h
  cases field <;> rfl

theorem ofJson_nodeJson {items : List Json} {children : List Tree}
    (h : ofItems items = .ok children) (type : Json) (info : NodeInfo) (field : Option Json) :
    ofJson (nodeJson type info field items) =
      .ok (node { info with type := type.plain, field := field.bind ifTrue } children) := by
  obtain ⟨members, hmembers⟩ : ∃ members, nodeJson type info field items = .obj members :=
    ⟨_, rfl⟩
  have hchildren := childrenIn_members type info field items hmembers
  have hinfo := infoOf_members type info field items hmembers
  rw [hmembers, ofJson, hchildren, hinfo, h]
  rfl

theorem field_of_infoOf {members : List (Text × Json)} {info : NodeInfo}
    (h : infoOf members = .ok info) : info.field.bind ifTrue = info.field := by
  obtain ⟨start, _, h⟩ := bind_eq_ok.mp h
  obtain ⟨stop, _, h⟩ := bind_eq_ok.mp h
  cases h
  exact bind_ifTrue_idem _

/-! Whole trees. -/

mutual

/-- A dump is loaded as the tree that was dumped, under the name that was written. -/
theorem ofJson_toJson (field : Option Json) : ∀ tree : Tree, FieldsCount tree →
    ofJson (toJson field tree) = .ok (tree.withField (field.bind ifTrue))
  | node info children, h => by
    have hchildren := ofItems_childrenToJson children h.2
    rw [toJson, ofJson_nodeJson hchildren]
    rfl

theorem ofItems_childrenToJson : ∀ trees : List Tree, FieldsCountIn trees →
    ofItems (childrenToJson trees) = .ok trees
  | [], _ => rfl
  | node info children :: rest, h => by
    have htree := ofJson_toJson info.field (node info children) h.1
    have hrest := ofItems_childrenToJson rest h.2
    rw [h.1.1] at htree
    rw [childrenToJson, ofItems, htree, hrest]
    rfl

end

mutual

/-- What is loaded has no name that does not count. -/
theorem fieldsCount_of_ofJson : ∀ (value : Json) {tree : Tree}, ofJson value = .ok tree →
    FieldsCount tree
  | .obj members, tree, h => by
    rw [ofJson] at h
    obtain ⟨children, hchildren, h⟩ := bind_eq_ok.mp h
    obtain ⟨info, hinfo, h⟩ := bind_eq_ok.mp h
    cases h
    exact ⟨field_of_infoOf hinfo, fieldsCount_of_childrenIn members hchildren⟩
  | .null, _, h => by cases h
  | .bool _, _, h => by cases h
  | .int _, _, h => by cases h
  | .num _, _, h => by cases h
  | .str _, _, h => by cases h
  | .arr _, _, h => by cases h

theorem fieldsCount_of_childrenIn : ∀ (members : List (Text × Json)) {trees : List Tree},
    childrenIn members = .ok trees → FieldsCountIn trees
  | [], _, h => by
    cases h
    trivial
  | (name, value) :: rest, _, h => by
    rw [childrenIn] at h
    split at h
    · exact fieldsCount_of_childrenOf value h
    · exact fieldsCount_of_childrenIn rest h

theorem fieldsCount_of_childrenOf : ∀ (value : Json) {trees : List Tree},
    childrenOf value = .ok trees → FieldsCountIn trees
  | .arr items, _, h => fieldsCount_of_ofItems items h
  | .str [], _, h => by cases h; trivial
  | .obj [], _, h => by cases h; trivial
  | .str (_ :: _), _, h => by cases h
  | .obj (_ :: _), _, h => by cases h
  | .null, _, h => by cases h
  | .bool _, _, h => by cases h
  | .int _, _, h => by cases h
  | .num _, _, h => by cases h

theorem fieldsCount_of_ofItems : ∀ (items : List Json) {trees : List Tree},
    ofItems items = .ok trees → FieldsCountIn trees
  | [], _, h => by
    cases h
    trivial
  | item :: rest, _, h => by
    rw [ofItems] at h
    obtain ⟨tree, htree, h⟩ := bind_eq_ok.mp h
    obtain ⟨trees, htrees, h⟩ := bind_eq_ok.mp h
    cases h
    exact ⟨fieldsCount_of_ofJson item htree, fieldsCount_of_ofItems rest htrees⟩

end

end DepView.Tree

namespace DepView.LiveTree

/-- The type of a node is a text, and a position that is there has a row and a column. -/
structure IsProperInfo (info : LiveInfo) : Prop where
  type : ∃ text, info.type = .str text
  start : info.start = none ∨ ∃ row column, info.start = some [row, column]
  stop : info.stop = none ∨ ∃ row column, info.stop = some [row, column]

mutual

def IsProper : LiveTree → Prop
  | node info children => IsProperInfo info ∧ AreProper children

def AreProper : List LiveTree → Prop
  | [] => True
  | tree :: rest => IsProper tree ∧ AreProper rest

end

theorem exists_positionOf {position : Option (List Json)}
    (h : position = none ∨ ∃ row column, position = some [row, column]) :
    ∃ p, positionOf position = .ok p := by
  rcases h with rfl | ⟨row, column, rfl⟩
  · exact ⟨.zero, rfl⟩
  · exact ⟨⟨row, column⟩, rfl⟩

/-- A proper node has an answer to everything that a dump says of it. -/
theorem exists_settleInfo {info : LiveInfo} (h : IsProperInfo info) (field : Option Json) :
    ∃ settled, settleInfo field info = .ok settled ∧ info.type = .str settled.type ∧
      settled.field = field.bind Tree.ifTrue := by
  obtain ⟨text, htype⟩ := h.type
  obtain ⟨start, hstart⟩ := exists_positionOf h.start
  obtain ⟨stop, hstop⟩ := exists_positionOf h.stop
  have hsettle : ∃ named missing, settleInfo field info =
      .ok ⟨info.type.plain, start, stop, named, missing, field.bind Tree.ifTrue⟩ := by
    unfold settleInfo
    rw [hstart, hstop]
    exact ⟨_, _, rfl⟩
  obtain ⟨named, missing, hsettle⟩ := hsettle
  refine ⟨_, hsettle, ?_, rfl⟩
  rw [htype]
  rfl

mutual

/-- The dump of a proper tree is the dump of a tree with nothing left unsaid. -/
theorem exists_toJson (field : Option Json) : ∀ tree : LiveTree, IsProper tree →
    ∃ settled : Tree, toJson field tree = .ok (settled.toJson settled.info.field) ∧
      settled.FieldsCount ∧ settled.info.field = field.bind Tree.ifTrue ∧
      settled.shape = tree.shape
  | node info children, h => by
    obtain ⟨trees, hjson, hcount, hshapes⟩ := exists_childrenToJson info 0 children h.2
    obtain ⟨settled, hsettle, htype, hfield⟩ := exists_settleInfo h.1 field
    refine ⟨.node settled trees, ?_, ⟨?_, hcount⟩, hfield, ?_⟩
    · rw [toJson, hjson, hsettle, htype]
      rfl
    · rw [hfield, Tree.bind_ifTrue_idem]
    · rw [Tree.shape, shape, hshapes, htype]
      rfl

theorem exists_childrenToJson (parent : LiveInfo) (index : Nat) : ∀ trees : List LiveTree,
    AreProper trees → ∃ settled : List Tree,
      childrenToJson parent index trees = .ok (Tree.childrenToJson settled) ∧
      Tree.FieldsCountIn settled ∧ Tree.shapes settled = shapes trees
  | [], _ => ⟨[], rfl, trivial, rfl⟩
  | node info children :: rest, h => by
    obtain ⟨⟨first, below⟩, hjson, hcount, _, hshape⟩ :=
      exists_toJson (childField parent info index) (node info children) h.1
    obtain ⟨others, hrest, hrestCount, hrestShapes⟩ :=
      exists_childrenToJson parent (index + 1) rest h.2
    refine ⟨.node first below :: others, ?_, ⟨hcount, hrestCount⟩, ?_⟩
    · rw [childrenToJson, hjson, hrest]
      rfl
    · rw [Tree.shapes, shapes, hshape, hrestShapes]

end

end DepView.LiveTree

namespace DepView.SyntaxTree

/-- The dump of a tree is loaded as a tree that has the same dump and the same graph text. -/
structure ReloadsAs (tree : SyntaxTree) (again : Tree) : Prop where
  dumped : ∃ dump, tree.toJson none = .ok dump ∧ Tree.ofJson dump = .ok again ∧
    (stored again).toJson none = .ok dump
  toDot_eq : ∀ name start, (stored again).toDot name start = tree.toDot name start

theorem reloadsAs_of_dump {tree : SyntaxTree} {settled : Tree} (hcount : settled.FieldsCount)
    (hjson : tree.toJson none = .ok (settled.toJson none)) (hshape : settled.shape = tree.shape) :
    tree.ReloadsAs (settled.withField none) := by
  refine ⟨⟨settled.toJson none, hjson, ?_, ?_⟩, ?_⟩
  · exact Tree.ofJson_toJson none settled hcount
  · exact congrArg Except.ok (Tree.toJson_withField none none settled)
  · intro name start
    unfold toDot
    rw [← hshape]
    exact congrArg _ (Tree.shape_withField none settled)

/-- Dumping, loading and dumping again gives the same dump and the same graph text, for what was
loaded from any value and for every proper tree of a grammar. What was loaded is shown as the same
expression, too. Trees may be of any depth here: the stack of an interpreter, which ends its walk
down a tree of some thousand levels, is not modelled. -/
theorem reload_dump :
    (∀ (value : Json) (tree : Tree), Tree.ofJson value = .ok tree →
      ∃ again, (stored tree).ReloadsAs again ∧
        (stored again).expression = (stored tree).expression) ∧
    ∀ tree : LiveTree, tree.IsProper → ∃ again, (live tree).ReloadsAs again := by
  constructor
  · intro value tree h
    have hcount := Tree.fieldsCount_of_ofJson value h
    refine ⟨tree.withField none, reloadsAs_of_dump hcount rfl rfl, ?_⟩
    exact Tree.expression_withField none tree
  · intro tree h
    obtain ⟨settled, hjson, hcount, hfield, hshape⟩ := tree.exists_toJson none h
    rw [hfield] at hjson
    exact ⟨settled.withField none, reloadsAs_of_dump hcount hjson hshape⟩

/-- A stored tree with a missing child that has no name of its own, and a tree of a grammar whose
parent knows the field of its child. -/
theorem reload_dump_missing :
    let value : Json := .record [("type", .ofString "call"), ("fieldName", .ofString "body"),
      ("children", .arr [.record [("type", .ofString ")"), ("isNamed", .null),
        ("isMissing", .int 1), ("fieldName", .ofString "end"),
        ("startPosition", .record [("row", .int 3)])]])]
    let leaf : LiveInfo :=
      ⟨.ofString "x", none, some [.int 0, .int 1], none, none, none, none, none, []⟩
    let root : LiveInfo := { leaf with childFields := some [.ofString "left"] }
    (∃ tree again, Tree.ofJson value = .ok tree ∧ (stored tree).ReloadsAs again ∧
      (stored again).expression = "(call end: (MISSING \")\"))".toList) ∧
    (LiveTree.node root [.node leaf []]).IsProper ∧
    ∃ again, (live (.node root [.node leaf []])).ReloadsAs again := by
  intro value leaf root
  obtain ⟨hstored, hlive⟩ := reload_dump
  have hleaf : LiveTree.IsProperInfo leaf :=
    ⟨⟨_, rfl⟩, Or.inl rfl, Or.inr ⟨.int 0, .int 1, rfl⟩⟩
  have hroot : LiveTree.IsProperInfo root := ⟨hleaf.type, hleaf.start, hleaf.stop⟩
  have hproper : (LiveTree.node root [.node leaf []]).IsProper :=
    ⟨hroot, ⟨hleaf, trivial⟩, trivial⟩
  refine ⟨?_, hproper, hlive _ hproper⟩
  obtain ⟨again, hreload, hexpression⟩ := hstored value _ rfl
  exact ⟨_, again, rfl, hreload, hexpression.trans (by decide)⟩

end DepView.SyntaxTree
