import DepView.Tree.Dot

/-!
The visits of a tree. Each node is visited before its children, the children from left
to right, and a whole subtree has consecutive numbers. The walk that keeps the waiting
trees on a stack writes just the lines of these visits, one visit behind the other.
-/

namespace DepView.Shape

/-- The visit of a node, with the number of its parent. -/
structure Visit where
  parent : Option Nat
  number : Nat
  type : Text

mutual

/-- The visits of a tree whose root has a number. -/
def visits (parent : Option Nat) (number : Nat) : Shape → List Visit
  | node type children => ⟨parent, number, type⟩ :: visitsUnder number (number + 1) children

def visitsUnder (parent number : Nat) : List Shape → List Visit
  | [] => []
  | child :: rest =>
    visits (some parent) number child ++ visitsUnder parent (number + size child) rest

end

mutual

/-- The numbers of a parent and its child, for all nodes that have a parent, as they are visited. -/
def relations (number : Nat) : Shape → List (Nat × Nat)
  | node _ children => relationsUnder number (number + 1) children

def relationsUnder (parent number : Nat) : List Shape → List (Nat × Nat)
  | [] => []
  | child :: rest =>
    (parent, number) :: relations number child ++
      relationsUnder parent (number + size child) rest

end

/-- The lines of a visit. -/
def Visit.lines (start : Text) (v : Visit) : List Text :=
  nodeLines (v.parent.map (nodeId start)) (nodeId start v.number) v.type

/-- The relation of a visited node to its parent. -/
def Visit.relation? (v : Visit) : Option (Nat × Nat) :=
  v.parent.map fun parent => (parent, v.number)

/-! The walk with a stack. -/

mutual

/-- A tree on the stack is written before anything below it is. -/
theorem visit_cons (start : Text) (parent : Option Nat) (number : Nat) (rest : List Pending) :
    ∀ shape : Shape, visit start number ((shape, parent.map (nodeId start)) :: rest) =
      (visits parent number shape).flatMap (Visit.lines start) ++
        visit start (number + size shape) rest
  | node type children => by
    have hchildren := visit_waiting start number (number + 1) rest children
    have hsize : number + 1 + sizes children = number + size (node type children) := by
      simp only [size]
      omega
    rw [visit, hchildren, hsize, visits, List.flatMap_cons, List.append_assoc]
    rfl

theorem visit_waiting (start : Text) (parent number : Nat) (rest : List Pending) :
    ∀ children : List Shape, visit start number (waiting (nodeId start parent) children ++ rest) =
      (visitsUnder parent number children).flatMap (Visit.lines start) ++
        visit start (number + sizes children) rest
  | [] => rfl
  | child :: children => by
    have hchild := visit_cons start (some parent) number
      (waiting (nodeId start parent) children ++ rest) child
    have hchildren := visit_waiting start parent (number + size child) rest children
    have hsize : number + size child + sizes children = number + sizes (child :: children) := by
      simp only [sizes]
      omega
    rw [hchildren, hsize] at hchild
    rw [visitsUnder, List.flatMap_append, List.append_assoc]
    exact hchild

end

theorem visit_root (start : Text) (shape : Shape) :
    visit start 0 [(shape, none)] = (visits none 0 shape).flatMap (Visit.lines start) := by
  have h := visit_cons start none 0 [] shape
  have hnil : visit start (0 + size shape) [] = [] := by
    rw [visit]
  rw [hnil, List.append_nil] at h
  exact h

/-! Numbers, types and relations. -/

mutual

theorem length_preorder : ∀ shape : Shape, (preorder shape).length = size shape
  | node type children => by
    have h := length_preorders children
    simp only [preorder, size, List.length_cons, h]
    omega

theorem length_preorders : ∀ shapes : List Shape, (preorders shapes).length = sizes shapes
  | [] => rfl
  | shape :: rest => by
    have hshape := length_preorder shape
    have hrest := length_preorders rest
    simp only [preorders, sizes, List.length_append, hshape, hrest]

end

mutual

/-- The visited types, numbered one after the other, are those in preorder. -/
theorem map_type_visits (parent : Option Nat) (number : Nat) :
    ∀ shape : Shape, (visits parent number shape).map (fun v => (v.type, v.number)) =
      (preorder shape).zipIdx number
  | node type children => by
    have h := map_type_visitsUnder number (number + 1) children
    rw [visits, preorder, List.map_cons, List.zipIdx_cons, h]

theorem map_type_visitsUnder (parent number : Nat) :
    ∀ shapes : List Shape, (visitsUnder parent number shapes).map (fun v => (v.type, v.number)) =
      (preorders shapes).zipIdx number
  | [] => rfl
  | shape :: rest => by
    have hshape := map_type_visits (some parent) number shape
    have hrest := map_type_visitsUnder parent (number + size shape) rest
    rw [visitsUnder, preorders, List.map_append, hshape, hrest, List.zipIdx_append,
      length_preorder]

end

theorem numbers_visits (parent : Option Nat) (number : Nat) (shape : Shape) :
    (visits parent number shape).map Visit.number = List.range' number (size shape) := by
  have h := congrArg (List.map Prod.snd) (map_type_visits parent number shape)
  rw [List.map_map, List.zipIdx_map_snd, length_preorder] at h
  exact h

theorem types_visits (parent : Option Nat) (number : Nat) (shape : Shape) :
    (visits parent number shape).map Visit.type = preorder shape := by
  have h := congrArg (List.map Prod.fst) (map_type_visits parent number shape)
  rw [List.map_map, List.zipIdx_map_fst] at h
  exact h

theorem length_visitsUnder (parent number : Nat) (shapes : List Shape) :
    (visitsUnder parent number shapes).length = sizes shapes := by
  have h := congrArg List.length (map_type_visitsUnder parent number shapes)
  rwa [List.length_map, List.length_zipIdx, length_preorders] at h

theorem visitsUnder_append (parent number : Nat) (left right : List Shape) :
    visitsUnder parent number (left ++ right) =
      visitsUnder parent number left ++ visitsUnder parent (number + sizes left) right := by
  induction left generalizing number with
  | nil => rfl
  | cons shape left ih =>
    rw [List.cons_append, visitsUnder, ih, visitsUnder, sizes, Nat.add_assoc, List.append_assoc]

mutual

/-- Behind the root, the visits go along the relations. -/
theorem filterMap_relation_visits (parent : Option Nat) (number : Nat) :
    ∀ shape : Shape, (visits parent number shape).filterMap Visit.relation? =
      (parent.map fun p => (p, number)).toList ++ relations number shape
  | node type children => by
    have h := filterMap_relation_visitsUnder number (number + 1) children
    rw [visits, relations, List.filterMap_cons, h]
    cases parent with
    | none => rfl
    | some p => rfl

theorem filterMap_relation_visitsUnder (parent number : Nat) :
    ∀ shapes : List Shape, (visitsUnder parent number shapes).filterMap Visit.relation? =
      relationsUnder parent number shapes
  | [] => rfl
  | shape :: rest => by
    have hshape := filterMap_relation_visits (some parent) number shape
    have hrest := filterMap_relation_visitsUnder parent (number + size shape) rest
    rw [visitsUnder, relationsUnder, List.filterMap_append, hshape, hrest]
    rfl

end

mutual

/-- Each node behind the root is the child in one relation, and these come in order. -/
theorem map_snd_relations (number : Nat) :
    ∀ shape : Shape, number :: (relations number shape).map Prod.snd =
      List.range' number (size shape)
  | node type children => by
    have h := map_snd_relationsUnder number (number + 1) children
    rw [relations, size, Nat.add_comm 1, List.range'_succ, h]

theorem map_snd_relationsUnder (parent number : Nat) :
    ∀ shapes : List Shape, (relationsUnder parent number shapes).map Prod.snd =
      List.range' number (sizes shapes)
  | [] => rfl
  | shape :: rest => by
    have hshape := map_snd_relations number shape
    have hrest := map_snd_relationsUnder parent (number + size shape) rest
    rw [relationsUnder, sizes, ← List.range'_append_1, ← hshape, ← hrest]
    simp

end

mutual

/-- A parent is visited before its child. -/
theorem fst_lt_of_mem_relations (number : Nat) : ∀ (shape : Shape) (pair : Nat × Nat),
    pair ∈ relations number shape → number ≤ pair.1 ∧ pair.1 < pair.2
  | node type children, pair, h => by
    have hunder := fst_lt_of_mem_relationsUnder number (number + 1) (by omega) children pair h
    exact hunder

theorem fst_lt_of_mem_relationsUnder (parent number : Nat) (hlt : parent < number) :
    ∀ (shapes : List Shape) (pair : Nat × Nat),
    pair ∈ relationsUnder parent number shapes → parent ≤ pair.1 ∧ pair.1 < pair.2
  | [], pair, h => by simp [relationsUnder] at h
  | shape :: rest, pair, h => by
    simp only [relationsUnder, List.cons_append, List.mem_cons, List.mem_append] at h
    rcases h with rfl | h | h
    · exact ⟨by simp, hlt⟩
    · have hshape := fst_lt_of_mem_relations number shape pair h
      omega
    · exact fst_lt_of_mem_relationsUnder parent (number + size shape) (by omega) rest pair h

end

end DepView.Shape
