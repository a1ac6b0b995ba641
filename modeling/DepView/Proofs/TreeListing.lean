import DepView.Proofs.TreeVisits
import Mathlib.Logic.Function.Iterate

/-!
The walk with a stack lists a tree as a recursion would that hands on a counter. A round of the walk
takes one tree from the stack, writes the lines of its root and lets its children wait in its place.
So the walk is at its end after as many rounds as there are nodes. Its lines are those of the
recursion, in which each subtree has a stretch of the visits and of the numbers to itself.
-/

namespace DepView.Shape

/-! The recursion. -/

mutual

/-- The visits of a tree whose root has the next number, and the number that is next after them. -/
def listing (parent : Option Nat) (next : Nat) : Shape → List Visit × Nat
  | node type children =>
    let below := listingUnder next (next + 1) children
    (⟨parent, next, type⟩ :: below.1, below.2)

/-- The same for the children of a node, from left to right. -/
def listingUnder (parent next : Nat) : List Shape → List Visit × Nat
  | [] => ([], next)
  | child :: rest =>
    let first := listing (some parent) next child
    let others := listingUnder parent first.2 rest
    (first.1 ++ others.1, others.2)

end

mutual

/-- The counter goes up by one for each node. -/
theorem listing_eq (parent : Option Nat) (next : Nat) : ∀ shape : Shape,
    listing parent next shape = (visits parent next shape, next + size shape)
  | node type children => by
    have hunder := listingUnder_eq next (next + 1) children
    simp only [listing, hunder, visits, size, Nat.add_assoc]

theorem listingUnder_eq (parent next : Nat) : ∀ shapes : List Shape,
    listingUnder parent next shapes = (visitsUnder parent next shapes, next + sizes shapes)
  | [] => rfl
  | child :: rest => by
    have hchild := listing_eq (some parent) next child
    have hrest := listingUnder_eq parent (next + size child) rest
    simp only [listingUnder, hchild, hrest, visitsUnder, sizes, Nat.add_assoc]

end

/-! Subtrees. -/

/-- A node of a tree with all that is below it, the number of its parent, and its own number, which
is the next one after its left siblings. -/
inductive IsPart (root : Shape) : Option Nat → Nat → Shape → Prop
  | root : IsPart root none 0 root
  | child {parent : Option Nat} {number : Nat} {type : Text} {left right : List Shape}
    {child : Shape} (h : IsPart root parent number (node type (left ++ child :: right))) :
    IsPart root (some number) (listingUnder number (number + 1) left).2 child

/-- The visits of a part stand together behind as many visits as its number says. -/
theorem IsPart.exists_visits {root part : Shape} {parent : Option Nat} {number : Nat}
    (h : IsPart root parent number part) : ∃ before after,
      visits none 0 root = before ++ visits parent number part ++ after ∧
        before.length = number := by
  induction h with
  | root => exact ⟨[], [], by simp, rfl⟩
  | @child parent number type left right child h ih =>
    obtain ⟨before, after, heq, hlength⟩ := ih
    have hleft := length_visitsUnder number (number + 1) left
    have hnumber : (listingUnder number (number + 1) left).2 = number + 1 + sizes left := by
      rw [listingUnder_eq]
    -- Before a child come its parent, with what is before that, and the left siblings.
    refine ⟨before ++ ⟨parent, number, type⟩ :: visitsUnder number (number + 1) left,
      visitsUnder number (number + 1 + sizes left + size child) right ++ after, ?_, ?_⟩
    · rw [heq, hnumber, visits, visitsUnder_append, visitsUnder]
      simp only [List.append_assoc, List.cons_append]
    · rw [hnumber, List.length_append, List.length_cons, hlength, hleft]
      omega

/-- A part of a tree has a stretch of the listing to itself, and consecutive numbers. -/
structure StandsTogether (root : Shape) (parent : Option Nat) (number : Nat) (part : Shape) :
    Prop where
  stretch : ∃ before after,
    (listing none 0 root).1 = before ++ (listing parent number part).1 ++ after ∧
      before.length = number
  numbers : (listing parent number part).1.map Visit.number = List.range' number part.size
  types : (listing parent number part).1.map Visit.type = part.preorder

theorem IsPart.standsTogether {root part : Shape} {parent : Option Nat} {number : Nat}
    (h : IsPart root parent number part) : StandsTogether root parent number part where
  stretch := by simpa only [listing_eq] using h.exists_visits
  numbers := by rw [listing_eq, numbers_visits]
  types := by rw [listing_eq, types_visits]

/-! The number of lines. -/

mutual

/-- Below the root, each node has a line for itself and one for its edge. -/
theorem length_lines_visits (start : Text) (parent number : Nat) : ∀ shape : Shape,
    ((visits (some parent) number shape).flatMap (Visit.lines start)).length = 2 * size shape
  | node type children => by
    have hunder := length_lines_visitsUnder start number (number + 1) children
    have hroot : (Visit.lines start ⟨some parent, number, type⟩).length = 2 := rfl
    rw [visits, List.flatMap_cons, List.length_append, hunder, hroot, size]
    omega

theorem length_lines_visitsUnder (start : Text) (parent number : Nat) : ∀ shapes : List Shape,
    ((visitsUnder parent number shapes).flatMap (Visit.lines start)).length = 2 * sizes shapes
  | [] => rfl
  | shape :: rest => by
    have hshape := length_lines_visits start parent number shape
    have hrest := length_lines_visitsUnder start parent (number + size shape) rest
    rw [visitsUnder, List.flatMap_append, List.length_append, hshape, hrest, sizes]
    omega

end

theorem length_dotLines (name start : Text) (shape : Shape) :
    (dotLines name start shape).length = 2 * shape.size + 1 := by
  obtain ⟨type, children⟩ := shape
  have hunder := length_lines_visitsUnder start 0 1 children
  have hroot : (Visit.lines start ⟨none, 0, type⟩).length = 1 := rfl
  rw [dotLines, visit_root, List.length_append, List.length_cons, visits, List.flatMap_cons,
    List.length_append, hunder, hroot, size, List.length_singleton]
  omega

/-! The rounds of the walk. -/

/-- How far a walk has come: the next number, the trees that wait, and the lines so far. -/
structure Stage where
  next : Nat
  pending : List Pending
  lines : List Text

namespace Stage

/-- A walk that has only the tree to visit. -/
def first (shape : Shape) : Stage :=
  ⟨0, [(shape, none)], []⟩

/-- One round. When nothing waits, nothing is done. -/
def round (start : Text) (stage : Stage) : Stage :=
  match stage.pending with
  | [] => stage
  | (node type children, parent) :: rest =>
    let id := nodeId start stage.next
    ⟨stage.next + 1, waiting id children ++ rest, stage.lines ++ nodeLines parent id type⟩

/-- The lines so far and those that the walk still has to write stay the same. -/
theorem visit_round (start : Text) (stage : Stage) :
    (stage.round start).lines ++ visit start (stage.round start).next (stage.round start).pending =
      stage.lines ++ visit start stage.next stage.pending := by
  obtain ⟨next, pending, lines⟩ := stage
  match pending with
  | [] => rfl
  | (node type children, parent) :: rest =>
    rw [visit]
    exact List.append_assoc _ _ _

/-- A round takes one node off those that wait. -/
theorem pendingSize_round (start : Text) (stage : Stage) :
    pendingSize (stage.round start).pending = pendingSize stage.pending - 1 := by
  obtain ⟨next, pending, lines⟩ := stage
  match pending with
  | [] => rfl
  | (node type children, parent) :: rest =>
    rw [round, pendingSize_waiting_append]
    simp only [pendingSize, List.map_cons, sizes, size]
    omega

/-- The next number and the nodes that wait make up the same sum after a round. -/
theorem next_round (start : Text) (stage : Stage) :
    (stage.round start).next + pendingSize (stage.round start).pending =
      stage.next + pendingSize stage.pending := by
  obtain ⟨next, pending, lines⟩ := stage
  match pending with
  | [] => rfl
  | (node type children, parent) :: rest =>
    rw [round, pendingSize_waiting_append]
    simp only [pendingSize, List.map_cons, sizes, size]
    omega

theorem visit_rounds (start : Text) (stage : Stage) (n : Nat) :
    ((round start)^[n] stage).lines ++
        visit start ((round start)^[n] stage).next ((round start)^[n] stage).pending =
      stage.lines ++ visit start stage.next stage.pending := by
  induction n with
  | zero => rfl
  | succ n ih => rw [Function.iterate_succ_apply', visit_round, ih]

theorem pendingSize_rounds (start : Text) (stage : Stage) (n : Nat) :
    pendingSize ((round start)^[n] stage).pending = pendingSize stage.pending - n := by
  induction n with
  | zero => rfl
  | succ n ih => rw [Function.iterate_succ_apply', pendingSize_round, ih, Nat.sub_sub]

theorem next_rounds (start : Text) (stage : Stage) (n : Nat) :
    ((round start)^[n] stage).next + pendingSize ((round start)^[n] stage).pending =
      stage.next + pendingSize stage.pending := by
  induction n with
  | zero => rfl
  | succ n ih => rw [Function.iterate_succ_apply', next_round, ih]

theorem pendingSize_eq_zero_iff {pending : List Pending} :
    pendingSize pending = 0 ↔ pending = [] := by
  match pending with
  | [] => simp [pendingSize, sizes]
  | (node type children, parent) :: rest => simp [pendingSize, sizes, size]

theorem pendingSize_first (shape : Shape) : pendingSize (first shape).pending = shape.size := by
  simp [first, pendingSize, sizes]

/-- Nothing waits any more after as many rounds as there are nodes, and not before. -/
theorem pending_rounds_eq_nil_iff (start : Text) (shape : Shape) (n : Nat) :
    ((round start)^[n] (first shape)).pending = [] ↔ shape.size ≤ n := by
  rw [← pendingSize_eq_zero_iff, pendingSize_rounds, pendingSize_first, Nat.sub_eq_zero_iff_le]

/-- Then all lines are written. -/
theorem rounds_size (start : Text) (shape : Shape) :
    (round start)^[shape.size] (first shape) =
      ⟨shape.size, [], visit start 0 [(shape, none)]⟩ := by
  have hpending := (pending_rounds_eq_nil_iff start shape shape.size).mpr (Nat.le_refl _)
  have hnext := next_rounds start (first shape) shape.size
  have hlines := visit_rounds start (first shape) shape.size
  rw [pendingSize_first, pendingSize_rounds, pendingSize_first, Nat.sub_self] at hnext
  rw [hpending, visit, List.append_nil] at hlines
  generalize (round start)^[shape.size] (first shape) = stage at hpending hnext hlines
  obtain ⟨next, pending, lines⟩ := stage
  obtain rfl : pending = [] := hpending
  obtain rfl : lines = visit start 0 [(shape, none)] := hlines
  obtain rfl : next = shape.size := by simpa [first] using hnext
  rfl

end Stage

/-- The walk with a stack writes the listing of the recursion between the first and the last line.
It ends after one round for each node, writes two lines for each node but the root, and keeps each
subtree together. -/
theorem dotLines_eq_listing (name start : Text) (shape : Shape) :
    dotLines name start shape =
        ("digraph ".toList ++ graphName name ++ [' ', '\x7b']) ::
          (listing none 0 shape).1.flatMap (Visit.lines start) ++ [['\x7d']] ∧
      (∀ n, ((Stage.round start)^[n] (.first shape)).pending = [] ↔ shape.size ≤ n) ∧
      (Stage.round start)^[shape.size] (.first shape) =
        ⟨(listing none 0 shape).2, [], (listing none 0 shape).1.flatMap (Visit.lines start)⟩ ∧
      (dotLines name start shape).length = 2 * shape.size + 1 ∧
      ∀ parent number part, IsPart shape parent number part →
        StandsTogether shape parent number part := by
  have hvisits : visit start 0 [(shape, none)] =
      (listing none 0 shape).1.flatMap (Visit.lines start) := by
    rw [visit_root, listing_eq]
  have hcount : (listing none 0 shape).2 = shape.size := by
    rw [listing_eq, Nat.zero_add]
  refine ⟨?_, Stage.pending_rounds_eq_nil_iff start shape, ?_, length_dotLines name start shape,
    fun _ _ _ h => h.standsTogether⟩
  · rw [← hvisits]
    rfl
  · rw [Stage.rounds_size, hvisits, hcount]

/-- The second child of a root whose first child has a child of its own. -/
theorem dotLines_eq_listing_second :
    let leaf : Shape := node ['b'] []
    let root := node ['r'] [node ['a'] [leaf], leaf]
    IsPart root (some 0) 3 leaf ∧ StandsTogether root (some 0) 3 leaf := by
  intro leaf root
  have hroot : IsPart root none 0 (node ['r'] ([node ['a'] [leaf]] ++ leaf :: [])) := .root
  have hpart : IsPart root (some 0) 3 leaf := .child hroot
  exact ⟨hpart, (dotLines_eq_listing [] ['n'] root).2.2.2.2 _ _ _ hpart⟩

end DepView.Shape
