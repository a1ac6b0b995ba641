import DepView.Graph.Stats
import DepView.Proofs.GraphWalks
import Mathlib.Logic.Function.Iterate

/-!
The projection of a well-formed graph. The number of a node is its place among the nodes, so
different nodes have different numbers, and the arcs are the edges. The arcs that are left after
some rounds of keeping those that continue another one are the last edges of walks.
-/

namespace DepView.Projection

theorem mem_continuing {arcs : List (Nat × Nat)} {arc : Nat × Nat} :
    arc ∈ continuing arcs ↔ arc ∈ arcs ∧ ∃ before ∈ arcs, before.2 = arc.1 := by
  simp [continuing, Std.HashSet.contains_ofList, List.mem_filter]

theorem iterate_continuing_nil (n : Nat) : continuing^[n] [] = [] :=
  Function.iterate_fixed rfl n

/-- The search for the longest walk gives up if arcs are left after all rounds. -/
theorem longestWalk?_eq_none_iff {bound length : Nat} {arcs : List (Nat × Nat)} :
    longestWalk? bound length arcs = none ↔ continuing^[bound] arcs ≠ [] := by
  induction bound generalizing length arcs with
  | zero => cases arcs <;> simp [longestWalk?]
  | succ bound ih =>
    cases arcs with
    | nil => simp [longestWalk?, iterate_continuing_nil]
    | cons arc arcs =>
      rw [longestWalk?, if_neg (by simp), ih, Function.iterate_succ_apply]

/-- The search counts the rounds after which arcs are left. -/
theorem of_longestWalk?_eq_some {bound length longest : Nat} {arcs : List (Nat × Nat)}
    (h : longestWalk? bound length arcs = some longest) :
    ∃ n, longest = length + n ∧ continuing^[n] arcs = [] ∧ ∀ m < n, continuing^[m] arcs ≠ [] := by
  induction bound generalizing length arcs with
  | zero =>
    cases arcs with
    | nil =>
      obtain rfl : length = longest := by simpa [longestWalk?] using h
      exact ⟨0, rfl, rfl, by simp⟩
    | cons arc arcs => simp [longestWalk?] at h
  | succ bound ih =>
    cases arcs with
    | nil =>
      obtain rfl : length = longest := by simpa [longestWalk?] using h
      exact ⟨0, rfl, rfl, by simp⟩
    | cons arc arcs =>
      rw [longestWalk?, if_neg (by simp)] at h
      obtain ⟨n, rfl, hend, hleft⟩ := ih h
      refine ⟨n + 1, by omega, by rwa [Function.iterate_succ_apply], ?_⟩
      intro m hm
      cases m with
      | zero => simp
      | succ m =>
        rw [Function.iterate_succ_apply]
        exact hleft m (by omega)

end DepView.Projection

namespace DepView.Graph

open Projection

/-- The number of a node. -/
def number (g : Graph) (id : Text) : Nat :=
  g.numbering.getD id g.nodeCount

/-- The arc of an edge. -/
def arc (g : Graph) (e : Edge) : Nat × Nat :=
  (g.number e.source, g.number e.target)

theorem arcs_project (g : Graph) : g.project.arcs = g.edges.map g.arc := rfl

theorem ids_project (g : Graph) : g.project.ids = g.ids := rfl

/-- Edges lead into a node. -/
def HasIncoming (g : Graph) (id : Text) : Prop :=
  ∃ e ∈ g.edges, e.target = id

/-- Edges lead out of a node. -/
def HasOutgoing (g : Graph) (id : Text) : Prop :=
  ∃ e ∈ g.edges, e.source = id

instance (g : Graph) (id : Text) : Decidable (g.HasIncoming id) :=
  List.decidableBEx (fun e : Edge => e.target = id) g.edges

instance (g : Graph) (id : Text) : Decidable (g.HasOutgoing id) :=
  List.decidableBEx (fun e : Edge => e.source = id) g.edges

namespace WellFormed

variable {g : Graph} {id other : Text} {node : Nat}

/-- A node has its place among the nodes for its number. -/
theorem number_eq (hg : g.WellFormed) (hnode : g.ids[node]? = some id) : g.number id = node := by
  have hdistinct : g.ids.zipIdx.Pairwise fun a b => (a.1 == b.1) = false := by
    have hfst : (g.ids.zipIdx.map Prod.fst).Nodup := by
      rw [List.zipIdx_map_fst]
      exact hg.nodup
    exact (List.pairwise_map.mp hfst).imp fun hne => beq_false_of_ne hne
  have hmem : (id, node) ∈ g.ids.zipIdx := List.mem_zipIdx_iff_getElem?.mpr hnode
  exact Std.HashMap.getD_ofList_of_mem BEq.rfl hdistinct hmem

theorem number_eq_iff (hg : g.WellFormed) (hnode : g.ids[node]? = some id)
    (hother : other ∈ g.ids) : g.number other = node ↔ other = id := by
  constructor
  · rintro rfl
    obtain ⟨place, hplace⟩ := List.getElem?_of_mem hother
    rw [hg.number_eq hplace, hplace] at hnode
    exact Option.some.inj hnode
  · rintro rfl
    exact hg.number_eq hnode

theorem number_injective (hg : g.WellFormed) (hid : id ∈ g.ids) (hother : other ∈ g.ids)
    (h : g.number other = g.number id) : other = id := by
  obtain ⟨place, hplace⟩ := List.getElem?_of_mem hid
  rw [hg.number_eq hplace] at h
  exact (hg.number_eq_iff hplace hother).mp h

/-- The projection keeps every edge. -/
theorem arcs_map_getElem? (hg : g.WellFormed) :
    g.project.arcs.map (fun arc => (g.project.ids[arc.1]?, g.project.ids[arc.2]?)) =
      g.edges.map fun e => (some e.source, some e.target) := by
  have hplace : ∀ id ∈ g.ids, g.ids[g.number id]? = some id := by
    intro id hid
    obtain ⟨place, hplace⟩ := List.getElem?_of_mem hid
    rwa [hg.number_eq hplace]
  rw [arcs_project, List.map_map]
  apply List.map_congr_left
  intro e he
  obtain ⟨hsource, htarget⟩ := hg.endpoints e he
  exact Prod.ext (hplace e.source hsource) (hplace e.target htarget)

/-- No edge has an end with a number just if none has it at the node. -/
theorem countP_number_eq_zero_iff (hg : g.WellFormed) (hnode : g.ids[node]? = some id)
    {place : Edge → Text} (hplace : ∀ e ∈ g.edges, place e ∈ g.ids) :
    g.edges.countP (fun e => g.number (place e) == node) = 0 ↔ ¬ ∃ e ∈ g.edges, place e = id := by
  simp only [List.countP_eq_zero, beq_iff_eq, not_exists, not_and]
  exact forall₂_congr fun e he => not_congr (hg.number_eq_iff hnode (hplace e he))

theorem inDegree_eq_zero_iff (hg : g.WellFormed) (hnode : g.ids[node]? = some id) :
    g.project.inDegree node = 0 ↔ ¬ g.HasIncoming id := by
  rw [inDegree, arcs_project, List.countP_map]
  exact hg.countP_number_eq_zero_iff hnode fun e he => (hg.endpoints e he).2

theorem outDegree_eq_zero_iff (hg : g.WellFormed) (hnode : g.ids[node]? = some id) :
    g.project.outDegree node = 0 ↔ ¬ g.HasOutgoing id := by
  rw [outDegree, arcs_project, List.countP_map]
  exact hg.countP_number_eq_zero_iff hnode fun e he => (hg.endpoints e he).1

end WellFormed

/-- Choosing nodes by their numbers is choosing them by their identifiers. -/
theorem idsWhere_project {g : Graph} {kind : Nat → Bool} {wanted : Text → Prop}
    [DecidablePred wanted]
    (h : ∀ node id, g.ids[node]? = some id → (kind node = true ↔ wanted id)) :
    g.project.idsWhere kind = g.ids.filter wanted := by
  have hkind : g.ids.zipIdx.filter (fun p => kind p.2) =
      g.ids.zipIdx.filter ((fun id => decide (wanted id)) ∘ Prod.fst) := by
    apply List.filter_congr
    rintro ⟨id, node⟩ hmem
    have hnode := h node id (List.mem_zipIdx_iff_getElem?.mp hmem)
    rw [Bool.eq_iff_iff, hnode, Function.comp_apply, decide_eq_true_eq]
  have hall : g.ids.filter wanted =
      (g.ids.zipIdx.filter ((fun id => decide (wanted id)) ∘ Prod.fst)).map Prod.fst := by
    rw [← List.filter_map, List.zipIdx_map_fst]
  rw [hall, ← hkind]
  rfl

theorem WellFormed.roots_project {g : Graph} (hg : g.WellFormed) :
    g.project.roots = g.ids.filter fun id => ¬ g.HasIncoming id ∧ g.HasOutgoing id := by
  apply idsWhere_project
  intro node id hnode
  have hin := hg.inDegree_eq_zero_iff hnode
  have hout := hg.outDegree_eq_zero_iff hnode
  simp [hin, hout]

theorem WellFormed.orphans_project {g : Graph} (hg : g.WellFormed) :
    g.project.orphans = g.ids.filter fun id => ¬ g.HasIncoming id ∧ ¬ g.HasOutgoing id := by
  apply idsWhere_project
  intro node id hnode
  have hin := hg.inDegree_eq_zero_iff hnode
  have hout := hg.outDegree_eq_zero_iff hnode
  simp [hin, hout]

/-- The arcs that are left after some rounds are those of the edges behind walks that have as many
edges. -/
theorem WellFormed.mem_iterate_continuing {g : Graph} (hg : g.WellFormed) (n : Nat)
    (a : Nat × Nat) :
    a ∈ continuing^[n] g.project.arcs ↔
      ∃ start walk e, g.Walk start e.source walk ∧ walk.length = n ∧ e ∈ g.edges ∧ g.arc e = a := by
  induction n generalizing a with
  | zero =>
    rw [Function.iterate_zero_apply, arcs_project, List.mem_map]
    constructor
    · rintro ⟨e, he, ha⟩
      exact ⟨e.source, [], e, .stay e.source, rfl, he, ha⟩
    · rintro ⟨start, walk, e, hwalk, hlength, he, ha⟩
      exact ⟨e, he, ha⟩
  | succ n ih =>
    rw [Function.iterate_succ_apply', mem_continuing, ih]
    constructor
    · rintro ⟨⟨_, _, e, _, _, he, rfl⟩, before, hbefore, hmeet⟩
      obtain ⟨start, walk, d, hwalk, hlength, hd, rfl⟩ := (ih before).mp hbefore
      have hsame : d.target = e.source :=
        hg.number_injective (hg.endpoints e he).1 (hg.endpoints d hd).2 hmeet
      refine ⟨start, walk ++ [d], e, Walk.concat_iff.mpr ⟨hwalk, hd, hsame⟩, ?_, he, rfl⟩
      rw [List.length_append, hlength, List.length_singleton]
    · rintro ⟨start, walk, e, hwalk, hlength, he, rfl⟩
      constructor
      · -- Without its first edge the walk is one edge shorter and ends at the same place.
        cases hwalk with
        | stay => cases hlength
        | @go first _ rest hfirst hrest =>
          exact ⟨first.target, rest, e, hrest, Nat.succ.inj hlength, he, rfl⟩
      · obtain rfl | ⟨front, d, rfl⟩ := List.eq_nil_or_concat' walk
        · cases hlength
        · obtain ⟨hfront, hd, hmeet⟩ := Walk.concat_iff.mp hwalk
          have hcount : front.length = n := by simpa using hlength
          refine ⟨g.arc d, (ih _).mpr ⟨start, front, d, hfront, hcount, hd, rfl⟩, ?_⟩
          exact congrArg g.number hmeet

/-- Arcs are left as long as there are walks with one more edge. -/
theorem WellFormed.iterate_continuing_ne_nil_iff {g : Graph} (hg : g.WellFormed) (n : Nat) :
    continuing^[n] g.project.arcs ≠ [] ↔ g.HasWalk (n + 1) := by
  constructor
  · intro hne
    obtain ⟨a, ha⟩ := List.exists_mem_of_ne_nil _ hne
    obtain ⟨start, walk, e, hwalk, hlength, he, -⟩ := (hg.mem_iterate_continuing n a).mp ha
    refine ⟨start, e.target, walk ++ [e], Walk.concat_iff.mpr ⟨hwalk, he, rfl⟩, ?_⟩
    rw [List.length_append, hlength, List.length_singleton]
  · rintro ⟨start, goal, walk, hwalk, hlength⟩
    obtain rfl | ⟨front, e, rfl⟩ := List.eq_nil_or_concat' walk
    · cases hlength
    · obtain ⟨hfront, he, -⟩ := Walk.concat_iff.mp hwalk
      have hcount : front.length = n := by simpa using hlength
      exact List.ne_nil_of_mem
        ((hg.mem_iterate_continuing n _).mpr ⟨start, front, e, hfront, hcount, he, rfl⟩)

end DepView.Graph
