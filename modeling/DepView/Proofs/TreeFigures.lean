import DepView.Proofs.GraphFigures
import DepView.Proofs.TreeGraphText

/-!
The graph of a tree is a tree again. An edge leads one level down, so there is no closed walk and no
walk is longer than the tree is high, and going down to a deepest node takes as many edges as that.
Every node but the first is the child of one other node.
-/

namespace DepView.Shape

open Text DepView.Graph

theorem snd_lt_of_mem_relations {number : Nat} {shape : Shape} {pair : Nat × Nat}
    (h : pair ∈ relations number shape) : pair.2 < number + size shape := by
  have hmem : pair.2 ∈ number :: (relations number shape).map Prod.snd :=
    List.mem_cons_of_mem _ (List.mem_map_of_mem h)
  rw [map_snd_relations] at hmem
  exact (List.mem_range'_1.mp hmem).2

theorem le_snd_of_mem_relationsUnder {parent number : Nat} {shapes : List Shape} {pair : Nat × Nat}
    (h : pair ∈ relationsUnder parent number shapes) : number ≤ pair.2 := by
  have hmem := List.mem_map_of_mem (f := Prod.snd) h
  rw [map_snd_relationsUnder] at hmem
  exact (List.mem_range'_1.mp hmem).1

theorem fst_of_mem_relationsUnder (parent : Nat) : ∀ (number : Nat) (shapes : List Shape)
    (pair : Nat × Nat), pair ∈ relationsUnder parent number shapes →
    pair.1 = parent ∨ number ≤ pair.1
  | number, [], pair, h => by simp [relationsUnder] at h
  | number, shape :: rest, pair, h => by
    simp only [relationsUnder, List.cons_append, List.mem_cons, List.mem_append] at h
    rcases h with rfl | h | h
    · exact Or.inl rfl
    · exact Or.inr (fst_lt_of_mem_relations number shape pair h).1
    · have hrest := fst_of_mem_relationsUnder parent (number + size shape) rest pair h
      omega

/-! The levels of the nodes, and a way down to a deepest one. -/

mutual

/-- The nodes of a tree have levels such that a child is one below its parent. -/
theorem exists_level (number top : Nat) : ∀ shape : Shape, ∃ level : Nat → Nat,
    level number = top ∧ ∀ pair ∈ relations number shape,
      level pair.2 = level pair.1 + 1 ∧ level pair.2 ≤ top + height shape
  | node _ children => exists_levelUnder number (number + 1) top (by omega) children

theorem exists_levelUnder (parent number top : Nat) (hlt : parent < number) :
    ∀ shapes : List Shape, ∃ level : Nat → Nat,
    level parent = top ∧ ∀ pair ∈ relationsUnder parent number shapes,
      level pair.2 = level pair.1 + 1 ∧ level pair.2 ≤ top + heights shapes
  | [] => ⟨fun _ => top, rfl, by simp [relationsUnder]⟩
  | shape :: rest => by
    obtain ⟨inner, hroot, hinner⟩ := exists_level number (top + 1) shape
    obtain ⟨outer, hparent, houter⟩ :=
      exists_levelUnder parent (number + size shape) top (by omega) rest
    have hsize : 0 < size shape := by
      cases shape
      simp only [size]
      omega
    -- The numbers of the first subtree come before those of the others.
    let level : Nat → Nat := fun n =>
      if number ≤ n ∧ n < number + size shape then inner n else outer n
    have hlevel_inner : ∀ n, number ≤ n → n < number + size shape → level n = inner n :=
      fun n hle hn => if_pos ⟨hle, hn⟩
    have hlevel_outer : ∀ n, n < number ∨ number + size shape ≤ n → level n = outer n :=
      fun n hn => if_neg (by omega)
    refine ⟨level, (hlevel_outer parent (Or.inl hlt)).trans hparent, ?_⟩
    intro pair hpair
    simp only [relationsUnder, List.cons_append, List.mem_cons, List.mem_append] at hpair
    simp only [heights]
    rcases hpair with rfl | hpair | hpair
    · change level number = level parent + 1 ∧ level number ≤ _
      rw [hlevel_inner number (by omega) (by omega), hlevel_outer parent (Or.inl hlt)]
      omega
    · have hbounds := fst_lt_of_mem_relations number shape pair hpair
      have hend := snd_lt_of_mem_relations hpair
      have hfirst := hlevel_inner pair.1 (by omega) (by omega)
      have hsecond := hlevel_inner pair.2 (by omega) (by omega)
      have hstep := hinner pair hpair
      omega
    · have hstart := fst_of_mem_relationsUnder parent (number + size shape) rest pair hpair
      have hend := le_snd_of_mem_relationsUnder hpair
      have hfirst := hlevel_outer pair.1 (by omega)
      have hsecond := hlevel_outer pair.2 (by omega)
      have hstep := houter pair hpair
      omega

end

/-- The edge between two numbered nodes. -/
def edge (start : Text) (pair : Nat × Nat) : Edge :=
  ⟨nodeId start pair.1, nodeId start pair.2⟩

theorem edges_graph (start : Text) (shape : Shape) :
    (graph start shape).edges = (shape.relations 0).map (edge start) := rfl

mutual

/-- A walk goes down to a deepest node of a tree. -/
theorem exists_walk_down (g : Graph) (start : Text) (number : Nat) : ∀ shape : Shape,
    (∀ pair ∈ relations number shape, edge start pair ∈ g.edges) →
    ∃ goal walk, g.Walk (nodeId start number) goal walk ∧ walk.length = height shape
  | node _ children, h => exists_walk_downUnder g start number (number + 1) children h

theorem exists_walk_downUnder (g : Graph) (start : Text) (parent number : Nat) :
    ∀ shapes : List Shape,
    (∀ pair ∈ relationsUnder parent number shapes, edge start pair ∈ g.edges) →
    ∃ goal walk, g.Walk (nodeId start parent) goal walk ∧ walk.length = heights shapes
  | [], _ => ⟨nodeId start parent, [], .stay _, rfl⟩
  | shape :: rest, h => by
    have hedge : edge start (parent, number) ∈ g.edges := h _ (by simp [relationsUnder])
    have hshape : ∀ pair ∈ relations number shape, edge start pair ∈ g.edges :=
      fun pair hpair => h pair (by simp [relationsUnder, hpair])
    have hrest : ∀ pair ∈ relationsUnder parent (number + size shape) rest,
        edge start pair ∈ g.edges :=
      fun pair hpair => h pair (by simp [relationsUnder, hpair])
    rcases le_total (heights rest) (height shape + 1) with hle | hle
    · obtain ⟨goal, walk, hwalk, hlength⟩ := exists_walk_down g start number shape hshape
      refine ⟨goal, edge start (parent, number) :: walk, .go hedge hwalk, ?_⟩
      rw [List.length_cons, hlength, heights, max_eq_left hle]
    · obtain ⟨goal, walk, hwalk, hlength⟩ :=
        exists_walk_downUnder g start parent (number + size shape) rest hrest
      exact ⟨goal, walk, hwalk, by rw [hlength, heights, max_eq_right hle]⟩

end

/-! The figures of the graph. -/

/-- The nodes have ranks that grow along the edges, up to the height of the tree. -/
theorem exists_rank (start : Text) (shape : Shape) : ∃ rank : Text → Nat,
    ∀ e ∈ (graph start shape).edges,
      rank e.source < rank e.target ∧ rank e.target ≤ height shape := by
  obtain ⟨level, -, hlevel⟩ := exists_level 0 0 shape
  have hrank := (nodeId_injective start).extend_apply level 0
  refine ⟨Function.extend (nodeId start) level 0, ?_⟩
  rw [edges_graph]
  intro e he
  obtain ⟨pair, hpair, rfl⟩ := List.mem_map.mp he
  obtain ⟨hstep, hle⟩ := hlevel pair hpair
  simp only [edge, hrank]
  omega

theorem hasWalk_height (start : Text) (shape : Shape) :
    (graph start shape).HasWalk shape.height := by
  obtain ⟨goal, walk, hwalk, hlength⟩ :=
    exists_walk_down (graph start shape) start 0 shape fun _ => List.mem_map_of_mem
  exact ⟨nodeId start 0, goal, walk, hwalk, hlength⟩

theorem not_hasWalk_height_succ (start : Text) (shape : Shape) :
    ¬ (graph start shape).HasWalk (shape.height + 1) := by
  rintro ⟨first, goal, walk, hwalk, hlength⟩
  obtain ⟨rank, hrank⟩ := exists_rank start shape
  obtain rfl | ⟨front, e, rfl⟩ := List.eq_nil_or_concat' walk
  · cases hlength
  · obtain ⟨_, he, rfl⟩ := Walk.concat_iff.mp hwalk
    have hlong := hwalk.rank_add_length_le fun e he => (hrank e he).1
    have htop := (hrank e he).2
    omega

theorem acyclic_graph (start : Text) (shape : Shape) : (graph start shape).Acyclic := by
  obtain ⟨rank, hrank⟩ := exists_rank start shape
  exact acyclic_of_rank fun e he => (hrank e he).1

theorem wellFormed_graph (start : Text) (shape : Shape) : (graph start shape).WellFormed where
  nodup := by
    rw [ids_graph]
    exact List.nodup_range.map (nodeId_injective start)
  endpoints e he := by
    obtain ⟨pair, hpair, rfl⟩ := List.mem_map.mp he
    have hlt := relations_lt_size hpair
    exact ⟨mem_ids_graph (by omega), mem_ids_graph hlt.2⟩

/-- Behind the first node, each node is the end of one edge. -/
theorem cons_map_target_edges (start : Text) (shape : Shape) :
    nodeId start 0 :: (graph start shape).edges.map (·.target) = (graph start shape).ids := by
  have hnumbers := congrArg (List.map (nodeId start)) (map_snd_relations 0 shape)
  rw [ids_graph, List.range_eq_range', ← hnumbers, edges_graph]
  simp [edge, Function.comp_def]

theorem length_edges_graph (start : Text) (shape : Shape) :
    (graph start shape).edges.length + 1 = shape.size := by
  have hlength := congrArg List.length (cons_map_target_edges start shape)
  rwa [ids_graph, List.length_cons, List.length_map, List.length_map, List.length_range] at hlength

theorem hasIncoming_iff (start : Text) (shape : Shape) (id : Text) :
    (graph start shape).HasIncoming id ↔ id ∈ (graph start shape).ids ∧ id ≠ nodeId start 0 := by
  have htargets := cons_map_target_edges start shape
  have hnodup := (wellFormed_graph start shape).nodup
  rw [← htargets] at hnodup ⊢
  have hfirst := (List.nodup_cons.mp hnodup).1
  have hincoming : (graph start shape).HasIncoming id ↔
      id ∈ (graph start shape).edges.map (·.target) := List.mem_map.symm
  rw [hincoming, List.mem_cons]
  constructor
  · intro hmem
    exact ⟨Or.inr hmem, fun heq => hfirst (heq ▸ hmem)⟩
  · rintro ⟨hhead | hmem, hne⟩
    · exact absurd hhead hne
    · exact hmem

/-- The first node has a child if there is another node at all. -/
theorem hasOutgoing_first_iff (start : Text) (shape : Shape) :
    (graph start shape).HasOutgoing (nodeId start 0) ↔ shape.size ≠ 1 := by
  have hlength := length_edges_graph start shape
  constructor
  · rintro ⟨e, he, -⟩ hone
    have hnil : (graph start shape).edges = [] := List.length_eq_zero_iff.mp (by omega)
    rw [hnil] at he
    cases he
  · intro hne
    have hpos : 0 < shape.size := by omega
    -- The second node is the child of one that comes before it.
    have hsecond : nodeId start 1 ∈ (graph start shape).ids := mem_ids_graph (by omega)
    have hother : nodeId start 1 ≠ nodeId start 0 := fun heq => by
      cases nodeId_injective start heq
    obtain ⟨e, he, htarget⟩ := (hasIncoming_iff start shape _).mpr ⟨hsecond, hother⟩
    obtain ⟨pair, hpair, rfl⟩ := List.mem_map.mp he
    have hchild : pair.2 = 1 := nodeId_injective start htarget
    have hparent : pair.1 = 0 := by
      have hlt := (relations_lt_size hpair).1
      omega
    exact ⟨_, he, congrArg (nodeId start) hparent⟩

theorem filter_ids_graph (start : Text) (shape : Shape) (wanted : Text → Prop)
    [DecidablePred wanted] :
    (graph start shape).ids.filter
        (fun id => ¬ (graph start shape).HasIncoming id ∧ wanted id) =
      if wanted (nodeId start 0) then [nodeId start 0] else [] := by
  have hfirst : nodeId start 0 ∈ (graph start shape).ids := by
    rw [← cons_map_target_edges]
    exact List.mem_cons_self
  have hentry : ¬ (graph start shape).HasIncoming (nodeId start 0) := by
    rw [hasIncoming_iff]
    exact fun h => h.2 rfl
  have hlater : ((graph start shape).edges.map (·.target)).filter
      (fun id => ¬ (graph start shape).HasIncoming id ∧ wanted id) = [] := by
    rw [List.filter_eq_nil_iff]
    intro id hid
    have hincoming : (graph start shape).HasIncoming id := List.mem_map.mp hid
    simp [hincoming]
  rw [← cons_map_target_edges, List.filter_cons, hlater]
  simp [hentry]

/-- What the graph of a tree is like. -/
structure IsTree (shape : Shape) (g : Graph) : Prop where
  stats : g.stats =
    { totalNodes := shape.size
      totalEdges := shape.size - 1
      roots := if shape.size = 1 then [] else ["n0".toList]
      orphans := if shape.size = 1 then ["n0".toList] else []
      isDag := true
      depth := shape.height }
  forward : ∀ e ∈ g.edges, ∃ parent child, parent < child ∧ child < shape.size ∧
    e = ⟨nodeId ['n'] parent, nodeId ['n'] child⟩
  parent : ∀ id ∈ g.ids, id ≠ "n0".toList → g.edges.countP (fun e => e.target = id) = 1

theorem countP_target_eq_one {start : Text} {shape : Shape} {id : Text}
    (hid : id ∈ (graph start shape).ids) (hne : id ≠ nodeId start 0) :
    (graph start shape).edges.countP (fun e => e.target = id) = 1 := by
  have hnodup := (wellFormed_graph start shape).nodup
  rw [← cons_map_target_edges] at hnodup
  have hincoming := (hasIncoming_iff start shape id).mpr ⟨hid, hne⟩
  have hcount := List.count_eq_one_of_mem (List.nodup_cons.mp hnodup).2 (List.mem_map.mpr hincoming)
  rw [List.count, List.countP_map] at hcount
  rw [← hcount]
  apply List.countP_congr
  intro e _
  simp

theorem stats_graph (start : Text) (shape : Shape) : (graph start shape).stats =
    { totalNodes := shape.size
      totalEdges := shape.size - 1
      roots := if shape.size = 1 then [] else [nodeId start 0]
      orphans := if shape.size = 1 then [nodeId start 0] else []
      isDag := true
      depth := shape.height } := by
  have hg := wellFormed_graph start shape
  have hacyclic := acyclic_graph start shape
  have hlength := length_edges_graph start shape
  have hnodes : (graph start shape).stats.totalNodes = shape.size := by
    have hids := congrArg List.length (ids_graph start shape)
    simp only [ids, List.length_map, List.length_range] at hids
    exact hids
  have hedges : (graph start shape).stats.totalEdges = shape.size - 1 := by
    change (graph start shape).edges.length = shape.size - 1
    omega
  have hroots : (graph start shape).stats.roots =
      if shape.size = 1 then [] else [nodeId start 0] := by
    refine hg.roots_project.trans ((filter_ids_graph start shape _).trans ?_)
    simp [hasOutgoing_first_iff]
  have horphans : (graph start shape).stats.orphans =
      if shape.size = 1 then [nodeId start 0] else [] := by
    refine hg.orphans_project.trans ((filter_ids_graph start shape _).trans ?_)
    simp [hasOutgoing_first_iff]
  have hdepth := hg.depth_eq hacyclic (hasWalk_height start shape)
    (not_hasWalk_height_succ start shape)
  have hfields : (graph start shape).stats =
      ⟨(graph start shape).stats.totalNodes, (graph start shape).stats.totalEdges,
        (graph start shape).stats.roots, (graph start shape).stats.orphans,
        (graph start shape).stats.isDag, (graph start shape).stats.depth⟩ := rfl
  rw [hfields, hnodes, hedges, hroots, horphans, hg.isDag_stats.mpr hacyclic, hdepth]

/-- Writing a tree as graph text and reading the text gives a tree of the same size and height,
whose root is the first node. -/
theorem isTree_ofText_toDot (name : Text) (shape : Shape) :
    IsTree shape (ofText (shape.toDot name ['n'])) := by
  have hstart : ∀ c ∈ ['n'], isIdent c = true := class_of_all (by decide)
  have hgraph : ofText (shape.toDot name ['n']) = graph ['n'] shape := by
    rw [ofText, toDot_eq_rowsText name ['n'] hstart, read_rowsText, ofRows_rows]
  rw [hgraph]
  exact {
    stats := stats_graph ['n'] shape
    forward := fun e he => by
      obtain ⟨pair, hpair, rfl⟩ := List.mem_map.mp he
      have hlt := relations_lt_size hpair
      exact ⟨pair.1, pair.2, hlt.1, hlt.2, rfl⟩
    parent := fun id hid hne => countP_target_eq_one hid hne }

end DepView.Shape
