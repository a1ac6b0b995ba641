import DepView.Graph.Parser
import DepView.Proofs.GraphHistories

/-!
Well-formed graphs: an identifier names one node, and every edge runs between nodes. Whatever calls
build a graph, it is well-formed, and so is a graph that is read from a text, since reading is done
by such calls.
-/

namespace DepView.Graph

structure WellFormed (g : Graph) : Prop where
  nodup : g.ids.Nodup
  endpoints : ∀ e ∈ g.edges, e.source ∈ g.ids ∧ e.target ∈ g.ids

theorem ids_addNode (g : Graph) (id label : Text) :
    (g.addNode id label).ids = if id ∈ g.ids then g.ids else g.ids ++ [id] := by
  by_cases h : id ∈ g.ids
  · rw [if_pos h]
    obtain ⟨nodes, edges⟩ := g
    unfold addNode ids
    induction nodes with
    | nil => simp [ids] at h
    | cons n nodes ih =>
      by_cases hn : n.id = id
      · simp [put, hn]
      · have hlater : id ∈ ids ⟨nodes, edges⟩ := by
          simpa [ids, Ne.symm hn] using h
        simpa [put, hn] using ih hlater
  · rw [if_neg h, addNode_of_notMem h]
    simp [ids]

theorem ids_ensureNode (g : Graph) (id : Text) :
    (g.ensureNode id).ids = if id ∈ g.ids then g.ids else g.ids ++ [id] := by
  by_cases h : id ∈ g.ids
  · rw [if_pos h, ensureNode_of_mem h]
  · rw [if_neg h, ensureNode_of_notMem h]
    simp [ids]

theorem mem_ids_addNode {g : Graph} {id label other : Text} :
    other ∈ (g.addNode id label).ids ↔ other ∈ g.ids ∨ other = id := by
  rw [ids_addNode]
  grind

theorem mem_ids_ensureNode {g : Graph} {id other : Text} :
    other ∈ (g.ensureNode id).ids ↔ other ∈ g.ids ∨ other = id := by
  rw [ids_ensureNode]
  grind

namespace WellFormed

theorem empty : WellFormed empty where
  nodup := List.nodup_nil
  endpoints _ he := absurd he List.not_mem_nil

variable {g : Graph}

theorem addNode (h : g.WellFormed) (id label : Text) : (g.addNode id label).WellFormed where
  nodup := by
    rw [ids_addNode]
    split
    · exact h.nodup
    · rename_i hid
      have hother : ∀ other ∈ g.ids, other ≠ id := fun other hmem heq => hid (heq ▸ hmem)
      simpa [List.nodup_append, h.nodup] using hother
  endpoints e he := by
    obtain ⟨hsource, htarget⟩ := h.endpoints e he
    exact ⟨mem_ids_addNode.mpr (Or.inl hsource), mem_ids_addNode.mpr (Or.inl htarget)⟩

theorem ensureNode (h : g.WellFormed) (id : Text) : (g.ensureNode id).WellFormed := by
  unfold Graph.ensureNode
  split
  · exact h
  · exact h.addNode id id

theorem addEdge (h : g.WellFormed) (source target : Text) :
    (g.addEdge source target).WellFormed where
  nodup := ((h.ensureNode source).ensureNode target).nodup
  endpoints e he := by
    have hends := (h.ensureNode source).ensureNode target
    rcases List.mem_append.mp he with he | he
    · exact hends.endpoints e he
    · obtain rfl := List.mem_singleton.mp he
      have hsource : source ∈ (g.ensureNode source).ids := mem_ids_ensureNode.mpr (Or.inr rfl)
      exact ⟨mem_ids_ensureNode.mpr (Or.inl hsource), mem_ids_ensureNode.mpr (Or.inr rfl)⟩

/-- A call leaves a well-formed graph, also one that is refused. -/
theorem apply (h : g.WellFormed) (call : Call) : (g.apply call).1.WellFormed := by
  obtain ⟨after, answer, hresult, happlies⟩ := g.exists_applies call
  rw [hresult]
  cases happlies with
  | declares id label => exact h.addNode id label
  | ensures n => exact h.ensureNode n.id
  | draws source target => exact h.addEdge source target
  | draws_half source => exact h.ensureNode source
  | refuses => exact h

theorem run (h : g.WellFormed) (calls : List Call) : (g.run calls).WellFormed := by
  induction calls generalizing g with
  | nil => exact h
  | cons call calls ih => exact ih (h.apply call)

end WellFormed

theorem wellFormed_ofCalls (calls : List Call) : (ofCalls calls).WellFormed :=
  WellFormed.empty.run calls

/-! Reading a text builds its graph by calls. -/

theorem run_append (g : Graph) (calls more : List Call) :
    g.run (calls ++ more) = (g.run calls).run more :=
  List.foldl_append

theorem run_addNode (g : Graph) (nodes : List Node) (label : Node → Text) :
    g.run (nodes.map fun n => .addNode (.str n.id) (.str (label n))) =
      nodes.foldl (fun g n => g.addNode n.id (label n)) g :=
  List.foldl_map

theorem apply_addEdge (g : Graph) (source target : Text) :
    (g.apply (.addEdge (.str source) (.str target))).1 = g.addEdge source target := by
  obtain ⟨after, answer, hresult, happlies⟩ :=
    g.exists_applies (.addEdge (.str source) (.str target))
  rw [hresult]
  cases happlies with
  | draws => rfl
  | draws_half _ _ htarget => exact absurd rfl (htarget target)
  | refuses _ hcall => exact absurd rfl (hcall source (.str target))

theorem run_addEdge (g : Graph) (edges : List Edge) :
    g.run (edges.map fun e => .addEdge (.str e.source) (.str e.target)) =
      edges.foldl (fun g e => g.addEdge e.source e.target) g := by
  unfold run
  rw [List.foldl_map]
  congr 1
  funext g e
  exact g.apply_addEdge e.source e.target

/-- The graph of a text is one that calls build. -/
theorem exists_ofCalls_eq_ofText (text : Text) : ∃ calls, ofCalls calls = ofText text := by
  unfold ofText read
  dsimp only
  split
  · exact ⟨_, run_addEdge empty (quotedEdges (Text.foldCrlf text))⟩
  · unfold ofLabeledNodes
    dsimp only
    rw [← run_addEdge, ← run_addNode, ← run_append]
    exact ⟨_, rfl⟩

end DepView.Graph
