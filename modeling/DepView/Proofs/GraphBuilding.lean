import DepView.Graph.Basic
import Mathlib.Data.List.Induction

/-!
What the calls that build a graph add to it. A new node goes to the end, and an edge
brings those of its endpoints that are not there yet, source first. The graph of some
edges has its nodes in the order in which the edges mention them.
-/

namespace DepView.Graph

theorem put_of_notMem {node : Node} {nodes : List Node} (h : node.id ∉ nodes.map (·.id)) :
    put node nodes = nodes ++ [node] := by
  induction nodes with
  | nil => rfl
  | cons n nodes ih =>
    rw [List.map_cons, List.mem_cons, not_or] at h
    rw [put, if_neg (Ne.symm h.1), ih h.2, List.cons_append]

theorem addNode_of_notMem {g : Graph} {id : Text} (h : id ∉ g.ids) (label : Text) :
    g.addNode id label = ⟨g.nodes ++ [⟨id, label⟩], g.edges⟩ := by
  unfold addNode
  rw [put_of_notMem h]

theorem find?_isSome_iff (g : Graph) (id : Text) : (g.find? id).isSome = true ↔ id ∈ g.ids := by
  simp [find?, ids, List.find?_isSome]

theorem ensureNode_of_mem {g : Graph} {id : Text} (h : id ∈ g.ids) : g.ensureNode id = g :=
  if_pos ((find?_isSome_iff g id).mpr h)

theorem ensureNode_of_notMem {g : Graph} {id : Text} (h : id ∉ g.ids) :
    g.ensureNode id = ⟨g.nodes ++ [⟨id, id⟩], g.edges⟩ := by
  have hfind : ¬ (g.find? id).isSome = true := fun hsome => h ((find?_isSome_iff g id).mp hsome)
  unfold ensureNode
  rw [if_neg hfind, addNode_of_notMem h]

theorem addEdge_of_mem {g : Graph} {source target : Text} (hs : source ∈ g.ids)
    (ht : target ∈ g.ids) : g.addEdge source target = ⟨g.nodes, g.edges ++ [⟨source, target⟩]⟩ := by
  unfold addEdge
  rw [ensureNode_of_mem hs, ensureNode_of_mem ht]

/-- Declaring nodes under different identifiers puts them one behind the other. -/
theorem foldl_addNode (g : Graph) (nodes : List Node)
    (h : (g.ids ++ nodes.map (·.id)).Nodup) :
    nodes.foldl (fun g n => g.addNode n.id n.label) g = ⟨g.nodes ++ nodes, g.edges⟩ := by
  induction nodes generalizing g with
  | nil => simp
  | cons n nodes ih =>
    have hn : n.id ∉ g.ids := by
      intro hmem
      rw [List.nodup_append] at h
      exact h.2.2 n.id hmem n.id (by simp) rfl
    rw [List.foldl_cons, addNode_of_notMem hn, ih]
    · simp
    · simpa [ids] using h

/-- Edges between nodes that are there add nothing but themselves. -/
theorem foldl_addEdge_of_mem (g : Graph) (edges : List Edge)
    (h : ∀ e ∈ edges, e.source ∈ g.ids ∧ e.target ∈ g.ids) :
    edges.foldl (fun g e => g.addEdge e.source e.target) g = ⟨g.nodes, g.edges ++ edges⟩ := by
  induction edges generalizing g with
  | nil => simp
  | cons e edges ih =>
    obtain ⟨hs, ht⟩ := h e (List.mem_cons_self ..)
    have htail : ∀ d ∈ edges, d.source ∈ g.ids ∧ d.target ∈ g.ids :=
      fun d hd => h d (List.mem_cons_of_mem _ hd)
    rw [List.foldl_cons, addEdge_of_mem hs ht, ih]
    · simp
    · exact htail

/-- The identifiers that edges mention, each source before its target. -/
def mentions (edges : List Edge) : List Text :=
  edges.flatMap fun e => [e.source, e.target]

theorem eraseDups_concat (mentioned : List Text) (id : Text) :
    (mentioned ++ [id]).eraseDups =
      if id ∈ mentioned then mentioned.eraseDups else mentioned.eraseDups ++ [id] := by
  by_cases h : id ∈ mentioned
  · simp [List.eraseDups_append, List.removeAll, h]
  · simp [List.eraseDups_append, List.eraseDups_cons, List.removeAll, h]

theorem nodup_eraseDups (mentioned : List Text) : mentioned.eraseDups.Nodup := by
  induction mentioned using List.reverseRecOn with
  | nil => simp
  | append_singleton mentioned id ih =>
    rw [eraseDups_concat]
    split
    · exact ih
    · rename_i h
      have hid : ∀ other ∈ mentioned.eraseDups, other ≠ id :=
        fun other hother heq => h (heq ▸ List.mem_eraseDups.mp hother)
      simpa [List.nodup_append, ih] using hid

theorem eraseDups_of_nodup {mentioned : List Text} (h : mentioned.Nodup) :
    mentioned.eraseDups = mentioned := by
  induction mentioned using List.reverseRecOn with
  | nil => rfl
  | append_singleton mentioned id ih =>
    obtain ⟨hmentioned, _, hdisjoint⟩ := List.nodup_append.mp h
    have hnew : id ∉ mentioned := fun hmem => hdisjoint id hmem id List.mem_cons_self rfl
    rw [eraseDups_concat, if_neg hnew, ih hmentioned]

/-- Nodes under some identifiers, each in the place of its first mention. -/
def labelled (label : Text → Text) (mentioned : List Text) : List Node :=
  mentioned.eraseDups.map fun id => ⟨id, label id⟩

theorem mem_ids_labelled {label : Text → Text} {mentioned : List Text} {edges : List Edge}
    {id : Text} : id ∈ ids ⟨labelled label mentioned, edges⟩ ↔ id ∈ mentioned := by
  simp [ids, labelled]

theorem labelled_congr {label other : Text → Text} {mentioned : List Text}
    (h : ∀ id ∈ mentioned, label id = other id) :
    labelled label mentioned = labelled other mentioned := by
  apply List.map_congr_left
  intro id hid
  rw [h id (List.mem_eraseDups.mp hid)]

theorem labelled_concat (label : Text → Text) (mentioned : List Text) (id : Text) :
    labelled label (mentioned ++ [id]) =
      if id ∈ mentioned then labelled label mentioned
      else labelled label mentioned ++ [⟨id, label id⟩] := by
  unfold labelled
  rw [eraseDups_concat]
  split
  · rfl
  · rw [List.map_append, List.map_singleton]

/-- A node that is put in place of another one keeps all others as they are. -/
theorem put_map {known : List Text} (hnodup : known.Nodup) {id : Text} (hid : id ∈ known)
    (label : Text → Text) (new : Text) :
    put ⟨id, new⟩ (known.map fun other => ⟨other, label other⟩) =
      known.map fun other => ⟨other, if other = id then new else label other⟩ := by
  induction known with
  | nil => cases hid
  | cons first known ih =>
    obtain ⟨hfirst, hknown⟩ := List.nodup_cons.mp hnodup
    rw [List.map_cons, List.map_cons, put]
    by_cases h : first = id
    · rw [if_pos h, if_pos h, h]
      have hother : ∀ other ∈ known, other ≠ id := by
        rintro other hother rfl
        exact hfirst (h ▸ hother)
      congr 1
      apply List.map_congr_left
      intro other hmem
      rw [if_neg (hother other hmem)]
    · rw [if_neg h, if_neg h, ih hknown (List.mem_of_ne_of_mem (Ne.symm h) hid)]

/-- Declaring a node gives its identifier a new label, and a place if it has none. -/
theorem addNode_labelled (label : Text → Text) (mentioned : List Text) (edges : List Edge)
    (id new : Text) :
    addNode ⟨labelled label mentioned, edges⟩ id new =
      ⟨labelled (fun other => if other = id then new else label other) (mentioned ++ [id]),
        edges⟩ := by
  by_cases h : id ∈ mentioned
  · have hput := put_map (nodup_eraseDups mentioned) (List.mem_eraseDups.mpr h) label new
    rw [labelled_concat, if_pos h]
    exact congrArg (fun nodes => (⟨nodes, edges⟩ : Graph)) hput
  · rw [addNode_of_notMem (mt mem_ids_labelled.mp h), labelled_concat, if_neg h, if_pos rfl]
    congr 2
    apply labelled_congr
    intro other hother
    have hne : other ≠ id := fun heq => h (heq ▸ hother)
    rw [if_neg hne]

/-- An identifier that is new stands for itself. -/
theorem ensureNode_labelled {label : Text → Text} {mentioned : List Text} (edges : List Edge)
    {id : Text} (h : id ∉ mentioned → label id = id) :
    ensureNode ⟨labelled label mentioned, edges⟩ id =
      ⟨labelled label (mentioned ++ [id]), edges⟩ := by
  rw [labelled_concat]
  by_cases hid : id ∈ mentioned
  · rw [ensureNode_of_mem (mem_ids_labelled.mpr hid), if_pos hid]
  · rw [ensureNode_of_notMem (mt mem_ids_labelled.mp hid), if_neg hid, h hid]

theorem foldl_addEdge_labelled (label : Text → Text) (mentioned : List Text)
    (h : ∀ id, id ∉ mentioned → label id = id) (done edges : List Edge) :
    edges.foldl (fun (g : Graph) e => g.addEdge e.source e.target)
        ⟨labelled label mentioned, done⟩ =
      ⟨labelled label (mentioned ++ mentions edges), done ++ edges⟩ := by
  induction edges generalizing mentioned done with
  | nil => simp [mentions]
  | cons e edges ih =>
    have hsource : ∀ id, id ∉ mentioned ++ [e.source] → label id = id :=
      fun id hid => h id fun hmem => hid (List.mem_append_left _ hmem)
    have htarget : ∀ id, id ∉ mentioned ++ [e.source] ++ [e.target] → label id = id :=
      fun id hid => hsource id fun hmem => hid (List.mem_append_left _ hmem)
    have hadd : addEdge ⟨labelled label mentioned, done⟩ e.source e.target =
        ⟨labelled label (mentioned ++ [e.source] ++ [e.target]), done ++ [e]⟩ := by
      unfold addEdge
      rw [ensureNode_labelled done (h e.source), ensureNode_labelled done (hsource e.target)]
    rw [List.foldl_cons, hadd, ih _ htarget]
    simp [mentions]

/-- Nodes that are labelled with their identifiers, each in the place of its first mention. -/
def selfLabelled (mentioned : List Text) : List Node :=
  mentioned.eraseDups.map fun id => ⟨id, id⟩

/-- The graph of some edges holds just what they mention, in the order of first mention. -/
theorem ofEdges_eq (edges : List Edge) :
    ofEdges edges = ⟨selfLabelled (mentions edges), edges⟩ := by
  exact foldl_addEdge_labelled (fun id => id) [] (fun _ _ => rfl) [] edges

end DepView.Graph
