import DepView.Layout.Basic
import DepView.Proofs.WellFormedGraphs
import Mathlib.Data.List.Nodup

/-!
The elements of a layout and their identifiers. Nodes are told apart by the names that they have in
the graph, and edges by their numbers. An edge comes behind the nodes that it connects. The
identifier of an edge is an `e` with a number, which may also be the name of a node.
-/

namespace DepView

open DepView.Graph

namespace Element

def isNode : Element → Bool
  | node .. => true
  | edge .. => false

end Element

namespace Layout

/-- The identifier of the edge with a number. -/
def edgeId (number : Nat) : Text :=
  'e' :: Decimal.digits number

theorem nodup_map_edgeId (count : Nat) : ((List.range count).map edgeId).Nodup := by
  apply List.Nodup.map _ List.nodup_range
  exact fun _ _ h => Decimal.digits_injective (List.cons.inj h).2

theorem map_id_nodeElements (nodes : List Node) (points : List Point) :
    (nodeElements nodes points).map Element.id = nodes.map (·.id) := by
  fun_induction nodeElements nodes points with
  | case1 => rfl
  | case2 n nodes ih => rw [List.map_cons, List.map_cons, ih, Element.id]
  | case3 n nodes p points ih => rw [List.map_cons, List.map_cons, ih, Element.id]

theorem isNode_of_mem_nodeElements {nodes : List Node} {points : List Point} :
    ∀ x ∈ nodeElements nodes points, x.isNode = true := by
  fun_induction nodeElements nodes points with
  | case1 => simp
  | case2 n nodes ih => exact List.forall_mem_cons.mpr ⟨rfl, ih⟩
  | case3 n nodes p points ih => exact List.forall_mem_cons.mpr ⟨rfl, ih⟩

theorem edgeElements_eq (number : Nat) (edges : List Edge) :
    edgeElements number edges =
      (edges.zipIdx number).map fun (e, number) => .edge (edgeId number) e.source e.target := by
  induction edges generalizing number with
  | nil => rfl
  | cons e edges ih =>
    rw [edgeElements, ih, List.zipIdx_cons, List.map_cons]
    rfl

theorem map_id_edgeElements (edges : List Edge) :
    (edgeElements 0 edges).map Element.id = (List.range edges.length).map edgeId := by
  have hnumbers : (edges.zipIdx).map Prod.snd = List.range edges.length := by
    rw [← List.unzip_snd, List.unzip_zipIdx_eq_prod, List.range_eq_range']
  rw [edgeElements_eq, ← hnumbers, List.map_map, List.map_map]
  rfl

theorem isNode_of_mem_edgeElements {edges : List Edge} :
    ∀ x ∈ edgeElements 0 edges, x.isNode = false := by
  rw [edgeElements_eq]
  intro x hx
  obtain ⟨pair, -, rfl⟩ := List.mem_map.mp hx
  rfl

theorem filter_isNode (l : Layout) :
    l.elements.filter Element.isNode = nodeElements l.graph.nodes l.points := by
  rw [elements, List.filter_append, List.filter_eq_self.mpr isNode_of_mem_nodeElements,
    List.filter_eq_nil_iff.mpr, List.append_nil]
  intro x hx
  simp [isNode_of_mem_edgeElements x hx]

theorem filter_not_isNode (l : Layout) :
    l.elements.filter (fun x => !x.isNode) = edgeElements 0 l.graph.edges := by
  rw [elements, List.filter_append, List.filter_eq_nil_iff.mpr, List.nil_append,
    List.filter_eq_self.mpr]
  · intro x hx
    simp [isNode_of_mem_edgeElements x hx]
  · intro x hx
    simp [isNode_of_mem_nodeElements x hx]

theorem map_id_elements (l : Layout) :
    l.elements.map Element.id = l.graph.ids ++ (List.range l.graph.edges.length).map edgeId := by
  rw [elements, List.map_append, map_id_nodeElements, map_id_edgeElements]
  rfl

theorem exists_node_mem {nodes : List Node} {id : Text} (h : id ∈ nodes.map (·.id))
    (points : List Point) : ∃ name point, .node id name point ∈ nodeElements nodes points := by
  rw [← map_id_nodeElements nodes points] at h
  obtain ⟨x, hx, rfl⟩ := List.mem_map.mp h
  cases x with
  | node id name point => exact ⟨name, point, hx⟩
  | edge => cases isNode_of_mem_nodeElements _ hx

/-- All nodes stand before an edge. -/
theorem nodeElements_subset {l : Layout} {before after : List Element} {id source target : Text}
    (h : l.elements = before ++ .edge id source target :: after) :
    nodeElements l.graph.nodes l.points ⊆ before := by
  rcases List.append_eq_append_iff.mp h with ⟨others, rfl, -⟩ | ⟨others, hnodes, hedges⟩
  · exact List.subset_append_left _ _
  · cases others with
    | nil =>
      rw [hnodes, List.append_nil]
      exact List.Subset.refl _
    | cons x others =>
      obtain rfl := (List.cons.inj hedges).1
      have hmem : .edge id source target ∈ nodeElements l.graph.nodes l.points := by
        simp [hnodes]
      cases isNode_of_mem_nodeElements _ hmem

/-- How the elements of a layout are told apart, and where the ends of its edges are. -/
structure Identified (l : Layout) : Prop where
  nodes : ((l.elements.filter Element.isNode).map Element.id).Nodup
  edges : ((l.elements.filter fun x => !x.isNode).map Element.id).Nodup
  edgeIds : (l.elements.filter fun x => !x.isNode).map Element.id =
    (List.range l.graph.edgeCount).map edgeId
  apart : (l.elements.map Element.id).Nodup ↔
    ∀ number < l.graph.edgeCount, edgeId number ∉ l.graph.ids
  endpoints : ∀ before id source target after,
    l.elements = before ++ .edge id source target :: after →
      (∃ name point, .node source name point ∈ before) ∧
        ∃ name point, .node target name point ∈ before

theorem identified {l : Layout} (hg : l.graph.WellFormed) : Identified l where
  nodes := by
    rw [filter_isNode, map_id_nodeElements]
    exact hg.nodup
  edges := by
    rw [filter_not_isNode, map_id_edgeElements]
    exact nodup_map_edgeId _
  edgeIds := by
    rw [filter_not_isNode, map_id_edgeElements]
    rfl
  apart := by
    rw [map_id_elements, List.nodup_append]
    constructor
    · rintro ⟨-, -, hapart⟩ number hnumber hmem
      exact hapart _ hmem _ (List.mem_map_of_mem (List.mem_range.mpr hnumber)) rfl
    · intro hapart
      refine ⟨hg.nodup, nodup_map_edgeId _, ?_⟩
      rintro id hid other hother rfl
      obtain ⟨number, hnumber, rfl⟩ := List.mem_map.mp hother
      exact hapart number (List.mem_range.mp hnumber) hid
  endpoints before id source target after h := by
    have hmem : .edge id source target ∈ edgeElements 0 l.graph.edges := by
      rw [← filter_not_isNode, h]
      simp [Element.isNode]
    rw [edgeElements_eq] at hmem
    obtain ⟨⟨e, number⟩, he, hedge⟩ := List.mem_map.mp hmem
    obtain ⟨-, rfl, rfl⟩ := Element.edge.inj hedge
    obtain ⟨hsource, htarget⟩ := hg.endpoints e (List.fst_mem_of_mem_zipIdx he)
    obtain ⟨name, point, hnode⟩ := exists_node_mem hsource l.points
    obtain ⟨other, place, hother⟩ := exists_node_mem htarget l.points
    exact ⟨⟨name, point, nodeElements_subset h hnode⟩, ⟨other, place, nodeElements_subset h hother⟩⟩

theorem graph_build (radius : RadialSettings) (distances : HierarchySettings) (g : Graph)
    (mode : LayoutMode) : (build radius distances g mode).graph = g := by
  cases mode <;> rfl

/-- In either layout of a graph, be it built by calls or read from a text, nodes are told apart
from nodes and edges from edges, and edges connect nodes before them. -/
theorem identified_build (radius : RadialSettings) (distances : HierarchySettings)
    (mode : LayoutMode) :
    (∀ calls, Identified (build radius distances (ofCalls calls) mode)) ∧
      ∀ text, Identified (build radius distances (ofText text) mode) := by
  have hbuilt : ∀ calls, Identified (build radius distances (ofCalls calls) mode) := by
    intro calls
    apply identified
    rw [graph_build]
    exact wellFormed_ofCalls calls
  refine ⟨hbuilt, ?_⟩
  intro text
  obtain ⟨calls, hcalls⟩ := exists_ofCalls_eq_ofText text
  rw [← hcalls]
  exact hbuilt calls

/-- A node that is named like the first edge. -/
theorem not_nodup_ids_elements :
    ¬ ((build .standard .standard (ofCalls [.addEdge (.str "e0".toList) (.str "b".toList)])
      .radial).elements.map Element.id).Nodup := by
  decide

end Layout

end DepView
