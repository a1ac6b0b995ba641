import DepView.Proofs.GraphProjection
import Mathlib.Order.Bounds.Basic

/-!
The figures of a graph are what they are called: its roots and its orphans in the order of the
nodes, whether it has a closed walk, and the number of edges on a longest path. A graph with edges
and without closed walks has a root, and its longest path comes by no more nodes than there are.
-/

namespace DepView.Graph

open Projection

theorem depth_eq_zero {g : Graph} (h : g.stats.isDag = false) : g.stats.depth = 0 := by
  have hnone : g.project.longestPath? = none :=
    Option.not_isSome_iff_eq_none.mp (Bool.eq_false_iff.mp h)
  change g.project.longestPath?.getD 0 = 0
  rw [hnone]
  rfl

namespace WellFormed

variable {g : Graph}

theorem isDag_stats (hg : g.WellFormed) : g.stats.isDag = true ↔ g.Acyclic := by
  have hrounds : g.project.longestPath? = none ↔ g.HasWalk (g.ids.length + 1) :=
    longestWalk?_eq_none_iff.trans (hg.iterate_continuing_ne_nil_iff g.ids.length)
  rw [acyclic_iff hg, ← hrounds]
  exact Option.isSome_iff_ne_none

/-- The depth is a length that walks have, and none is longer. -/
theorem hasWalk_iff_le_depth (hg : g.WellFormed) (hacyclic : g.Acyclic) (n : Nat) :
    g.HasWalk n ↔ n ≤ g.stats.depth := by
  obtain ⟨longest, hlongest⟩ := Option.isSome_iff_exists.mp (hg.isDag_stats.mpr hacyclic)
  obtain ⟨rounds, hrounds, hend, hleft⟩ := of_longestWalk?_eq_some hlongest
  have hdepth : g.stats.depth = rounds := by
    change g.project.longestPath?.getD 0 = rounds
    rw [hlongest, Option.getD_some, hrounds, Nat.zero_add]
  have hnone : ¬ g.HasWalk (rounds + 1) := by
    rw [← hg.iterate_continuing_ne_nil_iff]
    exact not_not_intro hend
  rw [hdepth]
  constructor
  · intro hwalk
    by_contra hlt
    exact hnone (hwalk.mono (by omega))
  · intro hle
    cases n with
    | zero => exact g.hasWalk_zero
    | succ n => exact (hg.iterate_continuing_ne_nil_iff n).mp (hleft n hle)

/-- The depth is the length of a walk if no walk is longer. -/
theorem depth_eq (hg : g.WellFormed) (hacyclic : g.Acyclic) {n : Nat} (hwalk : g.HasWalk n)
    (hlongest : ¬ g.HasWalk (n + 1)) : g.stats.depth = n := by
  rw [hg.hasWalk_iff_le_depth hacyclic] at hwalk hlongest
  omega

/-- Without closed walks the depth is the greatest length of a path. -/
theorem isGreatest_depth (hg : g.WellFormed) (hacyclic : g.Acyclic) :
    IsGreatest {n | ∃ path, g.IsPath path ∧ path.length = n} g.stats.depth := by
  constructor
  · obtain ⟨start, goal, walk, hwalk, hlength⟩ :=
      (hg.hasWalk_iff_le_depth hacyclic g.stats.depth).mpr (Nat.le_refl _)
    exact ⟨walk, ⟨start, goal, hwalk, hwalk.nodup_stops hacyclic⟩, hlength⟩
  · rintro n ⟨path, ⟨start, goal, hwalk, -⟩, hlength⟩
    exact (hg.hasWalk_iff_le_depth hacyclic n).mp ⟨start, goal, path, hwalk, hlength⟩

theorem depth_pos (hg : g.WellFormed) (hacyclic : g.Acyclic) (hedges : g.edges ≠ []) :
    1 ≤ g.stats.depth := by
  obtain ⟨e, he⟩ := List.exists_mem_of_ne_nil _ hedges
  exact (hg.hasWalk_iff_le_depth hacyclic 1).mp ⟨e.source, e.target, [e], Walk.single he, rfl⟩

theorem depth_lt (hg : g.WellFormed) (hacyclic : g.Acyclic) (hedges : g.edges ≠ []) :
    g.stats.depth < g.ids.length := by
  obtain ⟨start, goal, walk, hwalk, hlength⟩ :=
    (hg.hasWalk_iff_le_depth hacyclic g.stats.depth).mpr (Nat.le_refl _)
  have hpos := hg.depth_pos hacyclic hedges
  rw [← hlength] at hpos ⊢
  exact hwalk.length_lt hg hacyclic (List.ne_nil_of_length_pos hpos)

/-- A longest walk begins at a root, since it could be made longer elsewhere. -/
theorem roots_ne_nil (hg : g.WellFormed) (hacyclic : g.Acyclic) (hedges : g.edges ≠ []) :
    g.stats.roots ≠ [] := by
  obtain ⟨start, goal, walk, hwalk, hlength⟩ :=
    (hg.hasWalk_iff_le_depth hacyclic g.stats.depth).mpr (Nat.le_refl _)
  have hpos := hg.depth_pos hacyclic hedges
  cases hwalk with
  | stay => simp only [List.length_nil] at hlength; omega
  | @go e _ rest he hrest =>
    have hentry : ¬ g.HasIncoming e.source := by
      rintro ⟨d, hd, hmeet⟩
      have hlonger : g.HasWalk (g.stats.depth + 1) := by
        refine ⟨d.source, goal, d :: e :: rest, .go hd ?_, congrArg (· + 1) hlength⟩
        rw [hmeet]
        exact .go he hrest
      have hle := (hg.hasWalk_iff_le_depth hacyclic _).mp hlonger
      omega
    have hroot : e.source ∈ g.project.roots := by
      rw [hg.roots_project]
      simpa [hentry, (hg.endpoints e he).1] using ⟨e, he, rfl⟩
    exact List.ne_nil_of_mem hroot

end WellFormed

/-- What the figures of a graph say. -/
structure Figures (g : Graph) : Prop where
  projection : g.project.ids = g.ids ∧ g.ids.Nodup ∧
    g.project.arcs.map (fun arc => (g.project.ids[arc.1]?, g.project.ids[arc.2]?)) =
      g.edges.map fun e => (some e.source, some e.target)
  totalNodes : g.stats.totalNodes = g.ids.length
  totalEdges : g.stats.totalEdges = g.edges.length
  roots : g.stats.roots = g.ids.filter fun id => ¬ g.HasIncoming id ∧ g.HasOutgoing id
  orphans : g.stats.orphans = g.ids.filter fun id => ¬ g.HasIncoming id ∧ ¬ g.HasOutgoing id
  isDag : g.stats.isDag = true ↔ ¬ ∃ id walk, g.Walk id id walk ∧ 1 ≤ walk.length
  depth : g.stats.isDag = true →
    IsGreatest {n | ∃ path, g.IsPath path ∧ path.length = n} g.stats.depth
  depth_of_cycle : g.stats.isDag = false → g.stats.depth = 0
  rooted : g.stats.isDag = true → g.edges ≠ [] →
    g.stats.roots ≠ [] ∧ 1 ≤ g.stats.depth ∧ g.stats.depth < g.stats.totalNodes

/-- Whatever calls have built a graph, its figures are exact. -/
theorem figures_ofCalls (calls : List Call) : Figures (ofCalls calls) := by
  have hg := wellFormed_ofCalls calls
  exact {
    projection := ⟨ids_project _, hg.nodup, hg.arcs_map_getElem?⟩
    totalNodes := (List.length_map _).symm
    totalEdges := rfl
    roots := hg.roots_project
    orphans := hg.orphans_project
    isDag := hg.isDag_stats
    depth := fun hdag => hg.isGreatest_depth (hg.isDag_stats.mp hdag)
    depth_of_cycle := depth_eq_zero
    rooted := fun hdag hedges => by
      have hacyclic := hg.isDag_stats.mp hdag
      have hlt := hg.depth_lt hacyclic hedges
      rw [ids, List.length_map] at hlt
      exact ⟨hg.roots_ne_nil hacyclic hedges, hg.depth_pos hacyclic hedges, hlt⟩ }

end DepView.Graph
