import DepView.Proofs.WellFormedGraphs
import Mathlib.Data.List.Perm.Subperm

/-!
Walks along the edges of a graph. A graph without closed walks has no walk that comes by a node
twice, and so no walk with as many edges as there are nodes. A closed walk, on the other hand, can
be gone around as often as one likes.
-/

namespace DepView.Graph

/-- The edges of a walk from one node to another. A walk may stay where it is. -/
inductive Walk (g : Graph) : Text → Text → List Edge → Prop
  | stay (id : Text) : Walk g id id []
  | go {e : Edge} {goal : Text} {rest : List Edge} (he : e ∈ g.edges)
      (hrest : Walk g e.target goal rest) : Walk g e.source goal (e :: rest)

/-- No walk along edges ends where it began. -/
def Acyclic (g : Graph) : Prop :=
  ¬ ∃ id walk, g.Walk id id walk ∧ 1 ≤ walk.length

/-- The nodes that a walk comes by. -/
def stops (start : Text) (walk : List Edge) : List Text :=
  start :: walk.map (·.target)

/-- A walk that comes by no node twice. -/
def IsPath (g : Graph) (walk : List Edge) : Prop :=
  ∃ start goal, g.Walk start goal walk ∧ (stops start walk).Nodup

namespace Walk

variable {g : Graph} {start middle goal : Text} {walk more : List Edge}

theorem single {e : Edge} (he : e ∈ g.edges) : g.Walk e.source e.target [e] :=
  .go he (.stay e.target)

theorem nil_iff : g.Walk start goal [] ↔ start = goal := by
  constructor
  · intro h
    cases h
    rfl
  · rintro rfl
    exact .stay start

theorem cons_iff {e : Edge} :
    g.Walk start goal (e :: walk) ↔ e ∈ g.edges ∧ e.source = start ∧ g.Walk e.target goal walk := by
  constructor
  · intro h
    cases h with
    | go he hrest => exact ⟨he, rfl, hrest⟩
  · rintro ⟨he, rfl, hrest⟩
    exact .go he hrest

theorem append_iff :
    g.Walk start goal (walk ++ more) ↔
      ∃ middle, g.Walk start middle walk ∧ g.Walk middle goal more := by
  induction walk generalizing start with
  | nil =>
    constructor
    · intro h
      exact ⟨start, .stay start, h⟩
    · rintro ⟨middle, hstay, hmore⟩
      rwa [nil_iff.mp hstay]
  | cons e walk ih =>
    rw [List.cons_append, cons_iff, ih]
    constructor
    · rintro ⟨he, hsource, middle, hwalk, hmore⟩
      exact ⟨middle, cons_iff.mpr ⟨he, hsource, hwalk⟩, hmore⟩
    · rintro ⟨middle, hwalk, hmore⟩
      obtain ⟨he, hsource, hwalk⟩ := cons_iff.mp hwalk
      exact ⟨he, hsource, middle, hwalk, hmore⟩

theorem append (h : g.Walk start middle walk) (hmore : g.Walk middle goal more) :
    g.Walk start goal (walk ++ more) :=
  append_iff.mpr ⟨middle, h, hmore⟩

theorem concat_iff {e : Edge} :
    g.Walk start goal (walk ++ [e]) ↔
      g.Walk start e.source walk ∧ e ∈ g.edges ∧ e.target = goal := by
  rw [append_iff]
  constructor
  · rintro ⟨middle, hwalk, hlast⟩
    obtain ⟨he, rfl, hstay⟩ := cons_iff.mp hlast
    exact ⟨hwalk, he, nil_iff.mp hstay⟩
  · rintro ⟨hwalk, he, rfl⟩
    exact ⟨e.source, hwalk, single he⟩

/-- The first edges of a walk are a walk. -/
theorem exists_take (h : g.Walk start goal walk) (n : Nat) :
    ∃ middle, g.Walk start middle (walk.take n) := by
  rw [← List.take_append_drop n walk, append_iff] at h
  obtain ⟨middle, hfirst, _⟩ := h
  exact ⟨middle, hfirst⟩

/-- A walk leads to each node that it comes by. -/
theorem exists_to_stop (h : g.Walk start goal walk) {id : Text} (hid : id ∈ stops start walk) :
    ∃ some_walk, g.Walk start id some_walk := by
  induction h with
  | stay start =>
    obtain rfl := List.mem_singleton.mp hid
    exact ⟨[], .stay id⟩
  | @go e goal rest he hrest ih =>
    rcases List.mem_cons.mp hid with rfl | hlater
    · exact ⟨[], .stay e.source⟩
    · obtain ⟨found, hfound⟩ := ih hlater
      exact ⟨e :: found, .go he hfound⟩

/-- Without closed walks, no node is come by twice. -/
theorem nodup_stops (hacyclic : g.Acyclic) (h : g.Walk start goal walk) :
    (stops start walk).Nodup := by
  induction h with
  | stay id => simp [stops]
  | @go e goal rest he hrest ih =>
    refine List.nodup_cons.mpr ⟨?_, ih⟩
    intro hreturn
    obtain ⟨back, hback⟩ := hrest.exists_to_stop hreturn
    exact hacyclic ⟨e.source, e :: back, .go he hback, by simp⟩

theorem stops_subset (hg : g.WellFormed) (h : g.Walk start goal walk) (hstart : start ∈ g.ids) :
    stops start walk ⊆ g.ids := by
  induction h with
  | stay id => simpa [stops] using hstart
  | @go e goal rest he hrest ih =>
    exact List.cons_subset.mpr ⟨hstart, ih (hg.endpoints e he).2⟩

/-- Without closed walks, a walk has fewer edges than there are nodes. -/
theorem length_lt (hg : g.WellFormed) (hacyclic : g.Acyclic) (h : g.Walk start goal walk)
    (hwalk : walk ≠ []) : walk.length < g.ids.length := by
  have hstart : start ∈ g.ids := by
    cases h with
    | stay => exact absurd rfl hwalk
    | @go e goal rest he hrest => exact (hg.endpoints e he).1
  have hlength :=
    (List.subperm_of_subset (h.nodup_stops hacyclic) (h.stops_subset hg hstart)).length_le
  simp only [stops, List.length_cons, List.length_map] at hlength
  omega

/-- Around a closed walk there are walks of any length. -/
theorem exists_longer {around : List Edge} (h : g.Walk start start around)
    (haround : 1 ≤ around.length) (n : Nat) :
    ∃ walk, g.Walk start start walk ∧ n ≤ walk.length := by
  induction n with
  | zero => exact ⟨[], .stay start, Nat.zero_le _⟩
  | succ n ih =>
    obtain ⟨walk, hwalk, hlength⟩ := ih
    refine ⟨walk ++ around, hwalk.append h, ?_⟩
    rw [List.length_append]
    omega

/-- A rank that grows along every edge grows at least by the length of a walk. -/
theorem rank_add_length_le {rank : Text → Nat}
    (hrank : ∀ e ∈ g.edges, rank e.source < rank e.target) (h : g.Walk start goal walk) :
    rank start + walk.length ≤ rank goal := by
  induction h with
  | stay => exact Nat.le_refl _
  | @go e goal rest he hrest ih =>
    have hstep := hrank e he
    rw [List.length_cons]
    omega

end Walk

/-- Whether there is a walk of some length. -/
def HasWalk (g : Graph) (n : Nat) : Prop :=
  ∃ start goal walk, g.Walk start goal walk ∧ walk.length = n

theorem HasWalk.mono {g : Graph} {m n : Nat} (h : g.HasWalk n) (hle : m ≤ n) : g.HasWalk m := by
  obtain ⟨start, goal, walk, hwalk, hlength⟩ := h
  obtain ⟨middle, hfirst⟩ := hwalk.exists_take m
  refine ⟨start, middle, walk.take m, hfirst, ?_⟩
  rw [List.length_take]
  omega

theorem hasWalk_zero (g : Graph) : g.HasWalk 0 :=
  ⟨[], [], [], .stay [], rfl⟩

/-- There is a closed walk if and only if there is a walk with more edges than there are nodes. -/
theorem acyclic_iff {g : Graph} (hg : g.WellFormed) :
    g.Acyclic ↔ ¬ g.HasWalk (g.ids.length + 1) := by
  constructor
  · rintro hacyclic ⟨start, goal, walk, hwalk, hlength⟩
    have hne : walk ≠ [] := by
      rintro rfl
      simp at hlength
    have hlt := hwalk.length_lt hg hacyclic hne
    omega
  · rintro hshort ⟨id, around, haround, hlength⟩
    obtain ⟨walk, hwalk, hlong⟩ := haround.exists_longer hlength (g.ids.length + 1)
    exact hshort (HasWalk.mono ⟨id, id, walk, hwalk, rfl⟩ hlong)

/-- A rank that grows along every edge leaves no room for a closed walk. -/
theorem acyclic_of_rank {g : Graph} {rank : Text → Nat}
    (hrank : ∀ e ∈ g.edges, rank e.source < rank e.target) : g.Acyclic := by
  rintro ⟨id, walk, hwalk, hlength⟩
  have hle := hwalk.rank_add_length_le hrank
  omega

end DepView.Graph
