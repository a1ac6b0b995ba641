import DepView.Overlay.Search
import DepView.Proofs.CandidateLocations

/-!
Which locations a search asks for. The locations are made one by one and a repeated one is passed
over, so it makes no difference whether they are made first or as they are needed. What is asked
for is the part of them that ends with the first text, or all of them if there is none.
-/

namespace DepView.Overlay

/-- What is asked for of some locations if a text is found: the shortest beginning that ends with
a location that has one. -/
structure FirstHit (fetch : Text → Option Text) (locations asked : List Text)
    (location text : Text) : Prop where
  begins : asked <+: locations
  ends : asked.getLast? = some location
  hit : fetch location = some text
  shortest : ∀ other last, other <+: locations → other.getLast? = some last →
    (fetch last).isSome → asked.length ≤ other.length

/-- The ways in which a search among some locations ends: what it has asked for, and its outcome. -/
inductive SearchEnds (fetch : Text → Option Text) (node : Text) (locations : List Text) :
    List Text × Outcome → Prop
  | found {asked : List Text} {location text : Text}
      (h : FirstHit fetch locations asked location text) :
      SearchEnds fetch node locations (asked, .found node location text)
  | missing (h : ∀ location ∈ locations, fetch location = none) :
      SearchEnds fetch node locations (locations, .missing node locations)

variable {fetch : Text → Option Text} {node : Text} {locations : List Text}

/-- A beginning that ends before a location takes its last location from what was tried. -/
theorem firstHit_concat {tried left : List Text} {location text : Text}
    (hmissed : ∀ other ∈ tried, fetch other = none) (hhit : fetch location = some text) :
    FirstHit fetch (tried ++ location :: left) (tried ++ [location]) location text where
  begins := ⟨left, by simp⟩
  ends := List.getLast?_concat
  hit := hhit
  shortest := by
    intro other last hother hlast hsome
    rw [List.length_append, List.length_singleton]
    by_contra hshort
    have htried : other <+: tried :=
      List.prefix_of_prefix_length_le hother (List.prefix_append _ _) (by omega)
    have hmem : last ∈ tried := htried.subset (List.mem_of_getLast? hlast)
    rw [hmissed last hmem] at hsome
    cases hsome

/-- From where nothing was found so far, a run through what is left ends the search. -/
theorem searchEnds_runFrom {tried : List Text} (hmissed : ∀ other ∈ tried, fetch other = none)
    (left : List Text) :
    SearchEnds fetch node (tried ++ left) (Search.runFrom fetch node tried left) := by
  -- A miss goes from what is left to what was tried, so that both together stay the same.
  induction left generalizing tried with
  | nil =>
    rw [List.append_nil]
    exact .missing hmissed
  | cons location rest ih =>
    cases hfetch : fetch location with
    | some text =>
      simp only [Search.runFrom, hfetch]
      exact .found (firstHit_concat hmissed hfetch)
    | none =>
      have hmissed' : ∀ other ∈ tried ++ [location], fetch other = none := by
        simpa [or_imp, forall_and] using ⟨hmissed, hfetch⟩
      simp only [Search.runFrom, hfetch]
      rw [List.append_cons]
      exact ih hmissed'

theorem SearchEnds.begins {asked : List Text} {outcome : Outcome}
    (h : SearchEnds fetch node locations (asked, outcome)) : asked <+: locations := by
  cases h with
  | found hfirst => exact hfirst.begins
  | missing => exact List.prefix_refl locations

/-- Where asking never fails, the search that can fail does what the other does. -/
theorem tryFrom_ok (fetch : Text → Option Text) (node : Text) (tried left : List Text) :
    Search.tryFrom (fun location => .ok (fetch location)) node tried left =
      .ok (Search.runFrom fetch node tried left) := by
  induction left generalizing tried with
  | nil => rfl
  | cons location rest ih =>
    rw [Search.tryFrom, Search.runFrom]
    cases fetch location with
    | some text => rfl
    | none => exact ih _

/-- What a location holds, where it is written down that the location was asked for. -/
def recorded (fetch : Text → Option Text) (location : Text) : StateM (List Text) (Option Text) := do
  modify (· ++ [location])
  return fetch location

/-- What a search tells that it has tried is what it has asked for. -/
theorem run_seek_recorded (fetch : Text → Option Text) (node : Text) (seen tried : List Text)
    (gens : List Generator) :
    let result := Id.run (Search.seek (fun location => pure (fetch location)) node seen tried gens)
    (Search.seek (recorded fetch) node seen tried gens).run tried = (result, result.1) := by
  induction gens generalizing seen tried with
  | nil => rfl
  | cons generate rest ih =>
    simp only [Search.seek]
    split
    · exact ih seen tried
    · rw [Id.run_bind, Id.run_pure]
      have hasked : (recorded fetch (generate node)).run tried =
          (fetch (generate node), tried ++ [generate node]) := rfl
      simp only [StateT.run_bind, hasked]
      cases fetch (generate node) with
      | some text => rfl
      | none => exact ih _ _

/-- A search asks for the locations that its generators give, each once and in order, until one has
a text. If none has, it has asked for all and tells so. -/
theorem searchEnds_resolve (gens : List Generator) (fetch : Text → Option Text) (node : Text) :
    let result := resolve gens fetch node
    SearchEnds fetch node (gens.map fun generate => generate node).eraseDups result ∧
      result.1.Nodup ∧
      (Search.seek (recorded fetch) node [] [] gens).run [] = (result, result.1) ∧
      tryResolve gens (fun location => .ok (fetch location)) node =
        if canLocate gens node then .ok result else .error .unencodable := by
  have hend : SearchEnds fetch node (gens.map fun generate => generate node).eraseDups
      (resolve gens fetch node) := by
    rw [resolve_eq_runFrom, locationsBy_eq]
    exact searchEnds_runFrom (List.forall_mem_nil _) _
  refine ⟨hend, ?_, run_seek_recorded fetch node [] [] gens, ?_⟩
  · have hnodup := Graph.nodup_eraseDups (gens.map fun generate => generate node)
    exact hend.begins.sublist.nodup hnodup
  · by_cases h : canLocate gens node = true
    · rw [if_pos h, tryResolve_eq_tryFrom h, resolve_eq_runFrom, tryFrom_ok]
    · rw [if_neg h, tryResolve, if_neg h]

end DepView.Overlay
