import DepView.Failure
import DepView.Overlay.Location
import DepView.Text.Surrogate

/-!
The search for the artifact of a node. The locations are tried one after the other, and the first
that has a text ends the search. A search can stop at a location and go on with its answer later.
-/

namespace DepView.Overlay

inductive Outcome where
  | found (node location text : Text)
  | missing (node : Text) (attempted : List Text)
deriving DecidableEq, Repr

/-- What is told about a node without artifact. -/
def missingMessage (node : Text) (attempted : List Text) : Text :=
  "No DOT file found for \"".toList ++ node ++ "\". Tried: ".toList ++
    Text.join [',', ' '] attempted ++ ['.']

/-- A search on its way: what was tried, and what is left to try. -/
structure Search where
  node : Text
  tried : List Text
  left : List Text
deriving DecidableEq, Repr

namespace Search

def start (gens : List Generator) (node : Text) : Search :=
  ⟨node, [], locationsBy gens node⟩

/-- The location whose answer the search waits for. -/
def awaited? (s : Search) : Option Text :=
  s.left.head?

/-- Goes on with the text at the awaited location, if there is one. -/
def answer (s : Search) (text : Option Text) : Search ⊕ Outcome :=
  match s.left, text with
  | [], _ => .inr (.missing s.node s.tried)
  | location :: _, some text => .inr (.found s.node location text)
  | [location], none => .inr (.missing s.node (s.tried ++ [location]))
  | location :: rest, none => .inl { s with tried := s.tried ++ [location], left := rest }

/-- Runs through the locations that are left. The result tells all that were tried, too. -/
def runFrom (fetch : Text → Option Text) (node : Text) (tried : List Text) :
    List Text → List Text × Outcome
  | [] => (tried, .missing node tried)
  | location :: rest =>
    match fetch location with
    | some text => (tried ++ [location], .found node location text)
    | none => runFrom fetch node (tried ++ [location]) rest

/-- Runs through the locations that are left until asking for one fails. -/
def tryFrom (fetch : Text → Except Failure (Option Text)) (node : Text) (tried : List Text) :
    List Text → Except Failure (List Text × Outcome)
  | [] => .ok (tried, .missing node tried)
  | location :: rest => do
    match ← fetch location with
    | some text => return (tried ++ [location], .found node location text)
    | none => tryFrom fetch node (tried ++ [location]) rest

/-- Goes through generators and asks for their locations, each at most once, until one has a text.
A location is made when its turn comes. The result tells all that were tried, too. -/
def seek {m : Type → Type} [Monad m] (fetch : Text → m (Option Text)) (node : Text)
    (seen tried : List Text) : List Generator → m (List Text × Outcome)
  | [] => return (tried, .missing node tried)
  | generate :: rest =>
    let location := generate node
    if seen.contains location then seek fetch node seen tried rest
    else do
      match ← fetch location with
      | some text => return (tried ++ [location], .found node location text)
      | none => seek fetch node (location :: seen) (tried ++ [location]) rest

/-- Asking for the locations as they are made comes to the same as making all of them first. -/
theorem seek_eq_tryFrom (fetch : Text → Except Failure (Option Text)) (node : Text)
    (seen tried : List Text) (gens : List Generator) :
    seek fetch node seen tried gens =
      tryFrom fetch node tried (firsts seen (gens.map fun generate => generate node)) := by
  induction gens generalizing seen tried with
  | nil => rfl
  | cons generate rest ih =>
    rw [seek, List.map_cons, firsts]
    split
    · exact ih seen tried
    · rw [tryFrom]
      cases fetch (generate node) with
      | error failure => rfl
      | ok found =>
        cases found with
        | some text => rfl
        | none => exact ih _ _

theorem seek_eq_runFrom (fetch : Text → Option Text) (node : Text) (seen tried : List Text)
    (gens : List Generator) :
    Id.run (seek (fun location => pure (fetch location)) node seen tried gens) =
      runFrom fetch node tried (firsts seen (gens.map fun generate => generate node)) := by
  induction gens generalizing seen tried with
  | nil => rfl
  | cons generate rest ih =>
    rw [seek, List.map_cons, firsts]
    split
    · exact ih seen tried
    · rw [runFrom, Id.run_bind, Id.run_pure]
      cases fetch (generate node) with
      | some text => rfl
      | none => exact ih _ _

end Search

/-- Searches for the artifact of a node where `fetch` tells what a location holds. The first part
of the result lists the locations in the order in which they were asked for. -/
def resolve (gens : List Generator) (fetch : Text → Option Text) (node : Text) :
    List Text × Outcome :=
  Id.run (Search.seek (fun location => pure (fetch location)) node [] [] gens)

/-- Whether some generators can write an identifier into their locations. -/
def canLocate (gens : List Generator) (node : Text) : Bool :=
  gens.isEmpty || !Text.holdsSurrogate node

/-- Searches like `resolve` where asking for a location can fail, and so can writing it. -/
def tryResolve (gens : List Generator) (fetch : Text → Except Failure (Option Text)) (node : Text) :
    Except Failure (List Text × Outcome) :=
  if canLocate gens node then Search.seek fetch node [] [] gens else .error .unencodable

theorem resolve_eq_runFrom (gens : List Generator) (fetch : Text → Option Text) (node : Text) :
    resolve gens fetch node = Search.runFrom fetch node [] (locationsBy gens node) :=
  Search.seek_eq_runFrom fetch node [] [] gens

theorem tryResolve_eq_tryFrom {gens : List Generator} {node : Text}
    (h : canLocate gens node = true) (fetch : Text → Except Failure (Option Text)) :
    tryResolve gens fetch node = Search.tryFrom fetch node [] (locationsBy gens node) := by
  rw [tryResolve, if_pos h]
  exact Search.seek_eq_tryFrom fetch node [] [] gens

end DepView.Overlay
