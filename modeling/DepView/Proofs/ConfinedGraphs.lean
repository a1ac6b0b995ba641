import DepView.Proofs.SameTree
import DepView.Server.App
import Mathlib

/-!
What a request for a graph can tell of the files. Its reply depends on the directories, the links
and the names of all files, but on the contents of those in the directory of the server alone, and
a graph that is handed out was read from a file that is really there. The exception are double
dots that are left behind a link which leads back to itself: they are worked out by the names
alone, so a name that is a link again is taken for a file in the directory.
-/

namespace DepView.Server.App

open Store

/-- The path that a name of a graph stands for. -/
def artifactPath (app : App) (name : Text) : Path :=
  app.directory.toPath / Path.ofText (name.dropWhile (· == '/'))

/-- The graph that is asked for. -/
def graphName (app : App) (r : Request) : Text :=
  (r.field? "dot").getD app.defaultDot

/-- The directory of the server holds the same in both stores. -/
def AgreeInside (app : App) (s t : Store) : Prop :=
  ∀ place, s.IsReal place → app.directory <+: place → s.entry? place = t.entry? place

theorem isAbsolute_artifactPath (app : App) (name : Text) :
    (app.artifactPath name).isAbsolute = true := by
  show (Path.append _ _).isAbsolute = true
  unfold Path.append
  split
  · assumption
  · rfl

section

variable {app : App} {s t : Store} {name : Text} {place : Place} {bytes : Bytes}

theorem resolve_eq_ok {p : Path} (h : resolve s p = .ok place) :
    s.reachFrom (s.startOf p) p.parts = place := by
  unfold resolve Store.resolve settle at h
  cases htext : (textFault? p.toText).filter Fault.isOfText with
  | some fault =>
    rw [htext] at h
    cases fault <;> cases h
  | none =>
    rw [htext] at h
    simp only [bind, Except.bind] at h
    split at h
    · rename_i hfind
      split at hfind
      · cases hfind
      · cases hfind
        exact Except.ok.inj h
    · cases h
    · cases h

/-- What is found at a resolved place of the directory is held by that very place. -/
theorem found_inside (hturn : ¬ s.TurnsBack (app.artifactPath name))
    (hplace : resolve s (app.artifactPath name) = .ok place) {entry : Entry}
    (hfind : s.find place.toPath = .ok entry) :
    s.IsHome (app.artifactPath name) place ∧ s.entry? place = some entry := by
  obtain rfl := resolve_eq_ok hplace
  exact isHome_of_find (app.isAbsolute_artifactPath name) hturn hfind

theorem find_eq (hsame : s.SameTree t) (hinside : app.AgreeInside s t)
    (hturn : ¬ s.TurnsBack (app.artifactPath name))
    (hplace : resolve s (app.artifactPath name) = .ok place) (hwithin : app.directory <+: place) :
    s.find place.toPath = t.find place.toPath := by
  cases hs : s.find place.toPath with
  | error fault => exact (hsame.find_error hs).symm
  | ok entry =>
    have hreal := (found_inside hturn hplace hs).1.real
    rw [← hs]
    exact hsame.find_eq_of_entry hreal (hinside place hreal hwithin)

end

end DepView.Server.App
