import DepView.Overlay.View

/-!
A view that several loads share. A load activates its node and waits for the texts at its
locations, one after the other; while it waits, other loads may start, go on and end, and the
overlay may be closed. Each load ends with a snapshot of its own.
-/

namespace DepView.Overlay

/-- How far a load has come. A node that cannot be written into a location breaks its load. -/
inductive Progress where
  | waiting (search : Search)
  | done (outcome : Outcome) (shot : Snapshot)
  | broken

structure Load where
  node : Text
  token : Nat
  progress : Progress

def Load.isDone (load : Load) : Bool :=
  match load.progress with
  | .done _ _ => true
  | _ => false

/-- A view and all loads that were started on it, in order. -/
structure SharedView where
  view : View
  loads : List Load

/-- What is done without a wait in between. -/
inductive Turn where
  | load (node : Text) (gens : List Generator)
  | answer (load : Nat) (text : Option Text)
  | dismiss

namespace SharedView

/-- Goes on with the answer that a load waits for. Nothing is done for a load that does not
wait. -/
def answer (s : SharedView) (i : Nat) (text : Option Text) : SharedView :=
  match s.loads[i]? with
  | some ⟨node, token, .waiting search⟩ =>
    match search.answer text with
    | .inl search => { s with loads := s.loads.set i ⟨node, token, .waiting search⟩ }
    | .inr outcome =>
      let (view, shot) := s.view.finish token outcome
      ⟨view, s.loads.set i ⟨node, token, .done outcome shot⟩⟩
  | _ => s

/-- Activates a node for a new load. -/
def activate (s : SharedView) (node : Text) (progress : Progress) : SharedView :=
  let view := s.view.activate (some node)
  ⟨view, s.loads ++ [⟨node, view.generation, progress⟩]⟩

/-- Starts a load. One that has nowhere to look does not wait. -/
def load (s : SharedView) (node : Text) (gens : List Generator) : SharedView :=
  let search := Search.start gens node
  if !canLocate gens node then s.activate node .broken
  else if search.awaited?.isSome then s.activate node (.waiting search)
  else (s.activate node (.waiting search)).answer s.loads.length none

def take (s : SharedView) : Turn → SharedView
  | .load node gens => s.load node gens
  | .answer i text => s.answer i text
  | .dismiss => { s with view := s.view.dismiss }

def run (s : SharedView) (turns : List Turn) : SharedView :=
  turns.foldl take s

end SharedView

end DepView.Overlay
