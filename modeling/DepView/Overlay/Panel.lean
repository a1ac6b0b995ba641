import DepView.Overlay.View

/-!
The overlay as it is kept. Its state, title, error, text, source and layout are set on their own,
and a renderer is told of each change. The page's renderer keeps what it was handed last: the
elements of a layout, its options, and whether they are to be fitted into the view.
-/

namespace DepView.Overlay

structure Canvas where
  elements : List Element
  options : Option Json
  fitted : Bool

/-- What a renderer is told, with the layout that it is handed. -/
inductive Command where
  | clear
  | render (layout : Layout)
  | fit

def Command.drawing : Command → Drawing
  | clear => .clear
  | render layout => .render layout.mode layout.graph.nodeCount layout.graph.edgeCount
  | fit => .fit

namespace Canvas

def blank : Canvas := ⟨[], none, false⟩

/-- A layout that is drawn and fitted into the view. -/
def ofLayout (layout : Layout) : Canvas :=
  ⟨layout.elements, some layout.options, true⟩

/-- A new layout is not fitted before the page is told so. -/
def obey (canvas : Canvas) : Command → Canvas
  | .clear => blank
  | .render layout => ⟨layout.elements, some layout.options, false⟩
  | .fit => { canvas with fitted := true }

end Canvas

/-- A renderer with what it keeps. The page has a canvas; of any other one it is known what it was
told. -/
inductive Painter where
  | page (canvas : Canvas)
  | other (told : List Command)

namespace Painter

def ofRenderer : Renderer → Painter
  | .page => page .blank
  | .other => other []

def obey : Painter → Command → Painter
  | page canvas, command => page (canvas.obey command)
  | other told, command => other (told ++ [command])

/-- What the page is handed of the canvas. Another renderer has none. -/
def canvas : Painter → Canvas
  | page canvas => canvas
  | other _ => .blank

end Painter

structure Panel where
  settings : HierarchySettings
  painter : Painter
  generation : Nat
  state : State
  title : Option Text
  error : Option Text
  text : Option Text
  source : Option Text
  layout : Option Layout

namespace Panel

def tell (p : Panel) (command : Command) : Panel :=
  { p with painter := p.painter.obey command }

/-- Clears all that belongs to a load. The generation stays. -/
def reset (p : Panel) : Panel :=
  { p with state := .idle, title := none, error := none, text := none, source := none
           layout := none }.tell .clear

def initial (settings : HierarchySettings) (renderer : Renderer) : Panel :=
  reset { settings, painter := .ofRenderer renderer, generation := 0, state := .idle
          title := none, error := none, text := none, source := none, layout := none }

def isCurrent (p : Panel) (token : Int) : Bool :=
  token == p.generation && p.state == .loading

/-- Starts a load. The token is the new generation. -/
def activate (p : Panel) (node : Option Text) : Panel × Nat :=
  let p := p.reset
  let p := { p with generation := p.generation + 1 }
  let p := { p with state := .loading, title := node }
  (p, p.generation)

def layoutOf (p : Panel) (text : Text) : Layout :=
  .hierarchical p.settings (Graph.ofText text)

/-- Displays the answer to a load. The result tells whether it counts. -/
def resolve (p : Panel) (token : Int) (text : Text) (source : Option Text) : Panel × Bool :=
  if !p.isCurrent token then (p, false)
  else
    let layout := p.layoutOf text
    let p := { p with layout := some layout, text := some text, source }
    let p := (p.tell (.render layout)).tell .fit
    ({ p with state := .displaying }, true)

/-- Shows why a load failed. The result tells whether it counts. -/
def fail (p : Panel) (token : Int) (reason : Option Text) : Panel × Bool :=
  if !p.isCurrent token then (p, false)
  else ({ p with error := reason, state := .failed }, true)

/-- Closes the overlay. A load that is still awaited loses its token. -/
def dismiss (p : Panel) : Panel :=
  if p.state = .idle then p
  else if p.state = .loading then { p with generation := p.generation + 1 }.reset
  else p.reset

def click (p : Panel) (region : Region) : Panel :=
  if region = .content then p else p.dismiss

/-- Does an operation. The caller is told the token of an activation, and whether an answer
counts. -/
def apply (p : Panel) : Operation → Panel × Reply
  | .activate node => (p.activate node).map id .token
  | .resolve token text source => (p.resolve token text source).map id .counted
  | .fail token reason => (p.fail token reason).map id .counted
  | .dismiss => (p.dismiss, .nothing)
  | .click region => (p.click region, .nothing)

/-- The overlay as it is told to a load with a generation. -/
def snapshotFor (p : Panel) (generation : Int) : Snapshot :=
  { state := p.state, generation, title := p.title, error := p.error, text := p.text
    source := p.source, elements := p.painter.canvas.elements
    options := p.painter.canvas.options, fit := p.painter.canvas.fitted
    nodeCount := (p.layout.map (·.graph.nodeCount)).getD 0
    edgeCount := (p.layout.map (·.graph.edgeCount)).getD 0
    superseded := false }

def snapshot (p : Panel) : Snapshot :=
  p.snapshotFor p.generation

/-- Ends a load with its outcome. The answer always describes the node that was asked for. -/
def finish (p : Panel) (token : Int) (outcome : Outcome) : Panel × Snapshot :=
  match p.apply (View.answerOf token outcome) with
  | (p, .counted true) => (p, p.snapshotFor token)
  | (p, _) => (p, .ofOvertaken p.layoutOf token outcome)

/-- Loads a node where the search can fail. The overlay then goes on waiting for the load. -/
def tryLoad (p : Panel) (gens : List Generator) (fetch : Text → Except Failure (Option Text))
    (node : Text) : Panel × Except Failure Snapshot :=
  let (p, token) := p.activate (some node)
  match tryResolve gens fetch node with
  | .error failure => (p, .error failure)
  | .ok (_, outcome) =>
    let (p, shot) := p.finish token outcome
    (p, .ok shot)

end Panel

end DepView.Overlay
