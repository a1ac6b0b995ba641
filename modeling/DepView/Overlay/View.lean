import DepView.Graph.Parser
import DepView.Layout.Basic
import DepView.Overlay.Search

/-!
The overlay that shows the syntax tree of a node. Activating a node gives out a token and starts
a load; the answer to the load carries the token back and counts only while that load is still
awaited. So a slow answer for an earlier node never replaces the overlay of a later one. Here the
overlay is told by its content; how it keeps that, part by part, is in the panel.
-/

namespace DepView.Overlay

/-- What the overlay shows. -/
inductive Content where
  | idle
  | loading (title : Option Text)
  | displaying (title : Option Text) (text : Text) (source : Option Text) (layout : Layout)
  | failed (title : Option Text) (error : Option Text)

/-- Who draws a displayed tree: the page, from elements handed to it, or somebody else. -/
inductive Renderer where
  | page
  | other
deriving DecidableEq, Repr

structure View where
  settings : HierarchySettings
  renderer : Renderer
  generation : Nat
  content : Content

/-- Where a click went, seen from the overlay. -/
inductive Region where
  | backdrop
  | content
  | close
deriving DecidableEq, Repr

def Region.name : Region → String
  | backdrop => "backdrop"
  | content => "content"
  | close => "close"

namespace View

def initial (settings : HierarchySettings) (renderer : Renderer) : View :=
  ⟨settings, renderer, 0, .idle⟩

/-- A token is current while the load that it was given out for is awaited. -/
def isCurrent (v : View) (token : Int) : Bool :=
  match v.content with
  | .loading _ => token == v.generation
  | _ => false

/-- Starts a load. The token is the new generation. -/
def activate (v : View) (node : Option Text) : View :=
  { v with generation := v.generation + 1, content := .loading node }

def title (v : View) : Option Text :=
  match v.content with
  | .idle => none
  | .loading title => title
  | .displaying title _ _ _ => title
  | .failed title _ => title

/-- The layout of the tree in a text. -/
def layoutOf (v : View) (text : Text) : Layout :=
  .hierarchical v.settings (Graph.ofText text)

/-- Displays the answer to a load; a stale one changes nothing. -/
def resolve (v : View) (token : Int) (text : Text) (source : Option Text) : View :=
  if v.isCurrent token then
    { v with content := .displaying v.title text source (v.layoutOf text) }
  else v

/-- Shows why a load failed; a stale reason changes nothing. -/
def fail (v : View) (token : Int) (reason : Option Text) : View :=
  if v.isCurrent token then { v with content := .failed v.title reason } else v

/-- Closes the overlay. A load that is still awaited loses its token. -/
def dismiss (v : View) : View :=
  match v.content with
  | .idle => v
  | .loading _ => { v with generation := v.generation + 1, content := .idle }
  | _ => { v with content := .idle }

/-- A click on the content keeps the overlay open. -/
def click (v : View) : Region → View
  | .content => v
  | _ => v.dismiss

end View

/-- What can be done to the overlay. -/
inductive Operation where
  | activate (node : Option Text)
  | resolve (token : Int) (text : Text) (source : Option Text)
  | fail (token : Int) (reason : Option Text)
  | dismiss
  | click (region : Region)
deriving DecidableEq, Repr

/-- What a renderer is told. -/
inductive Drawing where
  | clear
  | render (mode : LayoutMode) (nodes edges : Nat)
  | fit
deriving DecidableEq, Repr

namespace View

def apply (v : View) : Operation → View
  | .activate node => v.activate node
  | .resolve token text source => v.resolve token text source
  | .fail token reason => v.fail token reason
  | .dismiss => v.dismiss
  | .click region => v.click region

def dismissDrawings (v : View) : List Drawing :=
  match v.content with
  | .idle => []
  | _ => [.clear]

/-- What the renderer is told in an operation. -/
def drawings (v : View) : Operation → List Drawing
  | .activate _ => [.clear]
  | .resolve token text _ =>
    if v.isCurrent token then
      let layout := v.layoutOf text
      [.render layout.mode layout.graph.nodeCount layout.graph.edgeCount, .fit]
    else []
  | .fail _ _ => []
  | .dismiss => v.dismissDrawings
  | .click .content => []
  | .click _ => v.dismissDrawings

end View

/-- What the caller of an operation is told. -/
inductive Reply where
  | token (token : Nat)
  | counted (counted : Bool)
  | nothing
deriving DecidableEq, Repr

namespace View

/-- An activation tells its token, and an answer to a load whether it counted. -/
def reply (v : View) : Operation → Reply
  | .activate node => .token (v.activate node).generation
  | .resolve token _ _ => .counted (v.isCurrent token)
  | .fail token _ => .counted (v.isCurrent token)
  | .dismiss => .nothing
  | .click _ => .nothing

end View

inductive State where
  | idle
  | loading
  | displaying
  | failed
deriving DecidableEq, Repr

def State.name : State → String
  | idle => "idle"
  | loading => "loading"
  | displaying => "displaying"
  | failed => "failed"

/-- The overlay as it is told to the page. The generation is that of the load that asked. -/
structure Snapshot where
  state : State
  generation : Int
  title : Option Text
  error : Option Text
  text : Option Text
  source : Option Text
  elements : List Element
  options : Option Json
  fit : Bool
  nodeCount : Nat
  edgeCount : Nat
  superseded : Bool

namespace Snapshot

def blank (generation : Int) : Snapshot :=
  { state := .idle, generation, title := none, error := none, text := none, source := none
    elements := [], options := none, fit := false, nodeCount := 0, edgeCount := 0
    superseded := false }

/-- A displayed tree with all that the page needs to draw it. -/
def displaying (generation : Int) (title : Option Text) (text : Text) (source : Option Text)
    (layout : Layout) : Snapshot :=
  { blank generation with
    state := .displaying, title, text := some text, source
    elements := layout.elements, options := some layout.options, fit := true
    nodeCount := layout.graph.nodeCount, edgeCount := layout.graph.edgeCount }

def failed (generation : Int) (title error : Option Text) : Snapshot :=
  { blank generation with state := .failed, title, error }

/-- The snapshot without what is needed for drawing. -/
def withoutDrawing (s : Snapshot) : Snapshot :=
  { s with elements := [], options := none, fit := false }

/-- The answer to a load that has been overtaken: its own outcome, marked as superseded. -/
def ofOvertaken (layoutOf : Text → Layout) (token : Int) : Outcome → Snapshot
  | .found node location text =>
    { displaying token (some node) text (some location) (layoutOf text) with superseded := true }
  | .missing node attempted =>
    { failed token (some node) (some (missingMessage node attempted)) with superseded := true }

def toJson (s : Snapshot) : Json :=
  .record [("state", .ofString s.state.name), ("generation", .int s.generation),
    ("title", .ofText? s.title), ("error", .ofText? s.error), ("raw_text", .ofText? s.text),
    ("source", .ofText? s.source), ("elements", .arr (s.elements.map Element.toJson)),
    ("layout", s.options.getD .null), ("fit", .bool s.fit), ("node_count", .ofNat s.nodeCount),
    ("edge_count", .ofNat s.edgeCount), ("superseded", .bool s.superseded)]

end Snapshot

namespace View

/-- The overlay as it is told to a load with a generation. -/
def snapshotFor (v : View) (generation : Int) : Snapshot :=
  match v.content with
  | .idle => .blank generation
  | .loading title => { Snapshot.blank generation with state := .loading, title }
  | .failed title error => .failed generation title error
  | .displaying title text source layout =>
    let full := Snapshot.displaying generation title text source layout
    match v.renderer with
    | .page => full
    | .other => full.withoutDrawing

def snapshot (v : View) : Snapshot :=
  v.snapshotFor v.generation

/-- The operation that brings the outcome of a search to the overlay. -/
def answerOf (token : Int) : Outcome → Operation
  | .found _ location text => .resolve token text (some location)
  | .missing node attempted => .fail token (some (missingMessage node attempted))

def supersededSnapshot (v : View) (token : Int) (outcome : Outcome) : Snapshot :=
  .ofOvertaken v.layoutOf token outcome

/-- Ends a load with its outcome. The answer always describes the node that was asked for. -/
def finish (v : View) (token : Int) (outcome : Outcome) : View × Snapshot :=
  if v.isCurrent token then
    let v := v.apply (answerOf token outcome)
    (v, v.snapshotFor token)
  else (v, v.supersededSnapshot token outcome)

/-- Loads a node in one go. Where the search fails, the overlay goes on waiting for the load. -/
def tryLoad (v : View) (gens : List Generator) (fetch : Text → Except Failure (Option Text))
    (node : Text) : View × Except Failure Snapshot :=
  let v := v.activate (some node)
  match tryResolve gens fetch node with
  | .error failure => (v, .error failure)
  | .ok (_, outcome) =>
    let (v, shot) := v.finish v.generation outcome
    (v, .ok shot)

end View

end DepView.Overlay
