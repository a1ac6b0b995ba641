import DepView.Overlay.Panel
import DepView.Proofs.OverlayTokens

/-!
The panel keeps the parts of the overlay on its own, and the content says which of them go
together. Every content has its panel, and the two do the same: an operation on the panel of a
view gives the panel of the view after it, with the same reply. So nothing of one load is left in
the panel when another one is shown.
-/

namespace DepView.Overlay

/-- The canvas that goes with a content. -/
def Content.canvas : Content → Canvas
  | .displaying _ _ _ layout => .ofLayout layout
  | _ => .blank

namespace View

def dismissCommands (v : View) : List Command :=
  match v.content with
  | .idle => []
  | _ => [.clear]

/-- What the renderer is told in an operation, and handed with it. -/
def commands (v : View) : Operation → List Command
  | .activate _ => [.clear]
  | .resolve token text _ =>
    if v.isCurrent token then [.render (v.layoutOf text), .fit] else []
  | .fail _ _ => []
  | .dismiss => v.dismissCommands
  | .click .content => []
  | .click _ => v.dismissCommands

/-- What the renderer is told in a run. -/
def commandsOf (v : View) : List Operation → List Command
  | [] => []
  | op :: operations => v.commands op ++ (v.apply op).commandsOf operations

/-- The renderer of a view. One that is not the page has been told some commands. -/
def painter (v : View) (told : List Command) : Painter :=
  match v.renderer with
  | .page => .page v.content.canvas
  | .other => .other told

/-- The panel of a view, part by part. -/
def panel (v : View) (told : List Command) : Panel :=
  let closed : Panel :=
    { settings := v.settings, painter := v.painter told, generation := v.generation
      state := .idle, title := none, error := none, text := none, source := none, layout := none }
  match v.content with
  | .idle => closed
  | .loading title => { closed with state := .loading, title }
  | .failed title error => { closed with state := .failed, title, error }
  | .displaying title text source layout =>
    { closed with
      state := .displaying, title, text := some text, source, layout := some layout }

end View

theorem map_drawing_dismissCommands (v : View) :
    v.dismissCommands.map Command.drawing = v.dismissDrawings := by
  unfold View.dismissCommands View.dismissDrawings
  cases v.content <;> rfl

/-- The commands say what the drawings say. -/
theorem map_drawing_commands (v : View) (op : Operation) :
    (v.commands op).map Command.drawing = v.drawings op := by
  cases op with
  | activate node => rfl
  | resolve token text source =>
    by_cases h : v.isCurrent token = true <;>
      simp [View.commands, View.drawings, h, Command.drawing]
  | fail token reason => rfl
  | dismiss => exact map_drawing_dismissCommands v
  | click region =>
    cases region with
    | content => rfl
    | _ => exact map_drawing_dismissCommands v

theorem isLoading_of_current {v : View} {token : Int} (h : v.isCurrent token = true) :
    v.content = .loading v.title ∧ token = v.generation := by
  unfold View.isCurrent at h
  unfold View.title
  cases hcontent : v.content with
  | loading title =>
    rw [hcontent] at h
    exact ⟨rfl, eq_of_beq h⟩
  | _ =>
    rw [hcontent] at h
    cases h

/-! One operation. -/

theorem initial_panel (settings : HierarchySettings) (renderer : Renderer) :
    Panel.initial settings renderer = (View.initial settings renderer).panel [.clear] := by
  cases renderer <;> rfl

theorem isCurrent_panel (v : View) (told : List Command) (token : Int) :
    (v.panel told).isCurrent token = v.isCurrent token := by
  obtain ⟨settings, renderer, generation, content⟩ := v
  cases content with
  | loading title => exact Bool.and_true _
  | _ => exact Bool.and_false _

/-- All parts of the panel are cleared, whatever was shown. -/
theorem reset_panel (v : View) (told : List Command) :
    (v.panel told).reset = View.panel { v with content := .idle } (told ++ [.clear]) := by
  obtain ⟨settings, renderer, generation, content⟩ := v
  cases renderer <;> cases content <;> rfl

theorem activate_panel (v : View) (told : List Command) (node : Option Text) :
    (v.panel told).activate node =
      ((v.activate node).panel (told ++ [.clear]), (v.activate node).generation) := by
  unfold Panel.activate
  rw [reset_panel]
  obtain ⟨settings, renderer, generation, content⟩ := v
  cases renderer <;> rfl

theorem resolve_panel (v : View) (told : List Command) (token : Int) (text : Text)
    (source : Option Text) :
    (v.panel told).resolve token text source =
      ((v.resolve token text source).panel (told ++ v.commands (.resolve token text source)),
        v.isCurrent token) := by
  unfold Panel.resolve
  rw [isCurrent_panel]
  cases h : v.isCurrent token with
  | false => simp [View.resolve, View.commands, h]
  | true =>
    obtain ⟨title, hcontent⟩ : ∃ title, v.content = .loading title :=
      ⟨_, (isLoading_of_current h).1⟩
    rw [resolve_of_current h, View.commands, if_pos h]
    obtain ⟨settings, renderer, generation, content⟩ := v
    cases hcontent
    cases renderer with
    | page => rfl
    | other =>
      rw [List.append_cons]
      rfl

theorem fail_panel (v : View) (told : List Command) (token : Int) (reason : Option Text) :
    (v.panel told).fail token reason =
      ((v.fail token reason).panel told, v.isCurrent token) := by
  unfold Panel.fail
  rw [isCurrent_panel]
  cases h : v.isCurrent token with
  | false => simp [View.fail, h]
  | true =>
    obtain ⟨title, hcontent⟩ : ∃ title, v.content = .loading title :=
      ⟨_, (isLoading_of_current h).1⟩
    rw [fail_of_current h]
    obtain ⟨settings, renderer, generation, content⟩ := v
    cases hcontent
    cases renderer <;> rfl

theorem dismiss_panel (v : View) (told : List Command) :
    (v.panel told).dismiss = v.dismiss.panel (told ++ v.dismissCommands) := by
  obtain ⟨settings, renderer, generation, content⟩ := v
  cases content with
  | idle => simp [View.dismiss, View.dismissCommands, Panel.dismiss, View.panel]
  | _ => cases renderer <;> rfl

/-- An operation on a panel does what it does on the view, and the renderer is told the commands
of the view. -/
theorem apply_panel (v : View) (told : List Command) (op : Operation) :
    (v.panel told).apply op = ((v.apply op).panel (told ++ v.commands op), v.reply op) := by
  cases op with
  | activate node =>
    rw [Panel.apply, activate_panel]
    rfl
  | resolve token text source =>
    rw [Panel.apply, resolve_panel]
    rfl
  | fail token reason =>
    rw [Panel.apply, fail_panel, View.commands, List.append_nil]
    rfl
  | dismiss =>
    rw [Panel.apply, dismiss_panel]
    rfl
  | click region =>
    cases region with
    | content =>
      rw [View.commands, List.append_nil]
      rfl
    | _ => exact congrArg (·, Reply.nothing) (dismiss_panel v told)

theorem snapshotFor_panel (v : View) (told : List Command) (generation : Int) :
    (v.panel told).snapshotFor generation = v.snapshotFor generation := by
  obtain ⟨settings, renderer, own, content⟩ := v
  cases renderer <;> cases content <;> rfl

/-! Loads. -/

theorem layoutOf_panel (v : View) (told : List Command) :
    (v.panel told).layoutOf = v.layoutOf := by
  obtain ⟨settings, renderer, generation, content⟩ := v
  cases content <;> rfl

theorem finish_panel (v : View) (told : List Command) (token : Int) (outcome : Outcome) :
    (v.panel told).finish token outcome =
      ((v.finish token outcome).1.panel (told ++ v.commands (View.answerOf token outcome)),
        (v.finish token outcome).2) := by
  have hreply : v.reply (View.answerOf token outcome) = .counted (v.isCurrent token) := by
    cases outcome <;> rfl
  unfold Panel.finish View.finish
  rw [apply_panel, hreply]
  cases h : v.isCurrent token with
  | true => exact congrArg (_, ·) (snapshotFor_panel _ _ token)
  | false =>
    have hsame := (apply_of_not_counted (hreply.trans (congrArg _ h))).1
    rw [hsame]
    exact congrArg (_, Snapshot.ofOvertaken · token outcome) (layoutOf_panel v _)

/-- A load into the panel is a load into the view. -/
theorem tryLoad_panel (v : View) (told : List Command) (gens : List Generator)
    (fetch : Text → Except Failure (Option Text)) (node : Text) :
    ∃ more, (v.panel told).tryLoad gens fetch node =
      ((v.tryLoad gens fetch node).1.panel (told ++ more), (v.tryLoad gens fetch node).2) := by
  unfold Panel.tryLoad View.tryLoad
  rw [activate_panel]
  cases tryResolve gens fetch node with
  | error failure => exact ⟨[.clear], rfl⟩
  | ok found =>
    refine ⟨[.clear] ++ (v.activate (some node)).commands
      (View.answerOf (v.activate (some node)).generation found.2), ?_⟩
    simp only [finish_panel, List.append_assoc]

/-! Whole runs. -/

namespace Panel

def run (p : Panel) (operations : List Operation) : Panel :=
  operations.foldl (fun p op => (p.apply op).1) p

/-- All that is said in a run. -/
def exchanges (p : Panel) : List Operation → List Exchange
  | [] => []
  | op :: operations => ⟨op, (p.apply op).2⟩ :: (p.apply op).1.exchanges operations

end Panel

theorem run_panel (v : View) (told : List Command) (operations : List Operation) :
    (v.panel told).run operations =
      (v.run operations).panel (told ++ v.commandsOf operations) := by
  induction operations generalizing v told with
  | nil => exact congrArg v.panel (List.append_nil told).symm
  | cons op operations ih =>
    have hrest := ih (v.apply op) (told ++ v.commands op)
    rw [List.append_assoc] at hrest
    rw [← View.commandsOf] at hrest
    rw [Panel.run, List.foldl_cons, apply_panel]
    exact hrest

/-- In a run on the panel the same is said as on the view. -/
theorem exchanges_panel (v : View) (told : List Command) (operations : List Operation) :
    (v.panel told).exchanges operations = v.exchanges operations := by
  induction operations generalizing v told with
  | nil => rfl
  | cons op operations ih =>
    rw [Panel.exchanges, View.exchanges, apply_panel, ih]

/-! What is drawn. -/

theorem length_nodeElements (nodes : List Node) (points : List Point) :
    (Layout.nodeElements nodes points).length = nodes.length := by
  induction nodes generalizing points with
  | nil => rfl
  | cons node nodes ih =>
    cases points <;> simp [Layout.nodeElements, ih]

theorem length_edgeElements (number : Nat) (edges : List Edge) :
    (Layout.edgeElements number edges).length = edges.length := by
  induction edges generalizing number with
  | nil => rfl
  | cons edge edges ih => simp [Layout.edgeElements, ih]

theorem length_elements (layout : Layout) :
    layout.elements.length = layout.graph.nodeCount + layout.graph.edgeCount := by
  unfold Layout.elements Graph.nodeCount Graph.edgeCount
  rw [List.length_append, length_nodeElements, length_edgeElements]

end DepView.Overlay
