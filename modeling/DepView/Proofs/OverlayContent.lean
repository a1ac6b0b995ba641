import DepView.Proofs.OverlayPanel

/-!
What the overlay shows over whole runs. Its title is the node of the last activation. A tree or an
error that is shown is the one answer that has counted since then, and without it there is no
trace of an earlier tree: neither in the panel nor on the canvas of the page. This is shown of the
content, where an operation has few cases, and carried over to the parts of the panel.
-/

namespace DepView.Overlay

/-- The node that an operation activates. -/
def Operation.activated? : Operation → Option (Option Text)
  | .activate node => some node
  | _ => none

/-- The node that is activated last, if any is. -/
def lastActivated? (operations : List Operation) : Option (Option Text) :=
  (operations.filterMap Operation.activated?).getLast?

/-- The last activation gave out a token for a node, and nothing has ended the wait since. -/
def AwaitedFor (past : List Exchange) (node : Option Text) (token : Nat) : Prop :=
  ∃ before after, past = before ++ ⟨.activate node, .token token⟩ :: after ∧
    ∀ e ∈ after, e.endsWait = false

/-- An operation has answered the activation of a node and has counted, and nothing has come in
its place since. -/
def AnsweredBy (past : List Exchange) (node : Option Text) (answer : Nat → Operation) : Prop :=
  ∃ before token after, past = before ++ ⟨answer token, .counted true⟩ :: after ∧
    AwaitedFor before node token ∧ ∀ e ∈ after, e.endsWait = false

/-- Where a content comes from. -/
def Origin (v : View) (past : List Exchange) : Prop :=
  match v.content with
  | .idle => True
  | .loading title => AwaitedFor past title v.generation
  | .failed title error => AnsweredBy past title fun token => .fail token error
  | .displaying title text source layout =>
    AnsweredBy past title (fun token => .resolve token text source) ∧
      layout = .hierarchical v.settings (Graph.ofText text)

/-! One exchange more. -/

theorem quiet_concat {after : List Exchange} {e : Exchange}
    (h : ∀ d ∈ after, d.endsWait = false) (he : e.endsWait = false) :
    ∀ d ∈ after ++ [e], d.endsWait = false := by
  intro d hd
  rcases List.mem_append.mp hd with hd | hd
  · exact h d hd
  · rw [List.mem_singleton.mp hd]
    exact he

theorem AwaitedFor.concat {past : List Exchange} {node : Option Text} {token : Nat} {e : Exchange}
    (h : AwaitedFor past node token) (he : e.endsWait = false) :
    AwaitedFor (past ++ [e]) node token := by
  obtain ⟨before, after, rfl, hafter⟩ := h
  exact ⟨before, after ++ [e], by simp, quiet_concat hafter he⟩

theorem AnsweredBy.concat {past : List Exchange} {node : Option Text} {answer : Nat → Operation}
    {e : Exchange} (h : AnsweredBy past node answer) (he : e.endsWait = false) :
    AnsweredBy (past ++ [e]) node answer := by
  obtain ⟨before, token, after, rfl, hawaited, hafter⟩ := h
  exact ⟨before, token, after ++ [e], by simp, hawaited, quiet_concat hafter he⟩

theorem Origin.concat {v : View} {past : List Exchange} {e : Exchange} (h : Origin v past)
    (he : e.endsWait = false) : Origin v (past ++ [e]) := by
  unfold Origin at h ⊢
  cases hcontent : v.content with
  | idle => trivial
  | loading title =>
    rw [hcontent] at h
    exact AwaitedFor.concat h he
  | failed title error =>
    rw [hcontent] at h
    exact AnsweredBy.concat h he
  | displaying title text source layout =>
    rw [hcontent] at h
    exact ⟨AnsweredBy.concat h.1 he, h.2⟩

/-- A token that is current is awaited for the node in the title. -/
theorem Origin.awaitedFor {v : View} {past : List Exchange} (h : Origin v past) {token : Int}
    (hcurrent : v.isCurrent token = true) :
    AwaitedFor past v.title v.generation ∧ token = v.generation := by
  obtain ⟨hcontent, htoken⟩ := isLoading_of_current hcurrent
  unfold Origin at h
  rw [hcontent] at h
  exact ⟨h, htoken⟩

theorem origin_dismiss (v : View) (past : List Exchange) : Origin v.dismiss past := by
  unfold Origin View.dismiss
  cases h : v.content with
  | idle =>
    simp only [h]
  | _ => trivial

theorem Origin.apply {v : View} {past : List Exchange} (h : Origin v past) (op : Operation) :
    Origin (v.apply op) (past ++ [⟨op, v.reply op⟩]) := by
  cases op with
  | activate node => exact ⟨past, [], rfl, fun e he => by cases he⟩
  | resolve token text source =>
    by_cases hcurrent : v.isCurrent token = true
    · obtain ⟨hawaited, rfl⟩ := h.awaitedFor hcurrent
      rw [View.apply, resolve_of_current hcurrent, View.reply, hcurrent]
      exact ⟨⟨past, v.generation, [], rfl, hawaited, fun e he => by cases he⟩, rfl⟩
    · rw [View.apply, View.resolve, if_neg hcurrent]
      apply h.concat
      simp [Exchange.endsWait, View.reply, hcurrent]
  | fail token reason =>
    by_cases hcurrent : v.isCurrent token = true
    · obtain ⟨hawaited, rfl⟩ := h.awaitedFor hcurrent
      rw [View.apply, fail_of_current hcurrent, View.reply, hcurrent]
      exact ⟨past, v.generation, [], rfl, hawaited, fun e he => by cases he⟩
    · rw [View.apply, View.fail, if_neg hcurrent]
      apply h.concat
      simp [Exchange.endsWait, View.reply, hcurrent]
  | dismiss => exact origin_dismiss v _
  | click region =>
    cases region with
    | content => exact h.concat rfl
    | _ => exact origin_dismiss v _

theorem Origin.run {v : View} {past : List Exchange} (h : Origin v past)
    (operations : List Operation) :
    Origin (v.run operations) (past ++ v.exchanges operations) := by
  induction operations generalizing v past with
  | nil => simpa [View.run, View.exchanges] using h
  | cons op operations ih =>
    have hrest := ih (h.apply op)
    simpa [View.run, View.exchanges] using hrest

/-! The last activation. -/

theorem map_operation_exchanges (v : View) (operations : List Operation) :
    (v.exchanges operations).map Exchange.operation = operations := by
  induction operations generalizing v with
  | nil => rfl
  | cons op operations ih => rw [View.exchanges, List.map_cons, ih]

theorem activated?_of_not_endsWait {e : Exchange} (h : e.endsWait = false) :
    e.operation.activated? = none := by
  obtain ⟨op, reply⟩ := e
  cases op with
  | activate node => cases h
  | _ => rfl

theorem filterMap_activated?_quiet {after : List Exchange} (h : ∀ e ∈ after, e.endsWait = false) :
    (after.map Exchange.operation).filterMap Operation.activated? = [] := by
  rw [List.filterMap_eq_nil_iff]
  intro op hop
  obtain ⟨e, he, rfl⟩ := List.mem_map.mp hop
  exact activated?_of_not_endsWait (h e he)

theorem AwaitedFor.lastActivated?_eq {past : List Exchange} {node : Option Text} {token : Nat}
    (h : AwaitedFor past node token) :
    lastActivated? (past.map Exchange.operation) = some node := by
  obtain ⟨before, after, rfl, hafter⟩ := h
  have hquiet := filterMap_activated?_quiet hafter
  unfold lastActivated?
  simp [hquiet, Operation.activated?]

theorem AnsweredBy.lastActivated?_eq {past : List Exchange} {node : Option Text}
    {answer : Nat → Operation} (hanswer : ∀ token, (answer token).activated? = none)
    (h : AnsweredBy past node answer) :
    lastActivated? (past.map Exchange.operation) = some node := by
  obtain ⟨before, token, after, rfl, hawaited, hafter⟩ := h
  have hquiet := filterMap_activated?_quiet hafter
  rw [← hawaited.lastActivated?_eq]
  unfold lastActivated?
  simp [hquiet, hanswer]

theorem mem_of_lastActivated? {operations : List Operation} {node : Option Text}
    (h : lastActivated? operations = some node) : .activate node ∈ operations := by
  obtain ⟨op, hop, hnode⟩ := List.mem_filterMap.mp (List.mem_of_getLast? h)
  cases op with
  | activate other =>
    cases hnode
    exact hop
  | _ => cases hnode

/-! All states. -/

/-- There is no trace of a tree, neither in the panel nor on the canvas of the page. -/
structure Vacant (p : Panel) : Prop where
  text : p.text = none
  source : p.source = none
  layout : p.layout = none
  painter : p.painter = .page .blank

/-- The tree that is shown is that of one text. The text and its source have come with one answer
to the activation of the node in the title, and the canvas holds nothing else. -/
structure ShowsTree (p : Panel) (past : List Exchange) : Prop where
  error : p.error = none
  tree : ∃ text layout, p.text = some text ∧ p.layout = some layout ∧
    (layout.mode = .hierarchical ∧ layout.points = [] ∧ layout.graph = Graph.ofText text) ∧
    p.painter = .page (.ofLayout layout) ∧
    AnsweredBy past p.title fun token => .resolve token text p.source
  count : p.snapshot.nodeCount + p.snapshot.edgeCount = p.snapshot.elements.length

/-- The parts of the panel fit together in each state. An error that is shown answers the
activation of the node in the title. -/
def Consistent (p : Panel) (past : List Exchange) : Prop :=
  match p.state with
  | .idle => p.title = none ∧ p.error = none ∧ Vacant p
  | .loading => AwaitedFor past p.title p.generation ∧ p.error = none ∧ Vacant p
  | .failed => AnsweredBy past p.title (fun token => .fail token p.error) ∧ Vacant p
  | .displaying => ShowsTree p past

/-- A snapshot tells the parts of a panel, and all that is on the canvas of the page. -/
structure Tells (shot : Snapshot) (p : Panel) : Prop where
  state : shot.state = p.state
  title : shot.title = p.title
  error : shot.error = p.error
  text : shot.text = p.text
  source : shot.source = p.source
  canvas : p.painter = .page ⟨shot.elements, shot.options, shot.fit⟩

/-- The node of an activation is given, and so is the reason of a failure. -/
def Operation.isGiven : Operation → Bool
  | .activate node => node.isSome
  | .fail _ reason => reason.isSome
  | _ => true

theorem Origin.consistent {v : View} {past : List Exchange} (h : Origin v past)
    (hpage : v.renderer = .page) (told : List Command) : Consistent (v.panel told) past := by
  obtain ⟨settings, renderer, generation, content⟩ := v
  cases hpage
  cases content with
  | idle => exact ⟨rfl, rfl, rfl, rfl, rfl, rfl⟩
  | loading title => exact ⟨h, rfl, rfl, rfl, rfl, rfl⟩
  | failed title error => exact ⟨h, rfl, rfl, rfl, rfl⟩
  | displaying title text source layout =>
    obtain ⟨hanswered, hlayout⟩ := h
    have htree : layout = .hierarchical settings (Graph.ofText text) := hlayout
    subst htree
    exact ⟨rfl, ⟨text, _, rfl, rfl, ⟨rfl, rfl, rfl⟩, rfl, hanswered⟩, (length_elements _).symm⟩

theorem Consistent.tells {p : Panel} {past : List Exchange} (h : Consistent p past) :
    Tells p.snapshot p := by
  have hpage : ∃ canvas, p.painter = .page canvas := by
    unfold Consistent at h
    split at h
    · exact ⟨_, h.2.2.painter⟩
    · exact ⟨_, h.2.2.painter⟩
    · exact ⟨_, h.2.painter⟩
    · obtain ⟨_, _, _, _, _, hpainter, _⟩ := h.tree
      exact ⟨_, hpainter⟩
  obtain ⟨canvas, hcanvas⟩ := hpage
  refine ⟨rfl, rfl, rfl, rfl, rfl, ?_⟩
  rw [hcanvas]
  simp [Panel.snapshot, Panel.snapshotFor, hcanvas, Painter.canvas]

/-- Unless the overlay is closed, its title is the node of the last activation. -/
theorem Consistent.lastActivated?_eq {p : Panel} {past : List Exchange} (h : Consistent p past)
    (hopen : p.state ≠ .idle) :
    lastActivated? (past.map Exchange.operation) = some p.title := by
  unfold Consistent at h
  split at h
  · rename_i hidle
    exact False.elim (hopen hidle)
  · exact h.1.lastActivated?_eq
  · exact h.1.lastActivated?_eq fun _ => rfl
  · obtain ⟨_, _, _, _, _, _, hanswered⟩ := h.tree
    exact hanswered.lastActivated?_eq fun _ => rfl

theorem Consistent.mem_of_failed {p : Panel} {past : List Exchange} (h : Consistent p past)
    (hfailed : p.state = .failed) : ∃ token, .fail token p.error ∈ past.map Exchange.operation := by
  simp only [Consistent, hfailed] at h
  obtain ⟨⟨before, token, after, rfl, _, _⟩, _⟩ := h
  exact ⟨token, by simp⟩

theorem renderer_apply (v : View) (op : Operation) : (v.apply op).renderer = v.renderer := by
  have hdismiss : v.dismiss.renderer = v.renderer := by
    unfold View.dismiss
    cases v.content <;> rfl
  cases op with
  | activate node => rfl
  | resolve token text source =>
    by_cases h : v.isCurrent token = true <;> simp [View.apply, View.resolve, h]
  | fail token reason =>
    by_cases h : v.isCurrent token = true <;> simp [View.apply, View.fail, h]
  | dismiss => exact hdismiss
  | click region =>
    cases region with
    | content => rfl
    | _ => exact hdismiss

theorem renderer_run (v : View) (operations : List Operation) :
    (v.run operations).renderer = v.renderer := by
  induction operations generalizing v with
  | nil => rfl
  | cons op operations ih => exact (ih (v.apply op)).trans (renderer_apply v op)

/-- After every run on the page the parts of the panel fit together, and a snapshot tells them.
The title of an overlay that is not closed is the node that was activated last. It is set, and so
is the error of a load that failed, if all nodes and reasons are given. -/
theorem state_consistent (settings : HierarchySettings) (operations : List Operation) :
    let start := Panel.initial settings .page
    let p := start.run operations
    Consistent p (start.exchanges operations) ∧ Tells p.snapshot p ∧
      (p.state ≠ .idle → lastActivated? operations = some p.title) ∧
      ((∀ op ∈ operations, op.isGiven = true) →
        (p.state ≠ .idle → p.title.isSome = true) ∧
        (p.state = .failed → p.error.isSome = true)) := by
  intro start p
  let v := View.initial settings .page
  have hclosed : Origin v [] := trivial
  have horigin : Origin (v.run operations) (v.exchanges operations) := hclosed.run operations
  have hstart : start = v.panel [.clear] := initial_panel settings .page
  have hp : p = (v.run operations).panel ([.clear] ++ v.commandsOf operations) := by
    rw [← run_panel, ← hstart]
  have hpast : start.exchanges operations = v.exchanges operations := by
    rw [hstart, exchanges_panel]
  have hconsistent : Consistent p (v.exchanges operations) := by
    rw [hp]
    exact horigin.consistent (renderer_run v operations) _
  have hlast : p.state ≠ .idle → lastActivated? operations = some p.title := by
    intro hopen
    rw [← hconsistent.lastActivated?_eq hopen, map_operation_exchanges]
  rw [hpast]
  refine ⟨hconsistent, hconsistent.tells, hlast, fun hgiven => ⟨fun hopen => ?_, fun hfailed => ?_⟩⟩
  · exact hgiven _ (mem_of_lastActivated? (hlast hopen))
  · obtain ⟨token, hmem⟩ := hconsistent.mem_of_failed hfailed
    rw [map_operation_exchanges] at hmem
    exact hgiven _ hmem

/-- A node and a reason that are not given leave a failed overlay without title and error. -/
theorem failed_without_reason :
    let p := (Panel.initial .standard .page).run [.activate none, .fail 1 none]
    p.state = .failed ∧ ¬(p.title.isSome = true ∧ p.error.isSome = true) := by
  refine ⟨rfl, ?_⟩
  rintro ⟨htitle, _⟩
  cases htitle

end DepView.Overlay
