import DepView.Proofs.OverlayLoads

/-!
Loads that share a view, in any order of their turns. Each load tells what it would
tell alone, marked as superseded if and only if something overtook it, and in the end
the view shows the load that was activated last, unless it was dismissed.
-/

namespace DepView.Overlay

namespace SharedView

/-- Going on with an answer does nothing, lets a load go on waiting, or ends it. -/
theorem answer_cases (s : SharedView) (i : Nat) (text : Option Text) :
    s.answer i text = s ∨ ∃ load search, s.loads[i]? = some load ∧
      load.progress = .waiting search ∧
      ((∃ next, next.node = search.node ∧
        s.answer i text = ⟨s.view, s.loads.set i { load with progress := .waiting next }⟩) ∨
      ∃ outcome, outcome.node = search.node ∧
        s.answer i text = ⟨(s.view.finish load.token outcome).1, s.loads.set i
          { load with progress := .done outcome (s.view.finish load.token outcome).2 }⟩) := by
  unfold answer
  split
  · rename_i node token search hload
    refine Or.inr ⟨_, search, hload, rfl, ?_⟩
    cases hanswer : search.answer text with
    | inl next => exact Or.inl ⟨next, Search.node_of_answer_inl hanswer, rfl⟩
    | inr outcome => exact Or.inr ⟨outcome, Search.node_of_answer_inr hanswer, rfl⟩
  · exact Or.inl rfl

/-- A new load is broken, or it waits, or it is told at once that there is nothing. -/
theorem load_cases (s : SharedView) (node : Text) (gens : List Generator) :
    s.load node gens = s.activate node .broken ∨
      s.load node gens = s.activate node (.waiting (Search.start gens node)) ∨
      s.load node gens =
        (s.activate node (.waiting (Search.start gens node))).answer s.loads.length none := by
  by_cases hlocate : canLocate gens node = true
  · by_cases hawaited : (Search.start gens node).awaited?.isSome = true
    · exact Or.inr (Or.inl (by simp [load, hlocate, hawaited]))
    · exact Or.inr (Or.inr (by simp [load, hlocate, hawaited]))
  · exact Or.inl (by simp [load, hlocate])

theorem hasEnded_of_getElem? {s : SharedView} {i : Nat} {load : Load}
    (h : s.loads[i]? = some load) : s.hasEnded i = load.isDone := by
  simp [hasEnded, h]

theorem hasEnded_set {v : View} {loads : List Load} {i : Nat} {load new : Load}
    (h : loads[i]? = some load) : hasEnded ⟨v, loads.set i new⟩ i = new.isDone := by
  obtain ⟨hlt, _⟩ := List.getElem?_eq_some_iff.mp h
  exact hasEnded_of_getElem? (List.getElem?_set_self hlt)

theorem ending_self (s : SharedView) (i : Nat) : s.ending s i = [] := by
  simp [ending]

/-- A load that was not there before ends as one that was opened just now. -/
theorem ending_activate (s next : SharedView) (node : Text) {progress : Progress}
    (h : Load.isDone ⟨node, s.view.generation + 1, progress⟩ = false) :
    (s.activate node progress).ending next s.loads.length = s.ending next s.loads.length := by
  have hopened : (s.activate node progress).hasEnded s.loads.length = false := by
    rw [hasEnded_of_getElem? List.getElem?_concat_length]
    exact h
  have hbefore : s.hasEnded s.loads.length = false := by
    simp [hasEnded]
  unfold ending
  rw [hopened, hbefore]

end SharedView

namespace Coherent

variable {start : View} {s : SharedView} {past : List Mark}

theorem answer (h : Coherent start s past) (hpage : start.renderer = .page) (i : Nat)
    (text : Option Text) :
    Coherent start (s.answer i text) (past ++ s.ending (s.answer i text) i) := by
  rcases s.answer_cases i text with hsame | ⟨load, search, hload, hsearch, hgoes⟩
  · rw [hsame, SharedView.ending_self, List.append_nil]
    exact h
  have hbefore : s.hasEnded i = false := by
    rw [SharedView.hasEnded_of_getElem? hload]
    simp [Load.isDone, hsearch]
  rcases hgoes with ⟨next, hnode, heq⟩ | ⟨outcome, hnode, heq⟩
  · have hending : s.ending (s.answer i text) i = [] := by
      unfold SharedView.ending
      rw [heq, SharedView.hasEnded_set hload]
      simp [Load.isDone]
    rw [hending, List.append_nil, heq]
    exact h.goOn hload hsearch hnode
  · have hending : s.ending (s.answer i text) i = [.completion i] := by
      unfold SharedView.ending
      rw [heq, SharedView.hasEnded_set hload, hbefore]
      rfl
    rw [hending, heq]
    exact h.complete hpage hload hsearch hnode

theorem load (h : Coherent start s past) (hpage : start.renderer = .page) (node : Text)
    (gens : List Generator) :
    Coherent start (s.load node gens)
      (past ++ .activation s.loads.length :: s.ending (s.load node gens) s.loads.length) := by
  have hopen : ∀ progress, Load.isDone ⟨node, s.view.generation + 1, progress⟩ = false →
      s.ending (s.activate node progress) s.loads.length = [] := by
    intro progress hprogress
    rw [← SharedView.ending_activate s _ node hprogress, SharedView.ending_self]
  have hbroken := h.activate node (Or.inl rfl)
  have hwaiting := h.activate node (Or.inr ⟨Search.start gens node, rfl, rfl⟩)
  rcases s.load_cases node gens with heq | heq | heq
  · rw [heq, hopen _ rfl]
    exact hbroken
  · rw [heq, hopen _ rfl]
    exact hwaiting
  · have hanswer := hwaiting.answer hpage s.loads.length none
    rw [SharedView.ending_activate s _ node rfl, ← List.append_cons] at hanswer
    rw [heq]
    exact hanswer

theorem take (h : Coherent start s past) (hpage : start.renderer = .page) (turn : Turn) :
    Coherent start (s.take turn) (past ++ s.marksOf turn) := by
  cases turn with
  | load node gens => exact h.load hpage node gens
  | answer i text => exact h.answer hpage i text
  | dismiss => exact h.dismiss

/-- After any turns the loads and the view are in step with what has happened. -/
theorem run (h : Coherent start s past) (hpage : start.renderer = .page) (turns : List Turn) :
    Coherent start (s.run turns) (past ++ s.marks turns) := by
  induction turns generalizing s past with
  | nil => simpa [SharedView.run, SharedView.marks] using h
  | cons turn turns ih =>
    have hrest := ih (h.take hpage turn)
    rw [List.append_assoc] at hrest
    exact hrest

end Coherent

/-! The nodes of the loads. -/

def Turn.node? : Turn → Option Text
  | .load node _ => some node
  | _ => none

namespace SharedView

theorem map_node_answer (s : SharedView) (i : Nat) (text : Option Text) :
    (s.answer i text).loads.map (·.node) = s.loads.map (·.node) := by
  rcases s.answer_cases i text with hsame | ⟨load, search, hload, _, ⟨_, _, heq⟩ | ⟨_, _, heq⟩⟩
  · rw [hsame]
  · rw [heq]
    exact map_set_of_eq hload rfl
  · rw [heq]
    exact map_set_of_eq hload rfl

theorem map_node_take (s : SharedView) (turn : Turn) :
    (s.take turn).loads.map (·.node) = s.loads.map (·.node) ++ turn.node?.toList := by
  cases turn with
  | load node gens =>
    have hactivate : ∀ progress, (s.activate node progress).loads.map (·.node) =
        s.loads.map (·.node) ++ [node] := by
      intro progress
      simp [activate]
    change (s.load node gens).loads.map (·.node) = _
    rcases s.load_cases node gens with heq | heq | heq
    · rw [heq]
      exact hactivate _
    · rw [heq]
      exact hactivate _
    · rw [heq, map_node_answer]
      exact hactivate _
  | answer i text => simpa [take, Turn.node?] using s.map_node_answer i text
  | dismiss => simp [take, Turn.node?]

/-- There is one load for each load turn, in order. -/
theorem map_node_run (s : SharedView) (turns : List Turn) :
    (s.run turns).loads.map (·.node) = s.loads.map (·.node) ++ turns.filterMap Turn.node? := by
  induction turns generalizing s with
  | nil => simp [run]
  | cons turn turns ih =>
    have hrest := ih (s.take turn)
    rw [map_node_take, List.append_assoc] at hrest
    cases hnode : turn.node? with
    | none => simpa [run, hnode] using hrest
    | some node => simpa [run, hnode] using hrest

end SharedView

/-! What is told and shown in the end. -/

/-- What the view shows when no load waits any more. Without a mark that overtakes nothing
has happened to it. -/
def Settled (start : View) (s : SharedView) : Option Mark → Prop
  | none => s.view = start
  | some (.activation i) => ∃ load outcome shot, s.loads[i]? = some load ∧
      load.progress = .done outcome shot ∧
      s.view = ((start.justBefore load.token).loadAlone load.node outcome).1
  | some _ => s.view.content = .idle

namespace Coherent

variable {start : View} {s : SharedView} {past : List Mark}

/-- A load tells what it would tell alone. It is superseded if and only if something has
overtaken it between its activation and its end. -/
theorem told_of_done (h : Coherent start s past) (hpage : start.renderer = .page) {i : Nat}
    {load : Load} {outcome : Outcome} {shot : Snapshot} (hload : s.loads[i]? = some load)
    (hdone : load.progress = .done outcome shot) :
    ∃ before between after,
      past = before ++ .activation i :: (between ++ .completion i :: after) ∧
      (∀ m ∈ before ++ between ++ after, m.load? ≠ some i) ∧
      (shot.superseded = true ↔ ∃ m ∈ between, m.overtakes = true) ∧
      shot.title = some load.node ∧ shot.generation = load.token ∧
      { shot with superseded := false } =
        ((start.justBefore load.token).loadAlone load.node outcome).2 := by
  obtain ⟨before, between, rest, hpast, hothers, hclosing⟩ := h.course i load hload
  simp only [Closing, hdone] at hclosing
  obtain ⟨hnode, ⟨after, rfl, hafter⟩, superseded, hsuperseded, rfl⟩ := hclosing
  have hpos := (h.token_bounds load (List.mem_of_getElem? hload)).1
  have hgeneration : (start.justBefore load.token).generation + 1 = load.token :=
    Nat.sub_add_cancel hpos
  have halone := View.snapshot_loadAlone (start.justBefore load.token) hpage outcome
  have hfalse := View.superseded_loadAlone (start.justBefore load.token) hpage outcome
  rw [hgeneration, hnode] at halone
  rw [hnode] at hfalse
  refine ⟨before, between, after, hpast, ?_, hsuperseded, ?_, ?_, ?_⟩
  · intro m hm
    rcases List.mem_append.mp hm with hm | hm
    · exact hothers m hm
    · exact hafter m hm
  · unfold told
    rw [halone, ← hnode]
    cases outcome <;> rfl
  · unfold told
    rw [halone]
    cases outcome <;> rfl
  · unfold told
    rw [← hfalse]

theorem settled (h : Coherent start s past) (hdone : ∀ load ∈ s.loads, load.isDone = true) :
    Settled start s (lastOvertaking past) := by
  have hshown := h.shown
  cases hlast : lastOvertaking past with
  | none =>
    rw [hlast] at hshown
    exact hshown.1
  | some m =>
    rw [hlast] at hshown
    cases m with
    | activation i =>
      obtain ⟨load, hload, hview⟩ := hshown
      have hended := hdone load (List.mem_of_getElem? hload)
      cases hprogress : load.progress with
      | done outcome shot =>
        simp only [Shows, hprogress] at hview
        exact ⟨load, outcome, shot, hload, hprogress, hview⟩
      | _ => simp [Load.isDone, hprogress] at hended
    | _ => exact hshown

end Coherent

/-- Loads on one view do not mix, in whatever order they are activated, go on and end, and
whenever the overlay is dismissed. Each tells its own node, token and outcome, as it would
alone, and whether it was superseded; and the view ends up with the outcome of the load
that was activated last, or closed if it was dismissed after that. -/
theorem interleaved_loads (start : View) (hpage : start.renderer = .page) (turns : List Turn) :
    let s := (SharedView.mk start []).run turns
    let past := (SharedView.mk start []).marks turns
    s.loads.map (·.node) = turns.filterMap Turn.node? ∧
      (∀ i load outcome shot, s.loads[i]? = some load → load.progress = .done outcome shot →
        ∃ before between after,
          past = before ++ .activation i :: (between ++ .completion i :: after) ∧
          (∀ m ∈ before ++ between ++ after, m.load? ≠ some i) ∧
          (shot.superseded = true ↔ ∃ m ∈ between, m.overtakes = true) ∧
          shot.title = some load.node ∧ shot.generation = load.token ∧
          { shot with superseded := false } =
            ((start.justBefore load.token).loadAlone load.node outcome).2) ∧
      ((∀ load ∈ s.loads, load.isDone = true) → Settled start s (lastOvertaking past)) := by
  intro s past
  have hcoherent : Coherent start s past := (coherent_start start).run hpage turns
  have hnodes := SharedView.map_node_run ⟨start, []⟩ turns
  rw [List.map_nil, List.nil_append] at hnodes
  refine ⟨hnodes, ?_, hcoherent.settled⟩
  intro i load outcome shot hload hdone
  exact hcoherent.told_of_done hpage hload hdone

/-- Two loads, of which the first ends last. It is superseded, and the second one stays. -/
theorem interleaved_loads_two :
    let start := View.initial .standard .page
    let gens : List Generator := [fun id => '/' :: id]
    let s := (SharedView.mk start []).run
      [.load ['a'] gens, .load ['b'] gens, .answer 1 none, .answer 0 (some ['x'])]
    start.renderer = .page ∧
      (∃ outcome shot, s.loads[0]? = some ⟨['a'], 1, .done outcome shot⟩ ∧
        shot.superseded = true ∧ shot.title = some ['a'] ∧ shot.generation = 1) ∧
      ∃ outcome, outcome.node = ['b'] ∧
        s.view = ((start.justBefore 2).loadAlone ['b'] outcome).1 := by
  intro start gens s
  obtain ⟨_, htold, hsettled⟩ := interleaved_loads start rfl
    [.load ['a'] gens, .load ['b'] gens, .answer 1 none, .answer 0 (some ['x'])]
  refine ⟨rfl, ?_, ?_⟩
  · obtain ⟨_, _, _, _, _, _, htitle, hgeneration, _⟩ := htold 0 _ _ _ rfl rfl
    exact ⟨_, _, rfl, rfl, htitle, hgeneration⟩
  · have hview : Settled start s (some (.activation 1)) :=
      hsettled (fun load hload => List.all_eq_true.mp rfl load hload)
    obtain ⟨load, outcome, shot, hload, hdone, hview⟩ := hview
    cases hload
    cases hdone
    exact ⟨_, rfl, hview⟩

end DepView.Overlay
