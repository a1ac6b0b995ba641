import DepView.Overlay.SharedView
import DepView.Proofs.OverlayTokens

/-!
How a load ends. A load that is still awaited shows its outcome and tells what is shown;
one that was overtaken tells what it would have shown and leaves the view alone. Both
tell the same, but for the mark of having been superseded.
-/

namespace DepView.Overlay

/-- The node that an outcome is about. -/
def Outcome.node : Outcome → Text
  | .found node _ _ => node
  | .missing node _ => node

namespace Search

theorem node_of_answer_inl {search next : Search} {text : Option Text}
    (h : search.answer text = .inl next) : next.node = search.node := by
  unfold answer at h
  split at h
  · cases h
  · cases h
  · cases h
  · cases h
    rfl

theorem node_of_answer_inr {search : Search} {text : Option Text} {outcome : Outcome}
    (h : search.answer text = .inr outcome) : outcome.node = search.node := by
  unfold answer at h
  split at h
  · cases h
    rfl
  · cases h
    rfl
  · cases h
    rfl
  · cases h

end Search

namespace View

/-- A load in one go, with a given outcome. -/
def loadAlone (v : View) (node : Text) (outcome : Outcome) : View × Snapshot :=
  let v := v.activate (some node)
  v.finish v.generation outcome

/-- A closed view that gives out a token next. -/
def justBefore (v : View) (token : Nat) : View :=
  { v with generation := token - 1, content := .idle }

/-- Only what is shown changes when a load ends. -/
theorem finish_frame (v : View) (token : Int) (outcome : Outcome) :
    (v.finish token outcome).1.settings = v.settings ∧
      (v.finish token outcome).1.renderer = v.renderer ∧
      (v.finish token outcome).1.generation = v.generation := by
  by_cases h : v.isCurrent token = true
  · cases outcome with
    | found node location text => simp [finish, h, apply, answerOf, resolve]
    | missing node attempted => simp [finish, h, apply, answerOf, fail]
  · simp [finish, h]

theorem activate_eq {v start : View} (hsettings : v.settings = start.settings)
    (hrenderer : v.renderer = start.renderer) (node : Option Text) :
    v.activate node = (start.justBefore (v.generation + 1)).activate node := by
  simp [activate, justBefore, hsettings, hrenderer]

theorem generation_activate_justBefore (v : View) {token : Nat} (h : 0 < token)
    (node : Option Text) : ((v.justBefore token).activate node).generation = token :=
  Nat.sub_add_cancel h

theorem loadAlone_justBefore (v : View) {token : Nat} (h : 0 < token) (node : Text)
    (outcome : Outcome) :
    (v.justBefore token).loadAlone node outcome =
      ((v.justBefore token).activate (some node)).finish token outcome := by
  simp only [loadAlone, generation_activate_justBefore v h]

theorem isCurrent_activate_justBefore (v : View) {given : Nat} (h : 0 < given)
    (node : Option Text) (token : Int) :
    ((v.justBefore given).activate node).isCurrent token = (token == (given : Int)) := by
  have hgeneration := generation_activate_justBefore v h node
  rw [← hgeneration]
  rfl

/-- The token of an activation is current after it. -/
theorem isCurrent_activate (v : View) (node : Option Text) :
    (v.activate node).isCurrent (v.activate node).generation = true := by
  simp [activate, isCurrent]

theorem finish_of_current {v : View} {token : Int} (h : v.isCurrent token = true)
    (outcome : Outcome) :
    v.finish token outcome = (v.apply (answerOf token outcome),
      (v.apply (answerOf token outcome)).snapshotFor token) :=
  if_pos h

theorem finish_of_not_current {v : View} {token : Int} (h : v.isCurrent token = false)
    (outcome : Outcome) : v.finish token outcome = (v, v.supersededSnapshot token outcome) := by
  unfold finish
  rw [h]
  rfl

/-- A load that runs alone waits no more when it has ended. -/
theorem isCurrent_loadAlone (v : View) (node : Text) (outcome : Outcome) (token : Int) :
    (v.loadAlone node outcome).1.isCurrent token = false := by
  have hcurrent := isCurrent_activate v (some node)
  unfold loadAlone
  rw [finish_of_current hcurrent]
  cases outcome with
  | found other location text => exact isCurrent_resolve hcurrent text (some location) token
  | missing other attempted => exact isCurrent_fail hcurrent _ token

/-- What the page is told by a load that runs alone. -/
theorem snapshot_loadAlone (v : View) (hpage : v.renderer = .page) (outcome : Outcome) :
    (v.loadAlone outcome.node outcome).2 =
      match outcome with
      | .found node location text =>
        .displaying (v.generation + 1 : Nat) (some node) text (some location) (v.layoutOf text)
      | .missing node attempted =>
        .failed (v.generation + 1 : Nat) (some node) (some (missingMessage node attempted)) := by
  have hcurrent := isCurrent_activate v (some outcome.node)
  unfold loadAlone
  rw [finish_of_current hcurrent]
  cases outcome with
  | found node location text =>
    simp only [apply, answerOf, resolve_of_current hcurrent]
    simp [snapshotFor, activate, title, hpage, Outcome.node, layoutOf]
  | missing node attempted =>
    simp only [apply, answerOf, fail_of_current hcurrent]
    simp [snapshotFor, activate, title, Outcome.node]

theorem superseded_loadAlone (v : View) (hpage : v.renderer = .page) (outcome : Outcome) :
    (v.loadAlone outcome.node outcome).2.superseded = false := by
  rw [snapshot_loadAlone v hpage]
  cases outcome <;> rfl

/-- A load that was overtaken tells what it would tell alone, marked as superseded. -/
theorem supersededSnapshot_eq (v alone : View) (hsettings : alone.settings = v.settings)
    (hpage : alone.renderer = .page) (outcome : Outcome) :
    v.supersededSnapshot (alone.generation + 1 : Nat) outcome =
      { (alone.loadAlone outcome.node outcome).2 with superseded := true } := by
  rw [snapshot_loadAlone alone hpage]
  cases outcome with
  | found node location text =>
    simp [supersededSnapshot, Snapshot.ofOvertaken, layoutOf, hsettings]
  | missing node attempted => rfl

end View

end DepView.Overlay
