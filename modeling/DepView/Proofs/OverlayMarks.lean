import DepView.Proofs.OverlayEnds

/-!
What happens on a view that several loads share: the activation of each load, its end,
and each dismissal. Activations and dismissals overtake the loads before them. This
module says where a load can stand in what has happened, what it tells, and what the
view shows.
-/

namespace DepView.Overlay

/-- Something that matters to more than one load. -/
inductive Mark where
  | activation (load : Nat)
  | completion (load : Nat)
  | dismissal
deriving DecidableEq

namespace Mark

def load? : Mark → Option Nat
  | activation i => some i
  | completion i => some i
  | dismissal => none

def overtakes : Mark → Bool
  | completion _ => false
  | _ => true

end Mark

def lastOvertaking (past : List Mark) : Option Mark :=
  (past.filter Mark.overtakes).getLast?

namespace SharedView

def hasEnded (s : SharedView) (i : Nat) : Bool :=
  (s.loads[i]?).any Load.isDone

/-- The mark of a load that ends between two states. -/
def ending (s next : SharedView) (i : Nat) : List Mark :=
  if !s.hasEnded i && next.hasEnded i then [.completion i] else []

/-- What happens in a turn. A load that does not wait ends in the turn that starts it. -/
def marksOf (s : SharedView) (turn : Turn) : List Mark :=
  match turn with
  | .load _ _ => .activation s.loads.length :: s.ending (s.take turn) s.loads.length
  | .answer i _ => s.ending (s.take turn) i
  | .dismiss => [.dismissal]

/-- All that happens in some turns. -/
def marks (s : SharedView) : List Turn → List Mark
  | [] => []
  | turn :: turns => s.marksOf turn ++ (s.take turn).marks turns

end SharedView

/-! The last mark that overtakes. -/

theorem lastOvertaking_append (a b : List Mark) :
    lastOvertaking (a ++ b) = (lastOvertaking b).or (lastOvertaking a) := by
  unfold lastOvertaking
  rw [List.filter_append, List.getLast?_append]

theorem lastOvertaking_of_none {past : List Mark} (h : ∀ m ∈ past, m.overtakes = false) :
    lastOvertaking past = none := by
  have hnil : past.filter Mark.overtakes = [] := by
    rw [List.filter_eq_nil_iff]
    intro m hm
    simp [h m hm]
  rw [lastOvertaking, hnil]
  rfl

theorem exists_lastOvertaking {past : List Mark} (h : ∃ m ∈ past, m.overtakes = true) :
    ∃ m ∈ past, m.overtakes = true ∧ lastOvertaking past = some m := by
  obtain ⟨m, hm, hovertakes⟩ := h
  cases hlast : lastOvertaking past with
  | none =>
    have hnil := List.getLast?_eq_none_iff.mp hlast
    have hmem : m ∈ past.filter Mark.overtakes := List.mem_filter.mpr ⟨hm, hovertakes⟩
    rw [hnil] at hmem
    cases hmem
  | some last =>
    have hmem := List.mem_filter.mp (List.mem_of_getLast? hlast)
    exact ⟨last, hmem.1, hmem.2, rfl⟩

theorem lastOvertaking_of_activation (before : List Mark) (i : Nat) {between : List Mark}
    (h : ∀ m ∈ between, m.overtakes = false) :
    lastOvertaking (before ++ .activation i :: between) = some (.activation i) := by
  rw [List.append_cons, lastOvertaking_append, lastOvertaking_append, lastOvertaking_of_none h]
  rfl

/-! Lists of loads with one more load or a changed one. -/

theorem getElem?_concat_cases {α : Type} {xs : List α} {x y : α} {i : Nat}
    (h : (xs ++ [x])[i]? = some y) : xs[i]? = some y ∨ (i = xs.length ∧ y = x) := by
  by_cases hi : i < xs.length
  · rw [List.getElem?_append_left hi] at h
    exact Or.inl h
  · rw [List.getElem?_append_right (by omega)] at h
    obtain ⟨hlt, heq⟩ := List.getElem?_eq_some_iff.mp h
    rw [List.length_singleton] at hlt
    exact Or.inr ⟨by omega, by simpa using heq.symm⟩

theorem getElem?_set_cases {α : Type} {xs : List α} {x y : α} {i j : Nat}
    (h : (xs.set j x)[i]? = some y) : (i = j ∧ y = x) ∨ (i ≠ j ∧ xs[i]? = some y) := by
  by_cases hij : i = j
  · subst hij
    rw [List.getElem?_set] at h
    simp only [if_true] at h
    split at h
    · exact Or.inl ⟨rfl, (Option.some.inj h).symm⟩
    · cases h
  · rw [List.getElem?_set_ne (Ne.symm hij)] at h
    exact Or.inr ⟨hij, h⟩

/-- A change that a function does not see. -/
theorem map_set_of_eq {α β : Type} {f : α → β} {xs : List α} {x y : α} {i : Nat}
    (hx : xs[i]? = some x) (hf : f y = f x) : (xs.set i y).map f = xs.map f := by
  obtain ⟨hlt, rfl⟩ := List.getElem?_eq_some_iff.mp hx
  rw [List.map_set, hf, ← List.getElem_map f, List.set_getElem_self]
  · rw [List.length_map]
    exact hlt

/-! What is known of each load and of the view. -/

/-- What a load tells when it ends with an outcome. -/
def told (start : View) (load : Load) (outcome : Outcome) (superseded : Bool) : Snapshot :=
  { ((start.justBefore load.token).loadAlone load.node outcome).2 with superseded }

/-- A load that was overtaken leaves the view alone. -/
theorem finish_of_overtaken {start v : View} (hsettings : v.settings = start.settings)
    (hpage : start.renderer = .page) {load : Load} (hpos : 0 < load.token) {outcome : Outcome}
    (hnode : outcome.node = load.node) (hcurrent : v.isCurrent load.token = false) :
    v.finish load.token outcome = (v, told start load outcome true) := by
  have hsuperseded := View.supersededSnapshot_eq v (start.justBefore load.token)
    hsettings.symm hpage outcome
  have hgeneration : (start.justBefore load.token).generation + 1 = load.token :=
    Nat.sub_add_cancel hpos
  rw [hgeneration, hnode] at hsuperseded
  rw [View.finish_of_not_current hcurrent, hsuperseded]
  rfl

/-- A load that was not overtaken ends as it would end alone. -/
theorem finish_of_activated {start v : View} (hpage : start.renderer = .page) {load : Load}
    (hpos : 0 < load.token) {outcome : Outcome} (hnode : outcome.node = load.node)
    (hview : v = (start.justBefore load.token).activate (some load.node)) :
    v.finish load.token outcome =
      (((start.justBefore load.token).loadAlone load.node outcome).1,
        told start load outcome false) := by
  have hsuperseded := View.superseded_loadAlone (start.justBefore load.token) hpage outcome
  rw [hnode] at hsuperseded
  unfold told
  rw [hview, ← View.loadAlone_justBefore start hpos, ← hsuperseded]

/-- What follows on the marks that came between the activation of a load and its end. -/
def Closing (start : View) (i : Nat) (load : Load) (between rest : List Mark) : Prop :=
  match load.progress with
  | .waiting search => search.node = load.node ∧ rest = []
  | .broken => rest = []
  | .done outcome shot =>
    outcome.node = load.node ∧
      (∃ after, rest = .completion i :: after ∧ ∀ m ∈ after, m.load? ≠ some i) ∧
      ∃ superseded, (superseded = true ↔ ∃ m ∈ between, m.overtakes = true) ∧
        shot = told start load outcome superseded

/-- Where a load stands in what has happened. -/
def Course (start : View) (past : List Mark) (i : Nat) (load : Load) : Prop :=
  ∃ before between rest, past = before ++ .activation i :: (between ++ rest) ∧
    (∀ m ∈ before ++ between, m.load? ≠ some i) ∧ Closing start i load between rest

/-- The view shows a load: it waits for it, or it shows its outcome. -/
def Shows (start : View) (load : Load) (v : View) : Prop :=
  match load.progress with
  | .done outcome _ => v = ((start.justBefore load.token).loadAlone load.node outcome).1
  | _ => v = (start.justBefore load.token).activate (some load.node)

/-- Only the token of the load that is shown can be current. -/
theorem Shows.token_eq {start v : View} {load : Load} (h : Shows start load v)
    (hpos : 0 < load.token) {token : Int} (hcurrent : v.isCurrent token = true) :
    token = load.token := by
  have hactivated : v = (start.justBefore load.token).activate (some load.node) →
      token = load.token := by
    intro hview
    rw [hview, View.isCurrent_activate_justBefore start hpos] at hcurrent
    exact eq_of_beq hcurrent
  unfold Shows at h
  cases hprogress : load.progress with
  | done outcome shot =>
    simp only [hprogress] at h
    rw [h, View.isCurrent_loadAlone] at hcurrent
    cases hcurrent
  | _ =>
    simp only [hprogress] at h
    exact hactivated h

/-- What the view shows after a mark that overtakes. -/
def Shown (start : View) (s : SharedView) : Option Mark → Prop
  | none => s.view = start ∧ s.loads = []
  | some (.activation i) => ∃ load, s.loads[i]? = some load ∧ Shows start load s.view
  | some _ => s.view.content = .idle

/-- Marks of something else come to stand behind the activation of a load, or behind its
end. -/
theorem Course.append {start : View} {past : List Mark} {i : Nat} {load : Load}
    (h : Course start past i load) {more : List Mark} (hmore : ∀ m ∈ more, m.load? ≠ some i) :
    Course start (past ++ more) i load := by
  obtain ⟨before, between, rest, rfl, hothers, hclosing⟩ := h
  have hbetween : ∀ m ∈ before ++ (between ++ more), m.load? ≠ some i := by
    intro m hm
    rw [← List.append_assoc] at hm
    rcases List.mem_append.mp hm with hm | hm
    · exact hothers m hm
    · exact hmore m hm
  unfold Course
  cases hprogress : load.progress with
  | waiting search =>
    simp only [Closing, hprogress] at hclosing ⊢
    obtain ⟨hnode, rfl⟩ := hclosing
    exact ⟨before, between ++ more, [], by simp, hbetween, hnode, rfl⟩
  | broken =>
    simp only [Closing, hprogress] at hclosing ⊢
    subst hclosing
    exact ⟨before, between ++ more, [], by simp, hbetween, rfl⟩
  | done outcome shot =>
    simp only [Closing, hprogress] at hclosing ⊢
    obtain ⟨hnode, ⟨after, rfl, hafter⟩, htold⟩ := hclosing
    refine ⟨before, between, .completion i :: (after ++ more), by simp, hothers, hnode,
      ⟨after ++ more, rfl, ?_⟩, htold⟩
    intro m hm
    rcases List.mem_append.mp hm with hm | hm
    · exact hafter m hm
    · exact hmore m hm

/-- Changing a load that is not shown changes nothing about what is shown. -/
theorem Shown.set {start : View} {s : SharedView} {last : Option Mark} (h : Shown start s last)
    {i : Nat} {load new : Load} (hload : s.loads[i]? = some load)
    (hnew : last = some (.activation i) → Shows start load s.view → Shows start new s.view) :
    Shown start ⟨s.view, s.loads.set i new⟩ last := by
  obtain ⟨hlt, _⟩ := List.getElem?_eq_some_iff.mp hload
  cases last with
  | none =>
    rw [h.2] at hlt
    cases hlt
  | some m =>
    cases m with
    | activation j =>
      obtain ⟨shown, hshown, hview⟩ := h
      by_cases hij : i = j
      · subst hij
        rw [hload] at hshown
        cases hshown
        exact ⟨new, List.getElem?_set_self hlt, hnew rfl hview⟩
      · exact ⟨shown, by rw [List.getElem?_set_ne hij, hshown], hview⟩
    | _ => exact h

end DepView.Overlay
