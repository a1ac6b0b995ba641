import DepView.Proofs.OverlayMarks
import Mathlib.Data.List.Nodup

/-!
Loads that share a view keep in step with what has happened. The view shows the load of
the last mark that overtakes, and no load that was overtaken can get back to it. Each
way in which a load or the view can change keeps this.
-/

namespace DepView.Overlay

/-- The state of the loads and of the view agrees with what has happened. -/
structure Coherent (start : View) (s : SharedView) (past : List Mark) : Prop where
  settings : s.view.settings = start.settings
  renderer : s.view.renderer = start.renderer
  tokens_nodup : (s.loads.map (·.token)).Nodup
  token_bounds : ∀ load ∈ s.loads, 0 < load.token ∧ load.token ≤ s.view.generation
  marked : ∀ m ∈ past, ∀ i, m.load? = some i → i < s.loads.length
  course : ∀ i load, s.loads[i]? = some load → Course start past i load
  shown : Shown start s (lastOvertaking past)

theorem coherent_start (start : View) : Coherent start ⟨start, []⟩ [] := by
  refine ⟨rfl, rfl, List.nodup_nil, ?_, ?_, ?_, ⟨rfl, rfl⟩⟩
  · intro load hload
    cases hload
  · intro m hm
    cases hm
  · intro i load hload
    cases hload

namespace Coherent

variable {start : View} {s : SharedView} {past : List Mark}

/-- A dismissal overtakes all loads. -/
theorem dismiss (h : Coherent start s past) :
    Coherent start (s.take .dismiss) (past ++ [.dismissal]) := by
  have hframe : s.view.dismiss.settings = s.view.settings ∧
      s.view.dismiss.renderer = s.view.renderer ∧ s.view.dismiss.content = .idle := by
    unfold View.dismiss
    cases hcontent : s.view.content with
    | idle => exact ⟨rfl, rfl, hcontent⟩
    | _ => exact ⟨rfl, rfl, rfl⟩
  obtain ⟨hsettings, hrenderer, hcontent⟩ := hframe
  refine ⟨hsettings.trans h.settings, hrenderer.trans h.renderer, h.tokens_nodup, ?_, ?_, ?_, ?_⟩
  · intro load hload
    obtain ⟨hpos, hle⟩ := h.token_bounds load hload
    exact ⟨hpos, Nat.le_trans hle (generation_dismiss_le s.view)⟩
  · intro m hm i hi
    rcases List.mem_append.mp hm with hm | hm
    · exact h.marked m hm i hi
    · rw [List.mem_singleton.mp hm] at hi
      cases hi
  · intro i load hload
    apply (h.course i load hload).append
    intro m hm heq
    rw [List.mem_singleton.mp hm] at heq
    cases heq
  · rw [lastOvertaking_append]
    exact hcontent

/-- A new load has a token of its own and takes over the view. -/
theorem activate (h : Coherent start s past) (node : Text) {progress : Progress}
    (hprogress : progress = .broken ∨ ∃ search, progress = .waiting search ∧ search.node = node) :
    Coherent start (s.activate node progress) (past ++ [.activation s.loads.length]) := by
  have hactivate := View.activate_eq h.settings h.renderer (some node)
  refine ⟨h.settings, h.renderer, ?_, ?_, ?_, ?_, ?_⟩
  · unfold SharedView.activate
    rw [List.map_append, List.nodup_append]
    refine ⟨h.tokens_nodup, List.nodup_singleton _, ?_⟩
    intro token htoken new hnew heq
    obtain ⟨load, hload, rfl⟩ := List.mem_map.mp htoken
    have hle := (h.token_bounds load hload).2
    have hgeneration : new = s.view.generation + 1 := List.mem_singleton.mp hnew
    omega
  · intro load hload
    rcases List.mem_append.mp hload with hload | hload
    · obtain ⟨hpos, hle⟩ := h.token_bounds load hload
      exact ⟨hpos, Nat.le_succ_of_le hle⟩
    · rw [List.mem_singleton.mp hload]
      exact ⟨Nat.succ_pos _, Nat.le_refl _⟩
  · intro m hm i hi
    unfold SharedView.activate
    rw [List.length_append, List.length_singleton]
    rcases List.mem_append.mp hm with hm | hm
    · exact Nat.lt_succ_of_lt (h.marked m hm i hi)
    · rw [List.mem_singleton.mp hm] at hi
      cases hi
      exact Nat.lt_succ_self _
  · intro i load hload
    rcases getElem?_concat_cases hload with hold | ⟨rfl, rfl⟩
    · obtain ⟨hlt, _⟩ := List.getElem?_eq_some_iff.mp hold
      apply (h.course i load hold).append
      intro m hm heq
      rw [List.mem_singleton.mp hm] at heq
      have hi := Option.some.inj heq
      omega
    · have hothers : ∀ m ∈ past ++ [], m.load? ≠ some s.loads.length := by
        intro m hm hi
        rw [List.append_nil] at hm
        exact Nat.lt_irrefl _ (h.marked m hm _ hi)
      refine ⟨past, [], [], rfl, hothers, ?_⟩
      unfold Closing
      rcases hprogress with rfl | ⟨search, rfl, hnode⟩
      · rfl
      · exact ⟨hnode, rfl⟩
  · rw [lastOvertaking_append]
    refine ⟨⟨node, s.view.generation + 1, progress⟩, ?_, ?_⟩
    · simp [SharedView.activate, View.activate]
    · unfold Shows
      rcases hprogress with rfl | ⟨search, rfl, _⟩
      · exact hactivate
      · exact hactivate

/-- As long as nothing has overtaken an open load, the view is as it was left by the
activation of this load. -/
theorem view_of_open (h : Coherent start s past) {i : Nat} {load : Load}
    (hload : s.loads[i]? = some load) (hopen : load.isDone = false) {before between : List Mark}
    (hpast : past = before ++ .activation i :: between)
    (hnone : ∀ m ∈ between, m.overtakes = false) :
    s.view = (start.justBefore load.token).activate (some load.node) := by
  have hshown := h.shown
  rw [hpast, lastOvertaking_of_activation before i hnone] at hshown
  obtain ⟨shown, hshownLoad, hview⟩ := hshown
  rw [hload] at hshownLoad
  cases hshownLoad
  unfold Shows at hview
  cases hprogress : load.progress with
  | done outcome shot => simp [Load.isDone, hprogress] at hopen
  | _ => simpa only [hprogress] using hview

/-- Loads with the same token are the same. -/
theorem eq_of_token (h : Coherent start s past) {i j : Nat} {load other : Load}
    (hload : s.loads[i]? = some load) (hother : s.loads[j]? = some other)
    (htoken : load.token = other.token) : i = j := by
  obtain ⟨hlt, _⟩ := List.getElem?_eq_some_iff.mp hload
  have hsame : (s.loads.map (·.token))[i]? = (s.loads.map (·.token))[j]? := by
    rw [List.getElem?_map, List.getElem?_map, hload, hother, Option.map_some, Option.map_some,
      htoken]
  exact (List.getElem?_inj (by rw [List.length_map]; exact hlt) h.tokens_nodup).mp hsame

/-- Once something has overtaken a load, its token is not current. -/
theorem not_isCurrent_of_overtaken (h : Coherent start s past) {i : Nat} {load : Load}
    (hload : s.loads[i]? = some load) {before between : List Mark}
    (hpast : past = before ++ .activation i :: between)
    (hothers : ∀ m ∈ between, m.load? ≠ some i)
    (hovertaken : ∃ m ∈ between, m.overtakes = true) :
    (∃ m, m.load? ≠ some i ∧ lastOvertaking past = some m) ∧
      s.view.isCurrent load.token = false := by
  obtain ⟨m, hm, _, hlastBetween⟩ := exists_lastOvertaking hovertaken
  have hlast : lastOvertaking past = some m := by
    rw [hpast, List.append_cons, lastOvertaking_append, hlastBetween]
    rfl
  refine ⟨⟨m, hothers m hm, hlast⟩, ?_⟩
  have hshown := h.shown
  rw [hlast] at hshown
  cases m with
  | activation j =>
    obtain ⟨other, hother, hview⟩ := hshown
    have hpos := (h.token_bounds other (List.mem_of_getElem? hother)).1
    rw [Bool.eq_false_iff]
    intro hcurrent
    have htoken := hview.token_eq hpos hcurrent
    have hij : i = j := h.eq_of_token hload hother (by omega)
    exact hothers (.activation j) hm (by rw [hij]; rfl)
  | completion j => simp [View.isCurrent, show s.view.content = .idle from hshown]
  | dismissal => simp [View.isCurrent, show s.view.content = .idle from hshown]

/-- A load gets on, and with it the view at most. -/
theorem replace (h : Coherent start s past) {i : Nat} {load : Load}
    (hload : s.loads[i]? = some load) {progress : Progress} {v : View}
    (hframe : v.settings = s.view.settings ∧ v.renderer = s.view.renderer ∧
      v.generation = s.view.generation)
    {more : List Mark} (hmore : ∀ m ∈ more, m = .completion i)
    (hcourse : Course start (past ++ more) i { load with progress })
    (hshown : Shown start ⟨v, s.loads.set i { load with progress }⟩
      (lastOvertaking (past ++ more))) :
    Coherent start ⟨v, s.loads.set i { load with progress }⟩ (past ++ more) := by
  obtain ⟨hsettings, hrenderer, hgeneration⟩ := hframe
  obtain ⟨hlt, _⟩ := List.getElem?_eq_some_iff.mp hload
  refine ⟨hsettings.trans h.settings, hrenderer.trans h.renderer, ?_, ?_, ?_, ?_, hshown⟩
  · rw [map_set_of_eq hload]
    · exact h.tokens_nodup
    · rfl
  · intro other hother
    rw [hgeneration]
    rcases List.mem_or_eq_of_mem_set hother with hold | rfl
    · exact h.token_bounds other hold
    · exact h.token_bounds load (List.mem_of_getElem? hload)
  · intro m hm j hj
    rw [List.length_set]
    rcases List.mem_append.mp hm with hm | hm
    · exact h.marked m hm j hj
    · rw [hmore m hm] at hj
      cases hj
      exact hlt
  · intro j other hother
    rcases getElem?_set_cases hother with ⟨rfl, rfl⟩ | ⟨hij, hother⟩
    · exact hcourse
    · apply (h.course j other hother).append
      intro m hm heq
      rw [hmore m hm] at heq
      exact hij (Option.some.inj heq).symm

/-- A load goes on waiting. -/
theorem goOn (h : Coherent start s past) {i : Nat} {load : Load}
    (hload : s.loads[i]? = some load) {search next : Search}
    (hsearch : load.progress = .waiting search) (hnode : next.node = search.node) :
    Coherent start ⟨s.view, s.loads.set i { load with progress := .waiting next }⟩ past := by
  have hcourse : Course start (past ++ []) i { load with progress := .waiting next } := by
    obtain ⟨before, between, rest, hpast, hothers, hclosing⟩ := h.course i load hload
    simp only [Closing, hsearch] at hclosing
    rw [List.append_nil]
    exact ⟨before, between, rest, hpast, hothers, hnode.trans hclosing.1, hclosing.2⟩
  have hshown : Shown start ⟨s.view, s.loads.set i { load with progress := .waiting next }⟩
      (lastOvertaking (past ++ [])) := by
    rw [List.append_nil]
    apply h.shown.set hload
    intro _ hview
    simpa only [Shows, hsearch] using hview
  have hreplace := h.replace hload ⟨rfl, rfl, rfl⟩ (fun m hm => by cases hm) hcourse hshown
  rwa [List.append_nil] at hreplace

/-- A load ends. It shows its outcome if nothing has overtaken it. -/
theorem complete (h : Coherent start s past) (hpage : start.renderer = .page) {i : Nat}
    {load : Load} (hload : s.loads[i]? = some load) {search : Search}
    (hsearch : load.progress = .waiting search) {outcome : Outcome}
    (hnode : outcome.node = search.node) :
    Coherent start
      ⟨(s.view.finish load.token outcome).1,
        s.loads.set i { load with progress := .done outcome (s.view.finish load.token outcome).2 }⟩
      (past ++ [.completion i]) := by
  obtain ⟨before, between, rest, hpast, hothers, hclosing⟩ := h.course i load hload
  simp only [Closing, hsearch] at hclosing
  obtain ⟨hsearchNode, rfl⟩ := hclosing
  rw [List.append_nil] at hpast
  have houtcome : outcome.node = load.node := hnode.trans hsearchNode
  have hpos := (h.token_bounds load (List.mem_of_getElem? hload)).1
  have hbetween : ∀ m ∈ between, m.load? ≠ some i :=
    fun m hm => hothers m (List.mem_append_right before hm)
  have hlast : lastOvertaking (past ++ [.completion i]) = lastOvertaking past := by
    rw [lastOvertaking_append]
    rfl
  have hcourse : ∀ superseded, (superseded = true ↔ ∃ m ∈ between, m.overtakes = true) →
      Course start (past ++ [.completion i]) i
        { load with progress := .done outcome (told start load outcome superseded) } := by
    intro superseded hsuperseded
    refine ⟨before, between, [.completion i], by simp [hpast], hothers, houtcome,
      ⟨[], rfl, fun m hm => by cases hm⟩, superseded, hsuperseded, rfl⟩
  -- The last mark that overtakes is that of another load or a dismissal, or it is our own.
  by_cases hovertaken : ∃ m ∈ between, m.overtakes = true
  · obtain ⟨⟨m, hm, hlastPast⟩, hcurrent⟩ :=
      h.not_isCurrent_of_overtaken hload hpast hbetween hovertaken
    have hfinish := finish_of_overtaken h.settings hpage hpos houtcome hcurrent
    rw [hfinish]
    apply h.replace hload ⟨rfl, rfl, rfl⟩ (fun d hd => List.mem_singleton.mp hd)
    · exact hcourse true (by simpa using hovertaken)
    · rw [hlast]
      apply h.shown.set hload
      intro hlastLoad
      rw [hlastPast] at hlastLoad
      cases hlastLoad
      exact False.elim (hm rfl)
  · have hnone : ∀ m ∈ between, m.overtakes = false := by
      intro m hm
      rw [Bool.eq_false_iff]
      intro hovertakes
      exact hovertaken ⟨m, hm, hovertakes⟩
    have hview := h.view_of_open hload (by simp [Load.isDone, hsearch]) hpast hnone
    have hfinish := finish_of_activated hpage hpos houtcome hview
    apply h.replace hload (View.finish_frame s.view load.token outcome)
      (fun d hd => List.mem_singleton.mp hd)
    · rw [hfinish]
      exact hcourse false (by simpa using hnone)
    · obtain ⟨hlt, _⟩ := List.getElem?_eq_some_iff.mp hload
      rw [hlast, hpast, lastOvertaking_of_activation before i hnone]
      exact ⟨_, List.getElem?_set_self hlt, by rw [hfinish]; rfl⟩

end Coherent

end DepView.Overlay
