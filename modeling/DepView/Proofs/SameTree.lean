import DepView.Proofs.ResolvedPlaces

/-!
Two stores with the same directories, links and names of files, but other contents of the files.
No way through them tells the one from the other, nor does any path that is resolved: only who
looks at a file sees a difference.
-/

namespace DepView

/-- An entry but for the content of a file. -/
def Entry.shape : Entry → Entry
  | .file _ => .file []
  | entry => entry

namespace Store

def SameTree (s t : Store) : Prop :=
  ∀ place, (s.entry? place).map Entry.shape = (t.entry? place).map Entry.shape

namespace SameTree

variable {s t : Store} {place : Place}

theorem symm (h : SameTree s t) : SameTree t s :=
  fun place => (h place).symm

theorem missing (h : SameTree s t) (hs : s.entry? place = none) : t.entry? place = none := by
  have hplace := h place
  rw [hs] at hplace
  exact Option.map_eq_none_iff.mp hplace.symm

/-- What is at a place of the one store is at this place of the other, but for its content. -/
theorem entry (h : SameTree s t) {entry : Entry} (hs : s.entry? place = some entry) :
    ∃ other, t.entry? place = some other ∧ other.shape = entry.shape := by
  have hplace := h place
  rw [hs] at hplace
  exact Option.map_eq_some_iff.mp hplace.symm

theorem dir (h : SameTree s t) (hs : s.entry? place = some .dir) : t.entry? place = some .dir := by
  obtain ⟨other, ht, hshape⟩ := h.entry hs
  cases other <;> simp [Entry.shape] at hshape
  exact ht

theorem link (h : SameTree s t) {target : Text} (hs : s.entry? place = some (.link target)) :
    t.entry? place = some (.link target) := by
  obtain ⟨other, ht, hshape⟩ := h.entry hs
  cases other <;> simp [Entry.shape] at hshape
  rw [ht, hshape]

theorem file (h : SameTree s t) {content : Bytes} (hs : s.entry? place = some (.file content)) :
    ∃ content, t.entry? place = some (.file content) := by
  obtain ⟨other, ht, hshape⟩ := h.entry hs
  cases other <;> simp [Entry.shape] at hshape
  exact ⟨_, ht⟩

/-- A way leads to the same place, or ends with the same fault. -/
theorem walk_eq (h : SameTree s t) (links : Nat) (follow : Bool) (place : Place)
    (names : List Text) : s.walk links follow place names = t.walk links follow place names := by
  fun_induction walk s links follow place names with
  | case1 => rw [walk]
  | case2 _ _ _ ih => rw [walk, if_pos rfl, ih]
  | case3 _ _ _ hdot ih => rw [walk, if_neg hdot, if_pos rfl, ih]
  | case4 _ _ _ _ hdot hdots hlong => rw [walk, if_neg hdot, if_neg hdots, if_pos hlong]
  | case5 _ _ _ _ hdot hdots hlong hnone hlast =>
    rw [walk, if_neg hdot, if_neg hdots, if_neg hlong, h.missing hnone]
    simp [hlast]
  | case6 _ _ _ _ hdot hdots hlong hnone hmore =>
    rw [walk, if_neg hdot, if_neg hdots, if_neg hlong, h.missing hnone]
    simp [hmore]
  | case7 _ _ _ _ hdot hdots hlong hfound ih =>
    rw [walk, if_neg hdot, if_neg hdots, if_neg hlong, h.dir hfound, ih]
  | case8 _ _ _ _ hdot hdots hlong _ hfound hlast =>
    obtain ⟨content, hfile⟩ := h.file hfound
    rw [walk, if_neg hdot, if_neg hdots, if_neg hlong, hfile]
    simp [hlast]
  | case9 _ _ _ _ hdot hdots hlong _ hfound hmore =>
    obtain ⟨content, hfile⟩ := h.file hfound
    rw [walk, if_neg hdot, if_neg hdots, if_neg hlong, hfile]
    simp [hmore]
  | case10 _ _ _ _ hdot hdots hlong target hfound hlast =>
    rw [walk, if_neg hdot, if_neg hdots, if_neg hlong, h.link hfound]
    simp [hlast]
  | case11 _ _ _ hdot hdots hlong target hfound hmore =>
    rw [walk, if_neg hdot, if_neg hdots, if_neg hlong, h.link hfound]
    simp [hmore]
  | case12 _ _ _ hdot hdots hlong target hfound hmore links ih =>
    rw [walk, if_neg hdot, if_neg hdots, if_neg hlong, h.link hfound]
    simpa [hmore] using ih

theorem locate_eq (h : SameTree s t) (place : Place) :
    s.locate place.toPath = t.locate place.toPath := by
  unfold locate locateBy
  split
  · rfl
  · exact h.walk_eq 40 true [] place

/-- The fault if there is one, and otherwise the entry but for its content. -/
theorem find_eq (h : SameTree s t) (place : Place) :
    (s.find place.toPath).map Entry.shape = (t.find place.toPath).map Entry.shape := by
  unfold find
  rw [h.locate_eq]
  cases t.locate place.toPath with
  | error fault => rfl
  | ok goal =>
    have hgoal := h goal
    simp only [bind, Except.bind]
    cases hs : s.entry? goal <;> cases ht : t.entry? goal <;> rw [hs, ht] at hgoal
    · cases hgoal
    · cases hgoal
    · exact congrArg Except.ok (Option.some.inj hgoal)

theorem find_error (h : SameTree s t) {fault : Fault} (hs : s.find place.toPath = .error fault) :
    t.find place.toPath = .error fault := by
  have hfind := h.find_eq place
  rw [hs] at hfind
  cases ht : t.find place.toPath <;> rw [ht] at hfind
  · exact congrArg Except.error (Except.error.inj hfind).symm
  · cases hfind

/-- Where no link is on the way, two stores show what they hold at the place itself. -/
theorem find_eq_of_entry (h : SameTree s t) (hreal : s.IsReal place)
    (hentry : s.entry? place = t.entry? place) : s.find place.toPath = t.find place.toPath := by
  unfold find
  rw [← h.locate_eq]
  cases hgoal : s.locate place.toPath with
  | error fault => rfl
  | ok goal =>
    obtain rfl := hreal.eq_of_locate hgoal
    simp only [bind, Except.bind, hentry]

end SameTree

end Store

end DepView
