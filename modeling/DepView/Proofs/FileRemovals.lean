import DepView.Proofs.SiblingFiles

/-!
Removing files. A file that is removed is gone, every other place holds what it held, and every path
leads where it led before.
-/

namespace DepView.Store

/-- The store without the entry at a place. -/
def dropEntry (s : Store) (place : Place) : Store :=
  { s with entries := s.entries.filter (·.1 != place) }

/-- Removes the file that a path leads to. -/
def remove (s : Store) (p : Path) : Except Fault Store := do
  let place ← s.locate p
  match s.entry? place with
  | some (.file _) => return s.dropEntry place
  | some _ => throw .isDirectory
  | none => throw .missing

/-- The store after an edit. One that fails changes nothing. -/
def edited (s : Store) : Except Fault Store → Store
  | .ok made => made
  | .error _ => s

theorem lookup_filter_ne (entries : List (Place × Entry)) (place other : Place) :
    List.lookup other (entries.filter (·.1 != place)) =
      if other = place then none else List.lookup other entries := by
  induction entries with
  | nil => simp
  | cons head rest ih =>
    obtain ⟨k, e⟩ := head
    rw [lookup_cons_eq]
    by_cases hk : k = place
    · subst hk
      rw [List.filter_cons_of_neg (by simp), ih]
      by_cases h : other = k <;> simp [h]
    · rw [List.filter_cons_of_pos (by simpa using hk), lookup_cons_eq, ih]
      by_cases h : other = k
      · simp [h, hk]
      · simp [h]

section

variable {s made : Store} {p : Path} {place other : Place} {content : Bytes}

theorem entry?_dropEntry (h : s.entry? place = some (.file content)) (other : Place) :
    entry? (s.dropEntry place) other = if other = place then none else s.entry? other := by
  have hcurrent : place.isPrefixOf s.current = false := by
    rw [Bool.eq_false_iff]
    intro hcurrent
    rw [ entry?, if_pos hcurrent] at h
    cases h
  unfold entry? dropEntry
  rw [lookup_filter_ne]
  by_cases hother : other = place
  · simp [hother, hcurrent]
  · simp [hother]

theorem remove_eq_ok : s.remove p = .ok made ↔ ∃ place content, s.locate p = .ok place ∧
    s.entry? place = some (.file content) ∧ made = s.dropEntry place := by
  unfold remove
  cases s.locate p with
  | error fault => simp [bind, Except.bind]
  | ok place =>
    simp only [bind, Except.bind, Except.ok.injEq, exists_and_left, exists_eq_left']
    cases s.entry? place with
    | none => simp [throw, throwThe, MonadExceptOf.throw]
    | some entry =>
      cases entry <;> simp [throw, throwThe, MonadExceptOf.throw, pure, Except.pure, eq_comm]

theorem exists_remove {bytes : Bytes} (h : s.read p = .ok bytes) :
    ∃ made, s.remove p = .ok made := by
  obtain ⟨place, hlocate, hentry⟩ := read_eq_ok.mp h
  exact ⟨_, remove_eq_ok.mpr ⟨place, bytes, hlocate, hentry, rfl⟩⟩

/-- What is no file is not removed. -/
theorem edited_remove (h : ∀ bytes, s.read p ≠ .ok bytes) : s.edited (s.remove p) = s := by
  cases hremove : s.remove p with
  | error fault => rfl
  | ok made =>
    obtain ⟨place, content, hlocate, hentry, _⟩ := remove_eq_ok.mp hremove
    exact absurd (read_eq_ok.mpr ⟨place, hlocate, hentry⟩) (h content)

theorem sameWays_remove (h : s.remove p = .ok made) : SameWays s made := by
  obtain ⟨place, content, _, hentry, rfl⟩ := remove_eq_ok.mp h
  refine .of_place rfl (Or.inr ⟨content, hentry⟩) (Or.inl ?_) fun other hother => ?_
  · rw [entry?_dropEntry hentry, if_pos rfl]
  · rw [entry?_dropEntry hentry, if_neg hother]

theorem sameWays_edited {result : Except Fault Store}
    (h : ∀ made, result = .ok made → SameWays s made) : SameWays s (s.edited result) := by
  cases result with
  | error fault => exact .refl s
  | ok made => exact h made rfl

theorem sameWays_edited_remove (s : Store) (p : Path) : SameWays s (s.edited (s.remove p)) :=
  sameWays_edited fun _ => sameWays_remove

section

variable {directory : Place} {name : Text}

/-- Writing a sibling changes no other entry. -/
theorem LooksIn.entry?_write (h : s.LooksIn p directory) (hname : IsName name)
    (hother : other ≠ directory ++ [name]) :
    entry? (s.edited (s.write (p.sibling name) content)) other = s.entry? other := by
  cases hwrite : s.write (p.sibling name) content with
  | error fault => rfl
  | ok made =>
    obtain ⟨hwritable, rfl⟩ := (h.write_eq_ok hname).mp hwrite
    exact (holds_setEntry hwritable.entry_ne_dir _ other).trans (if_neg hother)

theorem LooksIn.entry?_remove (h : s.LooksIn p directory) (hname : IsName name)
    (hother : other ≠ directory ++ [name]) :
    entry? (s.edited (s.remove (p.sibling name))) other = s.entry? other := by
  cases hremove : s.remove (p.sibling name) with
  | error fault => rfl
  | ok made =>
    obtain ⟨place, held, hlocate, hentry, rfl⟩ := remove_eq_ok.mp hremove
    obtain rfl := h.place_eq hname hlocate
    exact (entry?_dropEntry hentry other).trans (if_neg hother)

/-- A file that is removed is gone. -/
theorem LooksIn.read_remove (h : s.LooksIn p directory) (hname : IsName name) (bytes : Bytes) :
    (s.edited (s.remove (p.sibling name))).read (p.sibling name) ≠ .ok bytes := by
  intro hread
  cases hremove : s.remove (p.sibling name) with
  | error fault =>
    rw [hremove] at hread
    have hfound : s.read (p.sibling name) = .ok bytes := hread
    obtain ⟨made, hmade⟩ := exists_remove hfound
    rw [hremove] at hmade
    cases hmade
  | ok made =>
    rw [hremove] at hread
    obtain ⟨place, held, hlocate, hentry, rfl⟩ := remove_eq_ok.mp hremove
    have hfound : (s.dropEntry place).read (p.sibling name) = .ok bytes := hread
    obtain ⟨other, hother, hfile⟩ := read_eq_ok.mp hfound
    have hlooks := (sameWays_remove hremove).looksIn h
    obtain rfl := (h.place_eq hname hlocate).trans (hlooks.place_eq hname hother).symm
    have hgone := (entry?_dropEntry hentry place).trans (if_pos rfl)
    rw [hgone] at hfile
    cases hfile

end

end

end DepView.Store
