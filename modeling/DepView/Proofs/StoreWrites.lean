import DepView.Proofs.ActionSteps

/-!
Writing files. A path can be written if it leads to a file, or to a name that is free in a
directory that is there. Writing it changes what this place holds and nothing else: every path
leads where it led before, and every other place holds what it held.
-/

namespace DepView.Store

/-- Two stores with the same directories and the same links. -/
structure SameWays (s t : Store) : Prop where
  current : s.current = t.current
  dir : ∀ place, s.entry? place = some .dir ↔ t.entry? place = some .dir
  link : ∀ place target,
    s.entry? place = some (.link target) ↔ t.entry? place = some (.link target)

namespace SameWays

variable {s t : Store}

theorem refl (s : Store) : SameWays s s :=
  ⟨rfl, fun _ => Iff.rfl, fun _ _ => Iff.rfl⟩

theorem symm (h : SameWays s t) : SameWays t s where
  current := h.current.symm
  dir place := (h.dir place).symm
  link place target := (h.link place target).symm

theorem trans {u : Store} (hst : SameWays s t) (htu : SameWays t u) : SameWays s u where
  current := hst.current.trans htu.current
  dir place := (hst.dir place).trans (htu.dir place)
  link place target := (hst.link place target).trans (htu.link place target)

/-- Stores that differ at one place only, and are without a directory or a link there. -/
theorem of_place {place : Place} (hcurrent : s.current = t.current)
    (hs : s.entry? place = none ∨ ∃ content, s.entry? place = some (.file content))
    (ht : t.entry? place = none ∨ ∃ content, t.entry? place = some (.file content))
    (hother : ∀ other, other ≠ place → s.entry? other = t.entry? other) : SameWays s t := by
  refine ⟨hcurrent, fun other => ?_, fun other target => ?_⟩
  all_goals
    by_cases h : other = place
    · subst h
      rcases hs with hs | ⟨_, hs⟩ <;> rcases ht with ht | ⟨_, ht⟩ <;> simp [hs, ht]
    · rw [hother other h]

/-- What is a file or missing in one store is so in the other. -/
theorem plain (h : SameWays s t) {place : Place}
    (hs : s.entry? place = none ∨ ∃ content, s.entry? place = some (.file content)) :
    t.entry? place = none ∨ ∃ content, t.entry? place = some (.file content) := by
  cases ht : t.entry? place with
  | none => exact Or.inl rfl
  | some entry =>
    cases entry with
    | file content => exact Or.inr ⟨content, rfl⟩
    | dir =>
      rw [(h.dir place).mpr ht] at hs
      simp at hs
    | link target =>
      rw [(h.link place target).mpr ht] at hs
      simp at hs

/-- A way that leads somewhere leads to the same place: a file is neither entered nor followed,
and the same is true of a name that is free. -/
theorem walk_of_ok (h : SameWays s t) {links : Nat} {follow : Bool} {start reached : Place}
    {names : List Text} (hwalk : s.walk links follow start names = .ok reached) :
    t.walk links follow start names = .ok reached := by
  fun_induction walk s links follow start names with
  | case1 =>
    rw [walk]
    exact hwalk
  | case2 _ _ _ ih =>
    rw [walk, if_pos rfl]
    exact ih hwalk
  | case3 _ _ _ hdot ih =>
    rw [walk, if_neg hdot, if_pos rfl]
    exact ih hwalk
  | case4 => cases hwalk
  | case5 _ start name _ hdot hdots hlong hnone hlast =>
    rw [walk, if_neg hdot, if_neg hdots, if_neg hlong]
    rcases h.plain (Or.inl hnone) with ht | ⟨content, ht⟩ <;> simpa [ht, hlast] using hwalk
  | case6 => cases hwalk
  | case7 _ start name _ hdot hdots hlong hfound ih =>
    rw [walk, if_neg hdot, if_neg hdots, if_neg hlong, (h.dir _).mp hfound]
    exact ih hwalk
  | case8 _ start name _ hdot hdots hlong held hfile hlast =>
    rw [walk, if_neg hdot, if_neg hdots, if_neg hlong]
    rcases h.plain (Or.inr ⟨held, hfile⟩) with ht | ⟨content, ht⟩ <;>
      simpa [ht, hlast] using hwalk
  | case9 => cases hwalk
  | case10 _ start name _ hdot hdots hlong target hfound hlast =>
    rw [walk, if_neg hdot, if_neg hdots, if_neg hlong, (h.link _ _).mp hfound]
    simpa [hlast] using hwalk
  | case11 => cases hwalk
  | case12 start name _ hdot hdots hlong target hfound hmore links ih =>
    rw [walk, if_neg hdot, if_neg hdots, if_neg hlong, (h.link _ _).mp hfound]
    simpa [hmore] using ih hwalk

theorem walk_iff (h : SameWays s t) (links : Nat) (follow : Bool) (start : Place)
    (names : List Text) (reached : Place) :
    s.walk links follow start names = .ok reached ↔ t.walk links follow start names = .ok reached :=
  ⟨h.walk_of_ok, h.symm.walk_of_ok⟩

theorem startOf_eq (h : SameWays s t) (p : Path) : s.startOf p = t.startOf p := by
  unfold startOf
  rw [h.current]

end SameWays

/-- A path leads to a place that a file can be written to. -/
structure Writable (s : Store) (p : Path) (place : Place) : Prop where
  locate : s.locate p = .ok place
  entry : s.entry? place = none ∨ ∃ content, s.entry? place = some (.file content)

theorem lookup_cons_eq (place other : Place) (entry : Entry) (rest : List (Place × Entry)) :
    List.lookup other ((place, entry) :: rest) =
      if other = place then some entry else List.lookup other rest := by
  by_cases h : other = place
  · simp [h]
  · have hbeq : (other == place) = false := beq_false_of_ne h
    rw [List.lookup_cons, hbeq, if_neg h]

theorem lookup_set (entries : List (Place × Entry)) (place : Place) (entry : Entry)
    (other : Place) : List.lookup other (setEntry.set place entry entries) =
      if other = place then some entry else List.lookup other entries := by
  induction entries with
  | nil => exact lookup_cons_eq place other entry []
  | cons head rest ih =>
    obtain ⟨k, e⟩ := head
    rw [setEntry.set]
    by_cases hk : k = place
    · rw [if_pos hk, hk, lookup_cons_eq, lookup_cons_eq]
      by_cases h : other = place <;> simp [h]
    · rw [if_neg hk, lookup_cons_eq, lookup_cons_eq, ih]
      by_cases h : other = k
      · simp [h, hk]
      · simp [h]

section

variable {s : Store} {place : Place} {content : Bytes}

/-- A place that a file can be written to is no directory, nor a link. -/
theorem holds_setEntry (hplace : s.entry? place ≠ some .dir) (entry : Entry) (other : Place) :
    entry? (s.setEntry place entry) other =
      if other = place then some entry else s.entry? other := by
  have hcurrent : place.isPrefixOf s.current = false := by
    rw [Bool.eq_false_iff]
    intro h
    exact hplace (by rw [ entry?, if_pos h])
  unfold entry? setEntry
  rw [lookup_set]
  by_cases h : other = place
  · simp [h, hcurrent]
  · simp [h]

/-- Writing a file changes no way. -/
theorem sameWays_setEntry
    (hplace : s.entry? place = none ∨ ∃ content, s.entry? place = some (.file content)) :
    SameWays (s.setEntry place (.file content)) s := by
  have hentry : ∀ other, entry? (s.setEntry place (.file content)) other =
      if other = place then some (.file content) else s.entry? other :=
    holds_setEntry (by rcases hplace with h | ⟨_, h⟩ <;> simp [h]) (.file content)
  refine .of_place rfl (Or.inr ⟨content, ?_⟩) hplace fun other hother => ?_
  · rw [hentry, if_pos rfl]
  · rw [hentry, if_neg hother]

end

section

variable {s made : Store} {p q : Path} {place other : Place} {content bytes : Bytes}

theorem locate_eq_ok {s : Store} {p : Path} {place : Place} : s.locate p = .ok place ↔
    textFault? p.toText = none ∧ s.walk 40 true (s.startOf p) p.parts = .ok place := by
  unfold locate locateBy
  split <;> rename_i h <;> simp [h]

theorem find_eq_ok {entry : Entry} : s.find p = .ok entry ↔
    ∃ place, s.locate p = .ok place ∧ s.entry? place = some entry := by
  unfold find
  cases s.locate p with
  | error fault => simp [bind, Except.bind]
  | ok place =>
    cases hentry : s.entry? place with
    | none => simp [hentry, bind, Except.bind, throw, throwThe, MonadExceptOf.throw]
    | some found => simp [hentry, bind, Except.bind, pure, Except.pure]

theorem leadsTo_of_find {entry : Entry} (h : s.find p = .ok entry) (kind : Entry → Bool) :
    s.leadsTo p kind = .ok (kind entry) := by
  rw [leadsTo, h]

/-- A path that leads nowhere leads to no entry of any kind, unless a name is too long. -/
theorem leadsTo_of_error {fault : Fault} (h : s.find p = .error fault) (kind : Entry → Bool) :
    s.leadsTo p kind = if fault = .nameTooLong then .error .nameTooLong else .ok false := by
  rw [leadsTo, h]
  cases fault <;> rfl

/-- A path leads to the content of the file at its place. -/
theorem read_eq_ok : s.read p = .ok bytes ↔
    ∃ place, s.locate p = .ok place ∧ s.entry? place = some (.file bytes) := by
  unfold read find
  cases s.locate p with
  | error fault => simp [bind, Except.bind]
  | ok place =>
    simp only [bind, Except.bind, Except.ok.injEq, exists_eq_left']
    cases s.entry? place with
    | none => simp [throw, throwThe, MonadExceptOf.throw]
    | some entry => cases entry <;> simp [throw, throwThe, MonadExceptOf.throw, pure, Except.pure]

namespace Writable

theorem of_sameWays (hs : s.Writable p place) (h : SameWays s made) : made.Writable p place where
  locate := by
    obtain ⟨htext, hwalk⟩ := locate_eq_ok.mp hs.locate
    exact locate_eq_ok.mpr ⟨htext, h.startOf_eq p ▸ h.walk_of_ok hwalk⟩
  entry := h.plain hs.entry

theorem write_eq (h : s.Writable p place) (content : Bytes) :
    s.write p content = .ok (s.setEntry place (.file content)) := by
  unfold write
  rw [h.locate]
  rcases h.entry with hnone | ⟨_, hfile⟩
  · simp only [bind, Except.bind, hnone]
    rfl
  · simp only [bind, Except.bind, hfile]
    rfl

theorem entry_ne_dir (h : s.Writable p place) : s.entry? place ≠ some .dir := by
  rcases h.entry with hnone | ⟨_, hfile⟩ <;> simp [*]

/-- Paths lead where they led before. -/
theorem locate_setEntry (h : s.Writable p place) (content : Bytes) (q : Path) (other : Place) :
    (s.setEntry place (.file content)).locate q = .ok other ↔ s.locate q = .ok other := by
  rw [locate_eq_ok, locate_eq_ok]
  exact and_congr_right fun _ => (sameWays_setEntry h.entry).walk_iff 40 true _ q.parts other

/-- What can be written stays so. -/
theorem setEntry (h : s.Writable p place) (content : Bytes) (hq : s.Writable q other) :
    (s.setEntry place (.file content)).Writable q other where
  locate := (h.locate_setEntry content q other).mpr hq.locate
  entry := by
    rw [holds_setEntry h.entry_ne_dir]
    split
    · exact Or.inr ⟨content, rfl⟩
    · exact hq.entry

/-- A path that leads to the place reads what was written. -/
theorem read_setEntry (h : s.Writable p place) (content : Bytes) (hq : s.locate q = .ok place) :
    (s.setEntry place (.file content)).read q = .ok content := by
  rw [read_eq_ok]
  refine ⟨place, (h.locate_setEntry content q place).mpr hq, ?_⟩
  rw [holds_setEntry h.entry_ne_dir, if_pos rfl]

/-- A path that does not lead to the place reads what it read. -/
theorem read_setEntry_other (h : s.Writable p place) (content : Bytes)
    (hq : s.locate q ≠ .ok place) :
    (s.setEntry place (.file content)).read q = .ok bytes ↔ s.read q = .ok bytes := by
  simp only [read_eq_ok, h.locate_setEntry, holds_setEntry h.entry_ne_dir]
  refine exists_congr fun other => and_congr_right fun hother => ?_
  have hne : other ≠ place := fun heq => hq (heq ▸ hother)
  rw [if_neg hne]

end Writable

end

end DepView.Store
