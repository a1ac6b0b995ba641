import DepView.Proofs.StoreWrites

/-!
Ways through the store. What is behind some names is found from the place that they lead to, with
the links that are left, or there is nothing behind them at all. So who gets to the end of a way
gets to the end of each part that it starts with.
-/

namespace DepView.Store

/-- A name that stands for itself on a way. -/
def IsName (name : Text) : Prop :=
  name ≠ ['.'] ∧ name ≠ ['.', '.']

/-- Where the way that a link says starts. -/
def linkStart (place : Place) (target : Text) : Place :=
  if (Path.ofText target).isAbsolute then [] else place

/-! A step along a way. -/

section

variable {s : Store} {links : Nat} {place : Place} {name : Text} {names : List Text}

theorem walk_dot : s.walk links true place (['.'] :: names) = s.walk links true place names := by
  rw [walk, if_pos rfl]

theorem walk_dots :
    s.walk links true place (['.', '.'] :: names) = s.walk links true place.dropLast names := by
  rw [walk, if_neg (by decide), if_pos rfl]

theorem walk_tooLong (hname : IsName name) (hlong : isTooLong name = true) :
    s.walk links true place (name :: names) = .error .nameTooLong := by
  rw [walk, if_neg hname.1, if_neg hname.2, if_pos hlong]

section

variable (hname : IsName name) (hlong : ¬ isTooLong name = true)
include hname hlong

theorem walk_missing (h : s.entry? (place ++ [name]) = none) (hnames : names ≠ []) :
    s.walk links true place (name :: names) = .error .missing := by
  rw [walk, if_neg hname.1, if_neg hname.2, if_neg hlong, h]
  simp [hnames]

theorem walk_dir (h : s.entry? (place ++ [name]) = some .dir) :
    s.walk links true place (name :: names) = s.walk links true (place ++ [name]) names := by
  rw [walk, if_neg hname.1, if_neg hname.2, if_neg hlong, h]

theorem walk_file {content : Bytes} (h : s.entry? (place ++ [name]) = some (.file content))
    (hnames : names ≠ []) : s.walk links true place (name :: names) = .error .notDirectory := by
  rw [walk, if_neg hname.1, if_neg hname.2, if_neg hlong, h]
  simp [hnames]

theorem walk_linkLoop {target : Text} (h : s.entry? (place ++ [name]) = some (.link target)) :
    s.walk 0 true place (name :: names) = .error .linkLoop := by
  rw [walk, if_neg hname.1, if_neg hname.2, if_neg hlong, h]
  simp

theorem walk_link {target : Text} (h : s.entry? (place ++ [name]) = some (.link target)) :
    s.walk (links + 1) true place (name :: names) =
      s.walk links true (linkStart place target) (Path.stepsOf target ++ names) := by
  rw [walk, if_neg hname.1, if_neg hname.2, if_neg hlong, h]
  simp [linkStart]

/-- The last name of a way may be missing or a file. -/
theorem walk_last (h : ∀ target, s.entry? (place ++ [name]) ≠ some (.link target)) :
    s.walk links true place [name] = .ok (place ++ [name]) := by
  rw [walk, if_neg hname.1, if_neg hname.2, if_neg hlong]
  cases hentry : s.entry? (place ++ [name]) with
  | none => rfl
  | some entry =>
    cases entry with
    | dir => rw [walk]
    | file content => rfl
    | link target => exact absurd hentry (h target)

end

end

/-! What lies on a way. -/

/-- All that lies on the way to a place is a directory, and so is the place. -/
def Grounded (s : Store) (place : Place) : Prop :=
  ∀ before, before <+: place → s.entry? before = some .dir

section

variable {s : Store} {place : Place}

theorem entry?_of_prefix_current (h : place <+: s.current) : s.entry? place = some .dir :=
  if_pos (List.isPrefixOf_iff_prefix.mpr h)

theorem mem_entries_of_link {target : Text}
    (h : s.entry? place = some (.link target)) : (place, .link target) ∈ s.entries := by
  unfold entry? at h
  split at h
  · cases h
  · obtain ⟨before, behind, hentries, _⟩ := List.lookup_eq_some_iff.mp h
    rw [hentries]
    exact List.mem_append_right _ List.mem_cons_self

theorem grounded_nil (s : Store) : s.Grounded [] :=
  fun _ hbefore => entry?_of_prefix_current (hbefore.trans List.nil_prefix)

theorem grounded_startOf (s : Store) (p : Path) : s.Grounded (s.startOf p) := by
  unfold startOf
  split
  · exact grounded_nil s
  · exact fun _ hbefore => entry?_of_prefix_current hbefore

theorem Grounded.dropLast (h : s.Grounded place) : s.Grounded place.dropLast :=
  fun _ hbefore => h _ (hbefore.trans (List.dropLast_prefix place))

theorem Grounded.concat {name : Text} (h : s.Grounded place)
    (hdir : s.entry? (place ++ [name]) = some .dir) : s.Grounded (place ++ [name]) := by
  intro before hbefore
  rcases List.prefix_concat_iff.mp hbefore with rfl | hbefore
  · exact hdir
  · exact h before hbefore

theorem Grounded.linkStart (h : s.Grounded place) (target : Text) :
    s.Grounded (linkStart place target) := by
  unfold Store.linkStart
  split
  · exact grounded_nil s
  · exact h

end

/-- Some names lead to a directory, and with `fewer` links left to what is behind them. -/
structure Passes (s : Store) (links : Nat) (place : Place) (names : List Text) (between : Place)
    (fewer : Nat) : Prop where
  le : fewer ≤ links
  walk : s.walk links true place names = .ok between
  grounded : s.Grounded place → s.Grounded between
  behind : ∀ behind, behind ≠ [] →
    s.walk links true place (names ++ behind) = s.walk fewer true between behind

/-- Some names lead to no directory, and nothing is behind them. -/
structure Blocked (s : Store) (links : Nat) (place : Place) (names : List Text) : Prop where
  ends : ∀ reached, s.walk links true place names = .ok reached → s.entry? reached ≠ some .dir
  behind : ∃ fault, ∀ behind, behind ≠ [] →
    s.walk links true place (names ++ behind) = .error fault

section

variable {s : Store} {links next fewer : Nat} {place start between : Place} {name : Text}
  {names steps : List Text}

theorem Passes.step (hle : next ≤ links) (hground : s.Grounded place → s.Grounded start)
    (hstep : ∀ more, s.walk links true place (name :: (names ++ more)) =
      s.walk next true start (steps ++ more))
    (h : s.Passes next start steps between fewer) :
    s.Passes links place (name :: names) between fewer where
  le := Nat.le_trans h.le hle
  walk := by
    have hwalk := hstep []
    rw [List.append_nil, List.append_nil] at hwalk
    exact hwalk.trans h.walk
  grounded := h.grounded ∘ hground
  behind behind hbehind := (hstep behind).trans (h.behind behind hbehind)

theorem Blocked.step
    (hstep : ∀ more, s.walk links true place (name :: (names ++ more)) =
      s.walk next true start (steps ++ more))
    (h : s.Blocked next start steps) : s.Blocked links place (name :: names) where
  ends reached hreached := by
    have hwalk := hstep []
    rw [List.append_nil, List.append_nil] at hwalk
    exact h.ends reached (hwalk.symm.trans hreached)
  behind := by
    obtain ⟨fault, hfault⟩ := h.behind
    exact ⟨fault, fun behind hbehind => (hstep behind).trans (hfault behind hbehind)⟩

theorem Blocked.of_error {fault : Fault}
    (h : ∀ more, s.walk links true place (name :: (names ++ more)) = .error fault) :
    s.Blocked links place (name :: names) where
  ends reached hreached := by
    have hwalk := h []
    rw [List.append_nil, hreached] at hwalk
    cases hwalk
  behind := ⟨fault, fun behind _ => h behind⟩

theorem Blocked.of_plain {fault : Fault} (hname : IsName name) (hlong : ¬ isTooLong name = true)
    (hlink : ∀ target, s.entry? (place ++ [name]) ≠ some (.link target))
    (hdir : s.entry? (place ++ [name]) ≠ some .dir)
    (h : ∀ more, more ≠ [] → s.walk links true place (name :: more) = .error fault) :
    s.Blocked links place (name :: names) where
  ends reached hreached := by
    by_cases hnames : names = []
    · subst hnames
      rw [walk_last hname hlong hlink] at hreached
      exact Except.ok.inj hreached ▸ hdir
    · rw [h names hnames] at hreached
      cases hreached
  behind := ⟨fault, fun behind hbehind => h _ (by simp [hbehind])⟩

end

/-- Names lead through directories to all that is behind them, or to nothing. -/
theorem passes_or_blocked (s : Store) (links : Nat) (place : Place) (names : List Text) :
    (∃ between fewer, s.Passes links place names between fewer) ∨
      s.Blocked links place names := by
  -- The last two cases of a link that is not followed do not arise.
  fun_induction walk s links true place names with
  | case1 links place =>
    exact Or.inl ⟨place, links, Nat.le_refl links, by rw [walk], id, fun behind _ => rfl⟩
  | case2 links place names ih =>
    refine ih.imp ?_ (Blocked.step fun _ => walk_dot)
    rintro ⟨between, fewer, h⟩
    exact ⟨between, fewer, h.step (Nat.le_refl links) id fun _ => walk_dot⟩
  | case3 links place names _ ih =>
    refine ih.imp ?_ (Blocked.step fun _ => walk_dots)
    rintro ⟨between, fewer, h⟩
    exact ⟨between, fewer, h.step (Nat.le_refl links) Grounded.dropLast fun _ => walk_dots⟩
  | case4 links place name names hdot hdots hlong =>
    exact Or.inr (.of_error fun _ => walk_tooLong ⟨hdot, hdots⟩ hlong)
  | case5 links place name names hdot hdots hlong h
  | case6 links place name names hdot hdots hlong h =>
    exact Or.inr (.of_plain ⟨hdot, hdots⟩ hlong (by simp [h]) (by simp [h])
      fun _ hmore => walk_missing ⟨hdot, hdots⟩ hlong h hmore)
  | case7 links place name names hdot hdots hlong h ih =>
    refine ih.imp ?_ (Blocked.step fun _ => walk_dir ⟨hdot, hdots⟩ hlong h)
    rintro ⟨between, fewer, hpasses⟩
    exact ⟨between, fewer, hpasses.step (Nat.le_refl links) (fun hground => hground.concat h)
      fun _ => walk_dir ⟨hdot, hdots⟩ hlong h⟩
  | case8 links place name names hdot hdots hlong content h
  | case9 links place name names hdot hdots hlong content h =>
    exact Or.inr (.of_plain ⟨hdot, hdots⟩ hlong (by simp [h]) (by simp [h])
      fun _ hmore => walk_file ⟨hdot, hdots⟩ hlong h hmore)
  | case10 _ _ _ _ _ _ _ _ _ h => simp at h
  | case11 place name names hdot hdots hlong target h =>
    exact Or.inr (.of_error fun _ => walk_linkLoop ⟨hdot, hdots⟩ hlong h)
  | case12 place name names hdot hdots hlong target h _ links ih =>
    have hstep : ∀ more, s.walk (links + 1) true place (name :: (names ++ more)) =
        s.walk links true (linkStart place target) (Path.stepsOf target ++ names ++ more) := by
      intro more
      rw [List.append_assoc]
      exact walk_link ⟨hdot, hdots⟩ hlong h
    refine Or.imp ?_ (Blocked.step hstep) ih
    rintro ⟨between, fewer, hpasses⟩
    exact ⟨between, fewer,
      hpasses.step (Nat.le_succ links) (fun hground => hground.linkStart target) hstep⟩

section

variable {s : Store} {links : Nat} {place reached : Place} {name : Text} {names : List Text}

/-- Who gets to the end of a way gets to the end of its first part. -/
theorem walk_prefix {before behind : List Text}
    (h : s.walk links true place (before ++ behind) = .ok reached) :
    ∃ between, s.walk links true place before = .ok between := by
  cases behind with
  | nil =>
    rw [List.append_nil] at h
    exact ⟨reached, h⟩
  | cons next behind =>
    rcases s.passes_or_blocked links place before with ⟨between, fewer, hpasses⟩ | hblocked
    · exact ⟨between, hpasses.walk⟩
    · obtain ⟨fault, hfault⟩ := hblocked.behind
      rw [hfault _ (List.cons_ne_nil next behind)] at h
      cases h

/-- What is behind names that lead to a directory is looked for there. -/
theorem walk_behind {between : Place} (h : s.walk links true place names = .ok between)
    (hdir : s.entry? between = some .dir) : ∃ fewer, ∀ behind, behind ≠ [] →
      s.walk links true place (names ++ behind) = s.walk fewer true between behind := by
  rcases s.passes_or_blocked links place names with ⟨other, fewer, hpasses⟩ | hblocked
  · obtain rfl : other = between := Except.ok.inj (hpasses.walk.symm.trans h)
    exact ⟨fewer, hpasses.behind⟩
  · exact absurd hdir (hblocked.ends between h)

/-- Behind a name that is no link, a way goes on with the names that are left. -/
theorem walk_of_not_link (hname : IsName name)
    (hlink : ∀ target, s.entry? (place ++ [name]) ≠ some (.link target))
    (h : s.walk links true place (name :: names) = .ok reached) :
    s.walk links true (place ++ [name]) names = .ok reached := by
  by_cases hlong : isTooLong name = true
  · rw [walk_tooLong hname hlong] at h
    cases h
  · by_cases hnames : names = []
    · subst hnames
      rw [walk_last hname hlong hlink] at h
      rw [walk]
      exact h
    · cases hentry : s.entry? (place ++ [name]) with
      | none =>
        rw [walk_missing hname hlong hentry hnames] at h
        cases h
      | some entry =>
        cases entry with
        | dir => rwa [walk_dir hname hlong hentry] at h
        | file content =>
          rw [walk_file hname hlong hentry hnames] at h
          cases h
        | link target => exact absurd hentry (hlink target)

/-- A way through a link takes one of the links that are left, and goes on along its target. -/
theorem walk_of_link (hname : IsName name) {target : Text}
    (hlink : s.entry? (place ++ [name]) = some (.link target))
    (h : s.walk links true place (name :: names) = .ok reached) :
    ∃ fewer, links = fewer + 1 ∧
      s.walk fewer true (linkStart place target) (Path.stepsOf target ++ names) = .ok reached := by
  by_cases hlong : isTooLong name = true
  · rw [walk_tooLong hname hlong] at h
    cases h
  · cases links with
    | zero =>
      rw [walk_linkLoop hname hlong hlink] at h
      cases h
    | succ fewer =>
      rw [walk_link hname hlong hlink] at h
      exact ⟨fewer, rfl, h⟩

end

/-! What is at the end of a way. -/

/-- All links are followed, so no way ends at one. -/
theorem Grounded.not_link_of_walk {s : Store} {links : Nat} {place reached : Place}
    {names : List Text} (hground : s.Grounded place)
    (h : s.walk links true place names = .ok reached) (target : Text) :
    s.entry? reached ≠ some (.link target) := by
  fun_induction walk s links true place names with
  | case1 links place =>
    obtain rfl := Except.ok.inj h
    rw [hground place List.prefix_rfl]
    simp
  | case2 _ _ _ ih => exact ih hground h
  | case3 _ _ _ _ ih => exact ih hground.dropLast h
  | case4 | case6 | case9 | case11 => cases h
  | case5 _ _ _ _ _ _ _ hentry _ =>
    obtain rfl := Except.ok.inj h
    simp [hentry]
  | case7 _ _ _ _ _ _ _ hentry ih => exact ih (hground.concat hentry) h
  | case8 _ _ _ _ _ _ _ _ hentry _ =>
    obtain rfl := Except.ok.inj h
    simp [hentry]
  | case10 _ _ _ _ _ _ _ _ _ hlast => simp at hlast
  | case12 _ _ _ _ _ _ other _ _ _ ih => exact ih (hground.linkStart other) h

/-- What was written could be written, and is all that has changed. -/
theorem writable_of_write {s made : Store} {p : Path} {content : Bytes}
    (h : s.write p content = .ok made) :
    ∃ place, s.Writable p place ∧ made = s.setEntry place (.file content) := by
  obtain ⟨place, hlocate, hrest⟩ := bind_eq_ok.mp h
  have hlink := (s.grounded_startOf p).not_link_of_walk (locate_eq_ok.mp hlocate).2
  cases hentry : s.entry? place with
  | none =>
    rw [hentry] at hrest
    exact ⟨place, ⟨hlocate, Or.inl hentry⟩, (Except.ok.inj hrest).symm⟩
  | some entry =>
    rw [hentry] at hrest
    cases entry with
    | dir => cases hrest
    | file held => exact ⟨place, ⟨hlocate, Or.inr ⟨held, hentry⟩⟩, (Except.ok.inj hrest).symm⟩
    | link target => exact absurd hentry (hlink target)

theorem sameWays_write {s made : Store} {p : Path} {content : Bytes}
    (h : s.write p content = .ok made) : SameWays s made := by
  obtain ⟨place, hwritable, rfl⟩ := writable_of_write h
  exact (sameWays_setEntry hwritable.entry).symm

end DepView.Store
