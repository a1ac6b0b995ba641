import DepView.Proofs.SiblingFiles

/-!
What a run leaves in a store without links. It makes directories and writes files, each at one of
some paths, and takes nothing away: a directory stays one, and so does a file. So every path leads
where it led before, and only the files at these paths read differently.
-/

namespace DepView

/-- A path is another one, or leads to a directory on its way. -/
def Path.OnWayTo (q p : Path) : Prop :=
  q.root = p.root ∧ q.parts <+: p.parts

theorem Path.onWayTo_self (p : Path) : p.OnWayTo p :=
  ⟨rfl, List.prefix_rfl⟩

theorem Path.OnWayTo.of_parent {q p : Path} (h : q.OnWayTo p.parent) : q.OnWayTo p :=
  ⟨h.1, h.2.trans (List.dropLast_prefix p.parts)⟩

namespace Store

/-- There is no link in a store. -/
def Unlinked (s : Store) : Prop :=
  ∀ place target, s.entry? place ≠ some (.link target)

/-- The places that are told of. -/
def places (s : Store) : List Place :=
  s.entries.map (·.1)

theorem Unlinked.beside {s : Store} (hs : s.Unlinked) (p : Path) : s.UnlinkedBeside p :=
  fun _ _ _ target => hs _ target

/-- In a store without links, it makes no difference whether the last link is followed. -/
theorem Unlinked.walk_eq {s : Store} (hs : s.Unlinked) (links : Nat) (follow : Bool) (start : Place)
    (names : List Text) :
    s.walk links follow start names = s.walk links true start names := by
  fun_induction walk s links true start names with
  | case1 => rw [walk]
  | case2 _ _ _ ih => rw [walk, if_pos rfl, ih]
  | case3 _ _ _ hdot ih => rw [walk, if_neg hdot, if_pos rfl, ih]
  | case4 _ _ _ _ hdot hdots hlong => rw [walk, if_neg hdot, if_neg hdots, if_pos hlong]
  | case5 _ _ _ _ hdot hdots hlong hnone hlast
  | case6 _ _ _ _ hdot hdots hlong hnone hlast =>
    rw [walk, if_neg hdot, if_neg hdots, if_neg hlong, hnone]
    simp [hlast]
  | case7 _ _ _ _ hdot hdots hlong hfound ih =>
    rw [walk, if_neg hdot, if_neg hdots, if_neg hlong, hfound]
    exact ih
  | case8 _ _ _ _ hdot hdots hlong _ hfile hlast
  | case9 _ _ _ _ hdot hdots hlong _ hfile hlast =>
    rw [walk, if_neg hdot, if_neg hdots, if_neg hlong, hfile]
    simp [hlast]
  | case10 _ _ _ _ _ _ _ target hlink => exact absurd hlink (hs _ target)
  | case11 _ _ _ _ _ _ target hlink => exact absurd hlink (hs _ target)
  | case12 _ _ _ _ _ _ target hlink => exact absurd hlink (hs _ target)

theorem Unlinked.locateBy_eq {s : Store} (hs : s.Unlinked) (follow : Bool) (p : Path) :
    s.locateBy follow p = s.locate p := by
  unfold locate locateBy
  rw [hs.walk_eq 40 follow]

/-- What is no directory is under the last name of the path that leads to it. -/
theorem Unlinked.place_of_locate {s : Store} (hs : s.Unlinked) {p : Path} {place : Place}
    (hlocate : s.locate p = .ok place) (hentry : s.entry? place ≠ some .dir) :
    ∃ directory, place = directory ++ [p.name] ∧ IsName p.name ∧ isTooLong p.name = false := by
  obtain ⟨directory, hlooks, hname, hparts⟩ := looksIn_of_locate hlocate hentry (hs.beside p)
  rw [← Path.sibling_name hparts, hlooks.locate_sibling hname] at hlocate
  refine ⟨directory, ?_⟩
  split at hlocate
  · cases hlocate
  · split at hlocate
    · cases hlocate
    · rename_i hshort
      exact ⟨(Except.ok.inj hlocate).symm, hname, Bool.eq_false_iff.mpr hshort⟩

theorem Unlinked.name_of_locate {s : Store} (hs : s.Unlinked) {p : Path} {directory : Place}
    {name : Text} (hlocate : s.locate p = .ok (directory ++ [name]))
    (hentry : s.entry? (directory ++ [name]) ≠ some .dir) : p.name = name := by
  obtain ⟨_, hplace, _⟩ := hs.place_of_locate hlocate hentry
  exact (List.singleton_inj.mp (List.append_inj_right' hplace rfl)).symm

/-- Paths that lead to the same file have the same name. -/
theorem Unlinked.name_eq {s : Store} (hs : s.Unlinked) {p q : Path} {place : Place}
    (hp : s.locate p = .ok place) (hq : s.locate q = .ok place)
    (hentry : s.entry? place ≠ some .dir) : p.name = q.name := by
  obtain ⟨directory, rfl, _⟩ := hs.place_of_locate hq hentry
  exact hs.name_of_locate hp hentry

/-! Ways into a store that has grown. -/

/-- All directories and files are still there, and no link is new. -/
structure Extends (s t : Store) : Prop where
  current : t.current = s.current
  dir : ∀ place, s.entry? place = some .dir → t.entry? place = some .dir
  file : ∀ place content, s.entry? place = some (.file content) →
    ∃ other, t.entry? place = some (.file other)
  link : ∀ place target, t.entry? place = some (.link target) →
    s.entry? place = some (.link target)

namespace Extends

variable {s t : Store}

theorem trans {u : Store} (hst : Extends s t) (htu : Extends t u) : Extends s u where
  current := htu.current.trans hst.current
  dir place h := htu.dir place (hst.dir place h)
  file place content h := by
    obtain ⟨other, hother⟩ := hst.file place content h
    exact htu.file place other hother
  link place target h := hst.link place target (htu.link place target h)

theorem unlinked (h : Extends s t) (hs : s.Unlinked) : t.Unlinked :=
  fun place target hlink => hs place target (h.link place target hlink)

theorem entry_ne_none (h : Extends s t) (hs : s.Unlinked) {place : Place}
    (hplace : s.entry? place ≠ none) : t.entry? place ≠ none := by
  cases hentry : s.entry? place with
  | none => exact absurd hentry hplace
  | some entry =>
    cases entry with
    | dir => simp [h.dir place hentry]
    | file content =>
      obtain ⟨other, hother⟩ := h.file place content hentry
      simp [hother]
    | link target => exact absurd hentry (hs place target)

/-- A way that leads somewhere still leads there: what is new was at most missing at its end. -/
theorem walk_of_ok (h : Extends s t) (hs : s.Unlinked) {links : Nat} {start reached : Place}
    {names : List Text} (hwalk : s.walk links true start names = .ok reached) :
    t.walk links true start names = .ok reached := by
  fun_induction walk s links true start names with
  | case1 =>
    rw [walk]
    exact hwalk
  | case2 _ _ _ ih => exact walk_dot.trans (ih hwalk)
  | case3 _ _ _ _ ih => exact walk_dots.trans (ih hwalk)
  | case4 | case6 | case9 => cases hwalk
  | case5 links start name names hdot hdots hlong hnone hlast
  | case8 links start name names hdot hdots hlong content hfile hlast =>
    obtain rfl : names = [] := List.isEmpty_iff.mp hlast
    obtain rfl := Except.ok.inj hwalk
    exact walk_last ⟨hdot, hdots⟩ hlong fun target => h.unlinked hs _ target
  | case7 _ _ _ _ hdot hdots hlong hfound ih =>
    exact (walk_dir ⟨hdot, hdots⟩ hlong (h.dir _ hfound)).trans (ih hwalk)
  | case10 _ _ _ _ _ _ _ target hlink => exact absurd hlink (hs _ target)
  | case11 _ _ _ _ _ _ target hlink => exact absurd hlink (hs _ target)
  | case12 _ _ _ _ _ _ target hlink => exact absurd hlink (hs _ target)

theorem locate_of_ok (h : Extends s t) (hs : s.Unlinked) {p : Path} {place : Place}
    (hlocate : s.locate p = .ok place) : t.locate p = .ok place := by
  obtain ⟨htext, hwalk⟩ := locate_eq_ok.mp hlocate
  have hstart : t.startOf p = s.startOf p := by
    unfold startOf
    rw [h.current]
  exact locate_eq_ok.mpr ⟨htext, hstart ▸ h.walk_of_ok hs hwalk⟩

end Extends

/-! What changes. -/

/-- A place at which something new is. It is under a name that stands for itself. -/
structure IsFresh (s t : Store) (place : Place) : Prop where
  before : s.entry? place = none
  after : t.entry? place ≠ none
  named : ∃ directory name, place = directory ++ [name] ∧ IsName name ∧ isTooLong name = false

theorem IsFresh.changed {s t : Store} {place : Place} (h : s.IsFresh t place) :
    t.entry? place ≠ s.entry? place := by
  rw [h.before]
  exact h.after

/-- A directory is made on the way to one of some paths. -/
structure IsMade (s t : Store) (made : List Path) (place : Place) : Prop where
  before : s.entry? place = none
  after : t.entry? place = some .dir
  path : ∃ p ∈ made, ∃ q : Path, q.OnWayTo p ∧ t.locate q = .ok place

/-- A file is written at one of some paths. -/
structure IsWritten (s t : Store) (written : List Path) (place : Place) : Prop where
  before : s.entry? place = none ∨ ∃ content, s.entry? place = some (.file content)
  after : ∃ content, t.entry? place = some (.file content)
  path : ∃ p ∈ written, t.locate p = .ok place

/-- Some directories are made and some files are written, and nothing else changes. -/
structure Changes (s t : Store) (made written : List Path) : Prop where
  current : t.current = s.current
  places : ∃ fresh, t.places = s.places ++ fresh ∧ ∀ place ∈ fresh, s.IsFresh t place
  changed : ∀ place, t.entry? place ≠ s.entry? place →
    s.IsMade t made place ∨ s.IsWritten t written place

namespace Changes

variable {s t u : Store} {made written : List Path}

theorem refl (s : Store) (made written : List Path) : Changes s s made written where
  current := rfl
  places := ⟨[], (List.append_nil _).symm, fun _ h => nomatch h⟩
  changed _ h := absurd rfl h

theorem mono {more others : List Path} (h : Changes s t made written) (hmade : made ⊆ more)
    (hwritten : written ⊆ others) : Changes s t more others where
  current := h.current
  places := h.places
  changed place hplace := by
    refine (h.changed place hplace).imp (fun hm => ?_) (fun hw => ?_)
    · obtain ⟨p, hp, hq⟩ := hm.path
      exact ⟨hm.before, hm.after, p, hmade hp, hq⟩
    · obtain ⟨p, hp, hq⟩ := hw.path
      exact ⟨hw.before, hw.after, p, hwritten hp, hq⟩

theorem grown (h : Changes s t made written) : Extends s t where
  current := h.current
  dir place hdir := by
    by_contra hne
    rcases h.changed place (hdir ▸ hne) with hmade | hwritten
    · cases hmade.before.symm.trans hdir
    · rcases hwritten.before with hnone | ⟨content, hfile⟩
      · cases hnone.symm.trans hdir
      · cases hfile.symm.trans hdir
  file place content hfile := by
    by_cases hsame : t.entry? place = s.entry? place
    · exact ⟨content, hsame.trans hfile⟩
    · rcases h.changed place hsame with hmade | hwritten
      · cases hmade.before.symm.trans hfile
      · exact hwritten.after
  link place target hlink := by
    by_cases hsame : t.entry? place = s.entry? place
    · exact hsame ▸ hlink
    · rcases h.changed place hsame with hmade | hwritten
      · cases hmade.after.symm.trans hlink
      · obtain ⟨content, hfile⟩ := hwritten.after
        cases hfile.symm.trans hlink

theorem trans (hs : s.Unlinked) (hst : Changes s t made written) (htu : Changes t u made written) :
    Changes s u made written where
  current := htu.current.trans hst.current
  places := by
    obtain ⟨first, hfirst, hfresh⟩ := hst.places
    obtain ⟨second, hsecond, hmore⟩ := htu.places
    have ht := hst.grown.unlinked hs
    refine ⟨first ++ second, by rw [hsecond, hfirst, List.append_assoc], fun place hplace => ?_⟩
    rcases List.mem_append.mp hplace with hplace | hplace
    · obtain ⟨hbefore, hafter, hnamed⟩ := hfresh place hplace
      exact ⟨hbefore, htu.grown.entry_ne_none ht hafter, hnamed⟩
    · obtain ⟨hbefore, hafter, hnamed⟩ := hmore place hplace
      refine ⟨?_, hafter, hnamed⟩
      by_contra hne
      exact hst.grown.entry_ne_none hs hne hbefore
  changed place hplace := by
    have ht := hst.grown.unlinked hs
    by_cases hfirst : t.entry? place = s.entry? place
    · rcases htu.changed place (hfirst ▸ hplace) with hm | hw
      · exact Or.inl ⟨hfirst ▸ hm.before, hm.after, hm.path⟩
      · exact Or.inr ⟨hfirst ▸ hw.before, hw.after, hw.path⟩
    · rcases hst.changed place hfirst with hm | hw
      · obtain ⟨p, hp, q, hq, hlocate⟩ := hm.path
        exact Or.inl ⟨hm.before, htu.grown.dir place hm.after, p, hp, q, hq,
          htu.grown.locate_of_ok ht hlocate⟩
      · obtain ⟨content, hcontent⟩ := hw.after
        obtain ⟨p, hp, hlocate⟩ := hw.path
        exact Or.inr ⟨hw.before, htu.grown.file place content hcontent, p, hp,
          htu.grown.locate_of_ok ht hlocate⟩

/-- A file under a name that is not written reads as before. -/
theorem read_of_name (h : Changes s t made written) (hs : s.Unlinked) {p : Path} {bytes : Bytes}
    (hread : s.read p = .ok bytes) (hname : ∀ q ∈ written, q.name ≠ p.name) :
    t.read p = .ok bytes := by
  obtain ⟨place, hlocate, hentry⟩ := read_eq_ok.mp hread
  have hafter := h.grown.locate_of_ok hs hlocate
  refine read_eq_ok.mpr ⟨place, hafter, ?_⟩
  by_contra hne
  rcases h.changed place (hentry ▸ hne) with hm | hw
  · cases hm.before.symm.trans hentry
  · obtain ⟨content, hcontent⟩ := hw.after
    obtain ⟨q, hq, hwhere⟩ := hw.path
    have ht := h.grown.unlinked hs
    exact hname q hq (ht.name_eq hwhere hafter (by simp [hcontent]))

end Changes

/-! A single step. -/

section

variable {s t : Store} {p : Path} {place : Place} {entry : Entry}

theorem mem_places_of_entry (hentry : s.entry? place = some entry) (hdir : entry ≠ .dir) :
    place ∈ s.places := by
  unfold entry? at hentry
  split at hentry
  · exact absurd (Option.some.inj hentry).symm hdir
  · obtain ⟨before, behind, hentries, _⟩ := List.lookup_eq_some_iff.mp hentry
    simp [places, hentries]

theorem notMem_places_of_entry (hentry : s.entry? place = none) : place ∉ s.places := by
  unfold entry? at hentry
  split at hentry
  · cases hentry
  · intro hmem
    obtain ⟨pair, hpair, rfl⟩ := List.mem_map.mp hmem
    simpa using List.lookup_eq_none_iff.mp hentry pair hpair

theorem places_setEntry (s : Store) (place : Place) (entry : Entry) :
    places (s.setEntry place entry) = s.places ++ if place ∈ s.places then [] else [place] := by
  have hset : ∀ entries : List (Place × Entry), (setEntry.set place entry entries).map (·.1) =
      entries.map (·.1) ++ if place ∈ entries.map (·.1) then [] else [place] := by
    intro entries
    induction entries with
    | nil => rfl
    | cons head rest ih =>
      obtain ⟨k, e⟩ := head
      rw [setEntry.set]
      by_cases hk : k = place
      · simp [hk]
      · have hne : place ≠ k := Ne.symm hk
        simp only [if_neg hk, List.map_cons, ih, List.cons_append, List.mem_cons, hne, false_or]
  exact hset s.entries

/-- A place that is written anew is told of at the end. -/
theorem exists_fresh_setEntry (hs : s.Unlinked) (hlocate : s.locate p = .ok place)
    (hbefore : s.entry? place = none ∨ ∃ content, s.entry? place = some (.file content)) :
    ∃ fresh, places (s.setEntry place entry) = s.places ++ fresh ∧
      ∀ other ∈ fresh, s.IsFresh (s.setEntry place entry) other := by
  refine ⟨_, places_setEntry s place entry, fun other hother => ?_⟩
  rcases hbefore with hnone | ⟨content, hfile⟩
  · have hdir : s.entry? place ≠ some .dir := by simp [hnone]
    rw [if_neg (notMem_places_of_entry hnone), List.mem_singleton] at hother
    subst hother
    obtain ⟨directory, hplace, hname, hshort⟩ := hs.place_of_locate hlocate hdir
    refine ⟨hnone, ?_, directory, p.name, hplace, hname, hshort⟩
    rw [holds_setEntry hdir, if_pos rfl]
    exact Option.some_ne_none entry
  · rw [if_pos (mem_places_of_entry hfile (by simp))] at hother
    cases hother

/-- A directory in a free place leaves everything else as it was. -/
theorem extends_setEntry_dir (hnone : s.entry? place = none) :
    Extends s (s.setEntry place .dir) := by
  have hdir : s.entry? place ≠ some .dir := by simp [hnone]
  have hkept : ∀ other held, s.entry? other = some held →
      entry? (s.setEntry place .dir) other = some held := by
    intro other held hother
    have hne : other ≠ place := by
      rintro rfl
      cases hnone.symm.trans hother
    rw [holds_setEntry hdir, if_neg hne]
    exact hother
  refine ⟨rfl, fun other hother => hkept other _ hother, fun other content hother =>
    ⟨content, hkept other _ hother⟩, fun other target hother => ?_⟩
  rw [holds_setEntry hdir] at hother
  split at hother
  · cases hother
  · exact hother

/-- Writing a file changes what is at its path. -/
theorem changes_write (hs : s.Unlinked) {content : Bytes} (h : s.write p content = .ok t) :
    Changes s t [] [p] := by
  obtain ⟨place, hwritable, rfl⟩ := writable_of_write h
  refine ⟨rfl, exists_fresh_setEntry hs hwritable.locate hwritable.entry, fun other hother => ?_⟩
  rw [holds_setEntry hwritable.entry_ne_dir] at hother
  split at hother
  · rename_i heq
    subst heq
    refine Or.inr ⟨hwritable.entry, ⟨content, ?_⟩, p, List.mem_singleton_self p, ?_⟩
    · rw [holds_setEntry hwritable.entry_ne_dir, if_pos rfl]
    · exact (hwritable.locate_setEntry content p _).mpr hwritable.locate
  · exact absurd rfl hother

theorem read_of_write {content : Bytes} (h : s.write p content = .ok t) :
    t.read p = .ok content := by
  obtain ⟨place, hwritable, rfl⟩ := writable_of_write h
  exact hwritable.read_setEntry content hwritable.locate

theorem Changes.write {u : Store} {made written : List Path} (h : Changes s t made written)
    (hs : s.Unlinked) {content : Bytes} (hwrite : t.write p content = .ok u) (hp : p ∈ written) :
    Changes s u made written :=
  h.trans hs ((changes_write (h.grown.unlinked hs) hwrite).mono (List.nil_subset made)
    (List.cons_subset.mpr ⟨hp, List.nil_subset written⟩))

theorem set_of_lookup {entries : List (Place × Entry)}
    (h : List.lookup place entries = some entry) : setEntry.set place entry entries = entries := by
  induction entries with
  | nil => cases h
  | cons head rest ih =>
    obtain ⟨k, e⟩ := head
    rw [lookup_cons_eq] at h
    rw [setEntry.set]
    by_cases hk : k = place
    · rw [if_pos hk.symm] at h
      rw [if_pos hk, hk, Option.some.inj h]
    · rw [if_neg (Ne.symm hk)] at h
      rw [if_neg hk, ih h]

/-- A file that holds what is written stays as it is, and so does everything else. -/
theorem write_of_read {content : Bytes} (h : s.read p = .ok content) :
    s.write p content = .ok s := by
  obtain ⟨place, hlocate, hfile⟩ := read_eq_ok.mp h
  have hlookup : List.lookup place s.entries = some (.file content) := by
    unfold entry? at hfile
    split at hfile
    · cases hfile
    · exact hfile
  have hwritable : s.Writable p place := ⟨hlocate, Or.inr ⟨content, hfile⟩⟩
  rw [hwritable.write_eq content, setEntry, set_of_lookup hlookup]

/-! Making directories. -/

/-- A path leads to a directory. -/
def HoldsDir (s : Store) (p : Path) : Prop :=
  ∃ place, s.locate p = .ok place ∧ s.entry? place = some .dir

theorem isDir_eq_true : s.isDir p = .ok true ↔ s.HoldsDir p := by
  unfold isDir leadsTo HoldsDir
  rw [← find_eq_ok]
  cases s.find p with
  | error fault => cases fault <;> simp
  | ok found => simp

theorem HoldsDir.extends (h : s.HoldsDir p) (hs : s.Unlinked) (hext : Extends s t) :
    t.HoldsDir p := by
  obtain ⟨place, hlocate, hdir⟩ := h
  exact ⟨place, hext.locate_of_ok hs hlocate, hext.dir place hdir⟩

theorem makeDir_eq_ok (hs : s.Unlinked) : s.makeDir p = .ok t ↔
    ∃ place, s.locate p = .ok place ∧ s.entry? place = none ∧ t = s.setEntry place .dir := by
  unfold makeDir
  rw [hs.locateBy_eq false p]
  cases s.locate p with
  | error fault => simp [bind, Except.bind]
  | ok place =>
    cases hentry : s.entry? place with
    | none => simp [hentry, bind, Except.bind, pure, Except.pure, eq_comm]
    | some entry => simp [hentry, bind, Except.bind, throw, throwThe, MonadExceptOf.throw]

theorem changes_makeDir (hs : s.Unlinked) (h : s.makeDir p = .ok t) :
    Changes s t [p] [] ∧ t.HoldsDir p := by
  obtain ⟨place, hlocate, hnone, rfl⟩ := (makeDir_eq_ok hs).mp h
  have hdir : s.entry? place ≠ some .dir := by simp [hnone]
  have hafter := (extends_setEntry_dir hnone).locate_of_ok hs hlocate
  have hmade : entry? (s.setEntry place .dir) place = some .dir := by
    rw [holds_setEntry hdir, if_pos rfl]
  refine ⟨⟨rfl, exists_fresh_setEntry hs hlocate (Or.inl hnone), fun other hother => ?_⟩,
    place, hafter, hmade⟩
  rw [holds_setEntry hdir] at hother
  split at hother
  · rename_i heq
    subst heq
    exact Or.inl ⟨hnone, hmade, p, List.mem_singleton_self p, p, p.onWayTo_self, hafter⟩
  · exact absurd rfl hother

theorem holdsDir_of_orIsDir {fault : Fault} (h : s.orIsDir p fault = .ok ()) : s.HoldsDir p := by
  unfold orIsDir at h
  split at h
  · cases h
  · obtain ⟨isDir, hisDir, h⟩ := bind_eq_ok.mp h
    cases isDir with
    | true => exact isDir_eq_true.mp hisDir
    | false => cases h

theorem Changes.of_parent (h : Changes s t [p.parent] []) : Changes s t [p] [] where
  current := h.current
  places := h.places
  changed place hplace := by
    rcases h.changed place hplace with ⟨hbefore, hafter, q, hq, way, hway, hlocate⟩ | hw
    · obtain rfl := List.mem_singleton.mp hq
      exact Or.inl ⟨hbefore, hafter, p, List.mem_singleton_self p, way, hway.of_parent, hlocate⟩
    · exact Or.inr hw

theorem changes_makeDirs (hs : s.Unlinked) {depth : Nat} {result : Except Fault Unit}
    (h : s.makeDirs p depth = (t, result)) :
    Changes s t [p] [] ∧ (result = .ok () → t.HoldsDir p) := by
  fun_induction makeDirs s p depth generalizing t result with
  | case1 p depth made hmake =>
    obtain ⟨rfl, rfl⟩ := Prod.mk.inj h
    obtain ⟨hchanges, hdir⟩ := changes_makeDir hs hmake
    exact ⟨hchanges, fun _ => hdir⟩
  | case2 | case3 =>
    obtain ⟨rfl, rfl⟩ := Prod.mk.inj h
    exact ⟨.refl s _ [], fun hok => nomatch hok⟩
  | case4 p _ depth _ between fault hparent ih =>
    obtain ⟨rfl, rfl⟩ := Prod.mk.inj h
    exact ⟨(ih hparent).1.of_parent, fun hok => nomatch hok⟩
  | case5 p _ depth _ between hparent made hmake ih =>
    obtain ⟨rfl, rfl⟩ := Prod.mk.inj h
    have hfirst := (ih hparent).1.of_parent
    obtain ⟨hlast, hdir⟩ := changes_makeDir (hfirst.grown.unlinked hs) hmake
    exact ⟨hfirst.trans hs hlast, fun _ => hdir⟩
  | case6 p _ depth _ between hparent fault hmake ih =>
    obtain ⟨rfl, rfl⟩ := Prod.mk.inj h
    exact ⟨(ih hparent).1.of_parent, holdsDir_of_orIsDir⟩
  | case7 =>
    obtain ⟨rfl, rfl⟩ := Prod.mk.inj h
    exact ⟨.refl s _ [], holdsDir_of_orIsDir⟩

/-- Making a directory makes those on its way, and what has been made stays if there is a fault. -/
theorem changes_makeWay (hs : s.Unlinked) {result : Except Fault Unit}
    (h : s.makeWay p = (t, result)) :
    Changes s t [p] [] ∧ (result = .ok () → t.HoldsDir p) :=
  changes_makeDirs hs h

theorem changes_ensureDir (hs : s.Unlinked) (h : s.ensureDir p = .ok t) :
    Changes s t [p] [] ∧ t.HoldsDir p := by
  unfold ensureDir at h
  split at h
  · rename_i made hway
    obtain rfl := Except.ok.inj h
    obtain ⟨hchanges, hdir⟩ := changes_makeWay hs hway
    exact ⟨hchanges, hdir rfl⟩
  · cases h

/-- The directories on the way to one that is there are there. -/
theorem HoldsDir.of_onWayTo (h : s.HoldsDir p) {q : Path} (hway : q.OnWayTo p)
    (hext : Extends s t) (hs : s.Unlinked) (hq : t.locate q = .ok place) :
    s.entry? place = some .dir := by
  obtain ⟨goal, hgoal, hdir⟩ := h
  obtain ⟨rest, hrest⟩ := hway.2
  obtain ⟨htext, hreached⟩ := locate_eq_ok.mp hq
  have hwalk := (locate_eq_ok.mp hgoal).2
  have hstart : s.startOf q = s.startOf p := by
    unfold startOf Path.isAbsolute
    rw [hway.1]
  rw [← hrest, ← hstart] at hwalk
  rcases s.passes_or_blocked 40 (s.startOf q) q.parts with ⟨between, fewer, hpasses⟩ | hblocked
  · have hthere : t.locate q = .ok between :=
      hext.locate_of_ok hs (locate_eq_ok.mpr ⟨htext, hpasses.walk⟩)
    obtain rfl := Except.ok.inj (hthere.symm.trans hq)
    exact hpasses.grounded (s.grounded_startOf q) _ List.prefix_rfl
  · exfalso
    by_cases hnil : rest = []
    · rw [hnil, List.append_nil] at hwalk
      exact hblocked.ends goal hwalk hdir
    · obtain ⟨fault, hfault⟩ := hblocked.behind
      cases (hfault rest hnil).symm.trans hwalk

/-- If a directory was there, none was made on the way to it. -/
theorem Changes.of_holdsDir {written : List Path} (h : Changes s t [p] written)
    (hs : s.Unlinked) (hdir : s.HoldsDir p) : Changes s t [] written where
  current := h.current
  places := h.places
  changed place hplace := by
    refine Or.inr ((h.changed place hplace).resolve_left fun hmade => ?_)
    obtain ⟨_, hp, q, hway, hq⟩ := hmade.path
    obtain rfl := List.mem_singleton.mp hp
    cases hmade.before.symm.trans (hdir.of_onWayTo hway h.grown hs hq)

/-- A directory that is there is not made again. -/
theorem ensureDir_of_holdsDir (hs : s.Unlinked) (h : s.HoldsDir p) : s.ensureDir p = .ok s := by
  obtain ⟨place, hlocate, hdir⟩ := h
  have hmake : s.makeDir p = .error .isThere := by
    unfold makeDir
    rw [hs.locateBy_eq false p, hlocate]
    simp [bind, Except.bind, hdir, throw, throwThe, MonadExceptOf.throw]
  have hkept : s.orIsDir p .isThere = .ok () := by
    unfold orIsDir
    rw [isDir_eq_true.mpr ⟨place, hlocate, hdir⟩]
    rfl
  have hway : s.makeWay p = (s, .ok ()) := by
    unfold makeWay makeDirs
    rw [hmake]
    exact congrArg (Prod.mk s) hkept
  rw [ensureDir, hway]

end

end Store

end DepView
