import DepView.Proofs.OutputPaths
import DepView.Proofs.PathWalks

/-!
The files beside a path. In a directory without links, a name leads to the entry under that name
and to nothing else. What is read there depends on this entry alone, and writing it changes no
other.
-/

namespace DepView

/-- The path in the same directory with another last name. -/
def Path.sibling (p : Path) (name : Text) : Path :=
  { p with parts := p.parts.dropLast ++ [name] }

theorem Path.sibling_name {p : Path} (h : p.parts ≠ []) : p.sibling p.name = p := by
  have hparts : p.parts.dropLast ++ [p.name] = p.parts := by
    rw [name, List.getLast?_eq_some_getLast h]
    exact List.dropLast_append_getLast h
  unfold sibling
  rw [hparts]

theorem Path.sibling_inj {p : Path} {a b : Text} (h : p.sibling a = p.sibling b) : a = b := by
  have hparts := congrArg Path.parts h
  simpa [sibling] using hparts

namespace Store

/-- No link is in the directory that the last name of a path is looked for in. -/
def UnlinkedBeside (s : Store) (p : Path) : Prop :=
  ∀ directory, s.walk 40 true (s.startOf p) p.parts.dropLast = .ok directory →
    ∀ name target, s.entry? (directory ++ [name]) ≠ some (.link target)

theorem unlinkedBeside_of_entries {s : Store}
    (h : ∀ entry ∈ s.entries, ∀ target, entry.2 ≠ .link target) (p : Path) : s.UnlinkedBeside p :=
  fun _ _ _ target hlink => h _ (mem_entries_of_link hlink) target rfl

/-- The last name of a path is looked for in a directory without links. -/
structure LooksIn (s : Store) (p : Path) (directory : Place) : Prop where
  walk : s.walk 40 true (s.startOf p) p.parts.dropLast = .ok directory
  dir : s.entry? directory = some .dir
  unlinked : ∀ name target, s.entry? (directory ++ [name]) ≠ some (.link target)

/-- A path that leads to what is no directory has a name that stands for itself. -/
theorem looksIn_of_locate {s : Store} {p : Path} {place : Place} (hlocate : s.locate p = .ok place)
    (hentry : s.entry? place ≠ some .dir) (hlinks : s.UnlinkedBeside p) :
    ∃ directory, s.LooksIn p directory ∧ IsName p.name ∧ p.parts ≠ [] := by
  have hwalk := (locate_eq_ok.mp hlocate).2
  have hnames : p.parts ≠ [] := by
    intro hnil
    rw [hnil, Store.walk] at hwalk
    obtain rfl := Except.ok.inj hwalk
    exact hentry (s.grounded_startOf p _ List.prefix_rfl)
  have hparts : p.parts.dropLast ++ [p.name] = p.parts :=
    congrArg Path.parts (Path.sibling_name hnames)
  rw [← hparts] at hwalk
  rcases s.passes_or_blocked 40 (s.startOf p) p.parts.dropLast with
    ⟨directory, fewer, hpasses⟩ | hblocked
  · have hground := hpasses.grounded (s.grounded_startOf p)
    rw [hpasses.behind _ (List.cons_ne_nil _ _)] at hwalk
    refine ⟨directory, ⟨hpasses.walk, hground _ List.prefix_rfl, hlinks _ hpasses.walk⟩, ⟨?_, ?_⟩,
      hnames⟩
    · intro hname
      rw [hname, walk_dot, Store.walk] at hwalk
      obtain rfl := Except.ok.inj hwalk
      exact hentry (hground _ List.prefix_rfl)
    · intro hname
      rw [hname, walk_dots, Store.walk] at hwalk
      obtain rfl := Except.ok.inj hwalk
      exact hentry (hground.dropLast _ List.prefix_rfl)
  · obtain ⟨fault, hfault⟩ := hblocked.behind
    rw [hfault _ (List.cons_ne_nil _ _)] at hwalk
    cases hwalk

theorem looksIn_of_read {s : Store} {p : Path} {bytes : Bytes} (h : s.read p = .ok bytes)
    (hlinks : s.UnlinkedBeside p) : ∃ directory, s.LooksIn p directory ∧ IsName p.name := by
  obtain ⟨place, hlocate, hentry⟩ := read_eq_ok.mp h
  obtain ⟨directory, hlooks, hname, _⟩ := looksIn_of_locate hlocate (by simp [hentry]) hlinks
  exact ⟨directory, hlooks, hname⟩

theorem SameWays.unlinkedBeside {s t : Store} (h : SameWays s t) {p : Path}
    (hs : s.UnlinkedBeside p) : t.UnlinkedBeside p := by
  intro directory hwalk name target ht
  rw [← h.startOf_eq p] at hwalk
  exact hs directory (h.symm.walk_of_ok hwalk) name target ((h.link _ target).mpr ht)

theorem SameWays.looksIn {s t : Store} (h : SameWays s t) {p : Path} {directory : Place}
    (hs : s.LooksIn p directory) : t.LooksIn p directory where
  walk := h.startOf_eq p ▸ h.walk_of_ok hs.walk
  dir := (h.dir directory).mp hs.dir
  unlinked name target ht := hs.unlinked name target ((h.link _ target).mpr ht)

namespace LooksIn

variable {s t : Store} {p : Path} {directory place : Place} {name other : Text}
  {content bytes : Bytes}

theorem walk_name (h : s.LooksIn p directory) (hname : IsName name) :
    s.walk 40 true (s.startOf p) (p.parts.dropLast ++ [name]) =
      if isTooLong name then .error .nameTooLong else .ok (directory ++ [name]) := by
  obtain ⟨fewer, hbehind⟩ := walk_behind h.walk h.dir
  rw [hbehind _ (List.cons_ne_nil _ _)]
  split
  · exact walk_tooLong hname ‹_›
  · exact walk_last hname ‹_› (h.unlinked name)

theorem locate_sibling (h : s.LooksIn p directory) (hname : IsName name) :
    s.locate (p.sibling name) =
      match textFault? (p.sibling name).toText with
      | some fault => .error fault
      | none => if isTooLong name then .error .nameTooLong else .ok (directory ++ [name]) := by
  unfold locate locateBy
  cases textFault? (p.sibling name).toText with
  | some fault => rfl
  | none => exact h.walk_name hname

/-- A sibling leads to the entry with its name. -/
theorem place_eq (h : s.LooksIn p directory) (hname : IsName name)
    (hlocate : s.locate (p.sibling name) = .ok place) : place = directory ++ [name] := by
  rw [h.locate_sibling hname] at hlocate
  split at hlocate
  · cases hlocate
  · split at hlocate
    · cases hlocate
    · exact (Except.ok.inj hlocate).symm

theorem locate_eq (hs : s.LooksIn p directory) (ht : t.LooksIn p directory)
    (hname : IsName name) : s.locate (p.sibling name) = t.locate (p.sibling name) := by
  rw [hs.locate_sibling hname, ht.locate_sibling hname]

/-- Siblings with different names are different paths, and lead to different places. -/
theorem apart (h : s.LooksIn p directory) (hname : IsName name) (hother : IsName other)
    (hne : name ≠ other) : p.sibling name ≠ p.sibling other ∧
      ∀ place, s.locate (p.sibling name) = .ok place → s.locate (p.sibling other) ≠ .ok place := by
  refine ⟨fun heq => hne (Path.sibling_inj heq), fun place hplace hsame => hne ?_⟩
  have heq := (h.place_eq hname hplace).symm.trans (h.place_eq hother hsame)
  simpa using heq

/-- What is read from a sibling, or why nothing is, depends on its entry alone. -/
theorem read_eq (hs : s.LooksIn p directory) (ht : t.LooksIn p directory) (hname : IsName name)
    (hentry : s.entry? (directory ++ [name]) = t.entry? (directory ++ [name])) :
    s.read (p.sibling name) = t.read (p.sibling name) := by
  unfold read find
  rw [hs.locate_eq ht hname]
  cases hlocate : t.locate (p.sibling name) with
  | error fault => rfl
  | ok place =>
    obtain rfl := ht.place_eq hname hlocate
    simp only [bind, Except.bind, hentry]

theorem write_eq_ok (h : s.LooksIn p directory) (hname : IsName name) :
    s.write (p.sibling name) content = .ok t ↔
      s.Writable (p.sibling name) (directory ++ [name]) ∧
        t = s.setEntry (directory ++ [name]) (.file content) := by
  constructor
  · intro hwrite
    obtain ⟨place, hwritable, rfl⟩ := writable_of_write hwrite
    obtain rfl := h.place_eq hname hwritable.locate
    exact ⟨hwritable, rfl⟩
  · rintro ⟨hwritable, rfl⟩
    exact hwritable.write_eq content

end LooksIn

end Store

end DepView
