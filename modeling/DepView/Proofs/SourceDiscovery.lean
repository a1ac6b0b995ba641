import DepView.Proofs.StoreChanges
import DepView.Tree.Sources

/-!
Which sources are found. In a store without links, what is said of a name in a directory depends on
the entry under it alone, and on the text of its path. So after a run that has changed no source and
has written nothing under a name of the language, the same sources are found, unless there is a new
name with which the path of the directory gets too long.
-/

namespace DepView

/-! Filters that can fail. -/

section

variable {ε α : Type} {p : α → Except ε Bool} {xs kept : List α}

theorem filterAuxM_of_ok {keep : α → Bool} (h : ∀ x ∈ xs, p x = .ok (keep x)) :
    xs.filterAuxM p kept = .ok ((xs.filter keep).reverse ++ kept) := by
  induction xs generalizing kept with
  | nil => rfl
  | cons x xs ih =>
    rw [List.filterAuxM, h x List.mem_cons_self]
    refine (ih fun y hy => h y (List.mem_cons_of_mem x hy)).trans ?_
    cases hkeep : keep x <;> simp [hkeep]

theorem filterM_of_ok {keep : α → Bool} (h : ∀ x ∈ xs, p x = .ok (keep x)) :
    xs.filterM p = .ok (xs.filter keep) := by
  unfold List.filterM
  rw [filterAuxM_of_ok h]
  simp [bind, Except.bind, pure, Except.pure]

theorem filterAuxM_of_error {e : ε} (h : ∀ x ∈ xs, (∃ keep, p x = .ok keep) ∨ p x = .error e)
    (hfails : ∃ x ∈ xs, p x = .error e) : xs.filterAuxM p kept = .error e := by
  induction xs generalizing kept with
  | nil =>
    obtain ⟨x, hx, _⟩ := hfails
    cases hx
  | cons x xs ih =>
    rw [List.filterAuxM]
    rcases h x List.mem_cons_self with ⟨keep, hkeep⟩ | herror
    · rw [hkeep]
      refine ih (fun y hy => h y (List.mem_cons_of_mem x hy)) ?_
      obtain ⟨y, hy, herror⟩ := hfails
      rcases List.mem_cons.mp hy with rfl | hy
      · cases hkeep.symm.trans herror
      · exact ⟨y, hy, herror⟩
    · rw [herror]
      rfl

theorem filterM_of_error {e : ε} (h : ∀ x ∈ xs, (∃ keep, p x = .ok keep) ∨ p x = .error e)
    (hfails : ∃ x ∈ xs, p x = .error e) : xs.filterM p = .error e := by
  unfold List.filterM
  rw [filterAuxM_of_error h hfails]
  rfl

end

/-- Some texts in their order. -/
def inOrder (texts : List Text) : List Text :=
  texts.mergeSort fun a b => (compare a b).isLE

/-- What is kept of some texts in their order is what is kept of them, in its order. -/
theorem filter_inOrder_append (keep : Text → Bool) (texts : List Text) {more : List Text}
    (h : ∀ text ∈ more, keep text = false) :
    (inOrder (texts ++ more)).filter keep = (inOrder texts).filter keep := by
  have htotal : ∀ a b : Text, ((compare a b).isLE || (compare b a).isLE) = true := by
    intro a b
    have hswap : compare a b = (compare b a).swap := Std.OrientedOrd.eq_swap
    rw [hswap]
    cases compare b a <;> rfl
  have hsorted : ∀ texts : List Text,
      ((inOrder texts).filter keep).Pairwise fun a b => (compare a b).isLE := fun texts =>
    (List.pairwise_mergeSort (fun _ _ _ => Std.TransCmp.isLE_trans) htotal texts).filter keep
  have hmore : more.filter keep = [] := List.filter_eq_nil_iff.mpr (by simpa using h)
  have hperm : ((inOrder (texts ++ more)).filter keep).Perm ((inOrder texts).filter keep) := by
    refine ((List.mergeSort_perm _ _).filter keep).trans ?_
    rw [List.filter_append, hmore, List.append_nil]
    exact ((List.mergeSort_perm _ _).filter keep).symm
  refine hperm.eq_of_pairwise (fun a b _ _ hab hba => ?_) (hsorted _) (hsorted _)
  exact Std.LawfulEqCmp.eq_of_compare (Std.OrientedCmp.isLE_antisymm hab hba)

namespace Store

/-! Names in a directory. -/

/-- The path of a name in a directory. -/
def inside (source : Path) (name : Text) : Path :=
  source / ⟨[], [name]⟩

theorem inside_eq (source : Path) (name : Text) :
    inside source name = ⟨source.root, source.parts ++ [name]⟩ :=
  rfl

theorem name_inside (source : Path) (name : Text) : (inside source name).name = name := by
  simp [inside_eq, Path.name]

theorem sibling_inside (source : Path) (name other : Text) :
    (inside source name).sibling other = inside source other := by
  simp [inside_eq, Path.sibling]

/-- The name of a place in a directory. -/
def nameIn? (directory place : Place) : Option Text :=
  if place.length = directory.length + 1 && directory.isPrefixOf place then place.getLast? else none

theorem nameIn?_eq_some {directory place : Place} {name : Text} :
    nameIn? directory place = some name ↔ place = directory ++ [name] := by
  constructor
  · intro h
    unfold nameIn? at h
    split at h
    · rename_i hin
      obtain ⟨hlength, hprefix⟩ := (Bool.and_eq_true _ _).mp hin
      obtain ⟨rest, rfl⟩ := List.isPrefixOf_iff_prefix.mp hprefix
      have hrest : rest.length = 1 := by simpa using hlength
      obtain ⟨last, rfl⟩ := List.length_eq_one_iff.mp hrest
      have hlast : last = name := by simpa using h
      rw [hlast]
    · cases h
  · rintro rfl
    simp [nameIn?]

theorem namesIn_eq (s : Store) (directory : Place) :
    s.namesIn directory = s.places.filterMap (nameIn? directory) := by
  unfold namesIn places
  rw [List.filterMap_map]
  rfl

theorem mem_namesIn {s : Store} {directory : Place} {name : Text} :
    name ∈ s.namesIn directory ↔ directory ++ [name] ∈ s.places := by
  rw [namesIn_eq, List.mem_filterMap]
  simp [nameIn?_eq_some]

theorem nodup_namesIn {s : Store} (h : s.places.Nodup) (directory : Place) :
    (s.namesIn directory).Nodup := by
  rw [namesIn_eq]
  refine List.pairwise_filterMap.mpr (h.imp fun hne name hplace other hother heq => hne ?_)
  rw [nameIn?_eq_some.mp hplace, nameIn?_eq_some.mp hother, heq]

section

variable {s t : Store} {source : Path} {directory : Place} {name : Text}

theorem looksIn_inside (hs : s.Unlinked) (hlocate : s.locate source = .ok directory)
    (hdir : s.entry? directory = some .dir) (name : Text) :
    s.LooksIn (inside source name) directory where
  walk := by
    have hparts : (inside source name).parts.dropLast = source.parts := by simp [inside_eq]
    rw [hparts]
    exact (locate_eq_ok.mp hlocate).2
  dir := hdir
  unlinked _ target := hs _ target

/-- What is said of a name in a directory. -/
theorem isFile_inside (h : s.LooksIn (inside source name) directory) (hname : IsName name) :
    s.isFile (inside source name) =
      match textFault? (inside source name).toText with
      | some .nameTooLong => .error .nameTooLong
      | some _ => .ok false
      | none =>
        if isTooLong name then .error .nameTooLong
        else .ok ((s.entry? (directory ++ [name])).any Entry.isFile) := by
  have hlocate := h.locate_sibling hname
  rw [sibling_inside] at hlocate
  unfold isFile leadsTo find
  rw [hlocate]
  cases textFault? (inside source name).toText with
  | some fault => cases fault <;> rfl
  | none =>
    by_cases hlong : isTooLong name = true
    · simp [hlong, bind, Except.bind]
    · cases hentry : s.entry? (directory ++ [name]) with
      | none => simp [hlong, bind, Except.bind, hentry, throw, throwThe, MonadExceptOf.throw]
      | some entry => simp [hlong, bind, Except.bind, hentry, pure, Except.pure]

theorem isFile_inside_dots (h : s.LooksIn (inside source name) directory) (hname : ¬ IsName name) :
    s.isFile (inside source name) =
      match textFault? (inside source name).toText with
      | some .nameTooLong => .error .nameTooLong
      | _ => .ok false := by
  have hwalk : s.walk 40 true (s.startOf (inside source name)) source.parts = .ok directory := by
    simpa [inside_eq] using h.walk
  have hreached : ∃ place, s.walk 40 true (s.startOf (inside source name))
      (inside source name).parts = .ok place ∧ s.entry? place = some .dir := by
    rcases s.passes_or_blocked 40 (s.startOf (inside source name)) source.parts with
      ⟨between, fewer, hpasses⟩ | hblocked
    · obtain rfl := Except.ok.inj (hpasses.walk.symm.trans hwalk)
      have hground := hpasses.grounded (s.grounded_startOf _)
      have hparts : (inside source name).parts = source.parts ++ [name] := rfl
      rw [hparts, hpasses.behind _ (List.cons_ne_nil _ _)]
      by_cases hdot : name = ['.']
      · rw [hdot, walk_dot, walk]
        exact ⟨between, rfl, h.dir⟩
      · have hdots : name = ['.', '.'] := by
          by_contra hdots
          exact hname ⟨hdot, hdots⟩
        rw [hdots, walk_dots, walk]
        exact ⟨between.dropLast, rfl, hground.dropLast _ List.prefix_rfl⟩
    · exact absurd h.dir (hblocked.ends directory hwalk)
  obtain ⟨place, hplace, hdir⟩ := hreached
  cases htext : textFault? (inside source name).toText with
  | some fault =>
    unfold isFile leadsTo find locate locateBy
    rw [htext]
    cases fault <;> rfl
  | none =>
    have hfind := find_eq_ok.mpr ⟨place, locate_eq_ok.mpr ⟨htext, hplace⟩, hdir⟩
    unfold isFile leadsTo
    rw [hfind]
    rfl

/-- What is said of a name depends on the entry under it alone. -/
theorem isFile_inside_congr (hs : s.LooksIn (inside source name) directory)
    (ht : t.LooksIn (inside source name) directory)
    (h : (s.entry? (directory ++ [name])).any Entry.isFile =
      (t.entry? (directory ++ [name])).any Entry.isFile) :
    s.isFile (inside source name) = t.isFile (inside source name) := by
  by_cases hname : IsName name
  · rw [isFile_inside hs hname, isFile_inside ht hname, h]
  · rw [isFile_inside_dots hs hname, isFile_inside_dots ht hname]

theorem isFile_eq_true {p : Path} : s.isFile p = .ok true ↔ ∃ bytes, s.read p = .ok bytes := by
  unfold isFile leadsTo
  constructor
  · intro h
    cases hfind : s.find p with
    | error fault =>
      rw [hfind] at h
      cases fault <;> cases h
    | ok entry =>
      rw [hfind] at h
      cases entry with
      | file bytes => exact ⟨bytes, read_eq_ok.mpr (find_eq_ok.mp hfind)⟩
      | _ => cases h
  · rintro ⟨bytes, hread⟩
    rw [find_eq_ok.mpr (read_eq_ok.mp hread)]
    rfl

theorem HoldsDir.isFile_eq {p : Path} (h : s.HoldsDir p) : s.isFile p = .ok false :=
  leadsTo_of_find (find_eq_ok.mpr h) Entry.isFile

theorem isFile_cases (s : Store) (p : Path) :
    (∃ b, s.isFile p = .ok b) ∨ s.isFile p = .error .nameTooLong := by
  unfold isFile leadsTo
  cases s.find p with
  | ok entry => exact Or.inl ⟨_, rfl⟩
  | error fault => cases fault <;> simp

/-- The path of a directory has room for the names in it. -/
def NamesFit (s : Store) (source : Path) : Prop :=
  ∀ directory, s.locate source = .ok directory → ∀ name ∈ s.namesIn directory,
    textFault? (inside source name).toText ≠ some .nameTooLong

theorem exists_isFile (h : s.LooksIn (inside source name) directory) (hname : IsName name)
    (hshort : isTooLong name = false)
    (htext : textFault? (inside source name).toText ≠ some .nameTooLong) :
    ∃ b, s.isFile (inside source name) = .ok b := by
  rw [isFile_inside h hname, hshort]
  split
  · exact absurd ‹_› htext
  · exact ⟨false, rfl⟩
  · exact ⟨_, rfl⟩

theorem isFile_tooLong (h : s.LooksIn (inside source name) directory)
    (htext : textFault? (inside source name).toText = some .nameTooLong) :
    s.isFile (inside source name) = .error .nameTooLong := by
  by_cases hname : IsName name
  · rw [isFile_inside h hname, htext]
  · rw [isFile_inside_dots h hname, htext]

end

end Store

namespace Sources

open Store

/-- A path has a suffix of a language. -/
def isNamedFor (language : Text) (path : Path) : Bool :=
  (suffixesFor language).contains (lower path.suffix)

/-- A path is that of a source. -/
def isSource (s : Store) (language : Text) (path : Path) : Bool :=
  decide (s.isFile path = .ok true) && isNamedFor language path

section

variable {s t : Store} {source : Path} {language : Text} {directory : Place}
  {sources : List Path} {made written : List Path}

theorem mem_inOrder {texts : List Text} {text : Text} : text ∈ inOrder texts ↔ text ∈ texts :=
  List.mem_mergeSort

theorem sourcesIn_of_ok (hlocate : s.locate source = .ok directory)
    (h : ∀ name ∈ s.namesIn directory, ∃ b, s.isFile (inside source name) = .ok b) :
    sourcesIn s source language =
      .ok (((inOrder (s.namesIn directory)).map (inside source)).filter (isSource s language)) := by
  unfold sourcesIn
  rw [hlocate]
  refine filterM_of_ok fun path hpath => ?_
  obtain ⟨name, hname, rfl⟩ := List.mem_map.mp hpath
  obtain ⟨b, hb⟩ := h name (mem_inOrder.mp hname)
  have hfile : s.isFile (source / ⟨[], [name]⟩) = .ok b := hb
  rw [hfile, isSource, hfile]
  cases b <;> rfl

theorem sourcesIn_of_error (hlocate : s.locate source = .ok directory)
    (h : ∃ name ∈ s.namesIn directory, s.isFile (inside source name) = .error .nameTooLong) :
    sourcesIn s source language = .error .nameTooLong := by
  unfold sourcesIn
  rw [hlocate]
  refine filterM_of_error (fun path _ => ?_) ?_
  · rcases s.isFile_cases path with ⟨b, hb⟩ | herror
    · rw [hb]
      exact Or.inl ⟨_, rfl⟩
    · rw [herror]
      exact Or.inr rfl
  · obtain ⟨name, hname, herror⟩ := h
    refine ⟨inside source name, List.mem_map.mpr ⟨name, mem_inOrder.mpr hname, rfl⟩, ?_⟩
    rw [herror]
    rfl

theorem sourcesIn_eq_ok (hlocate : s.locate source = .ok directory) :
    sourcesIn s source language = .ok sources ↔
      (∀ name ∈ s.namesIn directory, ∃ b, s.isFile (inside source name) = .ok b) ∧
      sources = ((inOrder (s.namesIn directory)).map (inside source)).filter
        (isSource s language) := by
  constructor
  · intro h
    have hok : ∀ name ∈ s.namesIn directory, ∃ b, s.isFile (inside source name) = .ok b := by
      intro name hname
      rcases s.isFile_cases (inside source name) with hb | herror
      · exact hb
      · cases (sourcesIn_of_error hlocate ⟨name, hname, herror⟩).symm.trans h
    rw [sourcesIn_of_ok hlocate hok] at h
    exact ⟨hok, (Except.ok.inj h).symm⟩
  · rintro ⟨hok, rfl⟩
    exact sourcesIn_of_ok hlocate hok

theorem discover_of_file (h : s.isFile source = .ok true) :
    discover s source language = .ok [source] := by
  unfold discover
  rw [h]
  rfl

theorem discover_of_dir (h : s.HoldsDir source) :
    discover s source language = (sourcesIn s source language).mapError .file := by
  unfold discover
  rw [h.isFile_eq, isDir_eq_true.mpr h]
  rfl

theorem discover_ne_ok (hfile : s.isFile source ≠ .ok true) (hdir : ¬ s.HoldsDir source)
    (sources : List Path) : discover s source language ≠ .ok sources := by
  have hnone : s.isDir source ≠ .ok true := fun h => hdir (isDir_eq_true.mp h)
  unfold discover
  rcases s.isFile_cases source with ⟨b, hb⟩ | herror
  · cases b with
    | true => exact absurd hb hfile
    | false =>
      rw [hb]
      cases hisDir : s.isDir source with
      | error fault => exact fun h => nomatch h
      | ok c =>
        cases c with
        | true => exact absurd hisDir hnone
        | false => exact fun h => nomatch h
  · rw [herror]
    exact fun h => nomatch h

/-- Sources are found if there is a file, or a directory with no name that is too long. -/
theorem discover_eq_ok : discover s source language = .ok sources ↔
    s.isFile source = .ok true ∧ sources = [source] ∨
      s.HoldsDir source ∧ sourcesIn s source language = .ok sources := by
  constructor
  · intro h
    by_cases hfile : s.isFile source = .ok true
    · rw [discover_of_file hfile] at h
      exact Or.inl ⟨hfile, (Except.ok.inj h).symm⟩
    · by_cases hdir : s.HoldsDir source
      · rw [discover_of_dir hdir] at h
        cases hin : sourcesIn s source language with
        | error fault =>
          rw [hin] at h
          cases h
        | ok found =>
          rw [hin] at h
          obtain rfl := Except.ok.inj h
          exact Or.inr ⟨hdir, rfl⟩
      · exact absurd h (discover_ne_ok hfile hdir sources)
  · rintro (⟨hfile, rfl⟩ | ⟨hdir, hin⟩)
    · exact discover_of_file hfile
    · rw [discover_of_dir hdir, hin]
      rfl

/-! What is said of the names after a run. -/

theorem entry_ne_none_of_mem_namesIn {name : Text} (h : name ∈ s.namesIn directory) :
    s.entry? (directory ++ [name]) ≠ none :=
  fun hnone => notMem_places_of_entry hnone (mem_namesIn.mp h)

/-- What was there is still of its kind. -/
theorem isFile_inside_old (hs : s.Unlinked) (h : Changes s t made written)
    (hlocate : s.locate source = .ok directory) (hdir : s.entry? directory = some .dir)
    {name : Text} (hname : name ∈ s.namesIn directory) :
    t.isFile (inside source name) = s.isFile (inside source name) := by
  have hin := looksIn_inside (h.grown.unlinked hs) (h.grown.locate_of_ok hs hlocate)
    (h.grown.dir _ hdir) name
  refine isFile_inside_congr hin (looksIn_inside hs hlocate hdir name) ?_
  cases hentry : s.entry? (directory ++ [name]) with
  | none => exact absurd hentry (entry_ne_none_of_mem_namesIn hname)
  | some entry =>
    cases entry with
    | dir => rw [h.grown.dir _ hentry]
    | file content =>
      obtain ⟨other, hother⟩ := h.grown.file _ content hentry
      rw [hother]
      rfl
    | link target => exact absurd hentry (hs _ target)

/-- What is new is no source if nothing was written under a name of the language. -/
theorem isSource_inside_fresh (hs : s.Unlinked) (h : Changes s t made written)
    (hwritten : ∀ q ∈ written, isNamedFor language q = false)
    (hlocate : s.locate source = .ok directory) (hdir : s.entry? directory = some .dir)
    {name : Text} (hname : s.IsFresh t (directory ++ [name])) :
    isSource t language (inside source name) = false := by
  by_contra hsource
  obtain ⟨hfile, hnamed⟩ : t.isFile (inside source name) = .ok true ∧
      isNamedFor language (inside source name) = true := by simpa [isSource] using hsource
  have ht := h.grown.unlinked hs
  have hin := looksIn_inside ht (h.grown.locate_of_ok hs hlocate) (h.grown.dir _ hdir) name
  obtain ⟨bytes, hread⟩ := isFile_eq_true.mp hfile
  obtain ⟨place, hplace, hentry⟩ := read_eq_ok.mp hread
  obtain ⟨_, hat, hisName, _⟩ := ht.place_of_locate hplace (by simp [hentry])
  rw [name_inside] at hisName
  obtain rfl : place = directory ++ [name] := by
    rw [← sibling_inside source name name] at hplace
    exact hin.place_eq hisName hplace
  rcases h.changed _ hname.changed with hmade | hw
  · cases hmade.after.symm.trans hentry
  · obtain ⟨q, hq, hwhere⟩ := hw.path
    have hqname : q.name = (inside source name).name :=
      ht.name_eq hwhere hplace (by simp [hentry])
    have hsuffix : isNamedFor language q = isNamedFor language (inside source name) := by
      unfold isNamedFor Path.suffix
      rw [hqname]
    cases (hwritten q hq).symm.trans (hsuffix.trans hnamed)

theorem exists_fresh_namesIn (h : Changes s t made written) (directory : Place) :
    ∃ more, t.namesIn directory = s.namesIn directory ++ more ∧
      ∀ name ∈ more, s.IsFresh t (directory ++ [name]) := by
  obtain ⟨fresh, hplaces, hfresh⟩ := h.places
  refine ⟨fresh.filterMap (nameIn? directory), ?_, fun name hname => ?_⟩
  · rw [namesIn_eq, namesIn_eq, hplaces, List.filterMap_append]
  · obtain ⟨place, hplace, hat⟩ := List.mem_filterMap.mp hname
    exact nameIn?_eq_some.mp hat ▸ hfresh place hplace

/-- In a directory with room for its names, the same sources are found after a run. -/
theorem sourcesIn_changes (hs : s.Unlinked) (h : Changes s t made written)
    (hwritten : ∀ q ∈ written, isNamedFor language q = false) (hsource : s.HoldsDir source)
    (hfound : sourcesIn s source language = .ok sources) (hfit : t.NamesFit source) :
    sourcesIn t source language = .ok sources := by
  obtain ⟨directory, hlocate, hdir⟩ := hsource
  obtain ⟨hok, rfl⟩ := (sourcesIn_eq_ok hlocate).mp hfound
  have ht := h.grown.unlinked hs
  have hafter := h.grown.locate_of_ok hs hlocate
  obtain ⟨more, hmore, hfresh⟩ := exists_fresh_namesIn h directory
  have hokAfter : ∀ name ∈ t.namesIn directory, ∃ b, t.isFile (inside source name) = .ok b := by
    intro name hname
    rcases List.mem_append.mp (hmore ▸ hname) with hold | hnew
    · rw [isFile_inside_old hs h hlocate hdir hold]
      exact hok name hold
    · obtain ⟨other, last, hplace, hisName, hshort⟩ := (hfresh name hnew).named
      obtain ⟨_, hlast⟩ := List.append_inj' hplace rfl
      obtain rfl := List.singleton_inj.mp hlast
      exact exists_isFile (looksIn_inside ht hafter (h.grown.dir _ hdir) name) hisName hshort
        (hfit directory hafter name hname)
  refine (sourcesIn_of_ok hafter hokAfter).trans (congrArg Except.ok ?_)
  rw [List.filter_map, List.filter_map, hmore]
  refine congrArg _ ((filter_inOrder_append _ _ fun name hname => ?_).trans ?_)
  · exact isSource_inside_fresh hs h hwritten hlocate hdir (hfresh name hname)
  · refine List.filter_congr fun name hname => ?_
    have hsame := isFile_inside_old hs h hlocate hdir (mem_inOrder.mp hname)
    simp only [Function.comp_apply, isSource, hsame]

/-- A new name with which the path gets too long ends the search. -/
theorem sourcesIn_changes_tooLong (hs : s.Unlinked) (h : Changes s t made written)
    (hsource : s.HoldsDir source) (hfit : ¬ t.NamesFit source) :
    sourcesIn t source language = .error .nameTooLong := by
  obtain ⟨directory, hlocate, hdir⟩ := hsource.extends hs h.grown
  have ht := h.grown.unlinked hs
  obtain ⟨other, hother, name, hname, htext⟩ : ∃ other, t.locate source = .ok other ∧
      ∃ name ∈ t.namesIn other, textFault? (inside source name).toText = some .nameTooLong := by
    simpa [NamesFit] using hfit
  obtain rfl := Except.ok.inj (hother.symm.trans hlocate)
  exact sourcesIn_of_error hlocate
    ⟨name, hname, isFile_tooLong (looksIn_inside ht hlocate hdir name) htext⟩

/-- A directory has room for what was written by its own path. -/
theorem namesFit_of_inside (hs : s.Unlinked) (h : Changes s t [] written)
    (hwritten : ∀ q ∈ written, q = inside source q.name) (hsource : s.HoldsDir source)
    (hfound : sourcesIn s source language = .ok sources) : t.NamesFit source := by
  obtain ⟨directory, hlocate, hdir⟩ := hsource
  have ht := h.grown.unlinked hs
  have hafter := h.grown.locate_of_ok hs hlocate
  intro other hother name hname htext
  obtain rfl := Except.ok.inj (hafter.symm.trans hother)
  obtain ⟨more, hmore, hfresh⟩ := exists_fresh_namesIn h directory
  rcases List.mem_append.mp (hmore ▸ hname) with hold | hnew
  · obtain ⟨b, hb⟩ := ((sourcesIn_eq_ok hlocate).mp hfound).1 name hold
    cases (isFile_tooLong (looksIn_inside hs hlocate hdir name) htext).symm.trans hb
  · rcases h.changed _ (hfresh name hnew).changed with hmade | hw
    · obtain ⟨_, hp, _⟩ := hmade.path
      cases hp
    · obtain ⟨q, hq, hwhere⟩ := hw.path
      obtain ⟨content, hcontent⟩ := hw.after
      have hqname : q.name = name := ht.name_of_locate hwhere (by simp [hcontent])
      rw [← hqname, ← hwritten q hq, (locate_eq_ok.mp hwhere).1] at htext
      cases htext

/-- After a run that has written nothing under a name of the language, the same sources are found,
or the path of the directory has no room for a name in it. -/
theorem discover_changes (hs : s.Unlinked) (h : Changes s t made written)
    (hwritten : ∀ q ∈ written, isNamedFor language q = false)
    (hfound : discover s source language = .ok sources) :
    (s.isFile source = .ok true ∨ t.NamesFit source → discover t source language = .ok sources) ∧
    (¬ (s.isFile source = .ok true ∨ t.NamesFit source) →
      discover t source language = .error (.file .nameTooLong)) := by
  rcases discover_eq_ok.mp hfound with ⟨hfile, rfl⟩ | ⟨hdir, hin⟩
  · refine ⟨fun _ => discover_of_file ?_, fun hnot => absurd (Or.inl hfile) hnot⟩
    obtain ⟨bytes, hread⟩ := isFile_eq_true.mp hfile
    obtain ⟨place, hlocate, hentry⟩ := read_eq_ok.mp hread
    obtain ⟨other, hother⟩ := h.grown.file place bytes hentry
    have hafter := h.grown.locate_of_ok hs hlocate
    exact isFile_eq_true.mpr ⟨other, read_eq_ok.mpr ⟨place, hafter, hother⟩⟩
  · have hafter := hdir.extends hs h.grown
    rw [discover_of_dir hafter]
    refine ⟨fun hfit => ?_, fun hnot => ?_⟩
    · have hnames : t.NamesFit source := by
        refine hfit.resolve_left fun hfile => ?_
        cases hdir.isFile_eq.symm.trans hfile
      rw [sourcesIn_changes hs h hwritten hdir hin hnames]
      rfl
    · rw [sourcesIn_changes_tooLong hs h hdir fun hnames => hnot (Or.inr hnames)]
      rfl

end

end Sources

end DepView
