import DepView.Proofs.DumpedTrees

/-!
Dumping the trees of all sources at a path. Each source gets three files of its own, which hold the
forms of its tree, and a failure leaves the dumps of the sources before it. A run that has come to
its end can be repeated: it finds the same sources and writes what is there.
-/

namespace DepView

open Text Store

/-- A store without links that tells of each place once. -/
structure Store.IsTree (s : Store) : Prop where
  unlinked : s.Unlinked
  nodup : s.places.Nodup

namespace Sources

section

variable {grammars : Option Grammars} {language : Text} {directory x : Path}
  {sources xs : List Path} {s m t : Session} {e : Failure}

/-- The trees that some sources had have been dumped, and nothing else has changed. -/
structure Dumped (grammars : Option Grammars) (language : Text) (directory : Path)
    (sources : List Path) (s t : Session) : Prop where
  changes : Changes s.store t.store [directory] (dumpPaths directory sources)
  dumps : ∀ x ∈ sources, ∃ tree, (parseFile grammars language x).run s = (.ok tree, s) ∧
    HoldsDumps t.store tree x directory
  made : sources ≠ [] → t.store.HoldsDir directory

theorem Dumped.nil (s : Session) : Dumped grammars language directory [] s s where
  changes := .refl s.store [directory] []
  dumps _ h := nomatch h
  made h := absurd rfl h

/-- What is not named like a dump is left as it was. -/
theorem Dumped.read_eq (h : Dumped grammars language directory sources s t)
    (hs : s.store.Unlinked) {content : Bytes} (hread : s.store.read x = .ok content)
    (hname : ∀ y ∈ sources, ∀ ending ∈ dumpEndings, x.name ≠ dumpName y ending) :
    t.store.read x = .ok content := by
  refine h.changes.read_of_name hs hread fun q hq => ?_
  obtain ⟨y, hy, hq⟩ := mem_dumpPaths.mp hq
  obtain ⟨ending, hending, rfl⟩ := TreeFiles.mem_paths_of.mp hq
  rw [name_inside]
  exact (hname y hy ending hending).symm

/-- Sources that are there to be dumped. -/
structure Ready (s : Session) (sources : List Path) : Prop where
  unlinked : s.store.Unlinked
  separate : Separate sources
  readable : ∀ x ∈ sources, ∃ content, s.store.read x = .ok content

theorem Ready.sublist (h : Ready s sources) (hxs : xs.Sublist sources) : Ready s xs where
  unlinked := h.unlinked
  separate := h.separate.sublist hxs
  readable x hx := h.readable x (hxs.subset hx)

/-- The dumps of one source leave the others as they are. -/
theorem Ready.kept (h : Ready s (x :: xs)) (hx : Dumped grammars language directory [x] s m)
    {y : Path} (hy : y ∈ xs) :
    ∃ content, s.store.read y = .ok content ∧ m.store.read y = .ok content := by
  have hmem := List.mem_cons_of_mem x hy
  obtain ⟨content, hcontent⟩ := h.readable y hmem
  refine ⟨content, hcontent, hx.read_eq h.unlinked hcontent fun z hz => ?_⟩
  obtain rfl := List.mem_singleton.mp hz
  exact h.separate.apart y hmem z List.mem_cons_self

theorem Ready.next (h : Ready s (x :: xs)) (hx : Dumped grammars language directory [x] s m) :
    Ready m xs where
  unlinked := hx.changes.grown.unlinked h.unlinked
  separate := h.separate.sublist (List.sublist_cons_self x xs)
  readable y hy := by
    obtain ⟨content, _, hcontent⟩ := h.kept hx hy
    exact ⟨content, hcontent⟩

/-- The dumps of one source and then of others are those of all. -/
theorem Dumped.cons (h : Ready s (x :: xs)) (hx : Dumped grammars language directory [x] s m)
    (hxs : Dumped grammars language directory xs m t) :
    Dumped grammars language directory (x :: xs) s t := by
  have hm := hx.changes.grown.unlinked h.unlinked
  have hpaths : dumpPaths directory (x :: xs) =
      dumpPaths directory [x] ++ dumpPaths directory xs := by simp [dumpPaths]
  have hfirst := hx.changes.mono (List.Subset.refl [directory])
    (hpaths ▸ List.subset_append_left (dumpPaths directory [x]) (dumpPaths directory xs))
  have hrest := hxs.changes.mono (List.Subset.refl [directory])
    (hpaths ▸ List.subset_append_right (dumpPaths directory [x]) (dumpPaths directory xs))
  refine ⟨hfirst.trans h.unlinked hrest, fun y hy => ?_, fun _ => ?_⟩
  · rcases List.mem_cons.mp hy with rfl | hy
    · obtain ⟨tree, hparse, hholds⟩ := hx.dumps y (List.mem_singleton_self y)
      refine ⟨tree, hparse, hholds.changes hm hxs.changes fun q hq ending hending heq => ?_⟩
      obtain ⟨z, hz, hq⟩ := mem_dumpPaths.mp hq
      obtain ⟨other, hother, rfl⟩ := TreeFiles.mem_paths_of.mp hq
      rw [name_inside] at heq
      refine (List.nodup_cons.mp h.separate.names).1 ?_
      rw [← (dumpName_inj hother hending heq).1]
      exact List.mem_map_of_mem hz
    · obtain ⟨tree, hparse, hholds⟩ := hxs.dumps y hy
      obtain ⟨content, hbefore, hafter⟩ := h.kept hx hy
      exact ⟨tree, (run_parseFile_same hafter hbefore hparse).2, hholds⟩
  · exact (hx.made (List.cons_ne_nil x [])).extends hm hxs.changes.grown

/-- Some dumps have been made, and the next source fails: it has no tree, and nothing is left of the
attempt, or the dumps of its tree cannot be written. -/
inductive Stops (grammars : Option Grammars) (language : Text) (directory x : Path)
    (s m t : Session) (e : Failure) : Prop
  | parsing (hparse : (parseFile grammars language x).run s = (.error e, s)) (hleft : t = m)
  | writing (tree : SyntaxTree) (hparse : (parseFile grammars language x).run s = (.ok tree, s))
    (hwrite : (tree.writeFiles x directory).run m = (.error e, t))
    (hleft : Changes m.store t.store [directory] (TreeFiles.of x directory).paths)

theorem Stops.of_same {r : Session} {content : Bytes}
    (h : Stops grammars language directory x s m t e)
    (hs : s.store.read x = .ok content) (hr : r.store.read x = .ok content) :
    Stops grammars language directory x r m t e := by
  cases h with
  | parsing hparse hleft => exact .parsing (run_parseFile_same hs hr hparse).2 hleft
  | writing tree hparse hwrite hleft =>
    exact .writing tree (run_parseFile_same hs hr hparse).2 hwrite hleft

theorem run_dump_cases (hs : s.store.Unlinked) {content : Bytes}
    (hread : s.store.read x = .ok content) {result : Except Failure TreeFiles}
    (h : (dump grammars language directory x).run s = (result, t)) :
    (result = .ok (TreeFiles.of x directory) ∧ Dumped grammars language directory [x] s t) ∨
      ∃ e, result = .error e ∧ Stops grammars language directory x s s t e := by
  unfold dump at h
  rcases Action.run_bind_cases h with ⟨e, hparse, rfl⟩ | ⟨tree, m, hparse, hrest⟩
  · obtain ⟨rfl, _⟩ := run_parseFile_same hread hread hparse
    exact Or.inr ⟨e, rfl, .parsing hparse rfl⟩
  obtain ⟨rfl, _⟩ := run_parseFile_same hread hread hparse
  rcases Action.run_bind_cases hrest with ⟨e, hwrite, rfl⟩ | ⟨files, written, hwrite, hlast⟩
  · have hchanges := keepsTo_writeFiles tree x directory m t _ hs hwrite
    exact Or.inr ⟨e, rfl, .writing tree hparse hwrite hchanges⟩
  have hchanges := keepsTo_writeFiles tree x directory m written _ hs hwrite
  obtain ⟨rfl, hholds, hdir⟩ := holdsDumps_of_writeFiles hs hwrite
  rw [Action.run_bind_of_ok (Action.run_note _ _ _)] at hlast
  obtain ⟨rfl, rfl⟩ := Prod.mk.inj hlast
  refine Or.inl ⟨rfl, ?_, ?_, fun _ => hdir⟩
  · simpa [dumpPaths] using hchanges
  · intro y hy
    obtain rfl := List.mem_singleton.mp hy
    exact ⟨tree, hparse, hholds⟩

/-- A run over some sources dumps all of them, or those before one that fails. -/
theorem run_dumps (h : Ready s sources) {result : Except Failure (List TreeFiles)}
    (hrun : (sources.mapM (dump grammars language directory)).run s = (result, t)) :
    (result = .ok (sources.map (TreeFiles.of · directory)) ∧
      Dumped grammars language directory sources s t) ∨
    ∃ e before x after m, result = .error e ∧ sources = before ++ x :: after ∧
      Dumped grammars language directory before s m ∧
      Stops grammars language directory x s m t e := by
  induction sources generalizing s t result with
  | nil =>
    obtain ⟨rfl, rfl⟩ := Prod.mk.inj hrun
    exact Or.inl ⟨rfl, .nil s⟩
  | cons x xs ih =>
    obtain ⟨content, hcontent⟩ := h.readable x List.mem_cons_self
    rw [List.mapM_cons] at hrun
    rcases Action.run_bind_cases hrun with ⟨e, hfirst, rfl⟩ | ⟨files, between, hfirst, hrest⟩
    · rcases run_dump_cases h.unlinked hcontent hfirst with ⟨hok, _⟩ | ⟨_, herror, hstops⟩
      · cases hok
      · obtain rfl := Except.error.inj herror
        exact Or.inr ⟨e, [], x, xs, s, rfl, rfl, .nil s, hstops⟩
    obtain ⟨hfiles, hdumped⟩ := (run_dump_cases h.unlinked hcontent hfirst).resolve_right (by simp)
    rcases Action.run_bind_cases hrest with ⟨e, hsecond, rfl⟩ | ⟨rest, last, hsecond, hend⟩
    · rcases ih (h.next hdumped) hsecond with
        ⟨hok, _⟩ | ⟨_, before, y, after, mid, herror, rfl, hbefore, hstops⟩
      · cases hok
      · obtain rfl := Except.error.inj herror
        obtain ⟨held, hread, hkept⟩ :=
          h.kept hdumped (List.mem_append_right before List.mem_cons_self)
        have hsome : (x :: before).Sublist (x :: (before ++ y :: after)) :=
          (List.sublist_append_left before (y :: after)).cons_cons x
        exact Or.inr ⟨e, x :: before, y, after, mid, rfl, rfl,
          .cons (h.sublist hsome) hdumped hbefore, hstops.of_same hkept hread⟩
    · obtain ⟨hothers, hdumpedXs⟩ := (ih (h.next hdumped) hsecond).resolve_right (by simp)
      obtain ⟨rfl, rfl⟩ := Prod.mk.inj hend
      obtain rfl := Except.ok.inj hfiles
      obtain rfl := Except.ok.inj hothers
      exact Or.inl ⟨rfl, .cons h hdumped hdumpedXs⟩

theorem run_dump_of_ok {tree : SyntaxTree} {files : TreeFiles}
    (hparse : (parseFile grammars language x).run s = (.ok tree, s))
    (hwrite : (tree.writeFiles x directory).run s = (.ok files, m)) : ∃ t,
    (dump grammars language directory x).run s = (.ok files, t) ∧ t.store = m.store := by
  unfold dump
  rw [Action.run_bind_of_ok hparse, Action.run_bind_of_ok hwrite,
    Action.run_bind_of_ok (Action.run_note _ _ _)]
  exact ⟨_, rfl, rfl⟩

/-- Trees that have been dumped are dumped again without a change. -/
theorem run_dumps_again (hs : s.store.Unlinked) (hdir : sources ≠ [] → s.store.HoldsDir directory)
    (h : ∀ x ∈ sources, ∃ content tree, s.store.read x = .ok content ∧
      (parseFile grammars language x).run s = (.ok tree, s) ∧
        HoldsDumps s.store tree x directory) : ∃ t,
    (sources.mapM (dump grammars language directory)).run s =
      (.ok (sources.map (TreeFiles.of · directory)), t) ∧ t.store = s.store := by
  induction sources generalizing s with
  | nil => exact ⟨s, rfl, rfl⟩
  | cons x xs ih =>
    obtain ⟨content, tree, hread, hparse, hholds⟩ := h x List.mem_cons_self
    have hmade := hdir (List.cons_ne_nil x xs)
    obtain ⟨m, hfirst, hm⟩ := run_dump_of_ok hparse (run_writeFiles_again hs hmade hholds)
    obtain ⟨t, hrest, ht⟩ := ih (hm ▸ hs) (fun _ => hm ▸ hmade) fun y hy => by
      obtain ⟨content, tree, hread, hparse, hholds⟩ := h y (List.mem_cons_of_mem x hy)
      have hread' : m.store.read y = .ok content := hm ▸ hread
      exact ⟨content, tree, hread', (run_parseFile_same hread hread' hparse).2, hm ▸ hholds⟩
    rw [List.mapM_cons, Action.run_bind_of_ok hfirst, Action.run_bind_of_ok hrest]
    exact ⟨t, rfl, ht.trans hm⟩

end

/-! All sources at a path. -/

section

variable {grammars : Option Grammars} {language : Text} {source directory : Path}
  {sources : List Path} {files : List TreeFiles} {s m t : Session} {e : Failure}

theorem run_dumpAll_of_ok (h : discover s.store source language = .ok sources) :
    (dumpAll grammars source directory language).run s =
      (sources.mapM (dump grammars language directory)).run s := by
  unfold dumpAll
  rw [Action.run_bind_of_ok Action.run_get, h]

theorem run_dumpAll_of_error (h : discover s.store source language = .error e) :
    (dumpAll grammars source directory language).run s = (.error e, s) := by
  unfold dumpAll
  rw [Action.run_bind_of_ok Action.run_get, h]
  rfl

theorem ready_of_discover (hs : s.store.IsTree)
    (h : discover s.store source language = .ok sources) : Ready s sources where
  unlinked := hs.unlinked
  separate := separate_of_discover hs.nodup h
  readable _ hx := (mem_of_discover h hx).1

/-- A run has dumped the trees of all sources. They are as they were, and no two of the files
dumped and the sources are the same. -/
structure Completed (grammars : Option Grammars) (source directory : Path) (language : Text)
    (s t : Session) (sources : List Path) (files : List TreeFiles) : Prop where
  found : discover s.store source language = .ok sources
  written : files = sources.map (TreeFiles.of · directory)
  dumped : Dumped grammars language directory sources s t
  kept : ∀ x ∈ sources, ∃ content,
    s.store.read x = .ok content ∧ t.store.read x = .ok content
  apart : LeadApart t.store (files.flatMap TreeFiles.paths ++ sources)

/-- A run has dumped the trees of the sources before one that fails, or has found no sources. -/
inductive Interrupted (grammars : Option Grammars) (source directory : Path) (language : Text)
    (s t : Session) (e : Failure) : Prop
  | unfound (hfound : discover s.store source language = .error e) (hleft : t = s)
  | stopped (before after : List Path) (x : Path) (m : Session)
    (hfound : discover s.store source language = .ok (before ++ x :: after))
    (hdumped : Dumped grammars language directory before s m)
    (hstops : Stops grammars language directory x s m t e)

/-- After a run, the sources at a path can be looked for again. -/
def HasRoom (source : Path) (s t : Store) : Prop :=
  s.isFile source = .ok true ∨ t.NamesFit source

/-- A run that is repeated finds the same sources and changes no file. If a new name makes the path
too long, it finds none. -/
structure Repeats (grammars : Option Grammars) (source directory : Path) (language : Text)
    (s t : Session) (sources : List Path) (files : List TreeFiles) : Prop where
  inPlace : source = directory → HasRoom source s.store t.store
  found : HasRoom source s.store t.store → discover t.store source language = .ok sources
  again : HasRoom source s.store t.store → ∃ u,
    (dumpAll grammars source directory language).run t = (.ok files, u) ∧ u.store = t.store
  tooLong : ¬ HasRoom source s.store t.store →
    (dumpAll grammars source directory language).run t = (.error (.file .nameTooLong), t)

theorem Completed.of_dumped (hs : s.store.IsTree)
    (hfound : discover s.store source language = .ok sources)
    (h : Dumped grammars language directory sources s t) :
    Completed grammars source directory language s t sources
      (sources.map (TreeFiles.of · directory)) where
  found := hfound
  written := rfl
  dumped := h
  kept x hx := by
    obtain ⟨content, hcontent⟩ := (mem_of_discover hfound hx).1
    have hapart := (separate_of_discover hs.nodup hfound).apart x hx
    exact ⟨content, hcontent, h.read_eq hs.unlinked hcontent hapart⟩
  apart := by
    have hseparate := separate_of_discover hs.nodup hfound
    rw [List.flatMap_map]
    refine leadApart_of_names (h.changes.grown.unlinked hs.unlinked) (fun p hp => ?_)
      (hseparate.nodup_names directory)
    rcases List.mem_append.mp hp with hdump | hsource
    · obtain ⟨x, hx, hp⟩ := mem_dumpPaths.mp hdump
      obtain ⟨tree, _, hholds⟩ := h.dumps x hx
      exact hholds.exists_read hp
    · obtain ⟨content, hcontent⟩ := (mem_of_discover hfound hsource).1
      exact ⟨content, h.read_eq hs.unlinked hcontent (hseparate.apart p hsource)⟩

theorem Completed.repeats (hs : s.store.IsTree)
    (h : Completed grammars source directory language s t sources files) :
    Repeats grammars source directory language s t sources files := by
  have hnamed : ∀ q ∈ dumpPaths directory sources, isNamedFor language q = false := by
    intro q hq
    obtain ⟨x, _, hq⟩ := mem_dumpPaths.mp hq
    exact isNamedFor_dump language x directory hq
  obtain ⟨hsame, htooLong⟩ := discover_changes hs.unlinked h.dumped.changes hnamed h.found
  refine ⟨?_, hsame, fun hroom => ?_, fun hroom => run_dumpAll_of_error (htooLong hroom)⟩
  · rintro rfl
    refine (discover_eq_ok.mp h.found).imp And.left fun ⟨hdir, hin⟩ => ?_
    refine namesFit_of_inside hs.unlinked (h.dumped.changes.of_holdsDir hs.unlinked hdir)
      (fun q hq => ?_) hdir hin
    obtain ⟨x, _, hq⟩ := mem_dumpPaths.mp hq
    obtain ⟨ending, _, rfl⟩ := TreeFiles.mem_paths_of.mp hq
    rw [name_inside]
  · rw [run_dumpAll_of_ok (hsame hroom), h.written]
    refine run_dumps_again (h.dumped.changes.grown.unlinked hs.unlinked) h.dumped.made
      fun x hx => ?_
    obtain ⟨tree, hparse, hholds⟩ := h.dumped.dumps x hx
    obtain ⟨content, hbefore, hafter⟩ := h.kept x hx
    exact ⟨content, tree, hafter, (run_parseFile_same hbefore hafter hparse).2, hholds⟩

theorem exists_completed (hs : s.store.IsTree)
    (h : (dumpAll grammars source directory language).run s = (.ok files, t)) :
    ∃ sources, Completed grammars source directory language s t sources files := by
  cases hfound : discover s.store source language with
  | error e =>
    rw [run_dumpAll_of_error hfound] at h
    cases h
  | ok sources =>
    rw [run_dumpAll_of_ok hfound] at h
    obtain ⟨hfiles, hdumped⟩ := (run_dumps (ready_of_discover hs hfound) h).resolve_right (by simp)
    obtain rfl := Except.ok.inj hfiles
    exact ⟨sources, .of_dumped hs hfound hdumped⟩

theorem interrupted_of_error (hs : s.store.IsTree)
    (h : (dumpAll grammars source directory language).run s = (.error e, t)) :
    Interrupted grammars source directory language s t e := by
  cases hfound : discover s.store source language with
  | error fault =>
    rw [run_dumpAll_of_error hfound] at h
    obtain ⟨herror, rfl⟩ := Prod.mk.inj h
    obtain rfl := Except.error.inj herror
    exact .unfound hfound rfl
  | ok sources =>
    rw [run_dumpAll_of_ok hfound] at h
    rcases run_dumps (ready_of_discover hs hfound) h with
      ⟨hok, _⟩ | ⟨_, before, x, after, m, herror, rfl, hdumped, hstops⟩
    · cases hok
    · obtain rfl := Except.error.inj herror
      exact .stopped before after x m hfound hdumped hstops

end

/-- A run over the sources at a path dumps the trees of all of them and can be repeated, or it is
interrupted. -/
theorem dumpAll_ends (grammars : Option Grammars) (source directory : Path) (language : Text)
    {s : Session} (hs : s.store.IsTree) :
    match (dumpAll grammars source directory language).run s with
    | (.ok files, t) => ∃ sources,
      Completed grammars source directory language s t sources files ∧
        Repeats grammars source directory language s t sources files
    | (.error e, t) => Interrupted grammars source directory language s t e := by
  cases hrun : (dumpAll grammars source directory language).run s with
  | mk result t =>
    cases result with
    | ok files =>
      obtain ⟨sources, hcompleted⟩ := exists_completed hs hrun
      exact ⟨sources, hcompleted, hcompleted.repeats hs⟩
    | error e => exact interrupted_of_error hs hrun

/-! A directory with one source. -/

/-- A tree of one node. -/
def moduleTree : SyntaxTree :=
  .live (.node ⟨.str "module".toList, none, none, none, none, none, none, some "(module)".toList,
    "(module)".toList⟩ [])

/-- The grammars by which every content is a module. -/
def moduleGrammars : Grammars :=
  ⟨fun _ => .ok fun _ => .ok (some moduleTree)⟩

def sourceName : Text :=
  "a.py".toList

/-- A directory with a source in the current one. -/
def sourceDirectory (name : Text) : Store where
  current := [['w']]
  entries := [([['w'], name], .dir), ([['w'], name, sourceName], .file [])]

/-- The path that goes into a directory and back several times, and then into it. -/
def detours (name : Text) : Nat → Path
  | 0 => ⟨[], [name]⟩
  | n + 1 => ⟨[], name :: ['.', '.'] :: (detours name n).parts⟩

theorem root_detours (name : Text) (n : Nat) : (detours name n).root = [] := by
  cases n <;> rfl

section

variable {name : Text} {n : Nat}

theorem isTree_sourceDirectory (name : Text) : (sourceDirectory name).IsTree where
  unlinked place target := by
    unfold entry? sourceDirectory
    simp only [lookup_cons_eq]
    split
    · simp
    · split
      · simp
      · split <;> simp
  nodup := by simp [places, sourceDirectory]

theorem entry_sourceDirectory (name : Text) :
    entry? (sourceDirectory name) [['w'], name] = some .dir := by
  simp [sourceDirectory, entry?]

/-- The way through the detours to the directory and its source is not refused. -/
structure Passable (name : Text) (n : Nat) : Prop where
  isName : IsName name
  short : isTooLong name = false
  toDirectory : textFault? (detours name n).toText = none
  toSource : textFault? (inside (detours name n) sourceName).toText = none

theorem walk_detours (h : Passable name n) :
    (sourceDirectory name).walk 40 true [['w']] (detours name n).parts = .ok [['w'], name] := by
  have hlong : ¬ isTooLong name = true := by simp [h.short]
  have hdir := entry_sourceDirectory name
  have hsteps : ∀ n, (sourceDirectory name).walk 40 true [['w']] (detours name n).parts =
      .ok [['w'], name] := by
    intro n
    induction n with
    | zero =>
      refine (walk_dir h.isName hlong hdir).trans ?_
      rw [walk]
      rfl
    | succ n ih => exact ((walk_dir h.isName hlong hdir).trans walk_dots).trans ih
  exact hsteps n

theorem locate_detours (h : Passable name n) :
    (sourceDirectory name).locate (detours name n) = .ok [['w'], name] := by
  have hstart : (sourceDirectory name).startOf (detours name n) = [['w']] := by
    simp [startOf, Path.isAbsolute, root_detours, sourceDirectory]
  exact locate_eq_ok.mpr ⟨h.toDirectory, hstart ▸ walk_detours h⟩

theorem holdsDir_detours (h : Passable name n) :
    (sourceDirectory name).HoldsDir (detours name n) :=
  ⟨_, locate_detours h, entry_sourceDirectory name⟩

theorem locate_inside_detours (h : Passable name n) {file : Text} (hfile : IsName file)
    (hshort : isTooLong file = false)
    (htext : textFault? (inside (detours name n) file).toText = none) :
    (sourceDirectory name).locate (inside (detours name n) file) = .ok [['w'], name, file] := by
  have hin := looksIn_inside (isTree_sourceDirectory name).unlinked (locate_detours h)
    (entry_sourceDirectory name) file
  have hlocate := hin.locate_sibling hfile
  rw [sibling_inside, htext, hshort] at hlocate
  exact hlocate

theorem read_detours (h : Passable name n) :
    (sourceDirectory name).read (inside (detours name n) sourceName) = .ok [] := by
  have hlocate := locate_inside_detours h ⟨by decide, by decide⟩ (by decide) h.toSource
  refine read_eq_ok.mpr ⟨_, hlocate, ?_⟩
  simp [sourceDirectory, entry?, List.lookup_cons]

theorem discover_detours (h : Passable name n) :
    discover (sourceDirectory name) (detours name n) "python".toList =
      .ok [inside (detours name n) sourceName] := by
  have hnames : (sourceDirectory name).namesIn [['w'], name] = [sourceName] := by
    simp [namesIn, sourceDirectory]
  have hfile := isFile_eq_true.mpr ⟨[], read_detours h⟩
  have hkept : isSource (sourceDirectory name) "python".toList
      (inside (detours name n) sourceName) = true := by
    have hsuffix : (suffixesFor "python".toList).contains
        (lower (Path.splitName sourceName).2) = true := by decide
    rw [isSource, hfile, isNamedFor, Path.suffix, name_inside, hsuffix]
    rfl
  have hok : ∀ file ∈ (sourceDirectory name).namesIn [['w'], name], ∃ b,
      (sourceDirectory name).isFile (inside (detours name n) file) = .ok b := by
    intro file hmem
    rw [hnames, List.mem_singleton] at hmem
    exact ⟨true, hmem ▸ hfile⟩
  have hone : (inOrder [sourceName]).map (inside (detours name n)) =
      [inside (detours name n) sourceName] := by simp [inOrder]
  rw [discover_of_dir (holdsDir_detours h), sourcesIn_of_ok (locate_detours h) hok, hnames, hone,
    List.filter_cons_of_pos hkept]
  rfl

/-- Nothing is in the way of a dump. -/
theorem exists_writable (h : Passable name 0) {source : Path} (hsource : source.name = sourceName)
    {ending : Text} (hending : ending ∈ dumpEndings)
    (htext : textFault? (inside (detours name 0) (dumpName source ending)).toText = none) :
    ∃ place, (sourceDirectory name).Writable (inside (detours name 0) (dumpName source ending))
      place := by
  have hfile : ∀ ending ∈ dumpEndings,
      (sourceName ++ Artifact.treeMarker ++ ending ≠ ['.'] ∧
        sourceName ++ Artifact.treeMarker ++ ending ≠ ['.', '.']) ∧
      isTooLong (sourceName ++ Artifact.treeMarker ++ ending) = false ∧
      sourceName ++ Artifact.treeMarker ++ ending ≠ sourceName := by decide
  obtain ⟨hisName, hshort, hne⟩ := hfile ending hending
  rw [dumpName, hsource] at htext ⊢
  refine ⟨_, locate_inside_detours h hisName hshort htext, Or.inl ?_⟩
  have hlast : ¬ ([['w'], name, sourceName ++ Artifact.treeMarker ++ ending] : Place) =
      [['w'], name, sourceName] := by simpa using hne
  unfold entry? sourceDirectory
  rw [lookup_cons_eq, lookup_cons_eq, if_neg hlast]
  simp

/-- A run over the detours to a directory writes the dumps in it. -/
theorem run_detours (h : Passable name n) (hdirectory : Passable name 0)
    (hdumps : ∀ ending ∈ dumpEndings, textFault? (inside (detours name 0)
      (dumpName (inside (detours name n) sourceName) ending)).toText = none) : ∃ t,
    (dumpAll (some moduleGrammars) (detours name n) (detours name 0) "python".toList).run
        (.ofStore (sourceDirectory name)) =
      (.ok [TreeFiles.of (inside (detours name n) sourceName) (detours name 0)], t) := by
  have hname := name_inside (detours name n) sourceName
  have hwritable := fun ending hending =>
    exists_writable hdirectory hname hending (hdumps ending hending)
  have hensure := ensureDir_of_holdsDir (isTree_sourceDirectory name).unlinked
    (holdsDir_detours hdirectory)
  have hdump : SyntaxTree.CanDump (sourceDirectory name) moduleTree
      (inside (detours name n) sourceName) (detours name 0) :=
    { paths := ⟨_, hensure, hwritable _ (by decide), hwritable _ (by decide),
        hwritable _ (by decide)⟩
      json := ⟨_, rfl⟩
      expression := by decide
      types := by decide }
  obtain ⟨written, hwrite, _⟩ := SyntaxTree.run_writeFiles
    (s := .ofStore (sourceDirectory name)) hdump
  have hparse : (parseFile (some moduleGrammars) "python".toList
      (inside (detours name n) sourceName)).run (.ofStore (sourceDirectory name)) =
      (.ok moduleTree, .ofStore (sourceDirectory name)) :=
    run_parseFile (read_detours h)
  obtain ⟨t, hrun, _⟩ := run_dump_of_ok hparse hwrite
  rw [run_dumpAll_of_ok (discover_detours h), List.mapM_cons, Action.run_bind_of_ok hrun]
  exact ⟨t, rfl⟩

/-- A name so long that seventeen detours leave no room for the name of a dump. -/
def longName : Text :=
  List.replicate 223 'x'

theorem dumpAll_ends_inPlace : ∃ t u,
    (dumpAll (some moduleGrammars) (.ofString "x") (.ofString "x") "python".toList).run
        (.ofStore (sourceDirectory ['x'])) =
      (.ok [TreeFiles.of (.ofString "x/a.py") (.ofString "x")], t) ∧
    (dumpAll (some moduleGrammars) (.ofString "x") (.ofString "x") "python".toList).run t =
      (.ok [TreeFiles.of (.ofString "x/a.py") (.ofString "x")], u) ∧ u.store = t.store := by
  have hway : Passable ['x'] 0 := ⟨⟨by decide, by decide⟩, by decide, by decide, by decide⟩
  have hsource : inside (detours ['x'] 0) sourceName = .ofString "x/a.py" := by decide
  have hdirectory : detours ['x'] 0 = .ofString "x" := by decide
  obtain ⟨t, hrun⟩ := run_detours hway hway (by decide)
  rw [hsource, hdirectory] at hrun
  have hends := dumpAll_ends (some moduleGrammars) (.ofString "x") (.ofString "x") "python".toList
    (s := .ofStore (sourceDirectory ['x'])) (isTree_sourceDirectory ['x'])
  rw [hrun] at hends
  obtain ⟨sources, _, hrepeats⟩ := hends
  obtain ⟨u, hagain, hsame⟩ := hrepeats.again (hrepeats.inPlace rfl)
  exact ⟨t, u, hrun, hagain, hsame⟩

/-- Through the detours, a run dumps the tree of the source, but then the names of the dumps make
the path too long, and the same run fails. -/
theorem dumpAll_again_detours : (sourceDirectory longName).IsTree ∧ ∃ files t,
    (dumpAll (some moduleGrammars) (detours longName 17) (detours longName 0) "python".toList).run
        (.ofStore (sourceDirectory longName)) = (.ok files, t) ∧
    (dumpAll (some moduleGrammars) (detours longName 17) (detours longName 0)
      "python".toList).run t = (.error (.file .nameTooLong), t) := by
  have hway : Passable longName 17 :=
    ⟨⟨by decide, by decide⟩, by decide +kernel, by decide +kernel, by decide +kernel⟩
  have hdirectory : Passable longName 0 :=
    ⟨⟨by decide, by decide⟩, by decide +kernel, by decide +kernel, by decide +kernel⟩
  obtain ⟨t, hrun⟩ := run_detours hway hdirectory (by decide +kernel)
  have hs := isTree_sourceDirectory longName
  obtain ⟨sources, hcompleted⟩ :=
    exists_completed (s := .ofStore (sourceDirectory longName)) hs hrun
  refine ⟨hs, _, t, hrun, (hcompleted.repeats hs).tooLong ?_⟩
  have hgrown := hcompleted.dumped.changes.grown
  have hdetours : t.store.HoldsDir (detours longName 17) :=
    (holdsDir_detours hway).extends hs.unlinked hgrown
  obtain rfl := Except.ok.inj ((discover_detours hway).symm.trans hcompleted.found)
  obtain ⟨tree, _, hholds⟩ := hcompleted.dumped.dumps _ (List.mem_singleton_self _)
  have hplace := hgrown.locate_of_ok hs.unlinked (locate_detours hdirectory)
  have hjson : ".json".toList ∈ dumpEndings := by decide
  have hmem := hholds.mem_namesIn (hgrown.unlinked hs.unlinked) hplace
    (hgrown.dir _ (entry_sourceDirectory longName)) hjson
  rintro (hfile | hfit)
  · cases (holdsDir_detours hway).isFile_eq.symm.trans hfile
  · refine hfit _ (hgrown.locate_of_ok hs.unlinked (locate_detours hway)) _ hmem ?_
    rw [dumpName, name_inside]
    decide +kernel

end

end Sources

end DepView
