import DepView.Proofs.ArtifactOverlay
import DepView.Proofs.DumpNames

/-!
Dumping the tree of one source. The tree is that of its content, and its forms are written to three
files in a directory, which is made for them. Nothing else changes, whatever fails on the way.
-/

namespace DepView

open Text Store

namespace Sources

/-! The tree of a source. -/

section

variable {grammars : Option Grammars} {language : Text} {s s' t : Session} {path : Path}
  {result : Except Failure SyntaxTree}

/-- What a grammar makes of some content is the same at all times. -/
theorem exists_parse (grammars : Option Grammars) (language : Text) (content : Bytes) :
    ∃ result, ∀ s, (parse grammars language content).run s = (result, s) := by
  cases grammars with
  | none => exact ⟨_, fun _ => rfl⟩
  | some grammars =>
    unfold parse
    dsimp only
    cases grammars.grammar language with
    | error reason => exact ⟨_, fun _ => rfl⟩
    | ok read =>
      dsimp only
      cases read content with
      | error fault => exact ⟨_, fun _ => rfl⟩
      | ok tree =>
        cases tree with
        | none => exact ⟨_, fun _ => rfl⟩
        | some tree => exact ⟨_, fun _ => rfl⟩

/-- The tree of a file is that of its content, and reading it changes nothing. -/
theorem run_parseFile {content : Bytes} (hs : s.store.read path = .ok content) :
    (parseFile grammars language path).run s = (parse grammars language content).run s := by
  have hbytes :
      (Action.readBytes (fun fault => .missingArtifact path (fault.message path)) path).run s =
        (.ok content, s) := by
    unfold Action.readBytes
    rw [Action.run_bind_of_ok Action.run_get, hs]
    rfl
  unfold parseFile
  rw [Action.run_bind_of_ok hbytes]

theorem run_parseFile_same {content : Bytes} (hs : s.store.read path = .ok content)
    (ht : t.store.read path = .ok content)
    (h : (parseFile grammars language path).run s = (result, s')) :
    s' = s ∧ (parseFile grammars language path).run t = (result, t) := by
  obtain ⟨outcome, houtcome⟩ := exists_parse grammars language content
  rw [run_parseFile hs, houtcome] at h
  obtain ⟨rfl, rfl⟩ := Prod.mk.inj h
  exact ⟨rfl, by rw [run_parseFile ht, houtcome]⟩

end

end Sources

/-! The dumps of a tree. -/

/-- The files for a source hold the forms of a tree. -/
structure HoldsDumps (s : Store) (tree : SyntaxTree) (source directory : Path) : Prop where
  expression : holdsSurrogate tree.expression = false
  graph : holdsSurrogate (tree.toDot [] ['n']) = false
  text : s.read (TreeFiles.of source directory).textPath = .ok (Utf8.encode tree.expression)
  json : ∃ value, tree.toJson none = .ok value ∧
    s.read (TreeFiles.of source directory).jsonPath = .ok (Utf8.encode value.indented)
  dot : s.read (TreeFiles.of source directory).dotPath = .ok (Utf8.encode (tree.toDot [] ['n']))

section

variable {s t : Store} {tree : SyntaxTree} {source directory : Path} {made written : List Path}

/-- Dumps stay if nothing is written under their names. -/
theorem HoldsDumps.changes (h : HoldsDumps s tree source directory) (hs : s.Unlinked)
    (hst : Changes s t made written)
    (hnames : ∀ q ∈ written, ∀ ending ∈ dumpEndings, q.name ≠ dumpName source ending) :
    HoldsDumps t tree source directory := by
  have hkept : ∀ ending ∈ dumpEndings, ∀ content,
      s.read (inside directory (dumpName source ending)) = .ok content →
        t.read (inside directory (dumpName source ending)) = .ok content := by
    intro ending hending content hread
    refine hst.read_of_name hs hread fun q hq => ?_
    rw [name_inside]
    exact hnames q hq ending hending
  obtain ⟨value, hvalue, hjson⟩ := h.json
  exact ⟨h.expression, h.graph, hkept _ (by decide) _ h.text,
    ⟨value, hvalue, hkept _ (by decide) _ hjson⟩, hkept _ (by decide) _ h.dot⟩

theorem HoldsDumps.exists_read (h : HoldsDumps s tree source directory) {p : Path}
    (hp : p ∈ (TreeFiles.of source directory).paths) : ∃ content, s.read p = .ok content := by
  obtain ⟨value, _, hjson⟩ := h.json
  simp only [TreeFiles.paths, List.mem_cons, List.not_mem_nil, or_false] at hp
  rcases hp with rfl | rfl | rfl
  · exact ⟨_, h.text⟩
  · exact ⟨_, hjson⟩
  · exact ⟨_, h.dot⟩

theorem HoldsDumps.mem_namesIn (h : HoldsDumps s tree source directory) (hs : s.Unlinked)
    {place : Place} (hlocate : s.locate directory = .ok place) (hdir : s.entry? place = some .dir)
    {ending : Text} (hending : ending ∈ dumpEndings) :
    dumpName source ending ∈ s.namesIn place := by
  obtain ⟨content, hread⟩ := h.exists_read (TreeFiles.mem_paths_of.mpr ⟨ending, hending, rfl⟩)
  obtain ⟨file, hfile, hentry⟩ := read_eq_ok.mp hread
  have hnoDir : s.entry? file ≠ some .dir := by simp [hentry]
  obtain ⟨_, _, hname, _⟩ := hs.place_of_locate hfile hnoDir
  rw [name_inside] at hname
  rw [← sibling_inside directory (dumpName source ending)] at hfile
  obtain rfl := (looksIn_inside hs hlocate hdir _).place_eq hname hfile
  exact Store.mem_namesIn.mpr (mem_places_of_entry hentry (by simp))

/-- Writing one dump keeps another. -/
theorem read_dump_other {a b : Text} {content other : Bytes} (hs : s.Unlinked)
    (ha : a ∈ dumpEndings) (hb : b ∈ dumpEndings) (hne : a ≠ b)
    (hread : s.read (inside directory (dumpName source a)) = .ok content)
    (hwrite : s.write (inside directory (dumpName source b)) other = .ok t) :
    t.read (inside directory (dumpName source a)) = .ok content := by
  refine (changes_write hs hwrite).read_of_name hs hread fun q hq heq => hne ?_
  obtain rfl := List.mem_singleton.mp hq
  rw [name_inside, name_inside] at heq
  exact (dumpName_inj hb ha heq).2.symm

end

/-- Some steps change nothing but what they may, whether they have a result or not. -/
def KeepsTo {α : Type} (made written : List Path) (steps : Action α) : Prop :=
  ∀ (s t : Session) (result : Except Failure α), s.store.Unlinked →
    steps.run s = (result, t) → Changes s.store t.store made written

namespace KeepsTo

variable {α β : Type} {made written : List Path} {p : Path}

theorem bind {x : Action α} {f : α → Action β} (hx : KeepsTo made written x)
    (hf : ∀ a, KeepsTo made written (f a)) : KeepsTo made written (x >>= f) := by
  intro s t result hs h
  rcases Action.run_bind_cases h with ⟨e, hfirst, _⟩ | ⟨a, between, hfirst, hrest⟩
  · exact hx s t _ hs hfirst
  · have hbetween := hx s between _ hs hfirst
    exact hbetween.trans hs (hf a between t result (hbetween.grown.unlinked hs) hrest)

theorem of_same {x : Action α} (h : ∀ s, (x.run s).2.store = s.store) :
    KeepsTo made written x := by
  intro s t result _ hrun
  have hstore := h s
  rw [hrun] at hstore
  rw [hstore]
  exact .refl s.store made written

theorem ensureDir (hp : p ∈ made) : KeepsTo made written (Action.ensureDir p) := by
  intro s t result hs h
  obtain ⟨store, _, hway, rfl, _⟩ := Action.run_ensureDir_cases h
  exact (changes_makeWay hs hway).1.mono (List.cons_subset.mpr ⟨hp, List.nil_subset made⟩)
    (List.nil_subset written)

theorem writeText (hp : p ∈ written) (text : Text) :
    KeepsTo made written (Action.writeText p text) := by
  intro s t result hs h
  have hstart := Changes.refl s.store made written
  rcases Action.run_writeText_cases h with ⟨_, _, rfl | ⟨_, bytes, hwrite⟩⟩ |
    ⟨_, _, store, hwrite, rfl⟩
  · exact hstart
  · exact hstart.write hs hwrite hp
  · exact hstart.write hs hwrite hp

end KeepsTo

section

variable {s t : Session} {tree : SyntaxTree} {source directory : Path} {files : TreeFiles}

theorem run_orShapeFault {α : Type} (given : Except ShapeFault α) (s : Session) :
    (SyntaxTree.orShapeFault given).run s = (given.mapError .shape, s) := by
  cases given <;> rfl

/-- Writing the dumps of a tree writes its three files, in their directory. -/
theorem keepsTo_writeFiles (tree : SyntaxTree) (source directory : Path) :
    KeepsTo [directory] (TreeFiles.of source directory).paths
      (tree.writeFiles source directory) := by
  unfold SyntaxTree.writeFiles
  refine .bind (.ensureDir (List.mem_singleton_self directory)) fun _ => ?_
  refine .bind (.writeText (by simp [TreeFiles.paths]) _) fun _ => ?_
  refine .bind (.of_same fun s => by rw [run_orShapeFault]) fun value => ?_
  refine .bind (.writeText (by simp [TreeFiles.paths]) _) fun _ => ?_
  exact .bind (.writeText (by simp [TreeFiles.paths]) _) fun _ => .of_same fun _ => rfl

/-- When the dumps have been written, they hold the forms of the tree. -/
theorem holdsDumps_of_writeFiles (hs : s.store.Unlinked)
    (h : (tree.writeFiles source directory).run s = (.ok files, t)) :
    files = TreeFiles.of source directory ∧ HoldsDumps t.store tree source directory ∧
      t.store.HoldsDir directory := by
  unfold SyntaxTree.writeFiles at h
  obtain ⟨_, first, hensure, h⟩ := Action.run_bind_eq_ok h
  obtain ⟨hmaking, hdir⟩ := changes_ensureDir hs (Action.run_ensureDir_eq_ok hensure)
  have hfirst := hmaking.grown.unlinked hs
  dsimp only at h
  obtain ⟨_, second, htext, h⟩ := Action.run_bind_eq_ok h
  obtain ⟨hexpression, hwriteText⟩ := Action.run_writeText_eq_ok htext
  have hsecond := (changes_write hfirst hwriteText).grown
  obtain ⟨value, between, hshape, h⟩ := Action.run_bind_eq_ok h
  rw [run_orShapeFault] at hshape
  obtain ⟨hvalue, rfl⟩ := Prod.mk.inj hshape
  obtain ⟨_, third, hjson, h⟩ := Action.run_bind_eq_ok h
  obtain ⟨_, hwriteJson⟩ := Action.run_writeText_eq_ok hjson
  have hthird := (changes_write (hsecond.unlinked hfirst) hwriteJson).grown
  obtain ⟨_, fourth, hdot, h⟩ := Action.run_bind_eq_ok h
  obtain ⟨hgraph, hwriteDot⟩ := Action.run_writeText_eq_ok hdot
  have hunlinked := hthird.unlinked (hsecond.unlinked hfirst)
  have hfourth := (changes_write hunlinked hwriteDot).grown
  obtain ⟨hfiles, rfl⟩ := Prod.mk.inj h
  have htextRead := read_dump_other (hsecond.unlinked hfirst) (by decide) (by decide) (by decide)
    (read_of_write hwriteText) hwriteJson
  have htextRead := read_dump_other hunlinked (by decide) (by decide) (by decide) htextRead
    hwriteDot
  have hjsonRead := read_dump_other hunlinked (by decide) (by decide) (by decide)
    (read_of_write hwriteJson) hwriteDot
  refine ⟨(Except.ok.inj hfiles).symm, ⟨hexpression, hgraph, htextRead, ⟨value, ?_, hjsonRead⟩,
    read_of_write hwriteDot⟩, ?_⟩
  · cases htoJson : tree.toJson none with
    | error fault =>
      rw [htoJson] at hvalue
      cases hvalue
    | ok json =>
      rw [htoJson] at hvalue
      exact congrArg Except.ok (Except.ok.inj hvalue)
  · exact hdir.extends hfirst ((hsecond.trans hthird).trans hfourth)

/-- Dumps that are there are written again without a change. -/
theorem run_writeFiles_again (hs : s.store.Unlinked) (hdir : s.store.HoldsDir directory)
    (h : HoldsDumps s.store tree source directory) :
    (tree.writeFiles source directory).run s = (.ok (TreeFiles.of source directory), s) := by
  obtain ⟨value, hvalue, hjson⟩ := h.json
  have hensure : (Action.ensureDir directory).run s = (.ok (), s) :=
    Action.run_ensureDir (ensureDir_of_holdsDir hs hdir)
  have hwriteText : (Action.writeText (TreeFiles.of source directory).textPath
      tree.expression).run s = (.ok (), s) :=
    Action.run_writeText s h.expression (write_of_read h.text)
  have hshape : (SyntaxTree.orShapeFault (tree.toJson none)).run s = (.ok value, s) := by
    rw [run_orShapeFault, hvalue]
    rfl
  have hwriteJson : (Action.writeText (TreeFiles.of source directory).jsonPath
      value.indented).run s = (.ok (), s) :=
    Action.run_writeText s (Json.isAscii_indented value).holdsSurrogate (write_of_read hjson)
  have hwriteDot : (Action.writeText (TreeFiles.of source directory).dotPath
      (tree.toDot [] ['n'])).run s = (.ok (), s) :=
    Action.run_writeText s h.graph (write_of_read h.dot)
  unfold SyntaxTree.writeFiles
  rw [Action.run_bind_of_ok hensure]
  dsimp only
  rw [Action.run_bind_of_ok hwriteText, Action.run_bind_of_ok hshape,
    Action.run_bind_of_ok hwriteJson, Action.run_bind_of_ok hwriteDot]
  rfl

end

end DepView
