import DepView.Proofs.ConversionRuns
import DepView.Proofs.SiblingFiles

/-!
What a conversion writes, in a directory without links. It writes the two outputs and leaves every
other place alone, and neither output is the graph file or the side file, whatever the name of the
graph file is. What it writes and what it reports depends on these two alone, so a second conversion
writes the same again.
-/

namespace DepView

namespace Path

/-- The stem of a name stands at its start, and what is left has no dot but at its own start. -/
theorem exists_name_eq (p : Path) : ∃ suffix, p.name = p.stem ++ suffix ∧ '.' ∉ suffix.tail := by
  have hdot : '.' ∉ Text.lastPiece (· == '.') p.name := fun h => by
    simpa using Dependency.class_of_mem_lastPiece h
  unfold stem splitName
  dsimp only
  split
  · rename_i hcut
    have hlength : (Text.lastPiece (· == '.') p.name).length < p.name.length := by
      simp only [Bool.and_eq_true, decide_eq_true_eq] at hcut
      exact hcut.1.1
    refine ⟨_, (List.take_append_drop _ p.name).symm, ?_⟩
    have htail : p.name.length - (Text.lastPiece (· == '.') p.name).length - 1 + 1 =
        p.name.length - (Text.lastPiece (· == '.') p.name).length := by omega
    rw [List.tail_drop, htail, ← List.suffix_iff_eq_drop.mp (Text.lastPiece_isSuffix _ _)]
    exact hdot
  · exact ⟨[], (List.append_nil p.name).symm, List.not_mem_nil⟩

theorem isName_beside {p : Path} {ending : Text} (h : 2 < ending.length) :
    Store.IsName (p.stem ++ ending) := by
  constructor <;>
  · intro heq
    have hlength := congrArg List.length heq
    simp only [List.length_append, List.length_cons, List.length_nil] at hlength
    omega

/-- A name is not its stem with an ending that has a dot inside. -/
theorem stem_append_ne_name {p : Path} {ending : Text} (h : '.' ∈ ending.tail) :
    p.stem ++ ending ≠ p.name := by
  obtain ⟨suffix, hname, hsuffix⟩ := p.exists_name_eq
  intro heq
  rw [hname, List.append_cancel_left_eq] at heq
  exact hsuffix (heq ▸ h)

end Path

namespace Dependency

open Text

/-! The places that a conversion of a graph file in a directory is about. -/

def graphPlace (directory : Place) (dot : Path) : Place :=
  directory ++ [dot.stem ++ (Artifact.convertedMarker ++ ".dot".toList)]

def recordPlace (directory : Place) (dot : Path) : Place :=
  directory ++ [dot.stem ++ (Artifact.convertedMarker ++ ".json".toList)]

def sidePlace (directory : Place) (dot : Path) : Place :=
  directory ++ [dot.stem ++ ".json".toList]

def sourcePlace (directory : Place) (dot : Path) : Place :=
  directory ++ [dot.name]

section

variable (directory : Place) (dot : Path)

theorem isName_dotOutput :
    Store.IsName (dot.stem ++ (Artifact.convertedMarker ++ ".dot".toList)) :=
  Path.isName_beside (by decide)

theorem isName_jsonOutput :
    Store.IsName (dot.stem ++ (Artifact.convertedMarker ++ ".json".toList)) :=
  Path.isName_beside (by decide)

theorem isName_sideFile : Store.IsName (dot.stem ++ ".json".toList) :=
  Path.isName_beside (by decide)

theorem graphPlace_ne_recordPlace : graphPlace directory dot ≠ recordPlace directory dot := by
  simp [graphPlace, recordPlace]

theorem graphPlace_ne_sidePlace : graphPlace directory dot ≠ sidePlace directory dot := by
  have hends : Artifact.convertedMarker ++ ".dot".toList ≠ ".json".toList := by decide
  simpa [graphPlace, sidePlace] using hends

theorem recordPlace_ne_sidePlace : recordPlace directory dot ≠ sidePlace directory dot := by
  have hends : Artifact.convertedMarker ++ ".json".toList ≠ ".json".toList := by decide
  simpa [recordPlace, sidePlace] using hends

theorem graphPlace_ne_sourcePlace : graphPlace directory dot ≠ sourcePlace directory dot := by
  have hname : dot.stem ++ (Artifact.convertedMarker ++ ".dot".toList) ≠ dot.name :=
    Path.stem_append_ne_name (by decide)
  simpa [graphPlace, sourcePlace] using hname

theorem recordPlace_ne_sourcePlace : recordPlace directory dot ≠ sourcePlace directory dot := by
  have hname : dot.stem ++ (Artifact.convertedMarker ++ ".json".toList) ≠ dot.name :=
    Path.stem_append_ne_name (by decide)
  simpa [recordPlace, sourcePlace] using hname

end

/-- A store is left with a converted graph and perhaps a converted side file written. -/
structure Wrote (directory : Place) (dot : Path) (graph : Bytes) (side : Option Bytes)
    (s left : Store) : Prop where
  ways : Store.SameWays s left
  graph : left.entry? (graphPlace directory dot) = some (.file graph)
  record : left.entry? (recordPlace directory dot) =
    match side with
    | some bytes => some (.file bytes)
    | none => s.entry? (recordPlace directory dot)
  other : ∀ place, place ≠ graphPlace directory dot → place ≠ recordPlace directory dot →
    left.entry? place = s.entry? place

section

variable {s t made left : Store} {directory : Place} {dot : Path} {graph bytes : Bytes}

theorem wrote_graph (h : s.Writable (dotOutput dot) (graphPlace directory dot)) :
    Wrote directory dot graph none s (s.setEntry (graphPlace directory dot) (.file graph)) := by
  have hentry := Store.holds_setEntry h.entry_ne_dir (.file graph)
  refine ⟨(Store.sameWays_setEntry h.entry).symm, ?_, ?_, fun place hplace _ => ?_⟩
  · rw [hentry, if_pos rfl]
  · rw [hentry, if_neg (graphPlace_ne_recordPlace directory dot).symm]
  · rw [hentry, if_neg hplace]

theorem Wrote.record_written (hmade : Wrote directory dot graph none s made)
    (h : made.Writable (jsonOutput dot) (recordPlace directory dot)) :
    Wrote directory dot graph (some bytes) s
      (made.setEntry (recordPlace directory dot) (.file bytes)) := by
  have hentry := Store.holds_setEntry h.entry_ne_dir (.file bytes)
  refine ⟨hmade.ways.trans (Store.sameWays_setEntry h.entry).symm, ?_, ?_,
    fun place hgraph hrecord => ?_⟩
  · rw [hentry, if_neg (graphPlace_ne_recordPlace directory dot), hmade.graph]
  · rw [hentry, if_pos rfl]
  · rw [hentry, if_neg hrecord, hmade.other place hgraph hrecord]

/-- Two stores have the same directories and links, and hold the same as the graph file and the
side file. -/
structure SameInputs (directory : Place) (dot : Path) (s t : Store) : Prop where
  ways : Store.SameWays s t
  source : s.entry? (sourcePlace directory dot) = t.entry? (sourcePlace directory dot)
  side : s.entry? (sidePlace directory dot) = t.entry? (sidePlace directory dot)

/-- Writing the outputs changes no input. -/
theorem Wrote.sameInputs {side : Option Bytes} (h : Wrote directory dot graph side s left) :
    SameInputs directory dot s left where
  ways := h.ways
  source := (h.other _ (graphPlace_ne_sourcePlace directory dot).symm
    (recordPlace_ne_sourcePlace directory dot).symm).symm
  side := (h.other _ (graphPlace_ne_sidePlace directory dot).symm
    (recordPlace_ne_sidePlace directory dot).symm).symm

theorem SameInputs.symm (h : SameInputs directory dot s t) : SameInputs directory dot t s :=
  ⟨h.ways.symm, h.source.symm, h.side.symm⟩

theorem SameInputs.trans {u : Store} (hst : SameInputs directory dot s t)
    (htu : SameInputs directory dot t u) : SameInputs directory dot s u :=
  ⟨hst.ways.trans htu.ways, hst.source.trans htu.source, hst.side.trans htu.side⟩

/-- What a side file means is the same in both stores. -/
theorem SameInputs.read_sideFile (h : SameInputs directory dot s t)
    (hs : s.LooksIn dot directory) : s.read (sideFile dot) = t.read (sideFile dot) :=
  hs.read_eq (h.ways.looksIn hs) (isName_sideFile dot) h.side

section

variable {text : Text} (hs : s.LooksIn dot directory) (hname : Store.IsName dot.name)
include hs

theorem GraphWritten.writable (h : GraphWritten dot s text made) :
    s.Writable (dotOutput dot) (graphPlace directory dot) ∧
      made = s.setEntry (graphPlace directory dot) (.file (converted text)) :=
  (hs.write_eq_ok (isName_dotOutput dot)).mp h.written

theorem GraphWritten.wrote (h : GraphWritten dot s text made) :
    Wrote directory dot (converted text) none s made := by
  obtain ⟨hwritable, rfl⟩ := h.writable hs
  exact wrote_graph hwritable

include hname in
/-- A graph that is converted in one store is converted alike in the other. -/
theorem GraphWritten.transfer (h : GraphWritten dot s text made)
    (hsame : SameInputs directory dot s t) : ∃ made', GraphWritten dot t text made' := by
  obtain ⟨bytes, hread, htext⟩ := h.content
  have hsource : dot.sibling dot.name = dot := Path.sibling_name h.parts_ne_nil
  have hread' : t.read dot = .ok bytes := by
    rw [← hsource, ← hs.read_eq (hsame.ways.looksIn hs) hname hsame.source, hsource, hread]
  have hwritable := (h.writable hs).1.of_sameWays hsame.ways
  exact ⟨_, ⟨bytes, hread', htext⟩, h.whole, hwritable.write_eq _⟩

end

section

variable {nesting : Nat} {report : Report} (hs : s.LooksIn dot directory)
  (hname : Store.IsName dot.name)
include hs

include hname in
/-- What a conversion reports and what it writes depends on its inputs alone. -/
theorem Returns.depends (h : Returns dot nesting s report left) : ∃ graph side,
    Wrote directory dot graph side s left ∧
      report.convertedJson = side.map (fun _ => jsonOutput dot) ∧
      ∀ t, SameInputs directory dot s t →
        ∃ left', Returns dot nesting t report left' ∧ Wrote directory dot graph side t left' := by
  cases h with
  | @skipped text made e hgraph hside =>
    have hmade := hgraph.wrote hs
    refine ⟨_, none, hmade, rfl, fun t hsame => ?_⟩
    obtain ⟨made', hgraph'⟩ := hgraph.transfer hs hname hsame
    have hmade' := hgraph'.wrote (hsame.ways.looksIn hs)
    have hinputs := hmade.sameInputs.symm.trans (hsame.trans hmade'.sameInputs)
    have hread := hinputs.read_sideFile (hmade.ways.looksIn hs)
    exact ⟨made', .skipped hgraph' (hread ▸ hside), hmade'⟩
  | @converted text made _ record result log hgraph hside hcells hwritten =>
    have hmade := hgraph.wrote hs
    have hlooks := hmade.ways.looksIn hs
    obtain ⟨hwritable, rfl⟩ := (hlooks.write_eq_ok (isName_jsonOutput dot)).mp hwritten
    refine ⟨_, some _, hmade.record_written hwritable, rfl, fun t hsame => ?_⟩
    obtain ⟨made', hgraph'⟩ := hgraph.transfer hs hname hsame
    have hmade' := hgraph'.wrote (hsame.ways.looksIn hs)
    have hinputs := hmade.sameInputs.symm.trans (hsame.trans hmade'.sameInputs)
    have hread := hinputs.read_sideFile hlooks
    have hwritable' := hwritable.of_sameWays hinputs.ways
    exact ⟨_, .converted hgraph' (hread ▸ hside) hcells (hwritable'.write_eq _),
      hmade'.record_written hwritable'⟩

/-- What is written is what the paths of the outputs lead to. -/
theorem Returns.locate_outputs (h : Returns dot nesting s report left) :
    s.locate (dotOutput dot) = .ok (graphPlace directory dot) ∧
      ∀ json, report.convertedJson = some json →
        json = jsonOutput dot ∧ s.locate json = .ok (recordPlace directory dot) := by
  cases h with
  | skipped hgraph hside => exact ⟨(hgraph.writable hs).1.locate, fun _ hjson => nomatch hjson⟩
  | @converted text made _ record result log hgraph hside hcells hwritten =>
    refine ⟨(hgraph.writable hs).1.locate, fun json hjson => ?_⟩
    obtain rfl := Option.some.inj hjson
    have hlooks := (hgraph.wrote hs).ways.looksIn hs
    have hwritable := ((hlooks.write_eq_ok (isName_jsonOutput dot)).mp hwritten).1
    exact ⟨rfl, (hs.locate_eq hlooks (isName_jsonOutput dot)).trans hwritable.locate⟩

end

end

/-- A conversion that has a report has changed nothing but what it reports, neither of its outputs
is one of its inputs, and it does the same again. -/
structure KeepsLane (dot : Path) (s : Session) (report : Report) (final : Session) : Prop where
  convertedDot : convertedPath? dot ".dot".toList = some report.convertedDot
  convertedJson : ∀ json, report.convertedJson = some json →
    convertedPath? dot ".json".toList = some json
  changed : ∀ place, final.store.entry? place ≠ s.store.entry? place →
    s.store.locate report.convertedDot = .ok place ∨
      ∃ json, report.convertedJson = some json ∧ s.store.locate json = .ok place
  apart : ∀ suffix ∈ [".dot", ".json"], ∃ output side,
    convertedPath? dot suffix.toList = some output ∧
      dot.withSuffix? ".json".toList = some side ∧ output ≠ dot ∧ output ≠ side ∧
      ∀ place, s.store.locate output = .ok place →
        s.store.locate dot ≠ .ok place ∧ s.store.locate side ≠ .ok place
  again : ∃ last, (convert dot).run final = (.ok report, last) ∧
    ∀ place, last.store.entry? place = final.store.entry? place

theorem Returns.convertedDot {dot : Path} {nesting : Nat} {s left : Store} {report : Report}
    (h : Returns dot nesting s report left) : report.convertedDot = dotOutput dot := by
  cases h <;> rfl

theorem Returns.exists_graphWritten {dot : Path} {nesting : Nat} {s left : Store} {report : Report}
    (h : Returns dot nesting s report left) : ∃ text made, GraphWritten dot s text made := by
  cases h with
  | skipped graph _ | converted graph _ _ _ => exact ⟨_, _, graph⟩

theorem Returns.keepsLane {dot : Path} {s final : Session} {report : Report} {directory : Place}
    (hproper : dot.IsProper) (hparts : dot.parts ≠ []) (hs : s.store.LooksIn dot directory)
    (hname : Store.IsName dot.name) (h : Returns dot s.nesting s.store report final.store)
    (hnesting : final.nesting = s.nesting) :
    KeepsLane dot s report final where
  convertedDot := by
    rw [h.convertedDot]
    exact convertedPath?_eq hproper hparts (by decide)
  convertedJson json hjson := by
    rw [((h.locate_outputs hs).2 json hjson).1]
    exact convertedPath?_eq hproper hparts (by decide)
  changed place hplace := by
    obtain ⟨hdot, hjson⟩ := h.locate_outputs hs
    obtain ⟨graph, side, hwrote, hside, _⟩ := h.depends hs hname
    by_cases hgraph : place = graphPlace directory dot
    · rw [h.convertedDot, hgraph]
      exact Or.inl hdot
    · by_cases hrecord : place = recordPlace directory dot
      · cases side with
        | none =>
          rw [hrecord, hwrote.record] at hplace
          exact absurd rfl hplace
        | some bytes => exact Or.inr ⟨_, hside, hrecord ▸ (hjson _ hside).2⟩
      · exact absurd (hwrote.other place hgraph hrecord) hplace
  apart suffix hsuffix := by
    have hending : '/' ∉ suffix.toList ∧ '.' ∈ (Artifact.convertedMarker ++ suffix.toList).tail ∧
        Artifact.convertedMarker ++ suffix.toList ≠ ".json".toList ∧
        2 < (Artifact.convertedMarker ++ suffix.toList).length := by
      rcases List.mem_pair.mp hsuffix with rfl | rfl <;> decide
    obtain ⟨hslash, hdot, hjson, hlong⟩ := hending
    have hsource := hs.apart (Path.isName_beside hlong) hname (Path.stem_append_ne_name hdot)
    have hside := hs.apart (Path.isName_beside hlong) (isName_sideFile dot)
      fun heq => hjson (List.append_cancel_left heq)
    rw [Path.sibling_name hparts] at hsource
    exact ⟨_, sideFile dot, convertedPath?_eq hproper hparts hslash,
      withSuffix?_json hproper hparts, hsource.1, hside.1, fun place hplace =>
        ⟨hsource.2 place hplace, hside.2 place hplace⟩⟩
  again := by
    obtain ⟨graph, side, hwrote, _, htransfer⟩ := h.depends hs hname
    obtain ⟨left, hleft, hagain⟩ := htransfer final.store hwrote.sameInputs
    rw [← hnesting] at hleft
    obtain ⟨last, hrun, rfl⟩ := hleft.run hproper
    refine ⟨last, hrun, fun place => ?_⟩
    by_cases hgraph : place = graphPlace directory dot
    · rw [hgraph, hagain.graph, hwrote.graph]
    · by_cases hrecord : place = recordPlace directory dot
      · rw [hrecord, hagain.record]
        cases side with
        | none => rfl
        | some bytes => exact hwrote.record.symm
      · exact hagain.other place hgraph hrecord

/-- A conversion in a directory without links keeps to its outputs, and one whose graph file cannot
be read, or has no text, changes nothing. -/
theorem convert_keeps_lane {s : Session} {written : Text}
    (hlinks : s.store.UnlinkedBeside (Path.ofText written)) :
    (∀ report final, (convert (Path.ofText written)).run s = (.ok report, final) →
      KeepsLane (Path.ofText written) s report final) ∧
    ((¬ ∃ bytes text, s.store.read (Path.ofText written) = .ok bytes ∧
        Utf8.decode? bytes = some text) →
      ∃ e, (convert (Path.ofText written)).run s = (.error e, s)) := by
  refine ⟨fun report final hrun => ?_, run_convert_unread⟩
  have hproper := Path.isProper_ofText written
  rcases run_convert_cases hproper hrun with ⟨_, herror, _⟩ | ⟨found, hreport, hreturns, hnesting⟩
  · cases herror
  · obtain rfl := Except.ok.inj hreport
    obtain ⟨text, made, hgraph⟩ := hreturns.exists_graphWritten
    obtain ⟨bytes, hread, _⟩ := hgraph.content
    obtain ⟨directory, hlooks, hname⟩ := Store.looksIn_of_read hread hlinks
    exact hreturns.keepsLane hproper hgraph.parts_ne_nil hlooks hname hnesting

theorem unlinkedBeside_graphWithSide (side : Bytes) (p : Path) :
    (graphWithSide side).UnlinkedBeside p :=
  Store.unlinkedBeside_of_entries (by simp [graphWithSide]) p

theorem convert_keeps_lane_record : ∃ report final,
    (convert (Path.ofString "x.dot")).run (.ofStore (graphWithSide plainRecord)) =
        (.ok report, final) ∧
      report.convertedJson = some (Path.ofString "x.converted.json") ∧
      KeepsLane (Path.ofString "x.dot") (.ofStore (graphWithSide plainRecord)) report final := by
  have hrun : ((convert (Path.ofString "x.dot")).run (.ofStore (graphWithSide plainRecord))).1 =
      .ok ⟨Path.ofString "x.dot", Path.ofString "x.converted.dot",
        some (Path.ofString "x.converted.json"), 0, none⟩ := by cbv
  refine ⟨_, _, Prod.ext hrun rfl, rfl, ?_⟩
  exact (convert_keeps_lane (unlinkedBeside_graphWithSide plainRecord _)).1 _ _
    (Prod.ext hrun rfl)

end Dependency

end DepView
