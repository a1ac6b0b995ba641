import DepView.Batch
import DepView.Proofs.ConversionRuns
import DepView.Proofs.DumpNames

/-!
The dependency stage and the names in it. The analyzer's output is named by putting endings behind a
name, and the conversion takes the name of the graph file apart again. The two agree exactly if the
name has a last component, whatever dots or slashes are in it. Then the stage ends as the conversion
in it does, since the graph that it looks for at its end is the one that was written.
-/

namespace DepView

open Text

namespace Text

/-- A text is what stands before its last piece, and this piece. -/
theorem exists_append_lastPiece (p : Char → Bool) (text : Text) : ∃ before,
    text = before ++ lastPiece p text ∧ ∀ c ∈ before.getLast?, p c = true := by
  refine ⟨(text.reverse.dropWhile fun c => !p c).reverse, ?_, ?_⟩
  · rw [lastPiece, ← List.reverse_append, List.takeWhile_append_dropWhile, List.reverse_reverse]
  · intro c hc
    rw [List.getLast?_reverse] at hc
    have hnot := List.head?_dropWhile_not (fun c => !p c) text.reverse
    rw [Option.mem_def.mp hc] at hnot
    simpa using hnot

end Text

/-- A text that names a file is a way to a directory and the name in it. -/
theorem exists_directories (text : Text) : ∃ before, IsDirectories before ∧
    text = before ++ lastPiece (· == '/') text ∧ '/' ∉ lastPiece (· == '/') text := by
  obtain ⟨before, heq, hlast⟩ := exists_append_lastPiece (· == '/') text
  refine ⟨before, ?_, heq, fun hslash => ?_⟩
  · cases hend : before.getLast? with
    | none => exact Or.inl (List.getLast?_eq_none_iff.mp hend)
    | some c =>
      have hc : c = '/' := by simpa using hlast c hend
      exact Or.inr (hc ▸ hend)
  · simpa using Dependency.class_of_mem_lastPiece hslash

namespace Path

variable {before last : Text}

theorem rootOf_append (hslash : '/' ∉ last) : rootOf (before ++ last) = rootOf before := by
  have hsame : (before ++ last).takeWhile (· == '/') = before.takeWhile (· == '/') := by
    rw [List.takeWhile_append, takeWhile_slash hslash, List.append_nil]
    split
    · rename_i hall
      exact ((List.takeWhile_prefix _).eq_of_length hall).symm
    · rfl
  rw [rootOf, hsame, rootOf]

theorem partsOf_append (hbefore : IsDirectories before) (hslash : '/' ∉ last)
    (hlong : 1 < last.length) : partsOf (before ++ last) = partsOf before ++ [last] := by
  have hkept := isKept_of_long hlong
  rcases hbefore with rfl | hend
  · simp [partsOf, splitAt_of_notMem hslash, splitAt, hkept]
  · obtain ⟨start, rfl⟩ := List.getLast?_eq_some_iff.mp hend
    rw [List.append_assoc, List.singleton_append, partsOf, partsOf, splitAt_append, splitAt_append,
      splitAt_of_notMem hslash, List.filter_append, List.filter_append]
    simp [splitAt, hkept]

/-- A name behind a way is the path of that name in the directory that the way leads to. -/
theorem div_ofText_append (hbefore : IsDirectories before) (hslash : '/' ∉ last)
    (hlong : 1 < last.length) (directory : Path) :
    directory / ofText (before ++ last) = Store.inside (directory / ofText before) last := by
  have htext : ofText (before ++ last) = Store.inside (ofText before) last := by
    rw [ofText, rootOf_append hslash, partsOf_append hbefore hslash hlong]
    rfl
  rw [htext]
  change append directory (Store.inside (ofText before) last) =
    Store.inside (append directory (ofText before)) last
  -- The name is absolute if the way before it is.
  have habsolute : (Store.inside (ofText before) last).isAbsolute =
      (ofText before).isAbsolute := rfl
  unfold append
  rw [habsolute]
  split
  · rfl
  · simp [Store.inside_eq]

theorem beside_inside (directory : Path) (name ending : Text) :
    (Store.inside directory name).beside ending =
      Store.inside directory ((splitName name).1 ++ ending) := by
  have hstem : (Store.inside directory name).stem = (splitName name).1 := by
    rw [stem, Store.name_inside]
  rw [beside, hstem]
  simp [Store.inside_eq]

theorem IsProper.div {p q : Path} (hp : p.IsProper) (hq : q.IsProper) : (p / q).IsProper := by
  change (append p q).IsProper
  unfold append
  split
  · exact hq
  · intro part hpart
    rcases List.mem_append.mp hpart with h | h
    · exact hp part h
    · exact hq part h

end Path

namespace Store

variable {s t : Store} {p q : Path} {bytes : Bytes}

/-- What can be read can still be read when another file, or this one, was written. -/
theorem isFile_write (h : s.write p bytes = .ok t) (hq : s.isFile q = .ok true) :
    t.isFile q = .ok true := by
  obtain ⟨place, hwritable, rfl⟩ := writable_of_write h
  obtain ⟨held, hread⟩ := isFile_eq_true.mp hq
  rw [isFile_eq_true]
  by_cases hplace : s.locate q = .ok place
  · exact ⟨bytes, hwritable.read_setEntry bytes hplace⟩
  · exact ⟨held, (hwritable.read_setEntry_other bytes hplace).mpr hread⟩

end Store

namespace Dependency

/-- A conversion with a report leaves the converted graph in its place. -/
theorem Returns.isFile {dot : Path} {nesting : Nat} {s left : Store} {report : Report}
    (h : Returns dot nesting s report left) : left.isFile (dotOutput dot) = .ok true := by
  cases h with
  | skipped graph side => exact Store.isFile_eq_true.mpr ⟨_, Store.read_of_write graph.written⟩
  | converted graph side cells written =>
    exact Store.isFile_write written
      (Store.isFile_eq_true.mpr ⟨_, Store.read_of_write graph.written⟩)

end Dependency

namespace Analyzer

variable {s s' : Session} {directory dot : Path} {name : Text}

theorem run_findDot (h : s.store.isFile (directory / Path.ofText (name ++ ".dot".toList)) =
      .ok true) :
    (findDot directory name).run s =
      (.ok (directory / Path.ofText (name ++ ".dot".toList)), s) := by
  unfold findDot
  rw [Action.run_bind_of_ok (Action.run_askFiles h)]
  rfl

theorem eq_of_run_findDot (h : (findDot directory name).run s = (.ok dot, s')) :
    dot = directory / Path.ofText (name ++ ".dot".toList) := by
  unfold findDot at h
  obtain ⟨found, between, _, hrest⟩ := Action.run_bind_eq_ok h
  cases found with
  | false => cases hrest
  | true => exact (Except.ok.inj (Prod.mk.inj hrest).1).symm

/-- An analysis with a result gives the graph file of its name. -/
theorem eq_of_run_analyze {analyzer : Analyzer} {r : Analyzer.Request}
    (h : (analyzer.analyze r).run s = (.ok dot, s')) :
    dot = r.directory / Path.ofText (r.outputName ++ ".dot".toList) := by
  unfold analyze at h
  obtain ⟨_, _, _, h⟩ := Action.run_bind_eq_ok h
  split at h
  · cases h
  · obtain ⟨found, _, _, h⟩ := Action.run_bind_eq_ok h
    cases found with
    | false => cases h
    | true =>
      obtain ⟨_, _, _, h⟩ := Action.run_bind_eq_ok h
      exact eq_of_run_findDot h

end Analyzer

namespace Batch

variable {settings : Settings}

/-- The file that has the analyzer's name for its output, with an ending. -/
def outputFile (settings : Settings) (r : Request) (ending : Text) : Path :=
  r.directory / Path.ofText (settings.outputName ++ ending)

/-- All these files are in one directory, named by the last component and the ending. -/
theorem exists_outputFile (settings : Settings) (r : Request) : ∃ directory, ∀ ending,
    '/' ∉ ending → 1 < ending.length → outputFile settings r ending =
      Store.inside directory (lastPiece (· == '/') settings.outputName ++ ending) := by
  obtain ⟨before, hbefore, hname, hslash⟩ := exists_directories settings.outputName
  refine ⟨r.directory / Path.ofText before, fun ending hending hlong => ?_⟩
  have hfile : '/' ∉ lastPiece (· == '/') settings.outputName ++ ending := by
    rw [List.mem_append, not_or]
    exact ⟨hslash, hending⟩
  have hlonger : 1 < (lastPiece (· == '/') settings.outputName ++ ending).length := by
    rw [List.length_append]
    omega
  have htext : settings.outputName ++ ending =
      before ++ (lastPiece (· == '/') settings.outputName ++ ending) := by
    rw [← List.append_assoc, ← hname]
  rw [outputFile, htext]
  exact Path.div_ofText_append hbefore hfile hlonger r.directory

/-- Beside the graph file, an ending stands in for the ending of the graph file, if there is a last
component before it. -/
theorem beside_outputFile (r : Request) (hname : lastPiece (· == '/') settings.outputName ≠ [])
    {ending : Text} (hslash : '/' ∉ ending) (hlong : 1 < ending.length) :
    (outputFile settings r ".dot".toList).beside ending = outputFile settings r ending := by
  obtain ⟨directory, hfiles⟩ := exists_outputFile settings r
  have hsplit : Path.splitName (lastPiece (· == '/') settings.outputName ++ ".dot".toList) =
      (lastPiece (· == '/') settings.outputName, ".dot".toList) :=
    splitName_append hname (by decide) (by decide)
  rw [hfiles _ (by decide) (by decide), hfiles _ hslash hlong, Path.beside_inside, hsplit]

/-- The stage looks for the file that the conversion writes exactly if the name of the output has a
last component. -/
theorem dotOutput_outputFile_iff (r : Request) :
    Dependency.dotOutput (outputFile settings r ".dot".toList) =
        outputFile settings r (Artifact.convertedMarker ++ ".dot".toList) ↔
      lastPiece (· == '/') settings.outputName ≠ [] := by
  refine ⟨fun h hname => ?_, fun hname => beside_outputFile r hname (by decide) (by decide)⟩
  obtain ⟨directory, hfiles⟩ := exists_outputFile settings r
  rw [hfiles _ (by decide) (by decide), hfiles _ (by decide) (by decide), hname,
    Dependency.dotOutput, Path.beside_inside] at h
  have hnames := congrArg Path.name h
  rw [Store.name_inside, Store.name_inside] at hnames
  exact absurd hnames (by decide)

theorem isProper_outputFile {r : Request} (hdirectory : r.directory.IsProper) (ending : Text) :
    (outputFile settings r ending).IsProper :=
  hdirectory.div (Path.isProper_ofText _)

theorem parts_outputFile_ne_nil (settings : Settings) (r : Request) :
    (outputFile settings r ".dot".toList).parts ≠ [] := by
  obtain ⟨directory, hfiles⟩ := exists_outputFile settings r
  rw [hfiles _ (by decide) (by decide), Store.inside_eq]
  simp

/-- What a conversion with a report has done to the files of the stage. -/
structure KeepsToNames (settings : Settings) (r : Request) (s : Session)
    (report : Dependency.Report) (final : Session) : Prop where
  source : report.source = outputFile settings r ".dot".toList
  convertedDot : report.convertedDot =
    outputFile settings r (Artifact.convertedMarker ++ ".dot".toList)
  /-- The graph is read and its converted form written, and then the side file is read. It is
  passed over or written in its converted form. -/
  files : ∃ bytes text made,
    s.store.read (outputFile settings r ".dot".toList) = .ok bytes ∧
    Utf8.decode? bytes = some text ∧
    s.store.write (outputFile settings r (Artifact.convertedMarker ++ ".dot".toList))
      (Dependency.converted text) = .ok made ∧
    ((∃ e, Dependency.sideFileAt s.nesting (outputFile settings r ".json".toList)
          (made.read (outputFile settings r ".json".toList)) = .ok (.error e) ∧
        report.sideFileError = some e ∧ report.convertedJson = none ∧ final.store = made) ∨
      ∃ record result log, Dependency.sideFileAt s.nesting (outputFile settings r ".json".toList)
          (made.read (outputFile settings r ".json".toList)) = .ok (.ok record) ∧
        report.sideFileError = none ∧ report.convertedJson =
          some (outputFile settings r (Artifact.convertedMarker ++ ".json".toList)) ∧
        Dependency.convertCells record = .ok (result, log) ∧
        made.write (outputFile settings r (Artifact.convertedMarker ++ ".json".toList))
          (Utf8.encode result.indented) = .ok final.store)
  checked : (Analyzer.findDot r.directory (settings.outputName ++ Artifact.convertedMarker)).run
    final = (.ok report.convertedDot, final)

section

variable {r : Request} {s final : Session} {report : Dependency.Report}
  (hname : lastPiece (· == '/') settings.outputName ≠ [])
include hname

/-- The graph file that the stage looks for at its end is there when a conversion has a report. -/
theorem run_findDot_of_returns
    (h : Dependency.Returns (outputFile settings r ".dot".toList) s.nesting s.store report
      final.store) :
    (Analyzer.findDot r.directory (settings.outputName ++ Artifact.convertedMarker)).run final =
      (.ok (outputFile settings r (Artifact.convertedMarker ++ ".dot".toList)), final) := by
  have hfile := h.isFile
  rw [(dotOutput_outputFile_iff r).mpr hname, outputFile, ← List.append_assoc] at hfile
  rw [outputFile, ← List.append_assoc]
  exact Analyzer.run_findDot hfile

theorem keepsToNames_of_returns
    (h : Dependency.Returns (outputFile settings r ".dot".toList) s.nesting s.store report
      final.store) :
    KeepsToNames settings r s report final := by
  have hchecked := run_findDot_of_returns hname h
  have hdot := (dotOutput_outputFile_iff r).mpr hname
  have hside : Dependency.sideFile (outputFile settings r ".dot".toList) =
      outputFile settings r ".json".toList := beside_outputFile r hname (by decide) (by decide)
  have hjson : Dependency.jsonOutput (outputFile settings r ".dot".toList) =
      outputFile settings r (Artifact.convertedMarker ++ ".json".toList) :=
    beside_outputFile r hname (by decide) (by decide)
  generalize hleft : final.store = left at h
  cases h with
  | skipped graph side =>
    obtain ⟨bytes, hread, htext⟩ := graph.content
    have hwritten := graph.written
    rw [hdot] at hwritten
    rw [hside] at side
    refine ⟨rfl, hdot, ⟨bytes, _, left, hread, htext, hwritten, Or.inl ?_⟩, hdot ▸ hchecked⟩
    exact ⟨_, side, rfl, rfl, hleft⟩
  | converted graph side cells written =>
    obtain ⟨bytes, hread, htext⟩ := graph.content
    have hwritten := graph.written
    rw [hdot] at hwritten
    rw [hside] at side
    rw [hjson, ← hleft] at written
    refine ⟨rfl, hdot, ⟨bytes, _, _, hread, htext, hwritten, Or.inr ?_⟩, hdot ▸ hchecked⟩
    exact ⟨_, _, _, side, rfl, congrArg some hjson, cells, written⟩

/-- After the analysis, the stage is its conversion: the last check finds what it looks for. -/
theorem run_dependencies {analyzer : Analyzer} {analyzed : Session}
    (hdirectory : r.directory.IsProper)
    (hrun : (analyzer.analyze (analyzerRequest settings r)).run s =
      (.ok (outputFile settings r ".dot".toList), analyzed)) :
    (dependencies analyzer settings r).run s =
      (Dependency.convert (outputFile settings r ".dot".toList)).run analyzed := by
  unfold dependencies
  rw [Action.run_bind_of_ok hrun]
  cases hconvert : (Dependency.convert (outputFile settings r ".dot".toList)).run analyzed with
  | mk result final =>
    rcases Dependency.run_convert_cases (isProper_outputFile hdirectory _) hconvert with
      ⟨e, rfl, _⟩ | ⟨report, rfl, hreturns, _⟩
    · exact Action.run_bind_of_error hconvert _
    · rw [Action.run_bind_of_ok hconvert,
        Action.run_bind_of_ok (run_findDot_of_returns hname hreturns)]
      rfl

end

/-- If the analysis has a result, it is the graph file of the output's name. The conversion of it
reads the side file of that name and writes the converted graph of that name, and the stage ends as
the conversion does: after a report, it looks for the converted graph of the report and finds it. -/
theorem dependencies_keep_names {analyzer : Analyzer} {r : Request} {s analyzed : Session}
    {dot : Path} (hdirectory : r.directory.IsProper)
    (hname : lastPiece (· == '/') settings.outputName ≠ [])
    (hrun : (analyzer.analyze (analyzerRequest settings r)).run s = (.ok dot, analyzed)) :
    dot = outputFile settings r ".dot".toList ∧
      dot.withSuffix? ".json".toList = some (outputFile settings r ".json".toList) ∧
      Dependency.convertedPath? dot ".dot".toList =
        some (outputFile settings r (Artifact.convertedMarker ++ ".dot".toList)) ∧
      (dependencies analyzer settings r).run s = (Dependency.convert dot).run analyzed ∧
      (∀ report final, (Dependency.convert dot).run analyzed = (.ok report, final) →
        KeepsToNames settings r analyzed report final) ∧
      ∀ e final, (Dependency.convert dot).run analyzed = (.error e, final) →
        final.store = analyzed.store ∨ ∃ bytes, analyzed.store.write
          (outputFile settings r (Artifact.convertedMarker ++ ".dot".toList)) bytes =
            .ok final.store := by
  obtain rfl : dot = outputFile settings r ".dot".toList := Analyzer.eq_of_run_analyze hrun
  have hproper : (outputFile settings r ".dot".toList).IsProper :=
    isProper_outputFile hdirectory _
  have hparts := parts_outputFile_ne_nil settings r
  have hdot := (dotOutput_outputFile_iff r).mpr hname
  refine ⟨rfl, ?_, ?_, run_dependencies hname hdirectory hrun, ?_, ?_⟩
  · rw [Dependency.withSuffix?_json hproper hparts]
    exact congrArg some (beside_outputFile r hname (by decide) (by decide))
  · rw [Dependency.convertedPath?_eq hproper hparts (by decide)]
    exact congrArg some hdot
  · intro report final hconvert
    rcases Dependency.run_convert_cases hproper hconvert with
      ⟨_, herror, _⟩ | ⟨found, hreport, hreturns, _⟩
    · cases herror
    · obtain rfl := Except.ok.inj hreport
      exact keepsToNames_of_returns hname hreturns
  · intro e final hconvert
    rcases Dependency.run_convert_cases hproper hconvert with ⟨_, _, hleft⟩ | ⟨_, hreport, _⟩
    · rwa [hdot] at hleft
    · cases hreport

/-- Settings with an output in a directory below, with dots and the mark of what is converted. -/
def dottedSettings : Settings :=
  { Settings.standard with outputName := "v1/.a.converted".toList }

def dottedRequest : Request :=
  ⟨"python".toList, .ofString "src", .ofString "out", false, true⟩

/-- The analyzer's program and the directory for its output. -/
def analyzerStore : Store where
  current := [['w']]
  entries := [([['w'], "depends.jar".toList], .file []), ([['w'], "out".toList], .dir),
    ([['w'], "out".toList, "v1".toList], .dir)]

/-- An analyzer that leaves a graph with one edge there. -/
def edgeWriter : Analyzer where
  isInstalled _ := true
  run _ store := .ok (0, store.setEntry [['w'], "out".toList, "v1".toList,
    ".a.converted.dot".toList] (.file (Utf8.encode "0 -> 1;".toList)))

theorem dependencies_keep_names_dotted :
    dottedRequest.directory.IsProper ∧ lastPiece (· == '/') dottedSettings.outputName ≠ [] ∧
      ∃ analyzed report final,
        (edgeWriter.analyze (analyzerRequest dottedSettings dottedRequest)).run
            (.ofStore analyzerStore) = (.ok (.ofString "out/v1/.a.converted.dot"), analyzed) ∧
          (dependencies edgeWriter dottedSettings dottedRequest).run (.ofStore analyzerStore) =
            (.ok report, final) ∧
          report.convertedDot = .ofString "out/v1/.a.converted.converted.dot" := by
  have hdirectory : dottedRequest.directory.IsProper := Path.isProper_ofText _
  have hname : lastPiece (· == '/') dottedSettings.outputName ≠ [] := by decide
  have hrequest : analyzerRequest dottedSettings dottedRequest =
      ⟨"python".toList, .ofString "src", .ofString "out", .ofString "depends.jar", "java".toList,
        "v1/.a.converted".toList⟩ := rfl
  rw [hrequest]
  generalize hend : (edgeWriter.analyze _).run (.ofStore analyzerStore) = analysis
  have hdot : analysis.1 = .ok (.ofString "out/v1/.a.converted.dot") := by
    rw [← hend]
    cbv
  have hreport : ((Dependency.convert (.ofString "out/v1/.a.converted.dot")).run analysis.2).1 =
      .ok ⟨.ofString "out/v1/.a.converted.dot", .ofString "out/v1/.a.converted.converted.dot", none,
        0, some ⟨.ofString "out/v1/.a.converted.json", "side file not found".toList⟩⟩ := by
    rw [← hend]
    cbv
  obtain ⟨_, _, _, hstage, hreports, _⟩ :=
    dependencies_keep_names hdirectory hname (hend.trans (Prod.ext hdot rfl))
  exact ⟨hdirectory, hname, analysis.2, _, _, Prod.ext hdot rfl,
    hstage.trans (Prod.ext hreport rfl),
    (hreports _ _ (Prod.ext hreport rfl)).convertedDot.trans (by decide)⟩

end Batch

end DepView
