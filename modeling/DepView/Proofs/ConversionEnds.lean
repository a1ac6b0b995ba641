import DepView.Proofs.JsonAscii
import DepView.Proofs.OutputPaths
import DepView.Proofs.RelabelledText
import DepView.Proofs.SideFiles
import Mathlib

/-!
How a conversion ends. The graph file is converted before the side file is looked at, so its
converted form is there however the conversion ends. A side file that is missing, or cannot be
read, or has not the shape of a record is reported with one warning, and a proper one is
converted; only bytes that are not UTF-8, and a text that is too much for the interpreter, leave the
run without a report.
-/

namespace DepView.Dependency

open Text

/-- Where the converted graph goes. -/
def dotOutput (dot : Path) : Path :=
  dot.beside (Artifact.convertedMarker ++ ".dot".toList)

/-- Where the converted side file goes. -/
def jsonOutput (dot : Path) : Path :=
  dot.beside (Artifact.convertedMarker ++ ".json".toList)

/-- The side file of a graph file. -/
def sideFile (dot : Path) : Path :=
  dot.beside ".json".toList

/-- A graph file with a UTF-8 text whose outputs can be written, each at a place of its own and
none of them over the side file. -/
structure Convertible (s : Store) (dot : Path) (text : Text) (dotPlace jsonPlace : Place) :
    Prop where
  proper : dot.IsProper
  content : ∃ bytes, s.read dot = .ok bytes ∧ Utf8.decode? bytes = some text
  whole : holdsSurrogate text = false
  dotOutput : s.Writable (dotOutput dot) dotPlace
  jsonOutput : s.Writable (jsonOutput dot) jsonPlace
  outputs_apart : dotPlace ≠ jsonPlace
  side_apart : s.locate (sideFile dot) ≠ .ok dotPlace

/-- The converted text of a graph file. -/
def converted (text : Text) : Bytes :=
  Utf8.encode (relabel (foldNewlines text))

/-- What is told about a graph file with a number of labels. -/
def graphLog (dot : Path) (labels : Nat) : Log :=
  [⟨.debug, .conversion, "Resolved ".toList ++ Decimal.digits labels ++ " labels from ".toList ++
      dot.toText⟩,
    ⟨.info, .conversion, "DOT ids converted -> ".toList ++ (dotOutput dot).toText⟩]

/-- What is told about a side file that was converted. -/
def convertedNote (dot : Path) : Log.Entry where
  level := .info
  topic := .conversion
  message := "JSON converted -> ".toList ++ (jsonOutput dot).toText

/-- The warning about a side file that was passed over. -/
def skipped (e : SideFileError) : Log.Entry where
  level := .warning
  topic := .conversion
  message := "Skipping side file ".toList ++ e.path.toText ++ [':', ' '] ++ e.message

theorem convertedPath?_eq {dot : Path} (hproper : dot.IsProper) (hparts : dot.parts ≠ [])
    {suffix : Text} (hsuffix : '/' ∉ suffix) :
    convertedPath? dot suffix = some (dot.beside (Artifact.convertedMarker ++ suffix)) := by
  have hmarker : '/' ∉ Artifact.convertedMarker ∧ 1 < Artifact.convertedMarker.length := by decide
  have hslash : '/' ∉ Artifact.convertedMarker ++ suffix := by
    rw [List.mem_append, not_or]
    exact ⟨hmarker.1, hsuffix⟩
  have hlong : 1 < (Artifact.convertedMarker ++ suffix).length := by
    rw [List.length_append]
    omega
  unfold convertedPath?
  rw [List.append_assoc]
  exact Path.withName?_stem hproper hparts hslash hlong

theorem run_convertedPath {dot : Path} (hproper : dot.IsProper) (hparts : dot.parts ≠ [])
    (s : Session) {suffix : String} (hsuffix : '/' ∉ suffix.toList) :
    (convertedPath dot suffix).run s =
      (.ok (dot.beside (Artifact.convertedMarker ++ suffix.toList)), s) := by
  unfold convertedPath
  rw [convertedPath?_eq hproper hparts hsuffix]
  rfl

/-- A graph file was read as a text, and its converted form was written. -/
structure GraphWritten (dot : Path) (s : Store) (text : Text) (made : Store) : Prop where
  content : ∃ bytes, s.read dot = .ok bytes ∧ Utf8.decode? bytes = some text
  whole : holdsSurrogate (relabel (foldNewlines text)) = false
  written : s.write (dotOutput dot) (converted text) = .ok made

theorem GraphWritten.parts_ne_nil {dot : Path} {s made : Store} {text : Text}
    (h : GraphWritten dot s text made) : dot.parts ≠ [] := by
  obtain ⟨bytes, hread, _⟩ := h.content
  exact Store.parts_ne_nil_of_read hread

/-- The graph is converted whatever the side file is, and nothing is warned of so far. -/
theorem GraphWritten.run_convert {dot : Path} {s : Session} {text : Text} {made : Store}
    (h : GraphWritten dot s.store text made) (hproper : dot.IsProper) :
    let labels := (labelsOf (foldNewlines text)).length
    (convert dot).run s =
      (convertSideFile dot ⟨dot, dotOutput dot, none, labels, none⟩).run
        { s with store := made, log := s.log ++ graphLog dot labels } := by
  obtain ⟨bytes, hread, htext⟩ := h.content
  have hpath : ∀ s, (convertedPath dot ".dot").run s = (.ok (dotOutput dot), s) :=
    fun s => run_convertedPath hproper h.parts_ne_nil s (by decide)
  have hwrite : ∀ log, (Action.writeText (dotOutput dot) (relabel (foldNewlines text))).run
      { s with log } = (.ok (), { s with log, store := made }) :=
    fun log => Action.run_writeText { s with log } h.whole h.written
  unfold convert
  rw [Action.run_bind_of_ok (Action.run_readText _ hread htext)]
  dsimp only
  rw [foldCrlf_foldNewlines, Action.run_bind_of_ok (Action.run_note _ _ _),
    Action.run_bind_of_ok (hpath _), ← relabel_foldNewlines, Action.run_bind_of_ok (hwrite _),
    Action.run_bind_of_ok (Action.run_note _ _ _)]
  dsimp only [graphLog]
  rw [List.append_cons s.log _ [_]]

section

variable {dot : Path} (hproper : dot.IsProper) (hparts : dot.parts ≠ []) {s : Session}
  {report : Report}
include hproper hparts

theorem withSuffix?_json : dot.withSuffix? ".json".toList = some (sideFile dot) :=
  Path.withName?_stem hproper hparts (by decide) (by decide)

theorem run_convertSideFile_spoilt {failure : Failure}
    (hside : (loadSideFile (sideFile dot)).run s = (.error failure, s)) :
    (convertSideFile dot report).run s = (.error failure, s) := by
  unfold convertSideFile
  rw [withSuffix?_json hproper hparts]
  exact Action.run_bind_of_error hside _

theorem run_convertSideFile_skipped {e : SideFileError} (he : e.path = sideFile dot)
    (hside : (loadSideFile (sideFile dot)).run s = (.ok (.error e), s)) :
    (convertSideFile dot report).run s =
      (.ok { report with sideFileError := some e }, { s with log := s.log ++ [skipped e] }) := by
  unfold convertSideFile
  rw [withSuffix?_json hproper hparts]
  dsimp only
  rw [Action.run_bind_of_ok hside]
  dsimp only
  rw [Action.run_bind_of_ok (Action.run_note _ _ _), ← he]
  rfl

theorem run_convertSideFile_converted {value result : Json} {log : Log} {left : Store}
    (hwritten : s.store.write (jsonOutput dot) (Utf8.encode result.indented) = .ok left)
    (hcells : convertCells value = .ok (result, log))
    (hside : (loadSideFile (sideFile dot)).run s = (.ok (.ok value), s)) :
    (convertSideFile dot report).run s =
      (.ok { report with convertedJson := some (jsonOutput dot) },
        { s with store := left, log := s.log ++ log ++ [convertedNote dot] }) := by
  have hpath : ∀ s, (convertedPath dot ".json").run s = (.ok (jsonOutput dot), s) :=
    fun s => run_convertedPath hproper hparts s (by decide)
  have hwhole := (Json.isAscii_indented result).holdsSurrogate
  have hwrite : ∀ log, (Action.writeText (jsonOutput dot) result.indented).run { s with log } =
      (.ok (), { s with store := left, log }) :=
    fun log => Action.run_writeText { s with log } hwhole hwritten
  unfold convertSideFile
  rw [withSuffix?_json hproper hparts]
  dsimp only
  rw [Action.run_bind_of_ok hside]
  dsimp only
  rw [Action.run_bind_of_ok (hpath _), hcells]
  dsimp only
  rw [Action.run_bind_of_ok (Action.run_modify _), Action.run_bind_of_ok (hwrite _),
    Action.run_bind_of_ok (Action.run_note _ _ _)]
  rfl

end

namespace Convertible

variable {s : Session} {dot : Path} {text : Text} {dotPlace jsonPlace : Place}

theorem graphWritten {s : Store} (h : Convertible s dot text dotPlace jsonPlace) :
    GraphWritten dot s text (s.setEntry dotPlace (.file (converted text))) where
  content := h.content
  whole := by
    rw [relabel_foldNewlines]
    apply holdsSurrogate_relabelWith (cr_notMem_foldNewlines text)
    rw [holdsSurrogate_eq_false]
    exact isChain_foldNewlines (holdsSurrogate_eq_false.mp h.whole)
  written := h.dotOutput.write_eq (converted text)

theorem run_convert (h : Convertible s.store dot text dotPlace jsonPlace) :
    let labels := (labelsOf (foldNewlines text)).length
    (convert dot).run s =
      (convertSideFile dot ⟨dot, Dependency.dotOutput dot, none, labels, none⟩).run
        { s with
          store := s.store.setEntry dotPlace (.file (converted text))
          log := s.log ++ graphLog dot labels } :=
  h.graphWritten.run_convert h.proper

/-- Why the side file cannot be read is never that its path has no form for the system. -/
theorem isOfText_sideFile {s s' : Store} (h : Convertible s dot text dotPlace jsonPlace)
    {fault : Store.Fault} (hread : s'.read (sideFile dot) = .error fault) :
    fault.isOfText = false := by
  have hlocate : s.locate (dot.beside ('.' :: "converted.dot".toList)) = .ok dotPlace :=
    h.dotOutput.locate
  have hread' : s'.read (dot.beside ('.' :: "json".toList)) = .error fault := hread
  apply Store.isOfText_read_beside hlocate _ (by decide) hread'
  simp [isOrdinary_of_isAscii]

/-- The converted graph is not written over the side file. -/
theorem holdsRecord_iff {s : Store} (h : Convertible s dot text dotPlace jsonPlace)
    (content : Bytes) (value : Json) :
    HoldsRecord (s.setEntry dotPlace (.file content)) (sideFile dot) value ↔
      HoldsRecord s (sideFile dot) value := by
  simp only [HoldsRecord, h.dotOutput.read_setEntry_other content h.side_apart]

theorem spoils_iff {s : Store} (h : Convertible s dot text dotPlace jsonPlace) (content : Bytes)
    (nesting : Nat) (failure : Failure) :
    Spoils (s.setEntry dotPlace (.file content)) nesting (sideFile dot) failure ↔
      Spoils s nesting (sideFile dot) failure := by
  constructor
  · exact fun hspoils => hspoils.of_read fun bytes =>
      (h.dotOutput.read_setEntry_other content h.side_apart).mp
  · exact fun hspoils => hspoils.of_read fun bytes =>
      (h.dotOutput.read_setEntry_other content h.side_apart).mpr

section

variable {s' : Session} {report : Report} {s : Store}
  (h : Convertible s dot text dotPlace jsonPlace)
include h

theorem run_convertSideFile_spoilt {failure : Failure}
    (hside : (loadSideFile (sideFile dot)).run s' = (.error failure, s')) :
    (convertSideFile dot report).run s' = (.error failure, s') :=
  Dependency.run_convertSideFile_spoilt h.proper h.graphWritten.parts_ne_nil hside

theorem run_convertSideFile_skipped {e : SideFileError} (he : e.path = sideFile dot)
    (hside : (loadSideFile (sideFile dot)).run s' = (.ok (.error e), s')) :
    (convertSideFile dot report).run s' =
      (.ok { report with sideFileError := some e }, { s' with log := s'.log ++ [skipped e] }) :=
  Dependency.run_convertSideFile_skipped h.proper h.graphWritten.parts_ne_nil he hside

theorem run_convertSideFile_converted
    (hwritable : s'.store.Writable (Dependency.jsonOutput dot) jsonPlace) {value result : Json}
    {log : Log} (hcells : convertCells value = .ok (result, log))
    (hside : (loadSideFile (sideFile dot)).run s' = (.ok (.ok value), s')) :
    (convertSideFile dot report).run s' =
      (.ok { report with convertedJson := some (Dependency.jsonOutput dot) },
        { s' with
          store := s'.store.setEntry jsonPlace (.file (Utf8.encode result.indented))
          log := s'.log ++ log ++ [convertedNote dot] }) :=
  Dependency.run_convertSideFile_converted h.proper h.graphWritten.parts_ne_nil
    (hwritable.write_eq _) hcells hside

end

end Convertible

/-! The end of a conversion. `made` is the store in which only the converted graph is new, and
`entries` is what the conversion has added to the log. -/

/-- A report on a converted side file. -/
structure ReportsRecord (dot : Path) (value : Json) (made : Store) (report : Report)
    (final : Session) (entries : Log) : Prop where
  source : report.source = dot
  convertedDot : report.convertedDot = dotOutput dot
  convertedJson : report.convertedJson = some (jsonOutput dot)
  sideFileError : report.sideFileError = none
  written : ∃ result log, convertCells value = .ok (result, log) ∧
    made.write (jsonOutput dot) (Utf8.encode result.indented) = .ok final.store
  warnings : ∀ e ∈ entries, e.level = .warning → e.topic = .cells

/-- A report on a side file that was passed over, with one warning and no file written. -/
structure ReportsSkip (dot : Path) (made : Store) (report : Report) (final : Session)
    (entries : Log) : Prop where
  source : report.source = dot
  convertedDot : report.convertedDot = dotOutput dot
  convertedJson : report.convertedJson = none
  sideFileError : ∃ e, report.sideFileError = some e ∧ e.path = sideFile dot ∧
    entries.filter (·.level == .warning) = [skipped e]
  unwritten : final.store = made

theorem level_of_mem_graphLog {dot : Path} {labels : Nat} {e : Log.Entry}
    (h : e ∈ graphLog dot labels) : e.level ≠ .warning := by
  rcases List.mem_pair.mp h with rfl | rfl <;> simp

/-- The conversion of a side file warns of its cells only. -/
theorem topic_of_warning {dot : Path} {labels : Nat} {log : Log}
    (hlog : ∀ e ∈ log, e.topic = .cells) {e : Log.Entry}
    (he : e ∈ graphLog dot labels ++ log ++ [convertedNote dot])
    (hwarning : e.level = .warning) : e.topic = .cells := by
  rw [List.mem_append, List.mem_append, List.mem_singleton] at he
  rcases he with (hgraph | hcell) | rfl
  · exact absurd hwarning (level_of_mem_graphLog hgraph)
  · exact hlog e hcell
  · cases hwarning

/-- A side file that is passed over is all that is warned of. -/
theorem warnings_skipped (dot : Path) (labels : Nat) (e : SideFileError) :
    (graphLog dot labels ++ [skipped e]).filter (·.level == .warning) = [skipped e] := by
  have hquiet : (graphLog dot labels).filter (·.level == .warning) = [] :=
    List.filter_eq_nil_iff.mpr fun e he => by simpa using level_of_mem_graphLog he
  rw [List.filter_append, hquiet]
  rfl

/-- A conversion ends with the converted graph in place. It reports on every side file but one
that is not UTF-8 or too much for the interpreter: that file ends the run with a failure, and no
warning tells of it. -/
theorem convert_ends {s : Session} {dot : Path} {text : Text} {dotPlace jsonPlace : Place}
    (h : Convertible s.store dot text dotPlace jsonPlace) :
    ∃ made result final entries,
      s.store.write (dotOutput dot) (converted text) = .ok made ∧
      (convert dot).run s = (result, final) ∧ final.log = s.log ++ entries ∧
      final.store.read (dotOutput dot) = .ok (converted text) ∧
      ((∀ failure, ¬ Spoils s.store s.nesting (sideFile dot) failure) →
        (∀ value, HoldsRecord s.store (sideFile dot) value →
          ∃ report, result = .ok report ∧ ReportsRecord dot value made report final entries) ∧
        ((∀ value, ¬ HoldsRecord s.store (sideFile dot) value) →
          ∃ report, result = .ok report ∧ ReportsSkip dot made report final entries)) ∧
      ∀ failure, Spoils s.store s.nesting (sideFile dot) failure →
        result = .error failure ∧ final.store = made ∧ ∀ e ∈ entries, e.level ≠ .warning := by
  have hmade := h.dotOutput.write_eq (converted text)
  have hread := h.dotOutput.read_setEntry (converted text) h.dotOutput.locate
  have hrun := h.run_convert
  generalize (labelsOf (foldNewlines text)).length = labels at hrun
  dsimp only at hrun
  -- The side file is looked at when the converted graph is in place already.
  set s₁ : Session :=
    { s with
      store := s.store.setEntry dotPlace (.file (converted text))
      log := s.log ++ graphLog dot labels } with hs₁
  rcases run_loadSideFile (s := s₁) fun fault => h.isOfText_sideFile with
    ⟨failure, hspoils, hside⟩ |
    ⟨hsound, ⟨value, hrecord, hside⟩ | ⟨hnoRecord, e, he, hside⟩⟩
  · have hend := hrun.trans (h.run_convertSideFile_spoilt hside)
    have hspoils' := (h.spoils_iff _ _ _).mp hspoils
    refine ⟨_, _, s₁, _, hmade, hend, rfl, hread, ?_, ?_⟩
    · exact fun hsound => absurd hspoils' (hsound failure)
    · intro other hother
      exact ⟨congrArg _ (hspoils'.unique hother), rfl, fun e => level_of_mem_graphLog⟩
  · have hrecord' := (h.holdsRecord_iff _ value).mp hrecord
    obtain ⟨result, log, hcells, hlog⟩ := convertCells_eq_ok hrecord.isSideRecord
    have hwritable := h.dotOutput.setEntry (converted text) h.jsonOutput
    have hend := hrun.trans (h.run_convertSideFile_converted hwritable hcells hside)
    have hapart : (s.store.setEntry dotPlace (.file (converted text))).locate (dotOutput dot) ≠
        .ok jsonPlace := by
      rw [(h.dotOutput.locate_setEntry _ _ _).mpr h.dotOutput.locate]
      exact fun heq => h.outputs_apart (Except.ok.inj heq)
    refine ⟨_, _, _, graphLog dot labels ++ log ++ [convertedNote dot], hmade, hend, ?_, ?_,
      fun _ => ⟨?_, ?_⟩, ?_⟩
    · simp [hs₁]
    · exact (hwritable.read_setEntry_other _ hapart).mpr hread
    · intro other hother
      obtain rfl := hother.unique hrecord'
      have hwritten := hwritable.write_eq (Utf8.encode result.indented)
      exact ⟨_, rfl, rfl, rfl, rfl, rfl, ⟨result, log, hcells, hwritten⟩,
        fun e => topic_of_warning hlog⟩
    · exact fun hnone => absurd hrecord' (hnone value)
    · exact fun failure hspoils => absurd ((h.spoils_iff _ _ _).mpr hspoils) (hsound failure)
  · have hend := hrun.trans (h.run_convertSideFile_skipped he hside)
    have hnoRecord' := fun value => mt (h.holdsRecord_iff _ value).mpr (hnoRecord value)
    refine ⟨_, _, _, graphLog dot labels ++ [skipped e], hmade, hend, ?_, hread,
      fun _ => ⟨?_, ?_⟩, ?_⟩
    · simp [hs₁]
    · exact fun value hvalue => absurd hvalue (hnoRecord' value)
    · have hwarnings := warnings_skipped dot labels e
      exact fun _ => ⟨_, rfl, rfl, rfl, rfl, ⟨e, rfl, he, hwarnings⟩, rfl⟩
    · exact fun failure hspoils => absurd ((h.spoils_iff _ _ _).mpr hspoils) (hsound failure)

/-- A directory with a graph file and its side file. -/
def graphWithSide (side : Bytes) : Store where
  current := [['w']]
  entries := [([['w'], "x.dot".toList], .file [48, 32, 45, 62, 32, 49, 59]),
    ([['w'], "x.json".toList], .file side)]

/-- The graph file of that directory can be converted, whatever the side file holds. -/
theorem convertible_graphWithSide (side : Bytes) :
    Convertible (graphWithSide side) (Path.ofString "x.dot") "0 -> 1;".toList
      [['w'], "x.converted.dot".toList] [['w'], "x.converted.json".toList] where
  proper := Path.isProper_ofText _
  content := ⟨[48, 32, 45, 62, 32, 49, 59], by cbv, by cbv⟩
  whole := by decide
  dotOutput := ⟨by cbv, Or.inl (by cbv)⟩
  jsonOutput := ⟨by cbv, Or.inl (by cbv)⟩
  outputs_apart := by decide
  side_apart := by cbv; decide

/-- The bytes of a side file with a record without variables. -/
def plainRecord : Bytes :=
  Utf8.encode "\x7b\"variables\": []\x7d".toList

theorem convert_ends_plainRecord : ∃ report final,
    (convert (Path.ofString "x.dot")).run (.ofStore (graphWithSide plainRecord)) =
        (.ok report, final) ∧
      report.convertedJson = some (Path.ofString "x.converted.json") := by
  have hside : HoldsRecord (graphWithSide plainRecord) (sideFile (Path.ofString "x.dot"))
      (.obj [("variables".toList, .arr [])]) := by
    refine ⟨plainRecord, _, by cbv, by cbv, by cbv, ?_⟩
    exact ⟨_, [], rfl, rfl, Or.inl rfl⟩
  have hsound : ∀ failure, ¬ Spoils (graphWithSide plainRecord) 990
      (sideFile (Path.ofString "x.dot")) failure := by
    have hread : (graphWithSide plainRecord).read (sideFile (Path.ofString "x.dot")) =
        .ok plainRecord := by cbv
    exact not_spoils_of_load hread (by cbv) (by cbv)
  obtain ⟨made, result, final, entries, _, hrun, _, _, hends, _⟩ :=
    convert_ends (s := .ofStore (graphWithSide plainRecord)) (convertible_graphWithSide plainRecord)
  obtain ⟨report, rfl, hreport⟩ := (hends hsound).1 _ hside
  exact ⟨report, final, hrun, hreport.convertedJson⟩

/-- A side file that is not UTF-8 ends a conversion without a report. -/
theorem convert_ends_spoiled :
    (∃ text dotPlace jsonPlace, Convertible (graphWithSide [0xff]) (Path.ofString "x.dot") text
      dotPlace jsonPlace) ∧
    ((convert (Path.ofString "x.dot")).run (.ofStore (graphWithSide [0xff]))).1 =
      .error .undecodable :=
  ⟨⟨_, _, _, convertible_graphWithSide [0xff]⟩, by cbv⟩

end DepView.Dependency
