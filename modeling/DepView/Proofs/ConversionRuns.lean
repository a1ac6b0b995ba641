import DepView.Proofs.ConversionEnds

/-!
What a run of a conversion does to the files. It fails and has written the converted graph or
nothing, or it has a report. Then the graph was read and its converted form written first, and what
became of the side file follows from what was read under its name after that.
-/

namespace DepView.Dependency

open Text

/-- What the content of a side file, or the lack of one, means. -/
def sideFileAt (nesting : Nat) (side : Path) :
    Except Store.Fault Bytes → Except Failure (Except SideFileError Json)
  | .error .missing => .ok (.error ⟨side, "side file not found".toList⟩)
  | .error fault =>
    if fault.isOfText then .error (.file fault)
    else .ok (.error ⟨side, "unreadable side file: ".toList ++ fault.message side⟩)
  | .ok bytes =>
    match Utf8.decode? bytes with
    | none => .error .undecodable
    | some text =>
      match sideFileOf nesting (foldNewlines text) with
      | .error failure => .error failure
      | .ok found => .ok (found.mapError fun m => ⟨side, m⟩)

theorem run_loadSideFile_eq (side : Path) (s : Session) :
    (loadSideFile side).run s = (sideFileAt s.nesting side (s.store.read side), s) := by
  unfold loadSideFile
  rw [Action.run_bind_of_ok Action.run_get]
  cases s.store.read side with
  | error fault => cases fault <;> rfl
  | ok bytes =>
    dsimp only [sideFileAt]
    cases Utf8.decode? bytes with
    | none => rfl
    | some text =>
      dsimp only
      cases sideFileOf s.nesting (foldNewlines text) <;> rfl

/-- A conversion has a report, and leaves a store. -/
inductive Returns (dot : Path) (nesting : Nat) (s : Store) : Report → Store → Prop where
  | skipped {text : Text} {made : Store} {e : SideFileError} (graph : GraphWritten dot s text made)
      (side : sideFileAt nesting (sideFile dot) (made.read (sideFile dot)) = .ok (.error e)) :
      Returns dot nesting s
        ⟨dot, dotOutput dot, none, (labelsOf (foldNewlines text)).length, some e⟩ made
  | converted {text : Text} {made final : Store} {record result : Json} {log : Log}
      (graph : GraphWritten dot s text made)
      (side : sideFileAt nesting (sideFile dot) (made.read (sideFile dot)) = .ok (.ok record))
      (cells : convertCells record = .ok (result, log))
      (written : made.write (jsonOutput dot) (Utf8.encode result.indented) = .ok final) :
      Returns dot nesting s
        ⟨dot, dotOutput dot, some (jsonOutput dot), (labelsOf (foldNewlines text)).length, none⟩
        final

section

variable {dot : Path} {s final : Session} {result : Except Failure Report}

/-- A graph file that is not there, or has no text, leaves everything as it was. -/
theorem run_convert_unread
    (h : ¬ ∃ bytes text, s.store.read dot = .ok bytes ∧ Utf8.decode? bytes = some text) :
    ∃ e, (convert dot).run s = (.error e, s) := by
  cases hrun : (convert dot).run s with
  | mk result final =>
    unfold convert at hrun
    rcases Action.run_bind_cases hrun with ⟨e, hread, rfl⟩ | ⟨raw, between, hread, _⟩
    · obtain ⟨rfl, _⟩ := Action.run_readText_cases hread
      exact ⟨e, rfl⟩
    · obtain ⟨_, htext⟩ := Action.run_readText_cases hread
      obtain ⟨bytes, text, hbytes, hdecoded, _⟩ := htext raw rfl
      exact absurd ⟨bytes, text, hbytes, hdecoded⟩ h

theorem run_convertSideFile_cases {report : Report} (hproper : dot.IsProper)
    (hparts : dot.parts ≠ []) (h : (convertSideFile dot report).run s = (result, final)) :
    (∃ e, result = .error e ∧ final.store = s.store) ∨
    (∃ e, sideFileAt s.nesting (sideFile dot) (s.store.read (sideFile dot)) = .ok (.error e) ∧
      result = .ok { report with sideFileError := some e } ∧ final.store = s.store ∧
      final.nesting = s.nesting) ∨
    ∃ record converted log,
      sideFileAt s.nesting (sideFile dot) (s.store.read (sideFile dot)) = .ok (.ok record) ∧
      convertCells record = .ok (converted, log) ∧
      s.store.write (jsonOutput dot) (Utf8.encode converted.indented) = .ok final.store ∧
      result = .ok { report with convertedJson := some (jsonOutput dot) } ∧
      final.nesting = s.nesting := by
  unfold convertSideFile at h
  rw [withSuffix?_json hproper hparts] at h
  dsimp only at h
  rcases Action.run_bind_cases h with ⟨e, hload, rfl⟩ | ⟨loaded, between, hload, hrest⟩
  · rw [run_loadSideFile_eq] at hload
    obtain ⟨_, rfl⟩ := Prod.mk.inj hload
    exact Or.inl ⟨e, rfl, rfl⟩
  · rw [run_loadSideFile_eq] at hload
    obtain ⟨hloaded, rfl⟩ := Prod.mk.inj hload
    cases loaded with
    | error e =>
      obtain ⟨rfl, rfl⟩ := Prod.mk.inj hrest
      exact Or.inr (Or.inl ⟨e, hloaded, rfl, rfl, rfl⟩)
    | ok record =>
      dsimp only at hrest
      rw [Action.run_bind_of_ok (run_convertedPath hproper hparts s (by decide))] at hrest
      cases hcells : convertCells record with
      | error fault =>
        rw [hcells] at hrest
        obtain ⟨rfl, rfl⟩ := Prod.mk.inj hrest
        exact Or.inl ⟨_, rfl, rfl⟩
      | ok pair =>
        obtain ⟨converted, log⟩ := pair
        have hwhole := (Json.isAscii_indented converted).holdsSurrogate
        rw [hcells] at hrest
        dsimp only at hrest
        rw [Action.run_bind_of_ok (Action.run_modify _)] at hrest
        rcases Action.run_writeText_bind_cases hrest with ⟨e, rfl, rfl | ⟨hhalf, _⟩⟩ |
          ⟨store, _, hstore, hend⟩
        · exact Or.inl ⟨e, rfl, rfl⟩
        · rw [hwhole] at hhalf
          cases hhalf
        · obtain ⟨rfl, rfl⟩ := Prod.mk.inj hend
          exact Or.inr (Or.inr ⟨record, converted, log, hloaded, hcells, hstore, rfl, rfl⟩)

/-- The ways in which a conversion ends. -/
theorem run_convert_cases (hproper : dot.IsProper) (h : (convert dot).run s = (result, final)) :
    (∃ e, result = .error e ∧ (final.store = s.store ∨
      ∃ bytes, s.store.write (dotOutput dot) bytes = .ok final.store)) ∨
    ∃ report, result = .ok report ∧ Returns dot s.nesting s.store report final.store ∧
      final.nesting = s.nesting := by
  unfold convert at h
  rcases Action.run_bind_cases h with ⟨e, hread, rfl⟩ | ⟨raw, between, hread, hrest⟩
  · obtain ⟨rfl, _⟩ := Action.run_readText_cases hread
    exact Or.inl ⟨e, rfl, Or.inl rfl⟩
  · obtain ⟨hsame, htext⟩ := Action.run_readText_cases hread
    obtain rfl := hsame.symm
    obtain ⟨bytes, text, hbytes, hdecoded, rfl⟩ := htext raw rfl
    have hparts := Store.parts_ne_nil_of_read hbytes
    have hpath : ∀ s, (convertedPath dot ".dot").run s = (.ok (dotOutput dot), s) :=
      fun s => run_convertedPath hproper hparts s (by decide)
    dsimp only at hrest
    rw [foldCrlf_foldNewlines, Action.run_bind_of_ok (Action.run_note _ _ _),
      Action.run_bind_of_ok (hpath _), ← relabel_foldNewlines] at hrest
    rcases Action.run_writeText_bind_cases hrest with ⟨e, rfl, rfl | ⟨_, hhalf⟩⟩ |
      ⟨made, hwhole, hmade, hside⟩
    · exact Or.inl ⟨e, rfl, Or.inl rfl⟩
    · exact Or.inl ⟨e, rfl, Or.inr hhalf⟩
    · have hgraph : GraphWritten dot s.store text made :=
        ⟨⟨bytes, hbytes, hdecoded⟩, hwhole, hmade⟩
      rw [Action.run_bind_of_ok (Action.run_note _ _ _)] at hside
      rcases run_convertSideFile_cases hproper hparts hside with
        ⟨e, rfl, hstore⟩ | ⟨e, hloaded, rfl, hstore, hnesting⟩ |
          ⟨record, converted, log, hloaded, hcells, hwritten, rfl, hnesting⟩
      · have hleft : final.store = made := hstore
        rw [hleft]
        exact Or.inl ⟨e, rfl, Or.inr ⟨_, hmade⟩⟩
      · have hleft : final.store = made := hstore
        rw [hleft]
        exact Or.inr ⟨_, rfl, .skipped hgraph hloaded, hnesting⟩
      · exact Or.inr ⟨_, rfl, .converted hgraph hloaded hcells hwritten, hnesting⟩

theorem path_of_sideFileAt {nesting : Nat} {side : Path} {held : Except Store.Fault Bytes}
    {e : SideFileError} (h : sideFileAt nesting side held = .ok (.error e)) : e.path = side := by
  unfold sideFileAt at h
  split at h
  · rw [← Except.error.inj (Except.ok.inj h)]
  · split at h
    · cases h
    · rw [← Except.error.inj (Except.ok.inj h)]
  · split at h
    · cases h
    · split at h
      · cases h
      · rename_i found _
        cases found with
        | ok record => cases Except.ok.inj h
        | error message => rw [← Except.error.inj (Except.ok.inj h)]

/-- What has a report by its files has it by running. -/
theorem Returns.run {report : Report} {left : Store} (hproper : dot.IsProper)
    (h : Returns dot s.nesting s.store report left) :
    ∃ final, (convert dot).run s = (.ok report, final) ∧ final.store = left := by
  cases h with
  | skipped graph side =>
    refine ⟨_, (graph.run_convert hproper).trans
      (run_convertSideFile_skipped hproper graph.parts_ne_nil (path_of_sideFileAt side) ?_), rfl⟩
    rw [run_loadSideFile_eq]
    exact congrArg (·, _) side
  | converted graph side cells written =>
    refine ⟨_, (graph.run_convert hproper).trans
      (run_convertSideFile_converted hproper graph.parts_ne_nil written cells ?_), rfl⟩
    rw [run_loadSideFile_eq]
    exact congrArg (·, _) side

end

end DepView.Dependency
