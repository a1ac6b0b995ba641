import DepView.Proofs.ConversionFrames
import DepView.Proofs.FileRemovals

/-!
Conversions among edits. The graph file and the side file are written and removed in any order, and
conversions are called in between. A call that has a report leaves the converted graph that it would
leave in a directory without the outputs of earlier calls, and the converted side file, too, if
there is one to convert. Only the converted side file of an earlier call may stay: a call that
passes the side file over does not remove it.
-/

namespace DepView.Dependency

open Text

/-! What happens to the files of a graph. -/

inductive Step where
  | writeGraph (content : Bytes)
  | removeGraph
  | writeSide (content : Bytes)
  | removeSide
  | convert

/-- What a step leaves. A step that fails may have done a part. -/
def Step.after (dot : Path) (s : Session) : Step → Session
  | writeGraph content => { s with store := s.store.edited (s.store.write dot content) }
  | removeGraph => { s with store := s.store.edited (s.store.remove dot) }
  | writeSide content =>
    { s with store := s.store.edited (s.store.write (sideFile dot) content) }
  | removeSide => { s with store := s.store.edited (s.store.remove (sideFile dot)) }
  | convert => ((Dependency.convert dot).run s).2

def play (dot : Path) (steps : List Step) (s : Session) : Session :=
  steps.foldl (Step.after dot) s

/-- The files without the outputs of earlier conversions. -/
def withoutOutputs (dot : Path) (s : Store) : Store :=
  let s := s.edited (s.remove (dotOutput dot))
  s.edited (s.remove (jsonOutput dot))

theorem Returns.sameWays {dot : Path} {nesting : Nat} {s left : Store} {report : Report}
    (h : Returns dot nesting s report left) : Store.SameWays s left := by
  cases h with
  | skipped graph _ => exact Store.sameWays_write graph.written
  | converted graph _ _ written =>
    exact (Store.sameWays_write graph.written).trans (Store.sameWays_write written)

theorem Step.sameWays {dot : Path} (hproper : dot.IsProper) (s : Session) (step : Step) :
    Store.SameWays s.store (step.after dot s).store := by
  cases step with
  | writeGraph content | writeSide content =>
    exact Store.sameWays_edited fun _ => Store.sameWays_write
  | removeGraph | removeSide => exact Store.sameWays_edited_remove s.store _
  | convert =>
    have hrun : (Dependency.convert dot).run s = (_, Step.convert.after dot s) := rfl
    rcases run_convert_cases hproper hrun with ⟨_, _, hsame | ⟨_, hwrite⟩⟩ | ⟨_, _, hreturns, _⟩
    · rw [hsame]
      exact .refl _
    · exact Store.sameWays_write hwrite
    · exact hreturns.sameWays

/-- No step makes or removes a directory or a link. -/
theorem play_sameWays {dot : Path} (hproper : dot.IsProper) (steps : List Step) (s : Session) :
    Store.SameWays s.store (play dot steps s).store := by
  induction steps generalizing s with
  | nil => exact .refl _
  | cons step steps ih => exact (step.sameWays hproper s).trans (ih (step.after dot s))

/-- A call converts the side file. -/
def ConvertsSide (dot : Path) (s : Session) : Prop :=
  ∃ report final json, (convert dot).run s = (.ok report, final) ∧ report.convertedJson = some json

/-- A converted side file that is found after some steps is there from before them, or from the last
call among them that converted one. -/
inductive LastRecord (dot : Path) (steps : List Step) (s : Session) (held : Bytes) : Prop where
  | before (read : s.store.read (jsonOutput dot) = .ok held)
      (none : ∀ earlier later, steps = earlier ++ .convert :: later →
        ¬ ConvertsSide dot (play dot earlier s))
  | call (earlier later : List Step) (split : steps = earlier ++ .convert :: later)
      (converts : ConvertsSide dot (play dot earlier s))
      (read : (play dot (earlier ++ [.convert]) s).store.read (jsonOutput dot) = .ok held)
      (none : ∀ more rest, later = more ++ .convert :: rest →
        ¬ ConvertsSide dot (play dot (earlier ++ .convert :: more) s))

section

variable {dot : Path} {directory : Place} (hproper : dot.IsProper) (hparts : dot.parts ≠ [])
  (hname : Store.IsName dot.name)
include hproper hparts hname

/-- Only a call that converts the side file changes the converted one. -/
theorem Step.record_eq {s : Session} (hs : s.store.LooksIn dot directory) (step : Step)
    (h : step = .convert → ¬ ConvertsSide dot s) :
    Store.entry? (step.after dot s).store (recordPlace directory dot) =
      s.store.entry? (recordPlace directory dot) := by
  have hsource := recordPlace_ne_sourcePlace directory dot
  have hside := recordPlace_ne_sidePlace directory dot
  have hsideName := isName_sideFile dot
  cases step with
  | writeGraph content =>
    have hentry :
        Store.entry? (s.store.edited (s.store.write (dot.sibling dot.name) content)) _ = _ :=
      hs.entry?_write hname hsource
    rwa [Path.sibling_name hparts] at hentry
  | removeGraph =>
    have hentry := hs.entry?_remove hname hsource
    rwa [Path.sibling_name hparts] at hentry
  | writeSide content => exact hs.entry?_write hsideName hside
  | removeSide => exact hs.entry?_remove hsideName hside
  | convert =>
    have hrun : (Dependency.convert dot).run s = (_, Step.convert.after dot s) := rfl
    rcases run_convert_cases hproper hrun with ⟨_, _, hsame | ⟨_, hwrite⟩⟩ |
      ⟨report, hreport, hreturns, _⟩
    · rw [hsame]
    · obtain ⟨hwritable, hmade⟩ := (hs.write_eq_ok (isName_dotOutput dot)).mp hwrite
      rw [hmade]
      exact (wrote_graph hwritable).record
    · obtain ⟨graph, side, hwrote, hjson, _⟩ := hreturns.depends hs hname
      cases side with
      | none => exact hwrote.record
      | some bytes => exact absurd ⟨report, _, _, Prod.ext hreport rfl, hjson⟩ (h rfl)

theorem lastRecord_of_read {s : Session} (hs : s.store.LooksIn dot directory) (steps : List Step)
    {held : Bytes} (h : (play dot steps s).store.read (jsonOutput dot) = .ok held) :
    LastRecord dot steps s held := by
  induction steps generalizing s with
  | nil => exact .before h fun earlier later heq => by simp at heq
  | cons step steps ih =>
    have hways := step.sameWays hproper s
    rcases ih (hways.looksIn hs) h with ⟨hread, hnone⟩ |
      ⟨earlier, later, hsplit, hconverts, hread, hnone⟩
    · by_cases hnow : step = .convert ∧ ConvertsSide dot s
      · obtain ⟨rfl, hconverts⟩ := hnow
        exact .call [] steps rfl hconverts hread hnone
      · have hentry := step.record_eq hproper hparts hname hs fun hstep hconverts =>
          hnow ⟨hstep, hconverts⟩
        refine .before ?_ fun earlier later heq => ?_
        · exact (hs.read_eq (hways.looksIn hs) (isName_jsonOutput dot) hentry.symm).trans hread
        · cases earlier with
          | nil =>
            obtain ⟨rfl, _⟩ := List.cons.inj heq
            exact fun hconverts => hnow ⟨rfl, hconverts⟩
          | cons first earlier =>
            obtain ⟨rfl, hrest⟩ := List.cons.inj heq
            exact hnone earlier later hrest
    · exact .call (step :: earlier) later (congrArg _ hsplit) hconverts hread hnone

end

/-! The files without the outputs. -/

section

variable {dot : Path} {directory : Place} {s : Store} (hs : s.LooksIn dot directory)
include hs

theorem sameInputs_withoutOutputs : SameInputs directory dot s (withoutOutputs dot s) := by
  have hdot := isName_dotOutput dot
  have hjson := isName_jsonOutput dot
  have hways := Store.sameWays_edited_remove s (dotOutput dot)
  have hlooks := hways.looksIn hs
  refine ⟨hways.trans (Store.sameWays_edited_remove _ (jsonOutput dot)), ?_, ?_⟩
  · exact ((hlooks.entry?_remove hjson (recordPlace_ne_sourcePlace directory dot).symm).trans
      (hs.entry?_remove hdot (graphPlace_ne_sourcePlace directory dot).symm)).symm
  · exact ((hlooks.entry?_remove hjson (recordPlace_ne_sidePlace directory dot).symm).trans
      (hs.entry?_remove hdot (graphPlace_ne_sidePlace directory dot).symm)).symm

theorem read_withoutOutputs (bytes : Bytes) :
    (withoutOutputs dot s).read (jsonOutput dot) ≠ .ok bytes := by
  have hways := Store.sameWays_edited_remove s (dotOutput dot)
  exact (hways.looksIn hs).read_remove (isName_jsonOutput dot) bytes

/-- Without a file there, nothing is removed. -/
theorem record_withoutOutputs (h : ∀ bytes, s.read (jsonOutput dot) ≠ .ok bytes) :
    Store.entry? (withoutOutputs dot s) (recordPlace directory dot) =
      s.entry? (recordPlace directory dot) := by
  have hways := Store.sameWays_edited_remove s (dotOutput dot)
  have hentry := hs.entry?_remove (isName_dotOutput dot)
    (graphPlace_ne_recordPlace directory dot).symm
  have hread := hs.read_eq (hways.looksIn hs) (isName_jsonOutput dot) hentry.symm
  have hsame : withoutOutputs dot s = s.edited (s.remove (dotOutput dot)) :=
    Store.edited_remove fun bytes => hread ▸ h bytes
  rw [hsame]
  exact hentry

end

/-- A call among edits leaves the outputs that it would leave without the outputs of earlier calls,
but it may leave the converted side file of an earlier call, if it has none of its own. -/
theorem convert_among_edits {s : Session} {written : Text}
    (hlinks : s.store.UnlinkedBeside (Path.ofText written)) {steps : List Step} {report : Report}
    {final : Session}
    (hrun : (convert (Path.ofText written)).run (play (Path.ofText written) steps s) =
      (.ok report, final)) :
    let dot := Path.ofText written
    let now := play dot steps s
    ∃ fresh, (convert dot).run { now with store := withoutOutputs dot now.store } =
        (.ok report, fresh) ∧
      final.store.read (dotOutput dot) = fresh.store.read (dotOutput dot) ∧
      (final.store.read (jsonOutput dot) = fresh.store.read (jsonOutput dot) ∨
        report.convertedJson = none ∧
          (∀ bytes, fresh.store.read (jsonOutput dot) ≠ .ok bytes) ∧
          ∃ held, final.store.read (jsonOutput dot) = .ok held ∧
            LastRecord dot steps s held) := by
  intro dot now
  have hproper : dot.IsProper := Path.isProper_ofText written
  rcases run_convert_cases hproper hrun with ⟨_, herror, _⟩ | ⟨found, hreport, hreturns, _⟩
  · cases herror
  obtain rfl := Except.ok.inj hreport
  obtain ⟨text, made, hgraph⟩ := hreturns.exists_graphWritten
  obtain ⟨bytes, hread, _⟩ := hgraph.content
  have hplay := play_sameWays hproper steps s
  obtain ⟨directory, hs, hname⟩ := Store.looksIn_of_read hread (hplay.unlinkedBeside hlinks)
  obtain ⟨graph, side, hwrote, hjson, htransfer⟩ := hreturns.depends hs hname
  have hinputs := sameInputs_withoutOutputs hs
  obtain ⟨left, hleft, hwrote'⟩ := htransfer _ hinputs
  obtain ⟨fresh, hfresh, rfl⟩ :=
    hleft.run (s := { now with store := withoutOutputs dot now.store }) hproper
  have hfinalLooks := hwrote.ways.looksIn hs
  have hfreshLooks := hwrote'.ways.looksIn (hinputs.ways.looksIn hs)
  refine ⟨fresh, hfresh, hfinalLooks.read_eq hfreshLooks (isName_dotOutput dot)
    (hwrote.graph.trans hwrote'.graph.symm), ?_⟩
  cases side with
  | some bytes =>
    exact Or.inl (hfinalLooks.read_eq hfreshLooks (isName_jsonOutput dot)
      (hwrote.record.trans hwrote'.record.symm))
  | none =>
    -- What was there before the call is there after it.
    have hkept := hfinalLooks.read_eq hs (isName_jsonOutput dot) hwrote.record
    have hbare := hfreshLooks.read_eq (hinputs.ways.looksIn hs) (isName_jsonOutput dot)
      hwrote'.record
    by_cases hheld : ∃ held, now.store.read (jsonOutput dot) = .ok held
    · obtain ⟨held, hheld⟩ := hheld
      refine Or.inr ⟨hjson, fun bytes => hbare ▸ read_withoutOutputs hs bytes, held,
        hkept.trans hheld, ?_⟩
      exact lastRecord_of_read hproper hgraph.parts_ne_nil hname (hplay.symm.looksIn hs) steps hheld
    · rw [not_exists] at hheld
      refine Or.inl (hfinalLooks.read_eq hfreshLooks (isName_jsonOutput dot) ?_)
      exact hwrote.record.trans
        ((record_withoutOutputs hs hheld).symm.trans hwrote'.record.symm)

theorem convert_among_edits_removed :
    let dot := Path.ofString "x.dot"
    let now := play dot [.removeSide, .convert] (.ofStore (graphWithSide plainRecord))
    ∃ (report : Report) (final fresh : Session),
      (convert dot).run now = (.ok report, final) ∧
        (convert dot).run { now with store := withoutOutputs dot now.store } =
          (.ok report, fresh) ∧
        final.store.read (dotOutput dot) = fresh.store.read (dotOutput dot) := by
  have hresult : ((convert (Path.ofString "x.dot")).run
      (play (Path.ofString "x.dot") [.removeSide, .convert]
        (.ofStore (graphWithSide plainRecord)))).1 =
      .ok ⟨Path.ofString "x.dot", Path.ofString "x.converted.dot", none, 0,
        some ⟨Path.ofString "x.json", "side file not found".toList⟩⟩ := by cbv
  generalize Report.mk _ _ _ _ _ = report at hresult
  obtain ⟨final, hrun⟩ : ∃ final, (convert (Path.ofString "x.dot")).run
      (play (Path.ofString "x.dot") [.removeSide, .convert]
        (.ofStore (graphWithSide plainRecord))) = (.ok report, final) :=
    ⟨_, Prod.ext hresult rfl⟩
  obtain ⟨fresh, hfresh, hsame, _⟩ :=
    convert_among_edits (unlinkedBeside_graphWithSide plainRecord _) hrun
  exact ⟨report, final, fresh, hrun, hfresh, hsame⟩

/-- A call that passes a side file over leaves what an earlier call has made of it. -/
theorem convert_among_edits_stale :
    let dot := Path.ofString "x.dot"
    let now := play dot [.convert, .removeSide] (.ofStore (graphWithSide plainRecord))
    let fresh : Session := { now with store := withoutOutputs dot now.store }
    ((convert dot).run now).1 = ((convert dot).run fresh).1 ∧
      ((convert dot).run now).1 = .ok ⟨dot, Path.ofString "x.converted.dot", none, 0,
        some ⟨Path.ofString "x.json", "side file not found".toList⟩⟩ ∧
      ((convert dot).run now).2.store.read (Path.ofString "x.converted.json") =
        .ok (Utf8.encode "\x7b\n  \"variables\": [],\n  \"cells\": []\n\x7d".toList) ∧
      ((convert dot).run fresh).2.store.read (Path.ofString "x.converted.json") =
        .error .missing := by
  refine ⟨?_, ?_, ?_, ?_⟩ <;> cbv

end DepView.Dependency
