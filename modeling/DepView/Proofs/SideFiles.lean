import DepView.Dependency.Conversion
import DepView.Proofs.ActionSteps
import DepView.Proofs.JsonGrammar

/-!
Side files. A file is a proper side file if it is UTF-8, its text is JSON and the value has the
shape of a record. Loading gives the record of a proper side file. Bytes that are not UTF-8 end the
run, and so does a text that is too much for the interpreter; every other state of the path is an
error that is handed on. A record can always be converted.
-/

namespace DepView.Dependency

open Text

/-- An object with a list of variables and, if it has cells, a list of objects as cells. -/
def IsSideRecord (value : Json) : Prop :=
  ∃ members vars, value = .obj members ∧
    Table.find? members "variables".toList = some (.arr vars) ∧
    (Table.find? members "cells".toList = none ∨
      ∃ cells, Table.find? members "cells".toList = some (.arr cells) ∧
        ∀ cell ∈ cells, ∃ parts, cell = .obj parts)

/-- A path leads to a proper side file with a record. -/
def HoldsRecord (s : Store) (side : Path) (value : Json) : Prop :=
  ∃ bytes text, s.read side = .ok bytes ∧ Utf8.decode? bytes = some text ∧
    Json.read (foldNewlines text) = .ok value ∧ IsSideRecord value

/-- A path leads to a file that is not UTF-8. -/
def HoldsNoText (s : Store) (side : Path) : Prop :=
  ∃ bytes, s.read side = .ok bytes ∧ Utf8.decode? bytes = none

/-- A path leads to a file with a text that is too much for the interpreter. -/
def Overruns (s : Store) (nesting : Nat) (side : Path) (overrun : Json.Overrun) : Prop :=
  ∃ bytes text, s.read side = .ok bytes ∧ Utf8.decode? bytes = some text ∧
    Json.load nesting (foldNewlines text) = .error overrun

/-- What is found under a path spoils a run: it is not UTF-8, or too much for the interpreter. -/
inductive Spoils (s : Store) (nesting : Nat) (side : Path) : Failure → Prop where
  | noText (h : HoldsNoText s side) : Spoils s nesting side .undecodable
  | overrun {overrun : Json.Overrun} (h : Overruns s nesting side overrun) :
      Spoils s nesting side (.overrun overrun)

/-- A record with a number that is too long, or nested too deep, spoils a run. -/
theorem HoldsRecord.exists_spoils {s : Store} {side : Path} {value : Json} {nesting : Nat}
    (h : HoldsRecord s side value) (hlimits : Json.fits (.interpreter nesting) value = false) :
    ∃ failure, Spoils s nesting side failure := by
  obtain ⟨bytes, text, hread, htext, hjson, _⟩ := h
  obtain ⟨overrun, hoverrun⟩ := Json.exists_overrun hjson hlimits
  exact ⟨_, .overrun ⟨bytes, text, hread, htext, hoverrun⟩⟩

/-- What spoils a run spoils it wherever the same file is found. -/
theorem Spoils.of_read {s t : Store} {side : Path} {nesting : Nat} {failure : Failure}
    (h : Spoils s nesting side failure)
    (hread : ∀ bytes, s.read side = .ok bytes → t.read side = .ok bytes) :
    Spoils t nesting side failure := by
  rcases h with ⟨bytes, hbytes, hnone⟩ | ⟨bytes, text, hbytes, htext, hload⟩
  · exact .noText ⟨bytes, hread bytes hbytes, hnone⟩
  · exact .overrun ⟨bytes, text, hread bytes hbytes, htext, hload⟩

section

variable {s : Store} {side : Path} {nesting : Nat} {bytes : Bytes} {text : Text}
  (hread : s.read side = .ok bytes) (htext : Utf8.decode? bytes = some text)
include hread htext

/-- A text spoils a run by being too much only. -/
theorem spoils_iff_load {failure : Failure} : Spoils s nesting side failure ↔
    ∃ overrun, failure = .overrun overrun ∧
      Json.load nesting (foldNewlines text) = .error overrun := by
  constructor
  · rintro (⟨other, hother, hnone⟩ | ⟨other, found, hother, hfound, hload⟩)
    · obtain rfl : other = bytes := Except.ok.inj (hother.symm.trans hread)
      rw [hnone] at htext
      cases htext
    · obtain rfl : other = bytes := Except.ok.inj (hother.symm.trans hread)
      obtain rfl : found = text := Option.some.inj (hfound.symm.trans htext)
      exact ⟨_, rfl, hload⟩
  · rintro ⟨overrun, rfl, hload⟩
    exact .overrun ⟨bytes, text, hread, htext, hload⟩

theorem not_spoils_of_load {found : Except Json.ReadError Json}
    (hload : Json.load nesting (foldNewlines text) = .ok found) (failure : Failure) :
    ¬ Spoils s nesting side failure := by
  rw [spoils_iff_load hread htext]
  rintro ⟨overrun, _, hoverrun⟩
  rw [hload] at hoverrun
  cases hoverrun

theorem holdsRecord_iff_read {value : Json} : HoldsRecord s side value ↔
    Json.read (foldNewlines text) = .ok value ∧ IsSideRecord value := by
  constructor
  · rintro ⟨other, found, hother, hfound, hrecord⟩
    obtain rfl : other = bytes := Except.ok.inj (hother.symm.trans hread)
    obtain rfl : found = text := Option.some.inj (hfound.symm.trans htext)
    exact hrecord
  · exact fun hrecord => ⟨bytes, text, hread, htext, hrecord⟩

end

/-- A run is spoilt in one way. -/
theorem Spoils.unique {s : Store} {side : Path} {nesting : Nat} {a b : Failure}
    (ha : Spoils s nesting side a) (hb : Spoils s nesting side b) : a = b := by
  cases ha with
  | overrun ha =>
    obtain ⟨bytes, text, hread, htext, hload⟩ := ha
    obtain ⟨overrun, rfl, hoverrun⟩ := (spoils_iff_load hread htext).mp hb
    rw [hload] at hoverrun
    cases hoverrun
    rfl
  | noText ha =>
    cases hb with
    | noText _ => rfl
    | overrun hb =>
      obtain ⟨bytes, text, hread, htext, hload⟩ := hb
      have hspoils : Spoils s 0 side .undecodable := .noText ha
      obtain ⟨overrun, hfailure, _⟩ := (spoils_iff_load hread htext).mp hspoils
      cases hfailure

theorem HoldsRecord.isSideRecord {s : Store} {side : Path} {value : Json}
    (h : HoldsRecord s side value) : IsSideRecord value := by
  obtain ⟨_, _, _, _, _, hrecord⟩ := h
  exact hrecord

theorem HoldsRecord.unique {s : Store} {side : Path} {a b : Json} (ha : HoldsRecord s side a)
    (hb : HoldsRecord s side b) : a = b := by
  obtain ⟨bytes, text, hread, htext, hjson, _⟩ := ha
  obtain ⟨other, found, hother, hfound, hvalue, _⟩ := hb
  obtain rfl : other = bytes := Except.ok.inj (hother.symm.trans hread)
  obtain rfl : found = text := Option.some.inj (hfound.symm.trans htext)
  exact Except.ok.inj (hjson.symm.trans hvalue)

theorem isObject_iff {value : Json} : isObject value = true ↔ ∃ parts, value = .obj parts := by
  cases value <;> simp [isObject]

/-- Cells that are not there count as no cells. -/
theorem isSideRecord_iff {value : Json} : IsSideRecord value ↔
    ∃ members vars cells, value = .obj members ∧
      Table.find? members "variables".toList = some (.arr vars) ∧
      (Table.find? members "cells".toList).getD (.arr []) = .arr cells ∧
      ∀ cell ∈ cells, ∃ parts, cell = .obj parts := by
  constructor
  · rintro ⟨members, vars, hvalue, hvars, hnone | ⟨cells, hcells, hobjects⟩⟩
    · exact ⟨members, vars, [], hvalue, hvars, by rw [hnone]; rfl, by simp⟩
    · exact ⟨members, vars, cells, hvalue, hvars, by rw [hcells]; rfl, hobjects⟩
  · rintro ⟨members, vars, cells, hvalue, hvars, hcells, hobjects⟩
    refine ⟨members, vars, hvalue, hvars, ?_⟩
    cases hfind : Table.find? members "cells".toList with
    | none => exact Or.inl rfl
    | some found =>
      rw [hfind] at hcells
      exact Or.inr ⟨cells, congrArg some hcells, hobjects⟩

theorem checkShape_eq_ok {value : Json} : checkShape value = .ok () ↔ IsSideRecord value := by
  rw [isSideRecord_iff]
  constructor
  · intro h
    unfold checkShape at h
    split at h
    · split at h
      · rename_i members _ _ vars cells hvars hcells
        split at h
        · rename_i hall
          refine ⟨members, vars, cells, rfl, hvars, hcells, fun cell hcell => ?_⟩
          exact isObject_iff.mp (List.all_eq_true.mp hall cell hcell)
        · cases h
      · cases h
      · cases h
    · cases h
  · rintro ⟨members, vars, cells, rfl, hvars, hcells, hobjects⟩
    have hall : cells.all isObject = true :=
      List.all_eq_true.mpr fun cell hcell => isObject_iff.mpr (hobjects cell hcell)
    simp only [checkShape, Json.member?, hvars, hcells, hall, if_true]

theorem mapM_cellOf {cells : List Json} (h : ∀ cell ∈ cells, ∃ parts, cell = .obj parts) :
    cells.mapM cellOf = .ok cells := by
  induction cells with
  | nil => rfl
  | cons cell rest ih =>
    obtain ⟨parts, rfl⟩ := h cell List.mem_cons_self
    have hrest := ih fun other hother => h other (List.mem_cons_of_mem _ hother)
    rw [List.mapM_cons, hrest]
    rfl

theorem topic_of_mem_cellWarnings {size position : Nat} {cell : Json} {e : Log.Entry}
    (h : e ∈ cellWarnings size position cell) : e.topic = .cells := by
  obtain ⟨key, _, hkey⟩ := List.mem_flatMap.mp h
  dsimp only at hkey
  split at hkey
  · cases hkey
  · rw [List.mem_singleton.mp hkey]
    rfl

/-- The variables of a record are replaced in their place, and cells that are missing are added. -/
theorem convertCells_obj {members : Table Json} {vars cells : List Json}
    (hvars : Table.find? members "variables".toList = some (.arr vars))
    (hcells : (Table.find? members "cells".toList).getD (.arr []) = .arr cells)
    (hobjects : ∀ cell ∈ cells, ∃ parts, cell = .obj parts) :
    convertCells (.obj members) = .ok (.obj (Table.insert "cells".toList (.arr cells)
        (Table.insert "variables".toList
          (.arr (vars.map fun v => .str (basename v.plain))) members)),
      cells.zipIdx.flatMap fun c => cellWarnings vars.length c.2 c.1) := by
  simp only [convertCells, hvars, hcells, Option.getD_some, itemsOf, mapM_cellOf hobjects,
    bind, Except.bind, pure, Except.pure, List.length_map]

/-- A record can be converted, and all that is logged is about its cells. -/
theorem convertCells_eq_ok {value : Json} (h : IsSideRecord value) :
    ∃ converted log, convertCells value = .ok (converted, log) ∧
      ∀ e ∈ log, e.topic = .cells := by
  obtain ⟨members, vars, cells, rfl, hvars, hcells, hobjects⟩ := isSideRecord_iff.mp h
  refine ⟨_, _, convertCells_obj hvars hcells hobjects, fun e he => ?_⟩
  obtain ⟨c, _, hcell⟩ := List.mem_flatMap.mp he
  exact topic_of_mem_cellWarnings hcell

theorem sideFileOf_of_overrun {nesting : Nat} {text : Text} {overrun : Json.Overrun}
    (h : Json.load nesting text = .error overrun) :
    sideFileOf nesting text = .error (.overrun overrun) := by
  unfold sideFileOf
  rw [h]

/-- A text that is not too much is a side file if it spells a record. -/
theorem sideFileOf_of_load {nesting : Nat} {text : Text} {found : Except Json.ReadError Json}
    (h : Json.load nesting text = .ok found) :
    ∃ side, sideFileOf nesting text = .ok side ∧
      ∀ value, side = .ok value ↔ Json.read text = .ok value ∧ IsSideRecord value := by
  rw [Json.read_of_load h]
  unfold sideFileOf
  rw [h]
  cases found with
  | error e => exact ⟨_, rfl, by simp⟩
  | ok found =>
    dsimp only
    have hshape : checkShape found = .ok () ↔ IsSideRecord found := checkShape_eq_ok
    cases hcheck : checkShape found with
    | error fault =>
      rw [hcheck] at hshape
      simp only [reduceCtorEq, false_iff] at hshape
      refine ⟨_, rfl, fun value => ?_⟩
      simp only [reduceCtorEq, Except.ok.injEq, false_iff, not_and]
      rintro rfl
      exact hshape
    | ok _ =>
      have hrecord := hshape.mp hcheck
      refine ⟨_, rfl, fun value => ?_⟩
      simp only [Except.ok.injEq]
      exact ⟨fun heq => ⟨heq, heq ▸ hrecord⟩, And.left⟩

/-- The ways in which loading a side file ends. The run has changed nothing. -/
theorem run_loadSideFile {s : Session} {side : Path}
    (h : ∀ fault, s.store.read side = .error fault → fault.isOfText = false) :
    (∃ failure, Spoils s.store s.nesting side failure ∧
      (loadSideFile side).run s = (.error failure, s)) ∨
    ((∀ failure, ¬ Spoils s.store s.nesting side failure) ∧
      ((∃ value, HoldsRecord s.store side value ∧
        (loadSideFile side).run s = (.ok (.ok value), s)) ∨
      (∀ value, ¬ HoldsRecord s.store side value) ∧
        ∃ e : SideFileError, e.path = side ∧ (loadSideFile side).run s = (.ok (.error e), s))) := by
  unfold loadSideFile
  rw [Action.run_bind_of_ok Action.run_get]
  cases hread : s.store.read side with
  | error fault =>
    have hnone : ∀ bytes, s.store.read side ≠ .ok bytes := by simp [hread]
    refine Or.inr ⟨?_, Or.inr ⟨?_, ?_⟩⟩
    · rintro _ (⟨bytes, hbytes, _⟩ | ⟨bytes, _, hbytes, _⟩) <;> exact hnone bytes hbytes
    · rintro value ⟨bytes, _, hbytes, _⟩
      exact hnone bytes hbytes
    · have hfault := h fault hread
      cases fault with
      | holdsNul | unencodable => cases hfault
      | _ => exact ⟨_, rfl, rfl⟩
  | ok bytes =>
    dsimp only
    cases htext : Utf8.decode? bytes with
    | none => exact Or.inl ⟨_, .noText ⟨bytes, hread, htext⟩, rfl⟩
    | some text =>
      dsimp only
      cases hload : Json.load s.nesting (foldNewlines text) with
      | error overrun =>
        refine Or.inl ⟨_, .overrun ⟨bytes, text, hread, htext, hload⟩, ?_⟩
        rw [sideFileOf_of_overrun hload]
        rfl
      | ok found =>
        obtain ⟨held, hheld, hrecord⟩ := sideFileOf_of_load hload
        rw [hheld]
        refine Or.inr ⟨not_spoils_of_load hread htext hload, ?_⟩
        simp only [holdsRecord_iff_read hread htext, ← hrecord]
        cases held with
        | ok value => exact Or.inl ⟨value, rfl, rfl⟩
        | error message =>
          refine Or.inr ⟨fun value hvalue => ?_, ⟨side, message⟩, rfl, rfl⟩
          cases hvalue

end DepView.Dependency
