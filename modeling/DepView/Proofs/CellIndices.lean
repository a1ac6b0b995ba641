import DepView.Proofs.SideFiles
import Mathlib.Data.List.Range

/-!
Indices of cells. A converted record has the last path segment of every variable in the
variable's place and everything else as it was, so an index names the same variable as before.
Each end of a cell whose value is no index of a variable is warned of once, in the order of the
cells.
-/

namespace DepView.Dependency

/-- The items of a member that is a list. A member that is missing has none. -/
def itemsAt (name : String) (members : Table Json) : List Json :=
  match Table.find? members name.toList with
  | some (.arr items) => items
  | _ => []

/-- What a variable is called when it is converted. -/
def shortName (v : Json) : Json :=
  .str (basename v.plain)

/-- The ends of a cell. -/
inductive CellEnd where
  | source
  | target
deriving DecidableEq, Repr

/-- The member of a cell that says which variable is at an end. -/
def CellEnd.key : CellEnd → String
  | source => "src"
  | target => "dest"

/-- A value is there, is a whole number and is an index into a list of a size. -/
def IsIndexInto (size : Nat) (value : Option Json) : Prop :=
  ∃ i : Int, value = some (.int i) ∧ 0 ≤ i ∧ i < size

/-- An end of a cell refers to a variable by its index. -/
def Refers (members : Table Json) (position : Nat) (e : CellEnd) (v : Json) : Prop :=
  ∃ cell, ∃ i : Nat, (itemsAt "cells" members)[position]? = some cell ∧
    cell.member? e.key = some (.int i) ∧ (itemsAt "variables" members)[i]? = some v

/-- An object has the variables of another by their short names, each in its place, and else is as
the other. Cells that were missing are there at the end, and there are none of them. -/
structure Shortened (members made : Table Json) : Prop where
  keys : made.keys = members.keys ++
    if "cells".toList ∈ members.keys then [] else ["cells".toList]
  others : ∀ key, key ≠ "variables".toList → key ≠ "cells".toList →
    Table.find? made key = Table.find? members key
  cells : Table.find? made "cells".toList = some (.arr (itemsAt "cells" members))
  names : Table.find? made "variables".toList =
    some (.arr ((itemsAt "variables" members).map shortName))

namespace Shortened

variable {members made : Table Json}

theorem itemsAt_cells (h : Shortened members made) :
    itemsAt "cells" made = itemsAt "cells" members := by
  unfold itemsAt
  rw [h.cells]
  rfl

theorem itemsAt_names (h : Shortened members made) :
    itemsAt "variables" made = (itemsAt "variables" members).map shortName := by
  rw [itemsAt, h.names]

/-- An index names the same variable as before. -/
theorem refers (h : Shortened members made) {position : Nat} {e : CellEnd} {v : Json}
    (hrefers : Refers members position e v) : Refers made position e (shortName v) := by
  obtain ⟨cell, i, hcell, hindex, hv⟩ := hrefers
  refine ⟨cell, i, h.itemsAt_cells ▸ hcell, hindex, ?_⟩
  rw [h.itemsAt_names, List.getElem?_map, hv]
  rfl

end Shortened

/-! The warnings. -/

/-- The end of a cell stands before another in the order of the cells. -/
def Precedes (a b : Nat × CellEnd) : Prop :=
  a.1 < b.1 ∨ a.1 = b.1 ∧ a.2 = .source ∧ b.2 = .target

/-- The warning about an end of one of some cells. -/
def strayWarning (size : Nat) (cells : List Json) (stray : Nat × CellEnd) : Log.Entry :=
  strayEnd size stray.1 stray.2.key
    (((cells[stray.1]?).bind (·.member? stray.2.key)).getD .null)

/-- The ends of one cell that refer to no variable. -/
def straysIn (size : Nat) (cell : Json) : List CellEnd :=
  [CellEnd.source, .target].filter fun e => !isIndex size ((cell.member? e.key).getD .null)

/-- The ends of cells that refer to no variable. -/
def strays (size : Nat) (cells : List Json) : List (Nat × CellEnd) :=
  cells.zipIdx.flatMap fun c => (straysIn size c.1).map (c.2, ·)

theorem isIndex_iff {size : Nat} {value : Option Json} :
    isIndex size (value.getD .null) = true ↔ IsIndexInto size value := by
  unfold IsIndexInto
  cases value with
  | none => simp [isIndex]
  | some value => cases value <;> simp [isIndex]

theorem mem_straysIn {size : Nat} {cell : Json} {e : CellEnd} :
    e ∈ straysIn size cell ↔ ¬ IsIndexInto size (cell.member? e.key) := by
  have hends : e ∈ [CellEnd.source, .target] := by cases e <;> decide
  rw [straysIn, List.mem_filter, and_iff_right hends, ← isIndex_iff]
  simp

theorem mem_strays {size : Nat} {cells : List Json} {position : Nat} {e : CellEnd} :
    (position, e) ∈ strays size cells ↔
      ∃ cell, cells[position]? = some cell ∧ ¬ IsIndexInto size (cell.member? e.key) := by
  simp only [strays, List.mem_flatMap, List.mem_map, Prod.mk.injEq, Prod.exists,
    List.mk_mem_zipIdx_iff_getElem?]
  constructor
  · rintro ⟨cell, _, hcell, _, he, rfl, rfl⟩
    exact ⟨cell, hcell, mem_straysIn.mp he⟩
  · rintro ⟨cell, hcell, hstray⟩
    exact ⟨cell, position, hcell, e, mem_straysIn.mpr hstray, rfl, rfl⟩

theorem pairwise_strays (size : Nat) (cells : List Json) :
    (strays size cells).Pairwise Precedes := by
  rw [strays, List.pairwise_flatMap]
  constructor
  · rintro ⟨cell, position⟩ _
    have hends : [CellEnd.source, .target].Pairwise fun a b => a = .source ∧ b = .target := by
      simp
    rw [List.pairwise_map]
    exact (hends.filter _).imp fun hab => Or.inr ⟨rfl, hab⟩
  · have hpositions : cells.zipIdx.Pairwise fun a b => a.2 < b.2 := by
      rw [← List.pairwise_map (f := Prod.snd) (R := (· < ·)), List.zipIdx_map_snd]
      exact List.pairwise_lt_range'
    refine hpositions.imp fun hlt x hx y hy => Or.inl ?_
    obtain ⟨_, _, rfl⟩ := List.mem_map.mp hx
    obtain ⟨_, _, rfl⟩ := List.mem_map.mp hy
    exact hlt

theorem cellWarnings_eq (size position : Nat) (cell : Json) :
    cellWarnings size position cell = (straysIn size cell).map fun e =>
      strayEnd size position e.key ((cell.member? e.key).getD .null) := by
  simp only [cellWarnings, straysIn, List.flatMap_cons, List.flatMap_nil, List.filter_cons,
    List.filter_nil, CellEnd.key]
  cases isIndex size ((cell.member? "src").getD .null) <;>
    cases isIndex size ((cell.member? "dest").getD .null) <;> rfl

/-- The warnings about some cells are those about the ends that refer to no variable. -/
theorem warnings_eq (size : Nat) (cells : List Json) :
    (cells.zipIdx.flatMap fun c => cellWarnings size c.2 c.1) =
      (strays size cells).map (strayWarning size cells) := by
  rw [strays, List.map_flatMap]
  refine List.flatMap_congr ?_
  rintro ⟨cell, position⟩ hmem
  have hcell : cells[position]? = some cell := List.mk_mem_zipIdx_iff_getElem?.mp hmem
  rw [cellWarnings_eq, List.map_map]
  refine List.map_congr_left fun e _ => ?_
  simp only [Function.comp_apply, strayWarning, hcell, Option.bind_some]

/-! The converted record. -/

theorem itemsAt_cells_of_getD {members : Table Json} {cells : List Json}
    (h : (Table.find? members "cells".toList).getD (.arr []) = .arr cells) :
    itemsAt "cells" members = cells := by
  unfold itemsAt
  cases hfind : Table.find? members "cells".toList with
  | none =>
    rw [hfind] at h
    exact Json.arr.inj h
  | some value =>
    rw [hfind, Option.getD_some] at h
    rw [h]

theorem shortened_insert {members : Table Json} {vars cells : List Json}
    (hvars : Table.find? members "variables".toList = some (.arr vars))
    (hcells : (Table.find? members "cells".toList).getD (.arr []) = .arr cells) :
    Shortened members (Table.insert "cells".toList (.arr cells)
      (Table.insert "variables".toList (.arr (vars.map shortName)) members)) := by
  have hapart : "variables".toList ≠ "cells".toList := by decide
  have hmem : "variables".toList ∈ Table.keys members := Table.mem_keys_of_find? hvars
  refine ⟨?_, ?_, ?_, ?_⟩
  · rw [Table.keys_insert, Table.keys_insert, if_pos hmem]
    split
    · rw [List.append_nil]
    · rfl
  · intro key hvariable hcell
    rw [Table.find?_insert, if_neg hcell, Table.find?_insert, if_neg hvariable]
  · rw [Table.find?_insert, if_pos rfl, itemsAt_cells_of_getD hcells]
  · rw [Table.find?_insert, if_neg hapart, Table.find?_insert, if_pos rfl, itemsAt, hvars]

/-- Conversion of a record keeps what its indices refer to. Exactly the ends of cells that are no
index of a variable are warned of, each once and in order. -/
theorem convertCells_keeps_indices {record : Json} (h : checkShape record = .ok ()) :
    ∃ (members made : Table Json) (ends : List (Nat × CellEnd)), record = .obj members ∧
      convertCells record = .ok (.obj made,
        ends.map (strayWarning (itemsAt "variables" members).length (itemsAt "cells" members))) ∧
      Shortened members made ∧
      (∀ position e v, Refers members position e v → Refers made position e (shortName v)) ∧
      ends.Pairwise Precedes ∧
      ∀ position e, (position, e) ∈ ends ↔
        ∃ cell, (itemsAt "cells" members)[position]? = some cell ∧
          ¬ IsIndexInto (itemsAt "variables" members).length (cell.member? e.key) := by
  obtain ⟨members, vars, cells, rfl, hvars, hcells, hobjects⟩ :=
    isSideRecord_iff.mp (checkShape_eq_ok.mp h)
  have hshort := shortened_insert hvars hcells
  have hvars' : itemsAt "variables" members = vars := by rw [itemsAt, hvars]
  have hcells' := itemsAt_cells_of_getD hcells
  refine ⟨members, _, strays vars.length cells, rfl, ?_, hshort, fun _ _ _ => hshort.refers, ?_, ?_⟩
  · rw [convertCells_obj hvars hcells hobjects, warnings_eq, hvars', hcells']
    rfl
  · exact pairwise_strays vars.length cells
  · intro position e
    rw [hvars', hcells']
    exact mem_strays

/-- A record whose cell has an end that is a truth value and one that is missing. -/
def strayRecord : Json :=
  .obj [("cells".toList, .arr [.obj [("src".toList, .bool false)]]),
    ("variables".toList, .arr [.str "/p/main.py".toList])]

theorem convertCells_keeps_indices_stray : ∃ made log,
    convertCells strayRecord = .ok (.obj made, log) ∧
      Table.find? made "variables".toList = some (.arr [.str "main.py".toList]) ∧
      strayEnd 1 0 "src" (.bool false) ∈ log ∧ strayEnd 1 0 "dest" .null ∈ log := by
  have hshape : checkShape strayRecord = .ok () := rfl
  obtain ⟨members, made, ends, hrecord, hrun, hshort, _, _, hends⟩ :=
    convertCells_keeps_indices hshape
  obtain rfl := Json.obj.inj hrecord
  refine ⟨made, _, hrun, hshort.names, ?_, ?_⟩
  · refine List.mem_map.mpr ⟨(0, .source), (hends _ _).mpr ⟨_, rfl, ?_⟩, rfl⟩
    rintro ⟨i, hi, _⟩
    cases hi
  · refine List.mem_map.mpr ⟨(0, .target), (hends _ _).mpr ⟨_, rfl, ?_⟩, rfl⟩
    rintro ⟨i, hi, _⟩
    cases hi

end DepView.Dependency
