import DepView.Graph.Basic
import DepView.Text.Blank
import DepView.Text.Quoted
import DepView.Text.Word

/-!
Reading graph text. One dialect has an edge between two quoted labels, and the labels name the
nodes. The other declares nodes under identifiers and has edges between identifiers. A text in
which a quoted edge occurs is of the first dialect. What is not recognised is passed over, so
every text is read.
-/

namespace DepView

open Text

inductive Dialect where
  | quoted
  | labeledNode
deriving DecidableEq, Repr

namespace Dialect

def name : Dialect → String
  | quoted => "quoted"
  | labeledNode => "labeled_node"

end Dialect

namespace Graph

/-- An arrow with indentation on both sides. -/
def arrow? (text : Text) : Option Text :=
  (after? ['-', '>'] (text.dropWhile isIndent)).map (·.dropWhile isIndent)

def quotedEdge? (text : Text) : Option (Edge × Text) := do
  let (source, afterSource) ← Quoted.label? text
  let afterArrow ← arrow? afterSource
  let (target, rest) ← Quoted.label? afterArrow
  return (⟨source, target⟩, rest)

/-- A declaration of a node, up to its closing bracket. -/
def declaration? (text : Text) : Option (Node × Text) := do
  let (id, afterId) ← run? isIdent text
  let afterWord ← after? ['[', 'l', 'a', 'b', 'e', 'l'] (afterId.dropWhile isBlank)
  let afterEquals ← after? ['='] (afterWord.dropWhile isBlank)
  let (label, afterLabel) ← Quoted.string? (afterEquals.dropWhile isBlank)
  let rest ← after? [']'] afterLabel
  return (⟨id, label⟩, rest)

def identEdge? (text : Text) : Option (Edge × Text) := do
  let (source, afterSource) ← run? isIdent text
  let afterArrow ← after? ['-', '>'] (afterSource.dropWhile isBlank)
  let (target, rest) ← run? isIdent (afterArrow.dropWhile isBlank)
  return (⟨source, target⟩, rest)

theorem arrow?_le {text rest : Text} (h : arrow? text = some rest) :
    rest.length ≤ text.length := by
  obtain ⟨r, ha, rfl⟩ := Option.map_eq_some_iff.1 h
  have h1 := after?_length ha
  have h2 := length_dropWhile_le isIndent text
  have h3 := length_dropWhile_le isIndent r
  omega

theorem quotedEdge?_lt {text : Text} {edge : Edge} {rest : Text}
    (h : quotedEdge? text = some (edge, rest)) : rest.length < text.length := by
  simp only [quotedEdge?, Option.bind_eq_bind, Option.bind_eq_some_iff] at h
  obtain ⟨⟨s, r1⟩, h1, r2, h2, ⟨t, r3⟩, h3, h4⟩ := h
  simp only [Option.pure_def, Option.some.injEq, Prod.mk.injEq] at h4
  have l1 := Quoted.label?_lt h1
  have l2 := arrow?_le h2
  have l3 := Quoted.label?_lt h3
  rw [← h4.2]
  dsimp only at *
  omega

theorem declaration?_lt {text : Text} {node : Node} {rest : Text}
    (h : declaration? text = some (node, rest)) : rest.length < text.length := by
  simp only [declaration?, Option.bind_eq_bind, Option.bind_eq_some_iff] at h
  obtain ⟨⟨s, r1⟩, h1, r2, h2, r3, h3, ⟨l, r4⟩, h4, r5, h5, h6⟩ := h
  simp only [Option.pure_def, Option.some.injEq, Prod.mk.injEq] at h6
  have l1 := run?_lt h1
  have l2 := after?_length h2
  have l3 := after?_length h3
  have l4 := Quoted.string?_lt h4
  have l5 := after?_length h5
  have d1 := length_dropWhile_le isBlank r1
  have d2 := length_dropWhile_le isBlank r2
  have d3 := length_dropWhile_le isBlank r3
  rw [← h6.2]
  dsimp only at *
  omega

theorem identEdge?_lt {text : Text} {edge : Edge} {rest : Text}
    (h : identEdge? text = some (edge, rest)) : rest.length < text.length := by
  simp only [identEdge?, Option.bind_eq_bind, Option.bind_eq_some_iff] at h
  obtain ⟨⟨s, r1⟩, h1, r2, h2, ⟨t, r3⟩, h3, h4⟩ := h
  simp only [Option.pure_def, Option.some.injEq, Prod.mk.injEq] at h4
  have l1 := run?_lt h1
  have l2 := after?_length h2
  have l3 := run?_lt h3
  have d1 := length_dropWhile_le isBlank r1
  have d2 := length_dropWhile_le isBlank r2
  rw [← h4.2]
  dsimp only at *
  omega

def quotedEdge : Pattern Edge := ⟨quotedEdge?, quotedEdge?_lt⟩

def declaration : Pattern Node := ⟨declaration?, declaration?_lt⟩

def identEdge : Pattern Edge := ⟨identEdge?, identEdge?_lt⟩

/-- A single quoted edge decides for the quoted dialect, whatever else the text holds. -/
def dialectOf (text : Text) : Dialect :=
  if quotedEdge.occursIn text then .quoted else .labeledNode

/-- The edges between quoted labels, line by line, with the labels they stand for. -/
def quotedEdges (text : Text) : List Edge :=
  (lines text).flatMap fun line =>
    (quotedEdge.findAll line).map fun e => ⟨Quoted.unescape e.source, Quoted.unescape e.target⟩

def ofQuoted (text : Text) : Graph :=
  ofEdges (quotedEdges text)

/-- Declared nodes come first, and the last declaration of an identifier gives the label. Edges
are looked for in the text with all quoted strings emptied, so that no label holds one. -/
def ofLabeledNodes (text : Text) : Graph :=
  let declared := (declaration.findAll text).foldl
    (fun g n => g.addNode n.id (Quoted.unescape n.label)) empty
  let unquoted := Quoted.string.replaceAll (fun _ => ['"', '"']) text
  (identEdge.findAll unquoted).foldl (fun g e => g.addEdge e.source e.target) declared

/-- Reads a graph in the dialect that its text uses. -/
def read (text : Text) : Dialect × Graph :=
  let text := foldCrlf text
  match dialectOf text with
  | .quoted => (.quoted, ofQuoted text)
  | .labeledNode => (.labeledNode, ofLabeledNodes text)

def ofText (text : Text) : Graph :=
  (read text).2

end Graph

end DepView
