import DepView.Table
import DepView.Text.Blank
import DepView.Text.Digit
import DepView.Text.Quoted
import DepView.Text.Scan

/-!
Labels of numbered nodes. The analyzer numbers the files it has seen, and a comment says which
file a number stands for: two slashes, the number, a colon and the file's path up to the end of
the line. A node is labelled with the last segment of its path.
-/

namespace DepView.Dependency

open Text

/-- Paths are cut at slashes of either kind. -/
def isSeparator (c : Char) : Bool :=
  c == '/' || c == '\\'

/-- The last segment of a path. Separators at the end do not count; a path that has nothing
else is its own last segment. -/
def basename (path : Text) : Text :=
  match trimEndWhile isSeparator (trim path) with
  | [] => trim path
  | trimmed => lastPiece isSeparator trimmed

/-- A comment that gives the path of a number. -/
def idComment? (text : Text) : Option ((Text × Text) × Text) := do
  let afterSlashes ← after? ['/', '/'] text
  let (id, afterId) ← run? isDecimal (afterSlashes.dropWhile isBlank)
  let path ← after? [':'] afterId
  return ((id, path.takeWhile (· != '\n')), path.dropWhile (· != '\n'))

theorem idComment?_lt {text rest : Text} {found : Text × Text}
    (h : idComment? text = some (found, rest)) : rest.length < text.length := by
  simp only [idComment?, Option.bind_eq_bind, Option.bind_eq_some_iff] at h
  obtain ⟨r1, h1, ⟨id, r2⟩, h2, r3, h3, h4⟩ := h
  simp only [Option.pure_def, Option.some.injEq, Prod.mk.injEq] at h4
  have l1 := after?_length h1
  have l2 := run?_lt h2
  have l3 := after?_length h3
  have d1 := length_dropWhile_le isBlank r1
  have d2 := length_dropWhile_le (· != '\n') r3
  rw [← h4.2]
  dsimp only at *
  omega

def idComment : Pattern (Text × Text) := ⟨idComment?, idComment?_lt⟩

abbrev Labels := Table Text

/-- The labels that the comments of a text give. The last comment for a number counts. -/
def labelsOf (text : Text) : Labels :=
  Table.ofPairs ((idComment.findAll text).map fun (id, path) => (id, basename path))

/-- A number without a label, or with an empty one, stands for itself. -/
def labelFor (labels : Labels) (id : Text) : Text :=
  match labels.find? id with
  | some (c :: label) => c :: label
  | _ => id

/-!
From numbered edges to edges between quoted labels. The text is changed line by line: an edge
at the start of a line gets its labels, comment lines and blank lines go, and every other line
stays as it is.
-/

structure NumberedEdge where
  indent : Text
  source : Text
  target : Text
deriving DecidableEq, Repr

/-- A numbered edge at the start of a line, and what follows its semicolon. -/
def numberedEdge? (line : Text) : Option (NumberedEdge × Text) := do
  let indent := line.takeWhile isIndent
  let (source, afterSource) ← run? isDecimal (line.dropWhile isIndent)
  let (_, beforeArrow) ← run? isIndent afterSource
  let afterArrow ← after? ['-', '>'] beforeArrow
  let (_, beforeTarget) ← run? isIndent afterArrow
  let (target, afterTarget) ← run? isDecimal beforeTarget
  let rest ← after? [';'] afterTarget
  return (⟨indent, source, target⟩, rest)

/-- A label between quotes. -/
def quote (label : Text) : Text :=
  '"' :: Quoted.escape label ++ ['"']

/-- The line with the edge at its start, if there is one, between labels. -/
def relabelLine (labels : Labels) (line : Text) : Text :=
  match numberedEdge? line with
  | none => line
  | some (edge, rest) =>
    edge.indent ++ quote (labelFor labels edge.source) ++ [' ', '-', '>', ' '] ++
      quote (labelFor labels edge.target) ++ ';' :: rest

/-- A line whose first characters other than blanks are two slashes. -/
def isComment (line : Text) : Bool :=
  (after? ['/', '/'] (line.dropWhile isBlank)).isSome

/-- A line that stays: it is neither blank nor a comment. -/
def isKept (line : Text) : Bool :=
  !line.all isBlank && !isComment line

/-- Relabels a text with given labels. A label may hold line feeds; the lines that they make are
kept or dropped like any other. Each line that is kept ends in a line feed. -/
def relabelWith (labels : Labels) (text : Text) : Text :=
  let relabelled := (lines (foldCrlf text)).flatMap fun line => lines (relabelLine labels line)
  (relabelled.filter isKept).flatMap (· ++ ['\n'])

/-- Relabels a text with the labels that its own comments give. -/
def relabel (text : Text) : Text :=
  relabelWith (labelsOf (foldCrlf text)) text

end DepView.Dependency
