import DepView.Text.Basic

/-!
Sets of code points. A set is kept as its runs of neighbours in ascending order. It is written as
numbers in base 36: for every run how many code points are left out before it, and how many there
are in it.
-/

namespace DepView.Text

/-- The value of a digit in base 36. -/
def numeralDigit (c : Char) : Nat :=
  if c.isDigit then c.toNat - 48 else c.toNat - 87

/-- The numbers that stand in lines, in base 36, each with a blank behind it. -/
def numerals (lines : List String) : List Nat :=
  (lines.foldl (fun done line => line.toList.foldl next done) ([], 0)).1.reverse
where
  next : List Nat × Nat → Char → List Nat × Nat := fun (done, n) c =>
    if c == ' ' then (n :: done, 0) else (done, 36 * n + numeralDigit c)

/-- The first and the last code point of every run of neighbours, in ascending order. -/
structure Ranges where
  runs : Array (Nat × Nat)
deriving Repr

namespace Ranges

/-- The runs behind a code point, from how many are left out and taken in turn. -/
def runsFrom (start : Nat) : List Nat → List (Nat × Nat)
  | left :: taken :: rest =>
    (start + left, start + left + taken - 1) :: runsFrom (start + left + taken) rest
  | _ => []

def ofLines (lines : List String) : Ranges :=
  ⟨(runsFrom 0 (numerals lines)).toArray⟩

/-- The number of the runs with numbers from `low` to below `high` that start at or before a code
point, counted from zero. -/
def search (r : Ranges) (code low high : Nat) : Nat :=
  if h : low < high then
    let middle := (low + high) / 2
    if (r.runs[middle]?).any (·.1 ≤ code) then search r code (middle + 1) high
    else search r code low middle
  else low
termination_by high - low

def contains (r : Ranges) (code : Nat) : Bool :=
  match search r code 0 r.runs.size with
  | 0 => false
  | n + 1 => (r.runs[n]?).any (code ≤ ·.2)

/-- Whether a character is in the set. -/
def has (r : Ranges) (c : Char) : Bool :=
  r.contains c.toNat

end Ranges

end DepView.Text
