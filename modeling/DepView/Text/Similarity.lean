import DepView.Text.Basic

/-!
How alike two texts are: twice the characters that they share, in proportion to all their
characters. What they share is their longest common block, and then what is shared before and
behind it.
-/

namespace DepView.Text

/-- A block that stands in two texts, by its places there. -/
structure Block where
  left : Nat
  right : Nat
  size : Nat
deriving DecidableEq, Repr

/-- The length of the longest common beginning. -/
def commonStart : Text → Text → Nat
  | a :: as, b :: bs => if a = b then commonStart as bs + 1 else 0
  | _, _ => 0

/-- The longest common block. Of those of one length it is the first on the left, and there the
first on the right. -/
def longestBlock (a b : Text) : Block :=
  let blocks := (List.range a.length).flatMap fun i =>
    (List.range b.length).map fun j => Block.mk i j (commonStart (a.drop i) (b.drop j))
  blocks.foldl (fun best block => if best.size < block.size then block else best) ⟨0, 0, 0⟩

/-- The number of characters that two texts share. -/
def sharedCount (a b : Text) : Nat :=
  let block := longestBlock a b
  if _h : 0 < block.size ∧ block.left < a.length then
    sharedCount (a.take block.left) (b.take block.right) + block.size +
      sharedCount (a.drop (block.left + block.size)) (b.drop (block.right + block.size))
  else 0
termination_by a.length
decreasing_by
  · simp only [block] at _h
    rw [List.length_take]
    omega
  · simp only [block] at _h
    rw [List.length_drop]
    omega

/-- How alike two texts are, as a fraction. -/
def likeness (a b : Text) : Nat × Nat :=
  (2 * sharedCount a b, a.length + b.length)

/-- The texts of which at least three fifths are shared with a word: the three that are most like
it, in alphabetical order. -/
def nearest (word : Text) (texts : List Text) : List Text :=
  let near := (texts.map fun text => (likeness text word, text)).filter fun ((shared, all), _) =>
    3 * all ≤ 5 * shared
  let ranked := near.mergeSort fun ((s, n), a) ((t, m), b) =>
    t * n < s * m || (t * n == s * m && (compare b a).isLE)
  ((ranked.take 3).map (·.2)).mergeSort fun a b => (compare a b).isLE

end DepView.Text
