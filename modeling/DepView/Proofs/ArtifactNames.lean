import DepView.Overlay.Location
import DepView.Proofs.DependencyLabels
import DepView.Proofs.EncodedText
import DepView.Tree.Files

/-!
One name for the artifacts of a source file. The label of a node is the last name of a path, the
dumps of a tree are named for the last name of the source file, and the first location of a node
is made of its identifier. So the label of a source file leads to the graph of its tree,
whatever characters are in the name.
-/

namespace DepView

open Text

/-- A file name that can end the path in a comment. -/
structure FileName where
  text : Text
  ne_nil : text ≠ []
  slash_notMem : '/' ∉ text
  backslash_notMem : '\\' ∉ text
  isBlank_head : text.head?.any isBlank = false
  isBlank_last : text.getLast?.any isBlank = false

/-- What may stand before a file name: nothing, or names and slashes with a slash at the end. -/
def IsDirectories (before : Text) : Prop :=
  before = [] ∨ before.getLast? = some '/'

namespace Text

theorem trimEndWhile_append {p : Char → Bool} {b : Text} (hb : b ≠ [])
    (h : b.getLast?.any p = false) (a : Text) : trimEndWhile p (a ++ b) = a ++ b := by
  have hlast : p (b.getLast hb) = false := by
    rwa [List.getLast?_eq_some_getLast hb] at h
  have hsplit : (a ++ b).reverse = b.getLast hb :: (a ++ b.dropLast).reverse := by
    rw [← List.reverse_concat, List.append_assoc, List.dropLast_concat_getLast hb]
  rw [trimEndWhile, hsplit, List.dropWhile_cons_of_neg (by simp [hlast]), ← hsplit,
    List.reverse_reverse]

theorem lastPiece_append {p : Char → Bool} {a b : Text} (hb : ∀ c ∈ b, p c = false)
    (ha : ∀ c ∈ a.getLast?, p c = true) : lastPiece p (a ++ b) = b := by
  have hb' : ∀ c ∈ b.reverse, (!p c) = true := by
    intro c hc
    rw [hb c (List.mem_reverse.mp hc)]
    rfl
  have ha' : a.reverse.takeWhile (fun c => !p c) = [] := by
    cases hlast : a.reverse with
    | nil => rfl
    | cons c rest =>
      have hc : p c = true := ha c (by rw [← List.head?_reverse, hlast, List.head?_cons]; rfl)
      simp [hc]
  rw [lastPiece, List.reverse_append, List.takeWhile_append_of_pos hb', ha', List.append_nil,
    List.reverse_reverse]

end Text

namespace Dependency

theorem trim_directories (N : FileName) (before : Text) :
    ∃ left, left <:+ before ∧ trim (before ++ N.text) = left ++ N.text := by
  obtain ⟨c, rest, hN⟩ := List.exists_cons_of_ne_nil N.ne_nil
  have hc : isBlank c = false := by
    have hhead := N.isBlank_head
    rwa [hN] at hhead
  obtain ⟨left, hleft, heq⟩ := dropWhile_append_cons hc before rest
  rw [← hN] at heq
  refine ⟨left, hleft, ?_⟩
  rw [trim, trimWhile, heq]
  exact trimEndWhile_append N.ne_nil N.isBlank_last left

/-- The last segment of a path is the name at its end. -/
theorem basename_append {before : Text} (hbefore : IsDirectories before) (N : FileName) :
    basename (before ++ N.text) = N.text := by
  have hseparator : ∀ c ∈ N.text, isSeparator c = false := by
    intro c hc
    have hslash : c ≠ '/' := fun h => N.slash_notMem (h ▸ hc)
    have hbackslash : c ≠ '\\' := fun h => N.backslash_notMem (h ▸ hc)
    simp [isSeparator, hslash, hbackslash]
  obtain ⟨left, hleft, htrim⟩ := trim_directories N before
  have hlast : ∀ c ∈ left.getLast?, isSeparator c = true := by
    intro c hc
    obtain ⟨start, rfl⟩ := hleft
    have hend : (start ++ left).getLast? = some c := by
      rw [List.getLast?_append, Option.mem_def.mp hc, Option.some_or]
    rcases hbefore with hnil | hslash
    · simp [hnil] at hend
    · obtain rfl : '/' = c := Option.some.inj (hslash.symm.trans hend)
      rfl
  have hend : N.text.getLast?.any isSeparator = false := by
    rw [List.getLast?_eq_some_getLast N.ne_nil]
    exact hseparator _ (List.getLast_mem N.ne_nil)
  have hkept : trimEndWhile isSeparator (left ++ N.text) = left ++ N.text :=
    trimEndWhile_append N.ne_nil hend left
  unfold basename
  rw [htrim, hkept]
  split
  · rename_i hnil
    exact absurd (List.append_eq_nil_iff.mp hnil).2 N.ne_nil
  · exact lastPiece_append hseparator hlast

/-- A comment gives its number the name at the end of its path. -/
theorem labelsOf_comment (id : Number) (path : LinePath) {before : Text} {N : FileName}
    (hpath : path.text = before ++ N.text) (hbefore : IsDirectories before) :
    labelsOf (Line.comment id path).text = [(id.text, N.text)] := by
  unfold labelsOf
  rw [findAll_idComment_last]
  simp [Line.given, hpath, basename_append hbefore, Table.ofPairs, Table.insert]

end Dependency

namespace Overlay

theorem isComponentSafe_percent : isComponentSafe '%' = false := by
  decide

/-- The first location of a node leads to the graph that is named for it. -/
theorem decode_firstLocation (id : Text) : ∃ segment,
    (locations id).head? = some (artifactRoute ++ '/' :: segment) ∧
      Utf8.decode? (Percent.decode segment) = some (id ++ treeDot) := by
  refine ⟨encodeId id ++ treeDot, ?_, ?_⟩
  · simp [locations, locationsBy, generators, firsts, underRoute]
  · have hplain : '%' ∉ treeDot := by decide
    rw [encodeId, Percent.decode_encode_append isComponentSafe_percent,
      Percent.decode_of_notMem hplain]
    have happend : Utf8.encode id ++ Utf8.encode treeDot = Utf8.encode (id ++ treeDot) :=
      List.flatMap_append.symm
    rw [happend, Utf8.decode?_encode]

end Overlay

end DepView
