import DepView.Dependency.Conversion
import DepView.Proofs.LineEndings
import DepView.Proofs.StoreWrites
import DepView.Proofs.SurrogateHalves

/-!
Paths beside a file: the same directory and the same stem with another ending. A file that can
be read has a name, so there is such a path for every ending. Nothing is wrong with its text
that was not wrong before, apart from its length.
-/

namespace DepView.Text

theorem join_append_singleton (sep : Text) (pieces : List Text) :
    ∃ before, ∀ last, join sep (pieces ++ [last]) = before ++ last := by
  unfold join
  induction pieces with
  | nil => exact ⟨[], fun last => by simp⟩
  | cons piece pieces ih =>
    obtain ⟨before, hbefore⟩ := ih
    refine ⟨piece ++ sep ++ before, fun last => ?_⟩
    rw [List.cons_append, List.intercalate_cons_of_ne_nil (by simp), hbefore]
    simp

end DepView.Text

namespace DepView

open Text

namespace Path

/-- The names of a path are neither empty nor cut by a slash. -/
def IsProper (p : Path) : Prop :=
  ∀ part ∈ p.parts, part ≠ [] ∧ '/' ∉ part

theorem isProper_ofText (text : Text) : (ofText text).IsProper := by
  intro part hpart
  obtain ⟨hpiece, hkept⟩ := List.mem_filter.mp hpart
  have hne : part ≠ [] ∧ part ≠ ['.'] := by simpa using hkept
  exact ⟨hne.1, notMem_of_mem_splitAt hpiece⟩

theorem name_mem_parts {p : Path} (h : p.parts ≠ []) : p.name ∈ p.parts := by
  rw [name, List.getLast?_eq_some_getLast h]
  exact List.getLast_mem h

theorem splitName_fst_subset (name : Text) : (splitName name).1 ⊆ name := by
  unfold splitName
  dsimp only
  split
  · exact List.take_subset _ name
  · exact List.Subset.refl name

/-- The path in the same directory that has the same stem and an ending. -/
def beside (p : Path) (ending : Text) : Path :=
  { p with parts := p.parts.dropLast ++ [p.stem ++ ending] }

theorem takeWhile_slash {text : Text} (h : '/' ∉ text) : text.takeWhile (· == '/') = [] := by
  cases text with
  | nil => rfl
  | cons c rest =>
    have hc : (c == '/') = false := beq_false_of_ne fun heq => h (heq ▸ List.mem_cons_self)
    simp [hc]

/-- A name of more than one character is none of the names that mean nothing. -/
theorem isKept_of_long {text : Text} (h : 1 < text.length) :
    (text != [] && text != ['.']) = true := by
  simp only [Bool.and_eq_true, bne_iff_ne]
  constructor <;> (rintro rfl; simp at h)

theorem isName_of_notMem {text : Text} (hslash : '/' ∉ text) (hlong : 1 < text.length) :
    isName text = true := by
  have hlast : text.getLast? ≠ some '/' := fun h => hslash (List.mem_of_getLast? h)
  have hroot : rootOf text = [] := by
    rw [rootOf, takeWhile_slash hslash]
    rfl
  simp [isName, hlast, hroot, partsOf, splitAt_of_notMem hslash, isKept_of_long hlong]

/-- A proper path with a name has every other path beside it. -/
theorem withName?_stem {p : Path} (hp : p.IsProper) (hparts : p.parts ≠ []) {ending : Text}
    (hslash : '/' ∉ ending) (hlong : 1 < ending.length) :
    p.withName? (p.stem ++ ending) = some (p.beside ending) := by
  obtain ⟨hname, hnameSlash⟩ := hp p.name (name_mem_parts hparts)
  have hstem : '/' ∉ p.stem := fun h => hnameSlash (splitName_fst_subset p.name h)
  have hisName : isName (p.stem ++ ending) = true := by
    apply isName_of_notMem
    · simp [hstem, hslash]
    · simp only [List.length_append]
      omega
  simp [withName?, hname, hisName, beside]

/-- The text of a path is what stands before its last name, and the name. -/
theorem toText_beside (p : Path) :
    ∃ before, ∀ ending, (p.beside ending).toText = before ++ ending := by
  obtain ⟨before, hbefore⟩ := join_append_singleton ['/'] p.parts.dropLast
  refine ⟨p.root ++ before ++ p.stem, fun ending => ?_⟩
  have htext : (p.beside ending).toText =
      p.root ++ join ['/'] (p.parts.dropLast ++ [p.stem ++ ending]) := by
    unfold toText beside
    dsimp only
    split
    · rename_i hnil
      simp at hnil
    · rfl
  rw [htext, hbefore]
  simp

end Path

namespace Store

/-- A text that is looked for with one ending is looked for with any other. -/
theorem isOfText_textFault? {before a b : Text} (ha : textFault? (before ++ '.' :: a) = none)
    (hb : ∀ c ∈ b, IsOrdinary c) (hnul : '\x00' ∉ b) {fault : Fault}
    (h : textFault? (before ++ '.' :: b) = some fault) : fault.isOfText = false := by
  have hdot : IsOrdinary '.' := isOrdinary_of_isAscii (by decide)
  have hcodes : ∀ code ∈ codes b, isSurrogate code = false :=
    isSurrogate_of_mem_codes (isChain_of_isOrdinary hb)
  unfold textFault? at ha
  split_ifs at ha with hsurrogate hnulBefore
  rw [Bool.not_eq_true, codes_append_cons hdot, List.any_append, List.any_cons,
    Bool.or_eq_false_iff, Bool.or_eq_false_iff] at hsurrogate
  have hany : ((codes (before ++ '.' :: b)).any
      fun code => isSurrogate code && !isRawByte code) = false := by
    rw [codes_append_cons hdot, List.any_append, List.any_cons, hsurrogate.1, hsurrogate.2.1]
    simpa using fun code hcode hs => absurd hs (by simp [hcodes code hcode])
  have hzero : List.contains (before ++ '.' :: b) '\x00' = false := by
    simp only [List.contains_eq_mem, List.mem_append, decide_eq_true_eq, not_or] at hnulBefore
    simp [hnulBefore.1, hnul]
  unfold textFault? at h
  rw [hany, hzero] at h
  simp only [Bool.false_eq_true, if_false] at h
  split at h
  · cases h
    rfl
  · cases h

/-- A file that can be read has a name. -/
theorem parts_ne_nil_of_read {s : Store} {p : Path} {bytes : Bytes} (h : s.read p = .ok bytes) :
    p.parts ≠ [] := by
  intro hparts
  obtain ⟨place, hplace, hentry⟩ := read_eq_ok.mp h
  obtain ⟨_, hwalk⟩ := locate_eq_ok.mp hplace
  rw [hparts, walk] at hwalk
  obtain rfl : s.startOf p = place := by simpa using hwalk
  have hdir : s.entry? (s.startOf p) = some .dir := by
    unfold entry? startOf
    split <;> simp
  rw [hdir] at hentry
  cases hentry

/-- What is met on the way is not said of the text of a path. -/
theorem isOfText_walk {s : Store} {links : Nat} {follow : Bool} {start : Place}
    {names : List Text} {fault : Fault} (h : s.walk links follow start names = .error fault) :
    fault.isOfText = false := by
  fun_induction walk s links follow start names with
  | case1 | case5 | case8 | case10 => cases h
  | case2 _ _ _ ih | case3 _ _ _ _ ih | case7 _ _ _ _ _ _ _ _ ih => exact ih h
  | case4 | case6 | case9 | case11 =>
    cases h
    rfl
  | case12 _ _ _ _ _ _ _ _ _ _ ih => exact ih h

theorem isOfText_read {s : Store} {p : Path} {fault : Fault} (h : s.read p = .error fault) :
    textFault? p.toText = some fault ∨ fault.isOfText = false := by
  unfold read find at h
  cases hplace : s.locate p with
  | error first =>
    obtain rfl : first = fault := by simpa [hplace, bind, Except.bind] using h
    unfold locate locateBy at hplace
    split at hplace
    · rename_i htext
      cases hplace
      exact Or.inl htext
    · exact Or.inr (isOfText_walk hplace)
  | ok place =>
    refine Or.inr ?_
    simp only [hplace, bind, Except.bind] at h
    cases hentry : s.entry? place with
    | none =>
      rw [hentry] at h
      cases h
      rfl
    | some entry =>
      rw [hentry] at h
      cases entry <;> cases h <;> rfl

/-- A path that is beside one that leads somewhere is not refused for its text. -/
theorem isOfText_read_beside {s s' : Store} {p : Path} {a b : Text} {place : Place}
    (ha : s.locate (p.beside ('.' :: a)) = .ok place) (hb : ∀ c ∈ b, IsOrdinary c)
    (hnul : '\x00' ∉ b) {fault : Fault} (h : s'.read (p.beside ('.' :: b)) = .error fault) :
    fault.isOfText = false := by
  obtain ⟨before, hbefore⟩ := p.toText_beside
  have hlocated := (locate_eq_ok.mp ha).1
  rw [hbefore] at hlocated
  rcases isOfText_read h with htext | hother
  · rw [hbefore] at htext
    exact isOfText_textFault? hlocated hb hnul htext
  · exact hother

end Store

end DepView
