import DepView.Decimal.Shortest
import DepView.Json.Reader
import DepView.Json.Writer
import DepView.Proofs.PatternScan
import Mathlib.Data.List.DropRight
import Mathlib.Tactic.SplitIfs

/-!
Written numbers are read to their end. The shortest digits of a number that is not zero do not begin
with a zero, and so its text has the parts that the reader looks for: digits without a leading zero,
a point with digits behind it, an exponent. What follows a number must not go on with it.
-/

namespace DepView.Decimal

/-- One digit or more, and nothing else. -/
def IsRun (ds : Text) : Prop :=
  ds ≠ [] ∧ ∀ c ∈ ds, c.isDigit = true

theorem isRun_zero : IsRun ['0'] :=
  ⟨List.cons_ne_nil _ _, List.forall_mem_singleton.mpr rfl⟩

theorem isRun_digits (n : Nat) : IsRun (digits n) :=
  ⟨Nat.toDigits_ne_nil, fun _ hc => Nat.isDigit_of_mem_toDigits (by decide) (by decide) hc⟩

theorem natOfDigits_digits (n : Nat) : natOfDigits (digits n) = n :=
  Nat.ofDigitChars_ten_toDigits

theorem head?_digits {n : Nat} (h : 0 < n) : (digits n).head? ≠ some '0' := by
  induction n using Nat.strong_induction_on with
  | _ n ih =>
    rw [digits, Nat.toDigits_eq_if (by decide)]
    split
    · have hdigit : ∀ d < 10, 0 < d → d.digitChar ≠ '0' := by decide
      simpa using hdigit n ‹_› h
    · have hquotient := ih (n / 10) (Nat.div_lt_self h (by decide)) (by omega)
      rwa [List.head?_append_of_ne_nil _ Nat.toDigits_ne_nil]

/-! Shortest digits. -/

theorem Interval.holds_zero {i : Interval} (h : 0 < i.low) (e : Int) : i.holds 0 e = false := by
  have hden : 0 < (scaled 0 10 e).2 := by
    unfold scaled
    split
    · exact Nat.one_pos
    · exact Nat.pow_pos (by decide)
  have hnum : (scaled 0 10 e).1 = 0 := by
    unfold scaled
    split <;> simp
  have hlow : 0 < i.low * (scaled 0 10 e).2 := Nat.mul_pos h hden
  unfold holds
  simp only [hnum, Nat.zero_mul]
  split
  · simp only [Bool.and_eq_false_iff, decide_eq_false_iff_not]
    omega
  · simp only [Bool.and_eq_false_iff, decide_eq_false_iff_not]
    omega

theorem Interval.candidate?_pos {i : Interval} (h : 0 < i.low) {count d : Nat} {e : Int}
    (hd : i.candidate? count = some (d, e)) : 0 < d := by
  have hzero : ∀ {d}, i.holds d e = true → d ≠ 0 := by
    rintro d hholds rfl
    rw [Interval.holds_zero h] at hholds
    cases hholds
  unfold candidate? at hd
  simp only at hd
  split at hd
  · rename_i hbelow _
    cases hd
    split
    · exact Nat.succ_pos _
    · exact Nat.pos_of_ne_zero (hzero hbelow)
  · rename_i hbelow _
    cases hd
    exact Nat.pos_of_ne_zero (hzero hbelow)
  · cases hd
    exact Nat.succ_pos _
  · cases hd

theorem Interval.low_of_pos {m : Nat} (h : 0 < m) (q : Int) : 0 < (Interval.of m q).low := by
  have hunit : 0 < (scaled 1 2 (q - 2)).1 := by
    unfold scaled
    split
    · exact Nat.mul_pos Nat.one_pos (Nat.pow_pos (by decide))
    · exact Nat.one_pos
  have hmantissa : 0 < 4 * m - if m == Nat.pow 2 52 && decide (q > -1074) then 1 else 2 := by
    split <;> omega
  exact Nat.mul_pos hmantissa hunit

theorem shortest_pos {m : Nat} (h : 0 < m) (q : Int) : 0 < (shortest m q).1 := by
  unfold shortest
  dsimp only
  cases hfound : (List.range 17).findSome? fun k => (Interval.of m q).candidate? (k + 1) with
  | none => exact h
  | some found =>
    obtain ⟨k, _, hk⟩ := List.exists_of_findSome?_eq_some hfound
    exact Interval.candidate?_pos (Interval.low_of_pos h q) hk

/-- The significant digits are the first ones, or a zero if there is no other digit. -/
theorem significant_cases (d : Nat) :
    significant d ≠ [] ∧ (significant d <+: digits d ∨
      significant d = ['0'] ∧ ∀ c ∈ digits d, c = '0') := by
  have hfirst : Text.trimEndWhile (· == '0') (digits d) <+: digits d :=
    List.rdropWhile_prefix _ _
  unfold significant
  split
  · rename_i hnil
    have hzeros := List.rdropWhile_eq_nil_iff.mp hnil
    exact ⟨by decide, Or.inr ⟨rfl, fun c hc => by simpa using hzeros c hc⟩⟩
  · rename_i hne
    exact ⟨hne, Or.inl hfirst⟩

theorem isRun_significant (d : Nat) : IsRun (significant d) := by
  obtain ⟨hne, hfirst | ⟨hzero, _⟩⟩ := significant_cases d
  · exact ⟨hne, fun c hc => (isRun_digits d).2 c (hfirst.subset hc)⟩
  · rw [hzero]
    exact isRun_zero

theorem head?_significant {d : Nat} (h : 0 < d) : (significant d).head? ≠ some '0' := by
  have hhead := head?_digits h
  obtain ⟨hne, ⟨rest, hrest⟩ | ⟨_, hzeros⟩⟩ := significant_cases d
  · rwa [← hrest, List.head?_append_of_ne_nil _ hne] at hhead
  · intro _
    obtain ⟨c, ds, hds⟩ := List.exists_cons_of_ne_nil (isRun_digits d).1
    rw [hds] at hhead hzeros
    exact hhead (congrArg some (hzeros c List.mem_cons_self))

/-! The parts of a number. -/

/-- The digits of a number before its point, those behind it, and its exponent with the sign. -/
structure Numeral where
  whole : Text
  fraction : Option Text
  exponent : Option (Bool × Text)

namespace Numeral

def fractionText : Option Text → Text
  | none => []
  | some ds => '.' :: ds

def exponentText : Option (Bool × Text) → Text
  | none => []
  | some (negative, ds) => 'e' :: (if negative then '-' else '+') :: ds

def text (n : Numeral) : Text :=
  n.whole ++ fractionText n.fraction ++ exponentText n.exponent

/-- Each part has a digit, and only a zero by itself begins with a zero. -/
structure Sound (n : Numeral) : Prop where
  whole : IsRun n.whole
  zero : n.whole.head? = some '0' → n.whole = ['0']
  fraction : ∀ ds ∈ n.fraction, IsRun ds
  exponent : ∀ e ∈ n.exponent, IsRun e.2

end Numeral

theorem IsRun.append {a b : Text} (ha : ∀ c ∈ a, c.isDigit = true) (hb : IsRun b) :
    IsRun (a ++ b) := by
  refine ⟨List.append_ne_nil_of_right_ne_nil a hb.1, fun c hc => ?_⟩
  exact (List.mem_append.mp hc).elim (ha c) (hb.2 c)

theorem isDigit_of_mem_replicate {n : Nat} : ∀ c ∈ List.replicate n '0', c.isDigit = true := by
  intro c hc
  rw [List.eq_of_mem_replicate hc]
  decide

/-- A number whose digits are placed around a point. -/
theorem exists_numeral_positional {ds : Text} (hds : IsRun ds) (hhead : ds.head? ≠ some '0')
    (e : Int) : ∃ n : Numeral, n.Sound ∧ n.text = positional ds e ∧ n.fraction.isSome = true := by
  unfold positional
  split
  · refine ⟨⟨['0'], some (List.replicate ((-e).toNat - 1) '0' ++ ds), none⟩, ?_, ?_, rfl⟩
    · constructor
      · exact isRun_zero
      · exact fun _ => rfl
      · rintro _ ⟨⟩
        exact IsRun.append isDigit_of_mem_replicate hds
      · rintro _ ⟨⟩
    · simp [Numeral.text, Numeral.fractionText, Numeral.exponentText]
  · obtain ⟨c, tail, rfl⟩ := List.exists_cons_of_ne_nil hds.1
    refine ⟨⟨(c :: tail).take (e.toNat + 1) ++
        List.replicate (e.toNat + 1 - (c :: tail).length) '0',
      some (if ((c :: tail).drop (e.toNat + 1)).isEmpty then ['0']
        else (c :: tail).drop (e.toNat + 1)), none⟩, ?_, ?_, rfl⟩
    · constructor
      · refine ⟨by simp, fun d hd => ?_⟩
        rcases List.mem_append.mp hd with htake | hzero
        · exact hds.2 d (List.mem_of_mem_take htake)
        · exact isDigit_of_mem_replicate d hzero
      · intro hzero
        exact absurd (by simpa using hzero) hhead
      · rintro _ ⟨⟩
        split
        · exact isRun_zero
        · rename_i hne
          exact ⟨by simpa using hne, fun d hd => hds.2 d (List.mem_of_mem_drop hd)⟩
      · rintro _ ⟨⟩
    · simp [Numeral.text, Numeral.fractionText, Numeral.exponentText]

/-- A number with an exponent. -/
theorem exists_numeral_scientific {ds : Text} (hds : IsRun ds) (hhead : ds.head? ≠ some '0')
    (e : Int) : ∃ n : Numeral, n.Sound ∧ n.text = scientific ds e ∧ n.exponent.isSome = true := by
  obtain ⟨c, tail, rfl⟩ := List.exists_cons_of_ne_nil hds.1
  have htail : ∀ d ∈ tail, d.isDigit = true := fun d hd => hds.2 d (List.mem_cons_of_mem c hd)
  have hexponent := isRun_digits e.natAbs
  refine ⟨⟨[c], if tail = [] then none else some tail, some (decide (e < 0),
    if (digits e.natAbs).length < 2 then '0' :: digits e.natAbs else digits e.natAbs)⟩, ?_, ?_, rfl⟩
  · constructor
    · exact ⟨by simp, fun d hd => hds.2 d (by simp_all)⟩
    · intro hzero
      exact absurd hzero hhead
    · intro ds hsome
      dsimp only at hsome
      split at hsome
      · cases hsome
      · cases hsome
        exact ⟨‹_›, htail⟩
    · rintro _ ⟨⟩
      dsimp only
      split
      · exact IsRun.append isRun_zero.2 hexponent
      · exact hexponent
  · have hlength : (c :: tail).length ≤ 1 ↔ tail = [] := by simp
    unfold scientific
    simp only [Numeral.text, Numeral.exponentText, hlength]
    split <;> simp [Numeral.fractionText]

/-- Either way of writing a number gives it a point or an exponent. -/
theorem exists_numeral {ds : Text} (hds : IsRun ds) (hhead : ds.head? ≠ some '0') (e : Int)
    (placed : Bool) :
    ∃ n : Numeral, n.Sound ∧ (n.fraction.isSome = true ∨ n.exponent.isSome = true) ∧
      n.text = if placed then positional ds e else scientific ds e := by
  cases placed with
  | true =>
    obtain ⟨n, hn, htext, hfloat⟩ := exists_numeral_positional hds hhead e
    exact ⟨n, hn, Or.inl hfloat, htext⟩
  | false =>
    obtain ⟨n, hn, htext, hfloat⟩ := exists_numeral_scientific hds hhead e
    exact ⟨n, hn, Or.inr hfloat, htext⟩

end DepView.Decimal

/-! Reading the parts. -/

namespace DepView.Json

open Decimal

/-- What would go on with a number. -/
def goesOn (c : Char) : Bool :=
  c.isDigit || ['.', 'e', 'E'].contains c

/-- A text that does not go on with a number before it. -/
def Stops (text : Text) : Prop :=
  ∀ c, text.head? = some c → goesOn c = false

theorem goesOn_eq_false {c : Char} :
    goesOn c = false ↔ c.isDigit = false ∧ c ≠ '.' ∧ c ≠ 'e' ∧ c ≠ 'E' := by
  simp [goesOn]

theorem Stops.isDigit {text : Text} (h : Stops text) :
    ∀ c, text.head? = some c → c.isDigit = false :=
  fun c hc => (goesOn_eq_false.mp (h c hc)).1

theorem whole?_append {whole rest : Text} (hwhole : IsRun whole)
    (hzero : whole.head? = some '0' → whole = ['0'])
    (hrest : ∀ c, rest.head? = some c → c.isDigit = false) :
    whole? (whole ++ rest) = some (whole, rest) := by
  by_cases hhead : whole.head? = some '0'
  · rw [hzero hhead]
    rfl
  · have hrun := Text.run?_append_of_head hwhole.1 hwhole.2 hrest
    unfold whole?
    split
    · rename_i heq
      have hsame : (whole ++ rest).head? = whole.head? :=
        List.head?_append_of_ne_nil whole hwhole.1
      rw [← hsame, heq] at hhead
      exact absurd rfl hhead
    · exact hrun

theorem optional_fraction? {fraction : Option Text} (hfraction : ∀ ds ∈ fraction, IsRun ds)
    {rest : Text} (hpoint : rest.head? ≠ some '.')
    (hrest : ∀ c, rest.head? = some c → c.isDigit = false) :
    optional fraction? (Numeral.fractionText fraction ++ rest) = (fraction, rest) := by
  cases fraction with
  | none =>
    have hnone : fraction? rest = none := by
      unfold fraction?
      split
      · exact absurd rfl hpoint
      · rfl
    simp [Numeral.fractionText, optional, hnone]
  | some ds =>
    have hds := hfraction ds rfl
    have hrun := Text.run?_append_of_head hds.1 hds.2 hrest
    simp [Numeral.fractionText, optional, fraction?, hrun]

theorem optional_exponent? {exponent : Option (Bool × Text)}
    (hexponent : ∀ e ∈ exponent, IsRun e.2) {rest : Text} (hrest : Stops rest) :
    optional exponent? (Numeral.exponentText exponent ++ rest) =
      (exponent.map fun e => signed e.1 (natOfDigits e.2), rest) := by
  cases exponent with
  | none =>
    have hnone : exponent? rest = none := by
      cases rest with
      | nil => rfl
      | cons c rest =>
        obtain ⟨_, _, he, hE⟩ := goesOn_eq_false.mp (hrest c rfl)
        simp [exponent?, he, hE]
    simp [Numeral.exponentText, optional, hnone]
  | some e =>
    obtain ⟨negative, ds⟩ := e
    have hds := hexponent (negative, ds) rfl
    have hrun := Text.run?_append_of_head hds.1 hds.2 hrest.isDigit
    cases negative <;>
      simp [Numeral.exponentText, optional, exponent?, signedDigits?, signOf, hrun]

/-- The parts of a number are found, and nothing of what stands behind it is taken. -/
theorem unsigned?_append {n : Numeral} (hn : n.Sound) (negative : Bool) {rest : Text}
    (hrest : Stops rest) : unsigned? negative (n.text ++ rest) =
      some (numberOf negative n.whole n.fraction
        (n.exponent.map fun e => signed e.1 (natOfDigits e.2)), rest) := by
  have hexponent : ∀ c, (Numeral.exponentText n.exponent ++ rest).head? = some c →
      c.isDigit = false ∧ c ≠ '.' := by
    intro c hc
    cases he : n.exponent with
    | none =>
      rw [he] at hc
      obtain ⟨hdigit, hpoint, _⟩ := goesOn_eq_false.mp (hrest c hc)
      exact ⟨hdigit, hpoint⟩
    | some e =>
      rw [he] at hc
      cases hc
      decide
  have hfraction : ∀ c, (Numeral.fractionText n.fraction ++
      (Numeral.exponentText n.exponent ++ rest)).head? = some c → c.isDigit = false := by
    intro c hc
    cases hf : n.fraction with
    | none =>
      rw [hf] at hc
      exact (hexponent c hc).1
    | some ds =>
      rw [hf] at hc
      cases hc
      decide
  have hwhole := whole?_append hn.whole hn.zero hfraction
  have hpoint : (Numeral.exponentText n.exponent ++ rest).head? ≠ some '.' :=
    fun hc => (hexponent '.' hc).2 rfl
  have hbehind := optional_fraction? hn.fraction hpoint fun c hc => (hexponent c hc).1
  have hend := optional_exponent? hn.exponent hrest
  rw [Numeral.text, List.append_assoc, List.append_assoc]
  simp [unsigned?, hwhole, hbehind, hend]

/-- No word begins with a digit, and none has one behind its first character. -/
theorem exists_cons_of_mem_words {entry : Text × Json} (h : entry ∈ words) :
    ∃ c d tail, entry.1 = c :: d :: tail ∧ c.isDigit = false ∧ d.isDigit = false := by
  simp only [words, List.mem_cons, List.not_mem_nil, or_false] at h
  rcases h with rfl | rfl | rfl | rfl | rfl | rfl <;> exact ⟨_, _, _, rfl, by decide, by decide⟩

theorem head?_ne_of_isDigit {c d : Char} {tail : Text} (hc : c.isDigit = false)
    (hd : d.isDigit = true) : (d :: tail).head? ≠ some c := by
  rintro ⟨⟩
  rw [hc] at hd
  cases hd

theorem atom?_of_noWord {text : Text} (h : ∀ entry ∈ words, Text.after? entry.1 text = none) :
    atom? text = number? text := by
  have hnone : words.findSome? (wordAt? text) = none := by
    rw [List.findSome?_eq_none_iff]
    intro entry hentry
    rw [wordAt?, h entry hentry, Option.map_none]
  rw [atom?, hnone]

/-- A digit, or one behind a minus sign, begins a number. -/
theorem atom?_of_digit {c : Char} (hc : c.isDigit = true) (negative : Bool) (tail : Text) :
    atom? ((if negative then ['-'] else []) ++ c :: tail) = unsigned? negative (c :: tail) := by
  cases negative with
  | false =>
    have hnoWord : ∀ entry ∈ words, Text.after? entry.1 (c :: tail) = none := by
      intro entry hentry
      obtain ⟨a, b, more, heq, ha, _⟩ := exists_cons_of_mem_words hentry
      rw [heq]
      exact Text.after?_eq_none (head?_ne_of_isDigit ha hc)
    have hminus : c ≠ '-' := by
      rintro rfl
      cases hc
    simp [atom?_of_noWord hnoWord, number?, hminus]
  | true =>
    have hnoWord : ∀ entry ∈ words, Text.after? entry.1 ('-' :: c :: tail) = none := by
      intro entry hentry
      obtain ⟨a, b, more, heq, _, hb⟩ := exists_cons_of_mem_words hentry
      rw [heq, Text.after?]
      split
      · exact Text.after?_eq_none (head?_ne_of_isDigit hb hc)
      · rfl
    exact atom?_of_noWord hnoWord

/-- A number with its sign is read to its end. -/
theorem atom?_append {n : Numeral} (hn : n.Sound) (negative : Bool) {rest : Text}
    (hrest : Stops rest) : atom? ((if negative then ['-'] else []) ++ n.text ++ rest) =
      some (numberOf negative n.whole n.fraction
        (n.exponent.map fun e => signed e.1 (natOfDigits e.2)), rest) := by
  have hread := unsigned?_append hn negative hrest
  obtain ⟨c, tail, hwhole⟩ := List.exists_cons_of_ne_nil hn.whole.1
  have hc : c.isDigit = true := hn.whole.2 c (by simp [hwhole])
  obtain ⟨more, hmore⟩ : ∃ more, n.text ++ rest = c :: more := by
    simp [Numeral.text, hwhole]
  rw [List.append_assoc, hmore, atom?_of_digit hc, ← hmore, hread]

/-- A whole number is read back as it was written. -/
theorem atom?_signedDigits (n : Int) {rest : Text} (hrest : Stops rest) :
    atom? (signedDigits n ++ rest) = some (.int n, rest) := by
  have hsound : Numeral.Sound ⟨digits n.natAbs, none, none⟩ := by
    constructor
    · exact isRun_digits n.natAbs
    · intro hhead
      obtain hzero | hpos := Nat.eq_zero_or_pos n.natAbs
      · rw [hzero]
        rfl
      · exact absurd hhead (head?_digits hpos)
    · rintro _ ⟨⟩
    · rintro _ ⟨⟩
  have htext : signedDigits n =
      (if decide (n < 0) then ['-'] else []) ++ Numeral.text ⟨digits n.natAbs, none, none⟩ := by
    unfold signedDigits
    split <;> simp_all [Numeral.text, Numeral.fractionText, Numeral.exponentText]
  have hvalue : signed (decide (n < 0)) (natOfDigits (digits n.natAbs)) = n := by
    rw [natOfDigits_digits, signed]
    split
    · rename_i hneg
      rw [Int.ofNat_natAbs_of_nonpos (Int.le_of_lt (of_decide_eq_true hneg)), Int.neg_neg]
    · rename_i hneg
      exact Int.natAbs_of_nonneg (Int.not_lt.mp fun h => hneg (decide_eq_true h))
  rw [htext, atom?_append hsound _ hrest]
  simp [numberOf, hvalue]

theorem exists_numberOf_eq_num (negative : Bool) (whole : Text) (fraction : Option Text)
    (exponent : Option Int) (h : fraction.isSome = true ∨ exponent.isSome = true) :
    ∃ y, numberOf negative whole fraction exponent = .num y := by
  fun_cases numberOf negative whole fraction exponent with
  | case1 => simp at h
  | case2 => exact ⟨_, rfl⟩

/-- A number with a point or an exponent is read as a float. -/
theorem exists_atom?_numeral {n : Numeral} (hn : n.Sound)
    (hfloat : n.fraction.isSome = true ∨ n.exponent.isSome = true) (negative : Bool) :
    ∃ y, ∀ rest, Stops rest → atom? ((if negative then ['-'] else []) ++ n.text ++ rest) =
      some (.num y, rest) := by
  obtain ⟨y, hy⟩ := exists_numberOf_eq_num negative n.whole n.fraction
    (n.exponent.map fun e => signed e.1 (natOfDigits e.2)) (by simpa using hfloat)
  refine ⟨y, fun rest hrest => ?_⟩
  rw [atom?_append hn negative hrest, hy]

/-- A float is read back as a float. -/
theorem exists_atom?_write (x : Float) :
    ∃ y, ∀ rest, Stops rest → atom? (numberStyle.write x ++ rest) = some (.num y, rest) := by
  unfold Style.write
  generalize parts x = p
  obtain ⟨negative, size⟩ := p
  dsimp only
  split
  · exact ⟨0.0 / 0.0, fun rest _ => rfl⟩
  · cases negative with
    | false => exact ⟨1.0 / 0.0, fun rest _ => rfl⟩
    | true => exact ⟨-1.0 / 0.0, fun rest _ => rfl⟩
  · exact exists_atom?_numeral (n := ⟨['0'], some ['0'], none⟩)
      ⟨isRun_zero, fun _ => rfl, by simpa using isRun_zero, by simp⟩ (Or.inl rfl) negative
  · rename_i m q hm
    have hpos := shortest_pos (Nat.pos_of_ne_zero hm) q
    generalize shortest m q = d at hpos
    obtain ⟨d, e⟩ := d
    obtain ⟨n, hn, hfloat, htext⟩ := exists_numeral (isRun_significant d) (head?_significant hpos)
      (e + ((digits d).length : Int) - 1)
      (numberStyle.leastPositional ≤ e + ((digits d).length : Int) - 1 &&
        e + ((digits d).length : Int) - 1 < numberStyle.endPositional)
    dsimp only
    rw [← htext]
    exact exists_atom?_numeral hn hfloat negative

end DepView.Json
