import DepView.Json.Writer
import DepView.Proofs.SurrogateHalves

/-!
Written JSON is ASCII: a text in it shows every other character by escapes, and so it can be
stored whatever the value holds. No control character stands in it but the line feeds that set items
apart, and on one line there are none of these.
-/

namespace DepView.Text

/-- A text of ASCII characters. -/
def IsAscii (text : Text) : Prop :=
  ∀ c ∈ text, c.toNat < 0x80

-- Written out: the search may also find an instance that goes through every character there is.
instance (text : Text) : Decidable (IsAscii text) :=
  List.decidableBAll (fun c : Char => c.toNat < 0x80) text

namespace IsAscii

@[simp] theorem append_iff {a b : Text} : IsAscii (a ++ b) ↔ IsAscii a ∧ IsAscii b :=
  List.forall_mem_append

@[simp] theorem cons_iff {c : Char} {text : Text} :
    IsAscii (c :: text) ↔ c.toNat < 0x80 ∧ IsAscii text :=
  List.forall_mem_cons

@[simp] theorem nil : IsAscii [] :=
  List.forall_mem_nil _

theorem isOrdinary {text : Text} (h : IsAscii text) : ∀ c ∈ text, IsOrdinary c :=
  fun c hc => isOrdinary_of_isAscii (h c hc)

theorem isChain {text : Text} (h : IsAscii text) : text.IsChain Apart :=
  isChain_of_isOrdinary h.isOrdinary

/-- A text of ASCII characters has a UTF-8 form. -/
theorem holdsSurrogate {text : Text} (h : IsAscii text) : holdsSurrogate text = false :=
  holdsSurrogate_eq_false.mpr h.isChain

end IsAscii

/-- A text of characters from the blank to the tilde: in ASCII, and without control characters. -/
def IsVisible (text : Text) : Prop :=
  ∀ c ∈ text, ' ' ≤ c ∧ c ≤ '~'

instance (text : Text) : Decidable (IsVisible text) :=
  List.decidableBAll (fun c : Char => ' ' ≤ c ∧ c ≤ '~') text

namespace IsVisible

@[simp] theorem append_iff {a b : Text} : IsVisible (a ++ b) ↔ IsVisible a ∧ IsVisible b :=
  List.forall_mem_append

@[simp] theorem cons_iff {c : Char} {text : Text} :
    IsVisible (c :: text) ↔ (' ' ≤ c ∧ c ≤ '~') ∧ IsVisible text :=
  List.forall_mem_cons

@[simp] theorem nil : IsVisible [] :=
  List.forall_mem_nil _

theorem isAscii {text : Text} (h : IsVisible text) : IsAscii text := by
  intro c hc
  have hcode : c.toNat ≤ 126 := (h c hc).2
  omega

theorem of_subset {a b : Text} (hb : IsVisible b) (h : a ⊆ b) : IsVisible a :=
  fun c hc => hb c (h hc)

theorem replicate {c : Char} (hc : ' ' ≤ c ∧ c ≤ '~') (n : Nat) :
    IsVisible (List.replicate n c) := by
  intro d hd
  rwa [List.eq_of_mem_replicate hd]

theorem flatMap {α : Type} {items : List α} {f : α → Text} (h : ∀ a, IsVisible (f a)) :
    IsVisible (items.flatMap f) := by
  intro c hc
  obtain ⟨a, _, ha⟩ := List.mem_flatMap.mp hc
  exact h a c ha

theorem digitChar (n : Nat) : ' ' ≤ n.digitChar ∧ n.digitChar ≤ '~' := by
  have hdigits : ∀ d < 16, ' ' ≤ d.digitChar ∧ d.digitChar ≤ '~' := by decide
  rcases lt_or_ge n 16 with hlt | hge
  · exact hdigits n hlt
  · have hother : n.digitChar = '*' := by
      unfold Nat.digitChar
      repeat rw [if_neg (by omega)]
    rw [hother]
    decide

theorem toDigitsCore (base fuel n : Nat) {ds : Text} (h : IsVisible ds) :
    IsVisible (Nat.toDigitsCore base fuel n ds) := by
  induction fuel generalizing n ds with
  | zero => exact h
  | succ fuel ih =>
    have hds : IsVisible ((n % base).digitChar :: ds) := cons_iff.mpr ⟨digitChar _, h⟩
    rw [Nat.toDigitsCore]
    split
    · exact hds
    · exact ih (n / base) hds

theorem toDigits (base n : Nat) : IsVisible (Nat.toDigits base n) :=
  toDigitsCore base (n + 1) n nil

end IsVisible

/-- The digits of a number in any base. -/
theorem IsAscii.toDigits (base n : Nat) : IsAscii (Nat.toDigits base n) :=
  (IsVisible.toDigits base n).isAscii

end DepView.Text

/-! Numbers. -/

namespace DepView.Decimal

open Text

theorem isVisible_signedDigits (n : Int) : IsVisible (signedDigits n) := by
  unfold signedDigits digits
  split <;> simp [IsVisible.toDigits]

theorem isVisible_significant (n : Nat) : IsVisible (significant n) := by
  unfold significant
  split
  · decide
  · apply (IsVisible.toDigits 10 n).of_subset
    intro c hc
    rw [trimEndWhile, List.mem_reverse] at hc
    exact List.mem_reverse.mp ((List.dropWhile_suffix _).subset hc)

theorem isVisible_positional {ds : Text} (h : IsVisible ds) (e : Int) :
    IsVisible (positional ds e) := by
  have hzeros : ∀ n, IsVisible (List.replicate n '0') := IsVisible.replicate (by decide)
  have hwhole : ∀ n, IsVisible (ds.take n) := fun n => h.of_subset (List.take_subset n ds)
  have hfraction : ∀ n, IsVisible (ds.drop n) := fun n => h.of_subset (List.drop_subset n ds)
  unfold positional
  split
  · simp [hzeros, h]
  · dsimp only
    split <;> simp [hzeros, hwhole, hfraction]

theorem isVisible_scientific {ds : Text} (h : IsVisible ds) (e : Int) :
    IsVisible (scientific ds e) := by
  have hfirst : IsVisible (ds.take 1) := h.of_subset (List.take_subset 1 ds)
  have hlater : IsVisible ds.tail := h.of_subset (List.tail_sublist ds).subset
  have hexponent : IsVisible (digits e.natAbs) := IsVisible.toDigits 10 _
  unfold scientific
  dsimp only
  split <;> split <;> split <;> simp [hfirst, hlater, hexponent]

theorem isVisible_write (style : Style) (hinfinity : IsVisible style.infinity)
    (hnan : IsVisible style.nan) (x : Float) : IsVisible (style.write x) := by
  unfold Style.write
  generalize parts x = p
  obtain ⟨negative, size⟩ := p
  have hsign : IsVisible (if negative then ['-'] else []) := by
    split <;> decide
  dsimp only
  split
  · exact hnan
  · exact IsVisible.append_iff.mpr ⟨hsign, hinfinity⟩
  · exact IsVisible.append_iff.mpr ⟨hsign, by decide⟩
  · generalize shortest _ _ = d
    obtain ⟨d, e⟩ := d
    refine IsVisible.append_iff.mpr ⟨hsign, ?_⟩
    split
    · exact isVisible_positional (isVisible_significant d) _
    · exact isVisible_scientific (isVisible_significant d) _

end DepView.Decimal

/-! Texts and values. -/

namespace DepView.Json

open Text

theorem isVisible_hex4 (n : Nat) : IsVisible (hex4 n) := by
  simp [hex4, IsVisible.replicate, IsVisible.toDigits]

theorem isVisible_escapeUnits (code : Nat) : IsVisible (escapeUnits code) := by
  have hunit : ∀ n, IsVisible ('\\' :: 'u' :: hex4 n) := by
    intro n
    simp [isVisible_hex4]
  unfold escapeUnits
  split
  · exact hunit code
  · exact IsVisible.append_iff.mpr ⟨hunit _, hunit _⟩

theorem isVisible_escapeChar (c : Char) : IsVisible (escapeChar c) := by
  unfold escapeChar
  split
  · rename_i h
    rcases (by simpa using h : c = '"' ∨ c = '\\') with rfl | rfl <;> decide
  · split_ifs with _ _ _ _ _ hprintable
    · decide
    · decide
    · decide
    · decide
    · decide
    · simp only [Bool.and_eq_true, decide_eq_true_eq] at hprintable
      have hcode : c.toNat ≤ 126 := hprintable.2
      simp only [IsVisible.cons_iff, IsVisible.nil, and_true]
      omega
    · exact isVisible_escapeUnits c.toNat

theorem isVisible_escapeCode (code : Nat) : IsVisible (escapeCode code) := by
  unfold escapeCode
  split
  · exact isVisible_escapeUnits code
  · exact isVisible_escapeChar _

theorem isVisible_quote (text : Text) : IsVisible (quote text) := by
  simp [quote, IsVisible.flatMap, isVisible_escapeCode]

theorem isVisible_writeAtom (value : Json) : IsVisible (writeAtom value) := by
  fun_cases writeAtom value with
  | case5 x => exact Decimal.isVisible_write numberStyle (by decide) (by decide) x
  | _ => first | decide | exact Decimal.isVisible_signedDigits _ | exact isVisible_quote _

/-- A class of characters to which the visible ones belong, and those that set items apart. -/
structure Spacing.Within (p : Char → Prop) (sp : Spacing) : Prop where
  visible : ∀ c, ' ' ≤ c ∧ c ≤ '~' → p c
  lead : ∀ level, ∀ c ∈ sp.lead level, p c
  between : ∀ level, ∀ c ∈ sp.between level, p c
  last : ∀ level, ∀ c ∈ sp.last level, p c

mutual

/-- A written value is of the characters that set its items apart, and of visible ones. -/
theorem forall_mem_writeAt {p : Char → Prop} {sp : Spacing} (hsp : sp.Within p) (level : Nat) :
    ∀ value : Json, ∀ c ∈ writeAt sp level value, p c
  | .arr (item :: items) => by
    have hitem := forall_mem_writeAt hsp (level + 1) item
    have hitems := forall_mem_writeItems hsp level items
    have hopen : ∀ c ∈ '[' :: sp.lead level, p c :=
      List.forall_mem_cons.mpr ⟨hsp.visible _ (by decide), hsp.lead level⟩
    simp only [writeAt, List.forall_mem_append, List.forall_mem_singleton]
    exact ⟨⟨⟨⟨hopen, hitem⟩, hitems⟩, hsp.last level⟩, hsp.visible _ (by decide)⟩
  | .obj (m :: members) => by
    have hmember := forall_mem_writeMember hsp level m
    have hmembers := forall_mem_writeMembers hsp level members
    have hopen : ∀ c ∈ '\x7b' :: sp.lead level, p c :=
      List.forall_mem_cons.mpr ⟨hsp.visible _ (by decide), hsp.lead level⟩
    simp only [writeAt, List.forall_mem_append, List.forall_mem_singleton]
    exact ⟨⟨⟨⟨hopen, hmember⟩, hmembers⟩, hsp.last level⟩, hsp.visible _ (by decide)⟩
  | .arr [] | .obj [] | .null | .bool _ | .int _ | .num _ | .str _ => by
    rw [writeAt]
    · exact fun c hc => hsp.visible c (isVisible_writeAtom _ c hc)
    all_goals simp

theorem forall_mem_writeItems {p : Char → Prop} {sp : Spacing} (hsp : sp.Within p) (level : Nat) :
    ∀ items : List Json, ∀ c ∈ writeItems sp level items, p c
  | [] => List.forall_mem_nil _
  | item :: items => by
    have hitem := forall_mem_writeAt hsp (level + 1) item
    have hitems := forall_mem_writeItems hsp level items
    simp only [writeItems, List.forall_mem_append]
    exact ⟨⟨hsp.between level, hitem⟩, hitems⟩

theorem forall_mem_writeMember {p : Char → Prop} {sp : Spacing} (hsp : sp.Within p) (level : Nat) :
    ∀ m : Text × Json, ∀ c ∈ writeMember sp level m, p c
  | (name, value) => by
    have hname : IsVisible (quote name ++ [':', ' ']) :=
      IsVisible.append_iff.mpr ⟨isVisible_quote name, by decide⟩
    exact List.forall_mem_append.mpr
      ⟨fun c hc => hsp.visible c (hname c hc), forall_mem_writeAt hsp (level + 1) value⟩

theorem forall_mem_writeMembers {p : Char → Prop} {sp : Spacing} (hsp : sp.Within p) (level : Nat) :
    ∀ members : List (Text × Json), ∀ c ∈ writeMembers sp level members, p c
  | [] => List.forall_mem_nil _
  | m :: members => by
    have hmember := forall_mem_writeMember hsp level m
    have hmembers := forall_mem_writeMembers hsp level members
    simp only [writeMembers, List.forall_mem_append]
    exact ⟨⟨hsp.between level, hmember⟩, hmembers⟩

end

/-- A value with one item a line is ASCII throughout. -/
theorem isAscii_indented (value : Json) : IsAscii value.indented := by
  have hnewline : ∀ level, IsAscii (newline level) := fun level =>
    IsAscii.cons_iff.mpr ⟨by decide, (IsVisible.replicate (by decide) _).isAscii⟩
  have hsp : Spacing.indented.Within fun c => c.toNat < 0x80 := by
    constructor
    · intro c hc
      have hcode : c.toNat ≤ 126 := hc.2
      omega
    · exact fun level => hnewline (level + 1)
    · exact fun level => IsAscii.cons_iff.mpr ⟨by decide, hnewline (level + 1)⟩
    · exact hnewline
  exact forall_mem_writeAt hsp 0 value

/-- A value on one line has no control character either. -/
theorem isVisible_compact (value : Json) : IsVisible value.compact := by
  have hcomma : IsVisible [',', ' '] := by decide
  have hsp : Spacing.compact.Within fun c => ' ' ≤ c ∧ c ≤ '~' :=
    ⟨fun _ => id, fun _ => IsVisible.nil, fun _ => hcomma, fun _ => IsVisible.nil⟩
  exact forall_mem_writeAt hsp 0 value

end DepView.Json
