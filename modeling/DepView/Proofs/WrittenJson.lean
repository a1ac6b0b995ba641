import DepView.Proofs.EscapedText
import DepView.Proofs.NumberText

/-!
Written values are read back. A value on one line spells what the reader makes of it: every list,
object, truth value and whole number as it is, and each text by its codes. Members of one name
become one member, and the reader gives some float for each float.
-/

namespace DepView.Json

mutual

/-- What a value comes back as when its text is read. -/
def readBack (number : Float → Float) : Json → Json
  | .null => .null
  | .bool b => .bool b
  | .int n => .int n
  | .num x => .num (number x)
  | .str s => .str (Text.paired (Text.codes s))
  | .arr items => .arr (itemsBack number items)
  | .obj members => .obj (Table.ofPairs (membersBack number members))

def itemsBack (number : Float → Float) : List Json → List Json
  | [] => []
  | item :: items => readBack number item :: itemsBack number items

def membersBack (number : Float → Float) : List (Text × Json) → List (Text × Json)
  | [] => []
  | (name, value) :: members =>
    (Text.paired (Text.codes name), readBack number value) :: membersBack number members

end

/-- Floats are read as `number` tells. -/
def ReadsFloats (number : Float → Float) : Prop :=
  ∀ x rest, Stops rest → atom? (numberStyle.write x ++ rest) = some (.num (number x), rest)

theorem exists_readsFloats : ∃ number, ReadsFloats number := by
  choose number hnumber using exists_atom?_write
  exact ⟨number, hnumber⟩

theorem skip_cons {c : Char} (hc : isSpace c = false) (text : Text) :
    skip (c :: text) = c :: text :=
  List.dropWhile_cons_of_neg (by simp [hc])

theorem isSpace_of_startsValue {c : Char} (h : startsValue c = true) : isSpace c = false := by
  rw [Bool.eq_false_iff]
  intro hspace
  simp only [isSpace, Bool.or_eq_true, beq_iff_eq] at hspace
  rcases hspace with ((rfl | rfl) | rfl) | rfl <;> exact absurd h (by decide)

/-- Nothing is skipped before what is spelt. -/
theorem Spells.skip_eq {text rest : Text} {p : Phrase} (h : Spells text p rest) :
    skip text = text := by
  obtain ⟨c, tail, rfl, hc⟩ := h.startsValue
  exact skip_cons (isSpace_of_startsValue hc) tail

theorem Spells.skip {text rest : Text} {p : Phrase} (h : Spells text p rest) :
    Spells (skip text) p rest := by
  rwa [h.skip_eq]

theorem Spells.skip_blank {text rest : Text} {p : Phrase} (h : Spells text p rest) :
    Spells (Json.skip (' ' :: text)) p rest :=
  h.skip

theorem stops_of_head {c : Char} (hc : goesOn c = false) (text : Text) : Stops (c :: text) := by
  rintro _ ⟨⟩
  exact hc

theorem stops_writeItems (level : Nat) (items : List Json) (rest : Text) :
    Stops (writeItems .compact level items ++ ']' :: rest) := by
  cases items with
  | nil => exact stops_of_head (by decide) rest
  | cons item items => exact stops_of_head (c := ',') (by decide) _

theorem stops_writeMembers (level : Nat) (members : List (Text × Json)) (rest : Text) :
    Stops (writeMembers .compact level members ++ '\x7d' :: rest) := by
  cases members with
  | nil => exact stops_of_head (by decide) rest
  | cons m members => exact stops_of_head (c := ',') (by decide) _

mutual

theorem spells_writeAt {number : Float → Float} (hnumber : ReadsFloats number) (level : Nat) :
    ∀ (value : Json) {rest : Text}, Stops rest →
      Spells (writeAt .compact level value ++ rest) (.value (readBack number value)) rest
  | .arr (item :: items), rest, _ => by
    have hfirst := spells_writeAt hnumber (level + 1) item (stops_writeItems level items rest)
    have hitems := (spells_writeItems hnumber level items hfirst).skip
    simpa [writeAt, Spacing.compact, readBack, itemsBack] using Spells.list hitems
  | .obj (m :: members), rest, _ => by
    have hfirst := spells_writeMember hnumber level m (stops_writeMembers level members rest)
    have hmembers := (spells_writeMembers hnumber level members hfirst).skip
    simpa [writeAt, Spacing.compact, readBack, membersBack] using Spells.object hmembers
  | .arr [], rest, _ => .noItems (skip_cons (by decide) rest)
  | .obj [], rest, _ => .noMembers (skip_cons (by decide) rest)
  | .null, _, _ | .bool true, _, _ | .bool false, _, _ => .atom rfl
  | .int n, _, hrest => .atom (atom?_signedDigits n hrest)
  | .num x, rest, hrest => .atom (hnumber x rest hrest)
  | .str s, rest, _ => by
    obtain ⟨inside, hquote, hinside⟩ := inside_quote s rest
    change Spells (quote s ++ rest) _ rest
    rw [hquote]
    exact .string hinside

theorem spells_writeItems {number : Float → Float} (hnumber : ReadsFloats number) (level : Nat) :
    ∀ (items : List Json) {text rest : Text} {v : Json},
      Spells text (.value v) (writeItems .compact level items ++ ']' :: rest) →
        Spells text (.items (v :: itemsBack number items)) rest
  | [], text, rest, v, h => .lastItem h (skip_cons (by decide) rest)
  | item :: items, text, rest, v, h => by
    have hnext := spells_writeAt hnumber (level + 1) item (stops_writeItems level items rest)
    have hitems := spells_writeItems hnumber level items hnext
    refine .moreItems h (skip_cons (by decide) _) ?_
    simpa [Spacing.compact, itemsBack] using hitems.skip_blank

theorem spells_writeMember {number : Float → Float} (hnumber : ReadsFloats number) (level : Nat) :
    ∀ (m : Text × Json) {rest : Text}, Stops rest →
      Spells (writeMember .compact level m ++ rest)
        (.member (Text.paired (Text.codes m.1), readBack number m.2)) rest
  | (name, value), rest, hrest => by
    have hvalue := (spells_writeAt hnumber (level + 1) value hrest).skip_blank
    obtain ⟨inside, hquote, hinside⟩ :=
      inside_quote name (':' :: ' ' :: (writeAt .compact (level + 1) value ++ rest))
    have htext : writeMember .compact level (name, value) ++ rest = '"' :: inside := by
      rw [← hquote, writeMember]
      simp
    rw [htext]
    exact .member hinside (skip_cons (by decide) _) hvalue

theorem spells_writeMembers {number : Float → Float} (hnumber : ReadsFloats number) (level : Nat) :
    ∀ (members : List (Text × Json)) {text rest : Text} {m : Text × Json},
      Spells text (.member m) (writeMembers .compact level members ++ '\x7d' :: rest) →
        Spells text (.members (m :: membersBack number members)) rest
  | [], text, rest, m, h => .lastMember h (skip_cons (by decide) rest)
  | next :: members, text, rest, m, h => by
    have hnext := spells_writeMember hnumber level next (stops_writeMembers level members rest)
    have hmembers := spells_writeMembers hnumber level members hnext
    refine .moreMembers h (skip_cons (by decide) _) ?_
    simpa [Spacing.compact, membersBack] using hmembers.skip_blank

end

theorem spells_compact {number : Float → Float} (hnumber : ReadsFloats number) (value : Json) :
    Spells value.compact (.value (readBack number value)) [] := by
  have hstops : Stops [] := by rintro _ ⟨⟩
  have hspells := spells_writeAt hnumber 0 value hstops
  rwa [List.append_nil] at hspells

/-- A value on one line is read back. -/
theorem read_compact {number : Float → Float} (hnumber : ReadsFloats number) (value : Json) :
    read value.compact = .ok (readBack number value) :=
  (spells_compact hnumber value).skip.read rfl

end DepView.Json
