import DepView.Settings.File
import DepView.Table

/-!
Members that make settings. Each member that counts has to fit, and all that fit make settings; a
member that is missing always fits. What the environment sets takes the place of a member and
fits, so that only the other members can spoil the whole.
-/

namespace DepView.Settings

open Yaml (Value)

/-- The members that count, each with what fits it. -/
def expected : List (String × (Value → Bool)) :=
  [("port", fun v => (asInt? v).isSome), ("depends_jar", fun v => (asPath? v).isSome),
    ("java", fun v => (asText? v).isSome), ("depends_output_name", fun v => (asText? v).isSome),
    ("open_browser", fun v => (asBool? v).isSome), ("radial", fun v => (radialOf? v).isSome),
    ("hierarchy", fun v => (hierarchyOf? v).isSome)]

/-- Some member is there and does not fit. -/
def HoldsMisfit (members : Table Value) : Prop :=
  ∃ m ∈ expected, ∃ v, Table.find? members m.1.toList = some v ∧ m.2 v = false

/-- The value of an environment variable. An empty one counts as none. -/
def setBy? (environment : Text → Option Text) (name : String) : Option Text :=
  (environment name.toList).filter (!·.isEmpty)

/-- What the environment sets in the place of a member. -/
def overriding? (environment : Text → Option Text) (member : Text) : Option Text :=
  if member = "depends_jar".toList then setBy? environment "DTSVIZ_DEPENDS_JAR"
  else if member = "java".toList then setBy? environment "DTSVIZ_JAVA"
  else none

theorem setBy?_eq_some {environment : Text → Option Text} {name : String} {value : Text} :
    setBy? environment name = some value ↔ environment name.toList = some value ∧ value ≠ [] := by
  simp [setBy?, Option.filter_eq_some_iff]

/-! Which members make settings. -/

theorem field_eq_none_iff {α : Type} {members : Table Value} {name : String} {standard : α}
    {read : Value → Option α} : field (.table members) name standard read = none ↔
      ∃ v, Table.find? members name.toList = some v ∧ (read v).isSome = false := by
  simp only [field, Value.member?]
  cases Table.find? members name.toList with
  | none => simp
  | some v => simp

theorem bind_eq_none_iff_or {α β : Type} {o : Option α} {f : α → Option β} {p : Prop}
    (h : ∀ a, f a = none ↔ p) : o >>= f = none ↔ o = none ∨ p := by
  cases o with
  | none => simp
  | some a => simp [h]

theorem ofValue?_eq_none_iff (members : Table Value) :
    ofValue? (.table members) = none ↔ HoldsMisfit members := by
  have hnever : ∀ settings : Settings, (pure settings : Option Settings) = none ↔ False := by
    simp
  unfold ofValue?
  dsimp only
  rw [bind_eq_none_iff_or fun _ => bind_eq_none_iff_or fun _ => bind_eq_none_iff_or fun _ =>
    bind_eq_none_iff_or fun _ => bind_eq_none_iff_or fun _ => bind_eq_none_iff_or fun _ =>
    bind_eq_none_iff_or fun _ => hnever _]
  simp only [field_eq_none_iff, HoldsMisfit, expected, List.mem_cons, List.not_mem_nil, or_false,
    exists_eq_or_imp, exists_eq_left]

/-- The two members that the environment can set are taken as they are. -/
theorem fields_of_ofValue? {members : Table Value} {settings : Settings}
    (h : ofValue? (.table members) = some settings) :
    field (.table members) "depends_jar" Settings.standard.dependsJar asPath? =
        some settings.dependsJar ∧
      field (.table members) "java" Settings.standard.java asText? = some settings.java := by
  simp only [ofValue?, Option.bind_eq_bind, Option.bind_eq_some_iff, Option.pure_def,
    Option.some.injEq] at h
  obtain ⟨port, _, jar, hjar, java, hjava, _, _, _, _, _, _, _, _, rfl⟩ := h
  exact ⟨hjar, hjava⟩

/-! What the environment sets. -/

/-- Members with a text in the place of one of them, if there is a text. -/
def withText (member : String) : Option Text → Table Value → Table Value
  | none, members => members
  | some text, members => members.insert member.toList (.text text)

theorem find?_withText (member : String) (text : Option Text) (members : Table Value)
    (other : Text) : Table.find? (withText member text members) other =
      if other = member.toList then (text.map Value.text).or (Table.find? members other)
      else Table.find? members other := by
  cases text with
  | none => simp [withText]
  | some text => simp [withText, Table.find?_insert]

variable {environment : Text → Option Text} {members : Table Value}

theorem override_eq (environment : Text → Option Text) (members : Table Value) :
    override environment members =
      withText "java" (setBy? environment "DTSVIZ_JAVA")
        (withText "depends_jar" (setBy? environment "DTSVIZ_DEPENDS_JAR") members) := by
  simp only [override, List.foldl_cons, List.foldl_nil, setBy?]
  rcases environment "DTSVIZ_DEPENDS_JAR".toList with _ | _ | ⟨c, jar⟩ <;>
    rcases environment "DTSVIZ_JAVA".toList with _ | _ | ⟨d, java⟩ <;> rfl

/-- The environment comes before the file. -/
theorem find?_override (environment : Text → Option Text) (members : Table Value) (member : Text) :
    Table.find? (override environment members) member =
      ((overriding? environment member).map Value.text).or (Table.find? members member) := by
  have hapart : "java".toList ≠ "depends_jar".toList := by decide
  rw [override_eq, find?_withText, find?_withText, overriding?]
  by_cases hjar : member = "depends_jar".toList
  · rw [if_pos hjar, if_pos hjar, if_neg (hjar ▸ hapart.symm)]
  · by_cases hjava : member = "java".toList
    · rw [if_pos hjava, if_neg hjar, if_neg hjar, if_pos hjava]
    · rw [if_neg hjava, if_neg hjar, if_neg hjar, if_neg hjava]
      rfl

theorem override_of_unset (hjar : setBy? environment "DTSVIZ_DEPENDS_JAR" = none)
    (hjava : setBy? environment "DTSVIZ_JAVA" = none) :
    override environment members = members := by
  rw [override_eq, hjar, hjava]
  rfl

/-- A text fits where the environment sets one. -/
theorem fits_of_overriding {m : String × (Value → Bool)} (hm : m ∈ expected) {text : Text}
    (h : overriding? environment m.1.toList = some text) : m.2 (.text text) = true := by
  have htexts : ∀ m ∈ expected, m.1.toList = "depends_jar".toList ∨ m.1.toList = "java".toList →
      m.2 (.text text) = true := by
    simp [expected, asPath?, asText?]
  refine htexts m hm ?_
  unfold overriding? at h
  split at h
  · exact Or.inl ‹_›
  · split at h
    · exact Or.inr ‹_›
    · cases h

/-- Only a member that the environment does not set can spoil the settings. -/
theorem holdsMisfit_override : HoldsMisfit (override environment members) ↔
    ∃ m ∈ expected, overriding? environment m.1.toList = none ∧
      ∃ v, Table.find? members m.1.toList = some v ∧ m.2 v = false := by
  simp only [HoldsMisfit, find?_override]
  constructor
  · rintro ⟨m, hm, v, hv, hmisfit⟩
    cases hset : overriding? environment m.1.toList with
    | none => exact ⟨m, hm, hset, v, by simpa [hset] using hv, hmisfit⟩
    | some text =>
      have htext : Value.text text = v := by simpa [hset] using hv
      rw [← htext, fits_of_overriding hm hset] at hmisfit
      cases hmisfit
  · rintro ⟨m, hm, hset, v, hv, hmisfit⟩
    exact ⟨m, hm, v, by simpa [hset] using hv, hmisfit⟩

/-- The settings of members that are overridden have what the environment sets. -/
theorem overridden_of_ofValue? {settings : Settings}
    (h : ofValue? (.table (override environment members)) = some settings) :
    (∀ jar, setBy? environment "DTSVIZ_DEPENDS_JAR" = some jar →
        settings.dependsJar = Path.ofText jar) ∧
      ∀ java, setBy? environment "DTSVIZ_JAVA" = some java → settings.java = java := by
  obtain ⟨hjar, hjava⟩ := fields_of_ofValue? h
  simp only [field, Value.member?, find?_override] at hjar hjava
  constructor
  · intro jar hset
    have hover : overriding? environment "depends_jar".toList = some jar := hset
    rw [hover] at hjar
    exact (Option.some.inj hjar).symm
  · intro java hset
    have hover : overriding? environment "java".toList = some java := hset
    rw [hover] at hjava
    exact (Option.some.inj hjava).symm

/-- No members make the defaults. -/
theorem ofValue?_nil : ofValue? (.table []) = some Settings.standard :=
  rfl

theorem not_holdsMisfit_override_nil : ¬ HoldsMisfit (override environment []) := by
  rw [holdsMisfit_override]
  rintro ⟨m, _, _, v, hv, _⟩
  cases hv

end DepView.Settings
