import DepView.Proofs.FittingSettings
import DepView.Proofs.StoreWrites
import DepView.Yaml.Content
import Mathlib

/-!
How loading the settings ends. What is found at the path of the settings file breaks the run, or
cannot be used and is passed over with one warning, or offers members. The environment then sets
its members, and the settings have those, unless another member of the file does not fit: that
one leaves the defaults, without what the environment sets.
-/

namespace DepView.Settings

open Yaml (Value)

/-- A path leads to a file with a text. -/
def HoldsText (s : Store) (file : Path) (text : Text) : Prop :=
  ∃ bytes written, s.read file = .ok bytes ∧ Text.Utf8.decode? bytes = some written ∧
    text = Text.foldNewlines written

theorem HoldsText.unique {s : Store} {file : Path} {text other : Text} (h : HoldsText s file text)
    (hother : HoldsText s file other) : text = other := by
  obtain ⟨bytes, written, hread, hdecode, rfl⟩ := h
  obtain ⟨_, _, hread', hdecode', rfl⟩ := hother
  cases hread.symm.trans hread'
  rw [Option.some.inj (hdecode.symm.trans hdecode')]

/-- What is found at a path ends the run: there is no answer for the path, the file is not UTF-8,
or reading its text ends in a fault that is not one of the language. -/
inductive Breaks (read : FileReader) (s : Store) (file : Path) : Failure → Prop
  | tooLong (h : s.find file = .error .nameTooLong) : Breaks read s file (.file .nameTooLong)
  | noText {bytes : Bytes} (hread : s.read file = .ok bytes)
      (h : Text.Utf8.decode? bytes = none) : Breaks read s file .undecodable
  | badScalar {text : Text} {fault : Yaml.ScalarFault} (htext : HoldsText s file text)
      (h : read text = .error (.scalar fault)) : Breaks read s file (.scalar fault)

/-- A warning of the settings. -/
def warning (message : String) (path : Path) (rest : String) : Log.Entry where
  level := .warning
  topic := .settings
  message := message.toList ++ path.toText ++ rest.toList

/-- What is found at a path cannot be used as a whole, and a warning tells so: it is no file, or
its text is malformed, or the value of its text is neither empty nor a table. -/
inductive Unusable (read : FileReader) (s : Store) (file : Path) : Log.Entry → Prop
  | noFile {entry : Entry} (hfind : s.find file = .ok entry) (h : entry.isFile = false) :
      Unusable read s file (warning "Ignoring unreadable config " file "")
  | malformed {text : Text} (htext : HoldsText s file text) (h : read text = .error .malformed) :
      Unusable read s file (warning "Ignoring unreadable config " file "")
  | noTable {text : Text} {value : Value} (htext : HoldsText s file text)
      (h : read text = .ok value) (hvalue : ∀ members, value ≠ .table members)
      (htrue : value.isTrue = true) :
      Unusable read s file (warning "Ignoring config " file ": top level must be a mapping")

/-- What is found at a path offers members: it is a table, or else there is nothing at the path or
an empty value, which has none. -/
inductive Offers (read : FileReader) (s : Store) (file : Path) : Table Value → Prop
  | nothing {fault : Store.Fault} (hfind : s.find file = .error fault)
      (h : fault ≠ .nameTooLong) : Offers read s file []
  | empty {text : Text} {value : Value} (htext : HoldsText s file text)
      (h : read text = .ok value) (hvalue : ∀ members, value ≠ .table members)
      (hfalse : value.isTrue = false) : Offers read s file []
  | table {text : Text} {members : Table Value} (htext : HoldsText s file text)
      (h : read text = .ok (.table members)) : Offers read s file members

variable {read : FileReader} {s : Session} {file : Path} {path : Option Path}

/-- Nothing else can be found. -/
theorem breaks_or_unusable_or_offers (read : FileReader) (s : Store) (file : Path) :
    (∃ failure, Breaks read s file failure) ∨ (∃ told, Unusable read s file told) ∨
      ∃ members, Offers read s file members := by
  cases hfind : s.find file with
  | error fault =>
    by_cases hlong : fault = .nameTooLong
    · exact Or.inl ⟨_, .tooLong (hlong ▸ hfind)⟩
    · exact Or.inr (Or.inr ⟨[], .nothing hfind hlong⟩)
  | ok entry =>
    cases entry with
    | dir => exact Or.inr (Or.inl ⟨_, .noFile hfind rfl⟩)
    | link target => exact Or.inr (Or.inl ⟨_, .noFile hfind rfl⟩)
    | file bytes =>
      have hread : s.read file = .ok bytes := by
        rw [Store.read, hfind]
        rfl
      cases hdecode : Text.Utf8.decode? bytes with
      | none => exact Or.inl ⟨_, .noText hread hdecode⟩
      | some written =>
        have htext : HoldsText s file (Text.foldNewlines written) :=
          ⟨bytes, written, hread, hdecode, rfl⟩
        cases hvalue : read (Text.foldNewlines written) with
        | error fault =>
          cases fault with
          | malformed => exact Or.inr (Or.inl ⟨_, .malformed htext hvalue⟩)
          | scalar fault => exact Or.inl ⟨_, .badScalar htext hvalue⟩
        | ok value =>
          by_cases htable : ∃ members, value = .table members
          · obtain ⟨members, rfl⟩ := htable
            exact Or.inr (Or.inr ⟨members, .table htext hvalue⟩)
          · have hvalue' : ∀ members, value ≠ .table members :=
              fun members heq => htable ⟨members, heq⟩
            cases htrue : value.isTrue with
            | true => exact Or.inr (Or.inl ⟨_, .noTable htext hvalue hvalue' htrue⟩)
            | false => exact Or.inr (Or.inr ⟨[], .empty htext hvalue hvalue' htrue⟩)

/-! What the run does with it. -/

theorem run_warn (s : Session) (message : String) (file : Path) (rest : String) :
    (warn message file rest).run s =
      (.ok (), { s with log := s.log ++ [warning message file rest] }) :=
  Action.run_note _ _ _

theorem run_passOver (s : Session) (message : String) (file : Path) (rest : String) :
    (passOver message file rest).run s =
      (.ok [], { s with log := s.log ++ [warning message file rest] }) := by
  unfold passOver
  rw [Action.run_bind_of_ok (run_warn s message file rest)]
  rfl

/-- A file that is there is read, wherever it was looked for. -/
theorem run_membersAt_of_find {entry : Entry}
    (h : s.store.find (path.getD standardPath) = .ok entry) :
    (membersAt read path).run s = (membersIn read (path.getD standardPath)).run s := by
  unfold membersAt
  rw [Action.run_bind_of_ok (Action.run_askFiles (Store.leadsTo_of_find h _))]
  rfl

/-- What is read is decoded as a whole before it is looked at. -/
theorem run_membersAt_of_read {bytes : Bytes}
    (h : s.store.read (path.getD standardPath) = .ok bytes) :
    (membersAt read path).run s =
      ((Text.Utf8.decode? bytes).elim (throw .undecodable) fun text =>
        membersOf read (path.getD standardPath) (Text.foldNewlines text)).run s := by
  rw [run_membersAt_of_find (Store.find_eq_ok.mpr (Store.read_eq_ok.mp h))]
  unfold membersIn
  rw [Action.run_bind_of_ok Action.run_get, h]
  dsimp only
  cases Text.Utf8.decode? bytes with
  | none => rfl
  | some text => rfl

theorem run_membersAt_of_text {text : Text}
    (h : HoldsText s.store (path.getD standardPath) text) :
    (membersAt read path).run s = (membersOf read (path.getD standardPath) text).run s := by
  obtain ⟨bytes, written, hread, hdecode, rfl⟩ := h
  rw [run_membersAt_of_read hread, hdecode]
  rfl

theorem run_membersAt_of_breaks {failure : Failure}
    (h : Breaks read s.store (path.getD standardPath) failure) :
    (membersAt read path).run s = (.error failure, s) := by
  cases h with
  | tooLong hfind =>
    have hasked : s.store.hasPath (path.getD standardPath) = .error .nameTooLong :=
      Store.leadsTo_of_error hfind _
    unfold membersAt
    exact Action.run_bind_of_error (Action.run_askFiles_of_error hasked) _
  | noText hread hdecode =>
    rw [run_membersAt_of_read hread, hdecode]
    rfl
  | badScalar htext hvalue =>
    rw [run_membersAt_of_text htext]
    unfold membersOf
    rw [hvalue]
    rfl

theorem run_membersOf_other {text : Text} {value : Value} (h : read text = .ok value)
    (hvalue : ∀ members, value ≠ .table members) :
    membersOf read file text =
      if value.isTrue then passOver "Ignoring config " file ": top level must be a mapping"
      else return [] := by
  unfold membersOf
  rw [h]
  cases value with
  | table members => exact absurd rfl (hvalue members)
  | _ => rfl

theorem run_membersAt_of_unusable {told : Log.Entry}
    (h : Unusable read s.store (path.getD standardPath) told) :
    (membersAt read path).run s = (.ok [], { s with log := s.log ++ [told] }) := by
  cases h with
  | @noFile entry hfind hentry =>
    -- There is an answer for the path; it is only reading that fails.
    have hread : s.store.read (path.getD standardPath) = .error .isDirectory := by
      rw [Store.read, hfind]
      cases entry with
      | file content => cases hentry
      | dir => rfl
      | link target => rfl
    rw [run_membersAt_of_find hfind]
    unfold membersIn
    rw [Action.run_bind_of_ok Action.run_get, hread]
    exact run_passOver s _ _ _
  | malformed htext hvalue =>
    rw [run_membersAt_of_text htext]
    unfold membersOf
    rw [hvalue]
    exact run_passOver s _ _ _
  | noTable htext hvalue htable htrue =>
    rw [run_membersAt_of_text htext, run_membersOf_other hvalue htable, if_pos htrue]
    exact run_passOver s _ _ _

/-- Where members are offered, nothing is told but that there is no file. -/
theorem run_membersAt_of_offers {members : Table Value}
    (h : Offers read s.store (path.getD standardPath) members) :
    ∃ told, (membersAt read path).run s = (.ok members, { s with log := s.log ++ told }) ∧
      (members ≠ [] → told = []) := by
  cases h with
  | nothing hfind hfault =>
    have hasked : s.store.hasPath (path.getD standardPath) = .ok false :=
      (Store.leadsTo_of_error hfind _).trans (if_neg hfault)
    unfold membersAt
    rw [Action.run_bind_of_ok (Action.run_askFiles hasked)]
    cases path with
    | none => exact ⟨[], by rw [List.append_nil]; rfl, fun hne => absurd rfl hne⟩
    | some path => exact ⟨_, run_passOver s _ _ _, fun hne => absurd rfl hne⟩
  | empty htext hvalue htable hfalse =>
    rw [run_membersAt_of_text htext, run_membersOf_other hvalue htable, hfalse]
    exact ⟨[], by rw [List.append_nil]; rfl, fun _ => rfl⟩
  | table htext hvalue =>
    rw [run_membersAt_of_text htext]
    unfold membersOf
    rw [hvalue]
    exact ⟨[], by rw [List.append_nil]; rfl, fun _ => rfl⟩

/-- Members without a misfit are taken, and others are given up with a warning. -/
theorem run_ofMembers (s : Session) (file : Path) (members : Table Value) :
    (∃ settings, ofValue? (.table members) = some settings ∧
      (ofMembers file members).run s = (.ok settings, s)) ∨
    (HoldsMisfit members ∧ (ofMembers file members).run s = (.ok .standard,
      { s with log := s.log ++ [warning "Invalid settings in " file ", using defaults"] })) := by
  unfold ofMembers
  cases hvalue : ofValue? (.table members) with
  | some settings => exact Or.inl ⟨settings, rfl, rfl⟩
  | none =>
    refine Or.inr ⟨(ofValue?_eq_none_iff members).mp hvalue, ?_⟩
    rw [Action.run_bind_of_ok (run_warn s _ _ _)]
    rfl

variable {environment : Text → Option Text}

theorem run_load_of_breaks {failure : Failure}
    (h : Breaks read s.store (path.getD standardPath) failure) :
    (load read environment path).run s = (.error failure, s) := by
  unfold load
  exact Action.run_bind_of_error (run_membersAt_of_breaks h) _

/-- From members on, loading has a result. -/
theorem run_load_of_members (environment : Text → Option Text) {members : Table Value} {told : Log}
    (h : (membersAt read path).run s = (.ok members, { s with log := s.log ++ told })) :
    (∃ settings, ofValue? (.table (override environment members)) = some settings ∧
      (load read environment path).run s = (.ok settings, { s with log := s.log ++ told })) ∨
    (HoldsMisfit (override environment members) ∧ (load read environment path).run s =
      (.ok .standard, { s with log := s.log ++ told ++
        [warning "Invalid settings in " (path.getD standardPath) ", using defaults"] })) := by
  unfold load
  rw [Action.run_bind_of_ok h]
  exact run_ofMembers _ _ _

/-- Passing over the file leaves what the environment sets, and no second warning. -/
theorem run_load_of_unusable (environment : Text → Option Text) {told : Log.Entry}
    (h : Unusable read s.store (path.getD standardPath) told) :
    ∃ settings, ofValue? (.table (override environment [])) = some settings ∧
      (load read environment path).run s = (.ok settings, { s with log := s.log ++ [told] }) := by
  rcases run_load_of_members environment (run_membersAt_of_unusable h) with hfits | ⟨hmisfit, _⟩
  · exact hfits
  · exact absurd hmisfit not_holdsMisfit_override_nil

theorem Unusable.level {s : Store} {told : Log.Entry} (h : Unusable read s file told) :
    told.level = .warning := by
  cases h <;> rfl

/-- The settings file is a table with a member that does not fit and that the environment does not
set. -/
def Spoiled (read : FileReader) (environment : Text → Option Text) (s : Store) (file : Path) :
    Prop :=
  ∃ text members, HoldsText s file text ∧ read text = .ok (.table members) ∧
    ∃ m ∈ expected, overriding? environment m.1.toList = none ∧
      ∃ v, Table.find? members m.1.toList = some v ∧ m.2 v = false

theorem Spoiled.exists_misfit {s : Store} (h : Spoiled read environment s file) :
    ∃ members, members ≠ [] ∧ Offers read s file members ∧
      HoldsMisfit (override environment members) := by
  obtain ⟨text, members, htext, hvalue, hmisfit⟩ := h
  refine ⟨members, ?_, .table htext hvalue, holdsMisfit_override.mpr hmisfit⟩
  rintro rfl
  exact not_holdsMisfit_override_nil (holdsMisfit_override.mpr hmisfit)

theorem spoiled_of_misfit {s : Store} {members : Table Value} (hoffers : Offers read s file members)
    (h : HoldsMisfit (override environment members)) : Spoiled read environment s file := by
  cases hoffers with
  | nothing => exact absurd h not_holdsMisfit_override_nil
  | empty => exact absurd h not_holdsMisfit_override_nil
  | table htext hvalue => exact ⟨_, members, htext, hvalue, holdsMisfit_override.mp h⟩

theorem spoiled_iff_misfit {s : Store} {text : Text} {members : Table Value}
    (htext : HoldsText s file text) (hvalue : read text = .ok (.table members)) :
    Spoiled read environment s file ↔ HoldsMisfit (override environment members) := by
  constructor
  · rintro ⟨other, _, hother, hread, hmisfit⟩
    obtain rfl := htext.unique hother
    obtain rfl := Value.table.inj (Except.ok.inj (hvalue.symm.trans hread))
    exact holdsMisfit_override.mpr hmisfit
  · exact spoiled_of_misfit (.table htext hvalue)

/-- Loading breaks off, or it ends with settings. They are made of some members with those of the
environment in their places, unless the file is spoiled. -/
theorem run_load_cases (read : FileReader) (environment : Text → Option Text) (path : Option Path)
    (s : Session) :
    (∃ failure, Breaks read s.store (path.getD standardPath) failure) ∨
    ∃ settings told, (load read environment path).run s =
        (.ok settings, { s with log := s.log ++ told }) ∧
      (Spoiled read environment s.store (path.getD standardPath) ∨
        ∃ members, ofValue? (.table (override environment members)) = some settings) := by
  rcases breaks_or_unusable_or_offers read s.store (path.getD standardPath) with
    hbreaks | ⟨told, htold⟩ | ⟨members, hoffers⟩
  · exact Or.inl hbreaks
  · obtain ⟨settings, hvalue, hrun⟩ := run_load_of_unusable environment htold
    exact Or.inr ⟨settings, _, hrun, Or.inr ⟨[], hvalue⟩⟩
  · obtain ⟨told, hmembers, _⟩ := run_membersAt_of_offers hoffers
    rcases run_load_of_members environment hmembers with ⟨settings, hvalue, hrun⟩ | ⟨hmisfit, hrun⟩
    · exact Or.inr ⟨settings, _, hrun, Or.inr ⟨members, hvalue⟩⟩
    · rw [List.append_assoc] at hrun
      exact Or.inr ⟨.standard, _, hrun, Or.inl (spoiled_of_misfit hoffers hmisfit)⟩

/-- Loading the settings ends with settings, whatever is found where they are looked for, unless
that breaks the run. What cannot be used as a whole leaves the defaults and one warning. -/
theorem load_ends (read : FileReader) (environment : Text → Option Text) (path : Option Path)
    (s : Session) :
    let file := path.getD standardPath
    let run := (load read environment path).run s
    (∀ failure, Breaks read s.store file failure → run = (.error failure, s)) ∧
    ((∀ failure, ¬ Breaks read s.store file failure) →
      ∃ settings told, run = (.ok settings, { s with log := s.log ++ told })) ∧
    ∀ told, Unusable read s.store file told → setBy? environment "DTSVIZ_DEPENDS_JAR" = none →
      setBy? environment "DTSVIZ_JAVA" = none →
      run = (.ok .standard, { s with log := s.log ++ [told] }) ∧ told.level = .warning := by
  refine ⟨fun failure => run_load_of_breaks, fun hnever => ?_, fun told htold hjar hjava => ?_⟩
  · rcases run_load_cases read environment path s with
      ⟨failure, hbreaks⟩ | ⟨settings, told, hrun, _⟩
    · exact absurd hbreaks (hnever failure)
    · exact ⟨settings, told, hrun⟩
  · obtain ⟨settings, hvalue, hrun⟩ := run_load_of_unusable environment htold
    rw [override_of_unset hjar hjava, ofValue?_nil] at hvalue
    rw [Option.some.inj hvalue]
    exact ⟨hrun, htold.level⟩

/-- A working directory with an entry where the settings file is looked for. -/
def withConfig (entry : Entry) : Store where
  current := [['w']]
  entries := [([['w'], "c.yaml".toList], entry)]

/-- The path of that entry. -/
def configPath : Path :=
  Path.ofString "c.yaml"

theorem load_ends_directory :
    ((load Yaml.read (fun _ => none) (some configPath)).run (.ofStore (withConfig .dir))).1 =
      .ok .standard := by
  have hfind : (withConfig .dir).find configPath = .ok .dir := by cbv
  obtain ⟨_, _, hunusable⟩ :=
    load_ends Yaml.read (fun _ => none) (some configPath) (.ofStore (withConfig .dir))
  exact congrArg Prod.fst (hunusable _ (.noFile hfind rfl) rfl rfl).1

/-- A settings file that is not UTF-8 ends the run. -/
theorem load_ends_undecodable :
    ((load Yaml.read (fun _ => none) (some configPath)).run
      (.ofStore (withConfig (.file [0xff])))).1 = .error .undecodable := by
  have hread : (withConfig (.file [0xff])).read configPath = .ok [0xff] := by cbv
  exact congrArg Prod.fst (run_load_of_breaks (.noText hread (by cbv)))

/-! The environment comes last. -/

/-- Settings that were loaded from a file without a misfit are made of overridden members. -/
theorem exists_members_of_load {s final : Session} {settings : Settings}
    (h : (load read environment path).run s = (.ok settings, final))
    (hspoiled : ¬ Spoiled read environment s.store (path.getD standardPath)) :
    ∃ members, ofValue? (.table (override environment members)) = some settings := by
  rcases run_load_cases read environment path s with
    ⟨failure, hbreaks⟩ | ⟨made, told, hrun, hmade⟩
  · rw [run_load_of_breaks hbreaks] at h
    cases h
  · rw [h] at hrun
    cases hrun
    exact hmade.resolve_left hspoiled

theorem run_load_of_spoiled
    (h : Spoiled read environment s.store (path.getD standardPath)) :
    (load read environment path).run s = (.ok .standard, { s with
      log := s.log ++
        [warning "Invalid settings in " (path.getD standardPath) ", using defaults"] }) := by
  obtain ⟨members, hne, hoffers, hmisfit⟩ := h.exists_misfit
  obtain ⟨told, hmembers, htold⟩ := run_membersAt_of_offers hoffers
  obtain rfl := htold hne
  rcases run_load_of_members environment hmembers with ⟨made, hvalue, _⟩ | ⟨_, hrun⟩
  · rw [(ofValue?_eq_none_iff _).mpr hmisfit] at hvalue
    cases hvalue
  · rw [List.append_nil] at hrun
    exact hrun

/-- Settings that were loaded have what the environment sets, unless another member of the file
does not fit: then they are the defaults, whatever the environment sets. -/
theorem overrides_win {read : FileReader} {environment : Text → Option Text} {path : Option Path}
    {s final : Session} {settings : Settings}
    (h : (load read environment path).run s = (.ok settings, final)) :
    let file := path.getD standardPath
    (¬ Spoiled read environment s.store file →
      (∀ jar, environment "DTSVIZ_DEPENDS_JAR".toList = some jar → jar ≠ [] →
        settings.dependsJar = Path.ofText jar) ∧
      ∀ java, environment "DTSVIZ_JAVA".toList = some java → java ≠ [] → settings.java = java) ∧
    (Spoiled read environment s.store file → settings = .standard ∧ final = { s with
      log := s.log ++ [warning "Invalid settings in " file ", using defaults"] }) := by
  refine ⟨fun hspoiled => ?_, fun hspoiled => ?_⟩
  · obtain ⟨members, hvalue⟩ := exists_members_of_load h hspoiled
    obtain ⟨hjar, hjava⟩ := overridden_of_ofValue? hvalue
    exact ⟨fun jar hset hne => hjar jar (setBy?_eq_some.mpr ⟨hset, hne⟩),
      fun java hset hne => hjava java (setBy?_eq_some.mpr ⟨hset, hne⟩)⟩
  · obtain ⟨hsettings, hfinal⟩ := Prod.mk.inj (h.symm.trans (run_load_of_spoiled hspoiled))
    exact ⟨Except.ok.inj hsettings, hfinal⟩

/-- An environment that says how Java is called. -/
def javaEnvironment (name : Text) : Option Text :=
  if name = "DTSVIZ_JAVA".toList then some ['j'] else none

/-- The settings that a table and the environment make. -/
def overridden? (environment : Text → Option Text) : Value → Option Settings
  | .table members => ofValue? (.table (override environment members))
  | _ => none

/-- A file whose only misfit is what the environment sets. -/
def badJava : Bytes :=
  Text.Utf8.encode "java: 5\nport: 7\n".toList

theorem overrides_win_java : ∃ settings final,
    (load Yaml.read javaEnvironment (some configPath)).run (.ofStore (withConfig (.file badJava))) =
      (.ok settings, final) ∧ settings.java = ['j'] := by
  have hkept : ((Yaml.read "java: 5\nport: 7\n".toList).toOption.bind
      (overridden? javaEnvironment)).isSome = true := by decide +kernel
  have htext : HoldsText (withConfig (.file badJava)) configPath "java: 5\nport: 7\n".toList :=
    ⟨badJava, "java: 5\nport: 7\n".toList, by cbv, by cbv, by cbv⟩
  cases hread : Yaml.read "java: 5\nport: 7\n".toList with
  | error fault =>
    rw [hread] at hkept
    cases hkept
  | ok value =>
    rw [hread] at hkept
    cases value with
    | table members =>
      have hfits : ¬ HoldsMisfit (override javaEnvironment members) := fun hmisfit => by
        have hsome : (ofValue? (.table (override javaEnvironment members))).isSome = true := hkept
        rw [(ofValue?_eq_none_iff _).mpr hmisfit] at hsome
        cases hsome
      have hspoiled : ¬ Spoiled Yaml.read javaEnvironment (withConfig (.file badJava)) configPath :=
        mt (spoiled_iff_misfit htext hread).mp hfits
      have hoffers : Offers Yaml.read (Session.ofStore (withConfig (.file badJava))).store
          ((some configPath).getD standardPath) members := .table htext hread
      obtain ⟨told, hmembers, _⟩ := run_membersAt_of_offers hoffers
      rcases run_load_of_members javaEnvironment hmembers with ⟨settings, _, hrun⟩ | ⟨hmisfit, _⟩
      · exact ⟨settings, _, hrun, ((overrides_win hrun).1 hspoiled).2 ['j'] rfl (by decide)⟩
      · exact absurd hmisfit hfits
    | _ => cases hkept

/-- A port that is no number. -/
def badPort : Bytes :=
  Text.Utf8.encode "port: x\n".toList

/-- What the environment sets is lost because of a port that is no number. -/
theorem overrides_win_lost : setBy? javaEnvironment "DTSVIZ_JAVA" = some ['j'] ∧
    ((load Yaml.read javaEnvironment (some configPath)).run
      (.ofStore (withConfig (.file badPort)))).1 = .ok .standard ∧
    Settings.standard.java ≠ ['j'] := by
  have hport : ((Yaml.read "port: x\n".toList).toOption.bind (·.member? "port")).map
      (fun v => (asInt? v).isSome) = some false := by decide +kernel
  have htext : HoldsText (withConfig (.file badPort)) configPath "port: x\n".toList :=
    ⟨badPort, "port: x\n".toList, by cbv, by cbv, by cbv⟩
  have hspoiled : Spoiled Yaml.read javaEnvironment (withConfig (.file badPort)) configPath := by
    cases hread : Yaml.read "port: x\n".toList with
    | error fault =>
      rw [hread] at hport
      cases hport
    | ok value =>
      rw [hread] at hport
      obtain ⟨v, hv, hmisfit⟩ := Option.map_eq_some_iff.mp hport
      cases value with
      | table members =>
        exact ⟨_, members, htext, hread, _, List.mem_cons_self, rfl, v, hv, hmisfit⟩
      | _ => cases hv
  exact ⟨by decide, congrArg Prod.fst (run_load_of_spoiled hspoiled), by decide⟩

end DepView.Settings
