import DepView.Session

/-!
Steps that can fail. A sequence of steps has a result if each of them has one, and a step of a
run starts from what the step before it has left.
-/

namespace DepView

theorem bind_eq_ok {ε α β : Type} {x : Except ε α} {f : α → Except ε β} {b : β} :
    x >>= f = .ok b ↔ ∃ a, x = .ok a ∧ f a = .ok b := by
  constructor
  · intro h
    cases x with
    | error e => cases h
    | ok a => exact ⟨a, rfl, h⟩
  · rintro ⟨a, rfl, h⟩
    exact h

namespace Action

variable {α β : Type} {s s' : Session}

theorem run_bind_of_ok {x : Action α} {a : α} (h : x.run s = (.ok a, s')) (f : α → Action β) :
    (x >>= f).run s = (f a).run s' := by
  rw [ExceptT.run_bind]
  simp only [bind, StateT.bind, h]

theorem run_bind_of_error {x : Action α} {e : Failure} (h : x.run s = (.error e, s'))
    (f : α → Action β) : (x >>= f).run s = (.error e, s') := by
  rw [ExceptT.run_bind]
  simp only [bind, StateT.bind, h]
  rfl

/-- A run of two steps ends in the first, or goes on from what that has left. -/
theorem run_bind_cases {x : Action α} {f : α → Action β} {result : Except Failure β}
    (h : (x >>= f).run s = (result, s')) :
    (∃ e, x.run s = (.error e, s') ∧ result = .error e) ∨
      ∃ a between, x.run s = (.ok a, between) ∧ (f a).run between = (result, s') := by
  cases hx : x.run s with
  | mk first between =>
    cases first with
    | error e =>
      obtain ⟨rfl, rfl⟩ := Prod.mk.inj ((run_bind_of_error hx f).symm.trans h)
      exact Or.inl ⟨e, rfl, rfl⟩
    | ok a =>
      rw [run_bind_of_ok hx] at h
      exact Or.inr ⟨a, between, rfl, h⟩

/-- A run of two steps that has a result has one after each of them. -/
theorem run_bind_eq_ok {x : Action α} {f : α → Action β} {b : β}
    (h : (x >>= f).run s = (.ok b, s')) :
    ∃ a between, x.run s = (.ok a, between) ∧ (f a).run between = (.ok b, s') := by
  rcases run_bind_cases h with ⟨e, _, herror⟩ | hsteps
  · cases herror
  · exact hsteps

theorem run_get : (get : Action Session).run s = (.ok s, s) :=
  rfl

theorem run_modify (f : Session → Session) : (modify f : Action Unit).run s = (.ok (), f s) :=
  rfl

theorem run_note (level : Log.Level) (topic : Log.Topic) (message : Text) :
    (note level topic message).run s =
      (.ok (), { s with log := s.log ++ [⟨level, topic, message⟩] }) :=
  rfl

theorem run_askFiles {question : Store → Except Store.Fault α} {a : α}
    (h : question s.store = .ok a) : (askFiles question).run s = (.ok a, s) := by
  unfold askFiles
  rw [run_bind_of_ok run_get, h]
  rfl

theorem run_askFiles_of_error {question : Store → Except Store.Fault α} {fault : Store.Fault}
    (h : question s.store = .error fault) :
    (askFiles question).run s = (.error (.file fault), s) := by
  unfold askFiles
  rw [run_bind_of_ok run_get, h]
  dsimp only [ofFiles]
  cases fault.isOfText <;> rfl

variable {path : Path} {text : Text} {bytes : Bytes} {store after : Store}

/-- A file that is UTF-8 is read as its text with all line endings folded. -/
theorem run_readText (fail : Store.Fault → Failure) (hread : s.store.read path = .ok bytes)
    (htext : Text.Utf8.decode? bytes = some text) :
    (readText fail path).run s = (.ok (Text.foldNewlines text), s) := by
  have hbytes : (readBytes fail path).run s = (.ok bytes, s) := by
    unfold readBytes
    rw [run_bind_of_ok run_get, hread]
    rfl
  unfold readText
  rw [run_bind_of_ok hbytes, htext]
  rfl

/-- Reading changes nothing. -/
theorem run_readText_cases {fail : Store.Fault → Failure} {result : Except Failure Text}
    (h : (readText fail path).run s = (result, s')) : s' = s ∧
      ∀ read, result = .ok read → ∃ bytes text, s.store.read path = .ok bytes ∧
        Text.Utf8.decode? bytes = some text ∧ read = Text.foldNewlines text := by
  have hbytes : ∃ held, (readBytes fail path).run s = (held, s) ∧
      ∀ bytes, held = .ok bytes → s.store.read path = .ok bytes := by
    unfold readBytes
    rw [run_bind_of_ok run_get]
    cases s.store.read path with
    | error fault => exact ⟨_, rfl, fun _ hheld => nomatch hheld⟩
    | ok bytes => exact ⟨_, rfl, fun _ hheld => congrArg Except.ok (Except.ok.inj hheld)⟩
  obtain ⟨held, hheld, hread⟩ := hbytes
  unfold readText at h
  rcases run_bind_cases h with ⟨e, hfailed, rfl⟩ | ⟨bytes, between, hok, hrest⟩
  · obtain ⟨_, rfl⟩ := Prod.mk.inj (hheld.symm.trans hfailed)
    exact ⟨rfl, fun _ hread => nomatch hread⟩
  · obtain ⟨rfl, rfl⟩ := Prod.mk.inj (hheld.symm.trans hok)
    cases htext : Text.Utf8.decode? bytes with
    | none =>
      rw [htext] at hrest
      obtain ⟨rfl, rfl⟩ := Prod.mk.inj hrest
      exact ⟨rfl, fun _ hread => nomatch hread⟩
    | some text =>
      rw [htext] at hrest
      obtain ⟨rfl, rfl⟩ := Prod.mk.inj hrest
      refine ⟨rfl, fun read hok => ?_⟩
      exact ⟨bytes, text, hread bytes rfl, htext, (Except.ok.inj hok).symm⟩

theorem run_writeBytes (s : Session) (h : store.write path bytes = .ok after) :
    (writeBytes path bytes).run { s with store } = (.ok (), { s with store := after }) := by
  unfold writeBytes
  rw [run_bind_of_ok run_get]
  dsimp only
  rw [h]
  rfl

/-- A text with a UTF-8 form is written in it. -/
theorem run_writeText (s : Session) (htext : Text.holdsSurrogate text = false)
    (h : store.write path (Text.Utf8.encode text) = .ok after) :
    (writeText path text).run { s with store } = (.ok (), { s with store := after }) := by
  unfold writeText
  rw [htext]
  exact run_writeBytes s h

theorem run_writeBytes_cases {result : Except Failure Unit}
    (h : (writeBytes path bytes).run s = (result, s')) :
    (∃ e, result = .error e ∧ s' = s) ∨
      (result = .ok () ∧ ∃ store, s.store.write path bytes = .ok store ∧
        s' = { s with store }) := by
  unfold writeBytes at h
  rw [run_bind_of_ok run_get] at h
  cases hwrite : s.store.write path bytes with
  | error fault =>
    rw [hwrite] at h
    obtain ⟨rfl, rfl⟩ := Prod.mk.inj h
    exact Or.inl ⟨_, rfl, rfl⟩
  | ok store =>
    rw [hwrite] at h
    obtain ⟨rfl, rfl⟩ := Prod.mk.inj h
    exact Or.inr ⟨rfl, store, rfl, rfl⟩

/-- Writing a text changes at most the file, and if it has a result, the file holds the text. -/
theorem run_writeText_cases {result : Except Failure Unit}
    (h : (writeText path text).run s = (result, s')) :
    (∃ e, result = .error e ∧ (s' = s ∨
      Text.holdsSurrogate text = true ∧ ∃ bytes, s.store.write path bytes = .ok s'.store)) ∨
    (result = .ok () ∧ Text.holdsSurrogate text = false ∧
      ∃ store, s.store.write path (Text.Utf8.encode text) = .ok store ∧
        s' = { s with store }) := by
  unfold writeText at h
  cases htext : Text.holdsSurrogate text with
  | true =>
    rw [htext] at h
    refine Or.inl ?_
    rcases run_bind_cases h with ⟨e, hwrite, rfl⟩ | ⟨_, between, hwrite, hthrow⟩
    · rcases run_writeBytes_cases hwrite with ⟨_, _, hsame⟩ | ⟨hok, _⟩
      · exact ⟨e, rfl, Or.inl hsame⟩
      · cases hok
    · obtain ⟨rfl, rfl⟩ := Prod.mk.inj hthrow
      rcases run_writeBytes_cases hwrite with ⟨_, herror, _⟩ | ⟨_, store, hstore, rfl⟩
      · cases herror
      · exact ⟨_, rfl, Or.inr ⟨rfl, [], hstore⟩⟩
  | false =>
    rw [htext] at h
    rcases run_writeBytes_cases h with ⟨e, rfl, hsame⟩ | ⟨rfl, hstore⟩
    · exact Or.inl ⟨e, rfl, Or.inl hsame⟩
    · exact Or.inr ⟨rfl, rfl, hstore⟩

theorem run_writeText_eq_ok {u : Unit} (h : (writeText path text).run s = (.ok u, s')) :
    Text.holdsSurrogate text = false ∧
      s.store.write path (Text.Utf8.encode text) = .ok s'.store := by
  rcases run_writeText_cases h with ⟨_, herror, _⟩ | ⟨_, hwhole, store, hstore, rfl⟩
  · cases herror
  · exact ⟨hwhole, hstore⟩

/-- A run that writes a text and goes on fails, or goes on from where the file holds the text. -/
theorem run_writeText_bind_cases {rest : Unit → Action β} {result : Except Failure β}
    (h : (writeText path text >>= rest).run s = (result, s')) :
    (∃ e, result = .error e ∧ (s' = s ∨
      Text.holdsSurrogate text = true ∧ ∃ bytes, s.store.write path bytes = .ok s'.store)) ∨
    ∃ store, Text.holdsSurrogate text = false ∧
      s.store.write path (Text.Utf8.encode text) = .ok store ∧
      (rest ()).run { s with store } = (result, s') := by
  rcases run_bind_cases h with ⟨e, hwrite, rfl⟩ | ⟨_, between, hwrite, hrest⟩
  · rcases run_writeText_cases hwrite with ⟨_, _, hleft⟩ | ⟨hok, _⟩
    · exact Or.inl ⟨e, rfl, hleft⟩
    · cases hok
  · rcases run_writeText_cases hwrite with ⟨_, herror, _⟩ | ⟨_, hwhole, store, hstore, rfl⟩
    · cases herror
    · exact Or.inr ⟨store, hwhole, hstore, hrest⟩

theorem run_ensureDir (h : s.store.ensureDir path = .ok store) :
    (ensureDir path).run s = (.ok (), { s with store }) := by
  unfold Store.ensureDir at h
  unfold ensureDir
  rw [run_bind_of_ok run_get]
  split at h
  · rename_i made hmade
    obtain rfl := Except.ok.inj h
    rw [hmade]
    rfl
  · cases h

/-- Whether a directory is made or not, the store is what is left of the way to it. -/
theorem run_ensureDir_cases {result : Except Failure Unit}
    (h : (ensureDir path).run s = (result, s')) :
    ∃ store made, s.store.makeWay path = (store, made) ∧ s' = { s with store } ∧
      (result = .ok () → made = .ok ()) := by
  unfold ensureDir at h
  rw [run_bind_of_ok run_get] at h
  obtain ⟨store, made, hway⟩ : ∃ store made, s.store.makeWay path = (store, made) :=
    ⟨_, _, rfl⟩
  rw [hway] at h
  dsimp only at h
  rw [run_bind_of_ok (run_modify _)] at h
  cases made with
  | ok made =>
    obtain ⟨rfl, rfl⟩ := Prod.mk.inj h
    exact ⟨store, .ok (), hway, rfl, fun _ => rfl⟩
  | error fault =>
    obtain ⟨rfl, rfl⟩ := Prod.mk.inj h
    exact ⟨store, .error fault, hway, rfl, fun hok => nomatch hok⟩

theorem run_ensureDir_eq_ok {u : Unit} (h : (ensureDir path).run s = (.ok u, s')) :
    s.store.ensureDir path = .ok s'.store := by
  obtain ⟨store, made, hway, rfl, hmade⟩ := run_ensureDir_cases h
  unfold Store.ensureDir
  rw [hway, hmade rfl]

end Action

end DepView
