import DepView.Text.Basic

/-!
Tables from texts to values that keep their keys in the order in which they came in. Writing
under a known key keeps the key's place.
-/

namespace DepView

abbrev Table (α : Type) := List (Text × α)

namespace Table

variable {α : Type}

def insert (key : Text) (value : α) : Table α → Table α
  | [] => [(key, value)]
  | (k, v) :: rest => if k = key then (k, value) :: rest else (k, v) :: insert key value rest

def find? : Table α → Text → Option α
  | [], _ => none
  | (k, v) :: rest, key => if k = key then some v else find? rest key

def keys (table : Table α) : List Text :=
  table.map (·.1)

/-- The table of some pairs. Of several values for one key the last counts. -/
def ofPairs (pairs : List (Text × α)) : Table α :=
  pairs.foldl (fun table pair => insert pair.1 pair.2 table) []

theorem find?_insert (table : Table α) (key other : Text) (value : α) :
    find? (insert key value table) other =
      if other = key then some value else find? table other := by
  induction table with
  | nil => simp [insert, find?, eq_comm]
  | cons head rest ih =>
    obtain ⟨k, v⟩ := head
    by_cases hk : k = key <;> by_cases ho : k = other <;> simp_all [insert, find?, eq_comm]

/-- Writing under a new key puts the key at the end. -/
theorem keys_insert (table : Table α) (key : Text) (value : α) :
    (insert key value table).keys =
      if key ∈ table.keys then table.keys else table.keys ++ [key] := by
  induction table with
  | nil => rfl
  | cons head rest ih =>
    obtain ⟨k, v⟩ := head
    rw [insert]
    by_cases hk : k = key
    · simp [keys, hk]
    · have hcons : keys ((k, v) :: insert key value rest) = k :: keys (insert key value rest) := rfl
      rw [if_neg hk, hcons, ih]
      by_cases hmem : key ∈ keys rest <;> simp_all [keys, Ne.symm hk]

theorem mem_keys_of_find? {table : Table α} {key : Text} {value : α}
    (h : find? table key = some value) : key ∈ table.keys := by
  induction table with
  | nil => cases h
  | cons head rest ih =>
    obtain ⟨k, v⟩ := head
    rw [find?] at h
    split at h
    · rename_i hk
      exact hk ▸ List.mem_cons_self
    · exact List.mem_cons_of_mem _ (ih h)

theorem mem_insert {table : Table α} {key : Text} {value : α} {entry : Text × α}
    (h : entry ∈ insert key value table) : entry.2 = value ∨ entry ∈ table := by
  induction table with
  | nil => exact Or.inl (congrArg Prod.snd (List.mem_singleton.mp h))
  | cons head rest ih =>
    obtain ⟨k, v⟩ := head
    rw [insert] at h
    split at h
    · rcases List.mem_cons.mp h with rfl | hrest
      · exact Or.inl rfl
      · exact Or.inr (List.mem_cons_of_mem _ hrest)
    · rcases List.mem_cons.mp h with rfl | hrest
      · exact Or.inr List.mem_cons_self
      · exact (ih hrest).imp_right (List.mem_cons_of_mem _)

/-- A table of pairs has no other values than they have. -/
theorem forall_ofPairs (holds : α → Prop) {pairs : List (Text × α)}
    (h : ∀ pair ∈ pairs, holds pair.2) : ∀ entry ∈ ofPairs pairs, holds entry.2 := by
  have hfold : ∀ table : Table α, (∀ entry ∈ table, holds entry.2) →
      ∀ entry ∈ pairs.foldl (fun table pair => insert pair.1 pair.2 table) table,
        holds entry.2 := by
    induction pairs with
    | nil => exact fun table htable => htable
    | cons pair rest ih =>
      intro table htable
      refine ih (fun other hother => h other (List.mem_cons_of_mem _ hother)) _ ?_
      intro entry hentry
      rcases mem_insert hentry with hvalue | hmem
      · rw [hvalue]
        exact h pair List.mem_cons_self
      · exact htable entry hmem
  exact hfold [] fun entry hentry => by cases hentry

end Table

end DepView
