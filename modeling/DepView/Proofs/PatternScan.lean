import DepView.Text.Scan

/-!
Scans of a text that is put together from chunks. A chunk yields some matches if
a scan finds just these in it, whatever follows, and goes on behind the chunk.
The matches of a whole text are then those of its chunks, in order. Rewriting
all matches is treated in the same way.
-/

namespace DepView.Text

namespace Pattern

variable {α : Type}

theorem findAll_nil (p : Pattern α) : p.findAll [] = [] := by
  unfold findAll
  rfl

theorem findAll_of_match (p : Pattern α) {text rest : Text} {found : α}
    (h : p.match? text = some (found, rest)) :
    p.findAll text = found :: p.findAll rest := by
  cases text with
  | nil =>
    have hlt := p.rest_lt h
    simp at hlt
  | cons c tail =>
    rw [findAll]
    split
    · rename_i found' rest' h'
      rw [h] at h'
      cases h'
      rfl
    · rename_i h'
      rw [h] at h'
      cases h'

theorem findAll_cons_of_none (p : Pattern α) {c : Char} {tail : Text}
    (h : p.match? (c :: tail) = none) : p.findAll (c :: tail) = p.findAll tail := by
  rw [findAll]
  split
  · rename_i h'
    rw [h] at h'
    cases h'
  · rfl

theorem findAll_cons_eq_nil {p : Pattern α} {c : Char} {tail : Text} :
    p.findAll (c :: tail) = [] ↔ p.match? (c :: tail) = none ∧ p.findAll tail = [] := by
  cases h : p.match? (c :: tail) with
  | none => simp [findAll_cons_of_none p h]
  | some result => simp [findAll_of_match p h]

/-- What holds of every match holds of all that a scan finds. -/
theorem forall_mem_findAll {p : Pattern α} {P : α → Prop}
    (h : ∀ text found rest, p.match? text = some (found, rest) → P found) (text : Text) :
    ∀ found ∈ p.findAll text, P found := by
  fun_induction findAll p text with
  | case1 => exact fun _ hmem => nomatch hmem
  | case2 c tail first rest hmatch ih => exact List.forall_mem_cons.mpr ⟨h _ _ _ hmatch, ih⟩
  | case3 c tail _ ih => exact ih

theorem replaceAll_nil (p : Pattern α) (write : α → Text) : p.replaceAll write [] = [] := by
  unfold replaceAll
  rfl

theorem replaceAll_of_match (p : Pattern α) (write : α → Text) {text rest : Text}
    {found : α} (h : p.match? text = some (found, rest)) :
    p.replaceAll write text = write found ++ p.replaceAll write rest := by
  cases text with
  | nil =>
    have hlt := p.rest_lt h
    simp at hlt
  | cons c tail =>
    rw [replaceAll]
    split
    · rename_i found' rest' h'
      rw [h] at h'
      cases h'
      rfl
    · rename_i h'
      rw [h] at h'
      cases h'

theorem replaceAll_cons_of_none (p : Pattern α) (write : α → Text) {c : Char} {tail : Text}
    (h : p.match? (c :: tail) = none) :
    p.replaceAll write (c :: tail) = c :: p.replaceAll write tail := by
  rw [replaceAll]
  split
  · rename_i h'
    rw [h] at h'
    cases h'
  · rfl

/-- A pattern occurs in a text if and only if the scan for all matches finds one. -/
theorem occursIn_iff (p : Pattern α) (text : Text) :
    p.occursIn text = true ↔ p.findAll text ≠ [] := by
  induction text with
  | nil => simp [occursIn, findAll_nil]
  | cons c tail ih =>
    cases h : p.match? (c :: tail) with
    | none => simp only [occursIn, h, findAll_cons_of_none p h, Option.isSome_none,
        Bool.false_or, ih]
    | some result =>
      obtain ⟨found, rest⟩ := result
      simp [occursIn, h, findAll_of_match p h]

/-- A pattern that matches whatever follows occurs in a text that is continued. -/
theorem occursIn_append {p : Pattern α}
    (hp : ∀ text more, (p.match? text).isSome = true → (p.match? (text ++ more)).isSome = true)
    {text : Text} (h : p.occursIn text = true) (more : Text) :
    p.occursIn (text ++ more) = true := by
  induction text with
  | nil => cases h
  | cons c text ih =>
    rw [occursIn, Bool.or_eq_true] at h
    rw [List.cons_append, occursIn, Bool.or_eq_true]
    rcases h with hhead | htail
    · exact Or.inl (hp (c :: text) more hhead)
    · exact Or.inr (ih htail)

/-- The matches of a chunk, none of which reaches beyond it. -/
def Yields (p : Pattern α) (chunk : Text) (found : List α) : Prop :=
  ∀ rest, p.findAll (chunk ++ rest) = found ++ p.findAll rest

/-- What a chunk becomes when its matches are written anew. -/
def Rewrites (p : Pattern α) (write : α → Text) (chunk result : Text) : Prop :=
  ∀ rest, p.replaceAll write (chunk ++ rest) = result ++ p.replaceAll write rest

theorem Yields.findAll {p : Pattern α} {chunk : Text} {found : List α}
    (h : p.Yields chunk found) : p.findAll chunk = found := by
  have h0 := h []
  simpa only [List.append_nil, findAll_nil] using h0

theorem Yields.nil (p : Pattern α) : p.Yields [] [] := by
  intro rest
  rfl

theorem Yields.append {p : Pattern α} {a b : Text} {xs ys : List α}
    (ha : p.Yields a xs) (hb : p.Yields b ys) : p.Yields (a ++ b) (xs ++ ys) := by
  intro rest
  rw [List.append_assoc, ha, hb, List.append_assoc]

/-- A chunk that yields nothing can stand before any other. -/
theorem Yields.after_nil {p : Pattern α} {a b : Text} {found : List α} (ha : p.Yields a [])
    (hb : p.Yields b found) : p.Yields (a ++ b) found :=
  ha.append hb

theorem Yields.flatMap {ι : Type} {p : Pattern α} (items : List ι) (chunk : ι → Text)
    (found : ι → List α) (h : ∀ i ∈ items, p.Yields (chunk i) (found i)) :
    p.Yields (items.flatMap chunk) (items.flatMap found) := by
  induction items with
  | nil => exact Yields.nil p
  | cons i items ih =>
    have hi := h i (List.mem_cons_self ..)
    have htail := ih (fun j hj => h j (List.mem_cons_of_mem _ hj))
    exact Yields.append hi htail

/-- A match at the head of a chunk, and what the rest of the chunk yields. -/
theorem Yields.of_match {p : Pattern α} {head tail : Text} {found : α} {later : List α}
    (h : ∀ rest, p.match? (head ++ (tail ++ rest)) = some (found, tail ++ rest))
    (htail : p.Yields tail later) : p.Yields (head ++ tail) (found :: later) := by
  intro rest
  rw [List.append_assoc, findAll_of_match p (h rest), htail, List.cons_append]

/-- A chunk yields nothing if no match starts in it. -/
theorem Yields.of_suffixes {p : Pattern α} {chunk : Text}
    (h : ∀ c tail, c :: tail <:+ chunk → ∀ rest, p.match? (c :: (tail ++ rest)) = none) :
    p.Yields chunk [] := by
  induction chunk with
  | nil => exact Yields.nil p
  | cons c chunk ih =>
    intro rest
    have hc := h c chunk List.suffix_rfl rest
    have htail := ih (fun d tail hd => h d tail (hd.trans (List.suffix_cons c chunk)))
    rw [List.cons_append, findAll_cons_of_none p hc, htail]

/-- A chunk of characters none of which starts a match. -/
theorem Yields.skips {p : Pattern α} {chunk : Text}
    (h : ∀ c ∈ chunk, ∀ rest, p.match? (c :: rest) = none) : p.Yields chunk [] := by
  apply Yields.of_suffixes
  intro c tail hsuffix rest
  exact h c (hsuffix.subset (List.mem_cons_self ..)) (tail ++ rest)

theorem Rewrites.replaceAll {p : Pattern α} {write : α → Text} {chunk result : Text}
    (h : p.Rewrites write chunk result) : p.replaceAll write chunk = result := by
  have h0 := h []
  simpa only [List.append_nil, replaceAll_nil] using h0

theorem Rewrites.nil (p : Pattern α) (write : α → Text) : p.Rewrites write [] [] := by
  intro rest
  rfl

theorem Rewrites.append {p : Pattern α} {write : α → Text} {a b a' b' : Text}
    (ha : p.Rewrites write a a') (hb : p.Rewrites write b b') :
    p.Rewrites write (a ++ b) (a' ++ b') := by
  intro rest
  rw [List.append_assoc, ha, hb, List.append_assoc]

theorem Rewrites.flatMap {ι : Type} {p : Pattern α} {write : α → Text} (items : List ι)
    (chunk result : ι → Text) (h : ∀ i ∈ items, p.Rewrites write (chunk i) (result i)) :
    p.Rewrites write (items.flatMap chunk) (items.flatMap result) := by
  induction items with
  | nil => exact Rewrites.nil p write
  | cons i items ih =>
    have hi := h i (List.mem_cons_self ..)
    have htail := ih (fun j hj => h j (List.mem_cons_of_mem _ hj))
    exact Rewrites.append hi htail

theorem Rewrites.of_match {p : Pattern α} {write : α → Text} {chunk : Text} {found : α}
    (h : ∀ rest, p.match? (chunk ++ rest) = some (found, rest)) :
    p.Rewrites write chunk (write found) := by
  intro rest
  exact replaceAll_of_match p write (h rest)

/-- A chunk of characters none of which starts a match stays as it is. -/
theorem Rewrites.skips {p : Pattern α} {write : α → Text} {chunk : Text}
    (h : ∀ c ∈ chunk, ∀ rest, p.match? (c :: rest) = none) : p.Rewrites write chunk chunk := by
  induction chunk with
  | nil => exact Rewrites.nil p write
  | cons c chunk ih =>
    intro rest
    have hc := replaceAll_cons_of_none p write (h c (List.mem_cons_self ..) (chunk ++ rest))
    have htail := ih (fun d hd => h d (List.mem_cons_of_mem _ hd)) rest
    rw [List.cons_append, hc, htail, List.cons_append]

end Pattern

/-- Reading a run stops before a text that does not begin with the class. -/
theorem run?_append_of_head {p : Char → Bool} {word rest : Text} (hne : word ≠ [])
    (hword : ∀ c ∈ word, p c = true) (hrest : ∀ c, rest.head? = some c → p c = false) :
    run? p (word ++ rest) = some (word, rest) := by
  have htake : (word ++ rest).takeWhile p = word := by
    rw [List.takeWhile_append_of_pos hword]
    cases rest with
    | nil => simp
    | cons d rest => simp [hrest d rfl]
  have hdrop : (word ++ rest).dropWhile p = rest := by
    rw [List.dropWhile_append_of_pos hword]
    cases rest with
    | nil => rfl
    | cons d rest => simp [hrest d rfl]
  unfold run?
  rw [htake, hdrop]
  cases word with
  | nil => exact False.elim (hne rfl)
  | cons c word => rfl

/-- Reading a run stops at the first character outside of the class. -/
theorem run?_append {p : Char → Bool} {word : Text} (hne : word ≠ [])
    (hword : ∀ c ∈ word, p c = true) {d : Char} (hd : p d = false) (rest : Text) :
    run? p (word ++ d :: rest) = some (word, d :: rest) := by
  apply run?_append_of_head hne hword
  rintro c ⟨⟩
  exact hd

/-- Nothing is dropped before a word outside of the class. -/
theorem dropWhile_append_of_neg {p : Char → Bool} {word : Text} (hne : word ≠ [])
    (hword : ∀ c ∈ word, p c = false) (rest : Text) :
    (word ++ rest).dropWhile p = word ++ rest := by
  cases word with
  | nil => exact False.elim (hne rfl)
  | cons c word => exact List.dropWhile_cons_of_neg (by simp [hword c (List.mem_cons_self ..)])

/-- Reading a run stops before a word outside of the class. -/
theorem run?_append_word {p : Char → Bool} {word next : Text} (hne : word ≠ [])
    (hword : ∀ c ∈ word, p c = true) (hnext : next ≠ []) (hneg : ∀ c ∈ next, p c = false)
    (rest : Text) : run? p (word ++ (next ++ rest)) = some (word, next ++ rest) := by
  cases next with
  | nil => exact False.elim (hnext rfl)
  | cons d next => exact run?_append hne hword (hneg d (List.mem_cons_self ..)) (next ++ rest)

theorem run?_cons_of_neg {p : Char → Bool} {c : Char} (h : p c = false) (rest : Text) :
    run? p (c :: rest) = none := by
  simp [run?, h]

theorem run?_rest {p : Char → Bool} {text word rest : Text} (h : run? p text = some (word, rest)) :
    rest = text.dropWhile p := by
  unfold run? at h
  split at h
  · cases h
  · cases h
    rfl

theorem run?_word {p : Char → Bool} {text word rest : Text}
    (h : run? p text = some (word, rest)) : ∀ c ∈ word, p c = true := by
  unfold run? at h
  split at h
  · cases h
  · obtain ⟨rfl, _⟩ := Prod.mk.inj (Option.some.inj h)
    intro c hc
    exact List.all_eq_true.mp List.all_takeWhile c hc

/-- A run is not empty, and the text behind it is what is left. -/
theorem eq_append_of_run? {p : Char → Bool} {text word rest : Text}
    (h : run? p text = some (word, rest)) : word ≠ [] ∧ text = word ++ rest := by
  unfold run? at h
  split at h
  · cases h
  · rename_i hne
    obtain ⟨rfl, rfl⟩ := Prod.mk.inj (Option.some.inj h)
    exact ⟨hne, List.takeWhile_append_dropWhile.symm⟩

theorem after?_eq_none {s : Char} {start text : Text} (h : text.head? ≠ some s) :
    after? (s :: start) text = none := by
  cases text with
  | nil => rfl
  | cons c text =>
    have hc : s ≠ c := fun heq => h (by rw [heq]; rfl)
    exact if_neg hc

theorem after?_append {start text rest : Text} (h : after? start text = some rest) (more : Text) :
    after? start (text ++ more) = some (rest ++ more) := by
  rw [after?_eq_some] at h ⊢
  rw [h, List.append_assoc]

theorem dropWhile_append_of_ne_nil {p : Char → Bool} {text : Text} (h : text.dropWhile p ≠ [])
    (more : Text) : (text ++ more).dropWhile p = text.dropWhile p ++ more := by
  induction text with
  | nil => exact absurd rfl h
  | cons c text ih =>
    by_cases hc : p c = true
    · rw [List.dropWhile_cons_of_pos hc] at h ⊢
      rw [List.cons_append, List.dropWhile_cons_of_pos hc, ih h]
    · rw [List.cons_append, List.dropWhile_cons_of_neg hc, List.dropWhile_cons_of_neg hc,
        List.cons_append]

/-- Dropping a class of characters ends at the latest before one outside of it. -/
theorem dropWhile_append_cons {p : Char → Bool} {d : Char} (hd : p d = false)
    (word rest : Text) :
    ∃ left, left <:+ word ∧ (word ++ d :: rest).dropWhile p = left ++ d :: rest := by
  induction word with
  | nil => exact ⟨[], List.suffix_rfl, by simp [hd]⟩
  | cons c word ih =>
    by_cases hc : p c = true
    · obtain ⟨left, hleft, heq⟩ := ih
      refine ⟨left, hleft.trans (List.suffix_cons c word), ?_⟩
      rw [List.cons_append, List.dropWhile_cons_of_pos hc, heq]
    · refine ⟨c :: word, List.suffix_rfl, ?_⟩
      rw [List.cons_append, List.dropWhile_cons_of_neg hc]

end DepView.Text
