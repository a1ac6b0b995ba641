import DepView.Proofs.QuotedText

/-!
Lines and their endings. Lines that hold no line feed, each ended by one, are read
back as they are. Folding the line endings of a text works piece by piece, unless a
carriage return ends one piece and a line feed begins the next one.
-/

namespace DepView.Text

theorem splitAt_of_notMem {sep : Char} {text : Text} (h : sep ∉ text) :
    splitAt sep text = [text] := by
  induction text with
  | nil => rfl
  | cons c text ih =>
    have hc : c ≠ sep := fun heq => h (heq ▸ List.mem_cons_self ..)
    have htext : sep ∉ text := fun hmem => h (List.mem_cons_of_mem _ hmem)
    simp [splitAt, hc, ih htext]

/-- A text is cut at a separator in it and wherever its two parts are. -/
theorem splitAt_append (sep : Char) (a b : Text) :
    splitAt sep (a ++ sep :: b) = splitAt sep a ++ splitAt sep b := by
  induction a with
  | nil => simp [splitAt]
  | cons c a ih =>
    obtain ⟨piece, pieces, hpieces⟩ := List.exists_cons_of_ne_nil (splitAt_ne_nil sep a)
    rw [hpieces] at ih
    by_cases hc : c = sep
    · simp [splitAt, hc, ih, hpieces]
    · simp [splitAt, hc, ih, hpieces]

theorem splitAt_append_cons {sep : Char} {a : Text} (h : sep ∉ a) (b : Text) :
    splitAt sep (a ++ sep :: b) = a :: splitAt sep b := by
  rw [splitAt_append, splitAt_of_notMem h, List.singleton_append]

theorem notMem_of_mem_splitAt {sep : Char} {text piece : Text} (h : piece ∈ splitAt sep text) :
    sep ∉ piece := by
  induction text generalizing piece with
  | nil =>
    obtain rfl : piece = [] := by simpa [splitAt] using h
    exact List.not_mem_nil
  | cons c rest ih =>
    rw [splitAt] at h
    split at h
    · rcases List.mem_cons.mp h with rfl | hrest
      · exact List.not_mem_nil
      · exact ih hrest
    · rename_i hc
      split at h
      · exact absurd ‹_› (splitAt_ne_nil sep rest)
      · rename_i first pieces hrest
        rcases List.mem_cons.mp h with rfl | hpieces
        · rw [List.mem_cons, not_or]
          exact ⟨Ne.symm hc, ih (hrest ▸ List.mem_cons_self)⟩
        · exact ih (hrest ▸ List.mem_cons_of_mem first hpieces)

theorem prefix_of_head?_splitAt {sep : Char} {text piece : Text}
    (h : (splitAt sep text).head? = some piece) : piece <+: text := by
  induction text generalizing piece with
  | nil =>
    obtain rfl : [] = piece := by simpa [splitAt] using h
    exact List.nil_prefix
  | cons c rest ih =>
    rw [splitAt] at h
    split at h
    · obtain rfl : [] = piece := by simpa using h
      exact List.nil_prefix
    · split at h
      · exact absurd ‹_› (splitAt_ne_nil sep rest)
      · rename_i first pieces hrest
        obtain rfl : c :: first = piece := by simpa using h
        exact List.cons_prefix_cons.mpr ⟨rfl, ih (by rw [hrest, List.head?_cons])⟩

/-- A piece of a text is a stretch of it. -/
theorem infix_of_mem_splitAt {sep : Char} {text piece : Text} (h : piece ∈ splitAt sep text) :
    piece <:+: text := by
  induction text with
  | nil =>
    obtain rfl : piece = [] := by simpa [splitAt] using h
    exact List.infix_rfl
  | cons c rest ih =>
    rw [splitAt] at h
    split at h
    · rcases List.mem_cons.mp h with rfl | hrest
      · exact List.nil_infix
      · exact (ih hrest).trans (List.suffix_cons c rest).isInfix
    · split at h
      · exact absurd ‹_› (splitAt_ne_nil sep rest)
      · rename_i first pieces hrest
        rcases List.mem_cons.mp h with rfl | hpieces
        · have hfirst : first <+: rest := prefix_of_head?_splitAt (by rw [hrest, List.head?_cons])
          exact (List.cons_prefix_cons.mpr ⟨rfl, hfirst⟩).isInfix
        · have hmem : piece ∈ splitAt sep rest := hrest ▸ List.mem_cons_of_mem first hpieces
          exact (ih hmem).trans (List.suffix_cons c rest).isInfix

theorem lines_of_notMem {text : Text} (h : '\n' ∉ text) : lines text = [text] :=
  splitAt_of_notMem h

theorem lines_append (a b : Text) : lines (a ++ '\n' :: b) = lines a ++ lines b :=
  splitAt_append '\n' a b

/-- Every text is a last line, or a line that is ended by a line feed in front of a text. -/
@[elab_as_elim]
theorem lines_induction {motive : Text → Prop} (last : ∀ line, '\n' ∉ line → motive line)
    (ended : ∀ line rest, '\n' ∉ line → motive rest → motive (line ++ '\n' :: rest))
    (text : Text) : motive text := by
  by_cases h : '\n' ∈ text
  · obtain ⟨line, rest, htext, hline⟩ := List.eq_append_cons_of_mem h
    rw [htext]
    exact ended line rest hline (lines_induction last ended rest)
  · exact last text h
termination_by text.length
decreasing_by
  simp only [htext, List.length_append, List.length_cons]
  omega

/-- Lines that are ended by line feeds, and a last line that is not. -/
theorem lines_flatMap_append (texts : List Text) (h : ∀ line ∈ texts, '\n' ∉ line) {last : Text}
    (hlast : '\n' ∉ last) : lines (texts.flatMap (· ++ ['\n']) ++ last) = texts ++ [last] := by
  induction texts with
  | nil => exact splitAt_of_notMem hlast
  | cons line texts ih =>
    have hline : '\n' ∉ line := h line (List.mem_cons_self ..)
    have htexts := ih (fun l hl => h l (List.mem_cons_of_mem _ hl))
    unfold lines at htexts ⊢
    rw [List.flatMap_cons, List.append_assoc, List.append_assoc, List.singleton_append,
      splitAt_append_cons hline, htexts, List.cons_append]

theorem foldCrlf_crlf (rest : Text) : foldCrlf ('\r' :: '\n' :: rest) = '\n' :: foldCrlf rest := by
  rw [foldCrlf]

/-- A character stays unless it is a carriage return before a line feed. -/
theorem foldCrlf_cons {c : Char} {rest : Text} (h : c = '\r' → rest.head? ≠ some '\n') :
    foldCrlf (c :: rest) = c :: foldCrlf rest := by
  rw [foldCrlf]
  intro tail hc hrest
  apply h hc
  rw [hrest]
  rfl

theorem foldCrlf_of_lf_notMem {text : Text} (h : '\n' ∉ text) : foldCrlf text = text := by
  induction text with
  | nil => rfl
  | cons c text ih =>
    have htext : '\n' ∉ text := fun hmem => h (List.mem_cons_of_mem _ hmem)
    rw [foldCrlf_cons, ih htext]
    intro _ hhead
    exact htext (List.mem_of_mem_head? hhead)

theorem foldCrlf_of_cr_notMem {text : Text} (h : '\r' ∉ text) : foldCrlf text = text := by
  induction text with
  | nil => rfl
  | cons c text ih =>
    have hc : c ≠ '\r' := fun heq => h (heq ▸ List.mem_cons_self ..)
    have htext : '\r' ∉ text := fun hmem => h (List.mem_cons_of_mem _ hmem)
    rw [foldCrlf_cons (fun heq => False.elim (hc heq)), ih htext]

/-- Folding works on both parts of a text, unless a line ending is torn apart. -/
theorem foldCrlf_append {a b : Text} (h : a.getLast? = some '\r' → b.head? ≠ some '\n') :
    foldCrlf (a ++ b) = foldCrlf a ++ foldCrlf b := by
  fun_induction foldCrlf a with
  | case1 => rfl
  | case2 rest ih =>
    rw [List.cons_append, List.cons_append, foldCrlf_crlf, List.cons_append, ih]
    intro hlast
    apply h
    cases rest with
    | nil => simp at hlast
    | cons d rest => simpa only [List.getLast?_cons_cons] using hlast
  | case3 c rest hne ih =>
    have hcons : c = '\r' → (rest ++ b).head? ≠ some '\n' := by
      intro hc hhead
      cases rest with
      | nil =>
        subst hc
        exact h rfl hhead
      | cons d rest =>
        simp only [List.cons_append, List.head?_cons, Option.some.injEq] at hhead
        exact hne rest hc (by rw [hhead])
    rw [List.cons_append, foldCrlf_cons hcons, List.cons_append, ih]
    intro hlast
    apply h
    cases rest with
    | nil => simp at hlast
    | cons d rest => simpa only [List.getLast?_cons_cons] using hlast

theorem foldCrlf_append_cons {c : Char} (hc : c ≠ '\n') (a b : Text) :
    foldCrlf (a ++ c :: b) = foldCrlf a ++ foldCrlf (c :: b) := by
  apply foldCrlf_append
  intro _ hhead
  exact hc (by simpa using hhead)

theorem head?_written_ne_lf {c : Char} (hc : c ≠ '\n') (rest : Text) :
    (Quoted.written c ++ rest).head? ≠ some '\n' := by
  by_cases h : c = '\\' ∨ c = '"'
  · simp [Quoted.written_of_special h]
  · simpa [Quoted.written_of_plain h] using hc

/-- No line ending is made or torn by escaping. -/
theorem foldCrlf_escape (text : Text) :
    foldCrlf (Quoted.escape text) = Quoted.escape (foldCrlf text) := by
  fun_induction foldCrlf text with
  | case1 => rfl
  | case2 rest ih =>
    have hcr : Quoted.written '\r' = ['\r'] := rfl
    have hlf : Quoted.written '\n' = ['\n'] := rfl
    rw [Quoted.escape_cons, Quoted.escape_cons, Quoted.escape_cons, hcr, hlf]
    simp only [List.cons_append, List.nil_append, foldCrlf_crlf, ih]
  | case3 c rest hne ih =>
    have hfold : foldCrlf (Quoted.written c) = Quoted.written c := by
      by_cases hc : c = '\\' ∨ c = '"'
      · rw [Quoted.written_of_special hc]
        apply foldCrlf_of_cr_notMem
        rcases hc with rfl | rfl <;> decide
      · rw [Quoted.written_of_plain hc]
        exact foldCrlf_cons (by simp)
    rw [Quoted.escape_cons, foldCrlf_append, hfold, ih, Quoted.escape_cons]
    intro hlast
    have hc : c = '\r' := by
      by_cases hc : c = '\\' ∨ c = '"'
      · simp only [Quoted.written_of_special hc, List.getLast?_cons_cons,
          List.getLast?_singleton, Option.some.injEq] at hlast
        exact hlast
      · simpa [Quoted.written_of_plain hc] using hlast
    cases rest with
    | nil => simp [Quoted.escape]
    | cons d rest =>
      have hd : d ≠ '\n' := fun heq => hne rest hc (by rw [heq])
      rw [Quoted.escape_cons]
      exact head?_written_ne_lf hd (Quoted.escape rest)

/-! Stretches of a text that hold no separator. -/

theorem infix_append_cons {sep : Char} {part : Text} (h : sep ∉ part) (a b : Text) :
    part <:+: a ++ sep :: b ↔ part <:+: a ∨ part <:+: b := by
  constructor
  · rintro ⟨before, behind, heq⟩
    rcases List.append_eq_append_iff.mp heq with ⟨rest, ha, _⟩ | ⟨rest, ha, hrest⟩
    · exact Or.inl ⟨before, rest, ha.symm⟩
    · cases rest with
      | nil => exact Or.inl ⟨before, [], by simpa using ha⟩
      | cons c rest =>
        obtain ⟨rfl, rfl⟩ := List.cons.inj hrest
        rcases List.append_eq_append_iff.mp ha with ⟨left, _, hpart⟩ | ⟨left, _, hpart⟩
        · exact absurd (hpart ▸ List.mem_append_right left List.mem_cons_self) h
        · cases left with
          | nil => exact absurd ((List.nil_append part ▸ hpart) ▸ List.mem_cons_self) h
          | cons d left =>
            obtain ⟨_, rfl⟩ := List.cons.inj hpart
            exact Or.inr ⟨left, behind, rfl⟩
  · rintro (ha | hb)
    · exact ha.trans (List.prefix_append a _).isInfix
    · exact hb.trans ((List.suffix_cons sep b).trans (List.suffix_append a _)).isInfix

/-- A stretch without a line feed is in a line. -/
theorem infix_iff_lines {part : Text} (h : '\n' ∉ part) (text : Text) :
    part <:+: text ↔ ∃ line ∈ lines text, part <:+: line := by
  induction text using lines_induction with
  | last line hline => simp [lines_of_notMem hline]
  | ended line rest hline ih =>
    rw [infix_append_cons h, ih, lines_append, lines_of_notMem hline]
    simp

theorem prefix_of_prefix_foldCrlf {part text : Text} (hlf : '\n' ∉ part)
    (h : part <+: foldCrlf text) : part <+: text := by
  induction part generalizing text with
  | nil => exact List.nil_prefix
  | cons p part ih =>
    rw [List.mem_cons, not_or] at hlf
    fun_cases foldCrlf text with
    | case1 => exact h
    | case2 rest =>
      rw [foldCrlf_crlf, List.cons_prefix_cons] at h
      exact absurd h.1.symm hlf.1
    | case3 c rest hne =>
      rw [foldCrlf.eq_3 c rest hne, List.cons_prefix_cons] at h
      exact List.cons_prefix_cons.mpr ⟨h.1, ih hlf.2 h.2⟩

theorem mem_of_prefix_cons {c : Char} {part rest : Text} (hne : part ≠ [])
    (h : part <+: c :: rest) : c ∈ part := by
  cases part with
  | nil => exact absurd rfl hne
  | cons d part => exact (List.cons_prefix_cons.mp h).1 ▸ List.mem_cons_self

/-- Folding line endings makes and destroys no stretch without them. -/
theorem infix_foldCrlf {front : Text} {last : Char} (hlf : '\n' ∉ front ++ [last])
    (hlast : last ≠ '\r') (text : Text) :
    front ++ [last] <:+: foldCrlf text ↔ front ++ [last] <:+: text := by
  constructor
  · intro h
    fun_induction foldCrlf text with
    | case1 => exact h
    | case2 rest ih =>
      have hskip := (List.suffix_cons '\n' rest).trans (List.suffix_cons '\r' _)
      rcases List.infix_cons_iff.mp h with hprefix | hinfix
      · exact absurd (mem_of_prefix_cons (by simp) hprefix) hlf
      · exact (ih hinfix).trans hskip.isInfix
    | case3 c rest hne ih =>
      rcases List.infix_cons_iff.mp h with hprefix | hinfix
      · rw [← foldCrlf.eq_3 c rest hne] at hprefix
        exact (prefix_of_prefix_foldCrlf hlf hprefix).isInfix
      · exact (ih hinfix).trans (List.suffix_cons c rest).isInfix
  · rintro ⟨before, behind, rfl⟩
    have hhead : (front ++ [last] ++ behind).head? ≠ some '\n' := by
      obtain ⟨c, part, hcons⟩ := List.exists_cons_of_ne_nil (List.append_ne_nil_of_right_ne_nil
        front (List.cons_ne_nil last []))
      rw [hcons, List.mem_cons, not_or] at hlf
      rw [hcons, List.cons_append, List.head?_cons]
      exact fun heq => hlf.1 (Option.some.inj heq).symm
    rw [List.append_assoc, foldCrlf_append fun _ => hhead, foldCrlf_append (by simp [hlast]),
      foldCrlf_of_lf_notMem hlf]
    exact ⟨foldCrlf before, foldCrlf behind, by simp⟩

end DepView.Text
