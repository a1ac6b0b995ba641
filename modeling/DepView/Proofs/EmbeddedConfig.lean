import DepView.Proofs.GuardedText
import DepView.Proofs.JsonAscii
import DepView.Proofs.WrittenJson

/-!
The configuration within the viewer page. The placeholder stands once in the template, and only
there is it replaced: a configuration that holds the text of the placeholder stays as it is. What
stands in its place cannot end the script, and a reader of JSON makes the same of it as of the
configuration that was not guarded.
-/

namespace DepView.Text

/-! A part that stands once in a text. -/

theorem holds_iff {part text : Text} : holds part text = true ↔ part <:+: text := by
  induction text with
  | nil => simp [holds]
  | cons c rest ih =>
    have hhead : (after? part (c :: rest)).isSome = true ↔ part <+: c :: rest := by
      rw [Option.isSome_iff_exists]
      exact exists_congr fun behind => after?_eq_some.trans eq_comm
    rw [holds, Bool.or_eq_true, ih, List.infix_cons_iff, hhead]

/-- A part stands only where it was put, if it does not reach over into what is before it or into
what is behind it. -/
theorem eq_of_append_part {part front back a b : Text}
    (hfront : holds part (front ++ part.dropLast) = false)
    (hback : holds part (part.tail ++ back) = false)
    (h : front ++ part ++ back = a ++ part ++ b) : a = front ∧ b = back := by
  have hlength := congrArg List.length h
  simp only [List.length_append] at hlength
  have hnone : ∀ {text}, holds part text = false → ¬ part <:+: text := fun hholds hstands =>
    Bool.false_ne_true (hholds.symm.trans (holds_iff.mpr hstands))
  have hpart : 0 < part.length := by
    rw [List.length_pos_iff]
    rintro rfl
    exact hnone hback List.nil_infix
  rcases Nat.lt_trichotomy a.length front.length with hlt | heq | hgt
  · have hstart : a ++ part <+: front ++ part ++ back := h ▸ List.prefix_append _ _
    have hreach : front ++ part.dropLast <+: front ++ part ++ back := by
      rw [List.append_assoc]
      exact (List.prefix_append_right_inj front).mpr
        ((List.dropLast_prefix part).trans (List.prefix_append part back))
    have hwithin := List.prefix_of_prefix_length_le hstart hreach (by
      simp only [List.length_append, List.length_dropLast]
      omega)
    exact absurd ((List.suffix_append a part).isInfix.trans hwithin.isInfix) (hnone hfront)
  · obtain ⟨hfirst, hb⟩ := List.append_inj h (by simp only [List.length_append]; omega)
    exact ⟨(List.append_inj hfirst heq.symm).1.symm, hb.symm⟩
  · have hstart : part ++ b <:+ front ++ part ++ back := by
      rw [h, List.append_assoc]
      exact List.suffix_append _ _
    have hreach : part.tail ++ back <:+ front ++ part ++ back := by
      obtain ⟨first, hfirst⟩ := List.tail_suffix part
      exact ⟨front ++ first, by rw [List.append_assoc, ← List.append_assoc first, hfirst,
        List.append_assoc]⟩
    have hwithin := List.suffix_of_suffix_length_le hstart hreach (by
      simp only [List.length_append, List.length_tail]
      omega)
    exact absurd ((List.prefix_append part b).isInfix.trans hwithin.isInfix) (hnone hback)

theorem match?_exactly_eq_none {part text : Text} (hpart : part ≠ []) (h : ¬ part <+: text) :
    (Pattern.exactly part hpart).match? text = none := by
  refine Option.map_eq_none_iff.mpr (Option.eq_none_iff_forall_ne_some.mpr ?_)
  intro behind hbehind
  exact h ⟨behind, (after?_eq_some.mp hbehind).symm⟩

/-- A text without the part stays as it is. -/
theorem replaceAll_of_absent {part : Text} (hpart : part ≠ []) (write : Unit → Text) {text : Text}
    (h : ¬ part <:+: text) : (Pattern.exactly part hpart).replaceAll write text = text := by
  induction text with
  | nil => exact Pattern.replaceAll_nil _ write
  | cons c text ih =>
    rw [List.infix_cons_iff, not_or] at h
    rw [Pattern.replaceAll_cons_of_none _ write (match?_exactly_eq_none hpart h.1), ih h.2]

/-- A part that stands once is replaced once. -/
theorem replaceAll_exactly {part : Text} (hpart : part ≠ []) (write : Unit → Text)
    {front back : Text} (h : ∀ a b, front ++ part ++ back = a ++ part ++ b → a = front) :
    (Pattern.exactly part hpart).replaceAll write (front ++ part ++ back) =
      front ++ write () ++ back := by
  induction front with
  | nil =>
    have hmatch : (Pattern.exactly part hpart).match? (part ++ back) = some ((), back) :=
      Option.map_eq_some_iff.mpr ⟨back, after?_eq_some.mpr rfl, rfl⟩
    have habsent : ¬ part <:+: back := by
      rintro ⟨a, b, rfl⟩
      have hnil := h (part ++ a) b (by simp)
      exact hpart (List.append_eq_nil_iff.mp hnil).1
    rw [List.nil_append, List.nil_append, Pattern.replaceAll_of_match _ write hmatch,
      replaceAll_of_absent hpart write habsent]
  | cons c front ih =>
    have habsent : ¬ part <+: c :: (front ++ part ++ back) := by
      rintro ⟨behind, hbehind⟩
      cases h [] behind hbehind.symm
    have hrest := ih fun a b hab => (List.cons.inj (h (c :: a) b (congrArg (c :: ·) hab))).2
    rw [List.cons_append, List.cons_append,
      Pattern.replaceAll_cons_of_none _ write (match?_exactly_eq_none hpart habsent), hrest,
      List.cons_append, List.cons_append]

end DepView.Text

namespace DepView.Page

open Json Text

/-! The place of the configuration. -/

-- The characters of the page are those of its literal; they are taken from there, not decoded.
set_option maxRecDepth 100000 in
theorem holds_head : holds placeholder (head.toList ++ placeholder.dropLast) = false :=
  (congrArg (fun text => holds placeholder (text ++ placeholder.dropLast))
    String.toList_ofList).trans (by decide +kernel)

set_option maxRecDepth 100000 in
theorem holds_tail : holds placeholder (placeholder.tail ++ tail.toList) = false :=
  (congrArg (fun text => holds placeholder (placeholder.tail ++ text))
    String.toList_ofList).trans (by decide +kernel)

/-- The placeholder stands in the template once. -/
theorem template_eq_iff (a b : Text) :
    template = a ++ placeholder ++ b ↔ a = head.toList ∧ b = tail.toList := by
  constructor
  · exact eq_of_append_part holds_head holds_tail
  · rintro ⟨ha, hb⟩
    rw [template, ha, hb]

theorem render_eq (config : Json) :
    render config = head.toList ++ payload config ++ tail.toList :=
  replaceAll_exactly placeholder_ne_nil (fun _ => payload config)
    fun a b h => ((template_eq_iff a b).mp h).1

/-! What stands there. -/

theorem isVisible_payload (config : Json) : IsVisible (payload config) := by
  intro c hc
  rcases mem_guardClosing hc with hmem | rfl
  · exact isVisible_compact config c hmem
  · decide

/-- A guarded text is read as the text is. -/
theorem read_payload {number : Float → Float} (hnumber : ReadsFloats number) (config : Json) :
    Json.read (payload config) = .ok (readBack number config) := by
  have hspells := spells_guardClosing (spells_compact hnumber config)
  exact hspells.skip.read rfl

/-- A page shows a payload for a configuration. The payload stands in the place of the only
placeholder of the template, cannot end a line or the script, and is read as the configuration. -/
structure Shows (config : Json) (shown page : Text) : Prop where
  place : ∃ front back, (∀ a b, template = a ++ placeholder ++ b ↔ a = front ∧ b = back) ∧
    page = front ++ shown ++ back
  ascii : IsAscii shown
  lineFeed : '\n' ∉ shown
  carriageReturn : '\r' ∉ shown
  closing : holds ['<', '/'] shown = false
  decoded : ∃ number, Json.read shown = .ok (readBack number config) ∧
    Json.read config.compact = .ok (readBack number config)

/-- Whatever its texts are, a configuration stands in its page as it was. -/
theorem shows_render (config : Json) : Shows config (payload config) (render config) := by
  obtain ⟨number, hnumber⟩ := exists_readsFloats
  have hvisible := isVisible_payload config
  constructor
  · exact ⟨head.toList, tail.toList, template_eq_iff, render_eq config⟩
  · exact hvisible.isAscii
  · exact fun hc => absurd (hvisible '\n' hc) (by decide)
  · exact fun hc => absurd (hvisible '\r' hc) (by decide)
  · exact holds_guardClosing config.compact
  · exact ⟨number, read_payload hnumber config, read_compact hnumber config⟩

end DepView.Page
