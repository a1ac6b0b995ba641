import DepView.Overlay.View

/-!
The tokens of an overlay over whole runs. What was said in a run tells for which token
an answer is awaited: the token of the last activation, unless an answer has counted
since, or the overlay was closed. The overlay keeps one generation and one content, and
these agree with what was said after every operation.
-/

namespace DepView.Overlay

/-- An operation, and what its caller was told. -/
structure Exchange where
  operation : Operation
  reply : Reply

namespace Exchange

/-- The token that is given out in an exchange. -/
def token? (e : Exchange) : Option Nat :=
  match e.operation, e.reply with
  | .activate _, .token token => some token
  | _, _ => none

/-- What ends the wait for an answer: a new load, an answer that counts, or closing the
overlay. -/
def endsWait (e : Exchange) : Bool :=
  match e.operation with
  | .activate _ => true
  | .resolve _ _ _ => e.reply = .counted true
  | .fail _ _ => e.reply = .counted true
  | .dismiss => true
  | .click region => region ≠ .content

end Exchange

/-- The tokens that were given out, in order. -/
def tokens (past : List Exchange) : List Nat :=
  past.filterMap Exchange.token?

/-- A token is awaited if the last activation gave it out and nothing has ended the wait
since. -/
def Awaited (past : List Exchange) (token : Int) : Prop :=
  ∃ before node, ∃ given : Nat, ∃ after, past = before ++ ⟨.activate node, .token given⟩ :: after ∧
    token = given ∧ ∀ e ∈ after, e.endsWait = false

namespace View

def run (v : View) (operations : List Operation) : View :=
  operations.foldl apply v

/-- All that is said in a run. -/
def exchanges (v : View) : List Operation → List Exchange
  | [] => []
  | op :: operations => ⟨op, v.reply op⟩ :: (v.apply op).exchanges operations

end View

/-! One operation. -/

theorem generation_dismiss_le (v : View) : v.generation ≤ v.dismiss.generation := by
  unfold View.dismiss
  cases v.content with
  | loading title => exact Nat.le_succ v.generation
  | _ => exact Nat.le_refl v.generation

theorem isCurrent_dismiss (v : View) (token : Int) : v.dismiss.isCurrent token = false := by
  unfold View.dismiss
  cases h : v.content with
  | idle => simp [View.isCurrent, h]
  | _ => rfl

theorem generation_apply_le (v : View) (op : Operation) :
    v.generation ≤ (v.apply op).generation := by
  cases op with
  | activate node => exact Nat.le_succ v.generation
  | resolve token text source =>
    by_cases h : v.isCurrent token = true <;> simp [View.apply, View.resolve, h]
  | fail token reason =>
    by_cases h : v.isCurrent token = true <;> simp [View.apply, View.fail, h]
  | dismiss => exact generation_dismiss_le v
  | click region =>
    cases region with
    | content => exact Nat.le_refl v.generation
    | _ => exact generation_dismiss_le v

/-- An answer that does not count changes nothing, and the renderer is told nothing. -/
theorem apply_of_not_counted {v : View} {op : Operation} (h : v.reply op = .counted false) :
    v.apply op = v ∧ v.drawings op = [] := by
  cases op with
  | resolve token text source =>
    have hcurrent : v.isCurrent token = false := by simpa [View.reply] using h
    simp [View.apply, View.resolve, View.drawings, hcurrent]
  | fail token reason =>
    have hcurrent : v.isCurrent token = false := by simpa [View.reply] using h
    simp [View.apply, View.fail, View.drawings, hcurrent]
  | _ => cases h

theorem resolve_of_current {v : View} {token : Int} (h : v.isCurrent token = true) (text : Text)
    (source : Option Text) :
    v.resolve token text source =
      { v with content := .displaying v.title text source (v.layoutOf text) } :=
  if_pos h

theorem fail_of_current {v : View} {token : Int} (h : v.isCurrent token = true)
    (reason : Option Text) :
    v.fail token reason = { v with content := .failed v.title reason } :=
  if_pos h

/-- Once an answer counts, no answer is awaited. -/
theorem isCurrent_resolve {v : View} {token : Int} (h : v.isCurrent token = true) (text : Text)
    (source : Option Text) (other : Int) :
    (v.resolve token text source).isCurrent other = false := by
  rw [resolve_of_current h]
  rfl

theorem isCurrent_fail {v : View} {token : Int} (h : v.isCurrent token = true)
    (reason : Option Text) (other : Int) : (v.fail token reason).isCurrent other = false := by
  rw [fail_of_current h]
  rfl

/-- After an operation a token is current if the operation gave it out, or if it was
current before and the operation did not end the wait. -/
theorem isCurrent_apply (v : View) (op : Operation) (token : Int) :
    (v.apply op).isCurrent token = true ↔
      ((∃ node, op = .activate node) ∧ token = (v.generation + 1 : Nat)) ∨
        (v.isCurrent token = true ∧ Exchange.endsWait ⟨op, v.reply op⟩ = false) := by
  cases op with
  | activate node => simp [View.apply, View.activate, View.isCurrent, Exchange.endsWait]
  | resolve other text source =>
    by_cases h : v.isCurrent other = true
    · simp [View.apply, isCurrent_resolve h, View.reply, Exchange.endsWait, h]
    · simp [View.apply, View.resolve, View.reply, Exchange.endsWait, h]
  | fail other reason =>
    by_cases h : v.isCurrent other = true
    · simp [View.apply, isCurrent_fail h, View.reply, Exchange.endsWait, h]
    · simp [View.apply, View.fail, View.reply, Exchange.endsWait, h]
  | dismiss => simp [View.apply, isCurrent_dismiss, Exchange.endsWait]
  | click region =>
    cases region with
    | content => simp [View.apply, View.click, Exchange.endsWait]
    | _ => simp [View.apply, View.click, isCurrent_dismiss, Exchange.endsWait]

/-! One exchange more. -/

theorem awaited_concat (past : List Exchange) (e : Exchange) (token : Int) :
    Awaited (past ++ [e]) token ↔
      (∃ node given, e = ⟨.activate node, .token given⟩ ∧ token = (given : Int)) ∨
        (Awaited past token ∧ e.endsWait = false) := by
  constructor
  · rintro ⟨before, node, given, after, hpast, htoken, hafter⟩
    rcases List.eq_nil_or_concat after with rfl | ⟨init, last, rfl⟩
    · obtain ⟨_, hlast⟩ := List.append_inj' hpast rfl
      exact Or.inl ⟨node, given, List.singleton_inj.mp hlast, htoken⟩
    · have hsplit : past ++ [e] = (before ++ ⟨.activate node, .token given⟩ :: init) ++ [last] := by
        simpa using hpast
      obtain ⟨hinit, hlast⟩ := List.append_inj' hsplit rfl
      have he : e = last := List.singleton_inj.mp hlast
      refine Or.inr ⟨⟨before, node, given, init, hinit, htoken, ?_⟩, ?_⟩
      · intro d hd
        exact hafter d (by simp [hd])
      · rw [he]
        exact hafter last (by simp)
  · rintro (⟨node, given, rfl, htoken⟩ | ⟨⟨before, node, given, after, rfl, htoken, hafter⟩, he⟩)
    · exact ⟨past, node, given, [], rfl, htoken, fun d hd => by cases hd⟩
    · refine ⟨before, node, given, after ++ [e], by simp, htoken, ?_⟩
      intro d hd
      rcases List.mem_append.mp hd with hd | hd
      · exact hafter d hd
      · rw [List.mem_singleton.mp hd]
        exact he

theorem tokens_concat (past : List Exchange) (e : Exchange) :
    tokens (past ++ [e]) = tokens past ++ e.token?.toList := by
  cases h : e.token? with
  | none => simp [tokens, h]
  | some token => simp [tokens, h]

/-- A token is given out by an activation only, and it is the new generation. -/
theorem mem_token?_reply {v : View} {op : Operation} {token : Nat}
    (h : token ∈ (Exchange.token? ⟨op, v.reply op⟩).toList) :
    token = v.generation + 1 ∧ (v.apply op).generation = v.generation + 1 := by
  cases op with
  | activate node => exact ⟨List.mem_singleton.mp h, rfl⟩
  | _ => cases h

/-! Whole runs. -/

/-- What was said agrees with what the overlay keeps. -/
structure Agrees (v : View) (past : List Exchange) : Prop where
  isCurrent_iff : ∀ token, v.isCurrent token = true ↔ Awaited past token
  increasing : (tokens past).Pairwise (· < ·)
  token_le : ∀ token ∈ tokens past, token ≤ v.generation

theorem agrees_initial (settings : HierarchySettings) (renderer : Renderer) :
    Agrees (.initial settings renderer) [] := by
  refine ⟨?_, List.Pairwise.nil, fun token h => by cases h⟩
  intro token
  constructor
  · intro h
    cases h
  · rintro ⟨before, node, given, after, hpast, _⟩
    simp at hpast

theorem Agrees.apply {v : View} {past : List Exchange} (h : Agrees v past) (op : Operation) :
    Agrees (v.apply op) (past ++ [⟨op, v.reply op⟩]) := by
  refine ⟨?_, ?_, ?_⟩
  · intro token
    rw [isCurrent_apply, awaited_concat, h.isCurrent_iff]
    have hgiven : ((∃ node, op = .activate node) ∧ token = (v.generation + 1 : Nat)) ↔
        ∃ node given, Exchange.mk op (v.reply op) = ⟨.activate node, .token given⟩ ∧
          token = (given : Int) := by
      constructor
      · rintro ⟨⟨node, rfl⟩, htoken⟩
        exact ⟨node, v.generation + 1, rfl, htoken⟩
      · rintro ⟨node, given, heq, htoken⟩
        rw [Exchange.mk.injEq] at heq
        obtain ⟨rfl, hreply⟩ := heq
        cases hreply
        exact ⟨⟨node, rfl⟩, htoken⟩
    rw [hgiven]
  · rw [tokens_concat, List.pairwise_append]
    refine ⟨h.increasing, ?_, ?_⟩
    · cases Exchange.token? ⟨op, v.reply op⟩ with
      | none => exact List.Pairwise.nil
      | some token => exact List.pairwise_singleton _ _
    · intro old hold new hnew
      have hbound := h.token_le old hold
      obtain ⟨hgeneration, _⟩ := mem_token?_reply hnew
      omega
  · intro token htoken
    rw [tokens_concat, List.mem_append] at htoken
    rcases htoken with hold | hnew
    · exact Nat.le_trans (h.token_le token hold) (generation_apply_le v op)
    · obtain ⟨hgeneration, happly⟩ := mem_token?_reply hnew
      omega

theorem Agrees.run {v : View} {past : List Exchange} (h : Agrees v past)
    (operations : List Operation) :
    Agrees (v.run operations) (past ++ v.exchanges operations) := by
  induction operations generalizing v past with
  | nil => simpa [View.run, View.exchanges] using h
  | cons op operations ih =>
    have hrest := ih (h.apply op)
    simpa [View.run, View.exchanges] using hrest

theorem generation_run_le (v : View) (operations : List Operation) :
    v.generation ≤ (v.run operations).generation := by
  induction operations generalizing v with
  | nil => exact Nat.le_refl v.generation
  | cons op operations ih => exact Nat.le_trans (generation_apply_le v op) (ih (v.apply op))

/-- After every run the generation only grows, all tokens were given out in increasing
order, and an answer counts if and only if its token is awaited. An answer that does not
count changes nothing, nor does a click on the content or closing an idle overlay. -/
theorem token_discipline (settings : HierarchySettings) (renderer : Renderer)
    (operations : List Operation) :
    let v := (View.initial settings renderer).run operations
    let past := (View.initial settings renderer).exchanges operations
    (∀ later, v.generation ≤ (v.run later).generation) ∧
      (tokens past).Pairwise (· < ·) ∧
      (∀ token text source,
        v.reply (.resolve token text source) = .counted true ↔ Awaited past token) ∧
      (∀ token reason, v.reply (.fail token reason) = .counted true ↔ Awaited past token) ∧
      (∀ op, v.reply op = .counted false → v.apply op = v ∧ v.drawings op = []) ∧
      (v.apply (.click .content) = v ∧ v.drawings (.click .content) = []) ∧
      (v.content = .idle → v.apply .dismiss = v ∧ v.drawings .dismiss = []) := by
  intro v past
  have hagrees : Agrees v past := (agrees_initial settings renderer).run operations
  refine ⟨generation_run_le v, hagrees.increasing, ?_, ?_, fun op => apply_of_not_counted,
    ⟨rfl, rfl⟩, ?_⟩
  · intro token text source
    rw [← hagrees.isCurrent_iff]
    simp [View.reply]
  · intro token reason
    rw [← hagrees.isCurrent_iff]
    simp [View.reply]
  · intro hidle
    simp [View.apply, View.dismiss, View.drawings, View.dismissDrawings, hidle]

end DepView.Overlay
