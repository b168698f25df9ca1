import ScadText.Token.Lexer

/-!
# Runs of the lexer

The machine may change its mode before it emits a token, so what it emits next is a relation between
two states. A run chains such steps, and stands between any two tokens of a source.

## Main definitions

* `Emits`: from one state the next token is emitted, which leads to another state.
* `Run`: the same for several tokens.

## Main statements

* `Emits.consumes`: the token is the text between the two states.
* `exists_run_of_tokens_eq`: every cut of the tokens of a state belongs to a run.
-/

namespace ScadText.Lexer

variable {s t u : State} {token : Token} {tokens others : List Token}

/-! ## One action -/

theorem State.step_of_enter {c : Char} {cs : List Char} {mode : Mode} (hr : s.rest = c :: cs)
    (ha : s.mode.action s.depth c cs = .enter mode) : s.step = (none, { s with mode }) := by
  simp only [State.step, hr, ha]

theorem State.step_of_emit {c : Char} {cs : List Char} {kind : TokenKind} {n : Nat} {next : Mode}
    (hr : s.rest = c :: cs) (ha : s.mode.action s.depth c cs = .emit kind n next) :
    s.step = (some ⟨kind, s.rest.take n, s.position, s.position.after (s.rest.take n)⟩,
      ⟨next, 0, s.position.after (s.rest.take n), s.rest.drop n⟩) := by
  simp only [State.step, hr, ha]

/-- An action of the machine enters a mode or emits a text that is not empty. -/
theorem State.step_cases (h : s.rest ≠ []) :
    (∃ mode, s.step = (none, { s with mode })) ∨
    ∃ kind n next, 1 ≤ n ∧
      s.step = (some ⟨kind, s.rest.take n, s.position, s.position.after (s.rest.take n)⟩,
        ⟨next, 0, s.position.after (s.rest.take n), s.rest.drop n⟩) := by
  obtain ⟨c, cs, hr⟩ := List.exists_cons_of_ne_nil h
  cases ha : s.mode.action s.depth c cs with
  | enter mode => exact .inl ⟨mode, State.step_of_enter hr ha⟩
  | emit kind n next =>
    exact .inr ⟨kind, n, next, action_emit_pos ha, State.step_of_emit hr ha⟩

theorem State.step_of_end (h : s.rest = []) : s.step = (none, s) := by
  simp only [State.step, h]

/-! ## The next token -/

/-- From `s` the machine emits `token`, maybe after a change of mode, and then stands at `t`. -/
inductive Emits : State → Token → State → Prop where
  | now {s t : State} {token : Token} (step : s.step = (some token, t)) : Emits s token t
  | later {s t u : State} {token : Token} (ahead : s.rest ≠ []) (step : s.step = (none, t))
      (emits : Emits t token u) : Emits s token u

/-- The token which is emitted is the text that lies between the two states. -/
structure Consumes (s : State) (token : Token) (t : State) : Prop where
  text_ne_nil : token.text ≠ []
  rest_eq : s.rest = token.text ++ t.rest
  start_eq : token.start = s.position
  stop_eq : token.stop = s.position.after token.text
  position_eq : t.position = token.stop
  depth_eq : t.depth = 0

theorem Emits.consumes (h : Emits s token t) : Consumes s token t := by
  induction h with
  | @now s t token step =>
    have ahead : s.rest ≠ [] := by
      intro hr
      simp [State.step_of_end hr] at step
    obtain ⟨mode, hs⟩ | ⟨kind, n, next, hn, hs⟩ := State.step_cases ahead
    · simp [hs] at step
    · rw [hs, Prod.mk.injEq, Option.some.injEq] at step
      obtain ⟨rfl, rfl⟩ := step
      refine ⟨?_, (List.take_append_drop n s.rest).symm, rfl, rfl, rfl, rfl⟩
      have := List.length_pos_iff.mpr ahead
      rw [ne_eq, List.take_eq_nil_iff]
      rintro (h | h)
      · omega
      · exact ahead h
  | later ahead step _ ih =>
    obtain ⟨mode, hs⟩ | ⟨_, _, _, _, hs⟩ := State.step_cases ahead
    · rw [hs, Prod.mk.injEq] at step
      obtain ⟨-, rfl⟩ := step
      exact ⟨ih.text_ne_nil, ih.rest_eq, ih.start_eq, ih.stop_eq, ih.position_eq, ih.depth_eq⟩
    · simp [hs] at step

theorem Consumes.token_eq (h : Consumes s token t) :
    ⟨token.kind, token.text, s.position, s.position.after token.text⟩ = token := by
  rw [← h.stop_eq, ← h.start_eq]

theorem Consumes.state_eq (h : Consumes s token t) :
    ⟨t.mode, 0, s.position.after token.text, t.rest⟩ = t := by
  rw [← h.stop_eq, ← h.position_eq, ← h.depth_eq]

/-- The machine is deterministic. -/
theorem Emits.unique {other : Token} (h : Emits s token t) (g : Emits s other u) :
    token = other ∧ t = u := by
  induction h with
  | now step =>
    cases g with
    | now step' => simpa [step] using step'
    | later _ step' _ => simp [step] at step'
  | later _ step _ ih =>
    cases g with
    | now step' => simp [step] at step'
    | later _ step' emits =>
      rw [step, Prod.mk.injEq] at step'
      obtain ⟨-, rfl⟩ := step'
      exact ih emits

theorem Emits.rest_ne_nil (h : Emits s token t) : s.rest ≠ [] := by
  intro hr
  have := h.consumes.rest_eq
  simp [hr, h.consumes.text_ne_nil] at this

theorem Emits.tokens_eq (h : Emits s token t) : s.tokens = token :: t.tokens := by
  induction h with
  | @now s t token step =>
    have ahead := (Emits.now step).rest_ne_nil
    rw [State.tokens, if_neg ahead, step]
  | later ahead step _ ih => rw [State.tokens, if_neg ahead, step, ih]

/-- In front of a text there is a next token, since every change of mode lowers the bound. -/
theorem exists_emits (s : State) (h : s.rest ≠ []) : ∃ token t, Emits s token t := by
  cases hs : s.step with
  | mk emitted t =>
    cases emitted with
    | some token => exact ⟨token, t, .now hs⟩
    | none =>
      have lower := State.measure_step_lt h
      have ht : t.rest ≠ [] := by
        obtain ⟨mode, he⟩ | ⟨_, _, _, _, he⟩ := State.step_cases h
        · rw [he, Prod.mk.injEq] at hs
          obtain ⟨-, rfl⟩ := hs
          exact h
        · simp [he] at hs
      have shorter : t.measure < s.measure := by simpa only [hs] using lower
      obtain ⟨token, u, emits⟩ := exists_emits t ht
      exact ⟨token, u, .later h hs emits⟩
termination_by s.measure

theorem tokens_eq_nil_iff : s.tokens = [] ↔ s.rest = [] := by
  constructor
  · intro h
    by_cases hr : s.rest = []
    · exact hr
    · obtain ⟨token, t, emits⟩ := exists_emits s hr
      simp [emits.tokens_eq] at h
  · intro h
    rw [State.tokens, if_pos h]

theorem exists_emits_of_tokens_eq (h : s.tokens = token :: tokens) :
    ∃ t, Emits s token t ∧ t.tokens = tokens := by
  have hr : s.rest ≠ [] := by
    intro hr
    simp [tokens_eq_nil_iff.mpr hr] at h
  obtain ⟨first, t, emits⟩ := exists_emits s hr
  rw [emits.tokens_eq, List.cons.injEq] at h
  obtain ⟨rfl, rfl⟩ := h
  exact ⟨t, emits, rfl⟩

/-! ## Several tokens -/

/-- From `s` the machine emits `tokens`, one after another, and then stands at `t`. -/
inductive Run : State → List Token → State → Prop where
  | nil (s : State) : Run s [] s
  | cons {s t u : State} {token : Token} {tokens : List Token} (emits : Emits s token t)
      (run : Run t tokens u) : Run s (token :: tokens) u

theorem Run.single (h : Emits s token t) : Run s [token] t := .cons h (.nil t)

theorem Run.trans (h : Run s tokens t) (g : Run t others u) : Run s (tokens ++ others) u := by
  induction h with
  | nil => exact g
  | cons emits _ ih => exact .cons emits (ih g)

theorem Run.tokens_eq (h : Run s tokens t) : s.tokens = tokens ++ t.tokens := by
  induction h with
  | nil => rfl
  | cons emits _ ih => rw [emits.tokens_eq, ih, List.cons_append]

/-- Every cut of the tokens of a state belongs to a run. -/
theorem exists_run_of_tokens_eq (h : s.tokens = tokens ++ others) :
    ∃ t, Run s tokens t ∧ t.tokens = others := by
  induction tokens generalizing s with
  | nil => exact ⟨s, .nil s, h⟩
  | cons token tokens ih =>
    obtain ⟨t, emits, ht⟩ := exists_emits_of_tokens_eq h
    obtain ⟨u, run, hu⟩ := ih ht
    exact ⟨u, .cons emits run, hu⟩

/-- The whole text of a state is read in the end. -/
theorem exists_run_to_end (s : State) : ∃ t, Run s s.tokens t ∧ t.rest = [] := by
  obtain ⟨t, run, ht⟩ := exists_run_of_tokens_eq (List.append_nil s.tokens).symm
  exact ⟨t, run, tokens_eq_nil_iff.mp ht⟩

theorem Run.rest_eq (h : Run s tokens t) : s.rest = Token.texts tokens ++ t.rest := by
  induction h with
  | nil => rfl
  | cons emits _ ih => rw [emits.consumes.rest_eq, ih, Token.texts, Token.texts, List.flatMap_cons,
      List.append_assoc]

theorem Run.position_eq (h : Run s tokens t) :
    t.position = s.position.after (Token.texts tokens) := by
  induction h with
  | nil => rfl
  | cons emits _ ih =>
    rw [ih, emits.consumes.position_eq, emits.consumes.stop_eq, Token.texts, Token.texts,
      List.flatMap_cons, Position.after_append]

/-- What every next token keeps, a run keeps. -/
theorem Run.invariant {I : State → Prop} (keeps : ∀ {s token t}, I s → Emits s token t → I t)
    (h : Run s tokens t) (hs : I s) : I t := by
  induction h with
  | nil => exact hs
  | cons emits _ ih => exact ih (keeps hs emits)

end ScadText.Lexer
