import ScadText.Proofs.Lexer.Settled

/-!
# Strings

A quote between lexemes is looked at twice: a scan searches the quote that closes the string on its
line, and if there is one the machine reads the string piece by piece. Both end at the same quote.
Without a closing quote the rest of the line is one token, and the next line is read between lexemes
again.

## Main definitions

* `Scan`: the body over which the scan goes, and the text at which it stops.
* `ClosedString`, `UnclosedString`: what is emitted from a quote on.
* `BodyTokens`: the tokens between the quotes.

## Main statements

* `exists_body_run`: the machine reads the body of a string and then its closing quote.
* `string_of_quote`: the scan decides what is emitted from a quote on.
-/

namespace ScadText.Lexer

open Extent Grammar LexRule

/-- The scan from just after a quote goes over `body` and stops in front of `after`: it meets a
quote, or it gives up. -/
structure Scan (cs body after : List Char) : Prop where
  cut : cs = body ++ after
  body : StringBody body
  stops : GivesUp after ∨ ∃ rest, after = '"' :: rest

/-- Between the quotes each token is the one which the rules for the body of a string give for the
text from its first character on, where `after` comes after the last token. -/
inductive BodyTokens (after : List Char) : List Token → Prop where
  | nil : BodyTokens after []
  | cons {token : Token} {tokens : List Token} {r : LexRule}
      (first : First (token.text ++ (Token.texts tokens ++ after)) bodyRules r token.text)
      (kind : token.kind = r.kind token.text) (rest : BodyTokens after tokens) :
      BodyTokens after (token :: tokens)

/-- From a quote at `s` on, a string with the given body is read: a quote, the tokens of the body
and the quote which the scan has found. Then the machine is between lexemes again, right after that
quote. -/
structure ClosedString (s : State) (body rest : List Char) (opening : Token) (inner : List Token)
    (closing : Token) (t : State) : Prop where
  run : Run s (opening :: (inner ++ [closing])) t
  opening_kind : opening.kind = .string
  opening_text : opening.text = ['"']
  inner_texts : Token.texts inner = body
  inner_tokens : BodyTokens ('"' :: rest) inner
  closing_kind : closing.kind = .string
  closing_text : closing.text = ['"']
  closing_offset : closing.start.offset = s.position.offset + 1 + body.length
  mode_eq : t.mode = .root
  offset_eq : t.position.offset = closing.start.offset + 1
  rest_eq : t.rest = rest
  one_line : ∀ token ∈ opening :: (inner ++ [closing]), ∀ c ∈ token.text, isLineBreak c = false

/-- From a quote at `s` on, the rest of the line is read as one invalid token. -/
structure UnclosedString (s : State) (token : Token) (t : State) : Prop where
  emits : Emits s token t
  kind_eq : token.kind = .stringInvalid
  one_line : ∀ c ∈ token.text, isLineBreak c = false
  line_ends : ∀ c ∈ t.rest.head?, isLineBreak c = true
  mode_eq : t.mode = .root

variable {s t : State} {token : Token} {tokens : List Token} {cs body after rest : List Char}

theorem exists_scan (cs : List Char) : ∃ body after, Scan cs body after := by
  obtain ⟨body, after, cut, hb, stops⟩ := exists_stringBody cs
  exact ⟨body, after, cut, hb, stops⟩

/-! ## The body of a string -/

/-- The machine reads the body of a string and then the quote after it. -/
theorem exists_body_run {s : State} {body : List Char} (hd : s.depth = 0) (hm : s.mode = .string)
    (hr : s.rest = body ++ '"' :: rest) (hb : StringBody body) :
    ∃ inner closing t u, Run s inner t ∧ Emits t closing u ∧ Token.texts inner = body ∧
      BodyTokens ('"' :: rest) inner ∧ closing.kind = .string ∧ closing.text = ['"'] ∧
      u.mode = .root ∧ u.rest = rest := by
  -- By induction on the length of the body: a token is not empty, so what it leaves is shorter.
  have hs : s.Settled := ⟨hd, .inr ⟨hm, body, rest, hr, hb⟩⟩
  obtain ⟨token, t, emits⟩ := exists_emits s (by simp [hr])
  obtain ⟨r, first, hkind, hnext, -⟩ := emits.first hs
  have hcut := emits.consumes.rest_eq
  rw [hm, hr] at first
  rw [hr] at hcut
  obtain ⟨rfl, rfl, htext⟩ | ⟨inner, behind, rfl, hbehind⟩ := hb.first_cases first
  · rw [htext] at hcut
    simp only [List.nil_append, List.cons_append, List.cons.injEq, true_and] at hcut
    exact ⟨[], token, s, t, .nil s, emits, rfl, .nil, hkind, htext, hnext, hcut.symm⟩
  · rw [List.append_assoc] at hcut
    have shorter : behind.length < (token.text ++ behind).length := by
      have := List.length_pos_iff.mpr emits.consumes.text_ne_nil
      rw [List.length_append]
      omega
    obtain ⟨tokens, closing, u, v, run, last, htexts, htokens, hclosing⟩ :=
      exists_body_run emits.consumes.depth_eq (hnext.trans (next_of_mem_bodyRules inner.mem))
        (List.append_cancel_left hcut).symm hbehind
    refine ⟨token :: tokens, closing, u, v, .cons emits run, last, ?_, ?_, hclosing⟩
    · rw [← htexts, Token.texts, Token.texts, List.flatMap_cons]
    · refine .cons ?_ hkind htokens
      rwa [htexts, ← List.append_assoc]
termination_by body.length

theorem exists_closedString (hd : s.depth = 0) (hm : s.mode = .root)
    (hr : s.rest = '"' :: (body ++ '"' :: rest)) (hb : StringBody body) :
    ∃ opening inner closing t, ClosedString s body rest opening inner closing t := by
  have ha : Mode.root.action 0 '"' (body ++ '"' :: rest) = .emit .string 1 .string := by
    rw [Mode.action, rootAction_quote, closingQuote?_append hb rest]
  have first := (Decides.now ha).emits hm hd hr
  have hdrop : (⟨.string, 0, s.position.after (s.rest.take 1), s.rest.drop 1⟩ : State).rest =
      body ++ '"' :: rest := by
    rw [hr]
    rfl
  obtain ⟨inner, closing, t, u, run, last, htexts, htokens, hkind, htext, hmode, hrest⟩ :=
    exists_body_run rfl rfl hdrop hb
  have htake : s.rest.take 1 = ['"'] := by rw [hr]; rfl
  have hoffset : closing.start.offset = s.position.offset + 1 + body.length := by
    rw [last.consumes.start_eq, run.position_eq, htexts, Position.offset_after,
      Position.offset_after, htake]
    rfl
  refine ⟨_, inner, closing, u, .cons first (run.trans (.single last)), rfl, htake, htexts, htokens,
    hkind, htext, hoffset, hmode, ?_, hrest, ?_⟩
  · rw [last.consumes.position_eq, last.consumes.stop_eq, last.consumes.start_eq,
      Position.offset_after, htext]
    rfl
  · intro token hmem c hc
    rw [List.mem_cons, List.mem_append, List.mem_singleton] at hmem
    obtain rfl | hmem | rfl := hmem
    · rw [htake, List.mem_singleton] at hc
      exact hc ▸ rfl
    · exact hb.isLineBreak_eq_false c (htexts ▸ List.mem_flatMap.mpr ⟨token, hmem, hc⟩)
    · rw [htext, List.mem_singleton] at hc
      exact hc ▸ rfl

theorem exists_unclosedString (hd : s.depth = 0) (hm : s.mode = .root)
    (hr : s.rest = '"' :: (body ++ after)) (hb : StringBody body) (ha : GivesUp after) :
    ∃ token t, UnclosedString s token t := by
  have haction : Mode.root.action 0 '"' (body ++ after) =
      .emit .stringInvalid (1 + run (!isLineBreak ·) (body ++ after)) .root := by
    rw [Mode.action, rootAction_quote, closingQuote?_append_of_givesUp hb ha]
  have htake : s.rest.take (1 + run (!isLineBreak ·) (body ++ after)) =
      '"' :: (body ++ after).takeWhile (!isLineBreak ·) := by
    rw [hr, Nat.add_comm, List.take_succ_cons, take_run]
  have hdrop : s.rest.drop (1 + run (!isLineBreak ·) (body ++ after)) =
      (body ++ after).dropWhile (!isLineBreak ·) := by
    rw [hr, Nat.add_comm, List.drop_succ_cons, drop_run]
  refine ⟨_, _, (Decides.now haction).emits hm hd hr, rfl, ?_, ?_, rfl⟩
  · intro c hc
    dsimp only at hc
    rw [htake] at hc
    obtain rfl | hc := List.mem_cons.mp hc
    · rfl
    · simpa using of_mem_takeWhile hc
  · intro c hc
    dsimp only at hc
    rw [hdrop] at hc
    simpa using of_mem_head?_dropWhile hc

/-! ## Inside a string -/

theorem stringAction_ne_enter (c : Char) (cs : List Char) (mode : Mode) :
    stringAction c cs ≠ .enter mode := by
  unfold stringAction
  split
  · simp
  · split
    · cases escapeLength? cs <;> simp
    · simp

/-- In a string there is text ahead, and what the machine emits lies in it. -/
theorem string_action_le (hs : s.Settled) (hm : s.mode = .string) :
    ∃ c cs, s.rest = c :: cs ∧
      ∃ kind n next, s.mode.action s.depth c cs = .emit kind n next ∧ n ≤ s.rest.length := by
  obtain ⟨body, after, hr, hb⟩ : ∃ body after, s.rest = body ++ '"' :: after ∧ StringBody body := by
    simpa [hm] using hs.mode_eq
  obtain ⟨c, cs, hcs⟩ := List.exists_cons_of_ne_nil (l := s.rest) (by simp [hr])
  obtain ⟨r, w, first, decides⟩ := follows_stringRules (hb.tail_ne_nil (hr.symm.trans hcs))
  refine ⟨c, cs, hcs, ?_⟩
  rw [hm, hs.depth_eq, hcs]
  cases decides with
  | now action =>
    obtain ⟨-, rest, hcut, -⟩ := first.longest.1
    refine ⟨_, _, _, action, ?_⟩
    rw [hcut, List.length_append]
    omega
  | later action _ => exact absurd action (stringAction_ne_enter c cs _)

/-- The scan from a quote on decides what is emitted. If it meets a quote, the string between the
two is read in pieces and closed by that very quote; if it gives up, the rest of the line is one
invalid token. No string is open at the end of a source, and nothing is read beyond the end. -/
theorem string_of_quote {source : List Char} {pre : List Token} {s : State} {cs : List Char}
    (run : Run (State.initial source) pre s) (root : s.mode = .root) (quote : s.rest = '"' :: cs) :
    (∃ body after, Scan cs body after) ∧
    (∀ body rest, Scan cs body ('"' :: rest) →
      ∃ opening inner closing t, ClosedString s body rest opening inner closing t) ∧
    (∀ body after, Scan cs body after → GivesUp after → ∃ token t, UnclosedString s token t) ∧
    ∀ tokens u, Run (State.initial source) tokens u → u.mode = .string →
      ∃ c cs, u.rest = c :: cs ∧
        ∃ kind n next, u.mode.action u.depth c cs = .emit kind n next ∧ n ≤ u.rest.length := by
  have hs := run.settled (State.settled_initial source)
  refine ⟨exists_scan cs, ?_, ?_, ?_⟩
  · rintro body rest ⟨rfl, hb, -⟩
    exact exists_closedString hs.depth_eq root quote hb
  · rintro body after ⟨rfl, hb, -⟩ ha
    exact exists_unclosedString hs.depth_eq root quote hb ha
  · intro tokens u hu hm
    exact string_action_le (hu.settled (State.settled_initial source)) hm

theorem string_of_quote_escaped :
    (∃ opening inner closing t,
      ClosedString (State.initial ['"', '\\', '"', '"', ';']) ['\\', '"'] [';'] opening inner
        closing t) ∧
    ∃ token t, UnclosedString (State.initial ['"', 'a', '\\', '\n', '"']) token t := by
  have closed : Scan ['\\', '"', '"', ';'] ['\\', '"'] ['"', ';'] :=
    ⟨rfl, .hidden rfl .nil, .inr ⟨[';'], rfl⟩⟩
  have givesUp : GivesUp ['\\', '\n', '"'] := by
    refine .backslash ?_
    rintro _ ⟨⟩
    rfl
  have unclosed : Scan ['a', '\\', '\n', '"'] ['a'] ['\\', '\n', '"'] :=
    ⟨rfl, .plain (by decide) (by decide) rfl .nil, .inl givesUp⟩
  exact ⟨(string_of_quote (.nil _) rfl rfl).2.1 _ _ closed,
    (string_of_quote (.nil _) rfl rfl).2.2.1 _ _ unclosed givesUp⟩

end ScadText.Lexer
