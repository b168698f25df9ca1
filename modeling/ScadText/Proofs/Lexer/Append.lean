import ScadText.Proofs.Lexer.Lexemes
import ScadText.Proofs.Lexer.Move

/-!
# The lexer goes line by line

After blanks that end a line, the lexer stands as it does at the start of a text: the tokens of a
text that goes on there are those of its two parts, with the second ones moved down. The end of a
line is hidden from it only inside a block comment that is not closed.

## Main definitions

* `Token.shift`: a token of a text that has come to stand after other lines.
* `EndsLine`: a text whose last token is a blank run with a line feed at its end.
* `InComment`: a text that ends inside a block comment.

## Main statements

* `Position.moves_shift`: other lines put before a text move its tokens.
* `Run.extend`: what it emits up to the end of a line does not depend on the text after it.
* `tokenize_append`: the tokens of a text after the end of a line.
-/

namespace ScadText

/-! ## Texts after other lines -/

/-- A position in a text before which so many lines and characters are put. -/
def Position.shift (lines chars : Nat) (p : Position) : Position :=
  ⟨p.line + lines, p.column, p.offset + chars⟩

/-- A token of a text before which so many lines and characters are put. -/
def Token.shift (lines chars : Nat) (token : Token) : Token :=
  { token with
    start := token.start.shift lines chars
    stop := token.stop.shift lines chars }

theorem Position.moves_shift (lines chars : Nat) : Moves (shift lines chars) where
  advance_eq p c _ := by
    unfold advance
    split <;> simp only [shift, Nat.add_right_comm]

namespace Lexer

open Extent Grammar

variable {s t : State} {token : Token} {tokens : List Token} {a b : List Char}

/-! ## Texts before other lines -/

/-- A machine with more text behind the text it reads. -/
def State.extend (b : List Char) (s : State) : State := { s with rest := s.rest ++ b }

theorem State.Settled.extend (h : s.Settled) (b : List Char) : (s.extend b).Settled := by
  refine ⟨h.depth_eq, h.mode_eq.imp_right ?_⟩
  rintro ⟨hm, body, after, hr, hb⟩
  refine ⟨hm, body, after ++ b, ?_, hb⟩
  rw [State.extend, hr, List.append_assoc, List.cons_append]

theorem exists_lineBreak_of_getLast? (h : a.getLast? = some '\n') :
    ∃ c ∈ a, isLineBreak c = true :=
  ⟨'\n', List.mem_of_getLast? h, rfl⟩

/-- Up to the end of a line the next token does not depend on what comes after, except that blanks
run on over the ends of lines, and so does a block comment that is not closed. -/
theorem Emits.extend (h : Emits s token t) (hs : s.Settled) (hline : s.rest.getLast? = some '\n')
    (hb : ∀ c ∈ b.head?, isBlank c = false) (hend : t.rest = [] → token.kind = .whitespace) :
    Emits (s.extend b) token (t.extend b) := by
  suffices hreads : Reads s.mode (s.rest ++ b) token.text token.kind t.mode by
    have hr : (s.extend b).rest = token.text ++ (t.rest ++ b) := by
      rw [State.extend, h.consumes.rest_eq, List.append_assoc]
    have hemits := hreads.emits (s := s.extend b) (hs.extend b) hr h.consumes.text_ne_nil
    have ht : (⟨t.mode, 0, s.position.after token.text, t.rest ++ b⟩ : State) = t.extend b :=
      congrArg (State.extend b) h.consumes.state_eq
    rw [State.extend, h.consumes.token_eq, ht] at hemits
    exact hemits
  have hreads := h.reads hs
  obtain hm | ⟨hm, body, after, hbody, hsb⟩ := hs.mode_eq
  · rw [hm] at hreads ⊢
    have hrest := h.consumes.rest_eq
    cases hreads.rootRead h.rest_ne_nil with
    | blank rest cut kind_eq next_eq ne_nil blank stop =>
      obtain rfl := List.append_cancel_left (hrest.symm.trans cut)
      rw [hrest, List.append_assoc, kind_eq, next_eq]
      refine reads_blank ne_nil blank ?_
      cases hr : t.rest with
      | nil => exact hb
      | cons c cs =>
        rw [hr] at stop
        exact stop
    | comment v rest cut word kind_eq next_eq closes =>
      rw [cut, word, kind_eq, next_eq, List.cons_append, List.cons_append, List.append_assoc]
      exact reads_comment closes (rest ++ b)
    | openComment v cut word kind_eq =>
      have hnil : t.rest = [] := by simpa [cut, word] using hrest
      exact absurd (kind_eq.symm.trans (hend hnil)) (by decide)
    | onLine starts reads =>
      exact reads.of_lineAhead_eq starts
        (lineAhead_append_of_lineBreak (exists_lineBreak_of_getLast? hline) b).symm
  · rw [hm, hbody] at hreads ⊢
    rw [List.append_assoc, List.cons_append]
    exact hreads.of_stringBody hsb (after ++ b)

/-- Up to the end of a line the tokens do not depend on what comes after, if the last of them is a
blank run. -/
theorem Run.extend (h : Run s tokens t) (hs : s.Settled) (hline : s.rest.getLast? = some '\n')
    (hb : ∀ c ∈ b.head?, isBlank c = false) (hend : t.rest = [])
    (hlast : ∀ token ∈ tokens.getLast?, token.kind = .whitespace) :
    Run (s.extend b) tokens (t.extend b) := by
  induction h with
  | nil => exact .nil _
  | @cons s t u token tokens emits run ih =>
    obtain ⟨-, -, -, -, ht⟩ := emits.first hs
    by_cases hr : t.rest = []
    · cases run with
      | nil => exact .single (emits.extend hs hline hb fun _ => hlast token rfl)
      | cons next _ => exact absurd hr next.rest_ne_nil
    · have hline' : t.rest.getLast? = some '\n' := by
        rw [emits.consumes.rest_eq, List.getLast?_append_of_ne_nil _ hr] at hline
        exact hline
      refine .cons (emits.extend hs hline hb (absurd · hr)) (ih ht hline' hend fun last hmem => ?_)
      refine hlast last ?_
      cases run with
      | nil => simp at hmem
      | cons _ _ => rwa [List.getLast?_cons_cons]

/-! ## The last token -/

theorem ClosesAt.getLast?_eq {level : Nat} {w : List Char} (h : ClosesAt level w) :
    w.getLast? = some '/' := by
  induction h with
  | done => rfl
  | closer inner ih | opener inner ih | other _ _ inner ih =>
    obtain ⟨d, v, rfl⟩ := List.exists_cons_of_ne_nil inner.ne_nil
    simpa only [List.getLast?_cons_cons] using ih

/-- The last character of a text is that of its last token. -/
theorem getLast?_of_tokenize {pre : List Token} (h : tokenize a = pre ++ [token]) :
    a.getLast? = token.text.getLast? := by
  obtain ⟨hcut, -, -⟩ := tokenize_cut_text h
  have hne := (fits_of_tokenize_cut h).text_ne_nil
  rw [hcut, Token.texts_nil, List.append_nil, List.getLast?_append_of_ne_nil _ hne]

/-! ## Ends of lines -/

/-- The text is empty, or its last token is a blank run with a line feed at its end. -/
def EndsLine (a : List Char) : Prop :=
  a = [] ∨ ∃ token ∈ (tokenize a).getLast?, token.kind = .whitespace ∧
    token.text.getLast? = some '\n'

/-- The last token of the text is a block comment that is not closed. -/
def InComment (a : List Char) : Prop :=
  ∃ token ∈ (tokenize a).getLast?, token.kind = .comment ∧
    ∃ v, token.text = '/' :: '*' :: v ∧ ∀ w rest, v = w ++ rest → ¬ ClosesAt 1 w

theorem EndsLine.eq_nil_or (h : EndsLine a) : a = [] ∨ a.getLast? = some '\n' := by
  refine h.imp_right ?_
  rintro ⟨token, hlast, -, htext⟩
  obtain ⟨pre, hpre⟩ := List.getLast?_eq_some_iff.mp hlast
  rw [getLast?_of_tokenize hpre, htext]

/-- The end of a line is the start of the next one. -/
theorem EndsLine.after_eq (h : EndsLine a) :
    Position.start.after a = Position.start.shift (a.count '\n') a.length := by
  have hline : Text.lastLine a = [] := by
    obtain rfl | hlast := h.eq_nil_or
    · rfl
    · obtain ⟨front, rfl⟩ := List.getLast?_eq_some_iff.mp hlast
      rw [Text.lastLine, List.rtakeWhile_concat, if_neg (by decide)]
  rw [Position.start_after, hline]
  simp [Position.start, Position.shift]

/-- A text with a line feed at its end has come to the end of a line, or to no end of a comment. -/
theorem endsLine_or_inComment (h : a.getLast? = some '\n') : EndsLine a ∨ InComment a := by
  have hne : tokenize a ≠ [] := by
    intro hnil
    obtain rfl : a = [] := tokens_eq_nil_iff.mp hnil
    simp at h
  obtain ⟨token, hlast⟩ := List.getLast?_isSome.mpr hne |> Option.isSome_iff_exists.mp
  obtain ⟨pre, hpre⟩ := List.getLast?_eq_some_iff.mp hlast
  obtain ⟨s, t, run, emits, ht⟩ := tokenize_cut hpre
  have hs := run.settled (State.settled_initial a)
  rw [getLast?_of_tokenize hpre] at h
  have hnewline : '\n' ∈ token.text := List.mem_of_getLast? h
  have hkind := (emits.kind_of_newline_mem hs hnewline).imp_right And.left
  cases emits.rootRead hs hkind with
  | blank _ _ kind_eq => exact .inl (.inr ⟨token, hlast, kind_eq, h⟩)
  | comment v _ _ word _ _ closes =>
    obtain ⟨d, u, rfl⟩ := List.exists_cons_of_ne_nil closes.ne_nil
    rw [word, List.getLast?_cons_cons, List.getLast?_cons_cons, closes.getLast?_eq] at h
    simp at h
  | openComment v _ word kind_eq _ unclosed =>
    exact .inr ⟨token, hlast, kind_eq, v, word, unclosed⟩
  | onLine starts reads => exact absurd (reads.isLineBreak_eq_false starts _ hnewline) (by decide)

/-- Whatever comes after a text that ends inside a block comment is read in another way. -/
theorem InComment.tokenize_append_ne (h : InComment a) (hb : b ≠ []) (tokens : List Token) :
    tokenize (a ++ b) ≠ tokenize a ++ tokens := by
  intro heq
  obtain ⟨token, hlast, hkind, v, hv, unclosed⟩ := h
  obtain ⟨pre, hpre⟩ := List.getLast?_eq_some_iff.mp hlast
  rw [hpre, List.append_assoc, List.singleton_append] at heq
  obtain ⟨s, t, run, emits, -⟩ := tokenize_cut heq
  have hrest : s.rest = '/' :: '*' :: (v ++ b) := by
    have hs : a ++ b = Token.texts pre ++ s.rest := run.rest_eq
    obtain ⟨ha, -, -⟩ := tokenize_cut_text hpre
    rw [ha, List.append_assoc] at hs
    rw [← List.append_cancel_left hs, hv, Token.texts_nil, List.append_nil]
    rfl
  cases emits.rootRead (run.settled (State.settled_initial (a ++ b))) (.inr hkind) with
  | blank _ _ kind_eq => simp [hkind] at kind_eq
  | comment u rest _ word _ _ closes =>
    rw [hv, List.cons.injEq, List.cons.injEq] at word
    obtain ⟨-, -, rfl⟩ := word
    exact unclosed v [] (List.append_nil v).symm closes
  | openComment u cut word =>
    rw [hrest, ← word, hv, List.cons.injEq, List.cons.injEq] at cut
    exact hb (List.append_right_eq_self.mp cut.2.2)
  | onLine starts => exact starts.comment _ hrest

/-- The lexer goes line by line. After the end of a line a text is read as if it stood alone, and
its tokens are moved down by the lines and characters before it. A line feed at the end of a text
is the end of a line unless the text ends inside a block comment, and then nothing that comes after
it is read as if it stood alone. -/
theorem tokenize_append (hb : ∀ c ∈ b.head?, isBlank c = false) :
    (EndsLine a → tokenize (a ++ b) =
      tokenize a ++ (tokenize b).map (Token.shift (a.count '\n') a.length)) ∧
    (a.getLast? = some '\n' → EndsLine a ∨ InComment a) ∧
    (InComment a → b ≠ [] → tokenize (a ++ b) ≠
      tokenize a ++ (tokenize b).map (Token.shift (a.count '\n') a.length)) := by
  refine ⟨?_, endsLine_or_inComment, fun h hne => h.tokenize_append_ne hne _⟩
  intro h
  obtain ⟨t, run, ht⟩ : ∃ t, Run (State.initial a) (tokenize a) t ∧ t.rest = [] :=
    exists_run_to_end (State.initial a)
  have hsettled := run.settled (State.settled_initial a)
  have hafter : t.extend b = (State.initial b).move (.shift (a.count '\n') a.length) := by
    have hm : t.mode = .root := hsettled.mode_eq.resolve_right (by simp [ht])
    have hposition : t.position = Position.start.after a := by
      rw [run.position_eq, tokenize, texts_tokens]
      rfl
    rw [State.extend, hm, hsettled.depth_eq, hposition, ht, h.after_eq]
    rfl
  have hextend : Run (State.initial (a ++ b)) (tokenize a) (t.extend b) := by
    obtain rfl | ⟨last, hlast, hkind, htext⟩ := h
    · have hnil : tokenize [] = [] := tokens_eq_nil_iff.mpr rfl
      rw [hnil] at run ⊢
      cases run
      exact .nil _
    · obtain ⟨pre, hpre⟩ := List.getLast?_eq_some_iff.mp hlast
      refine run.extend (State.settled_initial a) ((getLast?_of_tokenize hpre).trans htext) hb ht ?_
      intro token hmem
      obtain rfl := Option.some.inj (hlast.symm.trans hmem)
      exact hkind
  calc tokenize (a ++ b) = tokenize a ++ (t.extend b).tokens := hextend.tokens_eq
    _ = tokenize a ++ (tokenize b).map (Token.shift (a.count '\n') a.length) := by
      rw [hafter, tokens_move (Position.moves_shift _ _) (Nat.le_refl 1)]
      rfl

theorem tokenize_append_unclosed_string :
    tokenize ['"', '\\', '\n', '"', ';'] =
      tokenize ['"', '\\', '\n'] ++ (tokenize ['"', ';']).map (Token.shift 1 3) :=
  have h : EndsLine ['"', '\\', '\n'] :=
    .inr ⟨⟨.whitespace, ['\n'], ⟨1, 3, 2⟩, ⟨2, 1, 3⟩⟩, by decide +kernel, rfl, rfl⟩
  have hb : ∀ c ∈ ['"', ';'].head?, isBlank c = false := by
    rintro _ ⟨⟩
    rfl
  (tokenize_append hb).1 h

end Lexer

end ScadText
