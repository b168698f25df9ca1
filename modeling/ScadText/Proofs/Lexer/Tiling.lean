import Mathlib.Data.List.Chain
import ScadText.Proofs.Lexer.Line
import ScadText.Proofs.Token.Place

/-!
# Tokens tile their source

The tokens of a source follow one another without a gap and hold all of it, and their positions say
where in the source they stand. Only blanks and block comments reach over the end of a line.

## Main definitions

* `Token.Fits`, `Tiling`: tokens that are the pieces of a source, one after another.

## Main statements

* `tokenize_cut`: each token is emitted after the tokens before it.
* `tiling_tokenize`: the tokens of a source tile it.
-/

namespace ScadText

/-- The token is a piece of the source at the places that it names, and reaches over the end of a
line only if it is a blank run or a block comment. -/
structure Token.Fits (token : Token) (source : List Char) : Prop where
  text_ne_nil : token.text ≠ []
  text_eq : token.text = source.extract token.start.offset token.stop.offset
  start_locates : token.start.Locates source
  stop_locates : token.stop.Locates source
  one_line : token.start.line < token.stop.line →
    token.kind = .whitespace ∨ token.kind = .comment ∧ ['/', '*'] <+: token.text

/-- The tokens follow one another without a gap, from the start of the source to its end. -/
structure Tiling (source : List Char) (tokens : List Token) : Prop where
  fits : ∀ token ∈ tokens, token.Fits source
  head_start : ∀ token ∈ tokens.head?, token.start = .start
  chained : tokens.IsChain fun a b => b.start = a.stop
  last_stop : ∀ token ∈ tokens.getLast?, token.stop.offset = source.length
  texts_eq : Token.texts tokens = source

namespace Lexer

open Grammar LexRule

variable {s t : State} {token : Token} {tokens : List Token}

/-! ## Cuts of the tokens -/

/-- Each token of a source is emitted after the tokens before it. -/
theorem tokenize_cut {source : List Char} {pre post : List Token}
    (h : tokenize source = pre ++ token :: post) :
    ∃ s t, Run (State.initial source) pre s ∧ Emits s token t ∧ t.tokens = post := by
  obtain ⟨s, run, hs⟩ := exists_run_of_tokens_eq h
  obtain ⟨t, emits, ht⟩ := exists_emits_of_tokens_eq hs
  exact ⟨s, t, run, emits, ht⟩

theorem texts_tokens (s : State) : Token.texts s.tokens = s.rest := by
  obtain ⟨t, run, ht⟩ := exists_run_to_end s
  rw [run.rest_eq, ht, List.append_nil]

/-- The text of a source around one of its tokens, and the positions of the token. -/
theorem tokenize_cut_text {source : List Char} {pre post : List Token}
    (h : tokenize source = pre ++ token :: post) :
    source = Token.texts pre ++ (token.text ++ Token.texts post) ∧
      token.start = Position.start.after (Token.texts pre) ∧
      token.stop = Position.start.after (Token.texts pre ++ token.text) := by
  obtain ⟨s, t, run, emits, rfl⟩ := tokenize_cut h
  have hstart : token.start = Position.start.after (Token.texts pre) :=
    emits.consumes.start_eq.trans run.position_eq
  refine ⟨?_, hstart, ?_⟩
  · rw [texts_tokens, ← emits.consumes.rest_eq]
    exact run.rest_eq
  · rw [emits.consumes.stop_eq, ← emits.consumes.start_eq, hstart, Position.after_append]

/-! ## A run is a chain -/

theorem Run.head_start (run : Run s tokens t) :
    ∀ token ∈ tokens.head?, token.start = s.position := by
  cases run with
  | nil => simp
  | cons emits _ =>
    rintro _ ⟨⟩
    exact emits.consumes.start_eq

theorem Run.isChain (run : Run s tokens t) : tokens.IsChain fun a b => b.start = a.stop := by
  induction run with
  | nil => exact .nil
  | cons emits run ih =>
    refine List.isChain_cons.mpr ⟨fun next hnext => ?_, ih⟩
    rw [run.head_start next hnext, emits.consumes.position_eq]

theorem Run.last_stop (run : Run s tokens t) :
    ∀ token ∈ tokens.getLast?, token.stop = t.position := by
  induction run with
  | nil => simp
  | @cons s t u first rest emits run ih =>
    cases run with
    | nil =>
      rintro _ ⟨⟩
      exact emits.consumes.position_eq.symm
    | cons _ _ =>
      rw [List.getLast?_cons_cons]
      exact ih

/-! ## Line feeds -/

/-- A token that holds a line feed is a blank run or a block comment. -/
theorem Emits.kind_of_newline_mem (hs : s.Settled) (emits : Emits s token t)
    (h : '\n' ∈ token.text) :
    token.kind = .whitespace ∨ token.kind = .comment ∧ ['/', '*'] <+: token.text := by
  have hreads := emits.reads hs
  obtain hm | ⟨hm, body, after, hbody, hb⟩ := hs.mode_eq
  · rw [hm] at hreads
    cases hreads.rootRead emits.rest_ne_nil with
    | blank _ _ kind_eq => exact .inl kind_eq
    | comment v _ _ word kind_eq => exact .inr ⟨kind_eq, v, word.symm⟩
    | openComment v _ word kind_eq => exact .inr ⟨kind_eq, v, word.symm⟩
    | onLine starts reads => exact absurd (reads.isLineBreak_eq_false starts _ h) (by decide)
  · rw [hm, hbody] at hreads
    exact absurd (hreads.isLineBreak_eq_false_of_stringBody hb _ h) (by decide)

theorem fits_of_tokenize_cut {source : List Char} {pre post : List Token}
    (h : tokenize source = pre ++ token :: post) : token.Fits source := by
  obtain ⟨s, t, run, emits, -⟩ := tokenize_cut h
  obtain ⟨hsource, hstart, hstop⟩ := tokenize_cut_text h
  refine ⟨emits.consumes.text_ne_nil, ?_, ?_, ?_, ?_⟩
  · rw [hstart, hstop, Position.offset_after, Position.offset_after, hsource]
    simp [Position.start]
  · rw [hstart, hsource]
    exact Position.locates_after _ _
  · rw [hstop, hsource, ← List.append_assoc]
    exact Position.locates_after _ _
  · intro hlines
    refine emits.kind_of_newline_mem (run.settled (State.settled_initial source)) ?_
    rw [emits.consumes.stop_eq, emits.consumes.start_eq, Position.line_after] at hlines
    exact List.count_pos_iff.mp (by omega)

/-- The tokens of a source tile it. -/
theorem tiling_tokenize (source : List Char) : Tiling source (tokenize source) := by
  have htexts : Token.texts (tokenize source) = source := texts_tokens (State.initial source)
  obtain ⟨t, run, ht⟩ := exists_run_to_end (State.initial source)
  refine ⟨?_, run.head_start, run.isChain, ?_, htexts⟩
  · intro token hmem
    obtain ⟨pre, post, hcut⟩ := List.append_of_mem hmem
    exact fits_of_tokenize_cut hcut
  · intro token hlast
    rw [run.last_stop token hlast, run.position_eq, Position.offset_after]
    exact (Nat.zero_add _).trans (congrArg List.length htexts)

end Lexer

end ScadText
