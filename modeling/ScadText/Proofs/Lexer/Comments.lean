import ScadText.Proofs.Lexer.Move
import ScadText.Proofs.Lexer.Tiling

/-!
# Block comments

A block comment nests. Its openers and closers are read from left to right without overlap, and
nothing else in it means anything. It ends with the closer that takes the depth back to where it was
before the comment, or with the text, and the text after it is read as if it stood alone.

## Main definitions

* `Mark`, `marks`: the openers, closers and other characters of a text.
* `depth`: how many more of the marks are openers than closers.
* `Reaches`: how far a comment goes from some level on.
* `Position.rebase`: a position in a text that stands alone, where the text comes after another.

## Main statements

* `reaches_commentLength`: the length of a comment is how far it reaches.
* `Run.tokens_rest`: between lexemes the rest of a source is read as if it stood alone.
* `tokenize_comment`: the tokens of a source around a block comment.
-/

namespace ScadText

namespace Lexer

open Extent

/-! ## Openers and closers -/

/-- A piece of a text that opens a comment, closes one, or does neither. -/
inductive Mark where
  | opener | closer | other (c : Char)
  deriving DecidableEq, Repr

/-- The pieces of a text, which are read from left to right without overlap. -/
def marks : List Char → List Mark
  | [] => []
  | '/' :: '*' :: cs => .opener :: marks cs
  | '*' :: '/' :: cs => .closer :: marks cs
  | c :: cs => .other c :: marks cs

namespace Mark

def text : Mark → List Char
  | opener => ['/', '*']
  | closer => ['*', '/']
  | other c => [c]

/-- The text of several pieces. -/
def texts (ms : List Mark) : List Char := ms.flatMap text

/-- How a piece changes the depth. -/
def rise : Mark → Int
  | opener => 1
  | closer => -1
  | other _ => 0

@[simp] theorem texts_nil : texts [] = [] := rfl

@[simp] theorem texts_cons (m : Mark) (ms : List Mark) : texts (m :: ms) = m.text ++ texts ms := rfl

end Mark

/-- How much deeper the pieces lead. -/
def depth : List Mark → Int
  | [] => 0
  | m :: ms => m.rise + depth ms

variable {m : Mark} {ms front : List Mark} {cs : List Char} {level : Nat}

@[simp] theorem depth_nil : depth [] = 0 := rfl

@[simp] theorem depth_cons (m : Mark) (ms : List Mark) : depth (m :: ms) = m.rise + depth ms :=
  rfl

theorem texts_marks (cs : List Char) : Mark.texts (marks cs) = cs := by
  fun_induction marks cs with
  | case1 => rfl
  | case2 cs ih => rw [Mark.texts_cons, ih]; rfl
  | case3 cs ih => rw [Mark.texts_cons, ih]; rfl
  | case4 c cs _ _ ih => rw [Mark.texts_cons, ih]; rfl

/-- From some level on the pieces stay inside the comment. -/
def StaysInside (level : Int) (ms : List Mark) : Prop :=
  ∀ front, front <+: ms → 1 ≤ level + depth front

theorem StaysInside.nil {level : Int} (h : 1 ≤ level) : StaysInside level [] := by
  intro front hfront
  rw [List.prefix_nil.mp hfront]
  simpa using h

theorem StaysInside.cons {level : Int} (hlevel : 1 ≤ level)
    (h : StaysInside (level + m.rise) ms) : StaysInside level (m :: ms) := by
  intro front hfront
  obtain rfl | ⟨rest, rfl, hrest⟩ := List.prefix_cons_iff.mp hfront
  · simpa using hlevel
  · rw [depth_cons, ← Int.add_assoc]
    exact h rest hrest

/-- How far a comment reaches of which some levels are open: up to the closer with which the depth
comes down to zero, and over all of the text where there is none. -/
inductive Reaches (level : Int) (ms : List Mark) (n : Nat) : Prop where
  | closed (body rest : List Mark) (cut : ms = body ++ .closer :: rest)
      (zero : level + depth (body ++ [.closer]) = 0) (inside : StaysInside level body)
      (length_eq : n = (Mark.texts (body ++ [.closer])).length)
  | unclosed (inside : StaysInside level ms) (length_eq : n = (Mark.texts ms).length)

theorem Reaches.cons {level : Int} {n : Nat} (hlevel : 1 ≤ level)
    (h : Reaches (level + m.rise) ms n) : Reaches level (m :: ms) (m.text.length + n) := by
  cases h with
  | closed body rest cut zero inside length_eq =>
    refine .closed (m :: body) rest (by rw [cut, List.cons_append]) ?_ (inside.cons hlevel) ?_
    · rw [List.cons_append, depth_cons, ← Int.add_assoc]
      exact zero
    · rw [List.cons_append, Mark.texts_cons, List.length_append, length_eq]
  | unclosed inside length_eq =>
    refine .unclosed (inside.cons hlevel) ?_
    rw [Mark.texts_cons, List.length_append, length_eq]

/-- The length of a comment is how far it reaches. -/
theorem reaches_commentLength {level : Nat} (h : 1 ≤ level) (cs : List Char) :
    Reaches level (marks cs) (commentLength level cs) := by
  fun_induction commentLength level cs with
  | case1 level => exact .unclosed (.nil (by omega)) rfl
  | case2 level cs ih => exact Reaches.cons (m := .opener) (by omega) (ih (by omega))
  | case3 level cs hle =>
    -- The closer of the outermost level: nothing of the comment comes before it.
    obtain rfl : level = 1 := by omega
    exact .closed [] (marks cs) rfl rfl (.nil (by omega)) rfl
  | case4 level cs hle ih =>
    have hrise : (level : Int) + Mark.closer.rise = (level - 1 : Nat) := by
      simp only [Mark.rise]
      omega
    exact Reaches.cons (m := .closer) (by omega) (hrise ▸ ih (by omega))
  | case5 level c cs opens closes ih =>
    have hmarks : marks (c :: cs) = .other c :: marks cs := by
      rw [marks]
      · exact opens
      · exact closes
    rw [hmarks]
    exact Reaches.cons (m := .other c) (by omega) ((Int.add_zero (level : Int)).symm ▸ ih h)

end Lexer

/-! ## Texts that stand alone -/

/-- A position in a text that stands alone, where the text starts at `base`: on its first line the
columns go on, and the lines and offsets do. -/
def Position.rebase (base p : Position) : Position :=
  ⟨p.line + (base.line - 1), if p.line = 1 then p.column + (base.column - 1) else p.column,
    p.offset + base.offset⟩

theorem Position.moves_rebase (base : Position) : Moves base.rebase where
  advance_eq p c hp := by
    unfold advance
    split
    · have hline : ¬ p.line + 1 = 1 := by omega
      simp only [rebase, if_neg hline]
      grind
    · simp only [rebase]
      grind

/-- A text that stands alone starts where it is moved to. -/
theorem Position.rebase_start {base : Position} (hline : 1 ≤ base.line)
    (hcolumn : 1 ≤ base.column) : base.rebase .start = base := by
  obtain ⟨line, column, offset⟩ := base
  simp only [rebase, start, if_true, mk.injEq]
  dsimp only at hline hcolumn
  exact ⟨by omega, by omega, Nat.zero_add offset⟩

namespace Lexer

open Extent

variable {source cs : List Char} {pre : List Token} {s t : State} {token : Token}

/-- Between lexemes the rest of a source is read as if it stood alone. -/
theorem Run.tokens_rest (run : Run (State.initial source) pre s) (hm : s.mode = .root)
    (hd : s.depth = 0) :
    s.tokens = (tokenize s.rest).map (Token.move (Position.rebase s.position)) := by
  have hstart : s.position.rebase .start = s.position := by
    have hposition : s.position = Position.start.after (Token.texts pre) := run.position_eq
    rw [hposition, Position.start_after]
    exact Position.rebase_start (Nat.le_add_right _ _) (Nat.le_add_left _ _)
  have halone : s = (State.initial s.rest).move s.position.rebase := by
    rw [State.move, State.initial, hstart, ← hm, ← hd]
  rw [tokenize, ← tokens_move s.position.moves_rebase (Nat.le_refl 1), ← halone]

/-- A block comment starts wherever an opener stands between lexemes, as one token. Read from left
to right without overlap, the depth is at least one from the opener on. The token ends with the first
closer that brings it back to zero, and where there is none, with the text. Then the lexer is between
lexemes again with no comment open, and reads the rest as if it stood alone. -/
theorem tokenize_comment (run : Run (State.initial source) pre s) (hm : s.mode = .root)
    (hr : s.rest = '/' :: '*' :: cs) :
    ∃ token t, Emits s token t ∧ token.kind = .comment ∧ t.mode = .root ∧ t.depth = 0 ∧
      ((∃ body rest, marks s.rest = .opener :: (body ++ .closer :: rest) ∧
          depth (.opener :: (body ++ [.closer])) = 0 ∧
          (∀ front, front <+: body → 1 ≤ depth (.opener :: front)) ∧
          token.text = Mark.texts (.opener :: (body ++ [.closer])) ∧ t.rest = Mark.texts rest) ∨
        ((∀ front, front <+: marks cs → 1 ≤ depth (.opener :: front)) ∧
          token.text = s.rest ∧ t.rest = [])) ∧
      tokenize source =
        pre ++ token :: (tokenize t.rest).map (Token.move (Position.rebase t.position)) := by
  have hd := (run.settled (State.settled_initial source)).depth_eq
  have hmarks : marks s.rest = .opener :: marks cs := by rw [hr, marks]
  have emits := (decides_comment cs).emits hm hd hr
  refine ⟨_, _, emits, rfl, rfl, rfl, ?_, ?_⟩
  · dsimp only
    cases reaches_commentLength (Nat.le_refl 1) cs with
    | closed body rest cut zero inside length_eq =>
      have hcut : s.rest =
          Mark.texts (.opener :: (body ++ [.closer])) ++ Mark.texts rest := by
        rw [← texts_marks s.rest, hmarks, cut]
        simp [Mark.texts]
      have hlength : 2 + commentLength 1 cs =
          (Mark.texts (.opener :: (body ++ [.closer]))).length := by
        rw [length_eq, Mark.texts_cons, List.length_append]
        rfl
      refine .inl ⟨body, rest, by rw [hmarks, cut], zero, inside, ?_, ?_⟩
      · rw [hlength, hcut, List.take_left]
      · rw [hlength, hcut, List.drop_left]
    | unclosed inside length_eq =>
      have hlength : 2 + commentLength 1 cs = s.rest.length := by
        rw [length_eq, texts_marks, hr, List.length_cons, List.length_cons]
        omega
      exact .inr ⟨inside, by rw [hlength, List.take_length], by rw [hlength, List.drop_length]⟩
  · -- The run goes on past the comment, and from there the text is read as any other.
    have hall := run.trans (.single emits)
    have htokens := hall.tokens_eq
    rw [hall.tokens_rest rfl rfl, List.append_assoc] at htokens
    exact htokens

/-- The slash after the star of an opener closes nothing. -/
theorem tokenize_comment_slash :
    ∃ token t, Emits ⟨.root, 0, ⟨1, 2, 1⟩, ['/', '*', '/', ' ', '*', '/', 'x']⟩ token t ∧
      token.kind = .comment ∧ t.mode = .root ∧
      tokenize ['a', '/', '*', '/', ' ', '*', '/', 'x'] =
        ⟨.identifier, ['a'], .start, ⟨1, 2, 1⟩⟩ :: token ::
          (tokenize t.rest).map (Token.move (Position.rebase t.position)) := by
  have run : Run (State.initial ['a', '/', '*', '/', ' ', '*', '/', 'x'])
      [⟨.identifier, ['a'], .start, ⟨1, 2, 1⟩⟩]
      ⟨.root, 0, ⟨1, 2, 1⟩, ['/', '*', '/', ' ', '*', '/', 'x']⟩ :=
    .single (.now (by decide +kernel))
  obtain ⟨token, t, emits, hkind, hmode, -, -, htokens⟩ := tokenize_comment run rfl rfl
  exact ⟨token, t, emits, hkind, hmode, htokens⟩

example : marks ['/', '*', '/', '/', '*', '*', '*', '/'] =
    [.opener, .other '/', .opener, .other '*', .closer] := by
  decide +kernel

end Lexer

end ScadText
