import ScadText.Vocabulary
import ScadText.Token.Basic
import ScadText.Token.Extent

/-!
# The lexer

A machine of four modes reads a text from left to right. In each mode the characters ahead decide
one action: to emit a token of some length, or to enter another mode without reading. The lexer
refuses nothing: malformed constructs become tokens of the invalid kinds or plain text.

## Main definitions

* `Mode`, `State`: what the machine remembers.
* `Mode.action`: what it does in front of a character.
* `State.step`, `State.tokens`: one action, and all that follow.
* `tokenize`: the tokens of a source.

## Main statements

* `action_emit_pos`: a token that is emitted is not empty.
* `measure_step_lt`: every action reads on or comes closer to reading, so the machine stops.
-/

namespace ScadText.Lexer

open Extent Vocabulary

/-- Where the machine stands: between lexemes, in front of a blank run or a comment, in front of a
block comment, or inside a string before its closing quote. -/
inductive Mode where
  | root | blank | comment | string
  deriving DecidableEq, Repr

/-- What to do in front of a character: emit a token of `length` characters and go on in the mode
`next`, or go on in another mode at the same place. -/
inductive Action where
  | emit (kind : TokenKind) (length : Nat) (next : Mode)
  | enter (mode : Mode)
  deriving DecidableEq, Repr

/-- The mode, the number of block comments open at the cursor, the cursor, and the text ahead. -/
structure State where
  mode : Mode
  depth : Nat
  position : Position
  rest : List Char
  deriving DecidableEq, Repr

/-- Between lexemes at the start of a text. -/
def State.initial (source : List Char) : State := ⟨.root, 0, .start, source⟩

/-! ## The four modes -/

/-- The kind of a lower-case word, by the first table that holds the whole word. -/
def wordKind (word : List Char) : TokenKind :=
  let w := String.ofList word
  if keywords.contains w then .keyword
  else if builtins.contains w then .builtin
  else if specialVariables.contains w then .specialVariable
  else .identifier

/-- The kind of a maximal run of symbol characters. -/
def symbolKind (symbols : List Char) : TokenKind :=
  if operators.contains (String.ofList symbols) then .operator else .text

/-- The kind and length of a number: with a point if one can be read so, else in base sixteen,
else a run of digits. -/
def numberLexeme (cs : List Char) : TokenKind × Nat :=
  match floatLength? cs with
  | some n => (.numberFloat, n)
  | none =>
    match hexLength? cs with
    | some n => (.numberHex, n)
    | none => (.number, run isDigit cs)

/-- Two slashes, or a slash and a star. -/
def opensComment (c : Char) (cs : List Char) : Bool :=
  c == '/' && cs.head?.any fun d => d == '/' || d == '*'

/-- An angle bracket that is no part of an operator. -/
def isLoneAngle (c : Char) (cs : List Char) : Bool :=
  (c == '<' || c == '>') && !cs.head?.any isSymbol

/-- A digit, or a point with a digit after it. -/
def startsNumber (c : Char) (cs : List Char) : Bool :=
  isDigit c || (c == '.' && cs.head?.any isDigit)

/-- Between lexemes the first rule that fits decides, and takes as much as it can. -/
def rootAction (c : Char) (cs : List Char) : Action :=
  if isWordStart c then
    let word := c :: cs.takeWhile isWordChar
    .emit (wordKind word) word.length .root
  else if isTypeStart c then .emit .typeIdentifier (1 + run isWordChar cs) .root
  else if isBlank c || opensComment c cs then .enter .blank
  else if isBracket c || isLoneAngle c cs then .emit .bracket 1 .root
  else if isSymbol c then
    let symbols := (c :: cs).takeWhile isSymbol
    .emit (symbolKind symbols) symbols.length .root
  else if startsNumber c cs then
    let lexeme := numberLexeme (c :: cs)
    .emit lexeme.1 lexeme.2 .root
  else if isDelimiter c then .emit .delimiter 1 .root
  else if c = '"' then
    match closingQuote? cs with
    | some _ => .emit .string 1 .string
    | none => .emit .stringInvalid (1 + run (!isLineBreak ·) cs) .root
  else .emit .text 1 .root

/-- A block comment is entered, a line comment is taken up to its line break, and anything else is
the first character of a blank run. -/
def blankAction (c : Char) (cs : List Char) : Action :=
  if c = '/' && cs.head? = some '*' then .enter .comment
  else if c = '/' && cs.head? = some '/' then .emit .comment (1 + run (!isLineBreak ·) cs) .root
  else .emit .whitespace (1 + run isBlank cs) .root

/-- A character that is literal text of a string. -/
def isLiteral (c : Char) : Bool := c != '"' && c != '\\'

/-- Inside a string: the closing quote, an escape, or a run of literal text. -/
def stringAction (c : Char) (cs : List Char) : Action :=
  if c = '"' then .emit .string 1 .root
  else if c = '\\' then
    match escapeLength? cs with
    | some n => .emit .stringEscape n .string
    | none => .emit .stringEscapeInvalid 2 .string
  else .emit .string (1 + run isLiteral cs) .string

/-- What the machine does in a mode, in front of the character `c` with `cs` after it. -/
def Mode.action (mode : Mode) (depth : Nat) (c : Char) (cs : List Char) : Action :=
  match mode with
  | .root => rootAction c cs
  | .blank => blankAction c cs
  | .comment => .emit .comment (commentLength depth (c :: cs)) .root
  | .string => stringAction c cs

/-! ## The machine -/

/-- One action, with the token it emits. A comment is left with all its levels, so that none is
open when a token has been emitted. -/
def State.step (s : State) : Option Token × State :=
  match s.rest with
  | [] => (none, s)
  | c :: cs =>
    match s.mode.action s.depth c cs with
    | .enter mode => (none, { s with mode })
    | .emit kind length next =>
      let text := s.rest.take length
      let stop := s.position.after text
      (some ⟨kind, text, s.position, stop⟩, ⟨next, 0, stop, s.rest.drop length⟩)

/-- How many modes may still be entered before something is read. -/
def Mode.rank : Mode → Nat
  | .root => 2
  | .blank => 1
  | .comment | .string => 0

/-- A bound on the number of actions still to come. -/
def State.measure (s : State) : Nat := 3 * s.rest.length + s.mode.rank

theorem Mode.rank_le_two (mode : Mode) : mode.rank ≤ 2 := by cases mode <;> decide

theorem numberLexeme_pos {c : Char} {cs : List Char} (h : startsNumber c cs = true) :
    1 ≤ (numberLexeme (c :: cs)).2 := by
  unfold numberLexeme
  split
  · next hf => exact floatLength?_pos hf
  · next hf =>
    split
    · next hx => exact hexLength?_pos hx
    · simp only [startsNumber, Bool.or_eq_true, Bool.and_eq_true, beq_iff_eq] at h
      rcases h with hd | ⟨rfl, hd⟩
      · exact run_cons_pos hd cs
      · refine absurd hf ?_
        cases cs with
        | nil => simp at hd
        | cons d ds =>
          have hd' : isDigit d = true := by simpa using hd
          have hr : run isDigit ('.' :: d :: ds) = 0 := by
            simp [run, show isDigit '.' = false from rfl]
          have hp := run_cons_pos hd' ds
          simp only [floatLength?, hr, List.drop_zero]
          grind

/-- A token that is emitted has at least one character. -/
theorem action_emit_pos {mode next : Mode} {depth n : Nat} {c : Char} {cs : List Char}
    {kind : TokenKind} (h : mode.action depth c cs = .emit kind n next) : 1 ≤ n := by
  cases mode with
  | root =>
    simp only [Mode.action, rootAction] at h
    have hs := @run_cons_pos isSymbol c
    have hn := @numberLexeme_pos c cs
    unfold run at hs
    grind
  | blank =>
    simp only [Mode.action, blankAction] at h
    grind
  | comment =>
    simp only [Mode.action, Action.emit.injEq] at h
    have := commentLength_cons_pos depth c cs
    grind
  | string =>
    simp only [Mode.action, stringAction] at h
    have := @escapeLength?_ge_two cs
    grind

/-- A mode entered without reading is closer to reading. -/
theorem action_enter_rank {mode next : Mode} {depth : Nat} {c : Char} {cs : List Char}
    (h : mode.action depth c cs = .enter next) : next.rank < mode.rank := by
  cases mode with
  | root =>
    simp only [Mode.action, rootAction] at h
    grind [Mode.rank]
  | blank =>
    simp only [Mode.action, blankAction] at h
    grind [Mode.rank]
  | comment => simp [Mode.action] at h
  | string =>
    simp only [Mode.action, stringAction] at h
    grind

/-- Every action makes the bound smaller. -/
theorem State.measure_step_lt {s : State} (h : s.rest ≠ []) : s.step.2.measure < s.measure := by
  obtain ⟨mode, depth, position, rest⟩ := s
  cases rest with
  | nil => exact absurd rfl h
  | cons c cs =>
    simp only [State.step]
    split
    · next next ha =>
      have := action_enter_rank ha
      simp only [State.measure]
      omega
    · next kind n next ha =>
      have := action_emit_pos ha
      have := next.rank_le_two
      simp only [State.measure, List.length_drop, List.length_cons]
      omega

/-- The tokens emitted from a state until the text ends. -/
def State.tokens (s : State) : List Token :=
  if s.rest = [] then []
  else
    match s.step.1 with
    | some token => token :: s.step.2.tokens
    | none => s.step.2.tokens
termination_by s.measure
decreasing_by all_goals exact State.measure_step_lt ‹_›

end ScadText.Lexer

namespace ScadText

/-- The tokens of a source, from left to right. -/
def tokenize (source : List Char) : List Token := (Lexer.State.initial source).tokens

end ScadText
