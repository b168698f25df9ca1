import ScadText.Proofs.Lexer.Run
import ScadText.Proofs.Token.Place

/-!
# The lexer at another place

What the machine emits depends on where it stands only in the positions of the tokens. A text that
comes to stand elsewhere has its tokens moved there.

## Main definitions

* `Position.Moves`: a map of positions that goes along with reading.
* `Token.move`, `State.move`: a token and a machine at the other place.

## Main statements

* `State.step_move`, `Run.move`: one action and a run of the machine at the other place.
* `tokens_move`: what the machine emits there.
-/

namespace ScadText

variable {f : Position → Position} {p : Position}

/-- Reading on from the image of a position leads to the image of where reading leads. Lines count
from one. -/
structure Position.Moves (f : Position → Position) : Prop where
  advance_eq : ∀ p c, 1 ≤ p.line → f (p.advance c) = (f p).advance c

theorem Position.one_le_line_after (h : 1 ≤ p.line) (text : List Char) :
    1 ≤ (p.after text).line := by
  rw [line_after]
  omega

theorem Position.Moves.after_eq (hf : Moves f) (hp : 1 ≤ p.line) (text : List Char) :
    f (p.after text) = (f p).after text := by
  induction text generalizing p with
  | nil => rfl
  | cons c text ih =>
    have hnext : 1 ≤ (p.advance c).line := one_le_line_after hp [c]
    rw [after_cons, after_cons, ih hnext, hf.advance_eq p c hp]

/-- The token with its two ends moved. -/
def Token.move (f : Position → Position) (token : Token) : Token :=
  { token with
    start := f token.start
    stop := f token.stop }

namespace Lexer

variable {s t : State} {token : Token} {tokens : List Token}

/-- The machine with its cursor moved. -/
def State.move (f : Position → Position) (s : State) : State :=
  { s with position := f s.position }

theorem State.step_move (hf : Position.Moves f) (hs : 1 ≤ s.position.line) :
    (s.move f).step = (s.step.1.map (Token.move f), s.step.2.move f) := by
  cases hr : s.rest with
  | nil => rw [State.step_of_end hr, State.step_of_end (s := s.move f) hr, Option.map_none]
  | cons c cs =>
    cases ha : s.mode.action s.depth c cs with
    | enter mode =>
      rw [State.step_of_enter hr ha, State.step_of_enter (s := s.move f) hr ha]
      rfl
    | emit kind n next =>
      rw [State.step_of_emit hr ha, State.step_of_emit (s := s.move f) hr ha]
      simp only [State.move, Token.move, hf.after_eq hs, Option.map_some]

theorem Emits.one_le_line (h : Emits s token t) (hs : 1 ≤ s.position.line) :
    1 ≤ t.position.line := by
  rw [h.consumes.position_eq, h.consumes.stop_eq]
  exact Position.one_le_line_after hs token.text

theorem Emits.move (h : Emits s token t) (hf : Position.Moves f) (hs : 1 ≤ s.position.line) :
    Emits (s.move f) (token.move f) (t.move f) := by
  induction h with
  | now step => exact .now (by rw [State.step_move hf hs, step, Option.map_some])
  | @later s t u token ahead step _ ih =>
    have ht : 1 ≤ t.position.line := by
      obtain ⟨mode, he⟩ | ⟨_, _, _, _, he⟩ := State.step_cases ahead
      · rw [he, Prod.mk.injEq] at step
        exact step.2 ▸ hs
      · simp [he] at step
    exact .later ahead (by rw [State.step_move hf hs, step, Option.map_none]) (ih ht)

theorem Run.move (h : Run s tokens t) (hf : Position.Moves f) (hs : 1 ≤ s.position.line) :
    Run (s.move f) (tokens.map (Token.move f)) (t.move f) := by
  induction h with
  | nil => exact .nil _
  | cons emits _ ih => exact .cons (emits.move hf hs) (ih (emits.one_le_line hs))

/-- What a machine emits does not depend on where it stands. -/
theorem tokens_move (hf : Position.Moves f) (hs : 1 ≤ s.position.line) :
    (s.move f).tokens = s.tokens.map (Token.move f) := by
  obtain ⟨t, run, ht⟩ := exists_run_to_end s
  have hend : (t.move f).tokens = [] := tokens_eq_nil_iff.mpr ht
  rw [(run.move hf hs).tokens_eq, hend, List.append_nil]

end Lexer

end ScadText
