import ScadText.Proofs.Text.Lines
import ScadText.Token.Basic

/-!
# Places in a source

What a position says about a source: how much of it lies before the position, on which line it is
and how far into the line.

## Main definitions

* `lineStart`: where the line of an offset starts.
* `Position.Locates`: the position is right for its offset.

## Main statements

* `Position.start_after`: the position after a text in closed form.
* `Position.locates_after`: reading a source gives positions that are right.
-/

namespace ScadText

/-- The offset just after the last line feed before `offset`, or zero where there is none. -/
def lineStart (source : List Char) (offset : Nat) : Nat :=
  ((source.take offset).rdropWhile (· != '\n')).length

namespace Position

/-- The line and the column of a position are those of its offset in the source. -/
structure Locates (p : Position) (source : List Char) : Prop where
  offset_le : p.offset ≤ source.length
  line_eq : p.line = 1 + (source.take p.offset).count '\n'
  column_eq : p.column = p.offset - lineStart source p.offset + 1

theorem line_after (p : Position) (text : List Char) :
    (p.after text).line = p.line + text.count '\n' := by
  induction text generalizing p with
  | nil => rfl
  | cons c text ih =>
    rw [after_cons, ih, List.count_cons, advance]
    by_cases hc : c = '\n'
    · simp only [hc, if_true, beq_self_eq_true]
      omega
    · simp [hc]

/-- Columns count the characters after the last line feed. -/
theorem start_after (text : List Char) :
    start.after text = ⟨1 + text.count '\n', (Text.lastLine text).length + 1, text.length⟩ := by
  induction text using List.reverseRecOn with
  | nil => rfl
  | append_singleton text c ih =>
    rw [after_append, ih, after_cons, after_nil, advance]
    by_cases hc : c = '\n'
    · simp [hc, Text.lastLine, Nat.add_assoc]
    · have hline : Text.lastLine (text ++ [c]) = Text.lastLine text ++ [c] :=
        Text.lastLine_append text (by simp [Ne.symm hc])
      simp [hc, hline]

theorem locates_after (text rest : List Char) : (start.after text).Locates (text ++ rest) := by
  rw [start_after]
  have hcut : text.rdropWhile (· != '\n') ++ Text.lastLine text = text :=
    List.rdropWhile_append_rtakeWhile
  have hlength := congrArg List.length hcut
  rw [List.length_append] at hlength
  refine ⟨?_, ?_, ?_⟩
  · simp
  · rw [List.take_left]
  · rw [lineStart, List.take_left]
    dsimp only
    omega

end Position

end ScadText
