import ScadText.Proofs.Token.Place

/-!
# Inserting a character at places of a text

An edit names places of a text by line and column, which count from one and are those of the text
before the edit. An edit at the ends of lines changes these lines alone.

## Main definitions

* `insertAt`: a text with a character inserted at some places.
* `AtLineEnds`: the places are ends of lines.

## Main statements

* `count_insertAt`: no other character is added or lost.
* `lines_insertAt`: an edit at the ends of lines, line by line.
-/

namespace ScadText.Text

/-- How often a place is named, by its line and column. -/
def timesNamed (places : List (Int × Int)) (line column : Int) : Nat := places.count (line, column)

/-- The text from a position on with a character inserted at some places: once for each time that
the place is named. -/
def insertAt (c : Char) (places : List (Int × Int)) (p : Position) : List Char → List Char
  | [] => List.replicate (timesNamed places p.line p.column) c
  | d :: text =>
    List.replicate (timesNamed places p.line p.column) c ++
      d :: insertAt c places (p.advance d) text

/-- Lines with numbers from `number` on have as many of the places at their ends as `times` says,
and no others. -/
def AtLineEnds (places : List (Int × Int)) (number : Int) (lines : List (List Char))
    (times : List Char → Nat) : Prop :=
  ∀ (index : Nat) (line : List Char), lines[index]? = some line → ∀ k ≤ line.length,
    timesNamed places (number + index) (k + 1) = if k = line.length then times line else 0

variable {c d : Char} {places : List (Int × Int)} {p : Position} {line text rest : List Char}
  {times : List Char → Nat}

/-- No other character is added or lost. -/
theorem count_insertAt (h : d ≠ c) (places : List (Int × Int)) (p : Position)
    (text : List Char) : (insertAt c places p text).count d = text.count d := by
  induction text generalizing p with
  | nil => simp [insertAt, List.count_replicate, h.symm]
  | cons e text ih => simp [insertAt, List.count_replicate, h.symm, List.count_cons, ih]

theorem notMem_insertAt (h : d ≠ c) (htext : d ∉ text) : d ∉ insertAt c places p text := by
  rw [← List.count_eq_zero, count_insertAt h, List.count_eq_zero]
  exact htext

/-- What is inserted into a part of a text depends on that part and on where it starts. -/
theorem insertAt_append_cons (c : Char) (places : List (Int × Int)) (p : Position)
    (text rest : List Char) (d : Char) : insertAt c places p (text ++ d :: rest) =
      insertAt c places p text ++ d :: insertAt c places (p.after (text ++ [d])) rest := by
  induction text generalizing p with
  | nil => rfl
  | cons e text ih =>
    rw [List.cons_append, insertAt, ih, insertAt]
    simp

theorem insertAt_of_notMem (hline : '\n' ∉ line)
    (clear : ∀ k < line.length, timesNamed places p.line (p.column + k) = 0) :
    insertAt c places p line =
      line ++ List.replicate (timesNamed places p.line (p.column + line.length)) c := by
  induction line generalizing p with
  | nil => simp [insertAt]
  | cons d line ih =>
    rw [List.mem_cons, not_or] at hline
    have hadvance : p.advance d = ⟨p.line, p.column + 1, p.offset + 1⟩ := if_neg (Ne.symm hline.1)
    have hcolumn (k : Nat) : ((p.column + 1 : Nat) + k : Int) = p.column + (k + 1 : Nat) := by omega
    have hfirst : timesNamed places p.line p.column = 0 := by simpa using clear 0 (by simp)
    have hrest : ∀ k < line.length,
        timesNamed places (p.advance d).line ((p.advance d).column + k) = 0 := by
      intro k hk
      rw [hadvance, hcolumn]
      exact clear (k + 1) (by simpa using hk)
    rw [insertAt, hfirst, ih hline.2 hrest, hadvance, hcolumn, List.length_cons]
    simp

theorem AtLineEnds.tail {number : Int} {lines : List (List Char)}
    (h : AtLineEnds places number (line :: lines) times) :
    AtLineEnds places (number + 1) lines times := by
  intro index other hother k hk
  have hnumber : number + 1 + index = number + (index + 1 : Nat) := by omega
  rw [hnumber]
  exact h (index + 1) other hother k hk

/-- An edit at the end of a line. -/
theorem insertAt_of_atLineEnds {lines : List (List Char)} (hline : '\n' ∉ line)
    (h : AtLineEnds places p.line (line :: lines) times) (hp : p.column = 1) :
    insertAt c places p line = line ++ List.replicate (times line) c := by
  have hnamed (k : Nat) (hk : k ≤ line.length) :
      timesNamed places p.line (p.column + k) = if k = line.length then times line else 0 := by
    have hcolumn : (p.column + k : Int) = k + 1 := by omega
    rw [hcolumn]
    simpa using h 0 line rfl k hk
  rw [insertAt_of_notMem hline, hnamed line.length (Nat.le_refl _), if_pos rfl]
  intro k hk
  rw [hnamed k hk.le, if_neg hk.ne]

/-- An edit at the ends of lines changes each line by itself. -/
theorem lines_insertAt (hc : c ≠ '\n') (h : AtLineEnds places p.line (lines text) times)
    (hp : p.column = 1) : lines (insertAt c places p text) =
      (lines text).map fun line => line ++ List.replicate (times line) c := by
  induction text using lines_induction generalizing p with
  | last line hline =>
    have hnew : '\n' ∉ insertAt c places p line := notMem_insertAt hc.symm hline
    rw [lines_of_notMem hline] at h ⊢
    rw [lines_of_notMem hnew, insertAt_of_atLineEnds hline h hp]
    rfl
  | more line rest hline ih =>
    have hnew : '\n' ∉ insertAt c places p line := notMem_insertAt hc.symm hline
    have hnext : (p.after (line ++ ['\n'])).line = p.line + 1 := by
      simp [Position.line_after, List.count_eq_zero.mpr hline]
    rw [lines_append_newline hline] at h ⊢
    rw [insertAt_append_cons, lines_append_newline hnew, insertAt_of_atLineEnds hline h hp, ih]
    · rfl
    · rw [hnext]
      exact h.tail
    · rw [Position.after_append]
      rfl

end ScadText.Text
