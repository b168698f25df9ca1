/-!
# The lines of a text

A line feed ends a line and starts the next, so a text has one line more than it has line feeds.
Every other character belongs to a line, a carriage return before the line feed included.
-/

namespace ScadText.Text

/-- The lines of a text without their line feeds. -/
def lines : List Char → List (List Char)
  | [] => [[]]
  | c :: cs =>
    if c = '\n' then [] :: lines cs
    else
      match lines cs with
      | [] => [[c]]
      | line :: rest => (c :: line) :: rest

theorem lines_ne_nil (text : List Char) : lines text ≠ [] := by
  fun_cases lines text <;> simp_all

theorem length_lines (text : List Char) : (lines text).length = text.count '\n' + 1 := by
  induction text with
  | nil => rfl
  | cons c cs ih =>
    rw [lines]
    by_cases hc : c = '\n'
    · simp [hc, ih]
    · cases hl : lines cs with
      | nil => exact absurd hl (lines_ne_nil cs)
      | cons line rest => simp_all

theorem newline_not_mem_lines {text line : List Char} (h : line ∈ lines text) : '\n' ∉ line := by
  induction text generalizing line with
  | nil => simp_all [lines]
  | cons c cs ih =>
    rw [lines] at h
    by_cases hc : c = '\n'
    · rcases List.mem_cons.mp (by simpa [hc] using h) with rfl | h
      · simp
      · exact ih h
    · cases hl : lines cs with
      | nil => exact absurd hl (lines_ne_nil cs)
      | cons first rest =>
        simp only [hc, if_false, hl] at h
        rcases List.mem_cons.mp h with rfl | h
        · have := @ih first (by simp [hl])
          simp [this, Ne.symm hc]
        · exact ih (by simp [hl, h])

end ScadText.Text
