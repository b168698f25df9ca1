/-!
# Line ends

Some systems end a line with a carriage return and a line feed, or with a carriage return alone.
-/

namespace ScadText.Text

/-- Each carriage return with the line feed after it becomes a line feed. -/
def joinLineEnds : List Char → List Char
  | [] => []
  | '\r' :: '\n' :: cs => '\n' :: joinLineEnds cs
  | c :: cs => c :: joinLineEnds cs

/-- Every line end becomes a line feed. -/
def unifyLineEnds : List Char → List Char
  | [] => []
  | '\r' :: '\n' :: cs => '\n' :: unifyLineEnds cs
  | c :: cs => (if c = '\r' then '\n' else c) :: unifyLineEnds cs

theorem return_not_mem_unifyLineEnds (text : List Char) : '\r' ∉ unifyLineEnds text := by
  fun_induction unifyLineEnds text with
  | case1 => simp
  | case2 cs ih => simp [ih]
  | case3 c cs _ ih =>
    by_cases hc : c = '\r'
    · simp [hc, ih]
    · simp [hc, ih, Ne.symm hc]

/-- A text without carriage returns stays as it is. -/
theorem unifyLineEnds_eq_self {text : List Char} (h : '\r' ∉ text) : unifyLineEnds text = text := by
  fun_induction unifyLineEnds text with
  | case1 => rfl
  | case2 cs ih => simp at h
  | case3 c cs _ ih =>
    simp only [List.mem_cons, not_or] at h
    rw [ih h.2, if_neg (Ne.symm h.1)]

end ScadText.Text
