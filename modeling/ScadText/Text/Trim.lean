/-!
# Removing characters from the ends of a text
-/

namespace ScadText.Text

/-- The text without the longest run of such characters at its end. -/
def trimEnd (p : Char → Bool) (text : List Char) : List Char :=
  (text.reverse.dropWhile p).reverse

/-- The text without such characters at either end. -/
def trim (p : Char → Bool) (text : List Char) : List Char := trimEnd p (text.dropWhile p)

theorem trimEnd_eq_self {p : Char → Bool} {text : List Char}
    (h : ∀ c, text.getLast? = some c → p c = false) : trimEnd p text = text := by
  rw [trimEnd]
  cases hr : text.reverse with
  | nil => simp_all
  | cons c cs =>
    have hc : p c = false := h c (by rw [← List.head?_reverse, hr]; rfl)
    simp only [List.dropWhile, hc]
    rw [← hr, List.reverse_reverse]

end ScadText.Text
