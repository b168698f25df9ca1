/-!
# Spans of a text

A span is what stands in front of the first character that fails a test.
-/

namespace ScadText.Text

variable {p : Char → Bool} {s rest : List Char}

theorem takeWhile_append_of_stop (hs : ∀ c ∈ s, p c = true)
    (hstop : ∀ c ∈ rest.head?, p c = false) : (s ++ rest).takeWhile p = s := by
  rw [List.takeWhile_append_of_pos hs]
  cases rest with
  | nil => rw [List.takeWhile_nil, List.append_nil]
  | cons c rest => simp [hstop c rfl]

theorem dropWhile_append_of_stop (hs : ∀ c ∈ s, p c = true)
    (hstop : ∀ c ∈ rest.head?, p c = false) : (s ++ rest).dropWhile p = rest := by
  rw [List.dropWhile_append_of_pos hs]
  cases rest with
  | nil => rfl
  | cons c rest => simp [hstop c rfl]

end ScadText.Text
