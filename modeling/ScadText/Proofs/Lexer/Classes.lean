import ScadText.Proofs.Lexer.Grammar
import ScadText.Proofs.Text.Span

/-!
# Classes of characters and their runs

The tests of the lexer decide the classes of the grammar, and a run of a class reaches up to the
first character that is not in it.

## Main statements

* `isWordStart_iff`, `isDigit_iff` and so on: the tests and the classes.
* `take_run`, `drop_run`: a run and what comes after it.
* `length_le_run`: a run is maximal.
-/

namespace ScadText.Lexer

open Grammar Extent

/-! ## The classes -/

theorem isLower_iff {c : Char} : c.isLower = true ↔ c ∈ lower := by
  have hc : c.isLower = (decide ('a' ≤ c) && decide (c ≤ 'z')) := rfl
  simp [hc, lower]

theorem isTypeStart_iff {c : Char} : isTypeStart c = true ↔ c ∈ upper := by
  have hc : isTypeStart c = decide ('A' ≤ c ∧ c ≤ 'Z') := rfl
  simp [hc, upper]

theorem isDigit_iff {c : Char} : isDigit c = true ↔ c ∈ digit := by
  have hc : isDigit c = (decide ('0' ≤ c) && decide (c ≤ '9')) := rfl
  simp [hc, digit]

theorem isHexDigit_iff {c : Char} : isHexDigit c = true ↔ c ∈ hexDigit := by
  have hd : c.isDigit = true ↔ c ∈ digit := isDigit_iff
  simp [isHexDigit, hexDigit, ← hd]

theorem isWordStart_iff {c : Char} : isWordStart c = true ↔ c ∈ wordStart := by
  simp only [isWordStart, wordStart, Bool.or_eq_true, isLower_iff, beq_iff_eq, or_assoc]
  exact Iff.rfl

theorem isWordChar_iff {c : Char} : isWordChar c = true ↔ c ∈ wordChar := by
  have hu : c.isUpper = true ↔ c ∈ upper := isTypeStart_iff
  have hd : c.isDigit = true ↔ c ∈ digit := isDigit_iff
  have hc : c.isAlphanum = (c.isUpper || c.isLower || c.isDigit) := rfl
  simp only [isWordChar, wordChar, hc, Bool.or_eq_true, isLower_iff, hu, hd, beq_iff_eq, or_assoc,
    Set.mem_union, Set.mem_insert_iff, Set.mem_singleton_iff]

theorem isBlank_iff {c : Char} : isBlank c = true ↔ c ∈ blank := by
  simp [isBlank, blank, or_assoc]

theorem isLineBreak_iff {c : Char} : isLineBreak c = true ↔ c ∈ lineBreak := by
  simp [isLineBreak, lineBreak]

theorem not_isLineBreak_iff {c : Char} : (!isLineBreak c) = true ↔ c ∈ lineBreakᶜ := by
  rw [Set.mem_compl_iff, ← isLineBreak_iff, Bool.not_eq_true', Bool.not_eq_true]

theorem isSymbol_iff {c : Char} : Vocabulary.isSymbol c = true ↔ c ∈ symbol := by
  simp [Vocabulary.isSymbol, Vocabulary.symbolChars, symbol]

theorem isBracket_iff {c : Char} :
    isBracket c = true ↔ c ∈ ({'{', '}', '(', ')', '[', ']'} : Set Char) := by
  simp [isBracket]

theorem isDelimiter_iff {c : Char} : isDelimiter c = true ↔ c ∈ ({';', ',', '.'} : Set Char) := by
  simp [isDelimiter, or_assoc]

theorem upper_subset_wordChar : upper ⊆ wordChar := fun _ h => .inl (.inl (.inl h))

theorem digit_subset_wordChar : digit ⊆ wordChar := fun _ h => .inl (.inr h)

theorem wordStart_subset_wordChar : wordStart ⊆ wordChar := by
  rintro c (h | h)
  · exact .inl (.inl (.inr h))
  · exact .inr h

theorem hexDigit_subset_wordChar : hexDigit ⊆ wordChar := by
  rintro c ((h | ⟨ha, hf⟩) | ⟨ha, hf⟩)
  · exact digit_subset_wordChar h
  · exact .inl (.inl (.inr ⟨ha, hf.trans (by decide)⟩))
  · exact upper_subset_wordChar ⟨ha, hf.trans (by decide)⟩

theorem isLiteral_iff {c : Char} : isLiteral c = true ↔ c ∈ ({'"', '\\'}ᶜ : Set Char) := by
  simp [isLiteral]

theorem simpleEscapes_iff {c : Char} : simpleEscapes.contains c = true ↔ c ∈ escapeLetter := by
  simp [simpleEscapes, escapeLetter]

/-! ## Runs -/

section Runs

variable {p : Char → Bool} {a cs rest : List Char}

theorem run_append_of_stop (ha : ∀ c ∈ a, p c = true) (hr : ∀ c ∈ rest.head?, p c = false) :
    run p (a ++ rest) = a.length := by
  rw [run, Text.takeWhile_append_of_stop ha hr]

theorem take_run (p : Char → Bool) (cs : List Char) : cs.take (run p cs) = cs.takeWhile p :=
  (List.prefix_iff_eq_take.mp (List.takeWhile_prefix p)).symm

theorem drop_run (p : Char → Bool) (cs : List Char) : cs.drop (run p cs) = cs.dropWhile p := by
  have h : cs.takeWhile p ++ cs.dropWhile p = cs := List.takeWhile_append_dropWhile
  calc cs.drop (run p cs) = (cs.takeWhile p ++ cs.dropWhile p).drop (run p cs) := by rw [h]
    _ = cs.dropWhile p := List.drop_left

theorem of_mem_takeWhile {c : Char} (h : c ∈ cs.takeWhile p) : p c = true :=
  List.all_eq_true.mp List.all_takeWhile c h

theorem of_mem_head?_dropWhile {c : Char} (h : c ∈ (cs.dropWhile p).head?) : p c = false := by
  have := List.head?_dropWhile_not p cs
  rwa [Option.mem_def.mp h] at this

/-- A run inside the first characters of a text. -/
theorem run_take (p : Char → Bool) (n : Nat) (cs : List Char) :
    run p (cs.take n) = min n (run p cs) := by
  rw [run, run, ← List.take_takeWhile, List.length_take]

/-- What stands at the front of a text and belongs to the class is part of the run. -/
theorem length_le_run (ha : ∀ c ∈ a, p c = true) (rest : List Char) :
    a.length ≤ run p (a ++ rest) := by
  rw [run, List.takeWhile_append_of_pos ha, List.length_append]
  omega

end Runs

end ScadText.Lexer
