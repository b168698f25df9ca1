import Mathlib.Data.List.DropRight
import ScadText.Text.Lines

/-!
# Where a text is cut into lines

A cut of a text lies on the line whose number is the count of line feeds before the cut. That line
holds what is left of the text before the cut after its last line feed, and then the text after the
cut up to its first line feed.

## Main definitions

* `lastLine`, `firstLine`: the ends of a text that touch a cut.

## Main statements

* `lines_induction`: a text is one line, or a line and a text after it.
* `getElem?_lines`: the line on which a cut lies.
-/

namespace ScadText.Text

/-- What comes after the last line feed of a text. -/
def lastLine (text : List Char) : List Char := text.rtakeWhile (· != '\n')

/-- What comes before the first line feed of a text. -/
def firstLine (text : List Char) : List Char := text.takeWhile (· != '\n')

variable {line text rest : List Char}

theorem ne_newline_of_notMem (h : '\n' ∉ line) : ∀ c ∈ line, (c != '\n') = true := by
  intro c hc
  rw [bne_iff_ne]
  rintro rfl
  exact h hc

theorem newline_notMem_firstLine (text : List Char) : '\n' ∉ firstLine text := by
  intro h
  simpa using List.all_eq_true.mp List.all_takeWhile '\n' h

/-- A text ends with its first line, or goes on after a line feed. -/
theorem firstLine_cases (text : List Char) :
    text = firstLine text ∨ ∃ rest, text = firstLine text ++ '\n' :: rest := by
  have hcut : firstLine text ++ text.dropWhile (· != '\n') = text := List.takeWhile_append_dropWhile
  cases hd : text.dropWhile (· != '\n') with
  | nil =>
    rw [hd, List.append_nil] at hcut
    exact .inl hcut.symm
  | cons c rest =>
    have hc := List.head?_dropWhile_not (· != '\n') text
    rw [hd, List.head?_cons] at hc
    have hc : c = '\n' := by simpa using hc
    exact .inr ⟨rest, by rw [← hc, ← hd, hcut]⟩

/-- Induction on the lines of a text. -/
theorem lines_induction {motive : List Char → Prop} (last : ∀ line, '\n' ∉ line → motive line)
    (more : ∀ line rest, '\n' ∉ line → motive rest → motive (line ++ '\n' :: rest))
    (text : List Char) : motive text := by
  obtain h | ⟨rest, h⟩ := firstLine_cases text
  · exact h ▸ last _ (newline_notMem_firstLine text)
  · have shorter : rest.length < text.length := by
      rw [h, List.length_append, List.length_cons]
      omega
    exact h ▸ more _ rest (newline_notMem_firstLine text) (lines_induction last more rest)
termination_by text.length

theorem lines_of_notMem (h : '\n' ∉ line) : lines line = [line] := by
  induction line with
  | nil => rfl
  | cons c line ih =>
    rw [List.mem_cons, not_or] at h
    rw [lines, if_neg (Ne.symm h.1), ih h.2]

theorem lines_append_newline (h : '\n' ∉ line) (rest : List Char) :
    lines (line ++ '\n' :: rest) = line :: lines rest := by
  induction line with
  | nil => rfl
  | cons c line ih =>
    rw [List.mem_cons, not_or] at h
    rw [List.cons_append, lines, if_neg (Ne.symm h.1), ih h.2]

/-- What stands in a line stands in the text. -/
theorem mem_of_mem_lines {c : Char} (h : line ∈ lines text) (hc : c ∈ line) : c ∈ text := by
  induction text using lines_induction with
  | last only hone =>
    rw [lines_of_notMem hone, List.mem_singleton] at h
    exact h ▸ hc
  | more first rest hfirst ih =>
    rw [lines_append_newline hfirst, List.mem_cons] at h
    obtain rfl | h := h
    · exact List.mem_append_left _ hc
    · exact List.mem_append_right _ (List.mem_cons_of_mem _ (ih h))

/-! ## The ends at a cut -/

theorem lastLine_of_notMem (h : '\n' ∉ line) : lastLine line = line :=
  List.rtakeWhile_eq_self_iff.mpr (ne_newline_of_notMem h)

theorem lastLine_append (text : List Char) (h : '\n' ∉ line) :
    lastLine (text ++ line) = lastLine text ++ line := by
  induction line using List.reverseRecOn with
  | nil => rw [List.append_nil, List.append_nil]
  | append_singleton line c ih =>
    rw [List.mem_append, not_or, List.mem_singleton] at h
    have hc : (c != '\n') = true := by simpa using Ne.symm h.2
    rw [lastLine, ← List.append_assoc, List.rtakeWhile_concat, if_pos hc, ← List.append_assoc]
    exact congrArg (· ++ [c]) (ih h.1)

theorem lastLine_append_newline (line rest : List Char) :
    lastLine (line ++ '\n' :: rest) = lastLine rest := by
  induction rest using List.reverseRecOn with
  | nil => simp [lastLine]
  | append_singleton rest c ih =>
    rw [← List.cons_append, ← List.append_assoc, lastLine, List.rtakeWhile_concat, lastLine,
      List.rtakeWhile_concat]
    exact congrArg (fun last => if (c != '\n') = true then last ++ [c] else []) ih

theorem firstLine_append (h : '\n' ∉ line) (text : List Char) :
    firstLine (line ++ text) = line ++ firstLine text :=
  List.takeWhile_append_of_pos (ne_newline_of_notMem h)

theorem lines_append_of_notMem (h : '\n' ∉ line) (text : List Char) :
    ∃ others, lines (line ++ text) = (line ++ firstLine text) :: others := by
  have hline : '\n' ∉ line ++ firstLine text := by
    rw [List.mem_append, not_or]
    exact ⟨h, newline_notMem_firstLine text⟩
  obtain hcut | ⟨rest, hcut⟩ := firstLine_cases text
  · refine ⟨[], ?_⟩
    rw [← lines_of_notMem hline, ← hcut]
  · refine ⟨lines rest, ?_⟩
    rw [← lines_append_newline hline, List.append_assoc, ← hcut]

/-- The line on which a cut of a text lies. -/
theorem getElem?_lines (text rest : List Char) :
    (lines (text ++ rest))[text.count '\n']? = some (lastLine text ++ firstLine rest) := by
  induction text using lines_induction with
  | last line h =>
    obtain ⟨others, hlines⟩ := lines_append_of_notMem h rest
    rw [hlines, List.count_eq_zero.mpr h, lastLine_of_notMem h]
    rfl
  | more line text h ih =>
    rw [List.append_assoc, List.cons_append, lines_append_newline h, List.count_append,
      List.count_eq_zero.mpr h, List.count_cons_self, Nat.zero_add, List.getElem?_cons_succ, ih,
      lastLine_append_newline]

end ScadText.Text
