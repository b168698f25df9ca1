import Mathlib.Data.List.Infix
import ScadText.Finding.Lint

/-!
# Where findings lie

Every finding of a source lies on one line of it, between two columns of that line or right after
its last character.

## Main definitions

* `Finding.OnLine`: the finding lies on a line.

## Main statements

* `firstIndex_add_length_le`: the first use of a name lies in its line.
* `exists_onLine_of_mem_lint`: every finding of a source lies on a line of it.
-/

namespace ScadText

/-- The finding lies on a line, which comes after `index` other lines. -/
structure Finding.OnLine (finding : Finding) (index : Nat) (line : List Char) : Prop where
  line_eq : finding.line = index + 1
  endLine_eq : finding.endLine = index + 1
  column_pos : 1 ≤ finding.column
  column_le : finding.column ≤ finding.endColumn
  endColumn_le : finding.endColumn ≤ line.length + 1

variable {finding : Finding} {index : Nat} {line part name text : List Char}

/-! ## Names in a line -/

namespace SpecialVariable

theorem isInfix_of_mem_names (h : name ∈ names line) : name <:+: line := by
  induction line with
  | nil => simp [names] at h
  | cons c line ih =>
    rw [names] at h
    split at h
    · next found hfound =>
      obtain rfl | h := List.mem_cons.mp h
      · exact (nameAt?_eq_take hfound).isInfix
      · exact List.infix_cons (ih h)
    · exact List.infix_cons (ih h)

/-- The first use of a name lies in its line. -/
theorem firstIndex_add_length_le (h : part <:+: text) :
    firstIndex part text + part.length ≤ text.length := by
  induction text with
  | nil =>
    obtain rfl := List.eq_nil_of_infix_nil h
    exact Nat.le_refl 0
  | cons c text ih =>
    rw [firstIndex]
    split
    · next hprefix =>
      rw [Nat.zero_add]
      exact (List.isPrefixOf_iff_prefix.mp hprefix).length_le
    · next hprefix =>
      obtain hp | h := List.infix_cons_iff.mp h
      · exact absurd (List.isPrefixOf_iff_prefix.mpr hp) hprefix
      · have := ih h
        rw [List.length_cons]
        omega

theorem onLine_of_mem_unknown (h : finding ∈ unknown line (index + 1)) :
    finding.OnLine index line := by
  obtain ⟨name, hname, rfl⟩ := List.mem_map.mp h
  have hle := firstIndex_add_length_le (isInfix_of_mem_names (List.mem_filter.mp hname).1)
  refine ⟨rfl, rfl, ?_, ?_, ?_⟩ <;> simp only [SpecialVariable.finding] <;> omega

end SpecialVariable

/-! ## Lines without a terminator -/

namespace Statement

theorem ne_nil_of_lacksTerminator (h : lacksTerminator line = true) : line ≠ [] := by
  rintro rfl
  simp [lacksTerminator, trimLine, Text.trim, Text.trimEnd, mayOmitTerminator] at h

theorem onLine_of_missingSemicolon? (h : missingSemicolon? line (index + 1) = some finding) :
    finding.OnLine index line := by
  rw [missingSemicolon?] at h
  split at h
  · next hlacks =>
    obtain rfl := Option.some.inj h
    have := List.length_pos_iff.mpr (ne_nil_of_lacksTerminator hlacks)
    refine ⟨rfl, rfl, ?_, ?_, ?_⟩ <;> dsimp only <;> omega
  · cases h

end Statement

/-! ## All findings -/

theorem onLine_of_mem_lintLine (h : finding ∈ lintLine line (index + 1)) :
    finding.OnLine index line := by
  obtain h | h := List.mem_append.mp h
  · exact Statement.onLine_of_missingSemicolon? (Option.mem_toList.mp h)
  · exact SpecialVariable.onLine_of_mem_unknown h

/-- The findings of lines are those of each line with its number. -/
theorem mem_lintLines_iff {lines : List (List Char)} {number : Int} :
    finding ∈ lintLines number lines ↔ ∃ (index : Nat) (line : List Char),
      lines[index]? = some line ∧ finding ∈ lintLine line (number + index) := by
  induction lines generalizing number with
  | nil => simp [lintLines]
  | cons line lines ih =>
    have hnumber (index : Nat) : number + (index + 1 : Nat) = number + 1 + index := by omega
    rw [lintLines, List.mem_append, ih]
    constructor
    · rintro (h | ⟨index, other, hother, h⟩)
      · exact ⟨0, line, rfl, by simpa using h⟩
      · exact ⟨index + 1, other, hother, by rwa [hnumber]⟩
    · rintro ⟨_ | index, other, hother, h⟩
      · obtain rfl := Option.some.inj hother
        exact .inl (by simpa using h)
      · exact .inr ⟨index, other, hother, by rwa [hnumber] at h⟩

/-- A finding of a source is one of a line with its number, or one of the whole text. -/
theorem mem_lint_iff : finding ∈ lint text ↔
    (∃ (index : Nat) (line : List Char), (Text.lines text)[index]? = some line ∧
      finding ∈ lintLine line (index + 1)) ∨ finding ∈ Balance.unmatched text := by
  simp only [lint, List.mem_append, mem_lintLines_iff, Int.add_comm 1]

theorem onLine_of_mem_unmatched (h : finding ∈ Balance.unmatched text) (line : List Char) :
    finding.OnLine 0 line := by
  obtain ⟨pair, -, h⟩ := List.mem_filterMap.mp h
  rw [Balance.Pair.unmatched?] at h
  split at h
  · cases h
  · obtain rfl := Option.some.inj h
    refine ⟨rfl, rfl, Int.le_refl 1, Int.le_refl 1, ?_⟩
    dsimp only
    omega

/-- Every finding of a source lies on a line of it. -/
theorem exists_onLine_of_mem_lint (h : finding ∈ lint text) :
    ∃ (index : Nat) (line : List Char), (Text.lines text)[index]? = some line ∧
      finding.OnLine index line := by
  obtain ⟨index, line, hline, h⟩ | h := mem_lint_iff.mp h
  · exact ⟨index, line, hline, onLine_of_mem_lintLine h⟩
  · obtain ⟨line, lines, hlines⟩ := List.exists_cons_of_ne_nil (Text.lines_ne_nil text)
    exact ⟨0, line, by rw [hlines]; rfl, onLine_of_mem_unmatched h line⟩

end ScadText
