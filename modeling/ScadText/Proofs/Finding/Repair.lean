import ScadText.Proofs.Finding.Subject
import ScadText.Proofs.Text.Insert

/-!
# Adding the semicolons that are missing

Where a semicolon is put at the end of every line that is reported to lack one, these findings go
away, and no other finding comes, goes or moves.

## Main definitions

* `missingEnds`: where lines are reported to end without a semicolon.
* `repaired`: a source with a semicolon at each of these places.

## Main statements

* `lacksTerminator_append_semicolon`: a line that ends in a semicolon lacks nothing.
* `unknown_append_singleton`: a character that continues no name changes no name of its line.
* `atLineEnds_missingEnds`: the places are the ends of the lines that lack their terminator.
* `lint_repaired`: what is found after the repair.
-/

namespace ScadText

/-- The finding is about a missing semicolon. -/
def Finding.isMissingSemicolon (finding : Finding) : Bool :=
  finding.code == Rule.missingSemicolon.code

/-- The ends of the findings that are about a missing semicolon. -/
def missingEnds (findings : List Finding) : List (Int × Int) :=
  (findings.filter (·.isMissingSemicolon)).map fun finding => (finding.endLine, finding.endColumn)

/-- The source with a semicolon at the end of each finding about a missing one. -/
def repaired (source : List Char) : List Char :=
  Text.insertAt ';' (missingEnds (lint source)) .start source

variable {finding : Finding} {line name text : List Char} {number : Int}

/-! ## One line -/

/-- A character that is not removed stays at the end. -/
theorem Text.exists_trim_append {p : Char → Bool} {c : Char} (h : p c = false)
    (text : List Char) : ∃ front, trim p (text ++ [c]) = front ++ [c] := by
  have hdrop : ∃ front, (text ++ [c]).dropWhile p = front ++ [c] := by
    induction text with
    | nil => exact ⟨[], by simp [h]⟩
    | cons d text ih =>
      by_cases hd : p d = true
      · simpa [hd] using ih
      · exact ⟨d :: text, by simp [hd]⟩
  obtain ⟨front, hfront⟩ := hdrop
  refine ⟨front, ?_⟩
  rw [trim, hfront]
  apply trimEnd_eq_self
  simpa using h

/-- A line that ends in a semicolon lacks no terminator. -/
theorem Statement.lacksTerminator_append_semicolon (line : List Char) :
    lacksTerminator (line ++ [';']) = false := by
  have hkept : trimmedChars.contains ';' = false := by decide
  obtain ⟨front, hfront⟩ := Text.exists_trim_append hkept line
  have homit : mayOmitTerminator (trimLine (line ++ [';'])) = true := by
    simp [mayOmitTerminator, trimLine, hfront]
  simp [lacksTerminator, homit]

/-- A character that continues no name changes no name of the line at whose end it is put, nor the
place where one is found. -/
theorem SpecialVariable.unknown_append_singleton {c : Char} (hc : isNameChar c = false)
    (line : List Char) (number : Int) : unknown (line ++ [c]) number = unknown line number := by
  have hnames : names (line ++ [c]) = names line := by
    have hnone : names [c] = [] := by simp [names, nameAt?]
    rw [names_append (by simp [hc]), hnone, List.append_nil]
  rw [unknown, unknown, hnames]
  refine List.map_congr_left fun name hname => ?_
  have hinfix := isInfix_of_mem_names (List.mem_filter.mp hname).1
  rw [finding, finding, firstIndex_append hinfix]

/-! ## Findings of a line -/

theorem isMissingSemicolon_of_mem_unknown (h : finding ∈ SpecialVariable.unknown line number) :
    finding.isMissingSemicolon = false := by
  rw [Finding.isMissingSemicolon, (SpecialVariable.pointsAt_of_mem_unknown h).1]
  decide

theorem isMissingSemicolon_of_mem_unmatched (h : finding ∈ Balance.unmatched text) :
    finding.isMissingSemicolon = false := by
  have hne : ∀ pair ∈ Balance.pairs, (pair.rule.code == Rule.missingSemicolon.code) = false := by
    decide
  obtain ⟨pair, hpair, hcode, -⟩ := Balance.pointsAt_of_mem_unmatched h []
  rw [Finding.isMissingSemicolon, hcode]
  exact hne pair hpair

theorem isMissingSemicolon_of_missingSemicolon?
    (h : Statement.missingSemicolon? line number = some finding) :
    finding.isMissingSemicolon = true := by
  rw [Finding.isMissingSemicolon, (Statement.pointsAt_of_missingSemicolon? h).1]
  decide

/-- The findings of a line about its terminator, and the other ones. -/
theorem filter_lintLine (line : List Char) (number : Int) :
    (lintLine line number).filter (·.isMissingSemicolon) =
        (Statement.missingSemicolon? line number).toList ∧
      (lintLine line number).filter (!·.isMissingSemicolon) =
        SpecialVariable.unknown line number := by
  have hfirst : ∀ finding ∈ (Statement.missingSemicolon? line number).toList,
      finding.isMissingSemicolon = true := fun finding h =>
    isMissingSemicolon_of_missingSemicolon? (Option.mem_toList.mp h)
  have hothers : ∀ finding ∈ SpecialVariable.unknown line number,
      finding.isMissingSemicolon = false := fun finding => isMissingSemicolon_of_mem_unknown
  constructor
  · rw [lintLine, List.filter_append, List.filter_eq_self.mpr hfirst,
      List.filter_eq_nil_iff.mpr (by simpa using hothers), List.append_nil]
  · rw [lintLine, List.filter_append, List.filter_eq_nil_iff.mpr (by simpa using hfirst),
      List.filter_eq_self.mpr (by simpa using hothers), List.nil_append]

/-- How many semicolons a line lacks. -/
def lacking (line : List Char) : Nat := if Statement.lacksTerminator line then 1 else 0

theorem lintLine_repaired (line : List Char) (number : Int) :
    lintLine (line ++ List.replicate (lacking line) ';') number =
      (lintLine line number).filter (!·.isMissingSemicolon) := by
  rw [(filter_lintLine line number).2, lintLine, lacking]
  split
  · next hlacks =>
    rw [List.replicate_one, SpecialVariable.unknown_append_singleton (by decide),
      Statement.missingSemicolon?, Statement.lacksTerminator_append_semicolon]
    rfl
  · next hlacks =>
    rw [List.replicate_zero, List.append_nil, Statement.missingSemicolon?, if_neg hlacks]
    rfl

/-! ## All findings -/

theorem missingEnds_lintLine (line : List Char) (number : Int) :
    missingEnds (lintLine line number) =
      List.replicate (lacking line) (number, (line.length + 1 : Int)) := by
  rw [missingEnds, (filter_lintLine line number).1, Statement.missingSemicolon?, lacking]
  split <;> rfl

theorem missingEnds_append (xs ys : List Finding) :
    missingEnds (xs ++ ys) = missingEnds xs ++ missingEnds ys := by
  rw [missingEnds, List.filter_append, List.map_append]
  rfl

theorem line_and_endLine_of_mem_lintLine (h : finding ∈ lintLine line number) :
    finding.line = number ∧ finding.endLine = number := by
  obtain h | h := List.mem_append.mp h
  · rw [Option.mem_toList, Statement.missingSemicolon?] at h
    split at h
    · obtain rfl := Option.some.inj h
      exact ⟨rfl, rfl⟩
    · cases h
  · obtain ⟨name, -, rfl⟩ := List.mem_map.mp h
    exact ⟨rfl, rfl⟩

/-- The findings of later lines are about later lines. -/
theorem timesNamed_of_lt {lines : List (List Char)} {row : Int} (h : row < number) (column : Int) :
    Text.timesNamed (missingEnds (lintLines number lines)) row column = 0 := by
  refine List.count_eq_zero.mpr fun hmem => ?_
  obtain ⟨finding, hfinding, hend⟩ := List.mem_map.mp hmem
  obtain ⟨index, line, -, hline⟩ := mem_lintLines_iff.mp (List.mem_filter.mp hfinding).1
  have hrow := congrArg Prod.fst hend
  rw [(line_and_endLine_of_mem_lintLine hline).2] at hrow
  dsimp only at hrow
  omega

/-- Where a place is named: at the end of the first line, or by the findings of the lines after it.
-/
theorem timesNamed_lintLines_cons (number : Int) (line : List Char) (lines : List (List Char))
    (row column : Int) :
    Text.timesNamed (missingEnds (lintLines number (line :: lines))) row column =
      (if number = row ∧ line.length + 1 = column then lacking line else 0) +
        Text.timesNamed (missingEnds (lintLines (number + 1) lines)) row column := by
  rw [Text.timesNamed, lintLines, missingEnds_append, missingEnds_lintLine, List.count_append,
    List.count_replicate]
  simp only [beq_iff_eq, Prod.mk.injEq]
  rfl

/-- Lines are reported to end without a semicolon at their ends, if they lack one. -/
theorem atLineEnds_missingEnds (number : Int) (lines : List (List Char)) :
    Text.AtLineEnds (missingEnds (lintLines number lines)) number lines lacking := by
  induction lines generalizing number with
  | nil => simp [Text.AtLineEnds]
  | cons first lines ih =>
    rintro (_ | index) line hline k hk <;> rw [timesNamed_lintLines_cons]
    · obtain rfl := Option.some.inj hline
      rw [timesNamed_of_lt (by omega)]
      grind
    · have hnumber : number + (index + 1 : Nat) = number + 1 + index := by omega
      rw [if_neg (by omega), Nat.zero_add, hnumber]
      exact ih (number + 1) index line hline k hk

theorem lintLines_repaired (number : Int) (lines : List (List Char)) :
    lintLines number (lines.map fun line => line ++ List.replicate (lacking line) ';') =
      (lintLines number lines).filter (!·.isMissingSemicolon) := by
  induction lines generalizing number with
  | nil => rfl
  | cons line lines ih =>
    rw [List.map_cons, lintLines, lintLines, List.filter_append, lintLine_repaired, ih]

theorem missingEnds_lint (source : List Char) :
    missingEnds (lint source) = missingEnds (lintLines 1 (Text.lines source)) := by
  have hnone : missingEnds (Balance.unmatched source) = [] := by
    rw [missingEnds, List.filter_eq_nil_iff.mpr, List.map_nil]
    intro finding h
    simp [isMissingSemicolon_of_mem_unmatched h]
  rw [lint, missingEnds_append, hnone, List.append_nil]

theorem lines_repaired (source : List Char) : Text.lines (repaired source) =
    (Text.lines source).map fun line => line ++ List.replicate (lacking line) ';' := by
  rw [repaired, missingEnds_lint]
  exact Text.lines_insertAt (by decide) (atLineEnds_missingEnds 1 _) rfl

theorem unmatched_repaired (source : List Char) :
    Balance.unmatched (repaired source) = Balance.unmatched source := by
  have hne : ∀ pair ∈ Balance.pairs, pair.opening ≠ ';' ∧ pair.closing ≠ ';' := by decide
  refine List.filterMap_congr fun pair hpair => ?_
  rw [repaired, Text.count_insertAt (hne pair hpair).1, Text.count_insertAt (hne pair hpair).2]

/-- After the repair no semicolon is missing, and all other findings are as they were: no other
finding comes, goes or moves. -/
theorem lint_repaired (source : List Char) :
    lint (repaired source) = (lint source).filter (!·.isMissingSemicolon) := by
  have hwhole : (Balance.unmatched source).filter (!·.isMissingSemicolon) =
      Balance.unmatched source := by
    refine List.filter_eq_self.mpr fun finding h => ?_
    simp [isMissingSemicolon_of_mem_unmatched h]
  rw [lint, lint, lines_repaired, lintLines_repaired, unmatched_repaired, List.filter_append,
    hwhole]

-- The semicolon comes after a carriage return, and where the line ends in a comment, into it.
example : repaired "a = 1\r\ncube(2); // b\nc = $x // d".toList =
    "a = 1\r;\ncube(2); // b;\nc = $x // d;".toList := by
  decide +kernel

end ScadText
