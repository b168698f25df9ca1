import ScadText.Editor.Folding
import ScadText.Proofs.Finding.Repair
import ScadText.Proofs.Text.Returns

/-!
# Findings, regions and carriage returns before line feeds

A line that has come to end in a carriage return is judged as before: it is blank to every test of a
line, and continues no name and no word. Only the end of the line, at which a missing semicolon is
reported, is one column further right.

## Main definitions

* `endsReturned`: whether the line on which a finding lies ends in a carriage return.
* `Finding.returned`: a finding of a text as it is in the text with the carriage returns.

## Main statements

* `lacksTerminator_append_return`, `marker?_append_return`: the tests of a line.
* `lintLine_of_returnedLine`, `lintLines_of_returned`: the findings of one line, and of all lines.
* `lint_of_returned`: the findings and the regions of the two texts.
-/

namespace ScadText

open Text

variable {line other text s t : List Char} {lines others all front : List (List Char)}
  {finding : Finding} {number : Int}

/-! ## The tests of a line -/

/-- A character that is removed at the end may as well be there. -/
theorem Text.trim_append_of_pos {p : Char → Bool} {c : Char} (h : p c = true)
    (text : List Char) : trim p (text ++ [c]) = trim p text := by
  rw [trim, trim, List.dropWhile_append]
  split
  · next hempty =>
    rw [List.isEmpty_iff.mp hempty]
    simp [h]
  · simp [trimEnd, h]

theorem Statement.lacksTerminator_append_return (line : List Char) :
    lacksTerminator (line ++ ['\r']) = lacksTerminator line := by
  have htrim : trimLine (line ++ ['\r']) = trimLine line := trim_append_of_pos (by decide) line
  rw [lacksTerminator, lacksTerminator, htrim]

namespace Folding

/-- What a line comment holds ends in the carriage return too, unless it is empty. -/
theorem commentBody?_append_return (line : List Char) :
    commentBody? (line ++ ['\r']) =
      (commentBody? line).map fun body => if body = [] then [] else body ++ ['\r'] := by
  have hblank : Unicode.isBlank '\r' = true := by decide
  have hdrop (text : List Char) : (text ++ ['\r']).dropWhile Unicode.isBlank =
      if text.dropWhile Unicode.isBlank = [] then []
      else text.dropWhile Unicode.isBlank ++ ['\r'] := by
    rw [List.dropWhile_append]
    simp [hblank]
  rw [commentBody?, commentBody?, hdrop]
  cases line.dropWhile Unicode.isBlank with
  | nil => rfl
  | cons c cut =>
    rw [if_neg (List.cons_ne_nil c cut), List.cons_append]
    cases cut with
    | nil => simp
    | cons d cut =>
      by_cases hslashes : c = '/' ∧ d = '/'
      · obtain ⟨rfl, rfl⟩ := hslashes
        exact congrArg some (hdrop cut)
      · simp_all

theorem isPrefixOf_append_return {word : List Char} (hword : '\r' ∉ word) (text : List Char) :
    word.isPrefixOf (text ++ ['\r']) = word.isPrefixOf text := by
  rw [Bool.eq_iff_iff, List.isPrefixOf_iff_prefix, List.isPrefixOf_iff_prefix,
    List.prefix_concat_iff]
  apply or_iff_right
  rintro rfl
  simp at hword

/-- A carriage return continues no word. -/
theorem endsWord_append_return (rest : List Char) :
    Unicode.endsWord (rest ++ ['\r']) = Unicode.endsWord rest := by
  cases rest with
  | nil => decide
  | cons c rest => rfl

theorem isMarked_append_return {word : List Char} (hword : '\r' ∉ word) (body : List Char) :
    isMarked word (body ++ ['\r']) = isMarked word body := by
  have hboth (text : List Char) :
      (word.isPrefixOf (text ++ ['\r']) &&
        Unicode.endsWord ((text ++ ['\r']).drop word.length)) =
      (word.isPrefixOf text && Unicode.endsWord (text.drop word.length)) := by
    rw [isPrefixOf_append_return hword]
    cases h : word.isPrefixOf text with
    | false => rfl
    | true =>
      obtain ⟨rest, rfl⟩ := List.isPrefixOf_iff_prefix.mp h
      rw [List.append_assoc, List.drop_left, List.drop_left, endsWord_append_return]
  cases body with
  | nil => exact hboth []
  | cons c body =>
    simp only [isMarked, List.cons_append, List.head?_cons, List.tail_cons]
    by_cases hhash : some c = some '#'
    · simp only [hhash, if_true]
      exact hboth body
    · simp only [hhash, if_false]
      exact hboth (c :: body)

theorem marker?_append_return (line : List Char) : marker? (line ++ ['\r']) = marker? line := by
  have hwords (marker : Marker) : '\r' ∉ marker.word := by cases marker <;> decide
  rw [marker?, marker?, commentBody?_append_return]
  cases commentBody? line with
  | none => rfl
  | some body =>
    cases body with
    | nil => rfl
    | cons c body =>
      simp only [Option.map_some, if_neg (List.cons_ne_nil c body),
        isMarked_append_return (hwords _)]

theorem pairUp_of_returned (h : List.Forall₂ ReturnedLine lines others) (waiting : List Nat)
    (number : Nat) : pairUp waiting number others = pairUp waiting number lines := by
  induction h generalizing waiting number with
  | nil => rfl
  | @cons line other lines others hline _ ih =>
    have hmarker : marker? other = marker? line := by
      cases hline with
      | same => rfl
      | ended => exact marker?_append_return line
    simp only [pairUp, hmarker, ih]

theorem regions_of_returned (h : Returned s t) : regions t = regions s := by
  rw [regions, regions, pairUp_of_returned h.lines]

end Folding

/-! ## The findings of a line -/

/-- The line on which the finding lies ends in a carriage return. -/
def endsReturned (lines : List (List Char)) (finding : Finding) : Bool :=
  (lines[(finding.line - 1).toNat]?.bind List.getLast?) == some '\r'

/-- How far to the right a finding comes to stand in a text with these lines: a missing semicolon is
reported behind the carriage return that the line has got. -/
def Finding.shift (lines : List (List Char)) (finding : Finding) : Int :=
  if finding.isMissingSemicolon && endsReturned lines finding then 1 else 0

/-- The finding as it is in the text with the carriage returns. -/
def Finding.returned (lines : List (List Char)) (finding : Finding) : Finding :=
  { finding with
    column := finding.column + finding.shift lines
    endColumn := finding.endColumn + finding.shift lines }

theorem map_returned_eq_self {findings : List Finding}
    (h : ∀ finding ∈ findings, finding.isMissingSemicolon = false) (lines : List (List Char)) :
    findings.map (Finding.returned lines) = findings := by
  have hself : ∀ finding ∈ findings, finding.returned lines = id finding := by
    intro finding hmem
    simp [Finding.returned, Finding.shift, h finding hmem]
  rw [List.map_congr_left hself, List.map_id]

/-- A missing semicolon comes to stand as much further right as its line has got longer. -/
theorem Finding.length_add_shift (h : ReturnedLine line other) (hline : '\r' ∉ line)
    (hnumber : lines[(finding.line - 1).toNat]? = some other)
    (hmissing : finding.isMissingSemicolon = true) :
    (line.length : Int) + finding.shift lines = other.length := by
  have hends : endsReturned lines finding = (other.getLast? == some '\r') := by
    rw [endsReturned, hnumber]
    rfl
  rw [shift, hmissing, hends, Bool.true_and]
  cases h with
  | same =>
    have hlast : line.getLast? ≠ some '\r' := fun h => hline (List.mem_of_getLast? h)
    simp [hlast]
  | ended => simp

/-- A missing semicolon is reported at the end of the line, whatever the line ends in. -/
theorem missingSemicolon?_of_returnedLine (h : ReturnedLine line other) (hline : '\r' ∉ line)
    (hnumber : lines[(number - 1).toNat]? = some other) :
    Statement.missingSemicolon? other number =
      (Statement.missingSemicolon? line number).map (Finding.returned lines) := by
  have hother : Statement.lacksTerminator other = Statement.lacksTerminator line := by
    cases h with
    | same => rfl
    | ended => exact Statement.lacksTerminator_append_return line
  rw [Statement.missingSemicolon?, Statement.missingSemicolon?, hother]
  split
  · next hlacks =>
    have hfinding : Statement.missingSemicolon? line number = some _ := if_pos hlacks
    have hcolumn := Finding.length_add_shift h hline hnumber
      (isMissingSemicolon_of_missingSemicolon? hfinding)
    simp only [Option.map_some, Finding.returned, Option.some.injEq, Finding.mk.injEq, true_and]
    exact ⟨hcolumn.symm, by omega⟩
  · rfl

/-- The findings of a line that has come to be `other`. -/
theorem lintLine_of_returnedLine (h : ReturnedLine line other) (hline : '\r' ∉ line)
    (hnumber : lines[(number - 1).toNat]? = some other) :
    lintLine other number = (lintLine line number).map (Finding.returned lines) := by
  have hunknown : SpecialVariable.unknown other number = SpecialVariable.unknown line number := by
    cases h with
    | same => rfl
    | ended => exact SpecialVariable.unknown_append_singleton (by decide) line number
  rw [lintLine, lintLine, List.map_append, hunknown,
    map_returned_eq_self (fun _ => isMissingSemicolon_of_mem_unknown),
    missingSemicolon?_of_returnedLine h hline hnumber, Option.toList_map]

/-- The findings of all lines after the lines `front`, which say on what line of the text a finding
lies. -/
theorem lintLines_of_returned (h : List.Forall₂ ReturnedLine lines others)
    (hlines : ∀ line ∈ lines, '\r' ∉ line) (front : List (List Char)) :
    lintLines (front.length + 1) others =
      (lintLines (front.length + 1) lines).map (Finding.returned (front ++ others)) := by
  induction h generalizing front with
  | nil => rfl
  | @cons line other lines others hline _ ih =>
    obtain ⟨hfirst, hlines⟩ := List.forall_mem_cons.mp hlines
    have hnumber : (front ++ other :: others)[((front.length + 1 : Int) - 1).toNat]? =
        some other := by
      simp
    have hrest := ih hlines (front ++ [other])
    rw [List.length_append, List.append_assoc] at hrest
    rw [lintLines, lintLines, List.map_append, lintLine_of_returnedLine hline hfirst hnumber]
    exact congrArg _ hrest

/-! ## Two texts -/

theorem unmatched_of_returned (h : Returned s t) : Balance.unmatched t = Balance.unmatched s := by
  have hne : ∀ pair ∈ Balance.pairs, pair.opening ≠ '\r' ∧ pair.closing ≠ '\r' := by decide
  refine List.filterMap_congr fun pair hpair => ?_
  rw [h.count_eq (hne pair hpair).1, h.count_eq (hne pair hpair).2]

/-- A carriage return before any of the line feeds changes no finding and no region: the findings
are the same one after the other, in the same columns, except that a missing semicolon on a line
that has come to end in a carriage return is reported one column further right. -/
theorem lint_of_returned (h : Returned s t) :
    lint t = (lint s).map (Finding.returned (Text.lines t)) ∧
      Folding.regions t = Folding.regions s := by
  have hlines : ∀ line ∈ Text.lines s, '\r' ∉ line := fun line hline hmem =>
    h.return_notMem (mem_of_mem_lines hline hmem)
  refine ⟨?_, Folding.regions_of_returned h⟩
  rw [lint, lint, List.map_append, unmatched_of_returned h,
    map_returned_eq_self fun _ => isMissingSemicolon_of_mem_unmatched]
  exact congrArg (· ++ Balance.unmatched s) (lintLines_of_returned h.lines hlines [])

/-- One of the two lines gets a carriage return, and its two findings part. -/
theorem lint_of_returned_mixed :
    lint ['$', 'a', '=', '1', '\r', '\n', 'b', '=', '2', '\n'] =
      [⟨.warning, "missing-semicolon", "Missing semicolon", 1, 5, 1, 6⟩,
        ⟨.warning, "unknown-special-variable", "Unknown special variable '$a'", 1, 1, 1, 3⟩,
        ⟨.warning, "missing-semicolon", "Missing semicolon", 2, 3, 2, 4⟩] := by
  have h : Returned ['$', 'a', '=', '1', '\n', 'b', '=', '2', '\n']
      ['$', 'a', '=', '1', '\r', '\n', 'b', '=', '2', '\n'] :=
    .keep (by decide) (.keep (by decide) (.keep (by decide) (.keep (by decide)
      (.put (.refl (by decide))))))
  rw [(lint_of_returned h).1]
  decide +kernel

end ScadText
