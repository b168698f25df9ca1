import Mathlib
import ScadText.Proofs.Editor.Remark
import ScadText.Proofs.Finding.Subject
import ScadText.Proofs.Text.Utf16

/-!
# Ranges of remarks are exact

The range of a remark holds the code units of the characters between the columns of its finding, no
matter which of the characters of the line need two code units.

## Main definitions

* `unitsBefore`: the code units of a line in front of a column.
* `Range.Frames`: the range holds the characters of a finding.

## Main statements

* `locate_eq`, `strictMonoOn_unitsBefore`, `decode_unitsBefore`: columns and code units of a line.
* `frames_of_mem_lint`: the ranges of the remarks on a document.
-/

namespace ScadText.Editor

open Text

variable {finding : Finding} {remark : Remark} {text line : List Char} {column : Int} {index : Nat}

/-! ## Columns of a line -/

/-- The number of code units in front of a column of a line. Columns count from one. -/
def unitsBefore (line : List Char) (column : Int) : Nat := utf16Length (before (column - 1) line)

theorem unitsBefore_of_pos (h : 1 ≤ column) (line : List Char) :
    unitsBefore line column = utf16Length (line.take (column - 1).toNat) := by
  rw [unitsBefore, before, if_neg (by omega)]

/-- A column of a line of the document is located at the code units in front of it. -/
theorem locate_eq (hline : (lines text)[index]? = some line) (column : Int) :
    locate (lines text) (index + 1) column = Position.ofInts? index (unitsBefore line column) := by
  have hpred : (index + 1 - 1 : Int) = index := by omega
  rw [locate, if_pos (by omega), hpred, Int.toNat_natCast, hline, unitsBefore]

/-- Between the first column and the end of the line, different columns have different numbers of
code units in front of them. -/
theorem strictMonoOn_unitsBefore (line : List Char) :
    StrictMonoOn (unitsBefore line) (Set.Icc 1 (line.length + 1)) := by
  rintro column ⟨hpos, -⟩ column' ⟨hpos', hle⟩ hlt
  rw [unitsBefore_of_pos hpos, unitsBefore_of_pos hpos']
  exact utf16Length_take_lt line (by omega) (by omega)

/-- The column is told by the characters which the code units in front of it stand for. -/
theorem decode_unitsBefore (h : column ∈ Set.Icc 1 (line.length + 1 : Int)) :
    (ofUtf16? ((utf16 line).take (unitsBefore line column))).map
      (fun shown => (shown.length + 1 : Int)) = some column := by
  obtain ⟨hpos, hle⟩ := h
  rw [unitsBefore_of_pos hpos, take_utf16, ofUtf16?_utf16, Option.map_some, List.length_take]
  congr 1
  omega

/-! ## Ranges of findings -/

/-- The range lies on one line, within its code units, and holds those of the finding's characters.
-/
structure Range.Frames (range : Range) (line : List Char) (finding : Finding) : Prop where
  one_line : range.stop.line = range.start.line
  start_le_stop : range.start.character ≤ range.stop.character
  stop_le : range.stop.character ≤ utf16Length line
  decode_eq : ofUtf16? ((utf16 line).extract range.start.character range.stop.character) =
    some (finding.shown line)

/-- The code units between two cuts of a text are those of the characters between them. -/
theorem extract_utf16_take (text : List Char) {m n : Nat} (hmn : m ≤ n) :
    (utf16 text).extract (utf16Length (text.take m)) (utf16Length (text.take n)) =
      utf16 (text.extract m n) := by
  obtain ⟨k, rfl⟩ := Nat.exists_eq_add_of_le hmn
  have htake : text.take (m + k) = text.take m ++ text.extract m (m + k) := by
    rw [List.extract_eq_take_drop, Nat.add_sub_cancel_left, List.take_add]
  have hcut : utf16 text =
      utf16 (text.take m ++ text.extract m (m + k) ++ text.drop (m + k)) := by
    rw [← htake, List.take_append_drop]
  rw [htake, utf16Length_append, hcut, extract_utf16]

theorem Shows.frames (h : Shows (lines text) finding remark)
    (hline : (lines text)[index]? = some line) (honLine : finding.OnLine index line) :
    remark.range.start.line = index ∧ remark.range.Frames line finding := by
  obtain ⟨hfinding, hend, hpos, hle, -⟩ := honLine
  obtain ⟨hstart, _, htext, -, -, hcharacter⟩ := h.start
  obtain ⟨hstop, _, htext', -, hle', hcharacter'⟩ := h.stop
  have hindex : remark.range.start.line = index := by omega
  have hindex' : remark.range.stop.line = index := by omega
  rw [hindex, hline] at htext
  rw [hindex', hline] at htext'
  obtain rfl := Option.some.inj htext
  obtain rfl := Option.some.inj htext'
  have hcolumns : (finding.column - 1).toNat ≤ (finding.endColumn - 1).toNat := by omega
  refine ⟨hindex, hindex'.trans hindex.symm, ?_, ?_, ?_⟩
  · have hprefix := utf16Length_take_le (line.take (finding.endColumn - 1).toNat)
      (finding.column - 1).toNat
    rwa [List.take_take, Nat.min_eq_left hcolumns, ← hcharacter, ← hcharacter'] at hprefix
  · rw [hcharacter']
    exact utf16Length_take_le _ _
  · rw [hcharacter, hcharacter', extract_utf16_take _ hcolumns, ofUtf16?_utf16]
    rfl

/-- On a document that is not too large, every finding is shown on its line at exactly the code units
of its characters. On every line of any document, the columns up to the end of the line are located
at different code units, which tell the column. -/
theorem frames_of_mem_lint (text : List Char) :
    (InRange text → ∀ finding ∈ lint text, ∃ remark line,
      ofFinding (lines text) finding = .ok remark ∧
      (lines text)[remark.range.start.line]? = some line ∧
      finding.line = remark.range.start.line + 1 ∧ remark.range.Frames line finding) ∧
    ∀ (index : Nat) (line : List Char), (lines text)[index]? = some line →
      (∀ column, locate (lines text) (index + 1) column =
        Position.ofInts? index (unitsBefore line column)) ∧
      StrictMonoOn (unitsBefore line) (Set.Icc 1 (line.length + 1)) ∧
      ∀ column ∈ Set.Icc 1 (line.length + 1 : Int),
        (ofUtf16? ((utf16 line).take (unitsBefore line column))).map
          (fun shown => (shown.length + 1 : Int)) = some column := by
  constructor
  · intro hrange finding h
    obtain ⟨index, line, hline, honLine⟩ := exists_onLine_of_mem_lint h
    obtain ⟨remark, hremark, hshows⟩ := exists_remark hrange h
    obtain ⟨rfl, hframes⟩ := hshows.frames hline honLine
    exact ⟨remark, line, hremark, hline, honLine.line_eq, hframes⟩
  · intro index line hline
    exact ⟨locate_eq hline, strictMonoOn_unitsBefore line, fun column => decode_unitsBefore⟩

theorem frames_of_mem_lint_surrogates :
    (∃ remark line,
      ofFinding (lines "😀$f😀".toList) (SpecialVariable.finding "😀$f😀".toList 1 "$f".toList) =
        .ok remark ∧
      (lines "😀$f😀".toList)[remark.range.start.line]? = some line ∧
      1 = (remark.range.start.line + 1 : Int) ∧
      remark.range.Frames line (SpecialVariable.finding "😀$f😀".toList 1 "$f".toList)) ∧
    (ofUtf16? ((utf16 "😀$f😀".toList).take (unitsBefore "😀$f😀".toList 5))).map
      (fun shown => (shown.length + 1 : Int)) = some 5 := by
  have range : InRange "😀$f😀".toList := ⟨by decide +kernel, by decide +kernel⟩
  have h : SpecialVariable.finding "😀$f😀".toList 1 "$f".toList ∈ lint "😀$f😀".toList := by
    decide +kernel
  have hline : (lines "😀$f😀".toList)[0]? = some "😀$f😀".toList := by decide +kernel
  exact ⟨(frames_of_mem_lint "😀$f😀".toList).1 range _ h,
    ((frames_of_mem_lint "😀$f😀".toList).2 0 _ hline).2.2 5 (by decide +kernel)⟩

end ScadText.Editor
