import ScadText.Proofs.Editor.Exact
import ScadText.Proofs.Result

/-!
# Which findings an editor takes

A finding may be shown beside a document that it does not fit, so its lines and columns are any
integers. An editor refuses a coordinate that is negative or too large to count, and names the first
one that it refuses. No column of a line of the document is ever refused: beyond the end it stands
for the end, and below the first column it counts back from the end.

## Main definitions

* `Fits`: an end of a finding that an editor takes.
* `Field`: the coordinates of a remark, in the order in which they are checked.
* `Field.Offends`: the coordinate is one that an editor refuses.
* `Reaches`, `Position.Stands`: where a column of a line is, and an end of a finding.

## Main statements

* `exists_locate_iff`, `locate_eq_error_iff`: when an end has a position, and what is refused.
* `ofFinding_eq_error_iff`: the first coordinate that offends is reported.
* `ofFinding_bounds`: which findings are taken, where they are shown, and what is refused.
-/

namespace ScadText.Editor

open Text

/-- The value is one that a coordinate may have. -/
def Countable (value : Int) : Prop := 0 ≤ value ∧ value ≤ maxCoordinate

instance (value : Int) : Decidable (Countable value) := inferInstanceAs (Decidable (_ ∧ _))

/-- An editor takes an end of a finding: its line can be counted, and its column can be counted or
is on a line that the document has. -/
structure Fits (lines : List (List Char)) (line column : Int) : Prop where
  line_countable : Countable (line - 1)
  column_countable : line ≤ lines.length ∨ Countable (column - 1)

/-- The coordinates of a remark. -/
inductive Field where
  | startLine | startCharacter | stopLine | stopCharacter
  deriving DecidableEq, Repr

namespace Field

/-- The coordinates in the order in which they are checked. -/
def all : List Field := [.startLine, .startCharacter, .stopLine, .stopCharacter]

def coordinate : Field → Coordinate
  | startLine | stopLine => .line
  | startCharacter | stopCharacter => .character

/-- The line of the end to which the coordinate belongs. -/
def line (finding : Finding) : Field → Int
  | startLine | startCharacter => finding.line
  | stopLine | stopCharacter => finding.endLine

/-- What the finding asks for, counted from zero. -/
def value (finding : Finding) : Field → Int
  | startLine => finding.line - 1
  | startCharacter => finding.column - 1
  | stopLine => finding.endLine - 1
  | stopCharacter => finding.endColumn - 1

/-- The coordinate cannot be counted; a column offends on no line of the document. -/
def Offends (lines : List (List Char)) (finding : Finding) (field : Field) : Prop :=
  ¬ Countable (field.value finding) ∧
    (field.coordinate = .character → lines.length < field.line finding)

instance (lines : List (List Char)) (finding : Finding) (field : Field) :
    Decidable (field.Offends lines finding) := inferInstanceAs (Decidable (_ ∧ _))

/-- What is reported of a coordinate that offends. -/
def fault (finding : Finding) (field : Field) : OutOfRange :=
  ⟨field.coordinate, field.value finding⟩

end Field

/-- The code unit at which a column of a line is. Columns past the last character are at the end of
the line, and those below one count back from the end, as far as the start of the line. -/
structure Reaches (text : List Char) (column : Int) (character : Nat) : Prop where
  le : character ≤ utf16Length text
  of_past : text.length < column → character = utf16Length text
  of_pos : 1 ≤ column → character = utf16Length (text.take (column - 1).toNat)
  of_below : column < 1 →
    character = utf16Length (text.take (text.length - (1 - column).toNat))

/-- The position stands for an end of a finding. Where the document has no such line, the column is
taken as it is. -/
structure Position.Stands (position : Position) (lines : List (List Char)) (line column : Int) :
    Prop where
  line_eq : (position.line : Int) = line - 1
  on_line : ∀ text, lines[position.line]? = some text → Reaches text column position.character
  off_line : lines[position.line]? = none → (position.character : Int) = column - 1

/-! ## One end -/

variable {text : List Char} {lines : List (List Char)} {line column value : Int}
  {coordinate : Coordinate} {position : Position} {fault : OutOfRange} {finding : Finding}
  {remark : Remark}

theorem checkCoordinate_eq_ok_iff {n : Nat} :
    checkCoordinate coordinate value = .ok n ↔ Countable value ∧ (n : Int) = value := by
  rw [checkCoordinate, Countable]
  split
  · rw [Except.ok.injEq]
    omega
  · simp [*]

theorem checkCoordinate_eq_error_iff : checkCoordinate coordinate value = .error fault ↔
    ¬ Countable value ∧ fault = ⟨coordinate, value⟩ := by
  rw [checkCoordinate, Countable]
  split <;> simp [*, eq_comm]

theorem ofInts?_eq_ok_iff {character : Int} : Position.ofInts? line character = .ok position ↔
    (Countable line ∧ Countable character) ∧
      (position.line : Int) = line ∧ (position.character : Int) = character := by
  obtain ⟨l, c⟩ := position
  simp only [Position.ofInts?, bind_eq_ok, checkCoordinate_eq_ok_iff, pure, Except.pure,
    Except.ok.injEq, Position.mk.injEq]
  constructor
  · rintro ⟨l, ⟨hline, rfl⟩, c, ⟨hcharacter, rfl⟩, rfl, rfl⟩
    exact ⟨⟨hline, hcharacter⟩, rfl, rfl⟩
  · rintro ⟨⟨hline, hcharacter⟩, rfl, rfl⟩
    exact ⟨l, ⟨hline, rfl⟩, c, ⟨hcharacter, rfl⟩, rfl, rfl⟩

theorem ofInts?_eq_error_iff {character : Int} : Position.ofInts? line character = .error fault ↔
    ¬ Countable line ∧ fault = ⟨.line, line⟩ ∨
      Countable line ∧ ¬ Countable character ∧ fault = ⟨.character, character⟩ := by
  have hcount : (∃ n : Nat, Countable line ∧ (n : Int) = line) ↔ Countable line :=
    ⟨fun ⟨_, hline, _⟩ => hline, fun hline => ⟨line.toNat, hline, Int.toNat_of_nonneg hline.1⟩⟩
  simp only [Position.ofInts?, bind_eq_error, checkCoordinate_eq_ok_iff,
    checkCoordinate_eq_error_iff, pure, Except.pure, reduceCtorEq, and_false, exists_false,
    or_false]
  rw [exists_and_right, hcount]

/-- A line of the document, by its number. -/
theorem exists_getElem?_of_le (hpos : 1 ≤ line) (hle : line ≤ lines.length) :
    ∃ (index : Nat) (text : List Char), line = index + 1 ∧ lines[index]? = some text := by
  have hindex : (line - 1).toNat < lines.length := by omega
  exact ⟨(line - 1).toNat, lines[(line - 1).toNat], by omega, List.getElem?_eq_getElem hindex⟩

/-- On a line that the document does not have, columns are taken as they are. -/
theorem locate_of_lt (h : line < 1 ∨ lines.length < line) (column : Int) :
    locate lines line column = Position.ofInts? (line - 1) (column - 1) := by
  have hnone : (if 1 ≤ line then lines[(line - 1).toNat]? else none) = none := by
    split
    · exact List.getElem?_eq_none (by omega)
    · rfl
  rw [locate, hnone]

theorem reaches_unitsBefore (text : List Char) (column : Int) :
    Reaches text column (unitsBefore text column) := by
  refine ⟨utf16Length_take_le _ _, fun hpast => ?_, fun hpos => unitsBefore_of_pos hpos text,
    fun hbelow => ?_⟩
  · rw [unitsBefore_of_pos (by omega), List.take_of_length_le (by omega)]
  · have hstop : (text.length + (column - 1)).toNat = text.length - (1 - column).toNat := by omega
    rw [unitsBefore, before, if_pos (by omega), hstop]

/-- The code units in front of a column of the document can be counted. -/
theorem InRange.countable (range : InRange text) {index : Nat} {shown : List Char}
    (hshown : (Text.lines text)[index]? = some shown) (column : Int) :
    Countable index ∧ Countable (unitsBefore shown column) := by
  have hlines := range.lines_le
  have hline := range.line_le shown (List.mem_of_getElem? hshown)
  have hindex := (List.getElem?_eq_some_iff.mp hshown).1
  have hle := (reaches_unitsBefore shown column).le
  simp only [Countable]
  omega

/-- An end has a position exactly if an editor takes it. -/
theorem exists_locate_iff (range : InRange text) :
    (∃ position, locate (Text.lines text) line column = .ok position) ↔
      Fits (Text.lines text) line column := by
  by_cases hhas : 1 ≤ line ∧ line ≤ (Text.lines text).length
  · obtain ⟨index, shown, rfl, hshown⟩ := exists_getElem?_of_le hhas.1 hhas.2
    have hcount := range.countable hshown column
    have hline : Countable (index + 1 - 1) := by simpa using hcount.1
    rw [locate_eq hshown]
    exact ⟨fun _ => ⟨hline, .inl hhas.2⟩,
      fun _ => ⟨⟨index, unitsBefore shown column⟩, ofInts?_eq_ok_iff.mpr ⟨hcount, rfl, rfl⟩⟩⟩
  · rw [locate_of_lt (by omega)]
    simp only [ofInts?_eq_ok_iff]
    constructor
    · rintro ⟨position, ⟨hline, hcolumn⟩, -⟩
      exact ⟨hline, .inr hcolumn⟩
    · rintro ⟨hline, hcolumn⟩
      have hcolumn := hcolumn.resolve_left fun hle => hhas ⟨by have := hline.1; omega, hle⟩
      exact ⟨⟨(line - 1).toNat, (column - 1).toNat⟩, ⟨hline, hcolumn⟩,
        Int.toNat_of_nonneg hline.1, Int.toNat_of_nonneg hcolumn.1⟩

/-- What is refused of an end: its line if that cannot be counted, or else its column, and that only
on a line which the document does not have. -/
theorem locate_eq_error_iff (range : InRange text) :
    locate (Text.lines text) line column = .error fault ↔
      ¬ Countable (line - 1) ∧ fault = ⟨.line, line - 1⟩ ∨
      Countable (line - 1) ∧ ((Text.lines text).length < line ∧ ¬ Countable (column - 1)) ∧
        fault = ⟨.character, column - 1⟩ := by
  by_cases hhas : 1 ≤ line ∧ line ≤ (Text.lines text).length
  · obtain ⟨index, shown, rfl, hshown⟩ := exists_getElem?_of_le hhas.1 hhas.2
    have hcount := range.countable hshown column
    rw [locate_eq hshown, ofInts?_eq_error_iff]
    simp [hcount, Int.not_lt.mpr hhas.2]
  · have hlacks : Countable (line - 1) → (Text.lines text).length < line := by
      intro hline
      have := hline.1
      omega
    rw [locate_of_lt (by omega), ofInts?_eq_error_iff]
    grind

theorem stands_of_locate (h : locate (Text.lines text) line column = .ok position) :
    position.Stands (Text.lines text) line column := by
  by_cases hhas : 1 ≤ line ∧ line ≤ (Text.lines text).length
  · obtain ⟨index, shown, rfl, hshown⟩ := exists_getElem?_of_le hhas.1 hhas.2
    rw [locate_eq hshown] at h
    obtain ⟨-, hline, hcharacter⟩ := ofInts?_eq_ok_iff.mp h
    obtain rfl : position.line = index := by omega
    have hreaches := reaches_unitsBefore shown column
    rw [← Int.ofNat.inj hcharacter] at hreaches
    refine ⟨by omega, fun other hother => ?_, fun hnone => ?_⟩
    · obtain rfl := Option.some.inj (hshown.symm.trans hother)
      exact hreaches
    · rw [hshown] at hnone
      cases hnone
  · rw [locate_of_lt (by omega)] at h
    obtain ⟨-, hline, hcharacter⟩ := ofInts?_eq_ok_iff.mp h
    refine ⟨hline, fun other hother => ?_, fun _ => hcharacter⟩
    have := (List.getElem?_eq_some_iff.mp hother).1
    omega

/-! ## Both ends -/

theorem ofFinding_eq_ok_iff : ofFinding lines finding = .ok remark ↔
    locate lines finding.line finding.column = .ok remark.range.start ∧
    locate lines finding.endLine finding.endColumn = .ok remark.range.stop ∧
    remark.severity = finding.severity ∧ remark.code = finding.code ∧
    remark.message = finding.message := by
  obtain ⟨⟨start, stop⟩, severity, code, message⟩ := remark
  simp only [ofFinding, bind_eq_ok, pure, Except.pure, Except.ok.injEq, Remark.mk.injEq,
    Range.mk.injEq]
  constructor
  · rintro ⟨start, hstart, stop, hstop, ⟨rfl, rfl⟩, rfl, rfl, rfl⟩
    exact ⟨hstart, hstop, rfl, rfl, rfl⟩
  · rintro ⟨hstart, hstop, rfl, rfl, rfl⟩
    exact ⟨start, hstart, stop, hstop, ⟨rfl, rfl⟩, rfl, rfl, rfl⟩

/-- An editor takes a finding exactly if it takes both ends. -/
theorem exists_ofFinding_iff (range : InRange text) :
    (∃ remark, ofFinding (Text.lines text) finding = .ok remark) ↔
      Fits (Text.lines text) finding.line finding.column ∧
      Fits (Text.lines text) finding.endLine finding.endColumn := by
  rw [← exists_locate_iff range, ← exists_locate_iff range]
  simp only [ofFinding_eq_ok_iff]
  constructor
  · rintro ⟨remark, hstart, hstop, -⟩
    exact ⟨⟨_, hstart⟩, ⟨_, hstop⟩⟩
  · rintro ⟨⟨start, hstart⟩, ⟨stop, hstop⟩⟩
    exact ⟨⟨⟨start, stop⟩, finding.severity, finding.code, finding.message⟩, hstart, hstop, rfl,
      rfl, rfl⟩

theorem ofFinding_eq_error : ofFinding lines finding = .error fault ↔
    locate lines finding.line finding.column = .error fault ∨
    (∃ start, locate lines finding.line finding.column = .ok start) ∧
      locate lines finding.endLine finding.endColumn = .error fault := by
  simp only [ofFinding, bind_eq_error, pure, Except.pure, reduceCtorEq, and_false, exists_false,
    or_false, exists_and_right]

theorem exists_find?_cons {α : Type} {p : α → Bool} {q : α → Prop} {a : α} {as : List α} :
    (∃ x, (a :: as).find? p = some x ∧ q x) ↔
      p a = true ∧ q a ∨ ¬ p a = true ∧ ∃ x, as.find? p = some x ∧ q x := by
  rw [List.find?_cons]
  cases p a <;> simp

/-- The first coordinate that offends is reported. -/
theorem ofFinding_eq_error_iff (range : InRange text) :
    ofFinding (Text.lines text) finding = .error fault ↔
      ∃ field, Field.all.find? (·.Offends (Text.lines text) finding) = some field ∧
        fault = field.fault finding := by
  rw [ofFinding_eq_error, exists_locate_iff range, locate_eq_error_iff range,
    locate_eq_error_iff range]
  simp only [Field.all, exists_find?_cons, List.find?_nil, decide_eq_true_eq, reduceCtorEq,
    false_and, exists_false, and_false, or_false]
  simp only [Field.Offends, Field.fault, Field.coordinate, Field.value, Field.line]
  grind [Fits]

theorem message_fault (finding : Finding) (field : Field) : (field.fault finding).message =
    "Position." ++ field.coordinate.name ++ " should be in range [0:2147483647], but was " ++
      toString (field.value finding) ++ "." := by
  have hmax : toString maxCoordinate = "2147483647" := by decide
  have hrange : " should be in range [0:" ++ "2147483647" ++ "], but was " =
      " should be in range [0:2147483647], but was " := rfl
  rw [OutOfRange.message, hmax, ← hrange]
  simp only [String.append_assoc]
  rfl

/-- On a document that is not too large for an editor, it takes a finding exactly if it takes both
ends, and shows it there. Otherwise the first coordinate that offends is reported with its value. On
a line of the document every column is taken. -/
theorem ofFinding_bounds (range : InRange text) (finding : Finding) :
    ((∃ remark, ofFinding (Text.lines text) finding = .ok remark) ↔
      Fits (Text.lines text) finding.line finding.column ∧
      Fits (Text.lines text) finding.endLine finding.endColumn) ∧
    (∀ remark, ofFinding (Text.lines text) finding = .ok remark →
      remark.range.start.Stands (Text.lines text) finding.line finding.column ∧
      remark.range.stop.Stands (Text.lines text) finding.endLine finding.endColumn ∧
      remark.severity = finding.severity ∧ remark.code = finding.code ∧
      remark.message = finding.message) ∧
    (∀ fault, ofFinding (Text.lines text) finding = .error fault ↔
      ∃ field, Field.all.find? (·.Offends (Text.lines text) finding) = some field ∧
        fault = field.fault finding) ∧
    (∀ field : Field, (field.fault finding).message =
      "Position." ++ field.coordinate.name ++ " should be in range [0:2147483647], but was " ++
        toString (field.value finding) ++ ".") ∧
    ∀ (index : Nat) (line : List Char), (Text.lines text)[index]? = some line → ∀ column,
      Fits (Text.lines text) (index + 1) column := by
  refine ⟨exists_ofFinding_iff range, fun remark h => ?_, fun fault => ofFinding_eq_error_iff range,
    message_fault finding, fun index line hline column => ⟨?_, .inl ?_⟩⟩
  · obtain ⟨hstart, hstop, hrest⟩ := ofFinding_eq_ok_iff.mp h
    exact ⟨stands_of_locate hstart, stands_of_locate hstop, hrest⟩
  · simpa using (range.countable hline column).1
  · have := (List.getElem?_eq_some_iff.mp hline).1
    omega

/-- Column zero counts back over the last character. On a line that the document does not have, the
same column is refused. -/
theorem ofFinding_bounds_zero :
    ofFinding (Text.lines "a😀".toList) ⟨.error, "", "", 1, 0, 1, 9⟩ =
        .ok ⟨⟨⟨0, 1⟩, ⟨0, 3⟩⟩, .error, "", ""⟩ ∧
      ofFinding (Text.lines "a😀".toList) ⟨.error, "", "", 1, 0, 2, 0⟩ =
        .error ⟨.character, -1⟩ ∧
      ∀ column, Fits (Text.lines "a😀".toList) 1 column := by
  have range : InRange "a😀".toList := ⟨by decide +kernel, by decide +kernel⟩
  obtain ⟨-, -, hrefused, -, htaken⟩ := ofFinding_bounds range ⟨.error, "", "", 1, 0, 2, 0⟩
  refine ⟨by decide +kernel, ?_, fun column => htaken 0 "a😀".toList (by decide +kernel) column⟩
  exact (hrefused _).mpr ⟨.stopCharacter, by decide +kernel, rfl⟩

end ScadText.Editor
