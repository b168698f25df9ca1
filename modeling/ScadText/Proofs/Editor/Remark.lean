import Mathlib.Data.List.Forall2
import ScadText.Editor.Remark
import ScadText.Proofs.Finding.Place

/-!
# Remarks stand where the findings are

On a document that is not too large for the editor, every finding becomes a remark at the code units
of its columns. The remark tells the line and the columns of its finding.

## Main definitions

* `Marks`: a position stands for a line and a column of a document.
* `Shows`: a remark shows a finding.
* `InRange`: a document whose lines the editor can count.

## Main statements

* `exists_remarks`: every finding of a document is shown.
* `Shows.unique`: a remark shows one finding only.
-/

namespace ScadText.Editor

open Text

variable {lines : List (List Char)} {line column line' column' : Int} {position : Position}
  {finding other : Finding} {remark : Remark} {text : List Char}

/-- The position stands for a line and a column, which count from one: it is on the line, after as
many code units as the characters before the column have. -/
structure Marks (lines : List (List Char)) (line column : Int) (position : Position) : Prop where
  line_eq : (position.line : Int) = line - 1
  character_eq : ∃ text, lines[position.line]? = some text ∧ 1 ≤ column ∧
    column - 1 ≤ text.length ∧ position.character = utf16Length (text.take (column - 1).toNat)

/-- The remark shows the finding. -/
structure Shows (lines : List (List Char)) (finding : Finding) (remark : Remark) : Prop where
  code_eq : remark.code = finding.code
  message_eq : remark.message = finding.message
  severity_eq : remark.severity = finding.severity
  start : Marks lines finding.line finding.column remark.range.start
  stop : Marks lines finding.endLine finding.endColumn remark.range.stop

/-- The lines of the document and the code units of each line fit into a coordinate. -/
structure InRange (text : List Char) : Prop where
  lines_le : (Text.lines text).length ≤ maxCoordinate
  line_le : ∀ line ∈ Text.lines text, utf16Length line ≤ maxCoordinate

/-! ## A remark tells its finding -/

theorem utf16Length_take_le (text : List Char) (n : Nat) :
    utf16Length (text.take n) ≤ utf16Length text := by
  calc utf16Length (text.take n) ≤ utf16Length (text.take n) + utf16Length (text.drop n) :=
        Nat.le_add_right _ _
    _ = utf16Length text := by rw [← utf16Length_append, List.take_append_drop]

/-- More characters have more code units. -/
theorem utf16Length_take_lt (text : List Char) {m n : Nat} (hmn : m < n) (hn : n ≤ text.length) :
    utf16Length (text.take m) < utf16Length (text.take n) := by
  have hcut : text.take n = text.take m ++ (text.take n).drop m := by
    have htake : (text.take n).take m = text.take m := by
      rw [List.take_take, Nat.min_eq_left hmn.le]
    rw [← htake, List.take_append_drop]
  have hlength := length_le_utf16Length ((text.take n).drop m)
  rw [List.length_drop, List.length_take_of_le hn] at hlength
  rw [hcut, utf16Length_append]
  omega

theorem Marks.unique (h : Marks lines line column position)
    (h' : Marks lines line' column' position) : line = line' ∧ column = column' := by
  obtain ⟨hline, text, htext, hpos, hle, hcharacter⟩ := h
  obtain ⟨hline', _, htext', hpos', hle', hcharacter'⟩ := h'
  obtain rfl := Option.some.inj (htext.symm.trans htext')
  refine ⟨by omega, ?_⟩
  by_contra hne
  obtain hlt | hlt := Int.lt_or_gt_of_ne hne
  · have hlt' : (column - 1).toNat < (column' - 1).toNat := by omega
    have := utf16Length_take_lt text hlt' (by omega)
    omega
  · have hlt' : (column' - 1).toNat < (column - 1).toNat := by omega
    have := utf16Length_take_lt text hlt' (by omega)
    omega

/-- A remark shows one finding only. -/
theorem Shows.unique (h : Shows lines finding remark) (h' : Shows lines other remark) :
    finding = other := by
  obtain ⟨hline, hcolumn⟩ := h.start.unique h'.start
  obtain ⟨hendLine, hendColumn⟩ := h.stop.unique h'.stop
  cases finding
  cases other
  rw [Finding.mk.injEq]
  exact ⟨h.severity_eq.symm.trans h'.severity_eq, h.code_eq.symm.trans h'.code_eq,
    h.message_eq.symm.trans h'.message_eq, hline, hcolumn, hendLine, hendColumn⟩

/-! ## Findings of a document -/

theorem checkCoordinate_of_le (coordinate : Coordinate) {value : Nat} (h : value ≤ maxCoordinate) :
    checkCoordinate coordinate value = .ok value := by
  rw [checkCoordinate, if_pos (by omega), Int.toNat_natCast]

theorem ofInts?_of_le {line character : Nat} (hline : line ≤ maxCoordinate)
    (hcharacter : character ≤ maxCoordinate) :
    Position.ofInts? line character = .ok ⟨line, character⟩ := by
  rw [Position.ofInts?, checkCoordinate_of_le .line hline,
    checkCoordinate_of_le .character hcharacter]
  rfl

/-- A column of a line of the document is located. -/
theorem exists_locate (column : Int) (hrange : InRange text) {index : Nat} {shown : List Char}
    (hshown : (Text.lines text)[index]? = some shown) (hpos : 1 ≤ column)
    (hle : column - 1 ≤ shown.length) :
    ∃ position, locate (Text.lines text) (index + 1) column = .ok position ∧
      Marks (Text.lines text) (index + 1) column position := by
  obtain ⟨hindex, -⟩ := List.getElem?_eq_some_iff.mp hshown
  have hline : index ≤ maxCoordinate := by
    have := hrange.lines_le
    omega
  have hcharacter : utf16Length (shown.take (column - 1).toNat) ≤ maxCoordinate :=
    (utf16Length_take_le _ _).trans (hrange.line_le shown (List.mem_of_getElem? hshown))
  refine ⟨⟨index, utf16Length (shown.take (column - 1).toNat)⟩, ?_, ?_, shown, hshown, hpos, hle,
    rfl⟩
  · have hone : (1 : Int) ≤ index + 1 := by omega
    have hpred : (index + 1 - 1 : Int) = index := by omega
    have hnonneg : ¬ column - 1 < 0 := by omega
    rw [locate, if_pos hone, hpred, Int.toNat_natCast, hshown]
    dsimp only
    rw [before, if_neg hnonneg]
    exact ofInts?_of_le hline hcharacter
  · dsimp only
    omega

theorem exists_remark (hrange : InRange text) (h : finding ∈ lint text) :
    ∃ remark, ofFinding (Text.lines text) finding = .ok remark ∧
      Shows (Text.lines text) finding remark := by
  obtain ⟨index, shown, hshown, honLine⟩ := exists_onLine_of_mem_lint h
  obtain ⟨hline, hendLine, hpos, hle, hend⟩ := honLine
  obtain ⟨start, hstart, hmarks⟩ :=
    exists_locate finding.column hrange hshown hpos (by omega)
  obtain ⟨stop, hstop, hmarks'⟩ :=
    exists_locate finding.endColumn hrange hshown (by omega) (by omega)
  rw [← hline] at hstart hmarks
  rw [← hendLine] at hstop hmarks'
  refine ⟨⟨⟨start, stop⟩, finding.severity, finding.code, finding.message⟩, ?_, rfl, rfl, rfl,
    hmarks, hmarks'⟩
  rw [ofFinding, hstart, hstop]
  rfl

theorem exists_mapM {α β ε : Type} {f : α → Except ε β} {R : α → β → Prop} {xs : List α}
    (h : ∀ x ∈ xs, ∃ y, f x = .ok y ∧ R x y) :
    ∃ ys, xs.mapM f = .ok ys ∧ List.Forall₂ R xs ys := by
  induction xs with
  | nil => exact ⟨[], rfl, .nil⟩
  | cons x xs ih =>
    obtain ⟨⟨y, hy, hR⟩, h⟩ := List.forall_mem_cons.mp h
    obtain ⟨ys, hys, hRs⟩ := ih h
    refine ⟨y :: ys, ?_, .cons hR hRs⟩
    rw [List.mapM_cons, hy, hys]
    rfl

/-- A traversal either succeeds at every item or fails at one of them. -/
theorem mapM_cases {α β ε : Type} (f : α → Except ε β) (xs : List α) :
    (∃ ys, xs.mapM f = .ok ys ∧ List.Forall₂ (fun x y => f x = .ok y) xs ys) ∨
      ∃ e, xs.mapM f = .error e ∧ ∃ x ∈ xs, f x = .error e := by
  induction xs with
  | nil => exact .inl ⟨[], rfl, .nil⟩
  | cons x xs ih =>
    rw [List.mapM_cons]
    cases hx : f x with
    | error e => exact .inr ⟨e, rfl, x, List.mem_cons_self, hx⟩
    | ok y =>
      obtain ⟨ys, hys, each⟩ | ⟨e, he, x', hmem, hx'⟩ := ih
      · rw [hys]
        exact .inl ⟨y :: ys, rfl, .cons hx each⟩
      · rw [he]
        exact .inr ⟨e, rfl, x', List.mem_cons_of_mem x hmem, hx'⟩

/-- Every finding of a document is shown. -/
theorem exists_remarks (hrange : InRange text) :
    ∃ shown, remarks text = .ok shown ∧
      List.Forall₂ (Shows (Text.lines text)) (lint text) shown :=
  exists_mapM fun _ h => exists_remark hrange h

end ScadText.Editor
