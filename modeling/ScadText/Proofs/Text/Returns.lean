import ScadText.Proofs.Text.Lines
import ScadText.Text.LineEnds
import ScadText.Token.Basic

/-!
# Carriage returns before line feeds

A text whose lines end in a line feed, and the same text with a carriage return before some of its
line feeds.

## Main definitions

* `Returned`: the relation between two such texts.
* `ReturnedLine`: the relation between two lines of them.
* `Position.Beside`: two positions on the same line and column.

## Main statements

* `returned_iff`: the first text is the second with its line ends joined.
* `Returned.split`: a cut of the first text is a cut of the second.
* `Returned.lines`: the lines of the two texts.
* `Returned.after`: the two texts lead to the same line and column.
-/

namespace ScadText

namespace Text

/-- The second text is the first one, which has no carriage return, with a carriage return put
before some of its line feeds. -/
inductive Returned : List Char → List Char → Prop where
  | nil : Returned [] []
  | keep {c : Char} {s t : List Char} (other : c ≠ '\r') (rest : Returned s t) :
      Returned (c :: s) (c :: t)
  | put {s t : List Char} (rest : Returned s t) : Returned ('\n' :: s) ('\r' :: '\n' :: t)

variable {s t u v w rest : List Char}

theorem Returned.refl (h : '\r' ∉ s) : Returned s s := by
  induction s with
  | nil => exact .nil
  | cons c s ih =>
    rw [List.mem_cons, not_or] at h
    exact .keep (Ne.symm h.1) (ih h.2)

theorem Returned.return_notMem (h : Returned s t) : '\r' ∉ s := by
  induction h with
  | nil => simp
  | keep other _ ih => simp [Ne.symm other, ih]
  | put _ ih => simp [ih]

theorem Returned.joinLineEnds_eq (h : Returned s t) : joinLineEnds t = s := by
  induction h with
  | nil => rfl
  | keep other _ ih =>
    rw [joinLineEnds, ih]
    intro _ hc
    exact absurd hc other
  | put _ ih => rw [joinLineEnds, ih]

/-- The first text is the second one with its line ends joined. -/
theorem returned_iff : Returned s t ↔ '\r' ∉ s ∧ joinLineEnds t = s := by
  constructor
  · intro h
    exact ⟨h.return_notMem, h.joinLineEnds_eq⟩
  · rintro ⟨h, rfl⟩
    fun_induction joinLineEnds t with
    | case1 => exact .nil
    | case2 t ih =>
      rw [List.mem_cons, not_or] at h
      exact .put (ih h.2)
    | case3 c t _ ih =>
      rw [List.mem_cons, not_or] at h
      exact .keep (Ne.symm h.1) (ih h.2)

/-- Every other character stands as often in the second text. -/
theorem Returned.count_eq {c : Char} (h : Returned s t) (hc : c ≠ '\r') :
    t.count c = s.count c := by
  induction h with
  | nil => rfl
  | keep _ _ ih => rw [List.count_cons, List.count_cons, ih]
  | put _ ih => rw [List.count_cons_of_ne (Ne.symm hc), List.count_cons, List.count_cons, ih]

/-! ## Cuts -/

/-- A cut of the first text is a cut of the second, before the carriage return if one is put there.
-/
theorem Returned.split (h : Returned (w ++ rest) t) :
    ∃ w' rest', t = w' ++ rest' ∧ Returned w w' ∧ Returned rest rest' := by
  induction w generalizing t with
  | nil => exact ⟨[], t, rfl, .nil, h⟩
  | cons c w ih =>
    cases h with
    | keep other h =>
      obtain ⟨w', rest', rfl, hw, hrest⟩ := ih h
      exact ⟨c :: w', rest', rfl, .keep other hw, hrest⟩
    | put h =>
      obtain ⟨w', rest', rfl, hw, hrest⟩ := ih h
      exact ⟨'\r' :: '\n' :: w', rest', rfl, .put hw, hrest⟩

/-- Where no line feed stands, nothing is put. -/
theorem Returned.eq_of_notMem (h : Returned s t) (hs : '\n' ∉ s) : t = s := by
  induction h with
  | nil => rfl
  | keep _ _ ih =>
    rw [List.mem_cons, not_or] at hs
    rw [ih hs.2]
  | put => simp at hs

theorem Returned.split_of_notMem (h : Returned (w ++ rest) t) (hw : '\n' ∉ w) :
    ∃ rest', t = w ++ rest' ∧ Returned rest rest' := by
  obtain ⟨w', rest', rfl, hw', hrest⟩ := h.split
  obtain rfl := hw'.eq_of_notMem hw
  exact ⟨rest', rfl, hrest⟩

theorem Returned.eq_nil (h : Returned [] t) : t = [] := by
  cases h
  rfl

/-- A character of the second text that is no carriage return is one of the first. -/
theorem Returned.exists_cons {c : Char} (h : Returned s (c :: t)) (hc : c ≠ '\r') :
    ∃ u, s = c :: u ∧ Returned u t := by
  cases h with
  | keep _ h => exact ⟨_, rfl, h⟩
  | put => exact absurd rfl hc

/-! ## Lines -/

/-- A line with a carriage return before the line feed that ends it, or as it is. -/
inductive ReturnedLine (line : List Char) : List Char → Prop where
  | same : ReturnedLine line line
  | ended : ReturnedLine line (line ++ ['\r'])

theorem ReturnedLine.cons {line other : List Char} (c : Char) (h : ReturnedLine line other) :
    ReturnedLine (c :: line) (c :: other) := by
  cases h with
  | same => exact .same
  | ended => exact .ended

/-- The lines of the two texts differ in the carriage returns. -/
theorem Returned.lines (h : Returned s t) : List.Forall₂ ReturnedLine (lines s) (lines t) := by
  induction h with
  | nil => exact .cons .same .nil
  | @keep c s t _ _ ih =>
    by_cases hc : c = '\n'
    · rw [Text.lines, Text.lines, if_pos hc, if_pos hc]
      exact .cons .same ih
    · rw [Text.lines, Text.lines, if_neg hc, if_neg hc]
      generalize Text.lines s = first at ih ⊢
      generalize Text.lines t = second at ih ⊢
      cases ih with
      | nil => exact .cons .same .nil
      | cons hline hrest => exact .cons (hline.cons c) hrest
  | put _ ih =>
    rw [Text.lines, Text.lines, Text.lines, if_pos rfl, if_neg (by decide), if_pos rfl]
    exact .cons .ended ih

end Text

/-! ## Positions -/

/-- The two positions are on the same line and column. -/
structure Position.Beside (p q : Position) : Prop where
  line_eq : q.line = p.line
  column_eq : q.column = p.column

theorem Position.Beside.refl (p : Position) : p.Beside p := ⟨rfl, rfl⟩

theorem Position.Beside.advance {p q : Position} (h : p.Beside q) (c : Char) :
    (p.advance c).Beside (q.advance c) := by
  unfold Position.advance
  split
  · exact ⟨congrArg (· + 1) h.line_eq, rfl⟩
  · exact ⟨h.line_eq, congrArg (· + 1) h.column_eq⟩

/-- From the same line and column the two texts lead to the same line and column. -/
theorem Text.Returned.after {s t : List Char} {p q : Position} (h : Returned s t)
    (hp : p.Beside q) : (p.after s).Beside (q.after t) := by
  induction h generalizing p q with
  | nil => exact hp
  | keep _ _ ih => exact ih (hp.advance _)
  | put _ ih =>
    refine ih ⟨?_, rfl⟩
    exact congrArg (· + 1) hp.line_eq

end ScadText
