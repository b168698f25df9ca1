import Mathlib.Data.List.Forall2
import Mathlib.Order.Bounds.Basic
import ScadText.Proofs.Finding.Name
import ScadText.Proofs.Finding.Place

/-!
# One finding for each use of an unknown name

Each dollar sign before a letter or low line is a use of a name, whatever stands around it. The
findings of a line are those of its uses, from left to right. A use is found at its dollar sign, but
the column of its finding is looked up anew: it is that of the first place where the characters of
the name occur, which may be the front of a longer name.

## Main definitions

* `UsedAt`: the name whose dollar sign stands at an index of a line.
* `ReportsUse`: what the finding of a use is.

## Main statements

* `mem_scan_iff_usedAt`, `pairwise_scan`: the scan finds exactly the uses, in their order.
* `isLeast_firstIndex`: the least index at which a name occurs.
* `unknown_reports`: the findings report the uses of unknown names one for one.
-/

namespace ScadText.SpecialVariable

/-- A dollar sign stands at the index and a letter or low line after it; the name goes on as far as
letters, digits and low lines do. -/
structure UsedAt (text : List Char) (index : Nat) (name : List Char) : Prop where
  dollar : text[index]? = some '$'
  start : ∃ c, text[index + 1]? = some c ∧ isNameStart c = true
  name_eq : name = '$' :: (text.drop (index + 1)).takeWhile isNameChar

/-- The finding of a name that is used at an index of a line. It lies where the characters of the
name occur first, so at the use itself only if they do not occur before it. -/
structure ReportsUse (line : List Char) (number : Int) (use : Nat × List Char) (finding : Finding) :
    Prop where
  severity_eq : finding.severity = .warning
  code_eq : finding.code = Rule.unknownSpecialVariable.code
  message_eq : finding.message = "Unknown special variable '" ++ String.ofList use.2 ++ "'"
  line_eq : finding.line = number
  endLine_eq : finding.endLine = number
  column_eq : ∃ first, IsLeast {index | use.2 <+: line.drop index} first ∧
    finding.column = 1 + first
  column_le : finding.column ≤ use.1 + 1
  column_eq_iff : finding.column = use.1 + 1 ↔ ¬ use.2 <:+: line.take use.1
  endColumn_eq : finding.endColumn = finding.column + use.2.length

variable {line name part text : List Char} {index column : Nat}

/-! ## Uses -/

theorem nameAt?_eq_some_iff_getElem? : nameAt? text = some name ↔
    text[0]? = some '$' ∧ (∃ c, text[1]? = some c ∧ isNameStart c = true) ∧
      name = '$' :: (text.drop 1).takeWhile isNameChar := by
  match text with
  | [] => simp [nameAt?]
  | [c] => simp [nameAt?]
  | c :: d :: cs =>
    by_cases hc : c = '$'
    · subst hc
      by_cases hd : isNameStart d = true
      · have hrun : nameAt? ('$' :: d :: cs) = some ('$' :: d :: cs.takeWhile isNameChar) := by
          rw [nameAt?, if_pos hd]
        rw [hrun, Option.some.injEq]
        simp [hd, isNameChar_of_isNameStart hd, eq_comm (a := name)]
      · simp [nameAt?, hd]
    · simp [nameAt?, hc]

theorem usedAt_iff : UsedAt line index name ↔ nameAt? (line.drop index) = some name := by
  rw [nameAt?_eq_some_iff_getElem?, List.getElem?_drop, List.getElem?_drop, List.drop_drop,
    Nat.add_zero]
  constructor
  · rintro ⟨hdollar, hstart, hname⟩
    exact ⟨hdollar, hstart, hname⟩
  · rintro ⟨hdollar, hstart, hname⟩
    exact ⟨hdollar, hstart, hname⟩

/-- The scan skips no use of a name, and finds nothing else. -/
theorem mem_scan_iff_usedAt : (index, name) ∈ scan 0 line ↔ UsedAt line index name := by
  rw [usedAt_iff, mem_scan_iff]
  constructor
  · rintro ⟨before, after, rfl, rfl, hafter⟩
    rwa [Nat.zero_add, List.drop_left]
  · intro h
    have hindex : index < line.length := by
      rw [← List.drop_eq_nil_iff.not.trans Nat.not_le]
      intro hnil
      rw [hnil] at h
      cases h
    refine ⟨line.take index, line.drop index, (List.take_append_drop index line).symm, ?_, h⟩
    rw [Nat.zero_add, List.length_take_of_le hindex.le]

/-- The scan finds the names from left to right, and none of them twice. -/
theorem pairwise_scan (column : Nat) (line : List Char) :
    (scan column line).Pairwise (·.1 < ·.1) := by
  induction line using scan_induction generalizing column with
  | nil => simp [scan]
  | skip c cs h ih =>
    rw [scan, h]
    exact ih (column + 1)
  | found name rest h ih =>
    rw [scan_of_nameAt? h, List.pairwise_cons]
    refine ⟨?_, ih (column + name.length)⟩
    rintro ⟨later, other⟩ hlater
    obtain ⟨before, after, -, rfl, -⟩ := mem_scan_iff.mp hlater
    obtain ⟨⟨c, cs, rfl, -⟩, -⟩ := nameAt?_eq_some_iff.mp h
    simp only [List.length_cons]
    omega

/-! ## First occurrence -/

theorem firstIndex_le (h : part <+: line.drop index) : firstIndex part line ≤ index := by
  induction line generalizing index with
  | nil => exact Nat.zero_le index
  | cons c line ih =>
    rw [firstIndex]
    split
    · exact Nat.zero_le index
    · next hfront =>
      cases index with
      | zero => exact absurd (List.isPrefixOf_iff_prefix.mpr h) hfront
      | succ index => exact Nat.succ_le_succ (ih h)

/-- Where a text occurs in a line, the search for it ends at the least index of an occurrence. -/
theorem isLeast_firstIndex (h : part <:+: line) :
    IsLeast {index | part <+: line.drop index} (firstIndex part line) :=
  ⟨prefix_drop_firstIndex h, fun _ => firstIndex_le⟩

theorem UsedAt.isName (h : UsedAt line index name) : IsName name :=
  (nameAt?_eq_some_iff.mp (usedAt_iff.mp h)).1

theorem UsedAt.prefix_drop (h : UsedAt line index name) : name <+: line.drop index :=
  nameAt?_eq_take (usedAt_iff.mp h)

theorem UsedAt.isInfix (h : UsedAt line index name) : name <:+: line :=
  h.prefix_drop.isInfix.trans (List.drop_suffix index line).isInfix

/-- Where a used name occurs before its use, it also ends there. -/
theorem isInfix_take_of_lt (hused : UsedAt line index name) (h : name <+: line.drop column)
    (hlt : column < index) : name <:+: line.take index := by
  obtain ⟨body, rfl, hbody⟩ := hused.isName.exists_eq_cons
  have hle : ('$' :: body).length ≤ index - column := by
    by_contra hlong
    rw [List.length_cons] at hlong
    -- the dollar sign would be one of the characters that continue the name
    obtain ⟨inside, rfl⟩ : ∃ inside, index = column + (inside + 1) :=
      ⟨index - column - 1, by omega⟩
    have hinside : inside < body.length := by omega
    have hchar := List.prefix_iff_getElem?.mp h (inside + 1) (Nat.succ_lt_succ hinside)
    rw [List.getElem?_drop, hused.dollar, List.getElem_cons_succ, Option.some.injEq] at hchar
    have hcontinues := hbody _ (List.getElem_mem hinside)
    rw [← hchar] at hcontinues
    exact absurd hcontinues (by decide)
  have hfront : '$' :: body <+: (line.take index).drop column := by
    rw [List.drop_take]
    exact List.prefix_take_iff.mpr ⟨h, hle⟩
  exact hfront.isInfix.trans (List.drop_suffix column _).isInfix

/-- The search for a used name ends at the use, unless the name occurs before it. -/
theorem firstIndex_eq_iff (h : UsedAt line index name) :
    firstIndex name line = index ↔ ¬ name <:+: line.take index := by
  have hle := firstIndex_le h.prefix_drop
  constructor
  · intro hfirst hbefore
    have hlt := firstIndex_add_length_le hbefore
    rw [← firstIndex_append hbefore (line.drop index), List.take_append_drop, hfirst] at hlt
    have hshort := List.length_take_le index line
    obtain ⟨body, rfl, -⟩ := h.isName.exists_eq_cons
    rw [List.length_cons] at hlt
    omega
  · intro hnot
    by_contra hne
    exact hnot (isInfix_take_of_lt h (prefix_drop_firstIndex h.isInfix) (by omega))

/-! ## Findings -/

theorem reports_of_usedAt (h : UsedAt line index name) (number : Int) :
    ReportsUse line number (index, name) (finding line number name) := by
  have hle := firstIndex_le h.prefix_drop
  refine ⟨rfl, rfl, rfl, rfl, rfl, ?_, ?_, ?_, rfl⟩
  · exact ⟨firstIndex name line, isLeast_firstIndex h.isInfix, Int.add_comm _ 1⟩
  · dsimp only [finding]
    omega
  · rw [← firstIndex_eq_iff h]
    dsimp only [finding]
    omega

/-- A scan from left to right, which goes on after the end of each name, finds exactly the uses of
names in the line: none is skipped, merged with another or found twice. The findings of the line
report those of them that are not known, one for one and in their order. -/
theorem unknown_reports (line : List Char) (number : Int) :
    names line = (scan 0 line).map Prod.snd ∧
    (∀ index name, (index, name) ∈ scan 0 line ↔ UsedAt line index name) ∧
    (scan 0 line).Pairwise (·.1 < ·.1) ∧
    List.Forall₂ (ReportsUse line number)
      ((scan 0 line).filter fun use => String.ofList use.2 ∉ Vocabulary.specialVariables)
      (unknown line number) := by
  refine ⟨(map_snd_scan 0 line).symm, fun _ _ => mem_scan_iff_usedAt, pairwise_scan 0 line, ?_⟩
  have hunknown : unknown line number =
      ((scan 0 line).filter fun use => String.ofList use.2 ∉ Vocabulary.specialVariables).map
        fun use => finding line number use.2 := by
    rw [unknown, ← map_snd_scan 0 line, List.filter_map, List.map_map]
    simp [isKnown, Function.comp_def]
  rw [hunknown, List.forall₂_map_right_iff, List.forall₂_same]
  rintro ⟨index, name⟩ huse
  exact reports_of_usedAt (mem_scan_iff_usedAt.mp (List.mem_filter.mp huse).1) number

-- The second name is also the front of the first one, which is where it is reported.
example : (unknown "$ab$a".toList 1).map (·.column) = [1, 1] := by decide +kernel

end ScadText.SpecialVariable
