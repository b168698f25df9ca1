import ScadText.Proofs.Finding.Name
import ScadText.Proofs.Finding.Place

/-!
# What findings point at

The range of a finding holds what the finding is about: the name that its message quotes, the last
character of a line that lacks its terminator, or nothing where the finding is about the whole text.

## Main definitions

* `Finding.shown`: the characters in the range of a finding.
* `Finding.PointsAt`: what these are, by the rule that makes the finding.

## Main statements

* `extract_firstIndex`: the range of an unknown name holds that name.
* `pointsAt_of_mem_lint`: every finding lies on a line and points at its subject.
-/

namespace ScadText

/-- The characters of a line between the columns of the finding. -/
def Finding.shown (finding : Finding) (line : List Char) : List Char :=
  line.extract (finding.column - 1).toNat (finding.endColumn - 1).toNat

/-- What a finding points at on its line, by the rule that makes it. -/
inductive Finding.PointsAt (finding : Finding) (line : List Char) : Rule → Prop where
  | name {name : List Char} (unknown : String.ofList name ∉ Vocabulary.specialVariables)
      (message_eq : finding.message = "Unknown special variable '" ++ String.ofList name ++ "'")
      (shown_eq : finding.shown line = name) : PointsAt finding line .unknownSpecialVariable
  | lastChar {c : Char} (getLast?_eq : line.getLast? = some c) (shown_eq : finding.shown line = [c])
      (endColumn_eq : finding.endColumn = line.length + 1) :
      PointsAt finding line .missingSemicolon
  | textStart {pair : Balance.Pair} (mem : pair ∈ Balance.pairs) (line_eq : finding.line = 1)
      (column_eq : finding.column = 1) (endColumn_eq : finding.endColumn = 1) :
      PointsAt finding line pair.rule

variable {finding : Finding} {line name text : List Char} {number : Int}

/-- Between the columns of an unknown name stands that name. -/
theorem SpecialVariable.extract_firstIndex (h : name <:+: line) :
    line.extract (firstIndex name line) (firstIndex name line + name.length) = name := by
  have hprefix := prefix_drop_firstIndex h
  rw [List.extract_eq_take_drop, Nat.add_sub_cancel_left]
  exact (List.prefix_iff_eq_take.mp hprefix).symm

theorem SpecialVariable.pointsAt_of_mem_unknown (h : finding ∈ unknown line number) :
    finding.code = Rule.unknownSpecialVariable.code ∧
      finding.PointsAt line .unknownSpecialVariable := by
  obtain ⟨name, hname, rfl⟩ := List.mem_map.mp h
  obtain ⟨hname, hunknown⟩ := List.mem_filter.mp hname
  refine ⟨rfl, .name (by simpa [isKnown] using hunknown) rfl ?_⟩
  have hstart : ((firstIndex name line + 1 : Int) - 1).toNat = firstIndex name line := by omega
  have hstop : ((firstIndex name line + 1 : Int) + name.length - 1).toNat =
      firstIndex name line + name.length := by omega
  rw [Finding.shown, SpecialVariable.finding]
  dsimp only
  rw [hstart, hstop]
  exact extract_firstIndex (isInfix_of_mem_names hname)

theorem Statement.pointsAt_of_missingSemicolon? (h : missingSemicolon? line number = some finding) :
    finding.code = Rule.missingSemicolon.code ∧ finding.PointsAt line .missingSemicolon := by
  rw [missingSemicolon?] at h
  split at h
  · next hlacks =>
    obtain rfl := Option.some.inj h
    obtain ⟨before, c, rfl⟩ :=
      (List.eq_nil_or_concat' line).resolve_left (ne_nil_of_lacksTerminator hlacks)
    refine ⟨rfl, .lastChar (c := c) (by simp) ?_ rfl⟩
    simp [Finding.shown]
  · cases h

theorem Balance.pointsAt_of_mem_unmatched (h : finding ∈ unmatched text) (line : List Char) :
    ∃ pair ∈ pairs, finding.code = pair.rule.code ∧ finding.PointsAt line pair.rule := by
  obtain ⟨pair, hpair, h⟩ := List.mem_filterMap.mp h
  rw [Pair.unmatched?] at h
  split at h
  · cases h
  · obtain rfl := Option.some.inj h
    exact ⟨pair, hpair, rfl, .textStart hpair rfl rfl rfl⟩

/-- Every finding of a source lies on a line of it, and points at what it is about. -/
theorem pointsAt_of_mem_lint (h : finding ∈ lint text) :
    ∃ (index : Nat) (line : List Char) (rule : Rule), (Text.lines text)[index]? = some line ∧
      finding.OnLine index line ∧ finding.code = rule.code ∧ finding.PointsAt line rule := by
  obtain ⟨index, line, hline, h⟩ | h := mem_lint_iff.mp h
  · have honLine := onLine_of_mem_lintLine h
    obtain h | h := List.mem_append.mp h
    · have hpoints := Statement.pointsAt_of_missingSemicolon? (Option.mem_toList.mp h)
      exact ⟨index, line, .missingSemicolon, hline, honLine, hpoints⟩
    · have hpoints := SpecialVariable.pointsAt_of_mem_unknown h
      exact ⟨index, line, .unknownSpecialVariable, hline, honLine, hpoints⟩
  · obtain ⟨line, lines, hlines⟩ := List.exists_cons_of_ne_nil (Text.lines_ne_nil text)
    obtain ⟨pair, -, hpoints⟩ := Balance.pointsAt_of_mem_unmatched h line
    exact ⟨0, line, pair.rule, by rw [hlines]; rfl, onLine_of_mem_unmatched h line, hpoints⟩

/-- A name that is also the front of a longer one is pointed at there, where it first occurs. -/
theorem pointsAt_of_mem_lint_front :
    SpecialVariable.finding " $foobar=$foo".toList 2 "$foo".toList ∈
        lint "cube();\n $foobar=$foo".toList ∧
      ∃ (index : Nat) (line : List Char) (rule : Rule),
        (Text.lines "cube();\n $foobar=$foo".toList)[index]? = some line ∧
        (SpecialVariable.finding " $foobar=$foo".toList 2 "$foo".toList).OnLine index line ∧
        "unknown-special-variable" = rule.code ∧
        (SpecialVariable.finding " $foobar=$foo".toList 2 "$foo".toList).PointsAt line rule :=
  have h : SpecialVariable.finding " $foobar=$foo".toList 2 "$foo".toList ∈
      lint "cube();\n $foobar=$foo".toList := by decide +kernel
  ⟨h, pointsAt_of_mem_lint h⟩

end ScadText
