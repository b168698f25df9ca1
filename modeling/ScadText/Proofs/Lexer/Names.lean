import ScadText.Proofs.Finding.Subject
import ScadText.Proofs.Lexer.Lexemes

/-!
# Names in tokens and names in lines

The lexer and the check for unknown names read the same text apart: a word of the lexer may hold
dollar signs, and a name of the check may not. A word with a single dollar sign at its front ends
where its name ends, so the check finds it where the lexer does, and both look it up in one table.

## Main definitions

* `Finding.Reports`: the finding reports a name as unknown.

## Main statements

* `nameAt?_of_longest`: a word with one dollar sign is the name at the front of its text.
* `isKnown_of_reports`: a name that is reported is in no table.
* `agree_of_mem_tokenize`: tokens and findings agree on names.
-/

namespace ScadText

/-- The finding reports a name as unknown. -/
structure Finding.Reports (finding : Finding) (name : List Char) : Prop where
  code_eq : finding.code = Rule.unknownSpecialVariable.code
  message_eq : finding.message = "Unknown special variable '" ++ String.ofList name ++ "'"

variable {finding : Finding} {line name text : List Char}

/-! ## Names that are reported -/

namespace SpecialVariable

theorem reports_finding (line : List Char) (number : Int) (name : List Char) :
    (SpecialVariable.finding line number name).Reports name := ⟨rfl, rfl⟩

/-- A finding reports one name only. -/
theorem eq_of_reports {other : List Char} (h : finding.Reports name) (h' : finding.Reports other) :
    name = other := by
  have hmessage := congrArg String.toList (h.message_eq.symm.trans h'.message_eq)
  simpa using hmessage

/-- A name that is reported is not in the table. -/
theorem isKnown_of_reports (h : finding ∈ lint text) (hreports : finding.Reports name) :
    isKnown name = false := by
  obtain ⟨index, line, -, h⟩ | h := mem_lint_iff.mp h
  · obtain h | h := List.mem_append.mp h
    · have hcode := (Statement.pointsAt_of_missingSemicolon? (Option.mem_toList.mp h)).1
      exact absurd (hcode.symm.trans hreports.code_eq) (by decide)
    · obtain ⟨other, hother, rfl⟩ := List.mem_map.mp h
      have hname := eq_of_reports hreports (reports_finding line _ other)
      simpa [hname] using (List.mem_filter.mp hother).2
  · obtain ⟨pair, hpair, hcode, -⟩ := Balance.pointsAt_of_mem_unmatched h []
    have hne : ∀ pair ∈ Balance.pairs, pair.rule.code ≠ Rule.unknownSpecialVariable.code := by
      decide
    exact absurd (hcode.symm.trans hreports.code_eq) (hne pair hpair)

/-- Every name of a line that is not in the table is reported there. -/
theorem exists_reports {index : Nat} (hline : (Text.lines text)[index]? = some line)
    (hname : name ∈ names line) (hknown : isKnown name = false) :
    ∃ finding ∈ lint text, finding.Reports name ∧ finding.line = index + 1 := by
  refine ⟨SpecialVariable.finding line (index + 1) name, ?_, reports_finding _ _ _, rfl⟩
  refine mem_lint_iff.mpr (.inl ⟨index, line, hline, List.mem_append_right _ ?_⟩)
  exact List.mem_map_of_mem (List.mem_filter.mpr ⟨hname, by simp [hknown]⟩)

end SpecialVariable

namespace Lexer

open Grammar LexRule SpecialVariable

variable {s t : State} {token : Token} {c : Char} {cs rest : List Char}

/-! ## Words -/

/-- The kinds of words that are in no table, or in that of the names. -/
def IsNameKind (kind : TokenKind) : Prop := kind = .specialVariable ∨ kind = .identifier

/-- Of the rules between lexemes only one gives the kinds of names. -/
theorem eq_word_of_kind {r : LexRule} {w : List Char} (h : r ∈ rootRules)
    (kind : IsNameKind (r.kind w)) : r = word := by
  have hsymbols : ¬ IsNameKind (symbolKind w) := by
    unfold symbolKind
    split_ifs <;> simp [IsNameKind]
  simp only [rootRules, List.mem_cons, List.not_mem_nil, or_false] at h
  rcases h with rfl | rfl | rfl | rfl | rfl | rfl | rfl | rfl | rfl | rfl | rfl | rfl | rfl | rfl |
    rfl | rfl <;>
    first | rfl | exact absurd kind hsymbols | rcases kind with kind | kind <;> cases kind

/-- No rule inside a string gives the kinds of names. -/
theorem not_isNameKind_of_mem_stringRules {r : LexRule} {w : List Char} (h : r ∈ stringRules) :
    ¬ IsNameKind (r.kind w) := by
  simp only [stringRules, bodyRules, List.mem_cons, List.not_mem_nil, or_false] at h
  rcases h with rfl | rfl | rfl | rfl <;> rintro (kind | kind) <;> cases kind

/-- A token of the kinds of names is the longest word. -/
theorem Emits.longest_word (hs : s.Settled) (emits : Emits s token t)
    (kind : IsNameKind token.kind) :
    word.Longest s.rest token.text ∧ token.kind = wordKind token.text := by
  obtain ⟨r, first, hkind, -, -⟩ := emits.first hs
  have hr : r = word := by
    obtain hm | ⟨hm, -⟩ := hs.mode_eq
    · rw [hm] at first
      exact eq_word_of_kind first.mem (hkind ▸ kind)
    · rw [hm] at first
      exact absurd (hkind ▸ kind) (not_isNameKind_of_mem_stringRules first.mem)
  subst hr
  exact ⟨first.longest, hkind⟩

/-- A word ends where no character of a word comes after it. -/
theorem isWordChar_of_longest (h : word.Longest (c :: cs ++ rest) (c :: cs)) :
    (∀ d ∈ cs, isWordChar d = true) ∧ ∀ d ∈ rest.head?, isWordChar d = false := by
  have hstart : c ∈ wordStart := (cons_mem_one_mul.mp h.1.1).1
  have hrun : c :: cs = c :: (cs ++ rest).takeWhile isWordChar :=
    h.unique (longest_run rfl rfl (fun _ => isWordChar_iff) hstart)
  obtain ⟨-, hrun⟩ := List.cons.inj hrun
  have hrest : rest = (cs ++ rest).dropWhile isWordChar := by
    have hcut : (cs ++ rest).takeWhile isWordChar ++ (cs ++ rest).dropWhile isWordChar =
        cs ++ rest := List.takeWhile_append_dropWhile
    rw [← hrun] at hcut
    exact (List.append_cancel_left hcut).symm
  refine ⟨fun d hd => ?_, fun d hd => ?_⟩
  · rw [hrun] at hd
    exact of_mem_takeWhile hd
  · rw [hrest] at hd
    exact of_mem_head?_dropWhile hd

/-- A word whose only dollar sign stands at its front is the name at the front of its text. -/
theorem nameAt?_of_longest (h : word.Longest ('$' :: c :: cs ++ rest) ('$' :: c :: cs))
    (start : isNameStart c = true) (single : '$' ∉ cs) :
    nameAt? ('$' :: c :: cs ++ rest) = some ('$' :: c :: cs) := by
  obtain ⟨hword, hrest⟩ := isWordChar_of_longest h
  refine nameAt?_eq_some_iff.mpr ⟨⟨c, cs, rfl, start, ?_⟩, rest, rfl, ?_⟩
  · intro d hd
    have := hword d (List.mem_cons_of_mem c hd)
    have : d ≠ '$' := fun h => single (h ▸ hd)
    grind [isWordChar, isNameChar]
  · intro d hd
    have := hrest d hd
    grind [isWordChar, isNameChar]

/-! ## Tokens in their lines -/

theorem newline_notMem_of_isName (h : IsName name) : '\n' ∉ name := by
  obtain ⟨body, rfl, hbody⟩ := h.exists_eq_cons
  intro hmem
  obtain hmem | hmem := List.mem_cons.mp hmem
  · exact absurd hmem (by decide)
  · exact absurd (hbody _ hmem) (by decide)

/-- The name at the front of a text is the name at the front of its line. -/
theorem nameAt?_firstLine (h : nameAt? (name ++ rest) = some name) :
    nameAt? (name ++ Text.firstLine rest) = some name := by
  obtain ⟨hname, after, hcut, hstop⟩ := nameAt?_eq_some_iff.mp h
  obtain rfl := List.append_cancel_left hcut
  refine nameAt?_eq_some_iff.mpr ⟨hname, _, rfl, fun d hd => hstop d ?_⟩
  rw [Text.firstLine, List.head?_takeWhile] at hd
  exact (Option.filter_eq_some_iff.mp hd).1

/-- A token on one line stands in the line of its position, right before what comes after it. -/
theorem exists_line_of_tokenize_cut {source : List Char} {pre post : List Token}
    (h : tokenize source = pre ++ token :: post) (hline : '\n' ∉ token.text) :
    ∃ index before, token.start.line = index + 1 ∧ token.start.column = 1 + before.length ∧
      (Text.lines source)[index]? =
        some (before ++ (token.text ++ Text.firstLine (Token.texts post))) := by
  obtain ⟨hsource, hstart, -⟩ := tokenize_cut_text h
  rw [Position.start_after] at hstart
  refine ⟨(Token.texts pre).count '\n', Text.lastLine (Token.texts pre), ?_, ?_, ?_⟩
  · rw [hstart]
    exact Nat.add_comm 1 _
  · rw [hstart]
    exact Nat.add_comm _ 1
  · rw [hsource, Text.getElem?_lines, Text.firstLine_append hline]

/-- The lexer and the check for unknown names agree. A token of the kinds of names with one dollar
sign, at its front and before a letter or low line, is what the scan of its line finds at its column.
If no table holds it, it is reported on that line, and if the table of names does, it is reported
nowhere. -/
theorem agree_of_mem_tokenize {source : List Char} (h : token ∈ tokenize source)
    (kind : IsNameKind token.kind) (text : token.text = '$' :: c :: cs)
    (start : isNameStart c = true) (single : '$' ∉ cs) :
    ∃ line, (Text.lines source)[token.start.line - 1]? = some line ∧
      (scan 1 line).map Prod.snd = names line ∧ (token.start.column, token.text) ∈ scan 1 line ∧
      (token.kind = .identifier → ∃ finding ∈ lint source, finding.Reports token.text ∧
        finding.line = token.start.line) ∧
      (token.kind = .specialVariable → ∀ finding ∈ lint source, ¬ finding.Reports token.text) := by
  obtain ⟨pre, post, hcut⟩ := List.append_of_mem h
  obtain ⟨s, t, run, emits, ht⟩ := tokenize_cut hcut
  obtain ⟨hlongest, hkind⟩ := emits.longest_word (run.settled (State.settled_initial source)) kind
  have hname : nameAt? (token.text ++ Token.texts post) = some token.text := by
    rw [emits.consumes.rest_eq, ← texts_tokens t, ht] at hlongest
    rw [text] at hlongest ⊢
    exact nameAt?_of_longest hlongest start single
  have hnewline := newline_notMem_of_isName (nameAt?_eq_some_iff.mp hname).1
  obtain ⟨index, before, hnumber, hcolumn, hline⟩ := exists_line_of_tokenize_cut hcut hnewline
  have hscan := mem_scan_iff.mpr ⟨before, _, rfl, hcolumn, nameAt?_firstLine hname⟩
  have hkinds := wordKind_spec token.text
  rw [← hkind] at hkinds
  refine ⟨_, by rwa [hnumber], map_snd_scan 1 _, hscan, fun hidentifier => ?_,
    fun hspecial finding h' hreports => ?_⟩
  · have hknown : isKnown token.text = false := by
      simpa [isKnown] using fun hmem =>
        hkinds.identifier_iff.mp hidentifier (List.mem_append_right _ hmem)
    have hmem := List.mem_map_of_mem (f := Prod.snd) hscan
    rw [map_snd_scan] at hmem
    obtain ⟨finding, hfinding, hreports, hfline⟩ := exists_reports hline hmem hknown
    exact ⟨finding, hfinding, hreports, by rw [hfline, hnumber]; rfl⟩
  · have hknown : isKnown token.text = true := by
      simpa [isKnown] using hkinds.specialVariable_iff.mp hspecial
    rw [isKnown_of_reports h' hreports] at hknown
    cases hknown

theorem agree_of_mem_tokenize_touching :
    (∃ line, (Text.lines "//$fn\n\"$t\"9$foo;$fn".toList)[1]? = some line ∧
      (scan 1 line).map Prod.snd = names line ∧ (6, "$foo".toList) ∈ scan 1 line ∧
      ∃ finding ∈ lint "//$fn\n\"$t\"9$foo;$fn".toList,
        finding.Reports "$foo".toList ∧ finding.line = 2) ∧
    ∀ finding ∈ lint "//$fn\n\"$t\"9$foo;$fn".toList, ¬ finding.Reports "$fn".toList := by
  have hfoo : ⟨.identifier, ['$', 'f', 'o', 'o'], ⟨2, 6, 11⟩, ⟨2, 10, 15⟩⟩ ∈
      tokenize "//$fn\n\"$t\"9$foo;$fn".toList := by decide +kernel
  have hfn : ⟨.specialVariable, ['$', 'f', 'n'], ⟨2, 11, 16⟩, ⟨2, 14, 19⟩⟩ ∈
      tokenize "//$fn\n\"$t\"9$foo;$fn".toList := by decide +kernel
  obtain ⟨line, hline, hnames, hscan, hreports, -⟩ :=
    agree_of_mem_tokenize hfoo (.inr rfl) rfl (by decide) (by decide)
  obtain ⟨-, -, -, -, -, hnone⟩ :=
    agree_of_mem_tokenize hfn (.inl rfl) rfl (by decide) (by decide)
  exact ⟨⟨line, hline, hnames, hscan, hreports rfl⟩, hnone rfl⟩

end Lexer

end ScadText
