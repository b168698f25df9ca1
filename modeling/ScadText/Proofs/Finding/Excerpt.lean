import ScadText.Finding.Excerpt
import ScadText.Proofs.Finding.Subject
import ScadText.Proofs.Text.Decimal
import ScadText.Proofs.Text.Lines

/-!
# Findings beside their source

An excerpt has five lines, and the bars of the last three stand below each other. So the carets
stand under what the finding is about.

## Main definitions

* `Layout`: the lines of an excerpt.
* `Layout.Shows`: the layout shows a line of the source with carets under the range of a finding.
* `underlined`: the characters of a line over the carets of the next.
* `Finding.marked`, `Finding.Fits`: the characters of a line in the range of a finding.
* `Finding.Underlines`: which characters these are, by the rule that makes the finding.

## Main statements

* `lines_excerpt`: the five lines.
* `Layout.Shows.underlined_eq`, `exists_underlines_of_mem_lint`: what stands over the carets.
* `excerpt_of_mem_lint`: the excerpt of every finding of a source.
-/

namespace ScadText

/-- The lines of an excerpt: the message, the place, a blank line, the line of the source and the
carets. -/
structure Layout where
  headline : List Char
  place : List Char
  blank : List Char
  source : List Char
  carets : List Char
  deriving DecidableEq, Repr

namespace Layout

def lines (layout : Layout) : List (List Char) :=
  [layout.headline, layout.place, layout.blank, layout.source, layout.carets]

/-- Behind a bar, which is the first one of its line, stand the line of the source and the carets
under the range of the finding. -/
structure Shows (layout : Layout) (bar : Nat) (finding : Finding) (line : List Char) : Prop where
  blank_bar : layout.blank.idxOf? '|' = some bar
  source_bar : layout.source.idxOf? '|' = some bar
  carets_bar : layout.carets.idxOf? '|' = some bar
  source_eq : layout.source.drop bar = '|' :: ' ' :: line
  carets_blank : layout.carets.take bar = List.replicate bar ' '
  column_pos : 1 ≤ finding.column
  carets_eq : layout.carets.drop bar = '|' :: ' ' ::
    (List.replicate (finding.column - 1).toNat ' ' ++
      List.replicate (max 1 (finding.endColumn - finding.column)).toNat '^')
  carets_le : line ≠ [] → layout.carets.length ≤ layout.source.length

end Layout

/-- The characters of a line that stand over a caret of the line below. -/
def underlined (above below : List Char) : List Char :=
  ((above.zip below).filter (·.2 == '^')).map Prod.fst

/-- The characters over the carets are what the finding is about. -/
inductive Finding.Underlines (finding : Finding) (line marked : List Char) : Rule → Prop where
  | name
      (message_eq : finding.message = "Unknown special variable '" ++ String.ofList marked ++ "'") :
      Underlines finding line marked .unknownSpecialVariable
  | lastChar {c : Char} (getLast?_eq : line.getLast? = some c)
      (column_eq : finding.column = line.length)
      (endColumn_eq : finding.endColumn = line.length + 1) (marked_eq : marked = [c]) :
      Underlines finding line marked .missingSemicolon
  | firstColumn {pair : Balance.Pair} (mem : pair ∈ Balance.pairs) (column_eq : finding.column = 1)
      (endColumn_eq : finding.endColumn = 1) (marked_eq : marked = line.take 1) :
      Underlines finding line marked pair.rule

/-- The characters in the range of a finding, but at least one if the line has it. -/
def Finding.marked (finding : Finding) (line : List Char) : List Char :=
  (line.drop (finding.column - 1).toNat).take (max 1 (finding.endColumn - finding.column)).toNat

/-- Carets under a finding do not go on past the line, unless the line is empty. -/
def Finding.Fits (finding : Finding) (line : List Char) : Prop :=
  line ≠ [] → (finding.column - 1).toNat +
    (max 1 (finding.endColumn - finding.column)).toNat ≤ line.length

variable {finding : Finding} {line text above below : List Char} {file : String} {index : Nat}

/-! ## Characters over carets -/

theorem underlined_append {s t : List Char} (h : s.length = t.length) :
    underlined (s ++ above) (t ++ below) = underlined s t ++ underlined above below := by
  rw [underlined, List.zip_append h, List.filter_append, List.map_append, underlined, underlined]

theorem underlined_of_notMem (above : List Char) (h : '^' ∉ below) :
    underlined above below = [] := by
  rw [underlined, List.map_eq_nil_iff, List.filter_eq_nil_iff]
  rintro ⟨c, d⟩ hmem
  have hd : d ∈ below := (List.of_mem_zip hmem).2
  grind

theorem underlined_carets (above : List Char) (n : Nat) :
    underlined above (List.replicate n '^') = above.take n := by
  induction n generalizing above with
  | zero => simp [underlined]
  | succ n ih =>
    cases above with
    | nil => rfl
    | cons c above =>
      rw [List.replicate_succ, List.take_succ_cons, ← ih]
      simp [underlined]

theorem underlined_blanks (above below : List Char) (n : Nat) :
    underlined above (List.replicate n ' ' ++ below) = underlined (above.drop n) below := by
  induction n generalizing above with
  | zero => rfl
  | succ n ih =>
    cases above with
    | nil => simp [underlined]
    | cons c above =>
      rw [List.replicate_succ, List.drop_succ_cons, ← ih]
      simp [underlined]

/-- Where the bars stand below each other, the carets stand under the range of the finding. -/
theorem Layout.Shows.underlined_eq {layout : Layout} {bar : Nat}
    (h : layout.Shows bar finding line) :
    underlined layout.source layout.carets = finding.marked line := by
  have hsource : (layout.source.take bar).length = (layout.carets.take bar).length := by
    have hlong := congrArg List.length h.source_eq
    have hlong' := congrArg List.length h.carets_eq
    simp only [List.length_drop, List.length_cons] at hlong hlong'
    simp only [List.length_take]
    omega
  have hblank : '^' ∉ layout.carets.take bar := by
    rw [h.carets_blank]
    simp
  rw [← List.take_append_drop bar layout.source, ← List.take_append_drop bar layout.carets,
    underlined_append hsource, underlined_of_notMem _ hblank, List.nil_append, h.source_eq,
    h.carets_eq, Finding.marked, ← underlined_carets, ← underlined_blanks]
  rfl

/-! ## The lines of an excerpt -/

/-- The lines of the excerpt of a finding, for the line of the source that is shown. -/
def Finding.layout (finding : Finding) (shown : List Char) (file : String) : Layout :=
  let number := toString finding.line
  let gutter := fill ' ' (number.length + 1)
  { headline :=
      (finding.severity.name ++ "[" ++ finding.code ++ "]: " ++ finding.message).toList
    place := (gutter ++ "--> " ++ file ++ ":" ++ number ++ ":" ++ toString finding.column).toList
    blank := (gutter ++ "|").toList
    source := (number ++ " | ").toList ++ shown
    carets := (gutter ++ "| " ++ fill ' ' (finding.column - 1) ++
      fill '^' (finding.caretCount shown)).toList }

theorem toList_excerpt (finding : Finding) (text : List Char) (file : String) :
    let layout := finding.layout (Finding.sourceLine text finding.line) file
    (finding.excerpt text file).toList = layout.headline ++ '\n' :: (layout.place ++ '\n' ::
      (layout.blank ++ '\n' :: (layout.source ++ '\n' :: layout.carets))) := by
  have hfeed : "\n".toList = ['\n'] := rfl
  have hbar : "|\n".toList = "|".toList ++ ['\n'] := rfl
  intro layout
  unfold Finding.excerpt
  dsimp only [layout, Finding.layout]
  simp only [String.toList_append, String.toList_ofList, hfeed, hbar, List.append_assoc,
    List.cons_append, List.nil_append]

theorem newline_notMem_fill {c : Char} (hc : c ≠ '\n') (count : Int) :
    '\n' ∉ (Finding.fill c count).toList := by
  simp [Finding.fill, hc.symm]

theorem newline_notMem_sourceLine (text : List Char) (number : Int) :
    '\n' ∉ Finding.sourceLine text number := by
  rw [Finding.sourceLine]
  split
  · cases hline : (Text.lines text)[(number - 1).toNat]? with
    | none => simp [Text.trimEnd]
    | some line =>
      intro h
      rw [Option.getD_some, Text.trimEnd, List.mem_reverse] at h
      have hmem := List.mem_reverse.mp ((List.dropWhile_suffix _).subset h)
      exact Text.newline_not_mem_lines (List.mem_of_getElem? hline) hmem
  · exact List.not_mem_nil

/-- An excerpt has five lines. -/
theorem lines_excerpt (hcode : '\n' ∉ finding.code.toList)
    (hmessage : '\n' ∉ finding.message.toList) (hfile : '\n' ∉ file.toList) (text : List Char) :
    Text.lines (finding.excerpt text file).toList =
      (finding.layout (Finding.sourceLine text finding.line) file).lines := by
  have hseverity : '\n' ∉ finding.severity.name.toList := by
    cases finding.severity <;> decide
  have hnumber (value : Int) : '\n' ∉ value.repr.toList :=
    Text.notMem_toString (by decide) (by decide) value
  have hblanks (count : Int) : '\n' ∉ (Finding.fill ' ' count).toList :=
    newline_notMem_fill (by decide) count
  have hcarets (count : Int) : '\n' ∉ (Finding.fill '^' count).toList :=
    newline_notMem_fill (by decide) count
  rw [toList_excerpt, Text.lines_append_newline, Text.lines_append_newline,
    Text.lines_append_newline, Text.lines_append_newline, Text.lines_of_notMem]
  · rfl
  all_goals simp [Finding.layout, hseverity, hcode, hmessage, hfile, hnumber, hblanks, hcarets,
    newline_notMem_sourceLine]

/-- The line of a source without carriage returns is shown as it is. -/
theorem sourceLine_eq (hreturn : '\r' ∉ text) (hline : (Text.lines text)[index]? = some line) :
    Finding.sourceLine text (index + 1) = line := by
  have hpred : (index + 1 - 1 : Int) = index := by omega
  rw [Finding.sourceLine, if_pos (by omega), hpred, Int.toNat_natCast, hline, Option.getD_some]
  refine Text.trimEnd_eq_self fun c hc => ?_
  have hmem : c ∈ text :=
    Text.mem_of_mem_lines (List.mem_of_getElem? hline) (List.mem_of_getLast? hc)
  grind

theorem idxOf?_append_cons {s : List Char} {c : Char} (h : c ∉ s) (t : List Char) :
    (s ++ c :: t).idxOf? c = some s.length := by
  induction s with
  | nil => simp [List.idxOf?_cons]
  | cons d s ih =>
    rw [List.mem_cons, not_or] at h
    have hd : (d == c) = false := beq_false_of_ne (Ne.symm h.1)
    simp [List.idxOf?_cons, hd, ih h.2]

/-- On one line of the source, the bars stand below each other. -/
theorem shows_layout (hline : finding.endLine = finding.line) (hpos : 1 ≤ finding.column)
    (fits : finding.Fits line) (file : String) :
    (finding.layout line file).Shows ((toString finding.line).length + 1) finding line := by
  have hblank : (finding.layout line file).blank =
      List.replicate ((toString finding.line).length + 1) ' ' ++ '|' :: [] := by
    simp [Finding.layout, Finding.fill]
  have hsource : (finding.layout line file).source =
      (toString finding.line).toList ++ [' '] ++ '|' :: ' ' :: line := by
    simp [Finding.layout]
  have hcarets : (finding.layout line file).carets =
      List.replicate ((toString finding.line).length + 1) ' ' ++ '|' :: ' ' ::
        (List.replicate (finding.column - 1).toNat ' ' ++
          List.replicate (max 1 (finding.endColumn - finding.column)).toNat '^') := by
    simp [Finding.layout, Finding.fill, Finding.caretCount, hline]
  have hnumber : '|' ∉ (toString finding.line).toList ++ [' '] := by
    have hdigits := Text.notMem_toString (c := '|') (by decide) (by decide) finding.line
    simpa using hdigits
  have hwidth : ((toString finding.line).toList ++ [' ']).length =
      (toString finding.line).length + 1 := by
    rw [List.length_append, String.length_toList, List.length_singleton]
  refine ⟨?_, ?_, ?_, ?_, ?_, hpos, ?_, fun hne => ?_⟩
  · rw [hblank, idxOf?_append_cons (by simp), List.length_replicate]
  · rw [hsource, idxOf?_append_cons hnumber, hwidth]
  · rw [hcarets, idxOf?_append_cons (by simp), List.length_replicate]
  · rw [hsource, List.drop_left' hwidth]
  · rw [hcarets, List.take_left' List.length_replicate]
  · rw [hcarets, List.drop_left' List.length_replicate]
  · have hfits := fits hne
    rw [hcarets, hsource, List.length_append, List.length_append, hwidth, List.length_replicate]
    simp only [List.length_cons, List.length_append, List.length_replicate]
    omega

/-! ## Findings of a source -/

theorem SpecialVariable.underlines_of_mem_unknown {number : Int}
    (h : finding ∈ unknown line number) :
    finding.code = Rule.unknownSpecialVariable.code ∧
      finding.Underlines line (finding.marked line) .unknownSpecialVariable ∧
      finding.Fits line := by
  obtain ⟨name, hname, rfl⟩ := List.mem_map.mp h
  have hname := (List.mem_filter.mp hname).1
  have hinfix := isInfix_of_mem_names hname
  have hstart : ((firstIndex name line + 1 : Int) - 1).toNat = firstIndex name line := by omega
  have hcount : (max 1 ((firstIndex name line + 1 : Int) + name.length -
      (firstIndex name line + 1))).toNat = name.length := by
    obtain ⟨body, rfl, -⟩ := (isName_of_mem_names hname).exists_eq_cons
    rw [List.length_cons]
    omega
  have hmarked : (SpecialVariable.finding line number name).marked line = name := by
    rw [Finding.marked, SpecialVariable.finding]
    dsimp only
    rw [hstart, hcount]
    exact (List.prefix_iff_eq_take.mp (prefix_drop_firstIndex hinfix)).symm
  refine ⟨rfl, .name ?_, fun _ => ?_⟩
  · rw [hmarked]
    rfl
  · simp only [SpecialVariable.finding, hstart, hcount]
    exact firstIndex_add_length_le hinfix

theorem Statement.underlines_of_missingSemicolon? {number : Int}
    (h : missingSemicolon? line number = some finding) :
    finding.code = Rule.missingSemicolon.code ∧
      finding.Underlines line (finding.marked line) .missingSemicolon ∧ finding.Fits line := by
  rw [missingSemicolon?] at h
  split at h
  · next hlacks =>
    obtain rfl := Option.some.inj h
    obtain ⟨before, c, rfl⟩ :=
      (List.eq_nil_or_concat' line).resolve_left (ne_nil_of_lacksTerminator hlacks)
    refine ⟨rfl, .lastChar (c := c) (by simp) rfl rfl ?_, fun _ => ?_⟩
    · simp [Finding.marked]
    · simp only [List.length_append, List.length_singleton]
      omega
  · cases h

theorem Balance.underlines_of_mem_unmatched (h : finding ∈ unmatched text) (line : List Char) :
    ∃ rule : Rule, finding.code = rule.code ∧
      finding.Underlines line (finding.marked line) rule ∧ finding.Fits line := by
  obtain ⟨pair, hpair, h⟩ := List.mem_filterMap.mp h
  rw [Pair.unmatched?] at h
  split at h
  · cases h
  · obtain rfl := Option.some.inj h
    refine ⟨pair.rule, rfl, .firstColumn hpair rfl rfl (by simp [Finding.marked]), fun hne => ?_⟩
    have hpos := List.length_pos_iff.mpr hne
    dsimp only
    omega

/-- Every finding of a source stands on a line of it, under which its carets are. -/
theorem exists_underlines_of_mem_lint (h : finding ∈ lint text) :
    ∃ (index : Nat) (line : List Char) (rule : Rule), (Text.lines text)[index]? = some line ∧
      finding.OnLine index line ∧ finding.code = rule.code ∧
      finding.Underlines line (finding.marked line) rule ∧ finding.Fits line := by
  obtain ⟨index, line, hline, h⟩ | h := mem_lint_iff.mp h
  · have honLine := onLine_of_mem_lintLine h
    obtain h | h := List.mem_append.mp h
    · exact ⟨index, line, .missingSemicolon, hline, honLine,
        Statement.underlines_of_missingSemicolon? (Option.mem_toList.mp h)⟩
    · exact ⟨index, line, .unknownSpecialVariable, hline, honLine,
        SpecialVariable.underlines_of_mem_unknown h⟩
  · obtain ⟨line, lines, hlines⟩ := List.exists_cons_of_ne_nil (Text.lines_ne_nil text)
    obtain ⟨rule, hunderlines⟩ := Balance.underlines_of_mem_unmatched h line
    exact ⟨0, line, rule, by rw [hlines]; rfl, onLine_of_mem_unmatched h line, hunderlines⟩

theorem newline_notMem_code (rule : Rule) : '\n' ∉ rule.code.toList := by
  cases rule <;> decide

/-- No message of a finding breaks a line. -/
theorem newline_notMem_message_of_mem_lint (h : finding ∈ lint text) :
    '\n' ∉ finding.message.toList := by
  obtain ⟨index, line, hline, h⟩ | h := mem_lint_iff.mp h
  · obtain h | h := List.mem_append.mp h
    · rw [Statement.missingSemicolon?] at h
      split at h
      · obtain rfl := Option.some.inj (Option.mem_toList.mp h)
        have hmessage : '\n' ∉ "Missing semicolon".toList := by decide
        exact hmessage
      · simp at h
    · obtain ⟨name, hname, rfl⟩ := List.mem_map.mp h
      have hpart := SpecialVariable.isInfix_of_mem_names (List.mem_filter.mp hname).1
      have hname : '\n' ∉ name := fun hmem =>
        Text.newline_not_mem_lines (List.mem_of_getElem? hline) (hpart.subset hmem)
      simp [SpecialVariable.finding, hname]
  · obtain ⟨pair, hpair, h⟩ := List.mem_filterMap.mp h
    rw [Balance.Pair.unmatched?] at h
    split at h
    · cases h
    · obtain rfl := Option.some.inj h
      have hnoun : ∀ pair ∈ Balance.pairs, '\n' ∉ pair.noun.toList := by decide
      simp [hnoun pair hpair, Nat.repr_eq_ofList_toDigits, Text.notMem_toDigits]

/-- The excerpt of a finding has five lines. The bars of the last three stand below each other, with
the line of the source behind the one and the carets under what the finding is about behind the
other. -/
theorem excerpt_of_mem_lint (hreturn : '\r' ∉ text) (hfile : '\n' ∉ file.toList)
    (h : finding ∈ lint text) :
    ∃ (index : Nat) (line : List Char) (rule : Rule) (layout : Layout) (bar : Nat),
      (Text.lines text)[index]? = some line ∧ finding.line = index + 1 ∧
      Text.lines (finding.excerpt text file).toList = layout.lines ∧
      layout.Shows bar finding line ∧ finding.code = rule.code ∧
      finding.Underlines line (underlined layout.source layout.carets) rule := by
  obtain ⟨index, line, rule, hline, honLine, hcode, hunderlines, hfits⟩ :=
    exists_underlines_of_mem_lint h
  have hlines := lines_excerpt (hcode ▸ newline_notMem_code rule)
    (newline_notMem_message_of_mem_lint h) hfile text
  rw [honLine.line_eq, sourceLine_eq hreturn hline] at hlines
  have hshows :=
    shows_layout (honLine.endLine_eq.trans honLine.line_eq.symm) honLine.column_pos hfits file
  refine ⟨index, line, rule, finding.layout line file, _, hline, honLine.line_eq, hlines, hshows,
    hcode, ?_⟩
  rw [hshows.underlined_eq]
  exact hunderlines

/-- A line number of two digits moves all three bars, and the carets stay under the name. -/
theorem excerpt_of_mem_lint_two_digits :
    let text := "\n\n\n\n\n\n\n\n\n(|$q".toList
    let finding := SpecialVariable.finding "(|$q".toList 10 "$q".toList
    '\r' ∉ text ∧ '\n' ∉ "a|b.scad".toList ∧ finding ∈ lint text ∧
    ∃ (index : Nat) (line : List Char) (rule : Rule) (layout : Layout) (bar : Nat),
      (Text.lines text)[index]? = some line ∧ finding.line = index + 1 ∧
      Text.lines (finding.excerpt text "a|b.scad").toList = layout.lines ∧
      layout.Shows bar finding line ∧ finding.code = rule.code ∧
      finding.Underlines line (underlined layout.source layout.carets) rule := by
  intro text finding
  have hreturn : '\r' ∉ text := by decide
  have hfile : '\n' ∉ "a|b.scad".toList := by decide
  have h : finding ∈ lint text := by decide +kernel
  exact ⟨hreturn, hfile, h, excerpt_of_mem_lint hreturn hfile h⟩

end ScadText
