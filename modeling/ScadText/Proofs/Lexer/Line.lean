import ScadText.Proofs.Lexer.Settled

/-!
# What a lexeme looks at

Blanks and block comments apart, a lexeme is settled by the line on which it starts: its words hold
no line break, and what the lexer reads ahead does not go beyond one. So two texts whose lines ahead
are equal start with the same lexeme.

## Main definitions

* `Foreign`: a character that is in no word, number or run of symbols.
* `lineAhead`: what is left of the line at the front of a text.
* `LexRule.OnLine`: a rule that looks at no more than that.
* `StartsOnLine`: a text that starts with neither a blank nor a block comment.
* `Reads`: the word which the lexer takes from the front of a text, with its kind and the mode after
  it.
* `RootRead`: the four ways in which a text is read between lexemes.

## Main statements

* `Reads.of_lineAhead_eq`, `Reads.of_stringBody`: what is read is settled on its line.
* `reads_blank`, `reads_comment`: what is read over the ends of lines.
* `Emits.reads`, `Reads.emits`: what is read is what is emitted.
* `Reads.rootRead`: between lexemes a text is read in one of the four ways.
-/

namespace ScadText.Lexer

open Extent Grammar LexRule
open scoped Computability

/-! ## Characters that no word holds -/

/-- No word of the language holds the character. -/
def Avoids (c : Char) (L : Language Char) : Prop := ∀ w ∈ L, c ∉ w

namespace Avoids

variable {c : Char} {L M : Language Char} {u : Set Char}

theorem one (h : c ∉ u) : Avoids c (one u) := by
  rintro _ ⟨d, hd, rfl⟩ hc
  rw [List.mem_singleton] at hc
  exact h (hc ▸ hd)

theorem mul (hL : Avoids c L) (hM : Avoids c M) : Avoids c (L * M) := by
  intro w hw hc
  obtain ⟨v, hv, u, hu, rfl⟩ := Language.mem_mul.mp hw
  obtain hc | hc := List.mem_append.mp hc
  · exact hL v hv hc
  · exact hM u hu hc

theorem add (hL : Avoids c L) (hM : Avoids c M) : Avoids c (L + M) := by
  rintro w (hw | hw)
  · exact hL w hw
  · exact hM w hw

theorem nil : Avoids c (1 : Language Char) := by
  rintro w hw
  simp [(Language.mem_one w).mp hw]

theorem star (hL : Avoids c L) : Avoids c L∗ := by
  rintro _ ⟨parts, rfl, h⟩ hc
  obtain ⟨part, hp, hc⟩ := List.mem_flatten.mp hc
  exact hL part (h part hp) hc

theorem pow (hL : Avoids c L) (n : Nat) : Avoids c (L ^ n) := by
  induction n with
  | zero => exact nil
  | succ n ih => exact pow_succ L n ▸ ih.mul hL

theorem run {u v : Set Char} (hu : c ∉ u) (hv : c ∉ v) : Avoids c (Lexer.one u * (Lexer.one v)∗) :=
  (one hu).mul (one hv).star

end Avoids

variable {c : Char} {r : LexRule}

/-- The character is in no word and in no number, is no symbol and no delimiter, and opens no string.
-/
structure Foreign (c : Char) : Prop where
  notMem_wordChar : c ∉ wordChar
  notMem_symbol : c ∉ symbol
  notMem_delimiter : c ∉ ({';', ',', '.'} : Set Char)
  ne_quote : c ≠ '"'

namespace Foreign

theorem of_isLineBreak (h : isLineBreak c = true) : Foreign c := by
  obtain rfl | rfl := isLineBreak_iff.mp h <;>
    exact ⟨mt isWordChar_iff.mpr (by decide), mt isSymbol_iff.mpr (by decide), by simp, by simp⟩

theorem of_isBracket (h : isBracket c = true) : Foreign c := by
  obtain rfl | rfl | rfl | rfl | rfl | rfl := isBracket_iff.mp h <;>
    exact ⟨mt isWordChar_iff.mpr (by decide), mt isSymbol_iff.mpr (by decide), by simp, by simp⟩

theorem notMem_of_subset {u : Set Char} (h : Foreign c) (hu : u ⊆ wordChar) : c ∉ u :=
  fun hc => h.notMem_wordChar (hu hc)

theorem ne_of_isWordChar {d : Char} (h : Foreign c) (hd : isWordChar d = true) : c ≠ d := by
  rintro rfl
  exact h.notMem_wordChar (isWordChar_iff.mp hd)

theorem ne_of_isSymbol {d : Char} (h : Foreign c) (hd : Vocabulary.isSymbol d = true) : c ≠ d := by
  rintro rfl
  exact h.notMem_symbol (isSymbol_iff.mp hd)

/-- Such a character stands in blanks, in comments, in brackets and in strings that are not closed,
or on its own. -/
theorem avoids (hc : Foreign c) (h : r ∈ rootRules) : Avoids c r.lexemes ∨
    r ∈ [blanks, blockComment, openComment, lineComment, bracket, unclosedString, other] := by
  have hdigit : c ∉ digit := hc.notMem_of_subset digit_subset_wordChar
  have hhex : c ∉ hexDigit := hc.notMem_of_subset hexDigit_subset_wordChar
  have hpoint : c ≠ '.' := fun h => hc.notMem_delimiter (by simp [h])
  have hletter : c ≠ 'e' ∧ c ≠ 'E' := ⟨hc.ne_of_isWordChar rfl, hc.ne_of_isWordChar rfl⟩
  have hsign : c ≠ '+' ∧ c ≠ '-' := ⟨hc.ne_of_isSymbol rfl, hc.ne_of_isSymbol rfl⟩
  have hbase : c ≠ '0' ∧ c ≠ 'x' ∧ c ≠ 'X' :=
    ⟨hc.ne_of_isWordChar rfl, hc.ne_of_isWordChar rfl, hc.ne_of_isWordChar rfl⟩
  have hangle : c ≠ '<' ∧ c ≠ '>' := ⟨hc.ne_of_isSymbol rfl, hc.ne_of_isSymbol rfl⟩
  have hdigits : Avoids c digits := .run hdigit hdigit
  have hexponent : Avoids c exponent :=
    .mul (.mul (.one (by simpa using hletter)) (.add .nil (.one (by simpa using hsign)))) hdigits
  have hfloat : Avoids c float.lexemes :=
    .mul (.mul (.mul (.star (.one hdigit)) (.one hpoint)) hdigits) (.add .nil hexponent)
  have hmark : Avoids c (one {'0'} * one {'x', 'X'}) :=
    .mul (.one hbase.1) (.one (by simpa using hbase.2))
  have hhexadecimal : Avoids c hexadecimal.lexemes :=
    .mul (.mul hmark (.one hhex)) (.star (.one hhex))
  simp only [rootRules, List.mem_cons, List.not_mem_nil, or_false] at h
  rcases h with rfl | rfl | rfl | rfl | rfl | rfl | rfl | rfl | rfl | rfl | rfl | rfl | rfl | rfl |
    rfl | rfl
  · exact .inl (.run (hc.notMem_of_subset wordStart_subset_wordChar) hc.notMem_wordChar)
  · exact .inl (.run (hc.notMem_of_subset upper_subset_wordChar) hc.notMem_wordChar)
  · exact .inr (by simp)
  · exact .inr (by simp)
  · exact .inr (by simp)
  · exact .inr (by simp)
  · exact .inr (by simp)
  · exact .inl (.one (by simpa using hangle))
  · exact .inl (.run hc.notMem_symbol hc.notMem_symbol)
  · exact .inl hfloat
  · exact .inl hhexadecimal
  · exact .inl hdigits
  · exact .inl (.one hc.notMem_delimiter)
  · exact .inl (.one hc.ne_quote)
  · exact .inr (by simp)
  · exact .inr (by simp)

end Foreign

theorem avoids_lineBreak (hc : isLineBreak c = true) (h : r ∈ rootRules) : Avoids c r.lexemes ∨
    r = blanks ∨ r = blockComment ∨ r = openComment ∨ r = other := by
  have hforeign : Foreign c := .of_isLineBreak hc
  have hline : c ∉ lineBreakᶜ := not_not_intro (isLineBreak_iff.mp hc)
  have hslash : c ≠ '/' := hforeign.ne_of_isSymbol rfl
  obtain havoids | hfree := hforeign.avoids h
  · exact .inl havoids
  simp only [List.mem_cons, List.not_mem_nil, or_false] at hfree
  rcases hfree with rfl | rfl | rfl | rfl | rfl | rfl | rfl
  · exact .inr (.inl rfl)
  · exact .inr (.inr (.inl rfl))
  · exact .inr (.inr (.inr (.inl rfl)))
  · exact .inl (.mul (.mul (.one hslash) (.one hslash)) (.star (.one hline)))
  · refine .inl (.one ?_)
    obtain rfl | rfl := isLineBreak_iff.mp hc <;> simp
  · exact .inl (.run hforeign.ne_quote hline)
  · exact .inr (.inr (.inr (.inr rfl)))

/-! ## The line ahead -/

/-- What is left of the line at the front of a text. -/
def lineAhead (cs : List Char) : List Char := cs.takeWhile (!isLineBreak ·)

variable {cs ds v w body after rest : List Char}

theorem lineAhead_append (hw : ∀ c ∈ w, isLineBreak c = false) (rest : List Char) :
    lineAhead (w ++ rest) = w ++ lineAhead rest :=
  List.takeWhile_append_of_pos fun c hc => by rw [hw c hc]; rfl

theorem lineAhead_cons (hc : isLineBreak c = false) (cs : List Char) :
    lineAhead (c :: cs) = c :: lineAhead cs :=
  List.takeWhile_cons_of_pos (by rw [hc]; rfl)

theorem lineAhead_of_lineBreak (hc : isLineBreak c = true) (cs : List Char) :
    lineAhead (c :: cs) = [] :=
  List.takeWhile_cons_of_neg (by rw [hc]; decide)

/-- A text is its line ahead and what comes from the line break on. -/
theorem exists_eq_lineAhead_append (cs : List Char) : ∃ rest, cs = lineAhead cs ++ rest :=
  ⟨cs.dropWhile (!isLineBreak ·), List.takeWhile_append_dropWhile.symm⟩

theorem isLineBreak_of_mem_lineAhead {d : Char} (h : d ∈ lineAhead cs) : isLineBreak d = false := by
  simpa using of_mem_takeWhile h

theorem lineAhead_lineAhead (cs : List Char) : lineAhead (lineAhead cs) = lineAhead cs := by
  have h := lineAhead_append (w := lineAhead cs) (fun _ => isLineBreak_of_mem_lineAhead) []
  simpa only [List.append_nil, lineAhead, List.takeWhile_nil] using h

/-- A line break in the first of two texts hides the second from the line ahead. -/
theorem lineAhead_append_of_lineBreak (h : ∃ c ∈ cs, isLineBreak c = true) (ds : List Char) :
    lineAhead (cs ++ ds) = lineAhead cs := by
  induction cs with
  | nil => simp at h
  | cons c cs ih =>
    rw [List.cons_append]
    by_cases hc : isLineBreak c = true
    · rw [lineAhead_of_lineBreak hc, lineAhead_of_lineBreak hc]
    · rw [Bool.not_eq_true] at hc
      rw [lineAhead_cons hc, lineAhead_cons hc, ih]
      obtain ⟨d, hmem, hd⟩ := h
      obtain rfl | hmem := List.mem_cons.mp hmem
      · simp [hc] at hd
      · exact ⟨d, hmem, hd⟩

namespace LexRule

/-- The words of the rule stay on their line, and whether a text may come after a word is settled by
the line ahead. -/
structure OnLine (r : LexRule) : Prop where
  stays : ∀ w ∈ r.lexemes, ∀ c ∈ w, isLineBreak c = false
  follow_iff : ∀ rest, rest ∈ r.follow ↔ lineAhead rest ∈ r.follow

theorem OnLine.matches_iff (h : r.OnLine) : r.Matches cs v ↔ r.Matches (lineAhead cs) v := by
  constructor
  · rintro ⟨hv, rest, rfl, hrest⟩
    exact ⟨hv, lineAhead rest, lineAhead_append (h.stays v hv) rest, (h.follow_iff rest).mp hrest⟩
  · rintro ⟨hv, rest, hcut, hrest⟩
    obtain ⟨behind, hcs⟩ := exists_eq_lineAhead_append cs
    refine ⟨hv, rest ++ behind, by rw [← List.append_assoc, ← hcut, ← hcs], ?_⟩
    have hline : lineAhead (rest ++ behind) = lineAhead rest := by
      have hahead : v ++ rest = v ++ lineAhead (rest ++ behind) := by
        rw [← lineAhead_append (h.stays v hv), ← List.append_assoc, ← hcut, ← hcs]
      have hrest : v ++ rest = v ++ lineAhead rest := by
        rw [← lineAhead_append (h.stays v hv), ← hcut, lineAhead_lineAhead]
      exact (List.append_cancel_left hahead).symm.trans (List.append_cancel_left hrest)
    rw [h.follow_iff, hline, ← h.follow_iff]
    exact hrest

/-- Two texts on which a rule matches the same words. -/
def Agrees (r : LexRule) (cs ds : List Char) : Prop := ∀ v, r.Matches cs v ↔ r.Matches ds v

theorem OnLine.agrees (h : r.OnLine) (hline : lineAhead cs = lineAhead ds) : r.Agrees cs ds := by
  intro v
  rw [h.matches_iff, hline, ← h.matches_iff]

theorem Agrees.fails (h : r.Agrees cs ds) (hf : r.Fails cs) : r.Fails ds :=
  fun v hv => hf v ((h v).mpr hv)

theorem Agrees.longest (h : r.Agrees cs ds) (hl : r.Longest cs w) : r.Longest ds w :=
  ⟨(h w).mp hl.1, fun v hv => hl.2 v ((h v).mpr hv)⟩

theorem Fails.agrees (hc : r.Fails cs) (hd : r.Fails ds) : r.Agrees cs ds :=
  fun v => iff_of_false (hc v) (hd v)

end LexRule

/-- Rules that agree on two texts read the same word from them. -/
theorem First.of_agrees {rs : List LexRule} (h : First cs rs r w)
    (hr : ∀ q ∈ rs, q.Agrees cs ds) : First ds rs r w := by
  induction h with
  | here longest => exact .here ((hr _ List.mem_cons_self).longest longest)
  | later fails _ ih =>
    exact .later ((hr _ List.mem_cons_self).fails fails)
      (ih fun q hq => hr q (List.mem_cons_of_mem _ hq))

/-! ## The rules that look at one line -/

theorem follow_of_mem_rootRules (h : r ∈ rootRules) :
    r.follow = Set.univ ∨ r = angle ∨ r = openQuote := by
  simp only [rootRules, List.mem_cons, List.not_mem_nil, or_false] at h
  rcases h with rfl | rfl | rfl | rfl | rfl | rfl | rfl | rfl | rfl | rfl | rfl | rfl | rfl | rfl |
    rfl | rfl <;> first | exact .inl rfl | exact .inr (.inl rfl) | exact .inr (.inr rfl)

theorem angle_follow_iff (rest : List Char) :
    rest ∈ angle.follow ↔ lineAhead rest ∈ angle.follow := by
  cases rest with
  | nil => exact Iff.rfl
  | cons c rest =>
    by_cases hc : isLineBreak c = true
    · have hsymbol := (Foreign.of_isLineBreak hc).notMem_symbol
      simp [lineAhead_of_lineBreak hc, angle, hsymbol]
    · rw [Bool.not_eq_true] at hc
      simp [lineAhead_cons hc, angle]

theorem openQuote_follow_iff (rest : List Char) :
    rest ∈ openQuote.follow ↔ lineAhead rest ∈ openQuote.follow := by
  constructor
  · rintro ⟨body, after, rfl, hb⟩
    refine ⟨body, lineAhead after, ?_, hb⟩
    rw [lineAhead_append hb.isLineBreak_eq_false, lineAhead_cons rfl]
  · rintro ⟨body, after, hcut, hb⟩
    obtain ⟨behind, hrest⟩ := exists_eq_lineAhead_append rest
    refine ⟨body, after ++ behind, ?_, hb⟩
    rw [hrest, hcut, List.append_assoc, List.cons_append]

/-- Four rules apart, the rules between lexemes look at one line. -/
theorem onLine_of_mem_rootRules (h : r ∈ rootRules) :
    r.OnLine ∨ r = blanks ∨ r = blockComment ∨ r = openComment ∨ r = other := by
  obtain havoids | hspecial := avoids_lineBreak (c := '\n') rfl h
  · obtain havoids' | hspecial := avoids_lineBreak (c := '\r') rfl h
    · refine .inl ⟨?_, ?_⟩
      · intro w hw c hc
        by_contra hbreak
        rw [Bool.not_eq_false] at hbreak
        obtain rfl | rfl := isLineBreak_iff.mp hbreak
        · exact havoids' w hw hc
        · exact havoids w hw hc
      · obtain hfollow | rfl | rfl := follow_of_mem_rootRules h
        · simp [hfollow]
        · exact angle_follow_iff
        · exact openQuote_follow_iff
    · exact .inr hspecial
  · exact .inr hspecial

/-- A text that starts with neither a blank nor a block comment. -/
structure StartsOnLine (cs : List Char) : Prop where
  blank : ∃ c ∈ cs.head?, isBlank c = false
  comment : ∀ v, cs ≠ '/' :: '*' :: v

theorem isLineBreak_of_isBlank (hc : isBlank c = false) : isLineBreak c = false := by
  by_contra h
  rw [Bool.not_eq_false] at h
  rw [isBlank_of_isLineBreak h] at hc
  cases hc

namespace StartsOnLine

theorem exists_cons (h : StartsOnLine cs) : ∃ c tail, cs = c :: tail ∧ isBlank c = false := by
  obtain ⟨c, hmem, hc⟩ := h.blank
  cases cs with
  | nil => simp at hmem
  | cons d tail =>
    obtain rfl : d = c := by simpa using hmem
    exact ⟨d, tail, rfl, hc⟩

theorem of_lineAhead_eq (h : StartsOnLine cs) (hline : lineAhead cs = lineAhead ds) :
    StartsOnLine ds := by
  obtain ⟨c, tail, rfl, hc⟩ := h.exists_cons
  rw [lineAhead_cons (isLineBreak_of_isBlank hc)] at hline
  obtain ⟨behind, hds⟩ := exists_eq_lineAhead_append ds
  rw [← hline, List.cons_append] at hds
  refine ⟨⟨c, by simp [hds], hc⟩, ?_⟩
  rintro v hv
  rw [hv, lineAhead_cons rfl, lineAhead_cons rfl, List.cons.injEq] at hline
  obtain ⟨rfl, htail⟩ := hline
  obtain ⟨rest, hrest⟩ := exists_eq_lineAhead_append tail
  rw [htail, List.cons_append] at hrest
  exact h.comment _ (congrArg ('/' :: ·) hrest)

/-- A text is a blank run, or starts with a block comment, or starts on its line. -/
theorem of_cons (c : Char) (cs : List Char) :
    isBlank c = true ∨ (∃ v, c :: cs = '/' :: '*' :: v) ∨ StartsOnLine (c :: cs) := by
  by_cases hblank : isBlank c = true
  · exact .inl hblank
  · by_cases hcomment : ∃ v, c :: cs = '/' :: '*' :: v
    · exact .inr (.inl hcomment)
    · exact .inr (.inr ⟨⟨c, rfl, Bool.eq_false_iff.mpr hblank⟩, not_exists.mp hcomment⟩)

theorem blanks_fails (h : StartsOnLine cs) : blanks.Fails cs := by
  obtain ⟨c, tail, rfl, hc⟩ := h.exists_cons
  exact fails_of_head rfl (by simp [← isBlank_iff, hc])

theorem blockComment_fails (h : StartsOnLine cs) : blockComment.Fails cs := by
  obtain ⟨c, tail, rfl, -⟩ := h.exists_cons
  exact blockComment_fails_of_ne h.comment

theorem openComment_fails (h : StartsOnLine cs) : openComment.Fails cs := by
  obtain ⟨c, tail, rfl, -⟩ := h.exists_cons
  exact fails_of_two rfl h.comment

theorem other_agrees (h : StartsOnLine cs) (hline : lineAhead cs = lineAhead ds) :
    other.Agrees cs ds := by
  obtain ⟨c, tail, rfl, hc⟩ := h.exists_cons
  obtain ⟨d, tail', rfl, hd⟩ := (h.of_lineAhead_eq hline).exists_cons
  rw [lineAhead_cons (isLineBreak_of_isBlank hc), lineAhead_cons (isLineBreak_of_isBlank hd),
    List.cons.injEq] at hline
  obtain ⟨rfl, -⟩ := hline
  have single (tail v : List Char) : other.Matches (c :: tail) v ↔ v = [c] := by
    constructor
    · rintro ⟨⟨d, -, rfl⟩, rest, hcut, -⟩
      rw [List.singleton_append, List.cons.injEq] at hcut
      rw [hcut.1]
    · rintro rfl
      exact ⟨⟨c, Set.mem_univ c, rfl⟩, tail, rfl, Set.mem_univ tail⟩
  intro v
  rw [single, single]

theorem agrees (h : StartsOnLine cs) (hline : lineAhead cs = lineAhead ds) (hr : r ∈ rootRules) :
    r.Agrees cs ds := by
  have hd := h.of_lineAhead_eq hline
  obtain honLine | rfl | rfl | rfl | rfl := onLine_of_mem_rootRules hr
  · exact honLine.agrees hline
  · exact h.blanks_fails.agrees hd.blanks_fails
  · exact h.blockComment_fails.agrees hd.blockComment_fails
  · exact h.openComment_fails.agrees hd.openComment_fails
  · exact h.other_agrees hline

end StartsOnLine

/-! ## What is read -/

/-- In a mode the lexer takes the word `w` from the front of a text, for a token of the kind, and
goes on in the mode `next`. -/
def Reads (mode : Mode) (cs w : List Char) (kind : TokenKind) (next : Mode) : Prop :=
  ∃ r, First cs mode.rules r w ∧ kind = r.kind w ∧ next = r.next

variable {s t : State} {token : Token} {mode next next' : Mode} {kind kind' : TokenKind}

theorem Reads.unique (h : Reads mode cs v kind next) (g : Reads mode cs w kind' next') :
    v = w ∧ kind = kind' ∧ next = next' := by
  obtain ⟨r, first, rfl, rfl⟩ := h
  obtain ⟨r', first', rfl, rfl⟩ := g
  obtain ⟨rfl, rfl⟩ := first.unique first'
  exact ⟨rfl, rfl, rfl⟩

theorem Emits.reads (h : Emits s token t) (hs : s.Settled) :
    Reads s.mode s.rest token.text token.kind t.mode := by
  obtain ⟨r, first, hkind, hnext, -⟩ := h.first hs
  exact ⟨r, first, hkind, hnext⟩

theorem Reads.emits (h : Reads s.mode s.rest w kind next) (hs : s.Settled)
    (hr : s.rest = w ++ rest) (hw : w ≠ []) :
    Emits s ⟨kind, w, s.position, s.position.after w⟩ ⟨next, 0, s.position.after w, rest⟩ := by
  obtain ⟨token, t, emits⟩ := exists_emits s (by simp [hr, hw])
  obtain ⟨rfl, rfl, rfl⟩ := h.unique (emits.reads hs)
  obtain rfl := List.append_cancel_left (hr.symm.trans emits.consumes.rest_eq)
  rw [emits.consumes.token_eq, emits.consumes.state_eq]
  exact emits

/-- Between lexemes, what is read at the start of a line is settled on that line. -/
theorem Reads.of_lineAhead_eq (h : Reads .root cs w kind next) (hs : StartsOnLine cs)
    (hline : lineAhead cs = lineAhead ds) : Reads .root ds w kind next := by
  obtain ⟨r, first, hkind, hnext⟩ := h
  exact ⟨r, first.of_agrees fun q hq => hs.agrees hline hq, hkind, hnext⟩

theorem Reads.isLineBreak_eq_false (h : Reads .root cs w kind next) (hs : StartsOnLine cs) :
    ∀ c ∈ w, isLineBreak c = false := by
  obtain ⟨r, first, -, -⟩ := h
  obtain ⟨hw, rest, hcut, hrest⟩ := first.longest.1
  obtain honLine | rfl | rfl | rfl | rfl := onLine_of_mem_rootRules first.mem
  · exact honLine.stays w hw
  · exact absurd first.longest.1 (hs.blanks_fails w)
  · exact absurd first.longest.1 (hs.blockComment_fails w)
  · exact absurd first.longest.1 (hs.openComment_fails w)
  · obtain ⟨c, tail, rfl, hc⟩ := hs.exists_cons
    obtain ⟨d, -, rfl⟩ := hw
    rw [List.singleton_append, List.cons.injEq] at hcut
    obtain ⟨rfl, -⟩ := hcut
    simpa using isLineBreak_of_isBlank hc

/-- Inside a string, what is read is settled up to the closing quote. -/
theorem Reads.of_stringBody (h : Reads .string (body ++ '"' :: after) w kind next)
    (hb : StringBody body) (rest : List Char) :
    Reads .string (body ++ '"' :: rest) w kind next := by
  have matches_of {q : LexRule} {v after : List Char} (rest : List Char) (hq : q ∈ stringRules)
      (hm : q.Matches (body ++ '"' :: after) v) : q.Matches (body ++ '"' :: rest) v := by
    obtain rfl | hq := List.mem_cons.mp hq
    · obtain ⟨⟨_, rfl, rfl⟩, tail, hcut, -⟩ := hm
      obtain rfl := hb.eq_nil_of_quote hcut
      exact ⟨⟨'"', rfl, rfl⟩, rest, rfl, Set.mem_univ rest⟩
    · obtain ⟨behind, rfl, -⟩ := hb.split hq hm
      refine ⟨hm.1, behind ++ '"' :: rest, List.append_assoc _ _ _, ?_⟩
      obtain rfl | rfl | rfl := mem_bodyRules hq <;> exact Set.mem_univ _
  obtain ⟨r, first, hkind, hnext⟩ := h
  exact ⟨r, first.of_agrees fun q hq v => ⟨matches_of rest hq, matches_of after hq⟩, hkind, hnext⟩

theorem Reads.isLineBreak_eq_false_of_stringBody
    (h : Reads .string (body ++ '"' :: after) w kind next) (hb : StringBody body) :
    ∀ c ∈ w, isLineBreak c = false := by
  obtain ⟨r, first, -, -⟩ := h
  obtain ⟨-, -, rfl⟩ | ⟨-, behind, rfl, -⟩ := hb.first_cases first
  · simp [isLineBreak]
  · intro c hc
    exact hb.isLineBreak_eq_false c (List.mem_append_left behind hc)

/-! ## What is read over the ends of lines -/

theorem reads_blank (hne : w ≠ []) (hw : ∀ c ∈ w, isBlank c = true)
    (hstop : ∀ c ∈ rest.head?, isBlank c = false) :
    Reads .root (w ++ rest) w .whitespace .root := by
  obtain ⟨c, tail, rfl⟩ := List.exists_cons_of_ne_nil hne
  obtain ⟨hc, htail⟩ := List.forall_mem_cons.mp hw
  have hstart : isWordStart c = false ∧ isTypeStart c = false := by
    obtain rfl | rfl | rfl | rfl : c = ' ' ∨ c = '\t' ∨ c = '\r' ∨ c = '\n' := by
      simpa [isBlank, or_assoc] using hc
    all_goals decide
  have longest : blanks.Longest (c :: (tail ++ rest)) (c :: (tail ++ rest).takeWhile isBlank) :=
    longest_run rfl rfl (fun _ => isBlank_iff) (isBlank_iff.mp hc)
  rw [Text.takeWhile_append_of_stop htail hstop] at longest
  refine ⟨blanks, .later ?_ (.later ?_ (.here longest)), rfl, rfl⟩
  · exact fails_of_head rfl (mt isWordStart_iff.mpr (by simp [hstart.1]))
  · exact fails_of_head rfl (mt isTypeStart_iff.mpr (by simp [hstart.2]))

theorem First.of_slash {rs : List LexRule} {r : LexRule}
    (h : First ('/' :: cs) rs r w) : First ('/' :: cs) (word :: typeWord :: blanks :: rs) r w := by
  refine .later (fails_of_head rfl ?_) (.later (fails_of_head rfl ?_)
    (.later (fails_of_head rfl ?_) h))
  · exact mt isWordStart_iff.mpr (by decide)
  · exact mt isTypeStart_iff.mpr (by decide)
  · exact mt isBlank_iff.mpr (by decide)

/-- A block comment is read up to its closer. -/
theorem reads_comment (hw : ClosesAt 1 w) (rest : List Char) :
    Reads .root ('/' :: '*' :: (w ++ rest)) ('/' :: '*' :: w) .comment .root :=
  ⟨blockComment, .of_slash (.here (blockComment_longest hw)), rfl, rfl⟩

/-- A block comment that is not closed takes all the text. -/
theorem reads_openComment (h : ∀ w rest, cs = w ++ rest → ¬ ClosesAt 1 w) :
    Reads .root ('/' :: '*' :: cs) ('/' :: '*' :: cs) .comment .root :=
  ⟨openComment, .of_slash (.later (blockComment_fails h) (.here (openComment_longest cs))), rfl,
    rfl⟩

/-- What is read between lexemes: a blank run, a block comment that is closed or not, or a lexeme
that stays on its line. -/
inductive RootRead (cs w : List Char) (kind : TokenKind) (next : Mode) : Prop where
  | blank (rest : List Char) (cut : cs = w ++ rest) (kind_eq : kind = .whitespace)
      (next_eq : next = .root) (ne_nil : w ≠ []) (blank : ∀ c ∈ w, isBlank c = true)
      (stop : ∀ c ∈ rest.head?, isBlank c = false)
  | comment (v rest : List Char) (cut : cs = '/' :: '*' :: (v ++ rest)) (word : w = '/' :: '*' :: v)
      (kind_eq : kind = .comment) (next_eq : next = .root) (closes : ClosesAt 1 v)
  | openComment (v : List Char) (cut : cs = '/' :: '*' :: v) (word : w = '/' :: '*' :: v)
      (kind_eq : kind = .comment) (next_eq : next = .root)
      (unclosed : ∀ u rest, v = u ++ rest → ¬ ClosesAt 1 u)
  | onLine (starts : StartsOnLine cs) (reads : Reads .root cs w kind next)

theorem Reads.rootRead (h : Reads .root cs w kind next) (hcs : cs ≠ []) :
    RootRead cs w kind next := by
  obtain ⟨c, cs, rfl⟩ := List.exists_cons_of_ne_nil hcs
  obtain hblank | ⟨v, hv⟩ | hline := StartsOnLine.of_cons c cs
  · have hrun : ∀ d ∈ c :: cs.takeWhile isBlank, isBlank d = true :=
      List.forall_mem_cons.mpr ⟨hblank, fun _ => of_mem_takeWhile⟩
    have hstop : ∀ d ∈ (cs.dropWhile isBlank).head?, isBlank d = false :=
      fun _ => of_mem_head?_dropWhile
    have hcut : c :: cs = (c :: cs.takeWhile isBlank) ++ cs.dropWhile isBlank := by
      rw [List.cons_append, List.takeWhile_append_dropWhile]
    rw [hcut] at h
    obtain ⟨rfl, rfl, rfl⟩ := h.unique (reads_blank (List.cons_ne_nil _ _) hrun hstop)
    exact .blank _ hcut rfl rfl (List.cons_ne_nil _ _) hrun hstop
  · rw [hv] at h
    obtain ⟨u, rest, rfl, hu⟩ | ⟨hnone, -⟩ := commentLength_cases (Nat.le_refl 1) v
    · obtain ⟨rfl, rfl, rfl⟩ := h.unique (reads_comment hu rest)
      exact .comment u rest hv rfl rfl rfl hu
    · obtain ⟨rfl, rfl, rfl⟩ := h.unique (reads_openComment hnone)
      exact .openComment v hv rfl rfl rfl hnone
  · exact .onLine hline h

/-- Blanks and comments are read between lexemes. -/
theorem Emits.rootRead (h : Emits s token t) (hs : s.Settled)
    (hkind : token.kind = .whitespace ∨ token.kind = .comment) :
    RootRead s.rest token.text token.kind t.mode := by
  have hreads := h.reads hs
  obtain hm | ⟨hm, -⟩ := hs.mode_eq
  · rw [hm] at hreads
    exact hreads.rootRead h.rest_ne_nil
  · rw [hm] at hreads
    obtain ⟨r, first, hr, -⟩ := hreads
    have hmem : r = closeQuote ∨ r ∈ bodyRules := List.mem_cons.mp first.mem
    rw [hr] at hkind
    obtain rfl | hbody := hmem
    · simp [closeQuote] at hkind
    · obtain rfl | rfl | rfl := mem_bodyRules hbody <;>
        simp [escape, brokenEscape, literal] at hkind

end ScadText.Lexer
