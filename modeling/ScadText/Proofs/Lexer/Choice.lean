import ScadText.Proofs.Lexer.Delimited
import ScadText.Proofs.Lexer.Numbers
import ScadText.Proofs.Lexer.Run

/-!
# The machine follows the rules

The actions of the machine against the lists of rules: between lexemes and inside a string, the
first rule that matches decides the kind, the length and the mode of the next token. The machine
tries some rules together and in another order, and changes its mode on the way to a comment.

## Main definitions

* `Decides`: what a mode comes to in front of a text.
* `Follows`: it comes to what the first rule says.

## Main statements

* `follows_rootRules`, `follows_stringRules`: the machine and the two lists.
-/

namespace ScadText.Lexer

open Extent Grammar LexRule Vocabulary
open scoped Computability

variable {mode next : Mode} {c : Char} {cs : List Char} {kind : TokenKind} {n : Nat}

/-- What a mode comes to in front of a character, after the changes of mode that read nothing. -/
inductive Decides : Mode → Char → List Char → TokenKind → Nat → Mode → Prop where
  | now {mode next : Mode} {c : Char} {cs : List Char} {kind : TokenKind} {n : Nat}
      (action : mode.action 0 c cs = .emit kind n next) : Decides mode c cs kind n next
  | later {mode other next : Mode} {c : Char} {cs : List Char} {kind : TokenKind} {n : Nat}
      (action : mode.action 0 c cs = .enter other) (decides : Decides other c cs kind n next) :
      Decides mode c cs kind n next

theorem Decides.emits {s : State} (h : Decides mode c cs kind n next) (hm : s.mode = mode)
    (hd : s.depth = 0) (hr : s.rest = c :: cs) :
    Emits s ⟨kind, s.rest.take n, s.position, s.position.after (s.rest.take n)⟩
      ⟨next, 0, s.position.after (s.rest.take n), s.rest.drop n⟩ := by
  induction h generalizing s with
  | now action =>
    subst hm
    exact .now (State.step_of_emit hr (hd ▸ action))
  | @later mode other _ _ _ _ _ action _ ih =>
    subst hm
    have ahead : s.rest ≠ [] := by simp [hr]
    exact .later ahead (State.step_of_enter hr (hd ▸ action))
      (ih (s := { s with mode := other }) rfl hd hr)

/-- The first of some rules that matches the text says what a mode comes to. -/
def Follows (mode : Mode) (rules : List LexRule) (c : Char) (cs : List Char) : Prop :=
  ∃ r w, First (c :: cs) rules r w ∧ Decides mode c cs (r.kind w) w.length r.next

namespace Follows

variable {r : LexRule} {rules : List LexRule} {w : List Char}

theorem here (longest : r.Longest (c :: cs) w)
    (decides : Decides mode c cs (r.kind w) w.length r.next) : Follows mode (r :: rules) c cs :=
  ⟨r, w, .here longest, decides⟩

theorem later (fails : r.Fails (c :: cs)) (h : Follows mode rules c cs) :
    Follows mode (r :: rules) c cs := by
  obtain ⟨q, w, first, decides⟩ := h
  exact ⟨q, w, .later fails first, decides⟩

end Follows

/-! ## Between lexemes -/

theorem opensComment_iff :
    opensComment c cs = true ↔ ∃ v, c :: cs = '/' :: '*' :: v ∨ c :: cs = '/' :: '/' :: v := by
  cases cs with
  | nil => simp [opensComment]
  | cons d cs =>
    simp only [opensComment, List.head?_cons, Option.any_some, Bool.and_eq_true, Bool.or_eq_true,
      beq_iff_eq, List.cons.injEq]
    constructor
    · rintro ⟨rfl, rfl | rfl⟩
      · exact ⟨cs, .inr ⟨rfl, rfl, rfl⟩⟩
      · exact ⟨cs, .inl ⟨rfl, rfl, rfl⟩⟩
    · rintro ⟨v, ⟨rfl, rfl, -⟩ | ⟨rfl, rfl, -⟩⟩
      · exact ⟨rfl, .inr rfl⟩
      · exact ⟨rfl, .inl rfl⟩

theorem isLoneAngle_iff :
    isLoneAngle c cs = true ↔ c ∈ ({'<', '>'} : Set Char) ∧ cs ∈ angle.follow := by
  cases cs with
  | nil => simp [isLoneAngle, angle]
  | cons d cs =>
    have hd : isSymbol d = false ↔ d ∉ symbol := by
      rw [← isSymbol_iff, Bool.not_eq_true]
    simp [isLoneAngle, angle, hd]

/-- Where neither a digit nor a point before a digit stands, no number with a point is read. -/
theorem floatLength?_eq_none (h : startsNumber c cs = false) : floatLength? (c :: cs) = none := by
  rw [startsNumber, Bool.or_eq_false_iff] at h
  have hrun : run isDigit (c :: cs) = 0 := by
    rw [run, List.takeWhile_cons_of_neg (Bool.eq_false_iff.mp h.1)]
    rfl
  rw [floatLength?, hrun, List.drop_zero]
  split
  · next rest hcut =>
    rw [List.cons.injEq] at hcut
    obtain ⟨rfl, rfl⟩ := hcut
    have hfraction : run isDigit cs = 0 := by
      cases cs with
      | nil => rfl
      | cons d cs =>
        have hd : ¬ isDigit d = true := by simpa using h.2
        rw [run, List.takeWhile_cons_of_neg hd]
        rfl
    exact if_pos hfraction
  · rfl

/-- Where neither a fraction nor a number in base sixteen can be read, a number starts with a digit.
-/
theorem isDigit_of_floatLength?_eq_none (h : startsNumber c cs = true)
    (hf : floatLength? (c :: cs) = none) : isDigit c = true := by
  simp only [startsNumber, Bool.or_eq_true, Bool.and_eq_true, beq_iff_eq] at h
  obtain hd | ⟨rfl, hd⟩ := h
  · exact hd
  cases cs with
  | nil => simp at hd
  | cons d cs =>
    have hfraction : [d] ∈ digits := mem_digits.mpr ⟨List.cons_ne_nil d [], by simpa using hd⟩
    have hpoint : '.' :: [d] ∈ float.lexemes :=
      mem_float.mpr ⟨[], [d], [], by simp, hfraction, .inl rfl, rfl⟩
    obtain ⟨n, hn, -⟩ := length_le_floatLength? hpoint cs
    rw [List.cons_append, List.singleton_append, hf] at hn
    simp at hn

theorem follows_numbers {rules : List LexRule} (hstart : startsNumber c cs = true)
    (ha : rootAction c cs = .emit (numberLexeme (c :: cs)).1 (numberLexeme (c :: cs)).2 .root) :
    Follows .root (float :: hexadecimal :: integer :: rules) c cs := by
  cases hf : floatLength? (c :: cs) with
  | some n =>
    obtain ⟨v, rest, -, hlen, longest⟩ := float_readBy.longest rfl hf
    refine .here longest (.now (ha.trans ?_))
    rw [numberLexeme, hf, hlen]
    rfl
  | none =>
    refine .later (float_readBy.fails hf) ?_
    cases hx : hexLength? (c :: cs) with
    | some n =>
      obtain ⟨v, rest, -, hlen, longest⟩ := hexadecimal_readBy.longest rfl hx
      refine .here longest (.now (ha.trans ?_))
      rw [numberLexeme, hf, hx, hlen]
      rfl
    | none =>
      refine .later (hexadecimal_readBy.fails hx) ?_
      have hd : isDigit c = true := isDigit_of_floatLength?_eq_none hstart hf
      have longest : integer.Longest (c :: cs) (c :: cs.takeWhile isDigit) :=
        longest_run rfl rfl (fun _ => isDigit_iff) (isDigit_iff.mp hd)
      refine .here longest (.now (ha.trans ?_))
      rw [numberLexeme, hf, hx, run, List.takeWhile_cons_of_pos hd]
      rfl

theorem numbers_fail (h : startsNumber c cs = false) :
    float.Fails (c :: cs) ∧ hexadecimal.Fails (c :: cs) ∧ integer.Fails (c :: cs) := by
  have hd : c ∉ digit := by
    rw [← isDigit_iff, Bool.not_eq_true]
    exact (Bool.or_eq_false_iff.mp h).1
  have hzero : c ∉ ({'0'} : Set Char) := by
    rintro rfl
    exact hd (isDigit_iff.mp rfl)
  refine ⟨float_readBy.fails (floatLength?_eq_none h), ?_, fails_of_head rfl hd⟩
  exact fails_of_head ((mul_assoc _ _ _).trans (mul_assoc _ _ _)) hzero

/-- In front of an opener two modes are entered, and the comment is taken from its first level on. -/
theorem decides_comment (v : List Char) :
    Decides .root '/' ('*' :: v) .comment (2 + commentLength 1 v) .root :=
  have hroot : Mode.root.action 0 '/' ('*' :: v) = .enter .blank := rfl
  have hblank : Mode.blank.action 0 '/' ('*' :: v) = .enter .comment := rfl
  .later hroot (.later hblank (.now rfl))

/-- Blanks and comments: the machine looks for them together, and enters a mode in front of them. -/
theorem follows_blank {rules : List LexRule} (hword : isWordStart c = false)
    (htype : isTypeStart c = false)
    (hrest : isBlank c = false → opensComment c cs = false → Follows .root rules c cs) :
    Follows .root (blanks :: blockComment :: openComment :: lineComment :: rules) c cs := by
  -- One test of the machine stands for four rules: it enters the mode for blanks in any case.
  have henter : (isBlank c || opensComment c cs) = true → rootAction c cs = .enter .blank := by
    intro h
    simp [rootAction, hword, htype, h]
  by_cases hblank : isBlank c = true
  · refine .here (longest_run rfl rfl (fun _ => isBlank_iff) (isBlank_iff.mp hblank))
      (.later (henter (by simp [hblank])) (.now ?_))
    have hslash : c ≠ '/' := by
      rintro rfl
      simp [isBlank] at hblank
    simp [Mode.action, blankAction, hslash, blanks, run, Nat.add_comm]
  rw [Bool.not_eq_true] at hblank
  refine .later (fails_of_head rfl (by simp [← isBlank_iff, hblank])) ?_
  by_cases hblock : ∃ v, c :: cs = '/' :: '*' :: v
  · obtain ⟨v, hv⟩ := hblock
    rw [List.cons.injEq] at hv
    obtain ⟨rfl, rfl⟩ := hv
    have hcomment {w : List Char} (hw : 2 + commentLength 1 v = w.length) :
        Decides .root '/' ('*' :: v) .comment w.length .root := hw ▸ decides_comment v
    obtain ⟨w, rest, rfl, hw⟩ | ⟨hnone, hlen⟩ := commentLength_cases (Nat.le_refl 1) v
    · refine .here (blockComment_longest hw) (hcomment ?_)
      rw [commentLength_append hw rest, List.length_cons, List.length_cons]
      omega
    · refine .later (blockComment_fails hnone) (.here (openComment_longest v) (hcomment ?_))
      rw [hlen, List.length_cons, List.length_cons]
      omega
  rw [not_exists] at hblock
  refine .later (blockComment_fails_of_ne hblock) (.later (fails_of_two rfl hblock) ?_)
  by_cases hline : ∃ v, c :: cs = '/' :: '/' :: v
  · obtain ⟨v, hv⟩ := hline
    have hopens : opensComment c cs = true := opensComment_iff.mpr ⟨v, .inr hv⟩
    rw [List.cons.injEq] at hv
    obtain ⟨rfl, rfl⟩ := hv
    refine .here (lineComment_longest v) (.later (henter (by simp [hopens])) (.now ?_))
    simp [Mode.action, blankAction, lineComment, run, isLineBreak, Nat.add_comm]
  · rw [not_exists] at hline
    refine .later (fails_of_two rfl hline) (hrest hblank (Bool.eq_false_iff.mpr fun h => ?_))
    obtain ⟨v, hv | hv⟩ := opensComment_iff.mp h
    · exact hblock v hv
    · exact hline v hv

/-- What the machine does in front of a quote. -/
theorem rootAction_quote (cs : List Char) : rootAction '"' cs =
    match closingQuote? cs with
    | some _ => .emit .string 1 .string
    | none => .emit .stringInvalid (1 + run (!isLineBreak ·) cs) .root := by
  cases h : closingQuote? cs <;>
    simp [h, rootAction, opensComment, isLoneAngle, startsNumber, isWordStart, isTypeStart, isBlank,
      isBracket, isDigit, isDelimiter, isSymbol, symbolChars]

/-- The scan for a closing quote decides between the two rules for a quote. -/
theorem follows_quotes (rules : List LexRule) (cs : List Char) :
    Follows .root (openQuote :: unclosedString :: rules) '"' cs := by
  have haction : Mode.root.action 0 '"' cs = rootAction '"' cs := rfl
  obtain ⟨body, after, rfl, hbody, hafter | ⟨rest, rfl⟩⟩ := exists_stringBody cs
  · have hnone := closingQuote?_append_of_givesUp hbody hafter
    have longest : unclosedString.Longest ('"' :: (body ++ after))
        ('"' :: (body ++ after).takeWhile (!isLineBreak ·)) :=
      longest_run rfl rfl (fun _ => not_isLineBreak_iff) rfl
    refine .later (fails_of_one rfl fun _ hfollow => ?_) (.here longest (.now ?_))
    · obtain ⟨other, rest, hcut, hother⟩ := hfollow
      rw [hcut, closingQuote?_append hother rest] at hnone
      simp at hnone
    · rw [haction, rootAction_quote, hnone, List.length_cons, run, Nat.add_comm]
      rfl
  · refine .here (longest_one rfl rfl ⟨body, rest, rfl, hbody⟩) (.now ?_)
    rw [haction, rootAction_quote, closingQuote?_append hbody rest]
    rfl

/-- Between lexemes the first rule that matches is followed. -/
theorem follows_rootRules (c : Char) (cs : List Char) : Follows .root rootRules c cs := by
  by_cases hword : isWordStart c = true
  · have hc := isWordStart_iff.mp hword
    refine .here (longest_run rfl rfl (fun _ => isWordChar_iff) hc) (.now ?_)
    simp [Mode.action, rootAction, hword, word]
  refine .later (fails_of_head rfl (mt isWordStart_iff.mpr hword)) ?_
  by_cases htype : isTypeStart c = true
  · have hc := isTypeStart_iff.mp htype
    refine .here (longest_run rfl rfl (fun _ => isWordChar_iff) hc) (.now ?_)
    simp [Mode.action, rootAction, hword, htype, typeWord, run, Nat.add_comm]
  refine .later (fails_of_head rfl (mt isTypeStart_iff.mpr htype)) ?_
  rw [Bool.not_eq_true] at hword htype
  refine follows_blank hword htype fun hblank hopens => ?_
  by_cases hbracket : isBracket c = true
  · refine .here (longest_one rfl (isBracket_iff.mp hbracket) (Set.mem_univ cs)) (.now ?_)
    simp [Mode.action, rootAction, hword, htype, hblank, hopens, hbracket, bracket]
  refine .later (fails_of_one rfl fun h => absurd (isBracket_iff.mpr h) hbracket) ?_
  by_cases hangle : isLoneAngle c cs = true
  · obtain ⟨hc, hfollow⟩ := isLoneAngle_iff.mp hangle
    refine .here (longest_one rfl hc hfollow) (.now ?_)
    simp [Mode.action, rootAction, hword, htype, hblank, hopens, hangle, angle]
  refine .later (fails_of_one rfl fun hc hfollow => hangle (isLoneAngle_iff.mpr ⟨hc, hfollow⟩)) ?_
  rw [Bool.not_eq_true] at hbracket hangle
  by_cases hsymbol : isSymbol c = true
  · refine .here (longest_run rfl rfl (fun _ => isSymbol_iff) (isSymbol_iff.mp hsymbol)) (.now ?_)
    simp [Mode.action, rootAction, hword, htype, hblank, hopens, hbracket, hangle, hsymbol, symbols]
  refine .later (fails_of_head rfl (mt isSymbol_iff.mpr hsymbol)) ?_
  rw [Bool.not_eq_true] at hsymbol
  by_cases hnumber : startsNumber c cs = true
  · refine follows_numbers hnumber ?_
    simp [rootAction, hword, htype, hblank, hopens, hbracket, hangle, hsymbol, hnumber]
  rw [Bool.not_eq_true] at hnumber
  obtain ⟨hfloat, hhexadecimal, hinteger⟩ := numbers_fail hnumber
  refine .later hfloat (.later hhexadecimal (.later hinteger ?_))
  by_cases hdelimiter : isDelimiter c = true
  · refine .here (longest_one rfl (isDelimiter_iff.mp hdelimiter) (Set.mem_univ cs)) (.now ?_)
    simp [Mode.action, rootAction, hword, htype, hblank, hopens, hbracket, hangle, hsymbol, hnumber,
      hdelimiter, delimiter]
  refine .later (fails_of_one rfl fun h => absurd (isDelimiter_iff.mpr h) hdelimiter) ?_
  rw [Bool.not_eq_true] at hdelimiter
  by_cases hquote : c = '"'
  · subst hquote
    exact follows_quotes [other] cs
  · refine .later (fails_of_one rfl fun h => absurd h hquote) (.later (fails_of_head rfl hquote) ?_)
    refine .here (longest_one rfl (Set.mem_univ c) (Set.mem_univ cs)) (.now ?_)
    simp [Mode.action, rootAction, hword, htype, hblank, hopens, hbracket, hangle, hsymbol, hnumber,
      hdelimiter, hquote, other]

/-! ## Inside a string -/

/-- Inside a string the first rule that matches is followed, if something stands after a backslash.
-/
theorem follows_stringRules (h : c = '\\' → cs ≠ []) : Follows .string stringRules c cs := by
  by_cases hquote : c = '"'
  · refine .here (longest_one rfl hquote (Set.mem_univ cs)) (.now ?_)
    simp [Mode.action, stringAction, hquote, closeQuote]
  refine .later (fails_of_one rfl fun hc => absurd hc hquote) ?_
  by_cases hbackslash : c = '\\'
  · obtain ⟨d, cs, rfl⟩ := List.exists_cons_of_ne_nil (h hbackslash)
    subst hbackslash
    have hat : escapeAt? ('\\' :: d :: cs) = escapeLength? (d :: cs) := rfl
    cases he : escapeLength? (d :: cs) with
    | some n =>
      obtain ⟨v, rest, -, hlen, longest⟩ := escape_readBy.longest rfl (hat.trans he)
      refine .here longest (.now ?_)
      simp [Mode.action, stringAction, he, hlen, escape]
    | none =>
      refine .later (escape_readBy.fails (hat.trans he)) (.here (w := ['\\', d]) ?_ (.now ?_))
      · refine Matches.longest ⟨by simp [brokenEscape], cs, rfl, Set.mem_univ cs⟩ ?_
        intro v hv
        obtain ⟨_, _, rfl, ⟨_, -, rfl⟩, rfl⟩ := mem_one_mul.mp hv
        exact Nat.le_refl 2
      · simp [Mode.action, stringAction, he, brokenEscape]
  · have hc : c ∈ ({'"', '\\'}ᶜ : Set Char) := by simp [hquote, hbackslash]
    refine .later (fails_of_head rfl hbackslash) (.later (fails_of_head rfl hbackslash) ?_)
    refine .here (longest_run rfl rfl (fun _ => isLiteral_iff) hc) (.now ?_)
    simp [Mode.action, stringAction, hquote, hbackslash, literal, run, Nat.add_comm]

end ScadText.Lexer
