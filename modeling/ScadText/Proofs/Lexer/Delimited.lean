import ScadText.Proofs.Lexer.Classes

/-!
# Escapes, strings and comments

What a backslash, a quote and the opener of a comment reach: the escapes, the scan for a closing
quote, and comments on a line and over lines, which nest.

## Main statements

* `escape_readBy`: the lookahead reads the escapes of the grammar.
* `exists_stringBody`, `closingQuote?_append`, `closingQuote?_append_of_givesUp`: the scan for a
  closing quote goes over a string body, and finds a quote or gives up.
* `commentLength_append`, `commentLength_cases`: a block comment is closed at one place, or takes
  all the text.
* `blockComment_longest`, `openComment_longest`, `lineComment_longest`: the words of the rules.
-/

namespace ScadText.Lexer

open Grammar Extent
open scoped Computability

/-! ## Escapes -/

/-- The length of an escape at the front of a text. -/
def escapeAt? : List Char → Option Nat
  | '\\' :: cs => escapeLength? cs
  | _ => none

/-- How many digits each of the letters takes that announce digits. -/
def EscapeDigits (c : Char) (n : Nat) : Prop :=
  c = 'x' ∧ 1 ≤ n ∧ n ≤ 4 ∨ c = 'u' ∧ n = 4 ∨ c = 'U' ∧ n = 8

theorem mem_hexDigits_four {ds : List Char} :
    ds ∈ one hexDigit ^ 1 + one hexDigit ^ 2 + one hexDigit ^ 3 + one hexDigit ^ 4 ↔
      (1 ≤ ds.length ∧ ds.length ≤ 4) ∧ ∀ d ∈ ds, d ∈ hexDigit := by
  simp only [Language.mem_add, mem_pow_one]
  constructor
  · rintro (((⟨h, hd⟩ | ⟨h, hd⟩) | ⟨h, hd⟩) | ⟨h, hd⟩) <;> exact ⟨by omega, hd⟩
  · rintro ⟨⟨h1, h4⟩, hd⟩
    obtain h | h | h | h : ds.length = 1 ∨ ds.length = 2 ∨ ds.length = 3 ∨ ds.length = 4 := by omega
    · exact .inl (.inl (.inl ⟨h, hd⟩))
    · exact .inl (.inl (.inr ⟨h, hd⟩))
    · exact .inl (.inr ⟨h, hd⟩)
    · exact .inr ⟨h, hd⟩

theorem mem_escape {w : List Char} : w ∈ escape.lexemes ↔
    (∃ c, simpleEscapes.contains c = true ∧ w = ['\\', c]) ∨
    ∃ c ds, (∀ d ∈ ds, isHexDigit d = true) ∧ EscapeDigits c ds.length ∧ w = '\\' :: c :: ds := by
  simp only [escape, mem_one_mul, ↓mem_hexDigits_four, Language.mem_add, mem_pow_one,
    simpleEscapes_iff, isHexDigit_iff]
  constructor
  · rintro ⟨_, _, rfl, ((⟨c, hc, rfl⟩ | ⟨c, ds, rfl, ⟨hn, hd⟩, rfl⟩) |
      ⟨c, ds, rfl, ⟨hn, hd⟩, rfl⟩) | ⟨c, ds, rfl, ⟨hn, hd⟩, rfl⟩, rfl⟩
    · exact .inl ⟨c, hc, rfl⟩
    · exact .inr ⟨'x', ds, hd, .inl ⟨rfl, hn⟩, rfl⟩
    · exact .inr ⟨'u', ds, hd, .inr (.inl ⟨rfl, hn⟩), rfl⟩
    · exact .inr ⟨'U', ds, hd, .inr (.inr ⟨rfl, hn⟩), rfl⟩
  · rintro (⟨c, hc, rfl⟩ | ⟨c, ds, hd, ⟨rfl, hn⟩ | ⟨rfl, hn⟩ | ⟨rfl, hn⟩, rfl⟩)
    · exact ⟨'\\', [c], rfl, .inl (.inl (.inl ⟨c, hc, rfl⟩)), rfl⟩
    · exact ⟨'\\', 'x' :: ds, rfl, .inl (.inl (.inr ⟨'x', ds, rfl, ⟨hn, hd⟩, rfl⟩)), rfl⟩
    · exact ⟨'\\', 'u' :: ds, rfl, .inl (.inr ⟨'u', ds, rfl, ⟨hn, hd⟩, rfl⟩), rfl⟩
    · exact ⟨'\\', 'U' :: ds, rfl, .inr ⟨'U', ds, rfl, ⟨hn, hd⟩, rfl⟩, rfl⟩

/-- An escape with digits takes as many as stand there, up to a bound. -/
theorem exists_escape_digits {c : Char} {cs : List Char} {bound : Nat}
    (hc : EscapeDigits c (run isHexDigit (cs.take bound))) :
    ∃ v rest, '\\' :: c :: cs = v ++ rest ∧ v.length = 2 + run isHexDigit (cs.take bound) ∧
      v ∈ escape.lexemes := by
  have hcut : cs = (cs.take bound).takeWhile isHexDigit ++
      ((cs.take bound).dropWhile isHexDigit ++ cs.drop bound) := by
    rw [← List.append_assoc, List.takeWhile_append_dropWhile, List.take_append_drop]
  refine ⟨'\\' :: c :: (cs.take bound).takeWhile isHexDigit,
    (cs.take bound).dropWhile isHexDigit ++ cs.drop bound, ?_, ?_, ?_⟩
  · rw [List.cons_append, List.cons_append, ← hcut]
  · rw [List.length_cons, List.length_cons, run]
    omega
  · exact mem_escape.mpr (.inr ⟨c, _, fun d => of_mem_takeWhile, hc, rfl⟩)

theorem escape_readBy : escape.ReadBy escapeAt? where
  sound {cs n} h := by
    unfold escapeAt? at h
    split at h
    · next cs =>
      cases cs with
      | nil => simp [escapeLength?] at h
      | cons c cs =>
        simp only [escapeLength?] at h
        split at h
        · next hc =>
          exact ⟨['\\', c], cs, rfl, Option.some.inj h, mem_escape.mpr (.inl ⟨c, hc, rfl⟩)⟩
        have hle : run isHexDigit (cs.take 4) ≤ 4 := run_take isHexDigit 4 cs ▸ Nat.min_le_left _ _
        split at h
        · next hx =>
          simp only [Bool.and_eq_true, decide_eq_true_eq, bne_iff_ne] at hx
          rw [← Option.some.inj h]
          exact exists_escape_digits (.inl ⟨hx.1, Nat.one_le_iff_ne_zero.mpr hx.2, hle⟩)
        split at h
        · next hu =>
          simp only [Bool.and_eq_true, decide_eq_true_eq, beq_iff_eq] at hu
          obtain ⟨v, rest, hcut, hlen, hv⟩ := exists_escape_digits (.inr (.inl hu))
          exact ⟨v, rest, hcut, by rw [hlen, hu.2]; exact Option.some.inj h, hv⟩
        split at h
        · next hu =>
          simp only [Bool.and_eq_true, decide_eq_true_eq, beq_iff_eq] at hu
          obtain ⟨v, rest, hcut, hlen, hv⟩ := exists_escape_digits (.inr (.inr hu))
          exact ⟨v, rest, hcut, by rw [hlen, hu.2]; exact Option.some.inj h, hv⟩
        · simp at h
    · simp at h
  maximal {v} hv rest := by
    obtain ⟨c, hc, rfl⟩ | ⟨c, ds, hd, hc, rfl⟩ := mem_escape.mp hv
    · refine ⟨2, ?_, Nat.le_refl 2⟩
      simp only [List.cons_append, List.nil_append, escapeAt?, escapeLength?, hc, if_true]
    have hrun := length_le_run hd rest
    simp only [List.cons_append, List.length_cons, escapeAt?, escapeLength?, run_take]
    rcases hc with ⟨rfl, h1, h4⟩ | ⟨rfl, hn⟩ | ⟨rfl, hn⟩
    · refine ⟨2 + min 4 (run isHexDigit (ds ++ rest)), ?_, by omega⟩
      rw [if_neg (by decide), if_pos]
      simp only [decide_true, Bool.true_and, bne_iff_ne]
      omega
    · refine ⟨6, ?_, by omega⟩
      rw [if_neg (by decide), if_neg (by simp), if_pos]
      simp only [decide_true, Bool.true_and, beq_iff_eq]
      omega
    · refine ⟨10, ?_, by omega⟩
      rw [if_neg (by decide), if_neg (by simp), if_neg (by simp), if_pos]
      simp only [decide_true, Bool.true_and, beq_iff_eq]
      omega

/-! ## The scan for a closing quote -/

theorem closingQuote?_append {body : List Char} (h : StringBody body) (after : List Char) :
    closingQuote? (body ++ '"' :: after) = some body.length := by
  induction h with
  | nil => rfl
  | @plain c cs quote backslash stays _ ih =>
    rw [List.cons_append, closingQuote?, ih, stays]
    · rfl
    · exact quote
    · exact fun d ds hc => absurd hc backslash
  | @hidden c cs stays _ ih =>
    rw [List.cons_append, List.cons_append, closingQuote?, ih, stays]
    rfl

theorem GivesUp.closingQuote?_eq_none {after : List Char} (h : GivesUp after) :
    closingQuote? after = none := by
  cases h with
  | atEnd => rfl
  | @atLineBreak c cs breaks =>
    have quote : c ≠ '"' := by rintro rfl; simp [isLineBreak] at breaks
    have backslash : c ≠ '\\' := by rintro rfl; simp [isLineBreak] at breaks
    rw [closingQuote?, if_pos breaks]
    · exact quote
    · exact fun d ds hc => absurd hc backslash
  | @backslash cs breaks =>
    cases cs with
    | nil => rfl
    | cons c cs => rw [closingQuote?, if_pos (breaks c rfl)]

theorem closingQuote?_append_of_givesUp {body after : List Char} (h : StringBody body)
    (ha : GivesUp after) : closingQuote? (body ++ after) = none := by
  induction h with
  | nil => exact ha.closingQuote?_eq_none
  | @plain c cs quote backslash stays _ ih =>
    rw [List.cons_append, closingQuote?, ih, stays]
    · rfl
    · exact quote
    · exact fun d ds hc => absurd hc backslash
  | @hidden c cs stays _ ih =>
    rw [List.cons_append, List.cons_append, closingQuote?, ih, stays]
    rfl

/-- The scan goes over a string body, and then finds a quote or gives up. -/
theorem exists_stringBody (cs : List Char) :
    ∃ body after, cs = body ++ after ∧ StringBody body ∧
      (GivesUp after ∨ ∃ rest, after = '"' :: rest) := by
  fun_induction closingQuote? cs with
  | case1 => exact ⟨[], [], rfl, .nil, .inl .atEnd⟩
  | case2 cs => exact ⟨[], _, rfl, .nil, .inr ⟨cs, rfl⟩⟩
  | case3 c cs breaks =>
    refine ⟨[], _, rfl, .nil, .inl (.backslash ?_)⟩
    rintro d ⟨⟩
    exact breaks
  | case4 c cs stays ih =>
    obtain ⟨body, after, rfl, hb, ha⟩ := ih
    exact ⟨'\\' :: c :: body, after, rfl, .hidden (Bool.eq_false_iff.mpr stays) hb, ha⟩
  | case5 c cs _ _ breaks => exact ⟨[], _, rfl, .nil, .inl (.atLineBreak breaks)⟩
  | case6 c cs quote backslash stays ih =>
    by_cases hc : c = '\\'
    · subst hc
      cases cs with
      | nil => exact ⟨[], _, rfl, .nil, .inl (.backslash (by simp))⟩
      | cons d cs => exact absurd rfl (backslash d cs rfl)
    · obtain ⟨body, after, rfl, hb, ha⟩ := ih
      exact ⟨c :: body, after, rfl, .plain quote hc (Bool.eq_false_iff.mpr stays) hb, ha⟩

/-! ## Block comments -/

theorem ClosesAt.ne_nil {level : Nat} {w : List Char} (h : ClosesAt level w) : w ≠ [] := by
  cases h <;> exact List.cons_ne_nil _ _

theorem commentLength_append {level : Nat} {w : List Char} (h : ClosesAt level w)
    (rest : List Char) : commentLength level (w ++ rest) = w.length := by
  induction h with
  | done => rfl
  | @closer level w _ ih =>
    have down : level + 2 - 1 = level + 1 := rfl
    rw [List.cons_append, List.cons_append, commentLength, if_neg (by omega), down, ih]
    simp only [List.length_cons]
    omega
  | @opener level w _ ih =>
    rw [List.cons_append, List.cons_append, commentLength, ih]
    simp only [List.length_cons]
    omega
  | @other level c w opens closes inner ih =>
    -- The character does not form a marker with what comes after the comment, which goes on.
    obtain ⟨d, v, rfl⟩ := List.exists_cons_of_ne_nil inner.ne_nil
    rw [List.cons_append, commentLength, ih]
    · simp only [List.length_cons]
      omega
    · rintro _ rfl ⟨rfl, -⟩
      exact opens v rfl
    · rintro _ rfl ⟨rfl, -⟩
      exact closes v rfl

/-- Either the comment is closed at some place, or it takes all the text. -/
theorem commentLength_cases {level : Nat} (hl : 1 ≤ level) (cs : List Char) :
    (∃ w rest, cs = w ++ rest ∧ ClosesAt level w) ∨
      (∀ w rest, cs = w ++ rest → ¬ ClosesAt level w) ∧ commentLength level cs = cs.length := by
  by_cases h : ∃ w rest, cs = w ++ rest ∧ ClosesAt level w
  · exact .inl h
  refine .inr ⟨fun w rest hcut hw => h ⟨w, rest, hcut, hw⟩, ?_⟩
  fun_induction commentLength level cs with
  | case1 => rfl
  | case2 level cs ih =>
    rw [ih (by omega), List.length_cons, List.length_cons]
    · omega
    rintro ⟨w, rest, rfl, hw⟩
    exact h ⟨_, rest, rfl, .opener hw⟩
  | case3 level cs done =>
    obtain rfl : level = 1 := by omega
    exact absurd ⟨['*', '/'], cs, rfl, .done⟩ h
  | case4 level cs deeper ih =>
    obtain ⟨below, rfl⟩ : ∃ below, level = below + 2 := ⟨level - 2, by omega⟩
    rw [ih (by omega), List.length_cons, List.length_cons]
    · omega
    rintro ⟨w, rest, rfl, hw⟩
    exact h ⟨_, rest, rfl, .closer hw⟩
  | case5 level c cs opens closes ih =>
    rw [ih hl, List.length_cons]
    · omega
    rintro ⟨w, rest, rfl, hw⟩
    refine h ⟨c :: w, rest, rfl, .other ?_ ?_ hw⟩
    · rintro v ⟨rfl, rfl⟩
      exact opens _ rfl rfl
    · rintro v ⟨rfl, rfl⟩
      exact closes _ rfl rfl

theorem blockComment_longest {w rest : List Char} (hw : ClosesAt 1 w) :
    blockComment.Longest ('/' :: '*' :: (w ++ rest)) ('/' :: '*' :: w) := by
  refine ⟨⟨⟨w, rfl, hw⟩, rest, rfl, Set.mem_univ rest⟩, ?_⟩
  rintro _ ⟨⟨v, rfl, hv⟩, tail, hcut, -⟩
  simp only [List.cons_append, List.cons.injEq, true_and] at hcut
  have hlen := commentLength_append hv tail
  rw [← hcut, commentLength_append hw rest] at hlen
  rw [List.length_cons, List.length_cons, List.length_cons, List.length_cons, hlen]

theorem blockComment_fails {cs : List Char} (h : ∀ w rest, cs = w ++ rest → ¬ ClosesAt 1 w) :
    blockComment.Fails ('/' :: '*' :: cs) := by
  rintro _ ⟨⟨v, rfl, hv⟩, tail, hcut, -⟩
  simp only [List.cons_append, List.cons.injEq, true_and] at hcut
  exact h v tail hcut hv

theorem blockComment_fails_of_ne {c : Char} {cs : List Char} (h : ∀ v, c :: cs ≠ '/' :: '*' :: v) :
    blockComment.Fails (c :: cs) := by
  rintro _ ⟨⟨v, rfl, -⟩, tail, hcut, -⟩
  exact h _ hcut

theorem openComment_longest (cs : List Char) :
    openComment.Longest ('/' :: '*' :: cs) ('/' :: '*' :: cs) := by
  refine LexRule.Matches.longest_self ⟨?_, [], (List.append_nil _).symm, Set.mem_univ []⟩
  simp [openComment, mul_assoc]

theorem lineComment_longest (cs : List Char) :
    lineComment.Longest ('/' :: '/' :: cs) ('/' :: '/' :: cs.takeWhile (!isLineBreak ·)) := by
  refine LexRule.longest_star (A := one {'/'} * one {'/'}) (w := ['/', '/']) rfl rfl
    (fun _ => not_isLineBreak_iff) ?_ (by simp)
  intro a ha
  obtain ⟨_, _, rfl, ⟨_, rfl, rfl⟩, rfl⟩ := mem_one_mul.mp ha
  rfl

/-- A rule for a lexeme of two or more fixed characters does not match where they do not stand. -/
theorem fails_of_two {r : LexRule} {c d e : Char} {cs : List Char} {L : Language Char}
    (hr : r.lexemes = one {d} * one {e} * L) (h : ∀ v, c :: cs ≠ d :: e :: v) :
    r.Fails (c :: cs) := by
  rintro _ ⟨hw, rest, hcut, -⟩
  rw [hr, mul_assoc] at hw
  obtain ⟨_, _, rfl, hv, rfl⟩ := mem_one_mul.mp hw
  obtain ⟨_, v, rfl, -, rfl⟩ := mem_one_mul.mp hv
  exact h (v ++ rest) hcut

end ScadText.Lexer
