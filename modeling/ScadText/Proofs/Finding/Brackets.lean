import ScadText.Finding.Balance
import ScadText.Proofs.Lexer.Tiling

/-!
# Brackets in a text and among its tokens

Outside comments and strings every bracket is a token of its own, whatever stands around it. So the
balance of a text, which is counted on its characters, is the balance of its tokens once those in
comments and strings are set apart.

## Main definitions

* `TokenKind.hidesBrackets`: the kinds of token in which a bracket is not read as one.
* `bracketTokens`, `hiddenBrackets`: how often a bracket is a token, and how often it is hidden.

## Main statements

* `Emits.bracket_cases`: a token that holds a bracket is that bracket, or hides it.
* `Balance.mem_unmatched_iff`: the finding about a pair is the one for its two counts.
* `count_brackets`: the counts on the characters and on the tokens agree, and so does the check.
-/

namespace ScadText

/-- A bracket in a token of this kind is not read as a bracket: in a comment, in the text of a
string, after the backslash of a broken escape, and in a string that is not closed. -/
def TokenKind.hidesBrackets : TokenKind → Bool
  | .comment | .string | .stringEscapeInvalid | .stringInvalid => true
  | _ => false

/-- The token is the bracket `c`. -/
def Token.isBracket (c : Char) (token : Token) : Bool := token.kind = .bracket && token.text = [c]

/-- How many of the tokens are the bracket `c`. -/
def bracketTokens (c : Char) (tokens : List Token) : Nat := tokens.countP (·.isBracket c)

/-- How often `c` stands in those of the tokens that hide brackets. -/
def hiddenBrackets (c : Char) (tokens : List Token) : Nat :=
  (Token.texts (tokens.filter (·.kind.hidesBrackets))).count c

variable {c : Char} {token : Token} {tokens : List Token} {source : List Char}

theorem Token.isBracket_iff :
    token.isBracket c = true ↔ token.kind = .bracket ∧ token.text = [c] := by
  simp [isBracket]

theorem Token.hidesBrackets_of_isBracket (h : token.isBracket c = true) :
    token.kind.hidesBrackets = false := by
  rw [(isBracket_iff.mp h).1]
  rfl

/-! ## One token -/

namespace Lexer

open Grammar LexRule

variable {s t : State} {r : LexRule} {w cs : List Char}

/-- In front of a bracket the lexer emits the bracket. -/
theorem Emits.isBracket_of_head (hs : s.Settled) (hm : s.mode = .root) (hc : isBracket c = true)
    (hr : s.rest = c :: cs) (emits : Emits s token t) : token.isBracket c = true := by
  have haction : Mode.root.action 0 c cs = .emit .bracket 1 .root := by
    obtain rfl | rfl | rfl | rfl | rfl | rfl := isBracket_iff.mp hc <;> rfl
  obtain ⟨rfl, -⟩ := emits.unique ((Decides.now haction).emits hm hs.depth_eq hr)
  simp [Token.isBracket, hr]

/-- Between lexemes a rule whose word holds a bracket takes it as such, hides it, or takes only the
first character of the text. -/
theorem bracket_cases_of_rootRules (hc : isBracket c = true) (first : First cs rootRules r w)
    (hw : c ∈ w) :
    (r.kind w = .bracket ∧ w = [c]) ∨ (r.kind w).hidesBrackets = true ∨ ∃ rest, cs = c :: rest := by
  obtain ⟨hmem, rest, rfl, -⟩ := first.longest.1
  obtain havoids | hfree := (Foreign.of_isBracket hc).avoids first.mem
  · exact absurd hw (havoids w hmem)
  have hblank : isBlank c = false := by
    obtain rfl | rfl | rfl | rfl | rfl | rfl := isBracket_iff.mp hc <;> rfl
  have hblanks : Avoids c blanks.lexemes := by
    have hset : c ∉ blank := mt isBlank_iff.mpr (by simp [hblank])
    exact .run hset hset
  simp only [List.mem_cons, List.not_mem_nil, or_false] at hfree
  rcases hfree with rfl | rfl | rfl | rfl | rfl | rfl | rfl
  · exact absurd hw (hblanks w hmem)
  · exact .inr (.inl rfl)
  · exact .inr (.inl rfl)
  · exact .inr (.inl rfl)
  · obtain ⟨d, -, rfl⟩ := hmem
    exact .inl ⟨rfl, by rw [List.mem_singleton.mp hw]⟩
  · exact .inr (.inl rfl)
  · -- The last rule takes any character. That it never gets a bracket is seen from the machine.
    obtain ⟨d, -, rfl⟩ := hmem
    exact .inr (.inr ⟨rest, by rw [List.mem_singleton.mp hw]; rfl⟩)

/-- An escape holds its backslash, and a letter or digits. -/
theorem Foreign.avoids_escape (hc : Foreign c) (hletter : c ∉ escapeLetter) :
    Avoids c escape.lexemes := by
  have hbackslash : c ≠ '\\' := by
    rintro rfl
    simp [escapeLetter] at hletter
  have hhex (n : Nat) : Avoids c (one hexDigit ^ n) :=
    .pow (.one (hc.notMem_of_subset hexDigit_subset_wordChar)) n
  have hshort : Avoids c
      (one hexDigit ^ 1 + one hexDigit ^ 2 + one hexDigit ^ 3 + one hexDigit ^ 4) :=
    .add (.add (.add (hhex 1) (hhex 2)) (hhex 3)) (hhex 4)
  have announced {d : Char} {L : Language Char} (hd : isWordChar d = true) (hL : Avoids c L) :
      Avoids c (one {d} * L) := .mul (.one (hc.ne_of_isWordChar hd)) hL
  exact .mul (.one hbackslash) (.add (.add (.add (.one hletter) (announced rfl hshort))
    (announced rfl (hhex 4))) (announced rfl (hhex 8)))

/-- Inside a string a bracket is hidden. -/
theorem hidesBrackets_of_stringRules (hc : isBracket c = true) (first : First cs stringRules r w)
    (hw : c ∈ w) : (r.kind w).hidesBrackets = true := by
  have hletter : c ∉ escapeLetter := by
    obtain rfl | rfl | rfl | rfl | rfl | rfl := isBracket_iff.mp hc <;> simp [escapeLetter]
  have hmem : r = closeQuote ∨ r ∈ bodyRules := List.mem_cons.mp first.mem
  obtain rfl | hbody := hmem
  · rfl
  obtain rfl | rfl | rfl := mem_bodyRules hbody
  · exact absurd hw ((Foreign.of_isBracket hc).avoids_escape hletter w first.longest.1.1)
  · rfl
  · rfl

/-- A token that holds a bracket is that bracket, or it hides it. -/
theorem Emits.bracket_cases (hs : s.Settled) (emits : Emits s token t) (hc : isBracket c = true)
    (hmem : c ∈ token.text) : token.isBracket c = true ∨ token.kind.hidesBrackets = true := by
  obtain ⟨r, first, hkind, -, -⟩ := emits.first hs
  obtain hm | ⟨hm, -⟩ := hs.mode_eq
  · rw [hm] at first
    obtain ⟨hbracket, htext⟩ | hhides | ⟨rest, hrest⟩ :=
      bracket_cases_of_rootRules hc first hmem
    · exact .inl (Token.isBracket_iff.mpr ⟨hkind.trans hbracket, htext⟩)
    · exact .inr (hkind ▸ hhides)
    · exact .inl (emits.isBracket_of_head hs hm hc hrest)
  · rw [hm] at first
    exact .inr (hkind ▸ hidesBrackets_of_stringRules hc first hmem)

theorem bracket_cases_of_mem_tokenize (h : token ∈ tokenize source) (hc : isBracket c = true)
    (hmem : c ∈ token.text) : token.isBracket c = true ∨ token.kind.hidesBrackets = true := by
  obtain ⟨pre, post, hcut⟩ := List.append_of_mem h
  obtain ⟨s, t, run, emits, -⟩ := tokenize_cut hcut
  exact emits.bracket_cases (run.settled (State.settled_initial source)) hc hmem

end Lexer

/-! ## All tokens -/

theorem bracketTokens_cons : bracketTokens c (token :: tokens) =
    (if token.isBracket c then 1 else 0) + bracketTokens c tokens := by
  rw [bracketTokens, List.countP_cons, Nat.add_comm]
  rfl

theorem hiddenBrackets_cons : hiddenBrackets c (token :: tokens) =
    (if token.kind.hidesBrackets then token.text.count c else 0) + hiddenBrackets c tokens := by
  rw [hiddenBrackets, List.filter_cons]
  split
  · rw [Token.texts_cons, List.count_append]
    rfl
  · exact (Nat.zero_add _).symm

/-- Each occurrence of a bracket in a token is the token itself, or is hidden. -/
theorem Token.count_text
    (h : c ∈ token.text → token.isBracket c = true ∨ token.kind.hidesBrackets = true) :
    token.text.count c = (if token.isBracket c then 1 else 0) +
      (if token.kind.hidesBrackets then token.text.count c else 0) := by
  by_cases hbracket : token.isBracket c = true
  · have hone : token.text.count c = 1 := by
      rw [(isBracket_iff.mp hbracket).2, List.count_singleton_self]
    simp [hbracket, hidesBrackets_of_isBracket hbracket, hone]
  · by_cases hhides : token.kind.hidesBrackets = true
    · simp [hbracket, hhides]
    · have hnone : c ∉ token.text := fun hmem => (h hmem).elim hbracket hhides
      simp [hbracket, hhides, List.count_eq_zero.mpr hnone]

theorem Token.count_texts (h : ∀ token ∈ tokens, c ∈ token.text →
      token.isBracket c = true ∨ token.kind.hidesBrackets = true) :
    (Token.texts tokens).count c = bracketTokens c tokens + hiddenBrackets c tokens := by
  induction tokens with
  | nil => rfl
  | cons token tokens ih =>
    obtain ⟨hfirst, hothers⟩ := List.forall_mem_cons.mp h
    have htoken := count_text hfirst
    have htokens := ih hothers
    rw [texts_cons, List.count_append, bracketTokens_cons, hiddenBrackets_cons]
    omega

theorem hiddenBrackets_eq_zero (h : ∀ token ∈ tokens, token.kind.hidesBrackets = false) :
    hiddenBrackets c tokens = 0 := by
  have hnone : tokens.filter (·.kind.hidesBrackets) = [] :=
    List.filter_eq_nil_iff.mpr fun token hmem => by simp [h token hmem]
  rw [hiddenBrackets, hnone]
  rfl

/-! ## The check -/

namespace Balance

variable {pair : Pair} {text : List Char} {finding : Finding}

theorem pair_eq_of_code_eq {p q : Pair} (hp : p ∈ pairs) (hq : q ∈ pairs)
    (h : p.rule.code = q.rule.code) : p = q := by
  have separated : ∀ p ∈ pairs, ∀ q ∈ pairs, p.rule.code = q.rule.code → p = q := by decide
  exact separated p hp q hq h

theorem Pair.code_and_message {opened closed : Nat}
    (h : pair.unmatched? opened closed = some finding) :
    finding.code = pair.rule.code ∧ finding.message = "Unmatched " ++ pair.noun ++ ": " ++
      toString opened ++ " opening, " ++ toString closed ++ " closing" := by
  rw [Pair.unmatched?] at h
  split at h
  · cases h
  · obtain rfl := Option.some.inj h
    exact ⟨rfl, rfl⟩

/-- The finding about a pair is the one for its two counts. -/
theorem mem_unmatched_iff (hpair : pair ∈ pairs) :
    finding ∈ unmatched text ∧ finding.code = pair.rule.code ↔
      pair.unmatched? (text.count pair.opening) (text.count pair.closing) = some finding := by
  constructor
  · rintro ⟨hmem, hcode⟩
    obtain ⟨other, hother, hsome⟩ := List.mem_filterMap.mp hmem
    obtain rfl : other = pair :=
      pair_eq_of_code_eq hother hpair ((Pair.code_and_message hsome).1.symm.trans hcode)
    exact hsome
  · intro h
    exact ⟨List.mem_filterMap.mpr ⟨pair, hpair, h⟩, (Pair.code_and_message h).1⟩

/-- A pair is reported exactly if its two characters are not equally many. -/
theorem exists_mem_unmatched_iff (hpair : pair ∈ pairs) :
    (∃ finding ∈ unmatched text, finding.code = pair.rule.code) ↔
      text.count pair.opening ≠ text.count pair.closing := by
  simp only [mem_unmatched_iff hpair, Pair.unmatched?]
  split
  · next heq => simp [heq]
  · next hne => simp [hne]

theorem message_of_mem_unmatched (hpair : pair ∈ pairs) (h : finding ∈ unmatched text)
    (hcode : finding.code = pair.rule.code) :
    finding.message = "Unmatched " ++ pair.noun ++ ": " ++ toString (text.count pair.opening) ++
      " opening, " ++ toString (text.count pair.closing) ++ " closing" :=
  (Pair.code_and_message ((mem_unmatched_iff hpair).mp ⟨h, hcode⟩)).2

end Balance

/-- On the characters and on the tokens of a source every bracket is counted alike: each occurrence
is a token of its own, or is hidden in a comment or string, and no other token holds one. So where
no token hides brackets, the check reports a pair exactly if its two brackets are not equally many
among the tokens, and says how many they are. -/
theorem count_brackets (source : List Char) :
    (∀ c, isBracket c = true →
      source.count c = bracketTokens c (tokenize source) + hiddenBrackets c (tokenize source) ∧
      ∀ token ∈ tokenize source, c ∈ token.text →
        token.isBracket c = true ∨ token.kind.hidesBrackets = true) ∧
    ((∀ token ∈ tokenize source, token.kind.hidesBrackets = false) → ∀ pair ∈ Balance.pairs,
      ((∃ finding ∈ Balance.unmatched source, finding.code = pair.rule.code) ↔
        bracketTokens pair.opening (tokenize source) ≠
          bracketTokens pair.closing (tokenize source)) ∧
      ∀ finding ∈ Balance.unmatched source, finding.code = pair.rule.code →
        finding.message = "Unmatched " ++ pair.noun ++ ": " ++
          toString (bracketTokens pair.opening (tokenize source)) ++ " opening, " ++
          toString (bracketTokens pair.closing (tokenize source)) ++ " closing") := by
  have hcount {c : Char} (hc : isBracket c = true) : source.count c =
      bracketTokens c (tokenize source) + hiddenBrackets c (tokenize source) := by
    have htexts : Token.texts (tokenize source) = source :=
      Lexer.texts_tokens (Lexer.State.initial source)
    rw [← Token.count_texts fun token h => Lexer.bracket_cases_of_mem_tokenize h hc, htexts]
  refine ⟨fun c hc => ⟨hcount hc, fun token h => Lexer.bracket_cases_of_mem_tokenize h hc⟩, ?_⟩
  intro hplain pair hpair
  have hbrackets : ∀ pair ∈ Balance.pairs,
      isBracket pair.opening = true ∧ isBracket pair.closing = true := by decide
  have hopening : source.count pair.opening = bracketTokens pair.opening (tokenize source) := by
    rw [hcount (hbrackets pair hpair).1, hiddenBrackets_eq_zero hplain, Nat.add_zero]
  have hclosing : source.count pair.closing = bracketTokens pair.closing (tokenize source) := by
    rw [hcount (hbrackets pair hpair).2, hiddenBrackets_eq_zero hplain, Nat.add_zero]
  rw [← hopening, ← hclosing]
  exact ⟨Balance.exists_mem_unmatched_iff hpair,
    fun finding => Balance.message_of_mem_unmatched hpair⟩

theorem count_brackets_hidden_and_plain :
    "[/*[".toList.count '[' = 1 + 1 ∧
    ∃ finding ∈ Balance.unmatched "a(<[.5]".toList,
      finding.code = Rule.unmatchedParentheses.code ∧
      finding.message = "Unmatched parentheses: 1 opening, 0 closing" := by
  constructor
  · have hplain : bracketTokens '[' (tokenize "[/*[".toList) = 1 := by decide +kernel
    have hhidden : hiddenBrackets '[' (tokenize "[/*[".toList) = 1 := by decide +kernel
    rw [((count_brackets "[/*[".toList).1 '[' rfl).1, hplain, hhidden]
  · have hplain : ∀ token ∈ tokenize "a(<[.5]".toList, token.kind.hidesBrackets = false := by
      decide +kernel
    have hopening : bracketTokens '(' (tokenize "a(<[.5]".toList) = 1 := by decide +kernel
    have hclosing : bracketTokens ')' (tokenize "a(<[.5]".toList) = 0 := by decide +kernel
    obtain ⟨hreported, hmessage⟩ := (count_brackets "a(<[.5]".toList).2 hplain
      ⟨'(', ')', "parentheses", .unmatchedParentheses⟩ (by decide)
    obtain ⟨finding, hmem, hcode⟩ := hreported.mpr (by rw [hopening, hclosing]; decide)
    exact ⟨finding, hmem, hcode, by rw [hmessage finding hmem hcode, hopening, hclosing]; rfl⟩

end ScadText
