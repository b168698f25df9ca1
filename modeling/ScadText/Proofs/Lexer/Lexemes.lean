import Mathlib.Algebra.Group.Nat.Even
import ScadText.Proofs.Lexer.Tiling

/-!
# Tokens outside strings

Between lexemes the machine is in its first mode, and it is there exactly when the tokens before
hold an even number of quotes. So every token outside a string is the one which the grammar gives
for the text from its first character on.

## Main definitions

* `WordKind`, `SymbolKind`: the kinds of words and of runs of symbols, by the tables.
* `quotes`: how many tokens are a quote of a closed string.

## Main statements

* `Run.mode_eq_root_iff`: the mode of the machine is told by the quotes before it.
* `tokenize_lexeme`: outside strings the tokens follow the grammar.
-/

namespace ScadText.Lexer

open Grammar LexRule Vocabulary
/-! ## Kinds by table -/

/-- The kind of a lower-case word by the tables. A word that is in none of them is an identifier. -/
structure WordKind (w : List Char) (kind : TokenKind) : Prop where
  keyword_iff : kind = .keyword ↔ String.ofList w ∈ keywords
  builtin_iff : kind = .builtin ↔ String.ofList w ∈ builtins
  specialVariable_iff : kind = .specialVariable ↔ String.ofList w ∈ specialVariables
  identifier_iff : kind = .identifier ↔ String.ofList w ∉ keywords ++ builtins ++ specialVariables

/-- The kind of a run of symbols: an operator if the table holds the whole run, else plain text. -/
structure SymbolKind (w : List Char) (kind : TokenKind) : Prop where
  operator_iff : kind = .operator ↔ String.ofList w ∈ operators
  text_iff : kind = .text ↔ String.ofList w ∉ operators

theorem wordKind_spec (w : List Char) : WordKind w (wordKind w) := by
  simp only [wordKind, List.contains_iff_mem]
  split_ifs with hkeyword hbuiltin hspecial
  · obtain ⟨hb, hs⟩ := notMem_of_mem_keywords _ hkeyword
    constructor <;> simp [hkeyword, hb, hs]
  · have hs := notMem_of_mem_builtins _ hbuiltin
    constructor <;> simp [hkeyword, hbuiltin, hs]
  · constructor <;> simp [hkeyword, hbuiltin, hspecial]
  · constructor <;> simp [hkeyword, hbuiltin, hspecial]

theorem symbolKind_spec (w : List Char) : SymbolKind w (symbolKind w) := by
  simp only [symbolKind, List.contains_iff_mem]
  split_ifs with h
  · constructor <;> simp [h]
  · constructor <;> simp [h]

/-! ## Quotes -/

/-- A quote that opens or closes a string. -/
def isQuote (token : Token) : Bool := token.kind = .string ∧ token.text = ['"']

/-- How many of the tokens are a quote that opens or closes a string. -/
def quotes (tokens : List Token) : Nat := tokens.countP isQuote

variable {s t : State} {token : Token} {tokens : List Token}

/-- Of the rules between lexemes only one gives the kind of a quote. -/
theorem eq_openQuote_of_kind {r : LexRule} {w : List Char} (h : r ∈ rootRules)
    (hr : r.kind w = .string) : r = openQuote := by
  have hne : wordKind w ≠ .string := by
    unfold wordKind
    dsimp only
    split_ifs <;> simp
  have hne' : symbolKind w ≠ .string := by
    unfold symbolKind
    split_ifs <;> simp
  simp only [rootRules, List.mem_cons, List.not_mem_nil, or_false] at h
  rcases h with rfl | rfl | rfl | rfl | rfl | rfl | rfl | rfl | rfl | rfl | rfl | rfl | rfl | rfl |
    rfl | rfl <;>
    first | rfl | exact absurd hr hne | exact absurd hr hne' | cases hr

/-- A quote changes the mode, and no other token does. -/
theorem Emits.mode_iff (hs : s.Settled) (emits : Emits s token t) :
    t.mode = .root ↔ (s.mode = .root ↔ isQuote token = false) := by
  obtain ⟨r, first, hkind, hnext, -⟩ := emits.first hs
  obtain hm | ⟨hm, body, after, hbody, hb⟩ := hs.mode_eq
  · rw [hm] at first
    by_cases hr : r = openQuote
    · subst hr
      obtain ⟨_, rfl, htext⟩ := first.longest.1.1
      have hquote : isQuote token = true := by simp [isQuote, hkind, htext, openQuote]
      simp [hm, hnext, hquote, openQuote]
    · have hkind' : token.kind ≠ .string := fun h => hr (eq_openQuote_of_kind first.mem (hkind ▸ h))
      have hroot := (next_of_mem_rootRules first.mem).resolve_right hr
      simp [hm, hnext, hroot, isQuote, hkind']
  · rw [hm, hbody] at first
    obtain ⟨-, rfl, htext⟩ | ⟨inner, -⟩ := hb.first_cases first
    · have hquote : isQuote token = true := by simp [isQuote, hkind, htext, closeQuote]
      simp [hm, hnext, hquote, closeQuote]
    · have hquote : isQuote token = false := by
        obtain rfl | rfl | rfl := mem_bodyRules inner.mem
        · simp [isQuote, hkind, escape]
        · simp [isQuote, hkind, brokenEscape]
        · obtain ⟨c, v, hc, -, htext⟩ := mem_one_mul.mp inner.longest.1.1
          have hne : c ≠ '"' := fun h => hc (.inl h)
          simp [isQuote, htext, hne]
      simp [hm, hnext, hquote, next_of_mem_bodyRules inner.mem]

/-- The machine is between lexemes exactly where an even number of quotes lies behind it. -/
theorem Run.mode_eq_root_iff (run : Run s tokens t) (hs : s.Settled) :
    t.mode = .root ↔ (s.mode = .root ↔ Even (quotes tokens)) := by
  induction run with
  | nil => simp [quotes]
  | @cons s t u token tokens emits _ ih =>
    obtain ⟨-, -, -, -, ht⟩ := emits.first hs
    rw [ih ht, emits.mode_iff hs, quotes, quotes, List.countP_cons]
    by_cases hquote : isQuote token = true
    · simp only [hquote, if_true, Nat.even_add_one, Bool.true_eq_false, iff_false]
      tauto
    · rw [Bool.not_eq_true] at hquote
      simp only [hquote, Bool.false_eq_true, if_false, Nat.add_zero, iff_true]

/-- Outside strings every token is the one which the rules of the grammar give for the text from its
first character on: the first rule that matches, with its longest word. By `First.unique` the text
has no other such token. -/
theorem tokenize_lexeme {source : List Char} {pre post : List Token} {token : Token}
    (h : tokenize source = pre ++ token :: post) (outside : Even (quotes pre)) :
    ∃ r, First (source.drop token.start.offset) rootRules r token.text ∧
      token.kind = r.kind token.text ∧ (r = word → WordKind token.text token.kind) ∧
      (r = symbols → SymbolKind token.text token.kind) := by
  obtain ⟨s, t, run, emits, -⟩ := tokenize_cut h
  have hs := run.settled (State.settled_initial source)
  have hm : s.mode = .root :=
    (run.mode_eq_root_iff (State.settled_initial source)).mpr (iff_of_true rfl outside)
  obtain ⟨r, first, hkind, -, -⟩ := emits.first hs
  have hrest : s.rest = source.drop token.start.offset := by
    have hoffset : token.start.offset = (Token.texts pre).length := by
      rw [emits.consumes.start_eq, run.position_eq, Position.offset_after]
      exact Nat.zero_add _
    have hsource : source = Token.texts pre ++ s.rest := run.rest_eq
    rw [hoffset, hsource, List.drop_left]
  rw [hm, hrest] at first
  refine ⟨r, first, hkind, ?_, ?_⟩
  · rintro rfl
    rw [hkind]
    exact wordKind_spec token.text
  · rintro rfl
    rw [hkind]
    exact symbolKind_spec token.text

theorem tokenize_lexeme_fraction : ∃ r,
    First ['1', '.', '5', 'e', '='] rootRules r ['1', '.', '5'] ∧
    .numberFloat = r.kind ['1', '.', '5'] ∧ (r = word → WordKind ['1', '.', '5'] .numberFloat) ∧
    (r = symbols → SymbolKind ['1', '.', '5'] .numberFloat) :=
  have h : tokenize ['"', '<', '"', '1', '.', '5', 'e', '='] =
      [⟨.string, ['"'], ⟨1, 1, 0⟩, ⟨1, 2, 1⟩⟩, ⟨.string, ['<'], ⟨1, 2, 1⟩, ⟨1, 3, 2⟩⟩,
        ⟨.string, ['"'], ⟨1, 3, 2⟩, ⟨1, 4, 3⟩⟩] ++
        ⟨.numberFloat, ['1', '.', '5'], ⟨1, 4, 3⟩, ⟨1, 7, 6⟩⟩ ::
          [⟨.identifier, ['e'], ⟨1, 7, 6⟩, ⟨1, 8, 7⟩⟩,
            ⟨.operator, ['='], ⟨1, 8, 7⟩, ⟨1, 9, 8⟩⟩] := by
    decide +kernel
  tokenize_lexeme h (by decide)

end ScadText.Lexer
