import ScadText.Proofs.Editor.Highlight
import ScadText.Proofs.Lexer.Returns

/-!
# Highlighting and carriage returns before line feeds

An editor is sent the same numbers for a text whether its lines end in a line feed alone or with a
carriage return before it.

## Main statements

* `unit?_of_returned`, `painted_of_returned`: the places and the pieces are the same.
* `entries?_of_alike`: so are the entries of tokens that are alike.
* `highlight_of_returned`: the tokens of the two texts are alike, and the same numbers are sent.
-/

namespace ScadText.Highlight

open Text Lexer

variable {lines others : List (List Char)} {line column paint modifiers : Nat} {s t : List Char}
  {token other : Token}

/-! ## Places and pieces -/

/-- On a line there are as many code units before a column with the carriage return as without. -/
theorem unit?_of_returned (h : List.Forall₂ ReturnedLine lines others)
    (hcolumn : ∀ text ∈ lines[line]?, column ≤ text.length) :
    unit? others line column = unit? lines line column := by
  induction h generalizing line with
  | nil => rfl
  | cons hline _ ih =>
    cases line with
    | zero =>
      cases hline with
      | same => rfl
      | ended =>
        have hle := hcolumn _ rfl
        simp only [unit?, List.getElem?_cons_zero, Option.map_some,
          List.take_append_of_le_length hle]
    | succ line => exact ih hcolumn

theorem painted_of_returned {piece piece' : List Char} (h : ReturnedLine piece piece') :
    painted piece' = painted piece := by
  cases h with
  | same => rfl
  | ended => simp [painted, trimEnd]

theorem pieceEntries?_of_returned {pieces pieces' : List (List Char)}
    (hlines : List.Forall₂ ReturnedLine lines others)
    (hpieces : List.Forall₂ ReturnedLine pieces pieces')
    (hcolumn : ∀ text ∈ lines[line]?, column ≤ text.length) :
    pieceEntries? others paint modifiers line column pieces' =
      pieceEntries? lines paint modifiers line column pieces := by
  induction hpieces generalizing line column with
  | nil => rfl
  | cons hpiece _ ih =>
    rw [pieceEntries?, pieceEntries?, painted_of_returned hpiece, unit?_of_returned hlines hcolumn,
      ih fun _ _ => Nat.zero_le _]

/-! ## Tokens -/

/-- The token starts on a line of the text or at its end. -/
def StartsWithin (lines : List (List Char)) (token : Token) : Prop :=
  ∀ text ∈ lines[token.start.line - 1]?, token.start.column - 1 ≤ text.length

theorem startsWithin_of_mem_tokenize (h : token ∈ tokenize s) :
    StartsWithin (Text.lines s) token := by
  obtain ⟨pre, post, hcut⟩ := List.append_of_mem h
  obtain ⟨hs, hstart, -⟩ := tokenize_cut_text hcut
  intro text hmem
  rw [hstart, Position.start_after, Nat.add_sub_cancel_left] at hmem
  rw [hs, getElem?_lines] at hmem
  obtain rfl := Option.some.inj hmem
  rw [hstart, Position.start_after, Nat.add_sub_cancel, List.length_append]
  exact Nat.le_add_right _ _

theorem tokenEntries?_of_alike (hlines : List.Forall₂ ReturnedLine lines others)
    (h : token.Alike other) (hreturn : '\r' ∉ token.text) (hstart : StartsWithin lines token) :
    tokenEntries? others other = tokenEntries? lines token := by
  have htext : Returned token.text other.text := returned_iff.mpr ⟨hreturn, h.text_eq⟩
  rw [tokenEntries?, tokenEntries?, h.kind_eq, h.start_beside.line_eq, h.start_beside.column_eq]
  cases style? token.kind with
  | none => rfl
  | some style => exact pieceEntries?_of_returned hlines htext.lines hstart

theorem entries?_of_alike {tokens tokens' : List Token}
    (hlines : List.Forall₂ ReturnedLine lines others)
    (h : List.Forall₂ Token.Alike tokens tokens')
    (htokens : ∀ token ∈ tokens, '\r' ∉ token.text ∧ StartsWithin lines token) :
    entries? others tokens' = entries? lines tokens := by
  induction h with
  | nil => rfl
  | cons halike _ ih =>
    obtain ⟨⟨hreturn, hstart⟩, htokens⟩ := List.forall_mem_cons.mp htokens
    rw [entries?, entries?, tokenEntries?_of_alike hlines halike hreturn hstart, ih htokens]

/-- Whether lines end in a line feed alone or with a carriage return before it, the tokens have the
same kinds, lines and columns, and the editor is sent the same numbers. -/
theorem highlight_of_returned (h : Returned s t) :
    List.Forall₂ Token.Alike (tokenize s) (tokenize t) ∧
      data? (Text.lines t) (tokenize t) = data? (Text.lines s) (tokenize s) ∧
      encode (tokenize t) = encode (tokenize s) := by
  have halike := forall₂_alike_tokenize h
  have htexts (cs : List Char) : Token.texts (tokenize cs) = cs := texts_tokens (State.initial cs)
  have hdata : data? (Text.lines t) (tokenize t) = data? (Text.lines s) (tokenize s) := by
    rw [data?, data?, entries?_of_alike h.lines halike fun token hmem => ⟨?_, ?_⟩]
    · intro hreturn
      have hs : '\r' ∈ Token.texts (tokenize s) := List.mem_flatMap.mpr ⟨token, hmem, hreturn⟩
      exact h.return_notMem (htexts s ▸ hs)
    · exact startsWithin_of_mem_tokenize hmem
  refine ⟨halike, hdata, ?_⟩
  rw [encode, encode, htexts, htexts, hdata]

theorem highlight_of_returned_comment :
    encode (tokenize ['/', '*', 'a', '\r', '\n', '*', '/', '\n', '"']) =
      encode (tokenize ['/', '*', 'a', '\n', '*', '/', '\n', '"']) :=
  have h : Returned ['/', '*', 'a', '\n', '*', '/', '\n', '"']
      ['/', '*', 'a', '\r', '\n', '*', '/', '\n', '"'] :=
    .keep (by decide) (.keep (by decide) (.keep (by decide) (.put (.refl (by decide)))))
  (highlight_of_returned h).2.2

end ScadText.Highlight
