import Mathlib.Data.List.Forall2
import ScadText.Proofs.Editor.Spans
import ScadText.Proofs.Lexer.Tiling
import ScadText.Proofs.Text.Utf16

/-!
# What the editor paints

The numbers that are sent for a source denote one entry for every piece of a token that is to be
painted: on the line of the entry its code units are those of the piece. No line is looked up that
does not exist, and nothing else is painted.

## Main definitions

* `pieces`: what is to be painted of some tokens.
* `Paints`: an entry paints a piece.
* `Highlights`: entries paint a source.

## Main statements

* `exists_pieceEntries`, `exists_entries`: the entries of a token's pieces, and of tokens in a row.
* `highlights_encode`: what is sent for a source.
-/

namespace ScadText.Highlight

open Text Lexer

/-- What is left of lines without the carriage returns at their ends, where anything is left. -/
def parts (lines : List (List Char)) : List (List Char) :=
  (lines.map (List.rdropWhile (· == '\r'))).filter (· ≠ [])

/-- The pieces of a token with their kind, if tokens of the kind are painted. -/
def tokenPieces (token : Token) : List (TokenKind × List Char) :=
  match style? token.kind with
  | none => []
  | some _ => (parts (lines token.text)).map (token.kind, ·)

def pieces (tokens : List Token) : List (TokenKind × List Char) := tokens.flatMap tokenPieces

/-- On the line of the entry, the code units of the entry are those of the piece. -/
structure Shows (source piece : List Char) (entry : Entry) : Prop where
  units_eq : ∃ line, (lines source)[entry.place.line]? = some line ∧
    (utf16 line).extract entry.place.unit (entry.place.unit + entry.length) = utf16 piece
  length_eq : entry.length = (utf16 piece).length

/-- The entry shows the piece, with the type and the modifiers of its kind. -/
structure Paints (source : List Char) (piece : TokenKind × List Char) (entry : Entry) : Prop where
  shows : Shows source piece.2 entry
  style_eq : ∃ paint modifiers, style? piece.1 = some (paint, modifiers) ∧
    entry.paint = paint.index ∧ entry.modifiers = Modifier.bits modifiers

/-- The entries paint the pieces of the source one for one and in order, do not overlap, and paint
no character of any other token. -/
structure Highlights (source : List Char) (entries : List Entry) : Prop where
  paints : List.Forall₂ (Paints source) (pieces (tokenize source)) entries
  length_pos : ∀ entry ∈ entries, 1 ≤ entry.length
  increasing : entries.Pairwise fun first second => first.place.line < second.place.line ∨
    first.place.line = second.place.line ∧ first.place.unit < second.place.unit
  disjoint : entries.Pairwise fun first second => first.place.line = second.place.line →
    first.place.unit + first.length ≤ second.place.unit
  uncovered : ∀ token ∈ tokenize source, style? token.kind = none →
    ∀ offset, token.start.offset ≤ offset → offset < token.stop.offset →
      ∀ entry ∈ entries, ¬ entry.Covers source offset

/-! ## One piece -/

variable {source before after piece text : List Char} {paint modifiers : Nat}

theorem unit?_of_cut (before rest : List Char) :
    unit? (lines (before ++ rest)) (before.count '\n') (lastLine before).length =
      some (utf16Length (lastLine before)) := by
  rw [unit?, getElem?_lines, Option.map_some, List.take_left]

theorem exists_painted (piece : List Char) : ∃ returns, piece = painted piece ++ returns :=
  (List.rdropWhile_prefix (· == '\r') piece).elim fun returns h => ⟨returns, h.symm⟩

/-- The entry of a piece spans the piece and shows it. -/
theorem entry_of_piece (paint modifiers : Nat) (hsource : source = before ++ (piece ++ after))
    (h : '\n' ∉ piece) (hne : painted piece ≠ []) :
    Entry.Spans ⟨.of before, utf16Length (painted piece), paint, modifiers⟩ source before.length
        (before.length + (painted piece).length) ∧
      Shows source (painted piece) ⟨.of before, utf16Length (painted piece), paint, modifiers⟩ := by
  obtain ⟨returns, hcut⟩ := exists_painted piece
  have hpainted : '\n' ∉ painted piece := fun hmem => h (hcut ▸ List.mem_append_left returns hmem)
  have hline : (lines source)[before.count '\n']? =
      some (lastLine before ++ painted piece ++ (returns ++ firstLine after)) := by
    rw [hsource, getElem?_lines, firstLine_append h, List.append_assoc,
      ← List.append_assoc (painted piece), ← hcut]
  have htake : source.take (before.length + (painted piece).length) = before ++ painted piece := by
    have hpaint : source = (before ++ painted piece) ++ (returns ++ after) := by
      rw [hsource, List.append_assoc, ← List.append_assoc (painted piece), ← hcut]
    rw [hpaint, ← List.length_append, List.take_left]
  refine ⟨⟨?_, ?_, ?_⟩, ⟨_, hline, ?_⟩, (length_utf16 _).symm⟩
  · rw [hsource, List.take_left]
  · rw [htake, Place.of_append_line before hpainted]
  · have := List.length_pos_iff.mpr hne
    have := length_le_utf16Length (painted piece)
    dsimp only
    omega
  · exact extract_utf16 (lastLine before) (painted piece) _

/-! ## The pieces of a token -/

/-- The entries lie along the source between two offsets, and show the parts in one style. -/
structure Drawn (source : List Char) (paint modifiers a b : Nat) (parts : List (List Char))
    (entries : List Entry) : Prop where
  along : Along source a entries b
  shows : List.Forall₂ (fun part entry => Shows source part entry ∧ entry.paint = paint ∧
    entry.modifiers = modifiers) parts entries

theorem parts_cons_of_eq_nil {rest : List (List Char)} (h : painted piece = []) :
    parts (piece :: rest) = parts rest := by
  have hnil : piece.rdropWhile (· == '\r') = [] := h
  rw [parts, List.map_cons, hnil]
  rfl

theorem parts_cons_of_ne_nil {rest : List (List Char)} (h : painted piece ≠ []) :
    parts (piece :: rest) = painted piece :: parts rest :=
  List.filter_cons_of_pos (decide_eq_true h)

/-- The pieces of a token one by one: the first starts anywhere on its line, and the others after
it. -/
theorem exists_pieceEntries_cons {rest : List (List Char)} {b : Nat} {later : List Entry}
    (hsource : source = before ++ (piece ++ after)) (h : '\n' ∉ piece)
    (hlater :
      pieceEntries? (lines source) paint modifiers (before.count '\n' + 1) 0 rest = some later)
    (drawn : Drawn source paint modifiers (before.length + piece.length) b (parts rest) later) :
    ∃ entries, pieceEntries? (lines source) paint modifiers (before.count '\n')
        (lastLine before).length (piece :: rest) = some entries ∧
      Drawn source paint modifiers before.length b (parts (piece :: rest)) entries := by
  by_cases hne : painted piece = []
  · refine ⟨later, ?_, drawn.along.of_le (Nat.le_add_right _ _), ?_⟩
    · rw [pieceEntries?, if_pos hne, hlater]
    · rw [parts_cons_of_eq_nil hne]
      exact drawn.shows
  · obtain ⟨spans, shows⟩ := entry_of_piece paint modifiers hsource h hne
    obtain ⟨returns, hcut⟩ := exists_painted piece
    have hlength : (painted piece).length ≤ piece.length := by
      have := congrArg List.length hcut
      rw [List.length_append] at this
      omega
    refine ⟨_ :: later, ?_, .cons (Nat.le_refl _) (Nat.le_add_right _ _) spans
      (drawn.along.of_le (by omega)), ?_⟩
    · have hunit := unit?_of_cut before (piece ++ after)
      rw [← hsource] at hunit
      rw [pieceEntries?, if_neg hne, hunit, hlater]
      rfl
    · rw [parts_cons_of_ne_nil hne]
      exact .cons ⟨shows, rfl, rfl⟩ drawn.shows

theorem exists_pieceEntries (paint modifiers : Nat) (hsource : source = before ++ (text ++ after)) :
    ∃ entries, pieceEntries? (lines source) paint modifiers (before.count '\n')
        (lastLine before).length (lines text) = some entries ∧
      Drawn source paint modifiers before.length (before.length + text.length) (parts (lines text))
        entries := by
  induction text using lines_induction generalizing before with
  | last line h =>
    rw [lines_of_notMem h]
    exact exists_pieceEntries_cons hsource h rfl ⟨.nil (Nat.le_refl _), .nil⟩
  | more line text h ih =>
    -- The lines after the first one start at a line feed, so their column is zero.
    have hnext : source = (before ++ (line ++ ['\n'])) ++ (text ++ after) := by
      rw [hsource]
      simp
    obtain ⟨later, hlater, drawn⟩ := ih hnext
    have hcount : (before ++ (line ++ ['\n'])).count '\n' = before.count '\n' + 1 := by
      simp [List.count_eq_zero.mpr h]
    have hlast : lastLine (before ++ (line ++ ['\n'])) = [] := by
      rw [← List.append_assoc, lastLine_append_newline]
      rfl
    have hlength : (before ++ (line ++ ['\n'])).length = before.length + line.length + 1 := by
      simp only [List.length_append, List.length_singleton]
      omega
    have hend : (before ++ (line ++ ['\n'])).length + text.length =
        before.length + (line ++ '\n' :: text).length := by
      simp only [List.length_append, List.length_cons, List.length_nil]
      omega
    have hpiece : source = before ++ (line ++ ('\n' :: text ++ after)) := by
      rw [hsource, List.append_assoc]
    rw [hcount, hlast] at hlater
    rw [hend] at drawn
    rw [lines_append_newline h]
    exact exists_pieceEntries_cons hpiece h hlater ⟨drawn.along.of_le (by omega), drawn.shows⟩

/-! ## Tokens in a row -/

variable {token : Token} {tokens : List Token}

theorem exists_tokenEntries (hsource : source = before ++ (token.text ++ after))
    (hstart : token.start = Position.start.after before) :
    ∃ entries, tokenEntries? (lines source) token = some entries ∧
      Along source before.length entries (before.length + token.text.length) ∧
      List.Forall₂ (Paints source) (tokenPieces token) entries := by
  cases hstyle : style? token.kind with
  | none =>
    refine ⟨[], ?_, .nil (Nat.le_add_right _ _), ?_⟩
    · rw [tokenEntries?, hstyle]
    · rw [tokenPieces, hstyle]
      exact .nil
  | some style =>
    obtain ⟨paint, modifiers⟩ := style
    obtain ⟨entries, hentries, drawn⟩ :=
      exists_pieceEntries paint.index (Modifier.bits modifiers) hsource
    refine ⟨entries, ?_, drawn.along, ?_⟩
    · rw [tokenEntries?, hstyle, hstart, Position.start_after, Nat.add_sub_cancel_left]
      exact hentries
    · rw [tokenPieces, hstyle]
      refine List.forall₂_map_left_iff.mpr (drawn.shows.imp fun part entry h => ?_)
      exact ⟨h.1, paint, modifiers, hstyle, h.2.1, h.2.2⟩

/-- The tokens stand in a text one after another, right after the text `before`. -/
def Placed (before : List Char) (tokens : List Token) : Prop :=
  ∀ pre token post, tokens = pre ++ token :: post →
    token.start = Position.start.after (before ++ Token.texts pre)

theorem Placed.left {others : List Token} (h : Placed before (tokens ++ others)) :
    Placed before tokens := by
  intro pre token post hcut
  refine h pre token (post ++ others) ?_
  rw [hcut, List.append_assoc, List.cons_append]

theorem Placed.right {others : List Token} (h : Placed before (tokens ++ others)) :
    Placed (before ++ Token.texts tokens) others := by
  intro pre token post hcut
  have hstart := h (tokens ++ pre) token post (by rw [hcut, List.append_assoc])
  rw [hstart, Token.texts, List.flatMap_append, ← List.append_assoc]
  rfl

theorem Placed.tail (h : Placed before (token :: tokens)) :
    Placed (before ++ token.text) tokens := by
  have hright : Placed (before ++ Token.texts [token]) tokens := Placed.right h
  rwa [Token.texts, List.flatMap_singleton] at hright

theorem exists_entries (hsource : source = before ++ (Token.texts tokens ++ after))
    (hplaced : Placed before tokens) :
    ∃ entries, entries? (lines source) tokens = some entries ∧
      Along source before.length entries (before.length + (Token.texts tokens).length) ∧
      List.Forall₂ (Paints source) (pieces tokens) entries := by
  induction tokens generalizing before with
  | nil => exact ⟨[], rfl, .nil (Nat.le_refl _), .nil⟩
  | cons token tokens ih =>
    have htexts : Token.texts (token :: tokens) = token.text ++ Token.texts tokens :=
      List.flatMap_cons
    rw [htexts] at hsource ⊢
    have hfirst : source = before ++ (token.text ++ (Token.texts tokens ++ after)) := by
      rw [hsource, List.append_assoc]
    have hrest : source = (before ++ token.text) ++ (Token.texts tokens ++ after) := by
      rw [hfirst, List.append_assoc]
    have hstart : token.start = Position.start.after before :=
      (hplaced [] token tokens rfl).trans (by rw [Token.texts, List.flatMap_nil, List.append_nil])
    obtain ⟨first, hfirst, along, paints⟩ := exists_tokenEntries hfirst hstart
    obtain ⟨later, hlater, along', paints'⟩ := ih hrest hplaced.tail
    refine ⟨first ++ later, by rw [entries?, hfirst, hlater]; rfl, ?_, ?_⟩
    · rw [List.length_append] at along' ⊢
      rw [← Nat.add_assoc]
      exact along.append along'
    · exact List.rel_append paints paints'

theorem entries?_append {lines : List (List Char)} {others : List Token} {first later : List Entry}
    (h : entries? lines tokens = some first) (g : entries? lines others = some later) :
    entries? lines (tokens ++ others) = some (first ++ later) := by
  induction tokens generalizing first with
  | nil =>
    obtain rfl : [] = first := Option.some.inj h
    exact g
  | cons token tokens ih =>
    simp only [entries?, Option.bind_eq_bind, Option.bind_eq_some_iff, Option.some.injEq] at h
    obtain ⟨x, hx, y, hy, rfl⟩ := h
    rw [List.cons_append, entries?, hx, ih hy, List.append_assoc]
    rfl

/-! ## The tokens of a source -/

theorem placed_tokenize (source : List Char) : Placed [] (tokenize source) := by
  intro pre token post hcut
  exact (tokenize_cut_text hcut).2.1

/-- The entries of a source lie before a token, in it or after it. -/
theorem exists_entries_around {pre post : List Token}
    (hcut : tokenize source = pre ++ token :: post) :
    ∃ first own later, entries? (lines source) (tokenize source) = some (first ++ (own ++ later)) ∧
      tokenEntries? (lines source) token = some own ∧ Along source 0 first token.start.offset ∧
      Along source token.stop.offset later source.length := by
  obtain ⟨hsource, hstart, hstop⟩ := tokenize_cut_text hcut
  have hplaced := placed_tokenize source
  rw [hcut] at hplaced
  have hpre : source = [] ++ (Token.texts pre ++ (token.text ++ Token.texts post)) := hsource
  have hpost : source = (Token.texts pre ++ token.text) ++ (Token.texts post ++ []) := by
    rw [List.append_nil, List.append_assoc]
    exact hsource
  have hstartOffset : token.start.offset = (Token.texts pre).length := by
    rw [hstart, Position.start_after]
  have hstopOffset : token.stop.offset = (Token.texts pre ++ token.text).length := by
    rw [hstop, Position.start_after]
  have hlength :
      source.length = (Token.texts pre ++ token.text).length + (Token.texts post).length := by
    rw [hpost, List.append_nil, List.length_append]
  obtain ⟨first, hfirst, along, -⟩ := exists_entries hpre hplaced.left
  obtain ⟨own, hown, -, -⟩ := exists_tokenEntries hsource hstart
  obtain ⟨later, hlater, along', -⟩ := exists_entries hpost hplaced.right.tail
  refine ⟨first, own, later, ?_, hown, ?_, ?_⟩
  · have hrest : entries? (lines source) (token :: post) = some (own ++ later) := by
      rw [entries?, hown, hlater]
      rfl
    rw [hcut]
    exact entries?_append hfirst hrest
  · rw [hstartOffset]
    simpa using along
  · rw [hstopOffset, hlength]
    exact along'

theorem exists_highlights (source : List Char) :
    ∃ entries, entries? (lines source) (tokenize source) = some entries ∧
      Along source 0 entries source.length ∧ Highlights source entries := by
  have htexts : Token.texts (tokenize source) = source := texts_tokens (State.initial source)
  have hsource : source = [] ++ (Token.texts (tokenize source) ++ []) := by
    rw [htexts, List.nil_append, List.append_nil]
  obtain ⟨entries, hentries, along, paints⟩ := exists_entries hsource (placed_tokenize source)
  rw [htexts, List.length_nil, Nat.zero_add] at along
  have hlength : ∀ entry ∈ entries, 1 ≤ entry.length := by
    intro entry hmem
    obtain ⟨i, j, -, -, spans⟩ := along.exists_spans hmem
    exact spans.length_pos
  refine ⟨entries, hentries, along, paints, hlength, ?_, ?_, ?_⟩
  · refine along.pairwise.imp_of_mem fun {first second} hfirst _ h => ?_
    have := hlength first hfirst
    simp only [Place.le] at h
    omega
  · refine along.pairwise.imp fun {first second} h => ?_
    simp only [Place.le] at h
    omega
  · intro token htoken hstyle offset hstart hstop entry hmem
    obtain ⟨pre, post, hcut⟩ := List.append_of_mem htoken
    obtain ⟨first, own, later, hall, hown, before, after⟩ := exists_entries_around hcut
    rw [hentries, Option.some.injEq] at hall
    rw [tokenEntries?, hstyle, Option.some.injEq] at hown
    rw [hall, ← hown, List.nil_append, List.mem_append] at hmem
    obtain hmem | hmem := hmem
    · exact before.not_covers (.inl hstart) hmem
    · exact after.not_covers (.inr hstop) hmem

/-- The groups that are sent hold all the numbers. -/
theorem data?_tokenize (source : List Char) :
    data? (lines source) (tokenize source) =
      some ((encode (tokenize source)).flatMap Delta.numbers) := by
  obtain ⟨entries, hentries, along, -⟩ := exists_highlights source
  have hdata : data? (lines source) (tokenize source) = some (numbers ⟨0, 0⟩ entries) := by
    rw [data?, hentries, Option.map_some]
  have hencode : encode (tokenize source) = Delta.group (numbers ⟨0, 0⟩ entries) := by
    rw [encode, show Token.texts (tokenize source) = source from texts_tokens _, hdata]
    rfl
  rw [hdata, hencode, (along.group_numbers (Place.le_refl ⟨0, 0⟩)).2]

end ScadText.Highlight
