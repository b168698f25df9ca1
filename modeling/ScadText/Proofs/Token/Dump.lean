import ScadText.Proofs.Lexer.Tiling
import ScadText.Proofs.Text.Decimal
import ScadText.Proofs.Text.Lines
import ScadText.Proofs.Text.Quoted
import ScadText.Proofs.Text.Span
import ScadText.Proofs.Text.Unquote
import ScadText.Token.Dump

/-!
# Reading listings of tokens

A listing has one line for each token, and the line tells the token but for its offsets. The columns
of a line are as wide as what stands in them, so a line is read word by word: no place and no name
of a kind holds a blank, and the quoted text starts with a quote mark.

## Main definitions

* `Listed`: what a line tells of a token.
* `readRow?`: reading a line.

## Main statements

* `readRow?_row`: every line tells its token.
* `listed_of_dump_eq`: two listings that are the same tell the same of the tokens.
* `readRow?_dumpText`, `dumpText_injective`: the listing as it is shown tells the tokens and the
  source.
* `dump_lossless`: a listing tells the tokens and the source.
-/

namespace ScadText

/-- What a line of a listing tells of a token. -/
structure Listed where
  startLine : Nat
  startColumn : Nat
  stopLine : Nat
  stopColumn : Nat
  kind : TokenKind
  text : List Char
  deriving DecidableEq, Repr

def Token.listed (token : Token) : Listed :=
  ⟨token.start.line, token.start.column, token.stop.line, token.stop.column, token.kind, token.text⟩

/-! ## Reading a line -/

/-- What stands before and after the first occurrence of a character. -/
def splitFirst? (c : Char) (text : List Char) : Option (List Char × List Char) :=
  match text.dropWhile (· != c) with
  | [] => none
  | _ :: rest => some (text.takeWhile (· != c), rest)

/-- The first word, and what comes after the blanks behind it. -/
def splitWord (text : List Char) : List Char × List Char :=
  (text.takeWhile (· != ' '), (text.dropWhile (· != ' ')).dropWhile (· == ' '))

/-- A line and a column. -/
def readPlace? (text : List Char) : Option (Nat × Nat) := do
  let (line, column) ← splitFirst? ':' text
  return (← Text.readNat? line, ← Text.readNat? column)

/-- The kind with a given name. -/
def TokenKind.ofName? (name : List Char) : Option TokenKind := all.find? (·.name.toList == name)

/-- What a line of a listing tells, which is given without its line feed. -/
def readRow? (row : List Char) : Option Listed := do
  let (range, rest) := splitWord row
  let (name, quoted) := splitWord rest
  let (start, stop) ← splitFirst? '-' range
  let (startLine, startColumn) ← readPlace? start
  let (stopLine, stopColumn) ← readPlace? stop
  return ⟨startLine, startColumn, stopLine, stopColumn, ← TokenKind.ofName? name,
    ← Text.unquote? quoted⟩

/-! ## Lines of a listing -/

/-- The range of a token in a listing. -/
def Token.range (token : Token) : List Char := token.start.render ++ '-' :: token.stop.render

/-- The line of a token in a listing, without its line feed. -/
def Token.row (printable : Char → Bool) (token : Token) : List Char :=
  token.range ++ (List.replicate (16 - token.range.length) ' ' ++ ' ' ::
    (token.kind.name.toList ++ (List.replicate (22 - token.kind.name.toList.length) ' ' ++ ' ' ::
      Text.quote printable token.text)))

variable {c : Char} {s word rest : List Char} {printable : Char → Bool}

theorem splitFirst?_append (h : c ∉ s) (t : List Char) :
    splitFirst? c (s ++ c :: t) = some (s, t) := by
  have hs : ∀ d ∈ s, (d != c) = true := by grind
  have hstop : ∀ d ∈ (c :: t).head?, (d != c) = false := by simp
  rw [splitFirst?, Text.dropWhile_append_of_stop hs hstop, Text.takeWhile_append_of_stop hs hstop]

theorem splitWord_append (h : ' ' ∉ word) (hrest : ∀ c ∈ rest.head?, c ≠ ' ') (n : Nat) :
    splitWord (word ++ (List.replicate n ' ' ++ ' ' :: rest)) = (word, rest) := by
  have hword : ∀ d ∈ word, (d != ' ') = true := by grind
  have hblanks : List.replicate n ' ' ++ ' ' :: rest = List.replicate (n + 1) ' ' ++ rest := by
    rw [List.replicate_succ', List.append_assoc, List.singleton_append]
  have hstop : ∀ d ∈ (List.replicate (n + 1) ' ' ++ rest).head?, (d != ' ') = false := by
    simp [List.replicate_succ]
  rw [splitWord, hblanks, Text.takeWhile_append_of_stop hword hstop,
    Text.dropWhile_append_of_stop hword hstop,
    Text.dropWhile_append_of_stop (by simp) (by simpa using hrest)]

theorem readPlace?_render (p : Position) : readPlace? p.render = some (p.line, p.column) := by
  have hcolon : ':' ∉ Nat.toDigits 10 p.line := Text.notMem_toDigits (by decide) p.line
  simp [readPlace?, Position.render, splitFirst?_append hcolon, Text.readNat?_toDigits]

theorem ofName?_name (kind : TokenKind) : TokenKind.ofName? kind.name.toList = some kind := by
  cases kind <;> decide

/-- No place holds a character other than digits and a colon. -/
theorem notMem_render (hdigit : c.isDigit = false) (hcolon : c ≠ ':') (p : Position) :
    c ∉ p.render := by
  simp [Position.render, Text.notMem_toDigits hdigit, hcolon]

theorem notMem_range (hdigit : c.isDigit = false) (hcolon : c ≠ ':') (hminus : c ≠ '-')
    (token : Token) : c ∉ token.range := by
  simp [Token.range, notMem_render hdigit hcolon, hminus]

/-- Every line tells its token. -/
theorem readRow?_row (printable : Char → Bool) (token : Token) :
    readRow? (token.row printable) = some token.listed := by
  have hrange : ' ' ∉ token.range := notMem_range (by decide) (by decide) (by decide) token
  have hname : ' ' ∉ token.kind.name.toList := by cases token.kind <;> decide
  have hhead : ∀ (rest : List Char), ∀ c ∈ (token.kind.name.toList ++ rest).head?, c ≠ ' ' := by
    cases token.kind <;> simp [TokenKind.name]
  have hquote : ∀ c ∈ (Text.quote printable token.text).head?, c ≠ ' ' := by
    grind [Text.quote, Text.quoteMark]
  have hdash : '-' ∉ token.start.render := notMem_render (by decide) (by decide) token.start
  rw [readRow?, Token.row, splitWord_append hrange (hhead _)]
  dsimp only
  rw [splitWord_append hname hquote]
  simp [Token.range, splitFirst?_append hdash, readPlace?_render, ofName?_name,
    Text.unquote?_quote, Token.listed]

theorem newline_notMem_row (printable : Char → Bool) (token : Token) :
    '\n' ∉ token.row printable := by
  have hrange : '\n' ∉ token.range := notMem_range (by decide) (by decide) (by decide) token
  have hname : '\n' ∉ token.kind.name.toList := by cases token.kind <;> decide
  simp [Token.row, hrange, hname, Text.newline_notMem_quote]

theorem listing_eq_row (printable : Char → Bool) (token : Token) :
    token.listing printable = token.row printable ++ ['\n'] := by
  simp [Token.listing, Token.row, Token.range, List.rightpad]

/-- The lines of a listing. -/
theorem lines_dump (printable : Char → Bool) (tokens : List Token) :
    Text.lines (dump printable tokens) = tokens.map (Token.row printable) ++ [[]] := by
  induction tokens with
  | nil => rfl
  | cons token tokens ih =>
    have hlines := Text.lines_append_newline (newline_notMem_row printable token)
      (dump printable tokens)
    rw [List.map_cons, List.cons_append, ← ih, ← hlines, dump, List.flatMap_cons, listing_eq_row]
    simp [dump]

theorem texts_listed (source : List Char) :
    ((tokenize source).map Token.listed).flatMap Listed.text = source := by
  have htexts : Token.texts (tokenize source) = source :=
    Lexer.texts_tokens (Lexer.State.initial source)
  rw [List.flatMap_map]
  exact htexts

/-- Two listings are the same only if they tell the same of the tokens. -/
theorem listed_of_dump_eq {other : Char → Bool} {tokens others : List Token}
    (h : dump printable tokens = dump other others) :
    tokens.map Token.listed = others.map Token.listed := by
  have hrows : tokens.map (Token.row printable) = others.map (Token.row other) := by
    apply List.append_cancel_right
    rw [← lines_dump, ← lines_dump, h]
  have hread := congrArg (List.map readRow?) hrows
  simp only [List.map_map, Function.comp_def, readRow?_row] at hread
  apply List.map_injective_iff.mpr (Option.some_injective Listed)
  simpa only [List.map_map, Function.comp_def] using hread

/-- A listing is lossless. It has one line for each token, each ended by a line feed, and each line
tells its token: where the token starts and stops, its kind and its text. So the texts that the
lines tell make the source, and two sources with the same listing are the same. -/
theorem dump_lossless :
    (∀ (printable : Char → Bool) (source : List Char),
      (∃ rows : List (List Char),
        dump printable (tokenize source) = rows.flatMap (· ++ ['\n']) ∧
        (∀ row ∈ rows, '\n' ∉ row) ∧
        rows.map readRow? = (tokenize source).map (some ·.listed)) ∧
      ((tokenize source).map Token.listed).flatMap Listed.text = source) ∧
    ∀ (printable other : Char → Bool) (source text : List Char),
      dump printable (tokenize source) = dump other (tokenize text) → source = text := by
  refine ⟨fun printable source => ⟨?_, texts_listed source⟩, ?_⟩
  · refine ⟨(tokenize source).map (Token.row printable), ?_, ?_, ?_⟩
    · rw [dump, List.flatMap_map, funext (listing_eq_row printable)]
    · simp [newline_notMem_row]
    · simp [readRow?_row]
  · intro printable other source text h
    rw [← texts_listed source, listed_of_dump_eq h, texts_listed]

/-! ## The listing as it is shown -/

theorem toList_dumpText (tokens : List Token) :
    (dumpText tokens).toList = dump Unicode.isPrintable tokens :=
  String.toList_ofList

/-- The lines that are shown tell the tokens, one for each, and the last one is ended. -/
theorem readRow?_dumpText (tokens : List Token) :
    ∃ rows, Text.lines (dumpText tokens).toList = rows ++ [[]] ∧
      rows.map readRow? = tokens.map (some ·.listed) := by
  refine ⟨tokens.map (Token.row Unicode.isPrintable), ?_, ?_⟩
  · rw [toList_dumpText, lines_dump]
  · simp [readRow?_row]

/-- Sources that are shown by the same listing are the same. -/
theorem dumpText_injective : Function.Injective fun source => dumpText (tokenize source) := by
  intro source text h
  have hdump := congrArg String.toList h
  simp only [toList_dumpText] at hdump
  rw [← texts_listed source, listed_of_dump_eq hdump, texts_listed]

/-- A listing is empty or ends a line. -/
theorem getLast?_dumpText (tokens : List Token) :
    ∀ c ∈ (dumpText tokens).toList.getLast?, c = '\n' := by
  rw [toList_dumpText]
  obtain rfl | ⟨init, last, rfl⟩ := List.eq_nil_or_concat tokens
  · simp [dump]
  · rw [List.concat_eq_append, dump, List.flatMap_append, List.flatMap_singleton, Token.listing,
      ← List.append_assoc, List.getLast?_concat]
    simp

end ScadText
