/-!
# Tokens and their place in a source text

A text is a list of characters. A position names a place between two of its characters, and a
token is a stretch of the text together with its kind and the positions of its two ends.

## Main definitions

* `TokenKind`: what a token is for the reader of a source, with its written name.
* `Position`, `Position.after`: places, and the place reached by reading a text.
* `Token`: a kind, the exact text, and both ends.
-/

namespace ScadText

/-- The kinds of token; each character of a source falls into a token of exactly one kind. A
`bracket` is also a lone angle bracket, a `string` token holds a quote or literal text of a closed
string, and `text` is what starts no lexeme or a run of symbols without a meaning. -/
inductive TokenKind where
  | keyword | builtin | identifier | typeIdentifier | specialVariable
  | number | numberFloat | numberHex
  | operator | delimiter | bracket
  | string | stringEscape | stringEscapeInvalid | stringInvalid
  | comment | whitespace | text
  deriving DecidableEq, Repr

namespace TokenKind

/-- All kinds, in the order of their declaration. -/
def all : List TokenKind :=
  [.keyword, .builtin, .identifier, .typeIdentifier, .specialVariable, .number, .numberFloat,
    .numberHex, .operator, .delimiter, .bracket, .string, .stringEscape, .stringEscapeInvalid,
    .stringInvalid, .comment, .whitespace, .text]

theorem mem_all (k : TokenKind) : k ∈ all := by cases k <;> decide

/-- The name of a kind in listings. -/
def name : TokenKind → String
  | .keyword => "KEYWORD"
  | .builtin => "BUILTIN"
  | .identifier => "IDENTIFIER"
  | .typeIdentifier => "TYPE_IDENTIFIER"
  | .specialVariable => "SPECIAL_VARIABLE"
  | .number => "NUMBER"
  | .numberFloat => "NUMBER_FLOAT"
  | .numberHex => "NUMBER_HEX"
  | .operator => "OPERATOR"
  | .delimiter => "DELIMITER"
  | .bracket => "BRACKET"
  | .string => "STRING"
  | .stringEscape => "STRING_ESCAPE"
  | .stringEscapeInvalid => "STRING_ESCAPE_INVALID"
  | .stringInvalid => "STRING_INVALID"
  | .comment => "COMMENT"
  | .whitespace => "WHITESPACE"
  | .text => "TEXT"

theorem name_injective {a b : TokenKind} (h : a.name = b.name) : a = b := by
  have separated : ∀ a ∈ all, ∀ b ∈ all, a.name = b.name → a = b := by decide
  exact separated a (mem_all a) b (mem_all b) h

end TokenKind

/-- A place in a text: line and column count from one, the offset counts characters from zero. -/
structure Position where
  line : Nat
  column : Nat
  offset : Nat
  deriving DecidableEq, Repr

namespace Position

/-- The place before the first character. -/
def start : Position := ⟨1, 1, 0⟩

/-- The place after one more character. Only a line feed starts a new line; every other character,
a carriage return included, takes one column. -/
def advance (p : Position) (c : Char) : Position :=
  if c = '\n' then ⟨p.line + 1, 1, p.offset + 1⟩ else ⟨p.line, p.column + 1, p.offset + 1⟩

/-- The place reached from `p` by reading `text`. -/
def after (p : Position) (text : List Char) : Position := text.foldl advance p

@[simp] theorem after_nil (p : Position) : p.after [] = p := rfl

@[simp] theorem after_cons (p : Position) (c : Char) (text : List Char) :
    p.after (c :: text) = (p.advance c).after text := rfl

theorem after_append (p : Position) (s t : List Char) : p.after (s ++ t) = (p.after s).after t := by
  simp [after, List.foldl_append]

@[simp] theorem offset_advance (p : Position) (c : Char) :
    (p.advance c).offset = p.offset + 1 := by
  unfold advance; split <;> rfl

/-- Reading a text moves the offset by its length. -/
theorem offset_after (p : Position) (text : List Char) :
    (p.after text).offset = p.offset + text.length := by
  induction text generalizing p with
  | nil => rfl
  | cons c text ih => simp [ih]; omega

end Position

/-- A stretch of a source text: its kind, its exact characters and its two ends. -/
structure Token where
  kind : TokenKind
  text : List Char
  start : Position
  stop : Position
  deriving DecidableEq, Repr

/-- The text which tokens hold together. -/
def Token.texts (tokens : List Token) : List Char := tokens.flatMap Token.text

@[simp] theorem Token.texts_nil : texts [] = [] := rfl

@[simp] theorem Token.texts_cons (token : Token) (tokens : List Token) :
    texts (token :: tokens) = token.text ++ texts tokens := rfl

end ScadText
