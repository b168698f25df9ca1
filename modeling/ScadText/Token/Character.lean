/-!
# Character classes of the lexer

All of them hold of ASCII characters only: a letter or digit outside ASCII starts no lexeme.
-/

namespace ScadText

/-- Starts a lower-case word. -/
def isWordStart (c : Char) : Bool := c.isLower || c == '_' || c == '$'

/-- Starts a capitalised word. -/
def isTypeStart (c : Char) : Bool := c.isUpper

/-- Continues a word of either sort. -/
def isWordChar (c : Char) : Bool := c.isAlphanum || c == '_' || c == '$'

/-- A decimal digit. -/
def isDigit (c : Char) : Bool := c.isDigit

/-- A digit in base sixteen, in either case. -/
def isHexDigit (c : Char) : Bool :=
  c.isDigit || ('a' ≤ c && c ≤ 'f') || ('A' ≤ c && c ≤ 'F')

/-- A character of a blank run. -/
def isBlank (c : Char) : Bool := c == ' ' || c == '\t' || c == '\r' || c == '\n'

/-- Ends a line comment and an unclosed string. -/
def isLineBreak (c : Char) : Bool := c == '\r' || c == '\n'

/-- One of the six brackets that always are brackets. -/
def isBracket (c : Char) : Bool := ['{', '}', '(', ')', '[', ']'].contains c

/-- A semicolon, comma or point. -/
def isDelimiter (c : Char) : Bool := c == ';' || c == ',' || c == '.'

/-- The classes in the order in which listings show them. -/
def characterClasses : List (Char → Bool) :=
  [isWordStart, isTypeStart, isWordChar, isDigit, isHexDigit, isBlank, isBracket, isDelimiter]

/-- Which classes hold of a character; none holds where there is no character. -/
def classify (c : Option Char) : List Bool := characterClasses.map c.any

theorem isBlank_of_isLineBreak {c : Char} (h : isLineBreak c = true) : isBlank c = true := by
  simp only [isLineBreak, isBlank, Bool.or_eq_true] at *
  grind

theorem isWordChar_of_isWordStart {c : Char} (h : isWordStart c = true) : isWordChar c = true := by
  have hc : c.isAlphanum = (c.isUpper || c.isLower || c.isDigit) := rfl
  simp only [isWordStart, isWordChar, hc, Bool.or_eq_true] at *
  grind

theorem isHexDigit_of_isDigit {c : Char} (h : isDigit c = true) : isHexDigit c = true := by
  simp only [isDigit, isHexDigit, Bool.or_eq_true] at *
  exact .inl (.inl h)

end ScadText
