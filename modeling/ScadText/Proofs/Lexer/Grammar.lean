import Mathlib.Data.Char
import Mathlib.Order.Interval.Set.Defs
import ScadText.Proofs.Lexer.Rule

/-!
# The lexical grammar

The rules between lexemes and inside a string, in the order in which they are tried, with their
words as regular languages. Block comments nest and are the one language that is not regular.

## Main definitions

* `StringBody`: what may stand between the quotes of a string that is closed on its line.
* `GivesUp`: where the search for the closing quote ends without one.
* `ClosesAt`: the rest of a block comment from some level on.
* `Grammar.rootRules`, `Grammar.stringRules`: the two lists of rules.
-/

namespace ScadText.Lexer

/-- What may stand between the quotes of a string: no quote, backslash or line break, except that a
backslash hides the character after it, which is no line break either. -/
inductive StringBody : List Char → Prop where
  | nil : StringBody []
  | plain {c : Char} {cs : List Char} (quote : c ≠ '"') (backslash : c ≠ '\\')
      (stays : isLineBreak c = false) (body : StringBody cs) : StringBody (c :: cs)
  | hidden {c : Char} {cs : List Char} (stays : isLineBreak c = false) (body : StringBody cs) :
      StringBody ('\\' :: c :: cs)

/-- What comes after a string body where no quote does: the end of the text, the end of the line, or
a backslash in front of either. -/
inductive GivesUp : List Char → Prop where
  | atEnd : GivesUp []
  | atLineBreak {c : Char} {cs : List Char} (breaks : isLineBreak c = true) : GivesUp (c :: cs)
  | backslash {cs : List Char} (breaks : ∀ c ∈ cs.head?, isLineBreak c = true) :
      GivesUp ('\\' :: cs)

/-- The text `w` is read inside a block comment at a level, and ends with the closer of the
outermost level. Openers and closers are read from left to right without overlap. -/
inductive ClosesAt : Nat → List Char → Prop where
  | done : ClosesAt 1 ['*', '/']
  | closer {level : Nat} {w : List Char} (inner : ClosesAt (level + 1) w) :
      ClosesAt (level + 2) ('*' :: '/' :: w)
  | opener {level : Nat} {w : List Char} (inner : ClosesAt (level + 1) w) :
      ClosesAt level ('/' :: '*' :: w)
  | other {level : Nat} {c : Char} {w : List Char} (opens : ∀ v, c :: w ≠ '/' :: '*' :: v)
      (closes : ∀ v, c :: w ≠ '*' :: '/' :: v) (inner : ClosesAt level w) : ClosesAt level (c :: w)

namespace Grammar

open scoped Computability

/-! ## Classes of characters -/

def lower : Set Char := Set.Icc 'a' 'z'

def upper : Set Char := Set.Icc 'A' 'Z'

def digit : Set Char := Set.Icc '0' '9'

def hexDigit : Set Char := digit ∪ Set.Icc 'a' 'f' ∪ Set.Icc 'A' 'F'

def wordStart : Set Char := lower ∪ {'_', '$'}

def wordChar : Set Char := upper ∪ lower ∪ digit ∪ {'_', '$'}

def blank : Set Char := {' ', '\t', '\r', '\n'}

def lineBreak : Set Char := {'\r', '\n'}

def symbol : Set Char :=
  {'=', '>', '<', '!', '~', '?', ':', '&', '|', '+', '-', '*', '/', '^', '%'}

/-- The letters that are an escape on their own. -/
def escapeLetter : Set Char := {'a', 'b', 'f', 'n', 'r', 't', 'v', '\\', '"', '\x27'}

/-! ## Between lexemes -/

def digits : Language Char := one digit * (one digit)∗

def exponent : Language Char := one {'e', 'E'} * (1 + one {'+', '-'}) * digits

def word : LexRule where
  lexemes := one wordStart * (one wordChar)∗
  kind := wordKind

def typeWord : LexRule where
  lexemes := one upper * (one wordChar)∗
  kind _ := .typeIdentifier

def blanks : LexRule where
  lexemes := one blank * (one blank)∗
  kind _ := .whitespace

def blockComment : LexRule where
  lexemes := {w | ∃ v, w = '/' :: '*' :: v ∧ ClosesAt 1 v}
  kind _ := .comment

/-- A block comment that is not closed takes all the text that is left. -/
def openComment : LexRule where
  lexemes := one {'/'} * one {'*'} * (one Set.univ)∗
  kind _ := .comment

def lineComment : LexRule where
  lexemes := one {'/'} * one {'/'} * (one lineBreakᶜ)∗
  kind _ := .comment

def bracket : LexRule where
  lexemes := one {'{', '}', '(', ')', '[', ']'}
  kind _ := .bracket

/-- An angle bracket is a bracket where no symbol comes after it. -/
def angle : LexRule where
  lexemes := one {'<', '>'}
  follow := {rest | ∀ c ∈ rest.head?, c ∉ symbol}
  kind _ := .bracket

def symbols : LexRule where
  lexemes := one symbol * (one symbol)∗
  kind := symbolKind

def float : LexRule where
  lexemes := (one digit)∗ * one {'.'} * digits * (1 + exponent)
  kind _ := .numberFloat

def hexadecimal : LexRule where
  lexemes := one {'0'} * one {'x', 'X'} * one hexDigit * (one hexDigit)∗
  kind _ := .numberHex

def integer : LexRule where
  lexemes := digits
  kind _ := .number

def delimiter : LexRule where
  lexemes := one {';', ',', '.'}
  kind _ := .delimiter

/-- A quote opens a string if the string is closed on its line. -/
def openQuote : LexRule where
  lexemes := one {'"'}
  follow := {rest | ∃ body after, rest = body ++ '"' :: after ∧ StringBody body}
  kind _ := .string
  next := .string

def unclosedString : LexRule where
  lexemes := one {'"'} * (one lineBreakᶜ)∗
  kind _ := .stringInvalid

def other : LexRule where
  lexemes := one Set.univ
  kind _ := .text

/-- The rules between lexemes. -/
def rootRules : List LexRule :=
  [word, typeWord, blanks, blockComment, openComment, lineComment, bracket, angle, symbols, float,
    hexadecimal, integer, delimiter, openQuote, unclosedString, other]

/-! ## Inside a string -/

def closeQuote : LexRule where
  lexemes := one {'"'}
  kind _ := .string

def escape : LexRule where
  lexemes :=
    one {'\\'} *
      (one escapeLetter +
        one {'x'} * (one hexDigit ^ 1 + one hexDigit ^ 2 + one hexDigit ^ 3 + one hexDigit ^ 4) +
        one {'u'} * one hexDigit ^ 4 + one {'U'} * one hexDigit ^ 8)
  kind _ := .stringEscape
  next := .string

/-- A backslash that starts no escape is taken with the one character after it. -/
def brokenEscape : LexRule where
  lexemes := one {'\\'} * one Set.univ
  kind _ := .stringEscapeInvalid
  next := .string

def literal : LexRule where
  lexemes := one {'"', '\\'}ᶜ * (one {'"', '\\'}ᶜ)∗
  kind _ := .string
  next := .string

/-- The rules for what stands between the quotes of a string. -/
def bodyRules : List LexRule := [escape, brokenEscape, literal]

/-- The rules inside a string. -/
def stringRules : List LexRule := closeQuote :: bodyRules

end Grammar

end ScadText.Lexer
