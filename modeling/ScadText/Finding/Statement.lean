import ScadText.Finding.Basic
import ScadText.Text.Trim
import ScadText.Token.Character
import ScadText.Vocabulary

/-!
# Statements without a terminator

A line is judged by its shape alone, after the blanks at its ends are removed. One that looks like
an assignment or a call, is no comment, and ends in none of the characters that close a statement
should have a semicolon.

## Main definitions

* `isCommentLine`, `mayOmitTerminator`, `looksLikeStatement`: the three judgements.
* `missingSemicolon?`: the finding, placed on the last character of the whole line.
-/

namespace ScadText.Statement

/-- Blanks of ASCII, line separators, the space separators of Unicode, and the byte order mark. -/
def trimmedChars : List Char :=
  [' ', '\t', '\n', '\x0b', '\x0c', '\r', '\u00a0', '\u1680', '\u2000', '\u2001', '\u2002',
    '\u2003', '\u2004', '\u2005', '\u2006', '\u2007', '\u2008', '\u2009', '\u200a', '\u2028',
    '\u2029', '\u202f', '\u205f', '\u3000', '\ufeff']

def trimLine (line : List Char) : List Char := Text.trim trimmedChars.contains line

def isCommentLine (trimmed : List Char) : Bool :=
  ['/', '/'].isPrefixOf trimmed || ['/', '*'].isPrefixOf trimmed

/-- An empty line, one that ends a statement, block or comment, or one whose first letters are
those of a block keyword, whatever follows them. -/
def mayOmitTerminator (trimmed : List Char) : Bool :=
  trimmed.isEmpty ||
    [[';'], ['{'], ['}'], ['*', '/']].any (List.isSuffixOf · trimmed) ||
    Vocabulary.blockKeywords.any fun word => word.toList.isPrefixOf trimmed

/-- Blanks of ASCII. -/
def isSpace (c : Char) : Bool := [' ', '\t', '\n', '\r', '\x0b', '\x0c'].contains c

/-- What follows a name at the front, and the blanks after the name. -/
def afterName? : List Char → Option (List Char)
  | [] => none
  | c :: cs =>
    if isWordStart c || isTypeStart c then some ((cs.dropWhile isWordChar).dropWhile isSpace)
    else none

/-- A name, then an equals sign or an opening parenthesis. -/
def looksLikeStatement (trimmed : List Char) : Bool :=
  (afterName? trimmed).any fun rest => rest.head? == some '=' || rest.head? == some '('

/-- Whether a line lacks its terminator. -/
def lacksTerminator (line : List Char) : Bool :=
  let trimmed := trimLine line
  !isCommentLine trimmed && !mayOmitTerminator trimmed && looksLikeStatement trimmed

/-- The finding of a line that lacks its terminator. -/
def missingSemicolon? (line : List Char) (number : Int) : Option Finding :=
  if lacksTerminator line then
    some
      { severity := .warning
        code := Rule.missingSemicolon.code
        message := "Missing semicolon"
        line := number
        column := line.length
        endLine := number
        endColumn := line.length + 1 }
  else none

end ScadText.Statement
