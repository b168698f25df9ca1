import ScadText.Text.Hexadecimal

/-!
# Texts in quotes

A quoted text stands on one line whatever it holds. Which characters are printable is a parameter.

## Main definitions

* `quoteMark`: an apostrophe, or a double quote where that saves an escape.
* `escape`: one character between the quotes.
* `quote`: the whole text.
-/

namespace ScadText.Text

/-- Texts stand in apostrophes, save those that hold an apostrophe and no double quote. -/
def quoteMark (text : List Char) : Char :=
  if text.contains '\x27' && !text.contains '"' then '"' else '\x27'

/-- A character written by its code point, in the shortest of three widths that holds it. -/
def codePointEscape (c : Char) : List Char :=
  let n := c.toNat
  if n < 0x100 then '\\' :: 'x' :: hexDigits 2 n
  else if n < 0x10000 then '\\' :: 'u' :: hexDigits 4 n
  else '\\' :: 'U' :: hexDigits 8 n

/-- A character between quotes: the quote and the backslash stand after a backslash, three controls
have letters of their own, and the rest that is not printable is written by its code point. -/
def escape (printable : Char → Bool) (mark c : Char) : List Char :=
  if c = mark || c = '\\' then ['\\', c]
  else if c = '\n' then ['\\', 'n']
  else if c = '\r' then ['\\', 'r']
  else if c = '\t' then ['\\', 't']
  else if printable c then [c]
  else codePointEscape c

/-- The text in quotes. -/
def quote (printable : Char → Bool) (text : List Char) : List Char :=
  let mark := quoteMark text
  mark :: text.flatMap (escape printable mark) ++ [mark]

end ScadText.Text
