import ScadText.Unicode.Letter
import ScadText.Unicode.Numeral

/-!
# Word characters

A word of natural text is made of letters, numerals and low lines. A word boundary lies where a
word character meets one that is none, or an end of the text.
-/

namespace ScadText.Unicode

def isWordChar (c : Char) : Bool := isLetter c || isNumeral c || c == '_'

/-- A word that ends in front of `rest` is not continued by it. -/
def endsWord (rest : List Char) : Bool := !rest.head?.any isWordChar

end ScadText.Unicode
