import ScadText.Text.Quoted
import ScadText.Token.Basic
import ScadText.Unicode.Printable

/-!
# Listings of tokens

A listing has one line for each token: its two ends, its kind and its quoted text, the first two
padded to columns.
-/

namespace ScadText

/-- A place as line and column. -/
def Position.render (p : Position) : List Char :=
  Nat.toDigits 10 p.line ++ ':' :: Nat.toDigits 10 p.column

/-- A line of a listing, its line feed included. -/
def Token.listing (printable : Char → Bool) (token : Token) : List Char :=
  (token.start.render ++ '-' :: token.stop.render).rightpad 16 ' ' ++
    ' ' :: token.kind.name.toList.rightpad 22 ' ' ++
    ' ' :: Text.quote printable token.text ++ ['\n']

/-- The listing of several tokens. -/
def dump (printable : Char → Bool) (tokens : List Token) : List Char :=
  tokens.flatMap (Token.listing printable)

/-- The listing as it is shown, with the printable characters of Unicode. -/
def dumpText (tokens : List Token) : String := String.ofList (dump Unicode.isPrintable tokens)

end ScadText
