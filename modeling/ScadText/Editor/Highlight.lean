import ScadText.Text.Lines
import ScadText.Text.Trim
import ScadText.Text.Utf16
import ScadText.Token.Basic

/-!
# Highlighting for an editor

An editor paints ranges of single lines and counts in UTF-16 code units. Each token of a kind that
is painted is cut at its line breaks, and every piece with something to paint becomes one entry, for
which the line where it stands is looked up. The entries are sent in order as one list of numbers,
each entry placed relative to the one before it.

## Main definitions

* `Paint`, `Modifier`: the legend.
* `Entry`, `entries?`: what is painted, at absolute places.
* `numbers`, `data?`: the numbers that are sent.
* `Delta`, `encode`: the numbers of each entry.
* `Entry.ofDeltas`: the absolute places again.
-/

namespace ScadText.Highlight

/-- The types of the legend in its order. -/
inductive Paint where
  | keyword | function | variableName | type | number | operator | string | comment
  deriving DecidableEq, Repr

namespace Paint

def all : List Paint := [keyword, function, variableName, type, number, operator, string, comment]

def name : Paint → String
  | keyword => "keyword"
  | function => "function"
  | variableName => "variable"
  | type => "type"
  | number => "number"
  | operator => "operator"
  | string => "string"
  | comment => "comment"

/-- The place of a type in the legend. -/
def index (paint : Paint) : Nat := all.idxOf paint

end Paint

/-- The modifiers of the legend in its order. -/
inductive Modifier where
  | defaultLibrary
  deriving DecidableEq, Repr

namespace Modifier

def all : List Modifier := [defaultLibrary]

def name : Modifier → String
  | defaultLibrary => "defaultLibrary"

/-- The bit of a modifier, by its place in the legend. -/
def bit (modifier : Modifier) : Nat := Nat.pow 2 (all.idxOf modifier)

/-- The bits of several modifiers. -/
def bits : List Modifier → Nat
  | [] => 0
  | modifier :: rest => modifier.bit + bits rest

end Modifier

/-- How tokens of a kind are painted; delimiters, brackets, blanks and plain text are not. -/
def style? : TokenKind → Option (Paint × List Modifier)
  | .keyword => some (.keyword, [])
  | .builtin => some (.function, [.defaultLibrary])
  | .identifier => some (.variableName, [])
  | .specialVariable => some (.variableName, [.defaultLibrary])
  | .typeIdentifier => some (.type, [])
  | .number | .numberFloat | .numberHex => some (.number, [])
  | .operator => some (.operator, [])
  | .string | .stringEscape | .stringEscapeInvalid | .stringInvalid => some (.string, [])
  | .comment => some (.comment, [])
  | .delimiter | .bracket | .whitespace | .text => none

/-! ## Entries at absolute places -/

/-- A place in a document: line and code unit, both counted from zero. -/
structure Place where
  line : Nat
  unit : Nat
  deriving DecidableEq, Repr

/-- A painted range of one line: where it starts, its length in code units, its type by the place in
the legend, and the sum of its modifiers' bits. -/
structure Entry where
  place : Place
  length : Nat
  paint : Nat
  modifiers : Nat
  deriving DecidableEq, Repr

/-- How many code units a line has before a column, both counted from zero. There may be no such
line. -/
def unit? (lines : List (List Char)) (line column : Nat) : Option Nat :=
  lines[line]?.map fun text => Text.utf16Length (text.take column)

/-- A piece as it is painted: carriage returns at its end are not. -/
def painted (piece : List Char) : List Char := Text.trimEnd (· == '\r') piece

/-- The pieces of a token's text, the first of which starts at a line and column and each later one
at the start of its line. An empty piece is not painted, and its line is not looked up. -/
def pieceEntries? (lines : List (List Char)) (paint modifiers line column : Nat) :
    List (List Char) → Option (List Entry)
  | [] => some []
  | piece :: rest =>
    if painted piece = [] then pieceEntries? lines paint modifiers (line + 1) 0 rest
    else do
      let unit ← unit? lines line column
      let later ← pieceEntries? lines paint modifiers (line + 1) 0 rest
      some (⟨⟨line, unit⟩, Text.utf16Length (painted piece), paint, modifiers⟩ :: later)

/-- The entries of a token. -/
def tokenEntries? (lines : List (List Char)) (token : Token) : Option (List Entry) :=
  match style? token.kind with
  | none => some []
  | some (paint, modifiers) =>
    pieceEntries? lines paint.index (Modifier.bits modifiers) (token.start.line - 1)
      (token.start.column - 1) (Text.lines token.text)

/-- The entries of the tokens of a document with these lines. -/
def entries? (lines : List (List Char)) : List Token → Option (List Entry)
  | [] => some []
  | token :: rest => do
    let first ← tokenEntries? lines token
    let later ← entries? lines rest
    some (first ++ later)

/-! ## Entries relative to one another -/

/-- The numbers for an entry: the distance in lines from the entry before it, the distance in code
units if both are on one line and else the code unit, the length, the type and the modifiers. -/
def Entry.numbers (previous : Place) (entry : Entry) : List Int :=
  let line : Int := entry.place.line - previous.line
  let unit : Int := if line = 0 then entry.place.unit - previous.unit else entry.place.unit
  [line, unit, entry.length, entry.paint, entry.modifiers]

/-- The numbers for entries, the first of which is relative to `previous`. -/
def numbers (previous : Place) : List Entry → List Int
  | [] => []
  | entry :: rest => entry.numbers previous ++ numbers entry.place rest

/-- The numbers for the tokens of a document with these lines. -/
def data? (lines : List (List Char)) (tokens : List Token) : Option (List Int) :=
  (entries? lines tokens).map (numbers ⟨0, 0⟩)

/-- The numbers of one entry, none of which is negative. -/
structure Delta where
  line : Nat
  unit : Nat
  length : Nat
  paint : Nat
  modifiers : Nat
  deriving DecidableEq, Repr

/-- The numbers in groups of five, one for each entry. -/
def Delta.group : List Int → List Delta
  | line :: unit :: length :: paint :: modifiers :: rest =>
    ⟨line.toNat, unit.toNat, length.toNat, paint.toNat, modifiers.toNat⟩ :: group rest
  | _ => []

/-- What is sent for the tokens of a document. -/
def encode (tokens : List Token) : List Delta :=
  (data? (Text.lines (Token.texts tokens)) tokens).elim [] Delta.group

/-! ## Absolute places again -/

/-- The entry which a distance from `previous` denotes. -/
def Delta.toEntry (previous : Place) (delta : Delta) : Entry where
  place :=
    if delta.line = 0 then ⟨previous.line, previous.unit + delta.unit⟩
    else ⟨previous.line + delta.line, delta.unit⟩
  length := delta.length
  paint := delta.paint
  modifiers := delta.modifiers

/-- The entries at absolute places, read back from their distances. -/
def Entry.ofDeltas (previous : Place) : List Delta → List Entry
  | [] => []
  | delta :: rest =>
    let entry := delta.toEntry previous
    entry :: ofDeltas entry.place rest

end ScadText.Highlight
