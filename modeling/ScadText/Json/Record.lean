import ScadText.Text.Hexadecimal

/-!
# Lists of records as JSON

The text is ASCII: every other character is written by its UTF-16 code units. Each record and each
field of a record stands on lines of its own, two spaces further in than what holds it, and what is
empty stands on one line.

## Main definitions

* `Scalar`, `Record`: values that hold no others, and fields in the order in which they are written.
* `quote`: a string.
* `render`: the text of a list of records.
-/

namespace ScadText.Json

inductive Scalar where
  | text (value : List Char)
  | integer (value : Int)
  deriving DecidableEq, Repr

abbrev Record := List (List Char × Scalar)

/-- The UTF-16 code units of a character. -/
def codeUnits (c : Char) : List Nat :=
  let n := c.toNat
  if n < 0x10000 then [n]
  else [0xD800 + (n - 0x10000) / 0x400, 0xDC00 + (n - 0x10000) % 0x400]

/-- A code unit written by its number. -/
def unitEscape (unit : Nat) : List Char := '\\' :: 'u' :: Text.hexDigits 4 unit

/-- What stands after the backslash for characters that have a short escape. -/
def shortEscape? : Char → Option Char
  | '"' => some '"'
  | '\\' => some '\\'
  | '\n' => some 'n'
  | '\r' => some 'r'
  | '\t' => some 't'
  | '\x08' => some 'b'
  | '\x0c' => some 'f'
  | _ => none

/-- A character in a string. -/
def escape (c : Char) : List Char :=
  match shortEscape? c with
  | some letter => ['\\', letter]
  | none => if ' ' ≤ c ∧ c ≤ '~' then [c] else (codeUnits c).flatMap unitEscape

def quote (text : List Char) : List Char := '"' :: text.flatMap escape ++ ['"']

def renderInteger (value : Int) : List Char :=
  if value < 0 then '-' :: Nat.toDigits 10 value.natAbs else Nat.toDigits 10 value.natAbs

def Scalar.render : Scalar → List Char
  | .text value => quote value
  | .integer value => renderInteger value

/-- A new line and the spaces before what stands on it. -/
def newLine (depth : Nat) : List Char := '\n' :: List.replicate (2 * depth) ' '

/-- Items between two brackets, where the depth is that of the brackets. -/
def block (opening closing : Char) (depth : Nat) : List (List Char) → List Char
  | [] => [opening, closing]
  | items =>
    opening :: [','].intercalate (items.map (newLine (depth + 1) ++ ·)) ++ newLine depth ++
      [closing]

def renderField (field : List Char × Scalar) : List Char :=
  quote field.1 ++ ':' :: ' ' :: field.2.render

def Record.render (record : Record) : List Char := block '\x7b' '\x7d' 1 (record.map renderField)

/-- The text of a list of records, without a line feed at its end. -/
def render (records : List Record) : List Char := block '[' ']' 0 (records.map Record.render)

end ScadText.Json
