import ScadText.Finding.Balance
import ScadText.Finding.SpecialVariable
import ScadText.Finding.Statement
import ScadText.Text.Lines

/-!
# All findings of a source

The findings of each line come in the order of the lines, a missing semicolon before the names; the
findings of the whole text come last. Nothing that a check meets makes it fail.
-/

namespace ScadText

/-- The findings of one line. -/
def lintLine (line : List Char) (number : Int) : List Finding :=
  (Statement.missingSemicolon? line number).toList ++ SpecialVariable.unknown line number

/-- The findings of lines that are numbered from `number` on. -/
def lintLines (number : Int) : List (List Char) → List Finding
  | [] => []
  | line :: rest => lintLine line number ++ lintLines (number + 1) rest

/-- The findings of a source in the order in which they are reported. -/
def lint (source : List Char) : List Finding :=
  lintLines 1 (Text.lines source) ++ Balance.unmatched source

end ScadText
