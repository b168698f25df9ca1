import ScadText.Finding.Basic
import ScadText.Text.Lines
import ScadText.Text.Trim

/-!
# Findings shown beside their source

Five lines without a line feed at the end: the message, the place, an empty line of the excerpt, the
line of the source, and a line of carets under the range.
-/

namespace ScadText.Finding

/-- As many characters as a count says, none for a negative count. -/
def fill (c : Char) (count : Int) : String := String.ofList (List.replicate count.toNat c)

/-- The line at a number that counts from one, without carriage returns at its end; it is empty
where the source has no such line. -/
def sourceLine (source : List Char) (number : Int) : List Char :=
  if 1 ≤ number then
    Text.trimEnd (· == '\r') (((Text.lines source)[(number - 1).toNat]?).getD [])
  else []

/-- The carets reach to the end of the range, or to the end of the line where the range goes on
beyond it. There is at least one. -/
def caretCount (finding : Finding) (shown : List Char) : Int :=
  if finding.endLine = finding.line then max 1 (finding.endColumn - finding.column)
  else max 1 (shown.length - finding.column + 1)

/-- The finding beside its source. -/
def excerpt (finding : Finding) (source : List Char) (file : String) : String :=
  let shown := sourceLine source finding.line
  let number := toString finding.line
  let gutter := fill ' ' (number.length + 1)
  finding.severity.name ++ "[" ++ finding.code ++ "]: " ++ finding.message ++ "\n" ++
    gutter ++ "--> " ++ file ++ ":" ++ number ++ ":" ++ toString finding.column ++ "\n" ++
    gutter ++ "|\n" ++
    number ++ " | " ++ String.ofList shown ++ "\n" ++
    gutter ++ "| " ++ fill ' ' (finding.column - 1) ++ fill '^' (finding.caretCount shown)

/-- The name that stands for a file in an excerpt where none is given. -/
def defaultFile : String := "input.scad"

end ScadText.Finding
