import ScadText.Finding.Lint
import ScadText.Text.Utf16

/-!
# Findings for an editor

An editor counts lines and UTF-16 code units from zero, and accepts only values that fit in 31 bits.
A finding is shown to it as a remark on a range between two such positions.

## Main definitions

* `Position`, `Range`, `Remark`: what the editor receives.
* `OutOfRange`: the coordinate that the editor would refuse.
* `ofFinding`: the remark of a finding on a document.
-/

namespace ScadText.Editor

/-- A coordinate of a position. -/
inductive Coordinate where
  | line | character
  deriving DecidableEq, Repr

def Coordinate.name : Coordinate → String
  | .line => "line"
  | .character => "character"

/-- A value that no position may hold. -/
structure OutOfRange where
  coordinate : Coordinate
  value : Int
  deriving DecidableEq, Repr

/-- The greatest value of a coordinate. -/
def maxCoordinate : Nat := 2147483647

def OutOfRange.message (fault : OutOfRange) : String :=
  "Position." ++ fault.coordinate.name ++ " should be in range [0:" ++ toString maxCoordinate ++
    "], but was " ++ toString fault.value ++ "."

/-- A line, and a code unit of that line. -/
structure Position where
  line : Nat
  character : Nat
  deriving DecidableEq, Repr

def checkCoordinate (coordinate : Coordinate) (value : Int) : Except OutOfRange Nat :=
  if 0 ≤ value ∧ value ≤ maxCoordinate then .ok value.toNat else .error ⟨coordinate, value⟩

/-- The position with given coordinates, of which the line is checked first. -/
def Position.ofInts? (line character : Int) : Except OutOfRange Position := do
  let line ← checkCoordinate .line line
  let character ← checkCoordinate .character character
  return ⟨line, character⟩

structure Range where
  start : Position
  stop : Position
  deriving DecidableEq, Repr

/-- A finding as an editor shows it. -/
structure Remark where
  range : Range
  severity : Severity
  code : String
  message : String
  deriving DecidableEq, Repr

/-- The name of the tool that makes the remarks. -/
def Remark.tool : String := "scadlint"

/-- The number which stands for a severity. -/
def severityLevel : Severity → Nat
  | .error => 1
  | .warning => 2

/-- The characters before an end, which counts back from the end of the text if it is negative. -/
def before (stop : Int) (text : List Char) : List Char :=
  text.take (if stop < 0 then text.length + stop else stop).toNat

/-- The position of a column that counts characters from one. On a line which the document does not
have, columns stand for code units. -/
def locate (lines : List (List Char)) (line column : Int) : Except OutOfRange Position :=
  let text? := if 1 ≤ line then lines[(line - 1).toNat]? else none
  match text? with
  | some text => Position.ofInts? (line - 1) (Text.utf16Length (before (column - 1) text))
  | none => Position.ofInts? (line - 1) (column - 1)

/-- The remark of a finding on a document that is given by its lines. -/
def ofFinding (lines : List (List Char)) (finding : Finding) : Except OutOfRange Remark := do
  let start ← locate lines finding.line finding.column
  let stop ← locate lines finding.endLine finding.endColumn
  return ⟨⟨start, stop⟩, finding.severity, finding.code, finding.message⟩

/-- The remarks on a document, one for each of its findings. -/
def remarks (source : List Char) : Except OutOfRange (List Remark) :=
  (lint source).mapM (ofFinding (Text.lines source))

end ScadText.Editor
