/-!
# Findings

A finding is a remark on a range of a source, with the code of the rule that makes it. Lines and
columns count from one and the end column is not part of the range. They are integers, because a
finding can be shown next to a source that it does not fit.
-/

namespace ScadText

inductive Severity where
  | warning | error
  deriving DecidableEq, Repr

def Severity.name : Severity → String
  | .warning => "warning"
  | .error => "error"

/-- The rules, in the order of their codes. -/
inductive Rule where
  | missingSemicolon | unknownSpecialVariable
  | unmatchedBraces | unmatchedBrackets | unmatchedParentheses
  deriving DecidableEq, Repr

namespace Rule

def code : Rule → String
  | missingSemicolon => "missing-semicolon"
  | unknownSpecialVariable => "unknown-special-variable"
  | unmatchedBraces => "unmatched-braces"
  | unmatchedBrackets => "unmatched-brackets"
  | unmatchedParentheses => "unmatched-parentheses"

def all : List Rule :=
  [missingSemicolon, unknownSpecialVariable, unmatchedBraces, unmatchedBrackets,
    unmatchedParentheses]

theorem mem_all (r : Rule) : r ∈ all := by cases r <;> decide

/-- The rule with a given code. -/
def ofCode? (code : String) : Option Rule := all.find? (·.code == code)

theorem ofCode?_code (r : Rule) : ofCode? r.code = some r := by cases r <;> decide

theorem code_of_ofCode? {code : String} {r : Rule} (h : ofCode? code = some r) : r.code = code := by
  simpa using List.find?_some h

theorem codes_ascending : (all.map code).Pairwise (· < ·) := by decide

end Rule

structure Finding where
  severity : Severity
  code : String
  message : String
  line : Int
  column : Int
  endLine : Int
  endColumn : Int
  deriving DecidableEq, Repr

end ScadText
