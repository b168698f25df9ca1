import ScadText.Finding.Basic

/-!
# Balance of delimiters

The opening and closing delimiters of each pair are counted over the whole text, those in comments
and strings included, and only the two counts are compared.
-/

namespace ScadText.Balance

/-- A pair of delimiters, its noun, and the rule that reports it. -/
structure Pair where
  opening : Char
  closing : Char
  noun : String
  rule : Rule
  deriving DecidableEq, Repr

/-- The pairs in the order in which they are reported. -/
def pairs : List Pair :=
  [⟨'{', '}', "braces", .unmatchedBraces⟩, ⟨'(', ')', "parentheses", .unmatchedParentheses⟩,
    ⟨'[', ']', "brackets", .unmatchedBrackets⟩]

/-- The finding for two different counts, at the start of the text. -/
def Pair.unmatched? (pair : Pair) (opened closed : Nat) : Option Finding :=
  if opened = closed then none
  else
    some
      { severity := .error
        code := pair.rule.code
        message := "Unmatched " ++ pair.noun ++ ": " ++ toString opened ++ " opening, " ++
          toString closed ++ " closing"
        line := 1
        column := 1
        endLine := 1
        endColumn := 1 }

/-- The findings of a text. -/
def unmatched (text : List Char) : List Finding :=
  pairs.filterMap fun pair => pair.unmatched? (text.count pair.opening) (text.count pair.closing)

end ScadText.Balance
