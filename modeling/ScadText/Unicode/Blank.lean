import ScadText.Unicode.Ranges

/-!
# Blank characters

The characters of Unicode 14.0 whose bidirectional class is a separator or white space, or whose
general category is a space separator.
-/

namespace ScadText.Unicode

def blanks : Ranges :=
  [(0x09, 0x0D), (0x1C, 0x20), (0x85, 0x85), (0xA0, 0xA0), (0x1680, 0x1680), (0x2000, 0x200A),
    (0x2028, 0x2029), (0x202F, 0x202F), (0x205F, 0x205F), (0x3000, 0x3000)]

theorem blanks_ascending : blanks.ascending = true := by decide

def isBlank (c : Char) : Bool := blanks.contains c

theorem isBlank_of_isWhitespace {c : Char} (h : c.isWhitespace = true) : isBlank c = true := by
  simp only [Char.isWhitespace, Bool.or_eq_true, decide_eq_true_eq] at h
  rcases h with ((rfl | rfl) | rfl) | rfl <;> decide

end ScadText.Unicode
