import Mathlib.Algebra.Group.Nat.Defs
import ScadText.Text.Hexadecimal

/-!
# Reading numbers in base sixteen

## Main definitions

* `hexValue?`, `readHex?`: the value of a digit, and of several.

## Main statements

* `readHex?_hexDigits`: the number is told by its digits if there are enough of them.
-/

namespace ScadText.Text

/-- The value of a digit, in lower or upper case. -/
def hexValue? (c : Char) : Option Nat :=
  if '0' ≤ c ∧ c ≤ '9' then some (c.toNat - 0x30)
  else if 'a' ≤ c ∧ c ≤ 'f' then some (c.toNat - 0x57)
  else if 'A' ≤ c ∧ c ≤ 'F' then some (c.toNat - 0x37)
  else none

/-- The number that digits stand for, the most significant first. -/
def readHex? (digits : List Char) : Option Nat :=
  digits.foldlM (fun n c => (hexValue? c).map (16 * n + ·)) 0

theorem hexValue?_hexDigit {value : Nat} (h : value < 16) :
    hexValue? (hexDigit value) = some value := by
  decide +revert

/-- The number is told by its digits if there are enough of them. -/
theorem readHex?_hexDigits {width n : Nat} (h : n < 16 ^ width) :
    readHex? (hexDigits width n) = some n := by
  induction width generalizing n with
  | zero =>
    obtain rfl : n = 0 := by simpa using h
    rfl
  | succ width ih =>
    have hquot : n / 16 < 16 ^ width := by
      rw [Nat.pow_succ] at h
      omega
    have hdigit : hexValue? (hexDigit (n % 16)) = some (n % 16) :=
      hexValue?_hexDigit (Nat.mod_lt n (by omega))
    have hfront : (hexDigits width (n / 16)).foldlM
        (fun n c => (hexValue? c).map (16 * n + ·)) 0 = some (n / 16) := ih hquot
    rw [hexDigits, readHex?, List.foldlM_append, hfront]
    simp [hdigit, Nat.div_add_mod]

end ScadText.Text
