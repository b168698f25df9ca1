/-!
# Numbers in decimal

The digits of a number, and the number that digits stand for.

## Main definitions

* `readNat?`: the number which a text of digits stands for.

## Main statements

* `notMem_toDigits`: a number is written with digits only.
* `readNat?_toDigits`: the number is told by its digits.
-/

namespace ScadText.Text

/-- A number is written with digits only. -/
theorem notMem_toDigits {c : Char} (hc : c.isDigit = false) (n : Nat) : c ∉ Nat.toDigits 10 n := by
  intro h
  have hdigit := Nat.isDigit_of_mem_toDigits (by omega) (Nat.le_refl 10) h
  exact absurd hdigit (by simp [hc])

/-- An integer is written with digits only, and a minus sign if it is negative. -/
theorem notMem_toString {c : Char} (hc : c.isDigit = false) (hminus : c ≠ '-') (value : Int) :
    c ∉ (toString value).toList := by
  rw [Int.toString_eq_repr, Int.repr_eq_if]
  split <;> simp [Nat.repr_eq_ofList_toDigits, notMem_toDigits hc, hminus]

/-- The number which a text stands for that has digits only. -/
def readNat? (text : List Char) : Option Nat :=
  if !text.isEmpty && text.all Char.isDigit then some (Nat.ofDigitChars 10 text 0) else none

/-- The number is told by its digits. -/
theorem readNat?_toDigits (n : Nat) : readNat? (Nat.toDigits 10 n) = some n := by
  have hdigits : (Nat.toDigits 10 n).all Char.isDigit = true :=
    List.all_eq_true.mpr fun c => Nat.isDigit_of_mem_toDigits (by omega) (Nat.le_refl 10)
  rw [readNat?, hdigits, if_pos (by simp [Nat.toDigits_ne_nil]), Nat.ofDigitChars_ten_toDigits]

end ScadText.Text
