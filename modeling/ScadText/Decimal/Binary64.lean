/-!
# Decimal numbers in binary floating point

A number in double precision is `mantissa * 2 ^ exponent` with a mantissa below `2 ^ 53` and an
exponent of at least `-1074`. A decimal number is rounded to the nearest of them, and a number
halfway between two to the one whose mantissa is even. All arithmetic is exact.

## Main definitions

* `roundHalfEven`: a quotient rounded to a whole number.
* `Magnitude`, `Binary64`: the numbers without and with a sign.
* `Magnitude.ofDecimal?`: the nearest number, or none where that is beyond the greatest.
-/

namespace ScadText.Decimal

/-- The whole number nearest to a quotient; of two, the even one. -/
def roundHalfEven (num den : Nat) : Nat :=
  let quotient := num / den
  let rest := num % den
  if 2 * rest < den then quotient
  else if den < 2 * rest then quotient + 1
  else quotient + quotient % 2

/-- Rounding moves a quotient by at most one half. -/
theorem roundHalfEven_near {num den : Nat} (h : 0 < den) :
    2 * num ≤ 2 * (roundHalfEven num den * den) + den ∧
      2 * (roundHalfEven num den * den) ≤ 2 * num + den := by
  have hd := Nat.div_add_mod num den
  have hr := Nat.mod_lt num h
  rw [Nat.mul_comm] at hd
  simp only [roundHalfEven]
  split
  · omega
  · split
    · rw [Nat.add_mul]; omega
    · rcases Nat.mod_two_eq_zero_or_one (num / den) with hp | hp <;> rw [hp, Nat.add_mul] <;> omega

/-- A quotient halfway between two whole numbers is rounded to the even one. -/
theorem roundHalfEven_even {num den : Nat} (h : 2 * (num % den) = den) :
    roundHalfEven num den % 2 = 0 := by
  simp only [roundHalfEven, h, Nat.lt_irrefl, ↓reduceIte]
  omega

/-- A number that is not negative: `mantissa * 2 ^ exponent`. -/
structure Magnitude where
  mantissa : Nat
  exponent : Int
  deriving DecidableEq, Repr

namespace Magnitude

/-- The least exponent. -/
def minExponent : Int := -1074

/-- The greatest exponent. -/
def maxExponent : Int := 971

/-- The least mantissa with all 53 bits. -/
def leastNormal : Nat := 4503599627370496

def zero : Magnitude := ⟨0, minExponent⟩

/-- The exponent of the greatest power of two that is at most a quotient. -/
def floorLog2 (num den : Nat) : Int :=
  let guess : Int := (num.log2 : Int) - den.log2
  if den * Nat.pow 2 guess.toNat ≤ num * Nat.pow 2 (-guess).toNat then guess else guess - 1

/-- The number nearest to a quotient. -/
def ofQuotient? (num den : Nat) : Option Magnitude :=
  let exponent := max (floorLog2 num den - 52) minExponent
  let mantissa :=
    roundHalfEven (num * Nat.pow 2 (-exponent).toNat) (den * Nat.pow 2 exponent.toNat)
  let rounded : Magnitude :=
    if mantissa = 2 * leastNormal then ⟨leastNormal, exponent + 1⟩ else ⟨mantissa, exponent⟩
  if maxExponent < rounded.exponent then none else some rounded

/-- The number nearest to `digits * 10 ^ power`. Powers far beyond the range are not computed. -/
def ofDecimal? (digits : Nat) (power : Int) : Option Magnitude :=
  let point := (Nat.toDigits 10 digits).length + power
  if digits = 0 ∨ point < -400 then some zero
  else if 400 < point then none
  else ofQuotient? (digits * Nat.pow 10 power.toNat) (Nat.pow 10 (-power).toNat)

end Magnitude

/-- A number in double precision. -/
inductive Binary64 where
  | nan
  | infinite (negative : Bool)
  | finite (negative : Bool) (magnitude : Magnitude)
  deriving DecidableEq, Repr

/-- The number nearest to a decimal number with a sign; one that is too great is infinite. -/
def Binary64.ofDecimal (negative : Bool) (digits : Nat) (power : Int) : Binary64 :=
  match Magnitude.ofDecimal? digits power with
  | some magnitude => .finite negative magnitude
  | none => .infinite negative

end ScadText.Decimal
