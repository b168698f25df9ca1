import ScadText.Decimal.Shortest
import ScadText.Text.Trim

/-!
# Decimals as texts

The digits of a number are chosen first and laid out after. A layout says which numbers are written
with an exponent.
-/

namespace ScadText.Decimal

/-- A number is written with an exponent unless its point lies beyond `leastPoint` and at most at
`greatestPoint`; an exponent has a sign and at least `exponentDigits` digits. -/
structure Layout where
  leastPoint : Int
  greatestPoint : Int
  exponentDigits : Nat
  deriving DecidableEq, Repr

/-- Numbers are positional from one ten-thousandth to below ten to the sixteenth. -/
def Layout.plain : Layout := ⟨-4, 16, 2⟩

namespace Layout

/-- Digits with a point after the first `point` of them; there is a digit on either side of it. -/
def positional (digits : List Char) (point : Int) : List Char :=
  if point ≤ 0 then '0' :: '.' :: List.replicate (-point).toNat '0' ++ digits
  else
    let whole := (digits.take point.toNat).rightpad point.toNat '0'
    let fraction := digits.drop point.toNat
    whole ++ '.' :: (if fraction.isEmpty then ['0'] else fraction)

/-- Digits with a point after the first of them, if there are more, and an exponent. -/
def exponential (layout : Layout) (digits : List Char) (point : Int) : List Char :=
  let exponent := point - 1
  let mark := if exponent < 0 then '-' else '+'
  let fraction := if digits.length ≤ 1 then [] else '.' :: digits.drop 1
  digits.take 1 ++ fraction ++ 'e' :: mark ::
    (Nat.toDigits 10 exponent.natAbs).leftpad layout.exponentDigits '0'

/-- The text of a decimal. Zeros at the end of its digits say nothing and are left out. -/
def scientific (layout : Layout) (n : Scientific) : List Char :=
  let written := Nat.toDigits 10 n.digits
  let point := written.length + n.power
  let digits := Text.trimEnd (· == '0') written
  if layout.leastPoint < point ∧ point ≤ layout.greatestPoint then positional digits point
  else layout.exponential digits point

/-- The text of a number in double precision. -/
def render (layout : Layout) : Binary64 → String
  | .nan => "nan"
  | .infinite negative => if negative then "-inf" else "inf"
  | .finite negative magnitude =>
    let text := layout.scientific magnitude.shortest
    String.ofList (if negative then '-' :: text else text)

end Layout

end ScadText.Decimal
