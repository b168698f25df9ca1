import ScadText.Decimal.Binary64

/-!
# The shortest decimal that reads back

All reals in an interval around a number round to it; the ends belong to the interval if the
mantissa is even. For one digit, two digits and so on, the two neighbours of the number among the
decimals with so many digits are tried. The first that lies in the interval wins, the nearer one if
both do, and the even one if they are equally near. Everything is compared in whole numbers.
-/

namespace ScadText.Decimal

/-- A decimal number: `digits * 10 ^ power`. -/
structure Scientific where
  digits : Nat
  power : Int
  deriving DecidableEq, Repr

namespace Magnitude

/-- A number of quarters of the last place of `m`, and a decimal, brought to a common unit. -/
def quarters (m : Magnitude) (power : Int) (count : Nat) : Nat :=
  count * Nat.pow 2 (m.exponent - 2).toNat * Nat.pow 10 (-power).toNat

def decimals (m : Magnitude) (power : Int) (count : Nat) : Nat :=
  count * Nat.pow 10 power.toNat * Nat.pow 2 (2 - m.exponent).toNat

/-- The distance to the next smaller number is halved at a power of two. -/
def below (m : Magnitude) : Nat :=
  if m.mantissa = leastNormal ∧ minExponent < m.exponent then 4 * m.mantissa - 1
  else 4 * m.mantissa - 2

def above (m : Magnitude) : Nat := 4 * m.mantissa + 2

/-- The decimal `count * 10 ^ power` rounds to `m`. -/
def readsBack (m : Magnitude) (power : Int) (count : Nat) : Bool :=
  let value := m.decimals power count
  let low := m.quarters power m.below
  let high := m.quarters power m.above
  if m.mantissa % 2 = 0 then low ≤ value && value ≤ high else low < value && value < high

/-- The position of the point: `m` is at least a tenth of `10 ^ point` and below it. -/
def pointOf (m : Magnitude) : Int :=
  let scaled := m.quarters (-400) (4 * m.mantissa) / m.decimals (-400) 1
  (Nat.toDigits 10 scaled).length - 400

/-- The decimal with so many digits that reads back and is nearest to `m`, if there is one. Of two
that are equally near it is the even one. -/
def onGrid? (m : Magnitude) (count : Nat) : Option Scientific :=
  let power := m.pointOf - count
  let value := m.quarters power (4 * m.mantissa)
  let lower := value / m.decimals power 1
  let upper := lower + 1
  match m.readsBack power lower, m.readsBack power upper with
  | true, true => some ⟨roundHalfEven value (m.decimals power 1), power⟩
  | true, false => some ⟨lower, power⟩
  | false, true => some ⟨upper, power⟩
  | false, false => none

/-- The decimal with the fewest digits that reads back; seventeen are always enough. -/
def shortest (m : Magnitude) : Scientific :=
  if m.mantissa = 0 then ⟨0, 0⟩
  else ((List.range 17).findSome? fun i => m.onGrid? (i + 1)).getD ⟨0, 0⟩

end Magnitude

end ScadText.Decimal
