/-!
Decimal numbers and the integers that they stand for. A decimal number stands for the nearest one
of the binary numbers, which have at most 53 significant bits and are multiples of a smallest unit;
between two equally near ones it stands for the one whose last bit is zero. Below 2 ^ 1024 the
binary numbers end.
-/

namespace CanonicalLR

/-- The number `digits * 10 ^ exponent`, or its negation. -/
structure Decimal where
  negative : Bool
  digits : Nat
  exponent : Int
deriving DecidableEq, Repr

namespace Decimal

/-- The whole number nearest to a quotient; a half goes to the even neighbour. -/
def roundedQuotient (numerator denominator : Nat) : Nat :=
  let quotient := numerator / denominator
  let twice := 2 * (numerator % denominator)
  if twice < denominator then quotient
  else if twice == denominator then quotient + quotient % 2
  else quotient + 1

/-- How many of the smallest units make one. -/
def unitsInOne : Nat := Nat.pow 2 1074

/-- Rounds a quotient of units to a binary number, again in units: its last bits beyond the 53
significant ones become zeros. -/
def nearestUnits (numerator denominator : Nat) : Nat :=
  let lastBit := Nat.pow 2 ((numerator / denominator).log2 - 52)
  roundedQuotient numerator (denominator * lastBit) * lastBit

/-- The place of the first digit: the number is less than the power of ten with this exponent, and
if it is not zero, not less than a tenth of that power. -/
def magnitude (number : Decimal) : Int :=
  (Nat.toDigits 10 number.digits).length + number.exponent

/-- The size of the binary number that a decimal number stands for, in units. Magnitudes below -323
are less than half a unit, and those above 309 beyond the last binary number. -/
def units? (number : Decimal) : Option Nat :=
  if number.digits == 0 || number.magnitude < -323 then some 0
  else if 309 < number.magnitude then none
  else
    let units := nearestUnits
      (number.digits * Nat.pow 10 number.exponent.toNat * unitsInOne)
      (Nat.pow 10 (-number.exponent).toNat)
    if units < Nat.pow 2 1024 * unitsInOne then some units else none

/-- The integer that a decimal number stands for, if it stands for one. -/
def toInt? (number : Decimal) : Option Int := do
  let units ← number.units?
  if units % unitsInOne != 0 then none
  else
    let size := Int.ofNat (units / unitsInOne)
    return if number.negative then -size else size

/-- The digits, and behind an `e` the exponent. -/
def render (number : Decimal) : List Char :=
  (if number.negative then ['-'] else []) ++ (toString number.digits).toList ++
    'e' :: (toString number.exponent).toList

end Decimal

end CanonicalLR
