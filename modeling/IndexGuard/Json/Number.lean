/-
**The value of a JSON number.**

A number without fraction and exponent is an integer when it lies within -2^63 .. 2^64-1 and is not
`-0`. Every other number is a binary64 number, found in three steps that each round once: the digits
are gathered into a significand that stays below 2^64 (later digits only count as places), the
significand is rounded to binary64, and the result is multiplied or divided by a power of ten. A
number beyond the range has no value.
-/

import IndexGuard.Json.Value
import IndexGuard.Binary64.Decimal

namespace IndexGuard.Json

/-- The parts of a JSON number. -/
structure Numeral where
  negative : Bool
  whole : List Char
  fraction : Option (List Char)
  exponent : Option Int

/-- The leading digits of a number as an integer below 2^64, and the power of ten that scales it. -/
structure Significand where
  value : Nat
  exponent : Int
  /-- Whether a whole digit no longer fitted. -/
  full : Bool

namespace Significand

/-- The largest significand. -/
def limit : Nat := 0xFFFFFFFFFFFFFFFF

/-- The value of a decimal digit. -/
def digitValue (digit : Char) : Nat := digit.toNat - '0'.toNat

/-- Take in a digit before the point; once one does not fit, all count as places. -/
def addWhole (significand : Significand) (digit : Char) : Significand :=
  let next := significand.value * 10 + digitValue digit
  if significand.full || limit < next then
    { significand with exponent := significand.exponent + 1, full := true }
  else { significand with value := next }

/-- Take in the digits after the point, up to the first that does not fit. -/
def addFraction (significand : Significand) : List Char → Significand
  | [] => significand
  | digit :: rest =>
    let next := significand.value * 10 + digitValue digit
    if limit < next then significand
    else addFraction { significand with value := next, exponent := significand.exponent - 1 } rest

/-- The largest power of ten in a single step. -/
def largestStep : Nat := 308

/-- The magnitude of a power of ten. -/
def powerOfTen (exponent : Nat) : Nat := Binary64.nearestMagnitude (Nat.pow 10 exponent) 1

/-- The rounded product of two magnitudes. -/
def times (first second : Nat) : Nat :=
  let (firstNumerator, firstDenominator) := Binary64.ratio first
  let (secondNumerator, secondDenominator) := Binary64.ratio second
  Binary64.nearestMagnitude (firstNumerator * secondNumerator)
    (firstDenominator * secondDenominator)

/-- The rounded quotient of two magnitudes. -/
def dividedBy (first second : Nat) : Nat :=
  let (firstNumerator, firstDenominator) := Binary64.ratio first
  let (secondNumerator, secondDenominator) := Binary64.ratio second
  Binary64.nearestMagnitude (firstNumerator * secondDenominator)
    (firstDenominator * secondNumerator)

/-- A magnitude divided by a power of ten, in steps of at most `largestStep`. -/
def scaleDown (magnitude exponent : Nat) : Nat :=
  if exponent ≤ largestStep then dividedBy magnitude (powerOfTen exponent)
  else if magnitude = 0 then 0
  else scaleDown (dividedBy magnitude (powerOfTen largestStep)) (exponent - largestStep)
  termination_by exponent
  decreasing_by unfold largestStep at *; omega

/-- The magnitude of a scaled significand, unless it is out of range. -/
def magnitude? (significand : Significand) : Option Nat :=
  let rounded := Binary64.nearestMagnitude significand.value 1
  if 0 ≤ significand.exponent then
    if rounded = 0 then some 0
    else if largestStep < significand.exponent then none
    else
      let product := times rounded (powerOfTen significand.exponent.toNat)
      if product < Binary64.infinityMagnitude then some product else none
  else some (scaleDown rounded (-significand.exponent).toNat)

end Significand

namespace Numeral

/-- The absolute value of the least integer. -/
def largestNegated : Nat := 0x8000000000000000

/-- The binary64 number, unless it is out of range. -/
def binary? (numeral : Numeral) : Option Binary64 :=
  let whole := numeral.whole.foldl Significand.addWhole ⟨0, 0, false⟩
  let gathered := whole.addFraction (numeral.fraction.getD [])
  let scaled := { gathered with exponent := gathered.exponent + numeral.exponent.getD 0 }
  scaled.magnitude?.bind fun magnitude =>
    if bounded : magnitude < Binary64.magnitudeCount then
      some ⟨numeral.negative, magnitude, bounded⟩
    else none

/-- The value of a number, unless it is out of range. -/
def value? (numeral : Numeral) : Option Number :=
  let magnitude := Binary64.digitsValue numeral.whole
  let isInteger :=
    numeral.fraction.isNone && numeral.exponent.isNone &&
      (if numeral.negative then 0 < magnitude && magnitude ≤ largestNegated
        else magnitude ≤ Significand.limit)
  if isInteger then
    some (.integer (if numeral.negative then -(magnitude : Int) else magnitude))
  else numeral.binary?.map .binary

end Numeral

end IndexGuard.Json
