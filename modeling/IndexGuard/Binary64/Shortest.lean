/-
**The shortest decimal text of a binary64 number.**

Among the decimals that read back as a number, the shortest ones have the fewest digits; of two of
them the nearer one is taken. `shortest` looks for it on one decimal grid after the other, from one
digit to `digitLimit`, at the two neighbours of the number on each grid.

The text is positional where the first digit stands at most `wholeLimit` places before the point or
`fractionLimit` zeros follow it at most, and has an exponent elsewhere; a positional text always has
a point.
-/

import IndexGuard.Binary64.Basic

namespace IndexGuard.Binary64

/-- A decimal number: some digits and the power of ten they are multiplied by. -/
structure Decimal where
  digits : Nat
  exponent : Int
  deriving DecidableEq

/-- The number of decimal digits of a natural number; zero has none. -/
def digitCount (value : Nat) : Nat := if value = 0 then 0 else (Nat.toDigits 10 value).length

/-- The exponent of the largest power of ten that is at most a positive ratio. -/
def floorLog10 (numerator denominator : Nat) : Int :=
  if denominator ≤ numerator then digitCount (numerator / denominator) - 1
  else -(digitCount ((denominator + numerator - 1) / numerator - 1) : Int)

/-- The number of digits that always suffices. -/
def digitLimit : Nat := 17

namespace Decimal

/-- The exact value, as numerator and denominator. -/
def ratio (decimal : Decimal) : Nat × Nat :=
  (decimal.digits * Nat.pow 10 decimal.exponent.toNat, Nat.pow 10 (-decimal.exponent).toNat)

/-- The decimal reads back as a magnitude. -/
def readsBack (magnitude : Nat) (decimal : Decimal) : Bool :=
  nearestMagnitude decimal.ratio.1 decimal.ratio.2 == magnitude

/-- The neighbours of a magnitude on the grid of a power of ten, the nearer one first. -/
def neighbours (magnitude : Nat) (exponent : Int) : List Decimal :=
  let (numerator, denominator) := Binary64.ratio magnitude
  let scaledNumerator := numerator * Nat.pow 10 (-exponent).toNat
  let scaledDenominator := denominator * Nat.pow 10 exponent.toNat
  let below := scaledNumerator / scaledDenominator
  let rest := scaledNumerator % scaledDenominator
  let lower : Decimal := ⟨below, exponent⟩
  let upper : Decimal := ⟨below + 1, exponent⟩
  if 2 * rest < scaledDenominator || (2 * rest = scaledDenominator && below % 2 = 0) then
    [lower, upper]
  else [upper, lower]

/-- The decimal with its trailing zeros moved into the exponent, up to a number of them. -/
def stripZeros : Nat → Decimal → Decimal
  | 0, decimal => decimal
  | count + 1, decimal =>
    if decimal.digits % 10 = 0 then stripZeros count ⟨decimal.digits / 10, decimal.exponent + 1⟩
    else decimal

end Decimal

/-- The shortest decimal that reads back as a positive finite magnitude. -/
def shortest (magnitude : Nat) : Decimal :=
  let (numerator, denominator) := ratio magnitude
  let order := floorLog10 numerator denominator
  let grids := (List.range digitLimit).map fun (place : Nat) => order - place
  let found := grids.findSome? fun exponent =>
    (Decimal.neighbours magnitude exponent).find? (Decimal.readsBack magnitude)
  (found.getD ⟨0, 0⟩).stripZeros digitLimit

/-! ### The text -/

/-- How many digits may stand before the point. -/
def wholeLimit : Nat := 16

/-- How many zeros may follow the point before the first other digit. -/
def fractionLimit : Nat := 4

/-- The text of a decimal. -/
def Decimal.text (decimal : Decimal) : String :=
  let digits := Nat.toDigits 10 decimal.digits
  let zeros (count : Int) : List Char := List.replicate count.toNat '0'
  let point : Int := digits.length + decimal.exponent
  if 0 ≤ decimal.exponent && point ≤ wholeLimit then
    String.ofList (digits ++ zeros decimal.exponent ++ ['.', '0'])
  else if 0 < point && point ≤ wholeLimit then
    String.ofList (digits.take point.toNat ++ '.' :: digits.drop point.toNat)
  else if -(fractionLimit : Int) ≤ point && point ≤ 0 then
    String.ofList ('0' :: '.' :: (zeros (-point) ++ digits))
  else
    let fraction := if digits.length = 1 then [] else '.' :: digits.drop 1
    String.ofList (digits.take 1 ++ fraction) ++ "e" ++ toString (point - 1)

/-- The text of a finite number. -/
def text (value : Binary64) : String :=
  let unsigned := if value.magnitude = 0 then "0.0" else (shortest value.magnitude).text
  if value.negative then "-" ++ unsigned else unsigned

end IndexGuard.Binary64
