/-
**Binary floating point numbers of 64 bits.**

A number is its sign and the lower 63 bits of its encoding read as one natural number, the
magnitude. Magnitudes are in the order of the numbers they encode, so comparing two numbers is
comparing two integers (`key`), and both zeros have the key 0. A magnitude above that of infinity
encodes no number.

* `compare?` orders two numbers, unless one of them is not a number;
* `ratio` is the exact value of a finite magnitude;
* `nearest` is the number closest to a ratio, ties going to the even magnitude, and infinity when
  the ratio is out of range.
-/

namespace IndexGuard

/-- The number of magnitudes: what 63 bits can encode. -/
def Binary64.magnitudeCount : Nat := 0x8000000000000000

/-- The number of magnitudes that share an exponent: what 52 bits can encode. -/
def Binary64.fractionCount : Nat := 0x10000000000000

/-- A binary64 number by its sign and the lower 63 bits of its encoding. -/
structure Binary64 where
  negative : Bool
  magnitude : Nat
  magnitude_lt : magnitude < Binary64.magnitudeCount := by decide
  deriving DecidableEq

namespace Binary64

/-- The magnitude of infinity: all exponent bits set and no fraction. -/
def infinityMagnitude : Nat := 2047 * fractionCount

/-- Zero with a sign. -/
def zero (negative : Bool) : Binary64 := ⟨negative, 0, by decide⟩

/-- Infinity with a sign. -/
def infinity (negative : Bool) : Binary64 := ⟨negative, infinityMagnitude, by decide⟩

/-- The encoding that is not a number. -/
def notANumber (negative : Bool) : Binary64 :=
  ⟨negative, infinityMagnitude + fractionCount / 2, by decide⟩

/-- The encoding encodes no number. -/
def isNaN (value : Binary64) : Bool :=
  infinityMagnitude < value.magnitude

/-- The number is neither infinite nor missing. -/
def isFinite (value : Binary64) : Bool :=
  value.magnitude < infinityMagnitude

/-- The place of a number in the order of numbers. -/
def key (value : Binary64) : Int :=
  if value.negative then -(value.magnitude : Int) else value.magnitude

/-- The order of two numbers. -/
def compare? (first second : Binary64) : Option Ordering :=
  if first.isNaN || second.isNaN then none else some (compare first.key second.key)

/-- Two numbers are equal as numbers; the two zeros are. -/
def equal (first second : Binary64) : Bool :=
  first.compare? second == some .eq

/-- The 64 bits of the encoding. -/
def bits (value : Binary64) : Nat :=
  (if value.negative then magnitudeCount else 0) + value.magnitude

/-- The exact value of a finite magnitude, as numerator and denominator. -/
def ratio (magnitude : Nat) : Nat × Nat :=
  let exponent := magnitude / fractionCount
  let significand := if exponent = 0 then magnitude else fractionCount + magnitude % fractionCount
  let places := 1074 - (exponent - 1)
  if exponent - 1 ≤ 1074 then (significand, Nat.pow 2 places)
  else (significand * Nat.pow 2 (exponent - 1 - 1074), 1)

/-! ### Rounding -/

/-- A quotient rounded to the nearest natural number, ties to the even one. -/
def roundHalfEven (numerator denominator : Nat) : Nat :=
  let quotient := numerator / denominator
  let doubled := 2 * (numerator % denominator)
  if doubled < denominator then quotient
  else if denominator < doubled then quotient + 1
  else quotient + quotient % 2

/-- The exponent of the largest power of two that is at most a positive ratio. -/
def floorLog2 (numerator denominator : Nat) : Int :=
  let estimate : Int := (Nat.log2 numerator : Int) - Nat.log2 denominator
  if denominator * Nat.pow 2 estimate.toNat ≤ numerator * Nat.pow 2 (-estimate).toNat then estimate
  else estimate - 1

/-- The magnitude nearest to a ratio: as many binary places as leave 53 bits, but at most 1074. -/
def nearestMagnitude (numerator denominator : Nat) : Nat :=
  if numerator = 0 then 0
  else
    let places := min 1074 (52 - floorLog2 numerator denominator)
    let significand :=
      roundHalfEven (numerator * Nat.pow 2 places.toNat) (denominator * Nat.pow 2 (-places).toNat)
    min infinityMagnitude ((1074 - places).toNat * fractionCount + significand)

theorem nearestMagnitude_le (numerator denominator : Nat) :
    nearestMagnitude numerator denominator ≤ infinityMagnitude := by
  unfold nearestMagnitude
  split
  · exact Nat.zero_le _
  · exact Nat.min_le_left _ _

/-- The number with a sign nearest to a ratio. -/
def nearest (negative : Bool) (numerator denominator : Nat) : Binary64 :=
  ⟨negative, nearestMagnitude numerator denominator,
    Nat.lt_of_le_of_lt (nearestMagnitude_le numerator denominator) (by decide)⟩

/-- The number nearest to an integer. -/
def ofInt (value : Int) : Binary64 :=
  nearest (value < 0) value.natAbs 1

end Binary64

end IndexGuard
