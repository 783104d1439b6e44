/-
**Reading a decimal text as a binary64 number.**

The texts that stand for a number are an optional sign followed by `inf`, `infinity` or `nan` in any
case, or by decimal digits with at most one point (a digit on either side is enough) and an optional
exponent. The number is the one nearest to the exact decimal value.
-/

import IndexGuard.Binary64.Basic

namespace IndexGuard.Binary64

/-- The value of a run of decimal digits. -/
def digitsValue (digits : List Char) : Nat :=
  digits.foldl (fun value digit => value * 10 + (digit.toNat - '0'.toNat)) 0

/-- The number nearest to `digits · 10 ^ exponent`. Values beyond the range on either side are
settled by their order of magnitude alone. -/
def ofDecimal (negative : Bool) (digits : Nat) (exponent : Int) : Binary64 :=
  let order : Int := exponent + Nat.log2 digits / 3 + 1
  if digits = 0 then zero negative
  else if 400 < exponent then infinity negative
  else if order < -400 then zero negative
  else nearest negative (digits * Nat.pow 10 exponent.toNat) (Nat.pow 10 (-exponent).toNat)

/-- A sign at the start of a text and what follows it. -/
def splitSign : List Char → Bool × List Char
  | '-' :: rest => (true, rest)
  | '+' :: rest => (false, rest)
  | chars => (false, chars)

/-- The exponent that ends a decimal text; an empty text is the exponent 0. -/
def exponent? : List Char → Option Int
  | [] => some 0
  | mark :: rest =>
    if mark = 'e' || mark = 'E' then
      let (negative, digits) := splitSign rest
      if digits.isEmpty || !digits.all Char.isDigit then none
      else some (if negative then -(digitsValue digits : Int) else digitsValue digits)
    else none

/-- The number an unsigned decimal text stands for. -/
def unsigned? (negative : Bool) (chars : List Char) : Option Binary64 :=
  let whole := chars.takeWhile Char.isDigit
  let afterWhole := chars.dropWhile Char.isDigit
  let (fraction, afterFraction) :=
    match afterWhole with
    | '.' :: rest => (rest.takeWhile Char.isDigit, rest.dropWhile Char.isDigit)
    | _ => ([], afterWhole)
  if whole.isEmpty && fraction.isEmpty then none
  else
    (exponent? afterFraction).map fun exponent =>
      ofDecimal negative (digitsValue (whole ++ fraction)) (exponent - fraction.length)

/-- The number a text stands for. -/
def ofText? (chars : List Char) : Option Binary64 :=
  let (negative, rest) := splitSign chars
  let word := rest.map Char.toLower
  if word = "inf".toList || word = "infinity".toList then some (infinity negative)
  else if word = "nan".toList then some (notANumber negative)
  else unsigned? negative rest

end IndexGuard.Binary64
