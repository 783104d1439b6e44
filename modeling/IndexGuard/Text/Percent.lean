/-
**Percent escapes and form-encoded pairs.**

`%` followed by two hexadecimal digits stands for the byte they spell; any other `%` stands for
itself. A form-encoded text is a sequence of `name=value` pieces between `&`s: an empty piece is
skipped, a piece without `=` has an empty value, `+` is a space, and ill-formed UTF-8 is replaced.
-/

import IndexGuard.Text.Blank
import IndexGuard.Text.Utf8

namespace IndexGuard.Text.Percent

/-- The value of a hexadecimal digit. -/
def hexDigit? (byte : UInt8) : Option UInt8 :=
  if 0x30 ≤ byte && byte ≤ 0x39 then some (byte - 0x30)
  else if 0x41 ≤ byte && byte ≤ 0x46 then some (byte - 0x37)
  else if 0x61 ≤ byte && byte ≤ 0x66 then some (byte - 0x57)
  else none

/-- The bytes with every escape replaced by the byte it spells. -/
def decodeBytes : List UInt8 → List UInt8
  | [] => []
  | 0x25 :: high :: low :: rest =>
    match hexDigit? high, hexDigit? low with
    | some highDigit, some lowDigit => (highDigit * 16 + lowDigit) :: decodeBytes rest
    | _, _ => 0x25 :: decodeBytes (high :: low :: rest)
  | byte :: rest => byte :: decodeBytes rest

/-- A path segment's text, when its bytes are well-formed UTF-8. -/
def decodeSegment? (segment : String) : Option String :=
  Utf8.decode? (decodeBytes (Utf8.encode segment))

/-- A form-encoded name or value: `+` is a space, and ill-formed UTF-8 is replaced. -/
def decodeForm (chars : List Char) : String :=
  let spaced := chars.map fun char => if char = '+' then ' ' else char
  Utf8.decodeLossy (decodeBytes (Utf8.encode (String.ofList spaced)))

/-- The decoded pairs of a form-encoded text, in order. -/
def formPairs (query : String) : List (String × String) :=
  ((pieces '&' query.toList).filter fun piece => !piece.isEmpty).map fun piece =>
    match cut? '=' piece with
    | some (name, value) => (decodeForm name, decodeForm value)
    | none => (decodeForm piece, "")

end IndexGuard.Text.Percent
