/-
**Characters out of bytes.**

A byte sequence is read as a sequence of runs: a well-formed UTF-8 character, or a maximal
ill-formed run (the longest start of a character that no further byte can complete, or a single
stray byte).

* `decode?` accepts only well-formed text;
* `decodeLossy` puts one U+FFFD in the place of each ill-formed run.
-/

namespace IndexGuard.Text.Utf8

/-- How many bytes follow a lead byte, and the range its second byte must lie in. -/
def lead? (byte : UInt8) : Option (Nat × UInt8 × UInt8) :=
  if 0xC2 ≤ byte && byte ≤ 0xDF then some (1, 0x80, 0xBF)
  else if byte == 0xE0 then some (2, 0xA0, 0xBF)
  else if byte == 0xED then some (2, 0x80, 0x9F)
  else if 0xE1 ≤ byte && byte ≤ 0xEF then some (2, 0x80, 0xBF)
  else if byte == 0xF0 then some (3, 0x90, 0xBF)
  else if byte == 0xF4 then some (3, 0x80, 0x8F)
  else if 0xF1 ≤ byte && byte ≤ 0xF3 then some (3, 0x80, 0xBF)
  else none

/-- A character of which the first bytes have been read. -/
structure Pending where
  /-- How many bytes are still to come. -/
  missing : Nat
  /-- The payload bits read so far. -/
  code : Nat
  /-- The range in which the next byte must lie. -/
  low : UInt8
  high : UInt8

/-- The runs of a byte sequence after the start of a character: a character each, or `none` for a
maximal ill-formed run. A byte that cannot continue a character starts the next run. -/
def runsFrom (pending : Option Pending) : List UInt8 → List (Option Char)
  | [] => if pending.isSome then [none] else []
  | byte :: rest =>
    let start : List (Option Char) :=
      if byte < 0x80 then some (Char.ofNat byte.toNat) :: runsFrom none rest
      else
        match lead? byte with
        | none => none :: runsFrom none rest
        | some (following, low, high) =>
          runsFrom (some ⟨following, byte.toNat % Nat.pow 2 (6 - following), low, high⟩) rest
    match pending with
    | none => start
    | some ⟨missing, code, low, high⟩ =>
      if byte < low || high < byte then none :: start
      else
        let code := code * 64 + byte.toNat % 64
        if missing ≤ 1 then some (Char.ofNat code) :: runsFrom none rest
        else runsFrom (some ⟨missing - 1, code, 0x80, 0xBF⟩) rest

/-- The runs of a byte sequence. -/
def runs (bytes : List UInt8) : List (Option Char) :=
  runsFrom none bytes

/-- The text of a well-formed byte sequence. -/
def decode? (bytes : List UInt8) : Option String :=
  ((runs bytes).mapM id).map String.ofList

/-- The text of any byte sequence, with U+FFFD for each ill-formed run. -/
def decodeLossy (bytes : List UInt8) : String :=
  String.ofList ((runs bytes).map fun run => run.getD '\uFFFD')

/-- The bytes of a text. -/
def encode (text : String) : List UInt8 :=
  text.toByteArray.toList

end IndexGuard.Text.Utf8
