/-
**Reading JSON text.**

`Source.read?` accepts a text that is one JSON value between blanks (space, tab, line feed, carriage
return) and gives what it says; `Json.parse?` gives its value. Arrays and objects may enclose each
other up to `nestingLimit` deep; what is nested deeper has no value.
-/

import IndexGuard.Json.Source
import IndexGuard.Json.Number

namespace IndexGuard.Json

namespace Source

/-- How many arrays and objects may enclose each other. -/
def nestingLimit : Nat := 127

/-- The blanks between the parts of a text. -/
def isSeparator (char : Char) : Bool :=
  char == ' ' || char == '\n' || char == '\t' || char == '\r'

/-- Skip blanks. -/
def skip (chars : List Char) : List Char := chars.dropWhile isSeparator

/-- The value of a hexadecimal digit. -/
def hexValue? (char : Char) : Option Nat :=
  if '0' ≤ char && char ≤ '9' then some (char.toNat - '0'.toNat)
  else if 'a' ≤ char && char ≤ 'f' then some (char.toNat - 'a'.toNat + 10)
  else if 'A' ≤ char && char ≤ 'F' then some (char.toNat - 'A'.toNat + 10)
  else none

/-- The code that four hexadecimal digits spell. -/
def unit? (first second third fourth : Char) : Option Nat :=
  match hexValue? first, hexValue? second, hexValue? third, hexValue? fourth with
  | some first, some second, some third, some fourth =>
    some (((first * 16 + second) * 16 + third) * 16 + fourth)
  | _, _, _, _ => none

/-- The first half of a surrogate pair. -/
def isHighHalf (code : Nat) : Bool := 0xD800 ≤ code && code ≤ 0xDBFF

/-- The second half of a surrogate pair. -/
def isLowHalf (code : Nat) : Bool := 0xDC00 ≤ code && code ≤ 0xDFFF

/-- The character that a backslash and a letter stand for. -/
def escaped? : Char → Option Char
  | '"' => some '"'
  | '\\' => some '\\'
  | '/' => some '/'
  | 'b' => some '\x08'
  | 'f' => some '\x0c'
  | 'n' => some '\n'
  | 'r' => some '\r'
  | 't' => some '\t'
  | _ => none

/-- The characters of a string read so far: in reverse, or none when half a surrogate pair stood
alone; and a first half that still waits for its second. -/
structure StringPart where
  reversed : Option (List Char)
  half : Option Nat

/-- Take in a character; a half that waited stays alone. -/
def StringPart.add (part : StringPart) (char : Char) : StringPart :=
  if part.half.isSome then ⟨none, none⟩ else ⟨part.reversed.map (char :: ·), none⟩

/-- Take in a code unit. -/
def StringPart.addUnit (part : StringPart) (code : Nat) : StringPart :=
  if isLowHalf code then
    match part.half with
    | some high =>
      let char := Char.ofNat (0x10000 + (high - 0xD800) * 0x400 + (code - 0xDC00))
      ⟨part.reversed.map (char :: ·), none⟩
    | none => ⟨none, none⟩
  else if isHighHalf code then
    ⟨if part.half.isSome then none else part.reversed, some code⟩
  else part.add (Char.ofNat code)

/-- The finished text. -/
def StringPart.text? (part : StringPart) : Option String :=
  if part.half.isSome then none
  else part.reversed.map fun reversed => String.ofList reversed.reverse

/-- A string after its opening quote, and the text after its closing quote. -/
def string? (part : StringPart) : List Char → Option (Option String × List Char)
  | [] => none
  | '"' :: rest => some (part.text?, rest)
  | '\\' :: 'u' :: first :: second :: third :: fourth :: rest =>
    match unit? first second third fourth with
    | none => none
    | some code => string? (part.addUnit code) rest
  | '\\' :: letter :: rest =>
    match escaped? letter with
    | none => none
    | some char => string? (part.add char) rest
  | char :: rest => if char.toNat < 0x20 then none else string? (part.add char) rest

/-- The digits at the start of a text and what follows them. -/
def digits (chars : List Char) : List Char × List Char :=
  (chars.takeWhile Char.isDigit, chars.dropWhile Char.isDigit)

/-- The exponent of a number, when there is one. -/
def exponentPart? : List Char → Option (Option Int × List Char)
  | mark :: rest =>
    if mark = 'e' || mark = 'E' then
      let (negative, rest) := Binary64.splitSign rest
      let (places, rest) := digits rest
      let value : Int := Binary64.digitsValue places
      if places.isEmpty then none else some (some (if negative then -value else value), rest)
    else some (none, mark :: rest)
  | [] => some (none, [])

/-- The fraction of a number, when there is one. -/
def fractionPart? : List Char → Option (Option (List Char) × List Char)
  | '.' :: rest =>
    let (places, rest) := digits rest
    if places.isEmpty then none else some (some places, rest)
  | rest => some (none, rest)

/-- A number: no digit may follow a leading zero. -/
def numeral? (chars : List Char) : Option (Numeral × List Char) := do
  let (negative, rest) :=
    match chars with
    | '-' :: rest => (true, rest)
    | _ => (false, chars)
  let (whole, rest) := digits rest
  if whole.isEmpty || (whole.head? == some '0' && 1 < whole.length) then none
  else
    let (fraction, rest) ← fractionPart? rest
    let (exponent, rest) ← exponentPart? rest
    return (⟨negative, whole, fraction, exponent⟩, rest)

/-- A word at the start of a text, taken off it. -/
def word? (word chars : List Char) : Option (List Char) :=
  if word.isPrefixOf chars then some (chars.drop word.length) else none

/-- An array or object at a depth: it has no value below the limit. -/
def nested (depth : Nat) (source : Source) : Source :=
  if nestingLimit ≤ depth then unreadable else source

mutual

/-- One value, at a depth, and the text after it. -/
def value? (fuel depth : Nat) (chars : List Char) : Option (Source × List Char) :=
  match fuel with
  | 0 => none
  | fuel + 1 =>
    match chars with
    | '"' :: rest =>
      (string? ⟨some [], none⟩ rest).map fun (text, rest) => (text.elim unreadable string, rest)
    | '[' :: rest =>
      match skip rest with
      | ']' :: rest => some (nested depth (array []), rest)
      | rest => items? fuel depth [] rest
    | '{' :: rest =>
      match skip rest with
      | '}' :: rest => some (nested depth (object []), rest)
      | rest => fields? fuel depth [] rest
    | 'n' :: rest => (word? "ull".toList rest).map fun rest => (null, rest)
    | 't' :: rest => (word? "rue".toList rest).map fun rest => (bool true, rest)
    | 'f' :: rest => (word? "alse".toList rest).map fun rest => (bool false, rest)
    | chars =>
      (numeral? chars).map fun (numeral, rest) => (numeral.value?.elim unreadable number, rest)

/-- The items of an array from one of them on, behind those already read. -/
def items? (fuel depth : Nat) (reversed : List Source) (chars : List Char) :
    Option (Source × List Char) :=
  match fuel with
  | 0 => none
  | fuel + 1 =>
    match value? fuel (depth + 1) chars with
    | none => none
    | some (item, rest) =>
      match skip rest with
      | ',' :: rest => items? fuel depth (item :: reversed) (skip rest)
      | ']' :: rest => some (nested depth (array (item :: reversed).reverse), rest)
      | _ => none

/-- The fields of an object from one of them on, behind those already read. -/
def fields? (fuel depth : Nat) (reversed : List (Option String × Source)) (chars : List Char) :
    Option (Source × List Char) :=
  match fuel with
  | 0 => none
  | fuel + 1 =>
    match chars with
    | '"' :: rest =>
      match string? ⟨some [], none⟩ rest with
      | none => none
      | some (name, rest) =>
        match skip rest with
        | ':' :: rest =>
          match value? fuel (depth + 1) (skip rest) with
          | none => none
          | some (item, rest) =>
            match skip rest with
            | ',' :: rest => fields? fuel depth ((name, item) :: reversed) (skip rest)
            | '}' :: rest => some (nested depth (object ((name, item) :: reversed).reverse), rest)
            | _ => none
        | _ => none
    | _ => none

end

/-- What a JSON text says. -/
def read? (text : String) : Option Source :=
  let chars := text.toList
  match value? (2 * chars.length + 1) 0 (skip chars) with
  | some (source, rest) => if (skip rest).isEmpty then some source else none
  | none => none

end Source

/-- The value of a JSON text. -/
def parse? (text : String) : Option Json :=
  (Source.read? text).bind Source.toJson?

end IndexGuard.Json
