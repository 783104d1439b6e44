/-
**JSON values.**

A number is an integer or a binary64 number: `1` and `1.0` are different values, although both are
the same binary64 number (`Number.toBinary64`). An object lists its fields by name; `ofPairs` and
the reader keep the names in order.

* `get?` reads a field of an object; no other value has fields;
* `same` is equality of values, in which the two zeros of binary64 are equal.
-/

import IndexGuard.Fields
import IndexGuard.Binary64.Basic

namespace IndexGuard

/-- A JSON number. -/
inductive Number where
  | integer (value : Int)
  | binary (value : Binary64)
  deriving DecidableEq

namespace Number

/-- The nearest binary64 number. -/
def toBinary64 : Number → Binary64
  | integer value => Binary64.ofInt value
  | binary value => value

/-- Equality of JSON numbers: an integer never equals a binary64 number. -/
def same : Number → Number → Bool
  | integer first, integer second => first == second
  | binary first, binary second => first.equal second
  | _, _ => false

end Number

/-- A JSON value. -/
inductive Json where
  | null
  | bool (value : Bool)
  | number (value : Number)
  | string (text : String)
  | array (items : List Json)
  | object (fields : List (String × Json))

namespace Json

/-- The integer as a JSON number. -/
def int (value : Int) : Json := number (.integer value)

/-- The natural number as a JSON number. -/
def nat (value : Nat) : Json := int value

/-- The list of texts as a JSON array. -/
def strings (texts : List String) : Json := array (texts.map string)

/-- The object with the given fields, listed by name. -/
def ofPairs (pairs : List (String × Json)) : Json := object (Fields.ofPairs pairs)

/-- A text, or `null` when there is none. -/
def ofText? : Option String → Json
  | some text => string text
  | none => null

/-- A field of an object. -/
def get? (value : Json) (name : String) : Option Json :=
  match value with
  | object fields => Fields.get? fields name
  | _ => none

/-- The text of a JSON string. -/
def text? : Json → Option String
  | string text => some text
  | _ => none

mutual

/-- Equality of JSON values. -/
def same : Json → Json → Bool
  | null, null => true
  | bool first, bool second => first == second
  | number first, number second => first.same second
  | string first, string second => first == second
  | array first, array second => sameItems first second
  | object first, object second => sameFields first second
  | _, _ => false

/-- Equality of lists of values. -/
def sameItems : List Json → List Json → Bool
  | [], [] => true
  | first :: others, second :: rest => same first second && sameItems others rest
  | _, _ => false

/-- Equality of lists of fields: the same names with equal values. -/
def sameFields : List (String × Json) → List (String × Json) → Bool
  | [], [] => true
  | (name, first) :: others, (other, second) :: rest =>
    name == other && same first second && sameFields others rest
  | _, _ => false

end

end Json

end IndexGuard
