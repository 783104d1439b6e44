/-
**Comparing a document value with a query value.**

The values of a request arrive as text. A text in the query stands for a number beside a number, and
for a truth value beside a truth value; blanks around a number do not count. Numbers are compared as
binary64 numbers.

* `matchesValue` decides whether a document value equals a query value;
* `order?` is the order between them, when they have one.
-/

import IndexGuard.Filter.Basic
import IndexGuard.Binary64.Decimal
import IndexGuard.Text.Blank

namespace IndexGuard.Json

/-- The number a query text stands for. -/
def numberIn? (text : String) : Option Binary64 :=
  Binary64.ofText? (Text.trim text.toList)

/-- The truth value a query text stands for. -/
def boolIn? (text : String) : Option Bool :=
  if text = "true" then some true else if text = "false" then some false else none

/-- A document value equals a query value. -/
def matchesValue (value query : Json) : Bool :=
  match value, query with
  | .number stored, .string text =>
    (numberIn? text).any fun asked => asked.equal stored.toBinary64
  | .bool value, .string text => boolIn? text == some value
  | .number first, .number second => first.toBinary64.equal second.toBinary64
  | value, query => value.same query

/-- The order of a document value to a query value. -/
def order? (value query : Json) : Option Ordering :=
  match value, query with
  | .number first, .number second => first.toBinary64.compare? second.toBinary64
  | .number stored, .string text => (numberIn? text).bind stored.toBinary64.compare?
  | .string first, .string second => some (compare first second)
  | .bool first, .bool second => some (compare first.toNat second.toNat)
  | _, _ => none

end IndexGuard.Json
