/-
**Filters as tagged objects.**

A filter is written as an object whose `kind` says which other fields it has: `eq`, `range`, `regex`
or `and`. Reading also takes an array with the kind in front and the other fields in order. Below
the outermost filter, which has been taken apart by then, the kind may be given by its number, and a
range operator by an object with its name and nothing under it.
-/

import IndexGuard.Filter.Basic
import IndexGuard.Json.Source

namespace IndexGuard

/-- The name of an operator as JSON. -/
def RangeOp.toJson (op : RangeOp) : Json := .string op.suffix

/-- The name of a choice without content, as text or as an object with nothing under the name. -/
def Json.choiceName? (isNothing : Json → Bool) : Json → Option String
  | .string name => some name
  | .object [(name, value)] => if isNothing value then some name else none
  | _ => none

/-- A value that says nothing. -/
def Json.isNull : Json → Bool
  | .null => true
  | _ => false

/-- A value that says nothing inside a tagged object. -/
def Json.isNothing : Json → Bool
  | .null => true
  | .object [] => true
  | _ => false

/-- The operator that a value names. -/
def RangeOp.ofJson? (value : Json) : Option RangeOp :=
  (value.choiceName? Json.isNull).bind ofSuffix?

namespace Filter

mutual

/-- A filter as a tagged object. -/
def toJson : Filter → Json
  | leaf ⟨field, .equals value⟩ =>
    .ofPairs [("kind", .string "eq"), ("field", .string field), ("value", value)]
  | leaf ⟨field, .range op bound⟩ =>
    .ofPairs
      [("kind", .string "range"), ("field", .string field), ("op", op.toJson), ("value", bound)]
  | leaf ⟨field, .pattern source ignoreCase⟩ =>
    .ofPairs
      [("kind", .string "regex"), ("field", .string field), ("pattern", .string source),
        ("case_insensitive", .bool ignoreCase)]
  | all clauses => .ofPairs [("kind", .string "and"), ("clauses", .array (toJsonItems clauses))]

/-- Filters as tagged objects. -/
def toJsonItems : List Filter → List Json
  | [] => []
  | clause :: rest => toJson clause :: toJsonItems rest

end

/-- The kinds of filters and the names of their fields. -/
inductive Kind where
  | equals
  | range
  | pattern
  | all

/-- The kinds by number. -/
def kinds : List (String × Kind) :=
  [("eq", .equals), ("range", .range), ("regex", .pattern), ("and", .all)]

/-- The kind that a value names; a number counts only inside another filter. -/
def kind? (inside : Bool) : Json → Option Kind
  | .string name => (kinds.find? fun kind => kind.1 == name).map Prod.snd
  | .number (.integer place) =>
    if inside && 0 ≤ place then (kinds[place.toNat]?).map Prod.snd else none
  | _ => none

/-- The fields of a kind in order. -/
def fieldNames : Kind → List String
  | .equals => ["field", "value"]
  | .range => ["field", "op", "value"]
  | .pattern => ["field", "pattern", "case_insensitive"]
  | .all => ["clauses"]

/-- The kind and the fields of a filter written as an object or an array. -/
def parts? (inside : Bool) : Json → Option (Kind × List Json)
  | .object fields => do
    let kind ← kind? inside (← Fields.get? fields "kind")
    let values ← (fieldNames kind).mapM (Fields.get? fields)
    return (kind, values)
  | .array (tag :: values) => do
    let kind ← kind? inside tag
    if values.length = (fieldNames kind).length then some (kind, values) else none
  | _ => none

/-- The truth value of a JSON value. -/
def bool? : Json → Option Bool
  | .bool value => some value
  | _ => none

/-- The items of a JSON array. -/
def items? : Json → Option (List Json)
  | .array items => some items
  | _ => none

/-- The filter that a value writes, nested up to `depth` deep. -/
def ofJsonWithin? : Nat → Bool → Json → Option Filter
  | 0, _, _ => none
  | depth + 1, inside, value =>
    match parts? inside value with
    | some (.equals, [field, value]) => field.text?.map fun field => equals field value
    | some (.range, [field, op, value]) => do
      let op ← (op.choiceName? Json.isNothing).bind RangeOp.ofSuffix?
      return range (← field.text?) op value
    | some (.pattern, [field, source, ignoreCase]) => do
      return pattern (← field.text?) (← source.text?) (← bool? ignoreCase)
    | some (.all, [clauses]) => do
      let clauses ← (← items? clauses).mapM (ofJsonWithin? depth true)
      return all clauses
    | _ => none

end Filter

namespace Json

mutual

/-- How deep a value is nested. -/
def depth : Json → Nat
  | .array items => depthOfItems items + 1
  | .object fields => depthOfFields fields + 1
  | _ => 0

/-- How deep the deepest of some values is nested. -/
def depthOfItems : List Json → Nat
  | [] => 0
  | item :: rest => max (depth item) (depthOfItems rest)

/-- How deep the deepest of some fields is nested. -/
def depthOfFields : List (String × Json) → Nat
  | [] => 0
  | (_, value) :: rest => max (depth value) (depthOfFields rest)

end

end Json

/-- The filter that a value writes. -/
def Filter.ofJson? (value : Json) : Option Filter :=
  ofJsonWithin? (value.depth + 1) false value

end IndexGuard
