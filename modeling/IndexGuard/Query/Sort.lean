/-
**Sort orders.**

A sort order is a list of fields with a direction each, asked for by tokens such as `title` or
`-year`. A field that is named again keeps its place and takes the new direction.
-/

import IndexGuard.Filter.Coded
import IndexGuard.Query.Index

namespace IndexGuard

/-- The direction of a sort key. -/
inductive Direction where
  | ascending
  | descending
  deriving DecidableEq

namespace Direction

/-- The opposite direction. -/
def flipped : Direction → Direction
  | ascending => descending
  | descending => ascending

/-- The name of a direction. -/
def name : Direction → String
  | ascending => "ascending"
  | descending => "descending"

/-- The direction in a store document. -/
def toNative : Direction → Int
  | ascending => 1
  | descending => -1

/-- The direction that a value names. -/
def ofJson? (value : Json) : Option Direction :=
  (value.choiceName? Json.isNull).bind fun name =>
    [ascending, descending].find? fun direction => direction.name == name

end Direction

/-- A field to sort by. -/
structure SortKey where
  field : String
  direction : Direction
  deriving DecidableEq

namespace SortKey

/-- The key that a token asks for: a leading dash means descending. -/
def ofToken (token : String) : SortKey :=
  match token.toList with
  | '-' :: field => ⟨String.ofList field, .descending⟩
  | _ => ⟨token, .ascending⟩

/-- The token of a key. -/
def token (key : SortKey) : String :=
  match key.direction with
  | .ascending => key.field
  | .descending => "-" ++ key.field

/-- The same field in the opposite direction. -/
def flipped (key : SortKey) : SortKey := { key with direction := key.direction.flipped }

/-- The key as JSON. -/
def toJson (key : SortKey) : Json :=
  .ofPairs [("field", .string key.field), ("direction", .string key.direction.name)]

/-- The key that a value writes, as an object or as an array of both parts. -/
def ofJson? (value : Json) : Option SortKey := do
  let parts ←
    match value with
    | .object fields => ["field", "direction"].mapM (Fields.get? fields)
    | .array items => if items.length = 2 then some items else none
    | _ => none
  match parts with
  | [field, direction] => return ⟨← field.text?, ← Direction.ofJson? direction⟩
  | _ => none

end SortKey

/-- A sort order. -/
abbrev SortOrder := List SortKey

namespace SortOrder

/-- Add a key: a new field goes last, a known one takes the new direction. -/
def add (order : SortOrder) (key : SortKey) : SortOrder :=
  if order.any fun known => known.field == key.field then
    order.map fun known => if known.field = key.field then key else known
  else order ++ [key]

/-- The order that tokens ask for. -/
def ofTokens (tokens : List String) : SortOrder :=
  (tokens.map SortKey.ofToken).foldl add []

/-- The order of an index read forward. -/
def ofIndex (index : Index) : SortOrder := index.map fun field => ⟨field, .ascending⟩

/-- All directions flipped. -/
def reversed (order : SortOrder) : SortOrder := order.map SortKey.flipped

/-- The tokens joined by commas. -/
def text (order : SortOrder) : String := ",".intercalate (order.map SortKey.token)

/-- The order as a store document: pairs of a field and 1 or -1. -/
def toNative (order : SortOrder) : Json :=
  .array (order.map fun key => .array [.string key.field, .int key.direction.toNative])

/-- The order as JSON. -/
def toJson (order : SortOrder) : Json := .array (order.map SortKey.toJson)

/-- The order that a value writes. -/
def ofJson? : Json → Option SortOrder
  | .array items => items.mapM SortKey.ofJson?
  | _ => none

end SortOrder

end IndexGuard
