/-
**Filters.**

A filter is a test of one field or a conjunction of filters; the conjunction of none accepts every
document. `leaves` lists the field tests of a filter from left to right, whatever the nesting:

* `allOf` is the flat conjunction of the leaves of some filters, and a single leaf stands alone;
* `both` is always a conjunction, of the leaves of two filters;
* `fields` lists the fields of the leaves, each at its first place.
-/

import IndexGuard.Json.Value
import IndexGuard.Regex.Pattern

namespace IndexGuard

/-- How a field may be compared with a bound. -/
inductive RangeOp where
  | greater
  | greaterOrEqual
  | less
  | lessOrEqual
  deriving DecidableEq

namespace RangeOp

/-- The operators. -/
def operators : List RangeOp := [greater, greaterOrEqual, less, lessOrEqual]

/-- The name of an operator in a request. -/
def suffix : RangeOp → String
  | greater => "gt"
  | greaterOrEqual => "gte"
  | less => "lt"
  | lessOrEqual => "lte"

/-- The name of an operator in a store document. -/
def token (op : RangeOp) : String := "$" ++ op.suffix

/-- The operator with a name in a request. -/
def ofSuffix? (suffix : String) : Option RangeOp :=
  operators.find? fun op => op.suffix == suffix

/-- The operator with a name in a store document. -/
def ofToken? (token : String) : Option RangeOp :=
  operators.find? fun op => op.token == token

/-- Under names that tell the operators apart, an operator is found by its name. -/
theorem find?_eq_some_iff {name : RangeOp → String}
    (apart : ∀ first second, name first = name second → first = second) {text : String}
    {op : RangeOp} : (operators.find? fun op => name op == text) = some op ↔ name op = text := by
  constructor
  · intro found
    have named := List.find?_some found
    exact beq_iff_eq.mp named
  · rintro rfl
    have member : op ∈ operators := by cases op <;> decide
    cases found : operators.find? fun other => name other == name op with
    | none => exact absurd (beq_self_eq_true _) (List.find?_eq_none.mp found op member)
    | some other =>
      have named := List.find?_some found
      rw [apart other op (beq_iff_eq.mp named)]

/-- The operator accepts a value that stands in an order to the bound. -/
def accepts : RangeOp → Ordering → Bool
  | greater, order => order == .gt
  | greaterOrEqual, order => order != .lt
  | less, order => order == .lt
  | lessOrEqual, order => order != .gt

end RangeOp

/-- What is asked of a field. -/
inductive Test where
  | equals (value : Json)
  | range (op : RangeOp) (bound : Json)
  /-- Some part of a text matches a pattern. -/
  | pattern (source : String) (ignoreCase : Bool)

/-- A test of a field. -/
structure Leaf where
  field : String
  test : Test

/-- A filter on documents. -/
inductive Filter where
  | leaf (leaf : Leaf)
  | all (clauses : List Filter)

namespace Filter

/-- The filter that accepts every document. -/
def everything : Filter := all []

/-- The field equals a value. -/
def equals (field : String) (value : Json) : Filter := leaf ⟨field, .equals value⟩

/-- The field lies on one side of a bound. -/
def range (field : String) (op : RangeOp) (bound : Json) : Filter := leaf ⟨field, .range op bound⟩

/-- The field matches a pattern. -/
def pattern (field source : String) (ignoreCase : Bool) : Filter :=
  leaf ⟨field, .pattern source ignoreCase⟩

/-- The field contains a text, in any letter case. -/
def contains (field text : String) : Filter :=
  pattern field (Regex.Pattern.escape text) true

mutual

/-- The field tests of a filter from left to right. -/
def leaves : Filter → List Leaf
  | leaf test => [test]
  | all clauses => leavesOf clauses

/-- The field tests of some filters from left to right. -/
def leavesOf : List Filter → List Leaf
  | [] => []
  | clause :: rest => leaves clause ++ leavesOf rest

end

/-- The flat conjunction of some tests; a single one stands alone. -/
def ofLeaves : List Leaf → Filter
  | [only] => leaf only
  | tests => all (tests.map leaf)

/-- The conjunction of some filters, flattened. -/
def allOf (filters : List Filter) : Filter := ofLeaves (leavesOf filters)

/-- The conjunction of two filters, flattened. -/
def both (first second : Filter) : Filter := all ((leaves first ++ leaves second).map leaf)

/-- The filter accepts every document because it tests nothing. -/
def isEmpty (filter : Filter) : Bool := filter.leaves.isEmpty

/-- The fields that are tested, each at its first place. -/
def fields (filter : Filter) : List String := (filter.leaves.map Leaf.field).eraseDups

end Filter

end IndexGuard
