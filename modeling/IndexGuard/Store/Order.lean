/-
**The order of documents.**

Documents are compared by the keys of a sort order in turn. Values of different kinds are in the
order missing or `null`, number, text, object, array, truth value; two objects and two arrays count
as equal.
-/

import IndexGuard.Filter.Compare
import IndexGuard.Query.Sort

namespace IndexGuard

/-- The place of a field value among the kinds of values. -/
def Json.rank : Option Json → Nat
  | none | some .null => 0
  | some (.number _) => 1
  | some (.string _) => 2
  | some (.object _) => 3
  | some (.array _) => 4
  | some (.bool _) => 5

/-- The order of two field values. -/
def Json.compareRanked (first second : Option Json) : Ordering :=
  match first, second with
  | some left, some right =>
    if rank first = rank second then (left.order? right).getD .eq
    else compare (rank first) (rank second)
  | _, _ => compare (rank first) (rank second)

/-- The order turned round where a direction says so. -/
def Direction.apply : Direction → Ordering → Ordering
  | ascending, order => order
  | descending, order => order.swap

/-- The order of two documents by one key. -/
def SortKey.compareDocuments (key : SortKey) (first second : Json) : Ordering :=
  key.direction.apply (Json.compareRanked (first.get? key.field) (second.get? key.field))

/-- The order of two documents by keys in turn. -/
def SortOrder.compareDocuments (order : SortOrder) (first second : Json) : Ordering :=
  match order with
  | [] => .eq
  | key :: rest => (key.compareDocuments first second).then (compareDocuments rest first second)

/-- Documents sorted by an order; equal ones stay as they stood. -/
def SortOrder.sort (order : SortOrder) (documents : List Json) : List Json :=
  documents.mergeSort fun first second => (order.compareDocuments first second).isLE

end IndexGuard
