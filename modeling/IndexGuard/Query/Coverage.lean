/-
**Which requests an index covers.**

A filter field is covered when it is an index of its own, or the last field of a compound entry
whose other fields are asked for as well. An order is covered when it is an entry of the catalog
read forward or, in all its keys, backward.
-/

import IndexGuard.Query.Index
import IndexGuard.Query.Sort

namespace IndexGuard.Catalog

/-- A field is covered beside the other fields that are asked for. -/
def covers (catalog : Catalog) (requested : List String) (field : String) : Bool :=
  catalog.simple.any (fun index => index.head? == some field) ||
    catalog.compound.any fun index =>
      index.getLast? == some field && index.all fun other => requested.contains other

/-- The first field that is not covered. -/
def firstUncovered? (catalog : Catalog) (requested : List String) : Option String :=
  requested.find? fun field => !catalog.covers requested field

/-- An order can be read off an index. -/
def serves (catalog : Catalog) (order : SortOrder) : Bool :=
  !order.isEmpty &&
    catalog.indexes.any fun index =>
      SortOrder.ofIndex index == order || SortOrder.ofIndex index == order.reversed

end IndexGuard.Catalog
