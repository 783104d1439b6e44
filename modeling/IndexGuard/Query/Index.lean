/-
**Indexes and what they can serve.**

An index is a list of fields in key order. It serves the queries of each of its leading parts as
well, so the catalog of a collection holds the declared indexes and all their truncations
(`Catalog.ofDeclared`).
-/

import IndexGuard.Json.Source

namespace IndexGuard

/-- The fields of an index in key order. -/
abbrev Index := List String

namespace Index

/-- The index has exactly one field. -/
def isSimple (index : Index) : Bool := index.length == 1

/-- The proper leading parts of an index, longest first. -/
def truncations (index : Index) : List Index :=
  ((List.range index.length).drop 1).reverse.map fun length => index.take length

/-- The index that a JSON text says. -/
def ofSource? : Json.Source → Option Index :=
  Json.Source.list? Json.Source.text?

end Index

/-- A sequence of fields that can be served, and the declared index behind it. -/
structure CatalogEntry where
  index : Index
  /-- The place of the declared index among those that are not empty. -/
  origin : Nat
  /-- Whether the entry is a truncation. -/
  derived : Bool
  deriving DecidableEq

/-- All that the indexes of a collection can serve. -/
structure Catalog where
  entries : List CatalogEntry

namespace Catalog

/-- The catalog of declared indexes: those that are not empty in order, then their truncations. -/
def ofDeclared (declared : List Index) : Catalog :=
  let placed := (declared.filter fun index => !index.isEmpty).zipIdx
  { entries :=
      (placed.map fun (index, origin) => ⟨index, origin, false⟩) ++
        placed.flatMap fun (index, origin) =>
          index.truncations.map fun part => ⟨part, origin, true⟩ }

/-- The field sequences of the catalog. -/
def indexes (catalog : Catalog) : List Index := catalog.entries.map CatalogEntry.index

/-- The entries with one field. -/
def simple (catalog : Catalog) : List Index := catalog.indexes.filter Index.isSimple

/-- The entries with several fields. -/
def compound (catalog : Catalog) : List Index :=
  catalog.indexes.filter fun index => 1 < index.length

/-- The field sequence is an entry. -/
def contains (catalog : Catalog) (fields : List String) : Bool :=
  catalog.indexes.contains fields

end Catalog

end IndexGuard
