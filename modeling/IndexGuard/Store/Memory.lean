/-
**A store in memory.**

Collections are kept by name, each with its declared indexes and its documents in the order of
insertion. Every collection has the index `[id]` without declaring it. A document without an `id`
gets the next number of a counter that all collections share, as 24 hexadecimal digits.

* `createCollection` adds indexes to a collection, new or not; empty and repeated ones are passed
  over;
* `insert` stores a document, or fails and leaves every collection as it was;
* `ofSeed` fills a store collection by collection in the order of their names;
* `reads` is what the store answers about its collections.
-/

import IndexGuard.Filter.Match
import IndexGuard.Store.Basic
import IndexGuard.Store.Order

namespace IndexGuard

/-- The field of the primary key. -/
def idField : String := "id"

/-- The indexes and documents of a collection. -/
structure Collection where
  indexes : List Index := []
  documents : List Json := []

/-- Collections by name, and the next number for an `id`. -/
structure MemoryStore where
  collections : Fields Collection := []
  nextId : Nat := 0

namespace Collection

/-- Declare an index, unless it is empty, implicit or declared already. -/
def declare (collection : Collection) (index : Index) : Collection :=
  if index.isEmpty || index == [idField] || collection.indexes.contains index then collection
  else { collection with indexes := collection.indexes ++ [index] }

/-- All indexes, with the implicit one first. -/
def allIndexes (collection : Collection) : List Index := [idField] :: collection.indexes

/-- The documents that a search finds, with its filter read. -/
def find (collection : Collection) (accepts : Json → Bool) (search : Search) : List Json :=
  let sorted := search.sort.sort (collection.documents.filter accepts)
  let page := sorted.drop search.skip
  match search.limit with
  | some limit => page.take limit
  | none => page

end Collection

namespace MemoryStore

/-- Create a collection, or add indexes to one. -/
def createCollection (store : MemoryStore) (name : String) (indexes : List Index) : MemoryStore :=
  let collection := (Fields.get? store.collections name).getD {}
  let declared := indexes.foldl Collection.declare collection
  { store with collections := Fields.insert store.collections name declared }

/-- The number of an `id` as 24 hexadecimal digits. -/
def idText (number : Nat) : String :=
  let digits := Nat.toDigits 16 number
  String.ofList (List.replicate (24 - digits.length) '0' ++ digits)

/-- A document with an `id`, and the next number. -/
def withId (nextId : Nat) (fields : Fields Json) : Fields Json × Nat :=
  if Fields.has fields idField then (fields, nextId)
  else (Fields.insert fields idField (.string (idText nextId)), nextId + 1)

/-- Insert a document: the store afterwards, and the stored document or the failure. A number is
used up even when the collection is missing. -/
def insert (store : MemoryStore) (name : String) (document : Json) :
    MemoryStore × Except StoreError Json :=
  match document with
  | .object fields =>
    let (fields, nextId) := withId store.nextId fields
    match Fields.get? store.collections name with
    | none => ({ store with nextId := nextId }, .error (.collectionNotFound name))
    | some collection =>
      let stored := { collection with documents := collection.documents ++ [.object fields] }
      ({ collections := Fields.insert store.collections name stored, nextId := nextId },
        .ok (.object fields))
  | _ => (store, .error (.invalidDocument "documents must be JSON objects"))

/-- The names of the collections in order. -/
def collectionNames (store : MemoryStore) : List String := Fields.names store.collections

/-- A collection by name. -/
def collection? (store : MemoryStore) (name : String) : Except StoreError Collection :=
  match Fields.get? store.collections name with
  | some collection => .ok collection
  | none => .error (.collectionNotFound name)

/-- A filter with its patterns read. -/
def test? (filter : Filter) : Except StoreError (Json → Bool) :=
  filter.compile?.mapError fun fault => .invalidFilter fault.message

/-- What the store answers about its collections. -/
def reads (store : MemoryStore) : DocumentStore where
  listIndexes name := (store.collection? name).map Collection.allIndexes
  find name search := do
    let accepts ← test? search.filter
    let collection ← store.collection? name
    return collection.find accepts search
  count name filter := do
    let accepts ← test? filter
    let collection ← store.collection? name
    return (collection.documents.filter accepts).length

/-! ### Seeds -/

/-- The indexes and documents to fill a collection with. -/
structure SeedCollection where
  indexes : List Index := []
  documents : List Json := []

/-- What to fill a store with, by name of the collection. -/
structure Seed where
  collections : Fields SeedCollection := []

/-- Insert documents in turn, up to the first failure. -/
def insertAll? (store : MemoryStore) (name : String) :
    List Json → Except StoreError MemoryStore
  | [] => .ok store
  | document :: rest =>
    match store.insert name document with
    | (_, .error failure) => .error failure
    | (store, .ok _) => insertAll? store name rest

/-- Fill collections in turn, up to the first failure. -/
def fill? (store : MemoryStore) : Fields SeedCollection → Except StoreError MemoryStore
  | [] => .ok store
  | (name, seed) :: rest => do
    let filled ← (store.createCollection name seed.indexes).insertAll? name seed.documents
    fill? filled rest

/-- The store that a seed fills. -/
def ofSeed? (seed : Seed) : Except StoreError MemoryStore := fill? {} seed.collections

end MemoryStore

open Json in
/-- The content of a collection that a JSON text says. -/
def MemoryStore.SeedCollection.ofSource? (source : Source) : Option MemoryStore.SeedCollection := do
  match ← source.record? ["indexes", "documents"] with
  | [indexes, documents] =>
    return {
      indexes := ← Source.withDefault? (Source.list? Index.ofSource?) [] indexes
      documents := ← Source.withDefault? (Source.list? Source.toJson?) [] documents }
  | _ => none

open Json in
/-- The seed that a JSON text says. -/
def MemoryStore.Seed.ofSource? (source : Source) : Option MemoryStore.Seed := do
  match ← source.record? ["collections"] with
  | [collections] =>
    return {
      collections :=
        ← Source.withDefault? (Source.table? MemoryStore.SeedCollection.ofSource?) [] collections }
  | _ => none

end IndexGuard
