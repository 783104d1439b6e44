/-
**Document stores.**

A store answers three questions about a collection: which indexes it has, which documents a search
finds, and how many documents a filter accepts. Each may fail for a reason of the store's own.
-/

import IndexGuard.Query.Sort

namespace IndexGuard

/-- Why a store did not do what it was asked. -/
inductive StoreError where
  | unavailable (reason : String)
  | collectionNotFound (name : String)
  | invalidDocument (reason : String)
  | invalidFilter (reason : String)
  | invalidSeed (reason : String)
  deriving DecidableEq

/-- The failure in words. -/
def StoreError.message : StoreError → String
  | unavailable reason => s!"store unavailable: {reason}"
  | collectionNotFound name => s!"collection not found: {name}"
  | invalidDocument reason => s!"invalid document: {reason}"
  | invalidFilter reason => s!"invalid filter: {reason}"
  | invalidSeed reason => s!"invalid seed: {reason}"

/-- A search: filter the documents, sort them, and take a slice. -/
structure Search where
  filter : Filter
  sort : SortOrder := []
  skip : Nat := 0
  limit : Option Nat := none

/-- What a store answers about its collections. -/
structure DocumentStore where
  listIndexes : String → Except StoreError (List Index)
  find : String → Search → Except StoreError (List Json)
  count : String → Filter → Except StoreError Nat

end IndexGuard
