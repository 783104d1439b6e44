/-
**List queries.**

A list query is a request that the indexes of its collection cover. `ListQuery.build` reads the
indexes, refuses the first filter field that none of them covers, then an order that none of them
can be read in, and keeps the filter, the order and the page. The documents of the page (`fetch`)
and their total number (`count`) are asked for with the same filter.
-/

import IndexGuard.Filter.Native
import IndexGuard.Query.Coverage
import IndexGuard.Query.Paging
import IndexGuard.Query.Request
import IndexGuard.Store.Basic

namespace IndexGuard

/-- Why a list query is not answered. -/
inductive QueryError where
  | filterNotIndexed (field : String)
  | sortNotIndexed (sort : String)
  | storeUnavailable (failure : StoreError)
  deriving DecidableEq

namespace QueryError

/-- The error in words. -/
def message : QueryError → String
  | filterNotIndexed field =>
    s!"Query is not applicable: field '{field}' is not covered by an index"
  | sortNotIndexed sort => s!"Sort is not applicable: '{sort}' matches no index"
  | storeUnavailable failure => s!"Store unavailable: {failure.message}"

/-- The client has to change the request. -/
def isClientError : QueryError → Bool
  | storeUnavailable _ => false
  | _ => true

end QueryError

/-- A query for a page of the documents of a collection. -/
structure ListQuery where
  collection : String
  filter : Filter
  sort : SortOrder
  paging : Paging

/-- What a list query is going to ask, as a store document. -/
structure QueryPlan where
  collection : String
  filter : Json
  sort : Json
  page : Nat
  limit : Nat
  skip : Nat

/-- The plan as JSON. -/
def QueryPlan.toJson (plan : QueryPlan) : Json :=
  .ofPairs
    [("collection", .string plan.collection), ("filter", plan.filter), ("sort", plan.sort),
      ("page", .nat plan.page), ("limit", .nat plan.limit), ("skip", .nat plan.skip)]

namespace Catalog

/-- Refuse the first filter field that is not covered. -/
def checkFilter (catalog : Catalog) (requested : List String) : Except QueryError Unit :=
  match catalog.firstUncovered? requested with
  | some field => .error (.filterNotIndexed field)
  | none => .ok ()

/-- The order that tokens ask for, unless no index can be read in it. -/
def checkSort (catalog : Catalog) (tokens : List String) : Except QueryError SortOrder :=
  let order := SortOrder.ofTokens tokens
  if catalog.serves order then .ok order else .error (.sortNotIndexed order.text)

/-- The order of a request; the default order needs no check. -/
def sortOf (catalog : Catalog) : SortRequest → Except QueryError SortOrder
  | .unspecified => .ok (SortOrder.ofTokens SortRequest.unspecified.toTokens)
  | .requested tokens => catalog.checkSort tokens

/-- The catalog of a collection. -/
def load (store : DocumentStore) (collection : String) : Except QueryError Catalog :=
  match store.listIndexes collection with
  | .ok declared => .ok (ofDeclared declared)
  | .error failure => .error (.storeUnavailable failure)

end Catalog

namespace ListQuery

/-- The query of a request. -/
def build (store : DocumentStore) (collection : String) (params : Params) (injected : Filter) :
    Except QueryError ListQuery := do
  let catalog ← Catalog.load store collection
  let request := Request.ofParams params injected
  catalog.checkFilter request.filterFields
  let sort ← catalog.sortOf request.sort
  return {
    collection := collection
    filter := request.combinedFilter
    sort := sort
    paging := Paging.ofParams params }

/-- The search for the documents of the page. -/
def search (query : ListQuery) : Search where
  filter := query.filter
  sort := query.sort
  skip := query.paging.skip
  limit := some query.paging.limit

/-- The documents of the page. -/
def fetch (query : ListQuery) (store : DocumentStore) : Except QueryError (List Json) :=
  (store.find query.collection query.search).mapError .storeUnavailable

/-- The number of documents on all pages. -/
def count (query : ListQuery) (store : DocumentStore) : Except QueryError Nat :=
  (store.count query.collection query.filter).mapError .storeUnavailable

/-- What the query is going to ask. -/
def plan (query : ListQuery) : QueryPlan where
  collection := query.collection
  filter := query.filter.toNative
  sort := query.sort.toNative
  page := query.paging.page
  limit := query.paging.limit
  skip := query.paging.skip

end ListQuery

end IndexGuard
