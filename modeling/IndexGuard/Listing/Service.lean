/-
**The list service.**

The service answers requests for the resources it knows out of a store: `list` gives one page of the
documents and their total number, `explain` says what `list` would ask the store for.
-/

import IndexGuard.Listing.Error
import IndexGuard.Listing.Resource

namespace IndexGuard

/-- One page of a list. -/
structure ListPage where
  documents : List Json
  /-- The number of documents on all pages. -/
  total : Nat

/-- The page as JSON. -/
def ListPage.toJson (page : ListPage) : Json :=
  .ofPairs
    [("status", .string "success"), ("results", .nat page.documents.length),
      ("totalResults", .nat page.total), ("data", .array page.documents)]

/-- A store and the resources that it serves. -/
structure ListService where
  store : DocumentStore
  resources : Fields Resource

namespace ListService

/-- A resource by name. -/
def resource? (service : ListService) (name : String) : Except RequestError Resource :=
  match Fields.get? service.resources name with
  | some resource => .ok resource
  | none => .error (.resourceNotFound name)

/-- The query of a request for a resource. -/
def query? (service : ListService) (name : String) (params : Params) :
    Except RequestError ListQuery := do
  let resource ← service.resource? name
  (ListQuery.build service.store resource.collection (resource.remaining params)
    (resource.criteria params)).mapError .query

/-- One page of a resource. Of a failing search and a failing count the search is reported. -/
def list (service : ListService) (name : String) (params : Params) :
    Except RequestError ListPage := do
  let query ← service.query? name params
  let documents ← (query.fetch service.store).mapError .query
  let total ← (query.count service.store).mapError .query
  return ⟨documents, total⟩

/-- What a list of a resource would ask the store for. -/
def explain (service : ListService) (name : String) (params : Params) :
    Except RequestError QueryPlan := do
  let query ← service.query? name params
  return query.plan

end ListService

end IndexGuard
