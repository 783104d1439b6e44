/-
**Resources.**

A resource is what a client can list: a name, the collection behind it, and possibly a search field.
A request that gives the search field one text that is not empty asks for the documents that contain
this text (`Resource.criteria`); the parameter is taken out of the request (`Resource.remaining`),
so that no index has to cover the search field.
-/

import IndexGuard.Filter.Basic
import IndexGuard.Query.Params
import IndexGuard.Json.Source

namespace IndexGuard

/-- A name that clients list a collection by. -/
structure Resource where
  name : String
  collection : String
  /-- The field that is searched for a part of its text. -/
  searchField : Option String := none
  deriving DecidableEq

namespace Resource

/-- The resources of the catalogue. -/
def catalogue : List Resource :=
  [⟨"book", "books", some "title"⟩, ⟨"author", "authors", some "name"⟩,
    ⟨"review", "reviews", none⟩, ⟨"user", "users", some "email"⟩]

/-- The search that a request asks for: a field and a text. -/
def search? (resource : Resource) (params : Params) : Option (String × String) := do
  let field ← resource.searchField
  let text ← params.text? field
  if text.isEmpty then none else some (field, text)

/-- The criteria that the search adds to the query. -/
def criteria (resource : Resource) (params : Params) : Filter :=
  match resource.search? params with
  | some (field, text) => Filter.contains field text
  | none => Filter.everything

/-- The parameters that are left for the client's own filter. -/
def remaining (resource : Resource) (params : Params) : Params :=
  match resource.search? params with
  | some (field, _) => Fields.erase params field
  | none => params

/-- The resource as JSON. -/
def toJson (resource : Resource) : Json :=
  .ofPairs
    [("name", .string resource.name), ("collection", .string resource.collection),
      ("search_field", .ofText? resource.searchField)]

open Json in
/-- The resource that a JSON text says. -/
def ofSource? (source : Source) : Option Resource := do
  match ← source.record? ["name", "collection", "search_field"] with
  | [name, collection, searchField] =>
    return {
      name := ← Source.required? Source.text? name
      collection := ← Source.required? Source.text? collection
      searchField := ← Source.withDefault? (Source.optional? Source.text?) none searchField }
  | _ => none

/-- Resources by name; the last of several with one name counts. -/
def table (resources : List Resource) : Fields Resource :=
  Fields.ofPairs (resources.map fun resource => (resource.name, resource))

end Resource

end IndexGuard
