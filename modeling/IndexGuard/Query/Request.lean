/-
**From request parameters to a filter and an order.**

Every parameter but the control keys asks for one field:

* a plain value, or several, has to be equal to it as text or as a list of texts;
* a part named after a range operator is a bound, the last value given for it;
* all other parts together are an object it has to be equal to.

The `sort` parameter is split at commas into tokens, without the blanks around them; with no token
left, the most recent documents come first.
-/

import IndexGuard.Query.Params
import IndexGuard.Query.Sort

namespace IndexGuard

namespace ParamValue

mutual

/-- The JSON value a field has to be equal to. -/
def query : ParamValue → Json
  | single text => .string text
  | many texts => .strings texts
  | nested parts => .object (queryParts parts)
  | mixed plain _ => query plain

/-- The fields of the object that a field has to be equal to. -/
def queryParts : List (String × ParamValue) → List (String × Json)
  | [] => []
  | (part, value) :: rest => (part, query value) :: queryParts rest

end

/-- The bound of a range: the last of several values. -/
def bound : ParamValue → Json
  | many texts => (texts.getLast?.map Json.string).getD .null
  | value => value.query

/-- The filter that the parts of a parameter ask for. -/
def partsFilter (field : String) (parts : Fields ParamValue) : Filter :=
  let ranges := parts.filterMap fun (part, value) =>
    (RangeOp.ofSuffix? part).map fun op => Filter.range field op value.bound
  let others := parts.filter fun (part, _) => (RangeOp.ofSuffix? part).isNone
  let object := if others.isEmpty then [] else [Filter.equals field (.object (queryParts others))]
  Filter.allOf (ranges ++ object)

/-- The filter that a parameter asks for. -/
def filter (field : String) (value : ParamValue) : Filter :=
  match value with
  | single _ | many _ => Filter.equals field value.query
  | nested parts => partsFilter field parts
  | mixed plain parts => Filter.allOf [Filter.equals field plain.query, partsFilter field parts]

end ParamValue

/-- The order of a request. -/
inductive SortRequest where
  /-- No order is asked for: the most recent documents come first. -/
  | unspecified
  | requested (tokens : List String)
  deriving DecidableEq

namespace SortRequest

/-- The token of the order that is used when none is asked for. -/
def defaultToken : String := "-id"

/-- The tokens of an order. -/
def toTokens : SortRequest → List String
  | unspecified => [defaultToken]
  | requested tokens => tokens

/-- The tokens of a `sort` text. -/
def tokensOf (text : String) : List String :=
  (((Text.pieces ',' text.toList).map Text.trim).filter fun token => !token.isEmpty).map
    String.ofList

/-- The order that a `sort` text asks for. -/
def ofText (text : String) : SortRequest :=
  match tokensOf text with
  | [] => unspecified
  | tokens => requested tokens

/-- The order that a request asks for. -/
def ofParams (params : Params) : SortRequest :=
  match params.text? Params.sortKey with
  | some text => ofText text
  | none => unspecified

end SortRequest

/-- A request as filter and order, beside the criteria that the resource adds. -/
structure Request where
  userFilter : Filter
  /-- The fields that the client filters by, in order. -/
  filterFields : List String
  sort : SortRequest
  /-- Criteria that need no index. -/
  injected : Filter

namespace Request

/-- The request that parameters make. -/
def ofParams (params : Params) (injected : Filter) : Request :=
  let asked := params.withoutControls
  { userFilter := Filter.allOf (asked.map fun (field, value) => value.filter field)
    filterFields := asked.names
    sort := SortRequest.ofParams params
    injected := injected }

/-- The filter that documents have to pass. -/
def combinedFilter (request : Request) : Filter :=
  Filter.both request.userFilter request.injected

end Request

end IndexGuard
