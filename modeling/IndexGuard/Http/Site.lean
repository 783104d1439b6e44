/-
**The site.**

The site answers requests for two routes: `/health`, and `/api/v1/` followed by the name of a
resource. Both can be read, and asked for their headers alone; any other method is refused there.
Every other path is not found. A request for the options of any target is granted at once, and every
response says which origin may read it.
-/

import IndexGuard.Config
import IndexGuard.Http.Origin
import IndexGuard.Listing.Service
import IndexGuard.Program
import IndexGuard.Text.Percent

namespace IndexGuard.Http

/-- What a path leads to. -/
inductive Route where
  | health
  /-- The list of a resource, named by a path segment that is still encoded. -/
  | listing (segment : String)
  | unknown
  deriving DecidableEq

namespace Route

/-- The start of the paths of resources. -/
def listingRoot : String := "/api/v1/"

/-- The route of a path. -/
def ofPath (path : String) : Route :=
  let root := listingRoot.toList
  let segment := path.toList.drop root.length
  if path = "/health" then health
  else if root.isPrefixOf path.toList && !segment.isEmpty && !segment.contains '/' then
    listing (String.ofList segment)
  else unknown

/-- The methods that a route knows, as the value of a header. -/
def allow : Route → List (String × String)
  | unknown => []
  | _ => [("allow", "GET,HEAD")]

end Route

/-- The service behind the site and its policy for other origins. -/
structure Site where
  service : ListService
  origins : OriginPolicy

namespace Site

/-- The site of a configuration and a store. -/
def ofConfig (config : Config) (store : DocumentStore) : Except OriginError Site :=
  (OriginPolicy.ofOrigins config.corsOrigins).map fun origins =>
    { service := { store := store, resources := Resource.table config.resources }
      origins := origins }

/-- The answer of a failed request. -/
def failure (error : RequestError) : Response := .json error.status error.toJson

/-- The state of the site. -/
def health : Json :=
  .ofPairs [("status", .string "ok"), ("version", .string Program.version)]

/-- The answer of a list. -/
def listing (site : Site) (segment : String) (query : String) : Response :=
  match Text.Percent.decodeSegment? segment with
  | none => .text 400 "Invalid URL: Invalid UTF-8 in `resource`"
  | some name =>
    match site.service.list name (Params.ofPairs (Text.Percent.formPairs query)) with
    | .ok page => .json 200 page.toJson
    | .error error => failure error

/-- The answer to a request to read a target. -/
def read (site : Site) (target : Target) : Response :=
  match Route.ofPath target.path with
  | .health => .json 200 health
  | .listing segment => site.listing segment (target.query.getD "")
  | .unknown => failure (.routeNotFound target.text)

/-- The answer to a request, whatever its origin. -/
def answer (site : Site) (request : Request) : Response :=
  let route := Route.ofPath request.target.path
  match request.method, route with
  | .options, _ =>
    { status := 200
      headers := .ofPairs
        (("access-control-allow-headers", "*") :: ("access-control-allow-methods", "*") ::
          route.allow) }
  | .get, _ | _, .unknown => site.read request.target
  | .head, _ => (site.read request.target).withoutBody
  | .other _, _ => { status := 405, headers := route.allow }

/-- The headers that a response depends on. -/
def vary : String := "origin, access-control-request-method, access-control-request-headers"

/-- The response to a request. -/
def respond (site : Site) (request : Request) : Response :=
  let origin :=
    match site.origins.allowed? (request.header? "origin") with
    | some origin => [("access-control-allow-origin", origin)]
    | none => []
  (site.answer request).withHeaders (("vary", vary) :: origin)

end Site

end IndexGuard.Http
