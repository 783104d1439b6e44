/-
**Failures of the store are opaque.**

What a client is told of a failure of the store does not depend on the failure:

* `FailsInStore`, `failsInStore_iff`: a list fails in the store when the store fails at the indexes,
  at the search or at the count;
* `status_eq_500_iff`, `sent_of_failsInStore`: these are the failures that are answered as a fault
  of the server, all with one response;
* `list_of_sameIndexes`: with the same indexes, another store refuses the same requests alike,
  whatever it would find and count;
* `answer_cases`: a request is answered without the service, or with what the service lists;
* `store_failures_hidden` compares the responses of two sites over any two stores.
-/

import IndexGuard.Proofs.Declarations
import IndexGuard.Proofs.FrontEnds

namespace IndexGuard

/-! ### Failures of the store -/

namespace RequestError

/-- The store failed to answer. -/
def InStore (error : RequestError) : Prop := ∃ failure, error = .query (.storeUnavailable failure)

/-- What is sent of every fault of the server. -/
def serverFault : Json :=
  .ofPairs [("status", .string "error"), ("message", .string "Something went wrong!"),
    ("code", .nat 500)]

theorem status_of_not_inStore {error : RequestError} (elsewhere : ¬ error.InStore) :
    error.status = 400 ∨ error.status = 404 := by
  cases error with
  | invalidQueryString reason => exact .inl rfl
  | resourceNotFound name => exact .inr rfl
  | routeNotFound target => exact .inr rfl
  | query fault =>
    cases fault with
    | filterNotIndexed field => exact .inl rfl
    | sortNotIndexed text => exact .inl rfl
    | storeUnavailable failure => exact absurd ⟨failure, rfl⟩ elsewhere

/-- **Only failures of the store are faults of the server.** -/
theorem status_eq_500_iff {error : RequestError} : error.status = 500 ↔ error.InStore := by
  constructor
  · intro server
    by_contra elsewhere
    rcases status_of_not_inStore elsewhere with status | status <;>
      exact absurd (server.symm.trans status) (by decide)
  · rintro ⟨failure, rfl⟩
    rfl

end RequestError

/-! ### Lists that fail in the store -/

namespace ListService

/-- A list ends in a failure of the store. -/
def FailsInStore (service : ListService) (name : String) (params : Params) : Prop :=
  ∃ failure, service.list name params = .error (.query (.storeUnavailable failure))

/-- The store fails at one of the reads of a list. -/
inductive ReadFails (service : ListService) (name : String) (params : Params) : Prop
  | indexes {resource : Resource} {failure : StoreError} :
      Fields.get? service.resources name = some resource →
      service.store.listIndexes resource.collection = .error failure →
      ReadFails service name params
  | search {query : ListQuery} {failure : StoreError} :
      service.query? name params = .ok query →
      service.store.find query.collection query.search = .error failure →
      ReadFails service name params
  | count {query : ListQuery} {failure : StoreError} :
      service.query? name params = .ok query →
      service.store.count query.collection query.filter = .error failure →
      ReadFails service name params

variable {service : ListService} {name : String} {params : Params}

theorem failsInStore_of_readFails (fails : service.ReadFails name params) :
    service.FailsInStore name params := by
  cases fails with
  | @indexes resource failure known failed =>
    refine ⟨failure, list_of_refused ?_⟩
    rw [query?_of_resource known, ListQuery.build_of_unlisted failed]
    rfl
  | search asked failed => exact ⟨_, list_of_find_error asked failed⟩
  | @count query failure asked failed =>
    -- The search is reported when it fails as well.
    cases found : service.store.find query.collection query.search with
    | error other => exact ⟨other, list_of_find_error asked found⟩
    | ok documents => exact ⟨failure, list_of_count_error asked found failed⟩

/-- Without its query a list fails in the store at the indexes only. -/
theorem readFails_of_query?_error {failure : StoreError}
    (refused : service.query? name params = .error (.query (.storeUnavailable failure))) :
    service.ReadFails name params := by
  cases known : Fields.get? service.resources name with
  | none =>
    rw [query?_of_unknown known] at refused
    cases refused
  | some resource =>
    cases listed : service.store.listIndexes resource.collection with
    | error other => exact .indexes known listed
    | ok declared =>
      rw [query?_of_resource known] at refused
      cases built : ListQuery.build service.store resource.collection (resource.remaining params)
          (resource.criteria params) with
      | ok query =>
        rw [built] at refused
        cases refused
      | error fault =>
        have isClient := ListQuery.isClientError_of_build listed built
        rw [built] at refused
        cases refused
        cases isClient

/-- **A list fails in the store when one of its reads does.** -/
theorem failsInStore_iff : service.FailsInStore name params ↔ service.ReadFails name params := by
  refine ⟨fun ⟨failure, failed⟩ => ?_, failsInStore_of_readFails⟩
  cases asked : service.query? name params with
  | error error =>
    rw [list_of_refused asked] at failed
    cases failed
    exact readFails_of_query?_error asked
  | ok query =>
    cases found : service.store.find query.collection query.search with
    | error other => exact .search asked found
    | ok documents =>
      cases counted : service.store.count query.collection query.filter with
      | error other => exact .count asked counted
      | ok total =>
        have answered : service.list name params = .ok ⟨documents, total⟩ :=
          (list_eq_ok_iff asked).mpr ⟨found, counted⟩
        rw [answered] at failed
        cases failed

/-! ### Stores with the same indexes -/

variable {resources : Fields Resource} {first second : DocumentStore}

/-- **Of a store, only the indexes make a difference for a query.** -/
theorem query?_of_sameIndexes
    (same : ∀ collection, first.listIndexes collection = second.listIndexes collection)
    (resources : Fields Resource) (name : String) (params : Params) :
    query? ⟨first, resources⟩ name params = query? ⟨second, resources⟩ name params := by
  unfold query? ListQuery.build Catalog.load
  simp only [same]
  rfl

/-- **With the same indexes, a request is refused alike.** -/
theorem list_of_sameIndexes
    (same : ∀ collection, first.listIndexes collection = second.listIndexes collection)
    {error : RequestError} (elsewhere : ¬ error.InStore)
    (refused : list ⟨first, resources⟩ name params = .error error) :
    list ⟨second, resources⟩ name params = .error error := by
  cases asked : query? ⟨first, resources⟩ name params with
  | error other =>
    rw [list_of_refused asked] at refused
    rw [query?_of_sameIndexes same] at asked
    rw [list_of_refused asked, refused]
  | ok query => exact absurd (list_error_of_query? asked refused) elsewhere

end ListService

/-! ### Responses -/

namespace Http.Site

/-- The response to a request for a list, by how the list ended. -/
def sent : Except RequestError ListPage → Response
  | .ok page => .json 200 page.toJson
  | .error error => failure error

/-- **All failures of the store get one response.** -/
theorem sent_of_failsInStore {service : ListService} {name : String} {params : Params}
    (fails : service.FailsInStore name params) :
    sent (service.list name params) = .json 500 RequestError.serverFault := by
  obtain ⟨failure, failed⟩ := fails
  rw [failed]
  rfl

/-- Only failures of the store are sent as faults of the server. -/
theorem failsInStore_of_sent {service : ListService} {name : String} {params : Params}
    (server : (sent (service.list name params)).status = 500) :
    service.FailsInStore name params := by
  unfold ListService.FailsInStore
  cases ended : service.list name params with
  | ok page =>
    rw [ended] at server
    cases server
  | error error =>
    rw [ended] at server
    obtain ⟨failure, rfl⟩ := RequestError.status_eq_500_iff.mp server
    exact ⟨failure, rfl⟩

/-- A page is sent with another status than a request that is refused. -/
theorem refused_of_sent {result : Except RequestError ListPage}
    (client : (sent result).status = 400 ∨ (sent result).status = 404) :
    ∃ error, ¬ error.InStore ∧ result = .error error := by
  cases result with
  | ok page => rcases client with status | status <;> cases status
  | error error =>
    refine ⟨error, fun inStore => ?_, rfl⟩
    have server : (sent (.error error)).status = 500 := RequestError.status_eq_500_iff.mpr inStore
    rcases client with status | status <;> exact absurd (server.symm.trans status) (by decide)

/-- What the path of a list leads to. -/
theorem listing_cases (segment query : String) :
    (∃ response : Response, response.status ≠ 500 ∧
      ∀ site : Site, site.listing segment query = response) ∨
    ∃ name params, ∀ site : Site,
      site.listing segment query = sent (site.service.list name params) := by
  cases decoded : Text.Percent.decodeSegment? segment with
  | none =>
    refine .inl ⟨.text 400 "Invalid URL: Invalid UTF-8 in `resource`", by decide, fun site => ?_⟩
    rw [listing, decoded]
  | some name =>
    refine .inr ⟨name, Params.ofPairs (Text.Percent.formPairs query), fun site => ?_⟩
    rw [listing, decoded]
    rfl

/-- What a target leads to. -/
theorem read_cases (target : Target) :
    (∃ response : Response, response.status ≠ 500 ∧ ∀ site : Site, site.read target = response) ∨
    ∃ name params, ∀ site : Site, site.read target = sent (site.service.list name params) := by
  unfold read
  cases Route.ofPath target.path with
  | health => exact .inl ⟨.json 200 health, by decide, fun _ => rfl⟩
  | unknown =>
    have elsewhere : (failure (.routeNotFound target.text)).status = 404 := rfl
    exact .inl ⟨_, elsewhere ▸ by decide, fun _ => rfl⟩
  | listing segment => exact listing_cases segment (target.query.getD "")

/-- Some requests are granted or refused at once, and all others read their target. -/
theorem answer_reads (request : Request) :
    (∃ response : Response, response.status ≠ 500 ∧
      ∀ site : Site, site.answer request = response) ∨
    ∃ finish : Response → Response, (finish = id ∨ finish = Response.withoutBody) ∧
      ∀ site : Site, site.answer request = finish (site.read request.target) := by
  obtain ⟨method, target, headers⟩ := request
  unfold answer
  cases method with
  | get => exact .inr ⟨id, .inl rfl, fun _ => rfl⟩
  | options =>
    refine .inl ⟨_, ?_, fun _ => rfl⟩
    show 200 ≠ 500
    decide
  | head =>
    cases Route.ofPath target.path with
    | unknown => exact .inr ⟨id, .inl rfl, fun _ => rfl⟩
    | health => exact .inr ⟨Response.withoutBody, .inr rfl, fun _ => rfl⟩
    | listing segment => exact .inr ⟨Response.withoutBody, .inr rfl, fun _ => rfl⟩
  | other name =>
    have refused : (405 : Nat) ≠ 500 := by decide
    cases Route.ofPath target.path with
    | unknown => exact .inr ⟨id, .inl rfl, fun _ => rfl⟩
    | health => exact .inl ⟨⟨405, Route.health.allow, .empty⟩, refused, fun _ => rfl⟩
    | listing segment =>
      exact .inl ⟨⟨405, (Route.listing segment).allow, .empty⟩, refused, fun _ => rfl⟩

/-- **A request is answered without the service, or with what the service lists**, in full or
without the body. -/
theorem answer_cases (request : Request) :
    (∃ response : Response, response.status ≠ 500 ∧
      ∀ site : Site, site.answer request = response) ∨
    ∃ (name : String) (params : Params) (finish : Response → Response),
      (finish = id ∨ finish = Response.withoutBody) ∧
      ∀ site : Site, site.answer request = finish (sent (site.service.list name params)) := by
  rcases answer_reads request with without | ⟨finish, finishes, reads⟩
  · exact .inl without
  rcases read_cases request.target with ⟨response, noFault, same⟩ | ⟨name, params, listed⟩
  · refine .inl ⟨finish response, ?_, fun site => by rw [reads, same]⟩
    rcases finishes with rfl | rfl <;> exact noFault
  · exact .inr ⟨name, params, finish, finishes, fun site => by rw [reads, listed]⟩

/-- What becomes of a response does not change its status. -/
theorem status_finish {finish : Response → Response}
    (finishes : finish = id ∨ finish = Response.withoutBody) (response : Response) :
    (finish response).status = response.status := by
  rcases finishes with rfl | rfl <;> rfl

/-! ### Sites over two stores -/

/-- The site over a store. -/
def serving (resources : Fields Resource) (origins : OriginPolicy) (store : DocumentStore) :
    Site where
  service := ⟨store, resources⟩
  origins := origins

variable {resources : Fields Resource} {origins : OriginPolicy} {first second : DocumentStore}
  {request : Request}

theorem respond_congr
    (same : (serving resources origins first).answer request =
      (serving resources origins second).answer request) :
    (serving resources origins first).respond request =
      (serving resources origins second).respond request := by
  unfold respond
  rw [same]
  rfl

/-- **A fault of the server tells nothing of the failure**: the response is the same for any two
stores. -/
theorem respond_of_fault
    (firstFault : ((serving resources origins first).answer request).status = 500)
    (secondFault : ((serving resources origins second).answer request).status = 500) :
    (serving resources origins first).respond request =
      (serving resources origins second).respond request := by
  refine respond_congr ?_
  rcases answer_cases request with ⟨response, _, same⟩ | ⟨name, params, finish, finishes, listed⟩
  · rw [same, same]
  · rw [listed, status_finish finishes] at firstFault secondFault
    rw [listed, listed, sent_of_failsInStore (failsInStore_of_sent firstFault),
      sent_of_failsInStore (failsInStore_of_sent secondFault)]

/-- **With the same indexes, a refused request gets the same response.** -/
theorem respond_of_sameIndexes
    (same : ∀ collection, first.listIndexes collection = second.listIndexes collection)
    (refused : ((serving resources origins first).answer request).status = 400 ∨
      ((serving resources origins first).answer request).status = 404) :
    (serving resources origins first).respond request =
      (serving resources origins second).respond request := by
  refine respond_congr ?_
  rcases answer_cases request with ⟨response, _, same⟩ | ⟨name, params, finish, finishes, listed⟩
  · rw [same, same]
  · rw [listed, status_finish finishes] at refused
    obtain ⟨error, elsewhere, ended⟩ := refused_of_sent refused
    rw [listed, listed, ended]
    exact congrArg (fun result => finish (sent result))
      (ListService.list_of_sameIndexes same elsewhere ended).symm

/-- The body of a fault of the server says that something went wrong, or it is not sent. -/
theorem body_of_fault (site : Site) (fault : (site.respond request).status = 500) :
    (site.respond request).body = .json RequestError.serverFault ∨
      (site.respond request).body = .empty := by
  have status : (site.answer request).status = 500 := fault
  show (site.answer request).body = _ ∨ (site.answer request).body = _
  rcases answer_cases request with ⟨response, noFault, same⟩ |
      ⟨name, params, finish, finishes, listed⟩
  · rw [same] at status
    exact absurd status noFault
  · rw [listed, status_finish finishes] at status
    rw [listed, sent_of_failsInStore (failsInStore_of_sent status)]
    rcases finishes with rfl | rfl
    · exact .inl rfl
    · exact .inr rfl

/-- **Failures of the store are opaque.** Take the resources and the policy of a site, and any two
stores, each of which may fail in its own way at the indexes, at the search and at the count.

* A list ends in a failure of the store exactly when the store fails at one of its reads.
* When lists of the same resource end so for both stores, the same response is sent, a fault of the
  server with its general message, so it makes no difference which of two failing reads is reported.
  The sites of both stores give the same response to a request for this list.
* Of a fault of the server no more than the general message is ever sent, and a request that both
  sites answer with one gets the same response from both.
* When both stores have the same indexes, a list that is refused is refused alike, and every request
  that one site answers as a fault of the client gets the same response from the other.
-/
theorem store_failures_hidden (resources : Fields Resource) (origins : OriginPolicy)
    (first second : DocumentStore) :
    (∀ name params, ListService.FailsInStore ⟨first, resources⟩ name params ↔
      ListService.ReadFails ⟨first, resources⟩ name params) ∧
    (∀ name params, ListService.FailsInStore ⟨first, resources⟩ name params →
      ListService.FailsInStore ⟨second, resources⟩ name params →
      sent (ListService.list ⟨first, resources⟩ name params) =
          .json 500 RequestError.serverFault ∧
        sent (ListService.list ⟨second, resources⟩ name params) =
          .json 500 RequestError.serverFault ∧
        ∀ request pairs, request.AsksFor name pairs → Params.ofPairs pairs = params →
          ((serving resources origins first).respond request).status = 500 ∧
          ((serving resources origins first).respond request).body =
            .json RequestError.serverFault ∧
          (serving resources origins first).respond request =
            (serving resources origins second).respond request) ∧
    (∀ request, ((serving resources origins first).respond request).status = 500 →
      (((serving resources origins first).respond request).body = .json RequestError.serverFault ∨
        ((serving resources origins first).respond request).body = .empty) ∧
      (((serving resources origins second).respond request).status = 500 →
        (serving resources origins first).respond request =
          (serving resources origins second).respond request)) ∧
    ((∀ collection, first.listIndexes collection = second.listIndexes collection) →
      (∀ name params error, ¬ error.InStore →
        ListService.list ⟨first, resources⟩ name params = .error error →
        ListService.list ⟨second, resources⟩ name params = .error error) ∧
      ∀ request, ((serving resources origins first).respond request).status = 400 ∨
          ((serving resources origins first).respond request).status = 404 →
        (serving resources origins first).respond request =
          (serving resources origins second).respond request) := by
  refine ⟨fun name params => ListService.failsInStore_iff,
    fun name params firstFails secondFails => ?_,
    fun request fault => ⟨body_of_fault _ fault, fun other => respond_of_fault fault other⟩,
    fun same => ⟨fun name params error elsewhere => ListService.list_of_sameIndexes same elsewhere,
      fun request refused => respond_of_sameIndexes same refused⟩⟩
  have firstSent := sent_of_failsInStore firstFails
  have secondSent := sent_of_failsInStore secondFails
  refine ⟨firstSent, secondSent, fun request pairs asks isParams => ?_⟩
  subst isParams
  have firstAnswer : (serving resources origins first).answer request = _ :=
    (answer_of_asks _ asks).trans firstSent
  have secondAnswer : (serving resources origins second).answer request = _ :=
    (answer_of_asks _ asks).trans secondSent
  refine ⟨?_, ?_, respond_congr (firstAnswer.trans secondAnswer.symm)⟩
  · show ((serving resources origins first).answer request).status = 500
    rw [firstAnswer]
    rfl
  · show ((serving resources origins first).answer request).body = _
    rw [firstAnswer]
    rfl

/-- Three stores, of which two fail in different ways and two have the same indexes. -/
theorem store_failures_hidden_book :
    ∃ (resources : Fields Resource) (first second third : DocumentStore)
      (request refused : Request),
      ListService.FailsInStore ⟨first, resources⟩ "book" (Params.ofPairs [("id", "1")]) ∧
      ListService.FailsInStore ⟨second, resources⟩ "book" (Params.ofPairs [("id", "1")]) ∧
      ((serving resources .any first).respond request).status = 500 ∧
      ((serving resources .any first).respond request).body = .json RequestError.serverFault ∧
      (serving resources .any first).respond request =
        (serving resources .any second).respond request ∧
      ((serving resources .any second).respond refused).status = 400 ∧
      (serving resources .any second).respond refused =
        (serving resources .any third).respond refused := by
  let resources : Fields Resource := [("book", ⟨"book", "books", none⟩)]
  let first : DocumentStore :=
    ⟨fun _ => .error (.unavailable "disk on fire"), fun _ _ => .ok [], fun _ _ => .ok 0⟩
  let second : DocumentStore :=
    ⟨fun _ => .ok [["id"]], fun _ _ => .error (.invalidFilter "title"),
      fun name _ => .error (.collectionNotFound name)⟩
  let third : DocumentStore := ⟨fun _ => .ok [["id"]], fun _ _ => .ok [], fun _ _ => .ok 0⟩
  let request : Request := ⟨.get, ⟨"/api/v1/book", some "id=1", "/api/v1/book?id=1"⟩, []⟩
  let refused : Request := ⟨.get, ⟨"/api/v1/book", some "year=1937", "/api/v1/book?year=1937"⟩, []⟩
  have decoded : Text.Percent.decodeSegment? "book" = some "book" := by decide +kernel
  have asks : request.AsksFor "book" [("id", "1")] :=
    ⟨rfl, ⟨"book", rfl, by decide, by decide, decoded⟩, by decide +kernel⟩
  have firstFails : ListService.FailsInStore ⟨first, resources⟩ "book"
      (Params.ofPairs [("id", "1")]) := ⟨_, rfl⟩
  have secondFails : ListService.FailsInStore ⟨second, resources⟩ "book"
      (Params.ofPairs [("id", "1")]) := ⟨_, rfl⟩
  have status : ((serving resources .any second).respond refused).status = 400 := by decide +kernel
  obtain ⟨_, hidden, _, _⟩ := store_failures_hidden resources .any first second
  obtain ⟨_, _, _, alike⟩ := store_failures_hidden resources .any second third
  obtain ⟨_, _, sites⟩ := hidden "book" _ firstFails secondFails
  obtain ⟨server, body, same⟩ := sites request _ asks rfl
  exact ⟨resources, first, second, third, request, refused, firstFails, secondFails, server, body,
    same, status, (alike fun _ => rfl).2 refused (.inl status)⟩

end Http.Site

end IndexGuard
