/-
**The command line and the site answer alike.**

* `Command.queryOutcome`, `runQuery_eq`: a query opens the configuration and its store, and then
  leaves behind what its service answers;
* `Http.Request.AsksFor`, `answer_of_asks`: a request to read the list of a resource is answered by
  the service for the pairs of its query;
* `ListPage.Shows`, `shows_toJson`: what a page is as JSON;
* `Agree`, `agree_of_asks`: with the pairs that the arguments write, both succeed together with the
  page of the service, and fail together with the same message;
* `query_agrees_with_site` puts this together with what the arguments give.
-/

import IndexGuard.Proofs.Arguments
import IndexGuard.Proofs.Decision

namespace IndexGuard

open Params (Malformed Writes)

/-! ### Commands -/

namespace Command

/-- What a query leaves behind once its service is there. -/
def queryOutcome (service : ListService) (name : String) (arguments : List String) : Outcome :=
  match Params.ofArguments arguments with
  | .error fault => .failed fault
  | .ok params => .ofResult ((service.list name params).map ListPage.toJson)

/-- **A query leaves behind what the service of its configuration answers.** -/
theorem runQuery_eq {m : Type → Type} [Monad m]
    (read : String → m (Except ReadFailure String)) (path name : String)
    (arguments : List String) :
    runQuery read ⟨path, name, arguments⟩ = openConfig read path >>= fun opened =>
      pure <|
        match opened with
        | .error fault => .failed fault
        | .ok (config, store) => queryOutcome (config.service store) name arguments := by
  show openConfig read path >>= _ = _
  congr 1
  funext opened
  cases opened with
  | error fault => rfl
  | ok found =>
    show (match Params.ofArguments arguments with
      | .error fault => pure (Outcome.failed fault)
      | .ok params => pure _) = pure (queryOutcome _ name arguments)
    unfold queryOutcome
    cases Params.ofArguments arguments <;> rfl

end Command

/-! ### Requests -/

namespace Http

/-- A path with one segment behind the root of the lists leads to a list. -/
theorem Route.ofPath_eq_listing {path segment : String} (behindRoot : path = listingRoot ++ segment)
    (nonempty : segment ≠ "") (single : '/' ∉ segment.toList) :
    Route.ofPath path = .listing segment := by
  have chars : path.toList = listingRoot.toList ++ segment.toList := by
    rw [behindRoot, String.toList_append]
  have notHealth : path ≠ "/health" := by
    intro isHealth
    have heads := congrArg (fun text => text.toList.take 2) isHealth
    rw [chars, List.take_append_of_le_length (by decide)] at heads
    exact absurd heads (by decide)
  have behind : path.toList.drop listingRoot.toList.length = segment.toList := by
    rw [chars, List.drop_left]
  have starts : listingRoot.toList.isPrefixOf path.toList = true :=
    List.isPrefixOf_iff_prefix.mpr ⟨segment.toList, chars.symm⟩
  unfold ofPath
  rw [if_neg notHealth]
  simp only [behind]
  rw [if_pos (by simp [starts, nonempty, single]), String.ofList_toList]

/-- The request reads the list of a resource, and its query holds the pairs. -/
structure Request.AsksFor (request : Request) (name : String) (pairs : List (String × String)) :
    Prop where
  method : request.method = .get
  path : ∃ segment, request.target.path = Route.listingRoot ++ segment ∧ segment ≠ "" ∧
    '/' ∉ segment.toList ∧ Text.Percent.decodeSegment? segment = some name
  query : Text.Percent.formPairs (request.target.query.getD "") = pairs

namespace Site

/-- The site of a configuration answers with its service. -/
theorem service_of_ofConfig {config : Config} {store : MemoryStore} {site : Site}
    (made : ofConfig config store.reads = .ok site) : site.service = config.service store := by
  unfold ofConfig at made
  cases policy : OriginPolicy.ofOrigins config.corsOrigins with
  | error fault =>
    rw [policy] at made
    cases made
  | ok origins =>
    rw [policy] at made
    cases made
    rfl

variable (site : Site) {request : Request} {name : String} {pairs : List (String × String)}

/-- **A request for a list is answered by the service.** -/
theorem answer_of_asks (asks : request.AsksFor name pairs) :
    site.answer request =
      match site.service.list name (Params.ofPairs pairs) with
      | .ok page => .json 200 page.toJson
      | .error error => failure error := by
  obtain ⟨segment, behindRoot, nonempty, single, decoded⟩ := asks.path
  have route := Route.ofPath_eq_listing behindRoot nonempty single
  unfold answer
  rw [asks.method, route]
  show site.read request.target = _
  unfold read
  rw [route]
  show site.listing segment (request.target.query.getD "") = _
  unfold listing
  rewrite [decoded, asks.query]
  rfl

/-- What is sent to a request for a list, whatever its headers say. -/
theorem respond_of_asks (asks : request.AsksFor name pairs) :
    ∃ headers, site.respond request =
      match site.service.list name (Params.ofPairs pairs) with
      | .ok page => ⟨200, headers, .json page.toJson⟩
      | .error error => ⟨error.status, headers, .json error.toJson⟩ := by
  unfold respond
  rw [site.answer_of_asks asks]
  cases site.service.list name (Params.ofPairs pairs) <;> exact ⟨_, rfl⟩

end Site

end Http

/-! ### Failures -/

namespace RequestError

/-- A failure is not sent as a page. -/
theorem status_ne (error : RequestError) : error.status ≠ 200 := by
  unfold status
  split
  · decide
  · decide
  · decide
  · split <;> decide

/-- A failure that is not one of the server is sent with its message. -/
theorem message_toJson {error : RequestError} (client : error.status < 500) :
    error.toJson.get? "message" = some (.string error.message) := by
  have isClient : ¬ 500 ≤ error.status := Nat.not_le.mpr client
  simp [toJson, isClient, Json.get?, Json.ofPairs, Fields.get?_ofPairs]

end RequestError

/-- What is printed of a failure has its message. -/
theorem CommandError.message_toJson (error : CommandError) :
    error.toJson.get? "message" = some (.string error.message) := by
  simp [toJson, Json.get?, Json.ofPairs, Fields.get?_ofPairs]

/-! ### Pages -/

/-- A value shows a page: that it is one, its documents and their number, and the number of the
documents on all pages. -/
structure ListPage.Shows (page : ListPage) (value : Json) : Prop where
  status : value.get? "status" = some (.string "success")
  results : value.get? "results" = some (.nat page.documents.length)
  totalResults : value.get? "totalResults" = some (.nat page.total)
  data : value.get? "data" = some (.array page.documents)

/-- **A page is shown by its JSON.** -/
theorem ListPage.shows_toJson (page : ListPage) : page.Shows page.toJson := by
  constructor <;> simp [toJson, Json.get?, Json.ofPairs, Fields.get?_ofPairs]

/-! ### Both answers -/

/-- What a command leaves behind and a response tell the same answer of a service. -/
structure Agree (answer : Except RequestError ListPage) (outcome : Outcome)
    (response : Http.Response) : Prop where
  succeed : outcome.exitCode = 0 ↔ response.status = 200
  /-- The page that is answered is what is sent, and what is printed as data. -/
  page : response.status = 200 → ∃ page : ListPage, answer = .ok page ∧ page.Shows page.toJson ∧
    response.body = .json page.toJson ∧
    outcome.output = some (.ofPairs [("status", .string "ok"), ("data", page.toJson)])
  /-- The message that is sent is the one that is printed and reported. -/
  message : response.status = 400 ∨ response.status = 404 →
    ∃ error sent printed, outcome.error = some error ∧ response.body = .json sent ∧
      outcome.output = some printed ∧ sent.get? "message" = some (.string error.message) ∧
      printed.get? "message" = some (.string error.message)

/-- **With the pairs that the arguments write, a request is answered as the command is.** -/
theorem agree_of_asks (site : Http.Site) {request : Http.Request} {name : String}
    {arguments : List String} {pairs : List (String × String)}
    (written : List.Forall₂ Writes arguments pairs) (asks : request.AsksFor name pairs) :
    Agree (site.service.list name (Params.ofPairs pairs))
      (Command.queryOutcome site.service name arguments) (site.respond request) := by
  have given : Params.ofArguments arguments = .ok (Params.ofPairs pairs) :=
    Params.ofArguments_eq_ok_iff.mpr ⟨pairs, written, rfl⟩
  obtain ⟨headers, sent⟩ := site.respond_of_asks asks
  rw [sent, Command.queryOutcome, given]
  show Agree _
    (.ofResult ((site.service.list name (Params.ofPairs pairs)).map ListPage.toJson)) _
  cases site.service.list name (Params.ofPairs pairs) with
  | ok page =>
    refine ⟨iff_of_true rfl rfl, fun _ => ⟨page, rfl, page.shows_toJson, rfl, rfl⟩,
      fun failed => ?_⟩
    rcases failed with failed | failed <;> cases failed
  | error error =>
    refine ⟨iff_of_false Nat.one_ne_zero error.status_ne,
      fun succeeded => absurd succeeded error.status_ne, fun failed => ?_⟩
    have client : error.status < 500 := by
      rcases failed with failed | failed <;> exact lt_of_eq_of_lt failed (by decide)
    exact ⟨.request error, error.toJson, (CommandError.request error).toJson, rfl, rfl, rfl,
      RequestError.message_toJson client, CommandError.message_toJson (.request error)⟩

/-- **The command line and the site answer alike.** Take any arguments that give the parameters of a
query.

* They give none exactly when one of them has no `=` or begins with it, and the first such argument
  is the one that is named.
* Otherwise they give the parameters of the pairs that they write, each with the first `=` between
  its key and its value.
* A query opens its configuration and leaves behind what the service of this configuration answers,
  which is the service that a site of the configuration answers with.
* A request for the list of the same resource, whose query holds the pairs that the arguments write,
  is answered with a page exactly when the query succeeds. The page is that of the service, and both
  show its documents, their number and the number of those on all pages. If the request is refused
  or the resource is unknown, both give the same message.
-/
theorem query_agrees_with_site (arguments : List String) :
    ((∃ error, Params.ofArguments arguments = .error error) ↔
      ∃ argument ∈ arguments, Malformed argument) ∧
    (∀ error, Params.ofArguments arguments = .error error ↔
      ∃ before bad after, arguments = before ++ bad :: after ∧
        (∀ argument ∈ before, ¬ Malformed argument) ∧ Malformed bad ∧
        error = .invalidParam bad) ∧
    (∀ params, Params.ofArguments arguments = .ok params ↔
      ∃ pairs, List.Forall₂ Writes arguments pairs ∧ params = Params.ofPairs pairs) ∧
    (∀ {m : Type → Type} [Monad m] (read : String → m (Except ReadFailure String))
      (path name : String),
      Command.runQuery read ⟨path, name, arguments⟩ =
        Command.openConfig read path >>= fun opened =>
          pure <|
            match opened with
            | .error fault => .failed fault
            | .ok (config, store) =>
              Command.queryOutcome (config.service store) name arguments) ∧
    (∀ (config : Config) (store : MemoryStore) (site : Http.Site),
      Http.Site.ofConfig config store.reads = .ok site → site.service = config.service store) ∧
    ∀ (site : Http.Site) (request : Http.Request) (name : String)
      (pairs : List (String × String)),
      List.Forall₂ Writes arguments pairs → request.AsksFor name pairs →
        Agree (site.service.list name (Params.ofPairs pairs))
          (Command.queryOutcome site.service name arguments) (site.respond request) := by
  refine ⟨Params.exists_ofArguments_error_iff, fun _ => Params.ofArguments_eq_error_iff,
    fun _ => Params.ofArguments_eq_ok_iff, ?_, ?_, ?_⟩
  · intro m _ read path name
    exact Command.runQuery_eq read path name arguments
  · intro config store site made
    exact Http.Site.service_of_ofConfig made
  · intro site request name pairs written asks
    exact agree_of_asks site written asks

/-- A value with an `=` of its own, given as an argument and in an encoded query. -/
theorem query_agrees_with_site_book :
    ∃ (site : Http.Site) (request : Http.Request) (page : ListPage),
      List.Forall₂ Writes ["author=a=1", "page=1"] [("author", "a=1"), ("page", "1")] ∧
      request.AsksFor "book" [("author", "a=1"), ("page", "1")] ∧
      site.service.list "book" (Params.ofPairs [("author", "a=1"), ("page", "1")]) = .ok page ∧
      page.toJson.get? "data" = some (.array page.documents) ∧
      (Command.queryOutcome site.service "book" ["author=a=1", "page=1"]).exitCode = 0 ∧
      (Command.queryOutcome site.service "book" ["author=a=1", "page=1"]).output =
        some (.ofPairs [("status", .string "ok"), ("data", page.toJson)]) ∧
      (site.respond request).status = 200 ∧
      (site.respond request).body = .json page.toJson := by
  let document : Json := .object [("author", .string "a=1"), ("id", .string "1")]
  let store : MemoryStore := ⟨[("books", ⟨[["author"]], [document]⟩)], 0⟩
  let site : Http.Site := ⟨⟨store.reads, [("book", ⟨"book", "books", none⟩)]⟩, .any⟩
  let request : Http.Request :=
    ⟨.get, ⟨"/api/v1/book", some "author=a%3D1&page=1", "/api/v1/book?author=a%3D1&page=1"⟩, []⟩
  have written : List.Forall₂ Writes ["author=a=1", "page=1"] [("author", "a=1"), ("page", "1")] :=
    .cons ⟨by decide, by decide, by decide⟩ (.cons ⟨by decide, by decide, by decide⟩ .nil)
  have decoded : Text.Percent.decodeSegment? "book" = some "book" := by decide +kernel
  have asks : request.AsksFor "book" [("author", "a=1"), ("page", "1")] :=
    ⟨rfl, ⟨"book", rfl, by decide, by decide, decoded⟩, by decide +kernel⟩
  have succeeds : (Command.queryOutcome site.service "book"
      ["author=a=1", "page=1"]).exitCode = 0 := by
    decide +kernel
  obtain ⟨_, _, _, _, _, agrees⟩ := query_agrees_with_site ["author=a=1", "page=1"]
  have agree := agrees site request "book" _ written asks
  have status := agree.succeed.mp succeeds
  obtain ⟨page, answered, shown, body, printed⟩ := agree.page status
  exact ⟨site, request, page, written, asks, answered, shown.data, succeeds, printed, status, body⟩

end IndexGuard
