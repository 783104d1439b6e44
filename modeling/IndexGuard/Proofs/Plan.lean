/-
**A plan says what a list asks the store for.**

A plan holds the filter and the order of a query as store documents. `Filter.ofNative` reads the
filter back and `SortOrder.ofNative?` the order:

* `SortOrder.ofNative?_toNative`: an order is read back as it was;
* `legible_query?`: the query of a request tests nothing that could be read back as another test;
* `explain_describes_list`: so the answer to a request is what the store answers to the plan.
-/

import IndexGuard.Proofs.Decision
import IndexGuard.Proofs.Injection

namespace IndexGuard

/-! ### Orders read back -/

/-- The direction that a number stands for. -/
def Direction.ofNative? : Json → Option Direction
  | .number (.integer sign) => [ascending, descending].find? fun direction =>
    direction.toNative == sign
  | _ => none

/-- The key that a pair of a field and a number stands for. -/
def SortKey.ofNative? : Json → Option SortKey
  | .array [.string field, sign] => (Direction.ofNative? sign).map fun direction =>
    ⟨field, direction⟩
  | _ => none

/-- The order that a list of pairs stands for. -/
def SortOrder.ofNative? : Json → Option SortOrder
  | .array pairs => pairs.mapM SortKey.ofNative?
  | _ => none

theorem Direction.ofNative?_toNative (direction : Direction) :
    ofNative? (.int direction.toNative) = some direction := by
  cases direction <;> rfl

/-- **An order is read back as it was.** -/
theorem SortOrder.ofNative?_toNative (order : SortOrder) :
    ofNative? order.toNative = some order := by
  have readKey : ∀ key : SortKey,
      SortKey.ofNative? (.array [.string key.field, .int key.direction.toNative]) = some key := by
    intro key
    rw [SortKey.ofNative?, Direction.ofNative?_toNative]
    rfl
  show (order.map fun key => _).mapM SortKey.ofNative? = some order
  induction order with
  | nil => rfl
  | cons key rest ih =>
    rw [List.map_cons, List.mapM_cons, readKey, ih]
    rfl

/-! ### The filter of a request -/

theorem Resource.legible_criteria (resource : Resource) (pairs : List (String × String)) :
    ∀ test ∈ (resource.criteria (Params.ofPairs pairs)).leaves, test.Legible := by
  unfold Resource.criteria
  cases searches : resource.search? (Params.ofPairs pairs) with
  | none => exact fun test member => absurd member List.not_mem_nil
  | some search =>
    obtain ⟨field, text⟩ := search
    have safe := Resource.isSafe_of_search? searches
    intro test member
    rw [List.mem_singleton.mp member]
    refine ⟨?_, nofun⟩
    rintro rfl
    exact absurd safe (by decide)

namespace ListService

/-- A service with a store in memory. -/
def inMemory (store : MemoryStore) (resources : Fields Resource) : ListService where
  store := store.reads
  resources := resources

variable {store : MemoryStore} {resources : Fields Resource} {name : String} {params : Params}
  {pairs : List (String × String)} {query : ListQuery}

/-- The query of a request is built for its resource. -/
theorem exists_resource {service : ListService} (asked : service.query? name params = .ok query) :
    ∃ resource, Fields.get? service.resources name = some resource ∧
      ListQuery.build service.store resource.collection (resource.remaining params)
        (resource.criteria params) = .ok query := by
  cases known : Fields.get? service.resources name with
  | none =>
    rw [query?_of_unknown known] at asked
    cases asked
  | some resource =>
    rw [query?_of_resource known] at asked
    refine ⟨resource, rfl, ?_⟩
    cases built : ListQuery.build service.store resource.collection (resource.remaining params)
        (resource.criteria params) with
    | error error =>
      rw [built] at asked
      cases asked
    | ok made =>
      rw [built] at asked
      cases asked
      rfl

/-- **The query of a request is legible.** -/
theorem legible_query? {service : ListService}
    (asked : service.query? name (Params.ofPairs pairs) = .ok query) :
    ∀ test ∈ query.filter.leaves, test.Legible := by
  obtain ⟨resource, _, built⟩ := exists_resource asked
  obtain ⟨others, remaining⟩ := resource.remaining_ofPairs pairs
  obtain ⟨_, _, _, _, _, rfl⟩ := ListQuery.build_eq_ok built
  rw [remaining]
  show ∀ test ∈ (Filter.both _ _).leaves, test.Legible
  rw [Filter.leaves_both, List.forall_mem_append]
  refine ⟨fun test member => ?_, resource.legible_criteria pairs⟩
  exact (Request.harmless_userFilter others _ test member).legible

/-! ### Explaining -/

/-- **A request is explained by the plan of its query.** -/
theorem explain_eq_ok_iff {service : ListService} {plan : QueryPlan} :
    service.explain name params = .ok plan ↔
      ∃ query, service.query? name params = .ok query ∧ query.plan = plan := by
  unfold explain
  cases service.query? name params with
  | error error => simp [bind, Except.bind]
  | ok query => simp [bind, Except.bind, pure, Except.pure]

theorem explain_eq_error_iff {service : ListService} {error : RequestError} :
    service.explain name params = .error error ↔ service.query? name params = .error error := by
  unfold explain
  cases service.query? name params with
  | error fault => simp [bind, Except.bind]
  | ok query => simp [bind, Except.bind, pure, Except.pure]

/-- The filter of a plan is read back to one that reads like the filter of the query. -/
theorem compile?_plan {service : ListService}
    (asked : service.query? name (Params.ofPairs pairs) = .ok query) :
    (Filter.ofNative query.plan.filter).compile? = query.filter.compile? := by
  refine Filter.compile?_congr ?_
  show (Filter.ofNative query.filter.toNative).leaves = query.filter.leaves
  rw [Filter.ofNative_toNative _ (legible_query? asked), Filter.leaves_ofLeaves]

/-- A failing search is what is answered. -/
theorem list_of_find_error {service : ListService} {failure : StoreError}
    (asked : service.query? name params = .ok query)
    (failed : service.store.find query.collection query.search = .error failure) :
    service.list name params = .error (.query (.storeUnavailable failure)) := by
  unfold list ListQuery.fetch
  rw [asked]
  simp only [bind, Except.bind, failed, Except.mapError]

/-- A count that fails is what a list reports when the search succeeds. -/
theorem list_of_count_error {service : ListService} {documents : List Json} {failure : StoreError}
    (asked : service.query? name params = .ok query)
    (found : service.store.find query.collection query.search = .ok documents)
    (failed : service.store.count query.collection query.filter = .error failure) :
    service.list name params = .error (.query (.storeUnavailable failure)) := by
  unfold list ListQuery.count
  rw [asked]
  simp only [bind, Except.bind, ListQuery.fetch_of_find found, failed, Except.mapError]

/-- **A page holds what the store finds and counts for the query.** -/
theorem list_eq_ok_iff {service : ListService} {page : ListPage}
    (asked : service.query? name params = .ok query) :
    service.list name params = .ok page ↔
      service.store.find query.collection query.search = .ok page.documents ∧
        service.store.count query.collection query.filter = .ok page.total := by
  constructor
  · intro answered
    cases found : service.store.find query.collection query.search with
    | error failure =>
      rw [list_of_find_error asked found] at answered
      cases answered
    | ok documents =>
      cases counted : service.store.count query.collection query.filter with
      | error failure =>
        rw [list_of_count_error asked found counted] at answered
        cases answered
      | ok total =>
        rw [ListQuery.list_of_query? asked (ListQuery.fetch_of_find found)
          (ListQuery.count_of_count counted)] at answered
        cases answered
        exact ⟨rfl, rfl⟩
  · rintro ⟨found, counted⟩
    exact ListQuery.list_of_query? asked (ListQuery.fetch_of_find found)
      (ListQuery.count_of_count counted)

/-- The query of a request is answered when its search text is not too large for a pattern. -/
theorem exists_page_of_query?
    (asked : (inMemory store resources).query? name params = .ok query)
    (fits : ∀ resource, Fields.get? resources name = some resource → resource.SearchFits params) :
    ∃ page, (inMemory store resources).list name params = .ok page := by
  obtain ⟨resource, found, built⟩ := exists_resource asked
  obtain ⟨_, _, fetched, counted⟩ := Resource.exists_answer (fits resource found) built
  exact ⟨_, ListQuery.list_of_query? asked fetched counted⟩

/-- **A plan says what a list asks the store for.** For the pairs of any request to a service with a
store in memory:

* a request is explained exactly when its query can be built, and of both the first fault is the
  same, with which the list fails as well;
* when it is explained, the order of the plan can be read, and a page is answered exactly when it
  holds what the store finds and counts for the collection, the filter, the order, the skip and the
  limit of the plan; a search that fails in the store is what is answered;
* and a page is answered unless the text to search for is too large for a pattern.
-/
theorem explain_describes_list (store : MemoryStore) (resources : Fields Resource) (name : String)
    (pairs : List (String × String)) :
    (∀ error, (inMemory store resources).explain name (Params.ofPairs pairs) = .error error ↔
      (inMemory store resources).query? name (Params.ofPairs pairs) = .error error) ∧
    ((∃ plan, (inMemory store resources).explain name (Params.ofPairs pairs) = .ok plan) ↔
      ∃ query, (inMemory store resources).query? name (Params.ofPairs pairs) = .ok query) ∧
    (∀ error, (inMemory store resources).explain name (Params.ofPairs pairs) = .error error →
      (inMemory store resources).list name (Params.ofPairs pairs) = .error error) ∧
    ∀ plan, (inMemory store resources).explain name (Params.ofPairs pairs) = .ok plan →
      ∃ order, SortOrder.ofNative? plan.sort = some order ∧
        (∀ page, (inMemory store resources).list name (Params.ofPairs pairs) = .ok page ↔
          store.reads.find plan.collection
              ⟨.ofNative plan.filter, order, plan.skip, some plan.limit⟩ = .ok page.documents ∧
            store.reads.count plan.collection (.ofNative plan.filter) = .ok page.total) ∧
        (∀ failure, store.reads.find plan.collection
              ⟨.ofNative plan.filter, order, plan.skip, some plan.limit⟩ = .error failure →
          (inMemory store resources).list name (Params.ofPairs pairs) =
            .error (.query (.storeUnavailable failure))) ∧
        ((∀ resource, Fields.get? resources name = some resource →
            resource.SearchFits (Params.ofPairs pairs)) →
          ∃ page, (inMemory store resources).list name (Params.ofPairs pairs) = .ok page) := by
  refine ⟨fun _ => explain_eq_error_iff, ?_,
    fun _ unexplained => list_of_refused (explain_eq_error_iff.mp unexplained), ?_⟩
  · simp only [explain_eq_ok_iff]
    exact ⟨fun ⟨_, query, asked, _⟩ => ⟨query, asked⟩, fun ⟨query, asked⟩ => ⟨_, query, asked, rfl⟩⟩
  · intro plan explained
    obtain ⟨query, asked, rfl⟩ := explain_eq_ok_iff.mp explained
    have finds : store.reads.find query.plan.collection
        ⟨.ofNative query.plan.filter, query.sort, query.plan.skip, some query.plan.limit⟩ =
          store.reads.find query.collection query.search :=
      MemoryStore.find_congr (compile?_plan asked) _ _ _ _
    have counts : store.reads.count query.plan.collection (.ofNative query.plan.filter) =
        store.reads.count query.collection query.filter :=
      MemoryStore.count_congr (compile?_plan asked) _
    refine ⟨query.sort, SortOrder.ofNative?_toNative _, fun page => ?_, fun failure => ?_,
      exists_page_of_query? asked⟩
    · rw [finds, counts]
      exact list_eq_ok_iff asked
    · rw [finds]
      exact list_of_find_error asked

/-- A search for a title is explained, and its page is found by what is read off the plan. -/
theorem explain_describes_list_book :
    ∃ (store : MemoryStore) (resources : Fields Resource) (plan : QueryPlan) (page : ListPage),
      (inMemory store resources).explain "book" (Params.ofPairs [("title", "dune")]) = .ok plan ∧
      plan.filter = .single "title" (.object
        [("$options", .string "i"), ("$regex", .string "dune")]) ∧
      (inMemory store resources).list "book" (Params.ofPairs [("title", "dune")]) = .ok page ∧
      store.reads.find plan.collection
        ⟨.ofNative plan.filter, [⟨"id", .descending⟩], plan.skip, some plan.limit⟩ =
          .ok page.documents := by
  let book : Resource := ⟨"book", "books", some "title"⟩
  let store : MemoryStore := ⟨[("books", ⟨[], [.object [("title", .string "Dune")]]⟩)], 0⟩
  let plan : QueryPlan :=
    { collection := "books"
      filter := .single "title" (.object [("$options", .string "i"), ("$regex", .string "dune")])
      sort := SortOrder.toNative [⟨"id", .descending⟩]
      page := 1
      limit := 100
      skip := 0 }
  have params : Params.ofPairs [("title", "dune")] = [("title", .single "dune")] := rfl
  have search : book.search? [("title", .single "dune")] = some ("title", "dune") := by decide
  have explained : (inMemory store [("book", book)]).explain "book"
      (Params.ofPairs [("title", "dune")]) = .ok plan := rfl
  obtain ⟨_, _, _, described⟩ :=
    explain_describes_list store [("book", book)] "book" [("title", "dune")]
  obtain ⟨order, ordered, pages, _, answered⟩ := described plan explained
  have isDefault : SortOrder.ofNative? plan.sort = some [⟨"id", .descending⟩] := rfl
  rw [isDefault] at ordered
  cases ordered
  obtain ⟨page, listed⟩ := answered fun resource found field text searches => by
    cases found
    rw [params, search] at searches
    cases searches
    rw [Regex.Pattern.read?_escape, if_neg (by decide)]
    exact nofun
  exact ⟨store, [("book", book)], plan, page, explained, rfl, listed, ((pages page).mp listed).1⟩

end ListService

end IndexGuard
