/-
**No query leaves the indexes.**

* `RequestsOrder`, `sortOf_eq_ok_iff`, `sortOf_eq_error_iff`: when a request names an order, and
  what becomes of it;
* `build_of_unlisted`, `build_of_uncovered`, `build_of_covered`: the ways in which building a query
  ends, and `build_eq_ok` what a built query is;
* `build_within_indexes`: a query that was built filters by covered fields, sorts as an index can be
  read, and searches and counts with one filter, at most a page at a time.
-/

import IndexGuard.Listing.Service
import IndexGuard.Proofs.Constraints
import IndexGuard.Proofs.IndexOrder
import IndexGuard.Proofs.Paging

namespace IndexGuard

/-! ### Blank texts -/

namespace Text

theorem trimStart_eq_nil_iff {chars : List Char} :
    trimStart chars = [] ↔ ∀ char ∈ chars, isBlank char = true := by
  unfold trimStart
  rw [← List.all_eq_true]
  induction chars with
  | nil => simp
  | cons char rest ih =>
    by_cases blank : isBlank char = true
    · rw [List.dropWhile_cons_of_pos blank, ih, List.all_cons, blank, Bool.true_and]
    · rw [List.dropWhile_cons_of_neg blank, List.all_cons]
      simp [blank]

/-- **Nothing is left of a text exactly when it is blank.** -/
theorem trim_eq_nil_iff {chars : List Char} :
    trim chars = [] ↔ ∀ char ∈ chars, isBlank char = true := by
  unfold trim trimEnd
  rw [List.reverse_eq_nil_iff]
  show trimStart (trimStart chars).reverse = [] ↔ _
  rw [trimStart_eq_nil_iff]
  simp only [List.mem_reverse]
  constructor
  · intro blank
    refine trimStart_eq_nil_iff.mp ?_
    have stops := List.head?_dropWhile_not isBlank chars
    cases kept : trimStart chars with
    | nil => rfl
    | cons first rest =>
      have isBlankFirst := blank first (by rw [kept]; exact List.mem_cons_self)
      rw [trimStart] at kept
      rw [kept] at stops
      rw [show isBlank first = false from stops] at isBlankFirst
      cases isBlankFirst
  · intro blank char member
    exact blank char (List.dropWhile_subset _ member)

end Text

/-! ### The order of a request -/

/-- The `sort` parameter is a single text in which some token between commas is not blank. -/
def Params.RequestsOrder (params : Params) : Prop :=
  ∃ text, params.text? sortKey = some text ∧
    ∃ token ∈ Text.pieces ',' text.toList, ∃ char ∈ token, Text.isBlank char = false

namespace SortRequest

theorem tokensOf_eq_nil_iff {text : String} :
    tokensOf text = [] ↔
      ∀ token ∈ Text.pieces ',' text.toList, ∀ char ∈ token, Text.isBlank char = true := by
  unfold tokensOf
  rw [List.map_eq_nil_iff, List.filter_eq_nil_iff, List.forall_mem_map]
  refine forall₂_congr fun token _ => ?_
  rw [← Text.trim_eq_nil_iff]
  simp

theorem ofText_eq_unspecified_iff {text : String} :
    ofText text = unspecified ↔ tokensOf text = [] := by
  unfold ofText
  split
  · rename_i empty
    simp [empty]
  · rename_i nonempty
    simpa using nonempty

/-- **No order is asked for exactly when the request names none.** -/
theorem ofParams_eq_unspecified_iff {params : Params} :
    ofParams params = unspecified ↔ ¬ params.RequestsOrder := by
  unfold ofParams Params.RequestsOrder
  cases found : params.text? Params.sortKey with
  | none => simp
  | some text =>
    simp only [ofText_eq_unspecified_iff, tokensOf_eq_nil_iff, Option.some.injEq]
    simp

end SortRequest

namespace Catalog

variable {declared : List Index}

/-- **The order of a request**: the default one, or the one asked for when an index serves it. -/
theorem sortOf_eq_ok_iff {request : SortRequest} {order : SortOrder} :
    (ofDeclared declared).sortOf request = .ok order ↔
      (request = .unspecified ∧ order = [⟨"id", .descending⟩]) ∨
        ∃ tokens, request = .requested tokens ∧ order = SortOrder.ofTokens tokens ∧
          Served declared order := by
  cases request with
  | unspecified =>
    have default : SortOrder.ofTokens SortRequest.unspecified.toTokens =
        [⟨"id", .descending⟩] := by decide
    simp only [sortOf, default, Except.ok.injEq, true_and, reduceCtorEq, false_and, exists_false,
      or_false]
    exact eq_comm
  | requested tokens =>
    simp only [sortOf, checkSort_eq_ok_iff, reduceCtorEq, false_and, false_or,
      SortRequest.requested.injEq]
    constructor
    · rintro ⟨isOrder, served⟩
      exact ⟨tokens, rfl, isOrder, served⟩
    · rintro ⟨_, rfl, isOrder, served⟩
      exact ⟨isOrder, served⟩

/-- **An order is refused exactly when it is asked for and no index serves it.** -/
theorem sortOf_eq_error_iff {request : SortRequest} {error : QueryError} :
    (ofDeclared declared).sortOf request = .error error ↔
      ∃ tokens, request = .requested tokens ∧ ¬ Served declared (SortOrder.ofTokens tokens) ∧
        error = .sortNotIndexed (SortOrder.ofTokens tokens).text := by
  cases request with
  | unspecified => simp [sortOf]
  | requested tokens =>
    simp only [sortOf, checkSort_eq_error_iff, SortRequest.requested.injEq]
    constructor
    · rintro ⟨isError, unserved⟩
      exact ⟨tokens, rfl, unserved, isError⟩
    · rintro ⟨_, rfl, unserved, isError⟩
      exact ⟨isError, unserved⟩

end Catalog

/-! ### Building a query -/

namespace ListQuery

variable {store : DocumentStore} {collection : String} {params : Params} {injected : Filter}
  {declared : List Index}

theorem build_of_unlisted {failure : StoreError}
    (unlisted : store.listIndexes collection = .error failure) :
    build store collection params injected = .error (.storeUnavailable failure) := by
  unfold build Catalog.load
  rw [unlisted]
  rfl

theorem build_of_uncovered (listed : store.listIndexes collection = .ok declared) {field : String}
    (uncovered : (Catalog.ofDeclared declared).firstUncovered?
      (Request.ofParams params injected).filterFields = some field) :
    build store collection params injected = .error (.filterNotIndexed field) := by
  unfold build Catalog.load
  rw [listed]
  simp only [Catalog.checkFilter, uncovered, bind, Except.bind]

theorem build_of_covered (listed : store.listIndexes collection = .ok declared)
    (covered : ∀ field ∈ (Request.ofParams params injected).filterFields,
      Covered declared (Request.ofParams params injected).filterFields field) :
    build store collection params injected =
      ((Catalog.ofDeclared declared).sortOf (SortRequest.ofParams params)).map fun order =>
        { collection := collection
          filter := (Request.ofParams params injected).combinedFilter
          sort := order
          paging := Paging.ofParams params } := by
  have none := Catalog.firstUncovered?_eq_none_iff.mpr covered
  have request : (Request.ofParams params injected).sort = SortRequest.ofParams params := rfl
  unfold build Catalog.load
  rw [listed]
  simp only [Catalog.checkFilter, none, bind, Except.bind, request]
  cases (Catalog.ofDeclared declared).sortOf (SortRequest.ofParams params) <;> rfl

/-- **A built query was covered, and has an order that is the default or served.** -/
theorem build_eq_ok {query : ListQuery}
    (built : build store collection params injected = .ok query) :
    ∃ declared order, store.listIndexes collection = .ok declared ∧
      (∀ field ∈ (Request.ofParams params injected).filterFields,
        Covered declared (Request.ofParams params injected).filterFields field) ∧
      (Catalog.ofDeclared declared).sortOf (SortRequest.ofParams params) = .ok order ∧
      query =
        { collection := collection
          filter := (Request.ofParams params injected).combinedFilter
          sort := order
          paging := Paging.ofParams params } := by
  cases listed : store.listIndexes collection with
  | error failure =>
    rw [build_of_unlisted listed] at built
    cases built
  | ok declared =>
    cases uncovered : (Catalog.ofDeclared declared).firstUncovered?
        (Request.ofParams params injected).filterFields with
    | some field =>
      rw [build_of_uncovered listed uncovered] at built
      cases built
    | none =>
      have covered := Catalog.firstUncovered?_eq_none_iff.mp uncovered
      rw [build_of_covered listed covered] at built
      cases sorts : (Catalog.ofDeclared declared).sortOf (SortRequest.ofParams params) with
      | error error =>
        rw [sorts] at built
        cases built
      | ok order =>
        rw [sorts] at built
        cases built
        exact ⟨declared, order, rfl, covered, sorts, rfl⟩

/-! ### Answering a query -/

theorem fetch_of_find {query : ListQuery} {documents : List Json}
    (found : store.find query.collection query.search = .ok documents) :
    query.fetch store = .ok documents := by
  unfold fetch
  rw [found]
  rfl

theorem count_of_count {query : ListQuery} {total : Nat}
    (counted : store.count query.collection query.filter = .ok total) :
    query.count store = .ok total := by
  unfold count
  rw [counted]
  rfl

/-- A service answers with the page and the total of its query. -/
theorem list_of_query? {service : ListService} {name : String} {query : ListQuery}
    {documents : List Json} {total : Nat} (asked : service.query? name params = .ok query)
    (fetched : query.fetch service.store = .ok documents)
    (counted : query.count service.store = .ok total) :
    service.list name params = .ok ⟨documents, total⟩ := by
  unfold ListService.list
  rw [asked]
  simp only [bind, Except.bind, fetched, counted, Except.mapError, pure, Except.pure]

/-! ### The guard -/

/-- **A query stays within the indexes.** Of a query that was built from the pairs of a request:

* every field that the client filters by lies in some index behind fields that the client all
  constrains;
* the order is the default one when none is asked for, and otherwise one in which an index is read;
* the page and the total are asked for with one filter, and the page holds at most 100 documents.
-/
theorem build_within_indexes {pairs : List (String × String)} {query : ListQuery}
    (built : build store collection (Params.ofPairs pairs) injected = .ok query) :
    ∃ (declared : List Index) (client : List Leaf) (search : Search) (limit : Nat),
      store.listIndexes collection = .ok declared ∧
      client = (Request.ofParams (Params.ofPairs pairs) injected).userFilter.leaves ∧
      query.filter.leaves = client ++ injected.leaves ∧
      (∀ test ∈ client, Covered declared (client.map Leaf.field) test.field) ∧
      ((¬ (Params.ofPairs pairs).RequestsOrder ∧ query.sort = [⟨"id", .descending⟩]) ∨
        ((Params.ofPairs pairs).RequestsOrder ∧ Served declared query.sort)) ∧
      (∀ other : DocumentStore,
        query.fetch other = (other.find collection search).mapError .storeUnavailable) ∧
      (∀ other : DocumentStore,
        query.count other = (other.count collection search.filter).mapError .storeUnavailable) ∧
      search.filter = query.filter ∧ search.limit = some limit ∧ 1 ≤ limit ∧ limit ≤ 100 := by
  obtain ⟨declared, order, listed, covered, sorts, rfl⟩ := build_eq_ok built
  refine ⟨declared, _, _, _, listed, rfl, Filter.leaves_both _ _, fun test member => ?_, ?_,
    fun _ => rfl, fun _ => rfl, rfl, rfl, Paging.limit_bounds _⟩
  · have isField := (mem_fields_userFilter_iff pairs injected test.field).mp
      (List.mem_map_of_mem member)
    exact (covered test.field isField).congr fun other =>
      (mem_fields_userFilter_iff pairs injected other).symm
  · rcases Catalog.sortOf_eq_ok_iff.mp sorts with
      ⟨unspecified, rfl⟩ | ⟨tokens, requested, _, served⟩
    · exact .inl ⟨SortRequest.ofParams_eq_unspecified_iff.mp unspecified, rfl⟩
    · refine .inr ⟨?_, served⟩
      by_contra silent
      rw [SortRequest.ofParams_eq_unspecified_iff.mpr silent] at requested
      cases requested

/-- The guard on a collection with an index of authors and years. -/
theorem build_within_indexes_authors :
    ∃ (store : DocumentStore) (query : ListQuery),
      store.listIndexes "books" = .ok [["id"], ["author", "year"]] ∧
      build store "books"
        (Params.ofPairs [("year[gte]", "1965"), ("author", "a1"), ("sort", "-author")])
        Filter.everything = .ok query ∧
      (∀ test ∈ query.filter.leaves, Covered [["id"], ["author", "year"]]
        (query.filter.leaves.map Leaf.field) test.field) ∧
      Served [["id"], ["author", "year"]] query.sort := by
  let store : DocumentStore :=
    ⟨fun _ => .ok [["id"], ["author", "year"]], fun _ _ => .ok [], fun _ _ => .ok 0⟩
  let query : ListQuery :=
    ⟨"books", .all [.equals "author" (.string "a1"),
      .range "year" .greaterOrEqual (.string "1965")], [⟨"author", .descending⟩], ⟨1, 100⟩⟩
  have params : Params.ofPairs
      [("year[gte]", "1965"), ("author", "a1"), ("sort", "-author")] =
      [("author", .single "a1"), ("sort", .single "-author"),
        ("year", .nested [("gte", .single "1965")])] := rfl
  have sorts : (Catalog.ofDeclared [["id"], ["author", "year"]]).sortOf (SortRequest.ofParams
      [("author", .single "a1"), ("sort", .single "-author"),
        ("year", .nested [("gte", .single "1965")])]) = .ok query.sort := by decide
  have built : build store "books" (Params.ofPairs
      [("year[gte]", "1965"), ("author", "a1"), ("sort", "-author")]) Filter.everything =
      .ok query := by
    rw [params, build_of_covered rfl (Catalog.firstUncovered?_eq_none_iff.mp (by decide)), sorts]
    rfl
  obtain ⟨_, _, _, _, listed, _, leaves, covered, sorted, _⟩ := build_within_indexes built
  cases listed
  rw [show Filter.everything.leaves = [] from rfl, List.append_nil] at leaves
  refine ⟨store, query, rfl, built, ?_, ?_⟩
  · rw [leaves]
    exact covered
  · exact (sorted.resolve_left fun default => absurd default.2 (by decide)).2

end ListQuery

end IndexGuard
