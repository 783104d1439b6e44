/-
**Pages partition the documents that match.**

* `extract_page`, `flatMap_pages`: a page is a range of ranks, and the pages in turn make up a
  leading part of the list;
* `ListQuery.turnedTo`: the same list at another page; `build_turnedTo` reaches it by a request;
* `ListQuery.exists_eq_sort`: the documents that match are those that the filter accepts, sorted by
  the order of the query;
* `ListQuery.fetch_turnedTo`, `count_turnedTo`: a page is a slice of all documents that match, and
  the total is the number of them all;
* `ListQuery.pages_partition`: together, the pages of an accepted request are what it matches.
-/

import IndexGuard.Proofs.Arrangement
import IndexGuard.Proofs.Guard
import IndexGuard.Proofs.Reads

namespace IndexGuard

/-! ### Slices of a list -/

section Slices

variable {Item : Type} (items : List Item)

/-- **A page holds the ranks between its two ends.** -/
theorem extract_page {page : Nat} (limit : Nat) (isPage : 1 ≤ page) :
    (items.drop ((page - 1) * limit)).take limit =
      items.extract ((page - 1) * limit) (min (page * limit) items.length) := by
  have last : page * limit = (page - 1) * limit + limit := by
    obtain ⟨before, rfl⟩ := Nat.exists_eq_add_of_le' isPage
    rw [Nat.add_sub_cancel, Nat.succ_mul]
  rw [List.extract_eq_take_drop, List.take_eq_take_iff, List.length_drop]
  omega

theorem length_page (page limit : Nat) :
    ((items.drop ((page - 1) * limit)).take limit).length =
      min limit (items.length - (page - 1) * limit) := by
  rw [List.length_take, List.length_drop]

/-- **The pages in turn make up the leading part of a list.** -/
theorem flatMap_pages (limit last : Nat) :
    ((List.range' 1 last).flatMap fun page => (items.drop ((page - 1) * limit)).take limit) =
      items.take (last * limit) := by
  induction last with
  | zero => simp
  | succ last ih =>
    rw [List.range'_1_concat, List.flatMap_append, ih, List.flatMap_singleton,
      Nat.add_sub_cancel_left, Nat.succ_mul, List.take_add]

end Slices

/-! ### The pages of a query -/

namespace ListQuery

variable {store : MemoryStore} {collection : String} {injected : Filter} {query : ListQuery}
  {matching : List Json}

/-- The same list at another page. -/
def turnedTo (query : ListQuery) (paging : Paging) : ListQuery := { query with paging := paging }

/-- **A query depends on its page in nothing but the page.** -/
theorem build_congr (store : DocumentStore) (collection : String) {params other : Params}
    (same : Request.ofParams params injected = Request.ofParams other injected) :
    build store collection params injected =
      (build store collection other injected).map fun query =>
        query.turnedTo (Paging.ofParams params) := by
  unfold build
  rw [same]
  cases Catalog.load store collection with
  | error failure => rfl
  | ok catalog =>
    cases accepted : catalog.checkFilter (Request.ofParams other injected).filterFields with
    | error error => simp only [bind, Except.bind, accepted, Except.map]
    | ok done =>
      cases sorts : catalog.sortOf (Request.ofParams other injected).sort with
      | error error => simp only [bind, Except.bind, accepted, sorts, Except.map]
      | ok order => simp only [bind, Except.bind, accepted, sorts, Except.map]; rfl

/-- **Every page of an accepted request can be asked for.** -/
theorem build_turnedTo {store : DocumentStore} {pairs : List (String × String)}
    (built : build store collection (Params.ofPairs pairs) injected = .ok query) {page limit : Nat}
    (isPage : 1 ≤ page) (pageBounded : page ≤ largestInt64) (isLimit : 1 ≤ limit)
    (limitBounded : limit ≤ 100) :
    build store collection (Params.ofPairs (Params.turnedTo pairs page limit)) injected =
      .ok (query.turnedTo ⟨page, limit⟩) := by
  rw [build_congr store collection (Params.request_turnedTo pairs page limit injected), built,
    Params.paging_turnedTo pairs isPage pageBounded isLimit limitBounded]
  rfl

theorem collection_of_build {store : DocumentStore} {params : Params}
    (built : build store collection params injected = .ok query) :
    query.collection = collection := by
  obtain ⟨_, _, _, _, _, rfl⟩ := build_eq_ok built
  rfl

/-- A query is known by its collection, its filter, its order and its page. -/
theorem eq_turnedTo {paged : ListQuery} {paging : Paging}
    (sameCollection : paged.collection = query.collection)
    (sameFilter : paged.filter = query.filter) (sameSort : paged.sort = query.sort)
    (isPaging : paged.paging = paging) : paged = query.turnedTo paging := by
  cases paged
  cases query
  cases sameCollection
  cases sameFilter
  cases sameSort
  cases isPaging
  rfl

/-- **What matches is what the collection holds and the filter accepts, sorted.** -/
theorem exists_eq_sort {filter : Filter} {order : SortOrder}
    (found : store.reads.find collection { filter := filter, sort := order } = .ok matching) :
    ∃ held, store.collection? collection = .ok held ∧
      matching = order.sort (held.documents.filter filter.accepts) := by
  obtain ⟨accepts, held, compiled, there, rfl⟩ := MemoryStore.find_eq_ok_iff.mp found
  have tests : filter.accepts = accepts := funext fun _ => Filter.accepts_of_compile? compiled _
  refine ⟨held, there, ?_⟩
  rw [tests]
  exact held.find_eq_slice accepts _

/-- **A page is a slice of all documents that match.** -/
theorem fetch_turnedTo
    (small : ∀ entry ∈ store.collections, entry.2.documents.length ≤ largestUInt64)
    (found : store.reads.find query.collection { filter := query.filter, sort := query.sort } =
      .ok matching) (paging : Paging) :
    (query.turnedTo paging).fetch store.reads =
      .ok ((matching.drop ((paging.page - 1) * paging.limit)).take paging.limit) := by
  obtain ⟨accepts, held, compiled, there, rfl⟩ := MemoryStore.find_eq_ok_iff.mp found
  have fewer : (held.find accepts { filter := query.filter, sort := query.sort }).length ≤
      largestUInt64 := by
    rw [(held.find_perm accepts query.filter query.sort).length_eq]
    exact Nat.le_trans (List.length_filter_le _ _)
      (small _ (Fields.mem_of_get? (MemoryStore.collection?_eq_ok_iff.mp there)))
  rw [← Paging.drop_skip fewer, ← held.find_slice]
  exact fetch_of_find (MemoryStore.find_eq_ok_iff.mpr ⟨accepts, held, compiled, there, rfl⟩)

/-- **The total is the number of all documents that match.** -/
theorem count_turnedTo
    (found : store.reads.find query.collection { filter := query.filter, sort := query.sort } =
      .ok matching) (paging : Paging) :
    (query.turnedTo paging).count store.reads = .ok matching.length := by
  obtain ⟨accepts, held, compiled, there, rfl⟩ := MemoryStore.find_eq_ok_iff.mp found
  rw [(held.find_perm accepts query.filter query.sort).length_eq]
  exact count_of_count (MemoryStore.count_eq_ok_iff.mpr ⟨accepts, held, compiled, there, rfl⟩)

/-- **Pages partition what a request matches.** Take an accepted request to a store in memory and
all the documents that it finds without skip and limit.

* These are the documents of the collection that the filter accepts. When the collection holds
  documents with comparable fields, they stand in the order that is asked for, and those that
  compare as equal as they were inserted.
* Every page up to the largest number can be asked for in addition, and any accepted request for it
  with the same filter and order makes the same query. The page holds exactly the documents of its
  ranks, and the total on it is that of all documents, in the answer of a service as well.
* Any number of pages from the first on that is enough for all documents makes them up in order.
-/
theorem pages_partition {pairs : List (String × String)} {limit : Nat}
    (small : ∀ entry ∈ store.collections, entry.2.documents.length ≤ largestUInt64)
    (built : build store.reads collection (Params.ofPairs pairs) injected = .ok query)
    (found : store.reads.find collection { filter := query.filter, sort := query.sort } =
      .ok matching)
    (isLimit : 1 ≤ limit) (limitBounded : limit ≤ 100) :
    (∃ held, store.collection? collection = .ok held ∧
      matching.Perm (held.documents.filter query.filter.accepts) ∧
      ((∀ document ∈ held.documents, document.ComparableFields) →
        (matching.Pairwise fun first second =>
          query.sort.compareDocuments first second ≠ .gt) ∧
        ∀ document ∈ matching,
          (matching.filter fun other => query.sort.compareDocuments document other == .eq) =
            (held.documents.filter query.filter.accepts).filter fun other =>
              query.sort.compareDocuments document other == .eq)) ∧
    (∀ page, 1 ≤ page → page ≤ largestInt64 →
      build store.reads collection (Params.ofPairs (Params.turnedTo pairs page limit)) injected =
        .ok (query.turnedTo ⟨page, limit⟩) ∧
      (∀ (others : List (String × String)) (extra : Filter) (paged : ListQuery),
        build store.reads collection (Params.ofPairs others) extra = .ok paged →
        paged.filter = query.filter → paged.sort = query.sort → paged.paging = ⟨page, limit⟩ →
        paged = query.turnedTo ⟨page, limit⟩) ∧
      ∃ documents,
        documents = matching.extract ((page - 1) * limit) (min (page * limit) matching.length) ∧
        documents.length = min limit (matching.length - (page - 1) * limit) ∧
        (query.turnedTo ⟨page, limit⟩).fetch store.reads = .ok documents ∧
        (query.turnedTo ⟨page, limit⟩).count store.reads = .ok matching.length ∧
        ∀ (resources : Fields Resource) (name : String) (params : Params),
          (ListService.mk store.reads resources).query? name params =
            .ok (query.turnedTo ⟨page, limit⟩) →
          (ListService.mk store.reads resources).list name params =
            .ok ⟨documents, matching.length⟩) ∧
    ∀ last, matching.length ≤ last * limit →
      ((List.range' 1 last).mapM fun page =>
        (query.turnedTo ⟨page, limit⟩).fetch store.reads).map List.flatten = .ok matching := by
  obtain rfl := collection_of_build built
  have fetched := fetch_turnedTo small found
  have counted := count_turnedTo found
  refine ⟨?_, fun page isPage pageBounded => ?_, fun last enough => ?_⟩
  · obtain ⟨held, there, rfl⟩ := exists_eq_sort found
    refine ⟨held, there, List.mergeSort_perm _ _, fun comparable => SortOrder.arranged_sort ?_⟩
    exact fun document member => comparable document (List.mem_filter.mp member).1
  · refine ⟨build_turnedTo built isPage pageBounded isLimit limitBounded, ?_, _,
      extract_page matching limit isPage, length_page matching page limit, fetched _, counted _, ?_⟩
    · exact fun _ _ _ builtOther => eq_turnedTo (collection_of_build builtOther)
    · exact fun _ _ _ asked => list_of_query? asked (fetched _) (counted _)
  · have pages : (fun page => (query.turnedTo ⟨page, limit⟩).fetch store.reads) =
        fun page => pure ((matching.drop ((page - 1) * limit)).take limit) :=
      funext fun page => fetched ⟨page, limit⟩
    rw [pages, List.mapM_pure]
    show Except.ok (List.flatten _) = _
    rw [← List.flatMap_def, flatMap_pages, List.take_of_length_le enough]

/-- Three documents on pages of two, in their order. -/
theorem pages_partition_three :
    ∃ (store : MemoryStore) (query : ListQuery) (matching first second : List Json),
      build store.reads "books" (Params.ofPairs []) Filter.everything = .ok query ∧
      store.reads.find "books" { filter := query.filter, sort := query.sort } = .ok matching ∧
      (matching.Pairwise fun first second => query.sort.compareDocuments first second ≠ .gt) ∧
      (query.turnedTo ⟨1, 2⟩).fetch store.reads = .ok first ∧ first.length = 2 ∧
      (query.turnedTo ⟨2, 2⟩).fetch store.reads = .ok second ∧ second.length = 1 ∧
      ((List.range' 1 2).mapM fun page => (query.turnedTo ⟨page, 2⟩).fetch store.reads).map
        List.flatten = .ok matching := by
  let document : String → Json := fun name => .object [("id", .string name)]
  let held : Collection := ⟨[], [document "b", document "a", document "c"]⟩
  let store : MemoryStore := ⟨[("books", held)], 3⟩
  let query : ListQuery := ⟨"books", .all [], [⟨"id", .descending⟩], ⟨1, 100⟩⟩
  let matching := held.find (fun _ => true) { filter := query.filter, sort := query.sort }
  have built : build store.reads "books" (Params.ofPairs []) Filter.everything = .ok query := rfl
  have found : store.reads.find "books" { filter := query.filter, sort := query.sort } =
      .ok matching := rfl
  have all : matching.length = 3 := (held.find_perm (fun _ => true) _ _).length_eq
  have small : ∀ entry ∈ store.collections, entry.2.documents.length ≤ largestUInt64 := by
    intro entry member
    rw [List.mem_singleton.mp member]
    decide
  have there : store.collection? "books" = .ok held := rfl
  have comparable : ∀ document ∈ held.documents, document.ComparableFields := by
    simp only [held, document, List.forall_mem_cons]
    refine ⟨?_, ?_, ?_, List.forall_mem_nil _⟩ <;>
      exact Json.comparableFields_of_members (by simp [Json.Comparable])
  obtain ⟨⟨_, isHeld, _, arranged⟩, pages, together⟩ :=
    pages_partition small built found (show 1 ≤ 2 by decide) (show 2 ≤ 100 by decide)
  rw [there] at isHeld
  cases isHeld
  obtain ⟨inOrder, _⟩ := arranged comparable
  obtain ⟨_, _, first, _, two, fetchedFirst, _⟩ := pages 1 (by decide) (by decide)
  obtain ⟨_, _, second, _, one, fetchedSecond, _⟩ := pages 2 (by decide) (by decide)
  refine ⟨store, query, matching, first, second, built, found, inOrder, fetchedFirst, ?_,
    fetchedSecond, ?_, together 2 (by rw [all]; decide)⟩
  · rw [two, all]
    rfl
  · rw [one, all]
    rfl

end ListQuery

end IndexGuard
