/-
**Declaring more indexes takes no answer away.**

* `Collection.Widens`: one declaration, and so any number of them, keeps the documents of a
  collection and the indexes that it has (`widens_declare`, `widens_foldl_declare`);
* `MemoryStore.Widens`, `Widens.find`, `Widens.count`, `Widens.listIndexes`: a store widened in this
  way finds and counts the same and lists at least the same indexes;
* `build_of_more`, `isClientError_of_build`: a query that was built is built again with more
  indexes, and where the indexes are there only the client can be at fault;
* `list_createCollection`: so a request that was answered is answered the same, and one that is
  refused was refused before.
-/

import IndexGuard.Proofs.Plan

namespace IndexGuard

/-! ### Wider collections -/

/-- A collection has the same documents and at least the same indexes. -/
structure Collection.Widens (held wider : Collection) : Prop where
  documents : wider.documents = held.documents
  indexes : held.indexes ⊆ wider.indexes

namespace Collection

variable {held wider : Collection}

/-- **A declaration widens a collection.** -/
theorem widens_declare (held : Collection) (index : Index) : held.Widens (held.declare index) := by
  unfold declare
  split
  · exact ⟨rfl, fun _ member => member⟩
  · exact ⟨rfl, List.subset_append_left _ _⟩

/-- **Any declarations widen a collection.** -/
theorem widens_foldl_declare (held : Collection) (extra : List Index) :
    held.Widens (extra.foldl declare held) := by
  induction extra generalizing held with
  | nil => exact ⟨rfl, fun _ member => member⟩
  | cons index rest ih =>
    have first := held.widens_declare index
    have others := ih (held.declare index)
    exact ⟨others.documents.trans first.documents,
      fun _ member => others.indexes (first.indexes member)⟩

theorem Widens.allIndexes (widens : held.Widens wider) : held.allIndexes ⊆ wider.allIndexes := by
  intro index member
  rcases List.mem_cons.mp member with rfl | declared
  · exact List.mem_cons_self
  · exact List.mem_cons_of_mem _ (widens.indexes declared)

/-- A wider collection finds the same. -/
theorem Widens.find (widens : held.Widens wider) (accepts : Json → Bool) (search : Search) :
    wider.find accepts search = held.find accepts search := by
  unfold Collection.find
  rw [widens.documents]

end Collection

/-! ### Wider stores -/

/-- A store has the same collections, each the same or wider. -/
structure MemoryStore.Widens (store wider : MemoryStore) : Prop where
  there : ∀ {name held}, store.collection? name = .ok held →
    ∃ kept, wider.collection? name = .ok kept ∧ held.Widens kept
  missing : ∀ {name failure}, store.collection? name = .error failure →
    wider.collection? name = .error failure

namespace MemoryStore

variable {store wider : MemoryStore}

/-- **Creating a collection that is there widens the store.** -/
theorem widens_createCollection {collection : String} {held : Collection}
    (there : store.collection? collection = .ok held) (extra : List Index) :
    store.Widens (store.createCollection collection extra) := by
  have present := collection?_eq_ok_iff.mp there
  refine ⟨fun {name other} found => ?_, fun {name failure} missing => ?_⟩
  · rw [collection?_createCollection]
    by_cases same : collection = name
    · subst same
      rw [there] at found
      cases found
      rw [if_pos rfl, present]
      exact ⟨_, rfl, held.widens_foldl_declare extra⟩
    · rw [if_neg same]
      exact ⟨other, found, rfl, fun _ member => member⟩
  · rw [collection?_createCollection]
    have different : collection ≠ name := by
      rintro rfl
      rw [there] at missing
      cases missing
    rw [if_neg different, missing]

/-- **What is read off the documents of a collection is read off a wider store as well.** -/
theorem Widens.map_collection? (widens : store.Widens wider) {Answer : Type}
    {read : Collection → Answer}
    (blind : ∀ held kept : Collection, held.Widens kept → read kept = read held) (name : String) :
    (wider.collection? name).map read = (store.collection? name).map read := by
  cases found : store.collection? name with
  | error failure => rw [widens.missing found]
  | ok held =>
    obtain ⟨kept, there, wide⟩ := widens.there found
    rw [there]
    show Except.ok (read kept) = .ok (read held)
    rw [blind held kept wide]

/-- **A wider store finds the same.** -/
theorem Widens.find (widens : store.Widens wider) : wider.reads.find = store.reads.find := by
  funext name search
  have finds : ∀ other : MemoryStore, other.reads.find name search =
      (test? search.filter).bind fun accepts =>
        (other.collection? name).map fun held => held.find accepts search := fun _ => rfl
  rw [finds, finds]
  congr 1
  funext accepts
  exact widens.map_collection? (fun _ _ wide => wide.find accepts search) name

/-- **A wider store counts the same.** -/
theorem Widens.count (widens : store.Widens wider) : wider.reads.count = store.reads.count := by
  funext name filter
  have counts : ∀ other : MemoryStore, other.reads.count name filter =
      (test? filter).bind fun accepts =>
        (other.collection? name).map fun held => (held.documents.filter accepts).length :=
    fun _ => rfl
  rw [counts, counts]
  congr 1
  funext accepts
  refine widens.map_collection? (fun held kept wide => ?_) name
  rw [wide.documents]

/-- **A wider store lists at least the same indexes.** -/
theorem Widens.listIndexes (widens : store.Widens wider) {name : String} {declared : List Index}
    (listed : store.reads.listIndexes name = .ok declared) :
    ∃ more, wider.reads.listIndexes name = .ok more ∧ declared ⊆ more := by
  obtain ⟨held, found, rfl⟩ := listIndexes_eq_ok_iff.mp listed
  obtain ⟨kept, there, wide⟩ := widens.there found
  exact ⟨kept.allIndexes, listIndexes_eq_ok_iff.mpr ⟨kept, there, rfl⟩, wide.allIndexes⟩

/-- Where the indexes of a collection cannot be listed, they cannot in a wider store. -/
theorem Widens.unlisted (widens : store.Widens wider) {name : String} {failure : StoreError}
    (unlisted : store.reads.listIndexes name = .error failure) :
    wider.reads.listIndexes name = .error failure := by
  cases found : store.collection? name with
  | ok held =>
    have listed := listIndexes_eq_ok_iff.mpr ⟨held, found, rfl⟩
    rw [unlisted] at listed
    cases listed
  | error missing =>
    have before : store.reads.listIndexes name = (store.collection? name).map _ := rfl
    have after : wider.reads.listIndexes name = (wider.collection? name).map _ := rfl
    rw [after, widens.missing found, ← unlisted, before, found]

end MemoryStore

/-! ### Queries of a wider store -/

namespace ListQuery

variable {store wider : DocumentStore} {collection : String} {params : Params} {injected : Filter}
  {declared more : List Index}

/-- **A query that was built is built again with more indexes.** -/
theorem build_of_more (listed : store.listIndexes collection = .ok declared)
    (listedMore : wider.listIndexes collection = .ok more) (grows : declared ⊆ more)
    {query : ListQuery} (built : build store collection params injected = .ok query) :
    build wider collection params injected = .ok query := by
  obtain ⟨known, order, isKnown, covered, sorts, rfl⟩ := build_eq_ok built
  rw [listed] at isKnown
  cases isKnown
  have sortsMore : (Catalog.ofDeclared more).sortOf (SortRequest.ofParams params) = .ok order := by
    rcases Catalog.sortOf_eq_ok_iff.mp sorts with unspecified | ⟨tokens, asked, isOrder, served⟩
    · exact Catalog.sortOf_eq_ok_iff.mpr (.inl unspecified)
    · exact Catalog.sortOf_eq_ok_iff.mpr (.inr ⟨tokens, asked, isOrder, served.mono grows⟩)
  rw [build_of_covered listedMore fun field member => (covered field member).mono grows, sortsMore]
  rfl

/-- **Where the indexes are there, only the client can be at fault.** -/
theorem isClientError_of_build (listed : store.listIndexes collection = .ok declared)
    {fault : QueryError} (refused : build store collection params injected = .error fault) :
    fault.isClientError = true := by
  cases uncovered : (Catalog.ofDeclared declared).firstUncovered?
      (Request.ofParams params injected).filterFields with
  | some field =>
    rw [build_of_uncovered listed uncovered] at refused
    cases refused
    rfl
  | none =>
    rw [build_of_covered listed (Catalog.firstUncovered?_eq_none_iff.mp uncovered)] at refused
    cases sorts : (Catalog.ofDeclared declared).sortOf (SortRequest.ofParams params) with
    | ok order =>
      rw [sorts] at refused
      cases refused
    | error error =>
      rw [sorts] at refused
      cases refused
      obtain ⟨tokens, _, _, rfl⟩ := Catalog.sortOf_eq_error_iff.mp sorts
      rfl

end ListQuery

namespace ListService

variable {store wider : MemoryStore} {resources : Fields Resource} {name : String}
  {params : Params}

/-- The query of a request for a known resource is built on the store. -/
theorem query?_inMemory {resource : Resource} (store : MemoryStore) (params : Params)
    (known : Fields.get? resources name = some resource) :
    (inMemory store resources).query? name params =
      (ListQuery.build store.reads resource.collection (resource.remaining params)
        (resource.criteria params)).mapError .query :=
  query?_of_resource known

/-- **A query that was built is built on a wider store as well.** -/
theorem query?_widened (widens : store.Widens wider) {query : ListQuery}
    (asked : (inMemory store resources).query? name params = .ok query) :
    (inMemory wider resources).query? name params = .ok query := by
  obtain ⟨resource, known, built⟩ := exists_resource asked
  obtain ⟨declared, _, listed, _⟩ := ListQuery.build_eq_ok built
  obtain ⟨more, listedMore, grows⟩ := widens.listIndexes listed
  have again := ListQuery.build_of_more listed listedMore grows built
  have after : (inMemory wider resources).query? name params = _ :=
    query?_inMemory wider params known
  rw [after, again]
  rfl

/-- A request with a query fails in the store only. -/
theorem list_error_of_query? {service : ListService} {query : ListQuery} {error : RequestError}
    (asked : service.query? name params = .ok query)
    (failed : service.list name params = .error error) :
    ∃ failure, error = .query (.storeUnavailable failure) := by
  cases found : service.store.find query.collection query.search with
  | error failure =>
    rw [list_of_find_error asked found] at failed
    cases failed
    exact ⟨failure, rfl⟩
  | ok documents =>
    cases counted : service.store.count query.collection query.filter with
    | error failure =>
      rw [list_of_count_error asked found counted] at failed
      cases failed
      exact ⟨failure, rfl⟩
    | ok total =>
      have answered : service.list name params = .ok ⟨documents, total⟩ :=
        (list_eq_ok_iff asked).mpr ⟨found, counted⟩
      rw [answered] at failed
      cases failed

/-- **A page of a store is the page of a wider one.** -/
theorem list_widened (widens : store.Widens wider) {page : ListPage}
    (answered : (inMemory store resources).list name params = .ok page) :
    (inMemory wider resources).list name params = .ok page := by
  cases asked : (inMemory store resources).query? name params with
  | error error =>
    rw [list_of_refused asked] at answered
    cases answered
  | ok query =>
    obtain ⟨found, counted⟩ := (list_eq_ok_iff asked).mp answered
    have again := query?_widened widens asked
    refine (list_eq_ok_iff again).mpr ⟨?_, ?_⟩
    · show wider.reads.find _ _ = _
      rw [widens.find]
      exact found
    · show wider.reads.count _ _ = _
      rw [widens.count]
      exact counted

/-- **A request that a wider store refuses was refused before.** -/
theorem refused_before (widens : store.Widens wider) {fault : QueryError}
    (isClient : fault.isClientError = true)
    (refused : (inMemory wider resources).list name params = .error (.query fault)) :
    ∃ earlier, earlier.isClientError = true ∧
      (inMemory store resources).list name params = .error (.query earlier) := by
  cases known : Fields.get? resources name with
  | none =>
    have unknown : (inMemory wider resources).query? name params = _ := query?_of_unknown known
    rw [list_of_refused unknown] at refused
    cases refused
  | some resource =>
    have before := query?_inMemory store params known
    have after := query?_inMemory wider params known
    cases listed : store.reads.listIndexes resource.collection with
    | error failure =>
      -- Without the collection both stores fail, which is no fault of the client.
      rw [ListQuery.build_of_unlisted (widens.unlisted listed)] at after
      rw [list_of_refused after] at refused
      cases refused
      cases isClient
    | ok declared =>
      cases built : ListQuery.build store.reads resource.collection (resource.remaining params)
          (resource.criteria params) with
      | error earlier =>
        rw [built] at before
        exact ⟨earlier, ListQuery.isClientError_of_build listed built, list_of_refused before⟩
      | ok query =>
        -- A query is answered, unless it fails in the store.
        rw [built] at before
        obtain ⟨failure, same⟩ := list_error_of_query? (query?_widened widens before) refused
        cases same
        cases isClient

/-- **Declaring more indexes takes no answer away.** Take a store in memory, a collection that it
has, any indexes to declare for it and a request for any resource of a service with this store.

* If the request is answered, it is answered with the same page once the indexes are declared: the
  same documents in the same order and the same total.
* If it is then refused for a field or for its order, it was refused for a field or for its order
  before.
-/
theorem list_createCollection {collection : String} {held : Collection}
    (there : store.collection? collection = .ok held) (extra : List Index)
    (resources : Fields Resource) (name : String) (params : Params) :
    (∀ page, (inMemory store resources).list name params = .ok page →
      (inMemory (store.createCollection collection extra) resources).list name params =
        .ok page) ∧
    ∀ fault, fault.isClientError = true →
      (inMemory (store.createCollection collection extra) resources).list name params =
        .error (.query fault) →
      ∃ earlier, earlier.isClientError = true ∧
        (inMemory store resources).list name params = .error (.query earlier) := by
  have widens := MemoryStore.widens_createCollection there extra
  refine ⟨fun page answered => ?_, fun fault isClient refused => ?_⟩
  · exact list_widened widens answered
  · exact refused_before widens isClient refused

/-- Books without an index, before and after an index of authors is declared. -/
theorem list_createCollection_author :
    ∃ (store : MemoryStore) (held : Collection) (resources : Fields Resource) (page : ListPage)
      (wider : MemoryStore),
      store.collection? "books" = .ok held ∧
      wider = store.createCollection "books" [["author"], ["id"], []] ∧
      (inMemory store resources).list "book" (Params.ofPairs [("id", "2")]) = .ok page ∧
      (inMemory wider resources).list "book" (Params.ofPairs [("id", "2")]) = .ok page ∧
      (inMemory wider resources).list "book" (Params.ofPairs [("author", "a1"), ("year", "1")]) =
        .error (.query (.filterNotIndexed "year")) ∧
      ∃ earlier, earlier.isClientError = true ∧
        (inMemory store resources).list "book"
          (Params.ofPairs [("author", "a1"), ("year", "1")]) = .error (.query earlier) := by
  let held : Collection := ⟨[], [.object [("id", .string "1")], .object [("id", .string "2")]]⟩
  let store : MemoryStore := ⟨[("books", held)], 0⟩
  let wider := store.createCollection "books" [["author"], ["id"], []]
  let resources : Fields Resource := [("book", ⟨"book", "books", none⟩)]
  have there : store.collection? "books" = .ok held := rfl
  have refused : (inMemory wider resources).list "book"
      (Params.ofPairs [("author", "a1"), ("year", "1")]) =
        .error (.query (.filterNotIndexed "year")) := rfl
  have answered : ∃ page, (inMemory store resources).list "book" (Params.ofPairs [("id", "2")]) =
      .ok page := ⟨_, rfl⟩
  obtain ⟨page, answered⟩ := answered
  obtain ⟨kept, _⟩ := list_createCollection there [["author"], ["id"], []] resources "book"
    (Params.ofPairs [("id", "2")])
  obtain ⟨_, before⟩ := list_createCollection there [["author"], ["id"], []] resources "book"
    (Params.ofPairs [("author", "a1"), ("year", "1")])
  exact ⟨store, held, resources, page, wider, there, rfl, answered, kept page answered, refused,
    before _ rfl refused⟩

end ListService

end IndexGuard
