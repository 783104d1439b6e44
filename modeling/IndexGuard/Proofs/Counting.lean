/-
**A search and a count agree.**

A search arranges and slices the documents that a count only counts. Both read the filter first and
then look for the collection (`MemoryStore.readThrough`):

* `FirstFault`, `compile?_eq_error_iff`: a filter fails with the fault of its first pattern that
  cannot be read, from left to right at any depth;
* `MemoryStore.readThrough_eq_error_iff`: so a read fails for this pattern, or else for a missing
  collection, whatever it asks;
* `Collection.length_find`: a search finds as many documents as its skip and its limit leave of
  those that the filter accepts, which are those that are counted
  (`MemoryStore.count_eq_ok_iff_find`);
* `MemoryStore.find_agrees_with_count` puts this together for every search.
-/

import IndexGuard.Proofs.Reads

namespace IndexGuard

open Regex (PatternError)

/-- A test is a pattern that cannot be read, for a reason. -/
def Leaf.Fails (test : Leaf) (fault : PatternError) : Prop :=
  ∃ source ignoreCase, test.test = .pattern source ignoreCase ∧
    Regex.Pattern.read? ignoreCase source = .error fault

/-- The first pattern among some tests that cannot be read has a fault. -/
inductive FirstFault (fault : PatternError) : List Leaf → Prop
  | here {test : Leaf} {rest : List Leaf} : test.Fails fault → FirstFault fault (test :: rest)
  | later {test : Leaf} {rest : List Leaf} : (∀ other, ¬ test.Fails other) →
      FirstFault fault rest → FirstFault fault (test :: rest)

/-- The number of documents that a search takes of those that match. -/
def Search.taken (search : Search) (total : Nat) : Nat :=
  match search.limit with
  | some limit => min limit (total - search.skip)
  | none => total - search.skip

namespace Filter

/-! ### Faults of filters -/

/-- **Only a pattern fails to be read.** -/
theorem compile?_leaf_eq_error_iff {test : Leaf} {fault : PatternError} :
    (leaf test).compile? = .error fault ↔ test.Fails fault := by
  obtain ⟨field, asked⟩ := test
  cases asked with
  | equals value => exact iff_of_false nofun fun ⟨_, _, isPattern, _⟩ => nomatch isPattern
  | range op bound => exact iff_of_false nofun fun ⟨_, _, isPattern, _⟩ => nomatch isPattern
  | pattern source ignoreCase =>
    show ((Regex.Pattern.read? ignoreCase source).map _).map _ = .error fault ↔ _
    constructor
    · intro failed
      cases unread : Regex.Pattern.read? ignoreCase source with
      | error other =>
        rw [unread] at failed
        cases failed
        exact ⟨source, ignoreCase, rfl, unread⟩
      | ok regex =>
        rw [unread] at failed
        cases failed
    · rintro ⟨_, _, ⟨⟩, unread⟩
      rw [unread]
      rfl

/-- **Tests fail with the first fault among them.** -/
theorem compileAll?_eq_error_iff {fault : PatternError} (tests : List Leaf) :
    compileAll? (tests.map leaf) = .error fault ↔ FirstFault fault tests := by
  induction tests with
  | nil => exact iff_of_false nofun nofun
  | cons test rest ih =>
    rw [List.map_cons, compileAll?_cons]
    cases read : (leaf test).compile? with
    | error other =>
      have fails := compile?_leaf_eq_error_iff.mp read
      constructor
      · rintro ⟨⟩
        exact .here fails
      · intro first
        cases first with
        | here same =>
          rw [← compile?_leaf_eq_error_iff, read] at same
          exact same
        | later readable _ => exact absurd fails (readable other)
    | ok passes =>
      have readable : ∀ other, ¬ test.Fails other := by
        intro other fails
        rw [← compile?_leaf_eq_error_iff, read] at fails
        cases fails
      have same : conjoin? (.ok passes) (compileAll? (rest.map leaf)) = .error fault ↔
          compileAll? (rest.map leaf) = .error fault := by
        cases compileAll? (rest.map leaf) <;> simp [conjoin?]
      rw [same, ih]
      refine ⟨.later readable, fun first => ?_⟩
      cases first with
      | here fails => exact absurd fails (readable fault)
      | later _ first => exact first

/-- **A filter fails with the first fault among its tests.** -/
theorem compile?_eq_error_iff {filter : Filter} {fault : PatternError} :
    filter.compile? = .error fault ↔ FirstFault fault filter.leaves := by
  rw [compile?_eq_leaves, compileAll?_eq_error_iff]

/-- There is a first fault among tests exactly when some test has one. -/
theorem exists_firstFault_iff (tests : List Leaf) :
    (∃ fault, FirstFault fault tests) ↔ ∃ test ∈ tests, ∃ fault, test.Fails fault := by
  induction tests with
  | nil => exact iff_of_false nofun (by simp)
  | cons test rest ih =>
    simp only [List.mem_cons, exists_eq_or_imp]
    rw [← ih]
    constructor
    · rintro ⟨fault, first⟩
      cases first with
      | here fails => exact .inl ⟨fault, fails⟩
      | later _ first => exact .inr ⟨fault, first⟩
    · intro fails
      by_cases here : ∃ fault, test.Fails fault
      · obtain ⟨fault, fails⟩ := here
        exact ⟨fault, .here fails⟩
      · obtain ⟨fault, first⟩ := fails.resolve_left here
        exact ⟨fault, .later (not_exists.mp here) first⟩

/-- **A filter can be read exactly when none of its tests fails.** -/
theorem readable_iff_faultless (filter : Filter) :
    filter.Readable ↔ ∀ test ∈ filter.leaves, ∀ fault, ¬ test.Fails fault := by
  have faults := exists_firstFault_iff filter.leaves
  simp only [← compile?_eq_error_iff] at faults
  have unread : filter.Readable ↔ ¬ ∃ fault, filter.compile? = .error fault := by
    unfold Readable
    cases filter.compile? <;> simp
  rw [unread, faults]
  simp only [not_exists, not_and]

end Filter

/-! ### What a search takes -/

/-- **A search takes its share of the documents that the filter accepts.** -/
theorem Collection.length_find (held : Collection) (accepts : Json → Bool) (search : Search) :
    (held.find accepts search).length =
      search.taken (held.documents.filter accepts).length := by
  have sorted : (search.sort.sort (held.documents.filter accepts)).length =
      (held.documents.filter accepts).length := List.length_mergeSort _
  unfold Collection.find Search.taken
  cases search.limit with
  | none => simp only [List.length_drop, sorted]
  | some limit => simp only [List.length_take, List.length_drop, sorted]

namespace MemoryStore

variable {store : MemoryStore} {name : String}

/-! ### Failing reads -/

theorem collection?_eq_error_iff {failure : StoreError} :
    store.collection? name = .error failure ↔
      Fields.has store.collections name = false ∧ failure = .collectionNotFound name := by
  unfold collection? Fields.has
  cases Fields.get? store.collections name with
  | none => simp [eq_comm]
  | some held => simp

/-- **Whatever is asked, a read fails for the first pattern that cannot be read, or else for a
missing collection.** -/
theorem readThrough_eq_error_iff {Answer : Type} {filter : Filter}
    {answer : (Json → Bool) → Collection → Answer} {failure : StoreError} :
    store.readThrough name filter answer = .error failure ↔
      (∃ fault, FirstFault fault filter.leaves ∧ failure = .invalidFilter fault.message) ∨
      (∀ test ∈ filter.leaves, ∀ fault, ¬ test.Fails fault) ∧
        Fields.has store.collections name = false ∧ failure = .collectionNotFound name := by
  rw [← Filter.readable_iff_faultless, ← collection?_eq_error_iff]
  simp only [← Filter.compile?_eq_error_iff]
  unfold readThrough test? Filter.Readable
  cases filter.compile? with
  | error fault => simp [bind, Except.bind, Except.mapError, eq_comm]
  | ok accepts =>
    cases store.collection? name with
    | error missing => simp [bind, Except.bind, Except.mapError]
    | ok held => simp [bind, Except.bind, Except.mapError, pure, Except.pure]

/-- A read fails for a pattern exactly when some pattern cannot be read. -/
theorem readThrough_invalidFilter_iff {Answer : Type} {filter : Filter}
    {answer : (Json → Bool) → Collection → Answer} :
    (∃ reason, store.readThrough name filter answer = .error (.invalidFilter reason)) ↔
      ∃ test ∈ filter.leaves, ∃ fault, test.Fails fault := by
  rw [← Filter.exists_firstFault_iff]
  constructor
  · rintro ⟨reason, failed⟩
    rcases readThrough_eq_error_iff.mp failed with ⟨fault, first, _⟩ | ⟨_, _, other⟩
    · exact ⟨fault, first⟩
    · cases other
  · rintro ⟨fault, first⟩
    exact ⟨_, readThrough_eq_error_iff.mpr (.inl ⟨fault, first, rfl⟩)⟩

/-! ### Reads that succeed -/

/-- **A count is the number of documents that a search without skip and limit finds.** -/
theorem count_eq_ok_iff_find {filter : Filter} (sort : SortOrder) {total : Nat} :
    store.reads.count name filter = .ok total ↔
      ∃ matching, store.reads.find name { filter := filter, sort := sort } = .ok matching ∧
        matching.length = total := by
  have sameLength : ∀ (held : Collection) (accepts : Json → Bool),
      (held.find accepts { filter := filter, sort := sort }).length =
        (held.documents.filter accepts).length :=
    fun held accepts => held.length_find accepts _
  rw [count_eq_ok_iff]
  constructor
  · rintro ⟨accepts, held, compiled, there, rfl⟩
    exact ⟨_, find_eq_ok_iff.mpr ⟨accepts, held, compiled, there, rfl⟩, sameLength held accepts⟩
  · rintro ⟨_, found, rfl⟩
    obtain ⟨accepts, held, compiled, there, rfl⟩ := find_eq_ok_iff.mp found
    exact ⟨accepts, held, compiled, there, (sameLength held accepts).symm⟩

/-- **Where a count succeeds, a search takes its share.** -/
theorem find_of_count {search : Search} {total : Nat}
    (counted : store.reads.count name search.filter = .ok total) :
    ∃ documents, store.reads.find name search = .ok documents ∧
      documents.length = search.taken total := by
  obtain ⟨accepts, held, compiled, there, rfl⟩ := count_eq_ok_iff.mp counted
  exact ⟨_, find_eq_ok_iff.mpr ⟨accepts, held, compiled, there, rfl⟩,
    held.length_find accepts search⟩

/-- **A search and a count agree.** For any store in memory, any name, there or not, and any search:

* the search fails exactly when the count of its filter does, and with the same failure;
* this is a fault of the filter exactly when a pattern in it cannot be read, at any depth;
* it is then the fault of the first such pattern, even when the collection is missing too, and
  without such a pattern only a missing collection is a failure;
* a count that succeeds is the number of documents that the search finds without skip and limit;
* with skip and limit it finds what these leave of that number.
-/
theorem find_agrees_with_count (store : MemoryStore) (name : String) (search : Search) :
    (∀ failure, store.reads.find name search = .error failure ↔
      store.reads.count name search.filter = .error failure) ∧
    ((∃ reason, store.reads.count name search.filter = .error (.invalidFilter reason)) ↔
      ∃ test ∈ search.filter.leaves, ∃ fault, test.Fails fault) ∧
    (∀ failure, store.reads.count name search.filter = .error failure ↔
      (∃ fault, FirstFault fault search.filter.leaves ∧ failure = .invalidFilter fault.message) ∨
      (∀ test ∈ search.filter.leaves, ∀ fault, ¬ test.Fails fault) ∧
        Fields.has store.collections name = false ∧ failure = .collectionNotFound name) ∧
    (∀ total, store.reads.count name search.filter = .ok total ↔
      ∃ matching, store.reads.find name { filter := search.filter, sort := search.sort } =
        .ok matching ∧ matching.length = total) ∧
    ∀ total, store.reads.count name search.filter = .ok total →
      ∃ documents, store.reads.find name search = .ok documents ∧
        documents.length = search.taken total := by
  refine ⟨fun failure => ?_, ?_, fun failure => ?_, fun _ => count_eq_ok_iff_find search.sort,
    fun _ => find_of_count⟩
  · rw [find_eq, count_eq, readThrough_eq_error_iff, readThrough_eq_error_iff]
  · rw [count_eq]
    exact readThrough_invalidFilter_iff
  · rw [count_eq]
    exact readThrough_eq_error_iff

/-- Three books of which a search leaves out the first and takes one, and an open group deep inside
a filter for a collection that is missing. -/
theorem find_agrees_with_count_books :
    ∃ (store : MemoryStore) (search faulty : Search) (documents : List Json),
      store.reads.count "books" search.filter = .ok 3 ∧
      store.reads.find "books" search = .ok documents ∧ documents.length = 1 ∧
      Fields.has store.collections "shelf" = false ∧
      store.reads.find "shelf" faulty =
        .error (.invalidFilter (PatternError.message .unclosedGroup)) := by
  let titled : String → Json := fun title => .object [("title", .string title)]
  let store : MemoryStore := ⟨[("books", ⟨[], [titled "Dune", titled "Emma", titled "Ubik"]⟩)], 0⟩
  let search : Search := ⟨Filter.everything, [⟨"title", .descending⟩], 1, some 1⟩
  let faulty : Search :=
    { filter := .all [.equals "year" (.nat 1961), .all [.pattern "title" "(" true]] }
  have counted : store.reads.count "books" search.filter = .ok 3 := rfl
  have missing : Fields.has store.collections "shelf" = false := rfl
  obtain ⟨_, _, _, _, taken⟩ := find_agrees_with_count store "books" search
  obtain ⟨documents, found, length⟩ := taken 3 counted
  obtain ⟨same, _, failures, _⟩ := find_agrees_with_count store "shelf" faulty
  refine ⟨store, search, faulty, documents, counted, found, length, missing, ?_⟩
  refine (same _).mpr ((failures _).mpr (.inl ⟨.unclosedGroup, .later ?_ (.here ?_), rfl⟩))
  · rintro _ ⟨_, _, isPattern, _⟩
    cases isPattern
  · exact ⟨"(", true, rfl, rfl⟩

end MemoryStore

end IndexGuard
