/-
**Paging is invisible to the check and the count.**

Pairs that address the page number or the page size, plainly or in a part, are taken out of a
request (`Params.unpaged`):

* `request_erase`: an entry for the page or its size plays no part in the filter and the order;
* `request_unpaged`: so a request asks for the same without those pairs, wherever they stand;
* `build_ignores_paging`: requests that differ in those pairs only are refused alike, or make
  queries that have the same filter, the same order and the same count.
-/

import IndexGuard.Proofs.Deletion
import IndexGuard.Proofs.Pages

namespace IndexGuard

open Address (Concerns)

namespace Params

/-- The pairs of a request that address neither the page nor its size. -/
def unpaged (pairs : List (String × String)) : List (String × String) :=
  pairs.filter fun pair => ¬ Concerns pair.1 pageKey ∧ ¬ Concerns pair.1 limitKey

/-! ### Parameters without a page -/

/-- Erasing a control key changes nothing of what is left without the control keys. -/
theorem withoutControls_erase (params : Params) {key : String} (control : key ∈ controlKeys) :
    withoutControls (Fields.erase params key) = params.withoutControls := by
  rw [withoutControls_eq_filter, withoutControls_eq_filter, Fields.erase, List.filter_filter]
  refine List.filter_congr fun field _ => ?_
  by_cases same : field.1 = key
  · have steers : controlKeys.contains field.1 = true :=
      List.contains_iff_mem.mpr (same ▸ control)
    rw [steers]
    rfl
  · simp [same]

/-- **An entry for the page or its size plays no part in the filter and the order.** -/
theorem request_erase (params : Params) {key : String} (control : key ∈ controlKeys)
    (unsorted : key ≠ sortKey) (injected : Filter) :
    Request.ofParams (Fields.erase params key) injected = Request.ofParams params injected := by
  refine request_congr (withoutControls_erase params control) ?_ injected
  rw [text?, text?, Fields.get?_erase, if_neg unsorted]

/-- Without the pairs of a page, a request makes the parameters without it. -/
theorem ofPairs_unpaged (pairs : List (String × String)) :
    ofPairs (unpaged pairs) = Fields.erase (Fields.erase (ofPairs pairs) pageKey) limitKey := by
  rw [erase_ofPairs, erase_ofPairs, List.filter_filter, unpaged]
  congr 1
  refine List.filter_congr fun pair _ => ?_
  rw [Bool.decide_and, Bool.and_comm]

/-- **Without the pairs of a page, a request asks for the same.** -/
theorem request_unpaged (pairs : List (String × String)) (injected : Filter) :
    Request.ofParams (ofPairs (unpaged pairs)) injected =
      Request.ofParams (ofPairs pairs) injected := by
  rw [ofPairs_unpaged, request_erase _ (by decide) (by decide),
    request_erase _ (by decide) (by decide)]

end Params

/-! ### Two requests -/

namespace ListQuery

/-- **Paging is invisible to the check and the count.** Take two requests that are the same once all
pairs are taken out that address the page or its size, plainly or in a part, wherever they stand and
whatever they ask for. For any store, collection and added criteria, both are refused with the same
error, or both make queries with the same filter, the same order and the same count. -/
theorem build_ignores_paging (store : DocumentStore) (collection : String) (injected : Filter)
    {first second : List (String × String)} (same : Params.unpaged first = Params.unpaged second) :
    (∃ error, build store collection (Params.ofPairs first) injected = .error error ∧
      build store collection (Params.ofPairs second) injected = .error error) ∨
    ∃ query other,
      build store collection (Params.ofPairs first) injected = .ok query ∧
      build store collection (Params.ofPairs second) injected = .ok other ∧
      other.filter = query.filter ∧ other.sort = query.sort ∧
      ∀ reader : DocumentStore, other.count reader = query.count reader := by
  have asked : Request.ofParams (Params.ofPairs second) injected =
      Request.ofParams (Params.ofPairs first) injected := by
    rw [← Params.request_unpaged second, ← same, Params.request_unpaged]
  have turned := build_congr store collection asked
  cases built : build store collection (Params.ofPairs first) injected with
  | error error =>
    rw [built] at turned
    exact .inl ⟨error, rfl, turned⟩
  | ok query =>
    rw [built] at turned
    exact .inr ⟨query, query.turnedTo _, rfl, turned, rfl, rfl, fun _ => rfl⟩

/-- Pages asked for in several ways around the author of a book. -/
theorem build_ignores_paging_author :
    ∃ (store : DocumentStore) (query other : ListQuery),
      Params.unpaged [("page", "2"), ("author", "a1"), ("limit[gte]", "x"), ("limit", "5")] =
        Params.unpaged [("author", "a1"), ("page[x]", "1")] ∧
      build store "books" (Params.ofPairs
        [("page", "2"), ("author", "a1"), ("limit[gte]", "x"), ("limit", "5")])
        Filter.everything = .ok query ∧
      build store "books" (Params.ofPairs [("author", "a1"), ("page[x]", "1")])
        Filter.everything = .ok other ∧
      query.paging = ⟨2, 5⟩ ∧ other.paging = ⟨1, 100⟩ ∧ other.filter = query.filter ∧
      other.count store = query.count store := by
  let store : DocumentStore :=
    ⟨fun _ => .ok [["id"], ["author"]], fun _ _ => .ok [], fun _ _ => .ok 0⟩
  have same : Params.unpaged
      [("page", "2"), ("author", "a1"), ("limit[gte]", "x"), ("limit", "5")] =
        Params.unpaged [("author", "a1"), ("page[x]", "1")] := by decide
  let query : ListQuery :=
    ⟨"books", .all [.equals "author" (.string "a1")], [⟨"id", .descending⟩], ⟨2, 5⟩⟩
  let other : ListQuery :=
    ⟨"books", .all [.equals "author" (.string "a1")], [⟨"id", .descending⟩], ⟨1, 100⟩⟩
  have builtFirst : build store "books" (Params.ofPairs
      [("page", "2"), ("author", "a1"), ("limit[gte]", "x"), ("limit", "5")])
      Filter.everything = .ok query := rfl
  have builtSecond : build store "books" (Params.ofPairs [("author", "a1"), ("page[x]", "1")])
      Filter.everything = .ok other := rfl
  refine ⟨store, query, other, same, builtFirst, builtSecond, rfl, rfl, ?_⟩
  rcases build_ignores_paging store "books" Filter.everything same with
    ⟨error, refused, _⟩ | ⟨_, _, isQuery, isOther, sameFilter, _, sameCount⟩
  · rw [builtFirst] at refused
    cases refused
  · rw [builtFirst] at isQuery
    rw [builtSecond] at isOther
    cases isQuery
    cases isOther
    exact ⟨sameFilter, sameCount store⟩

end ListQuery

end IndexGuard
