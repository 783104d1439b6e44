/-
**Backward is the reverse of forward.**

An index can be read in both directions, so an order with all directions flipped is served like the
order itself. Here is what it finds:

* `compareDocuments_reversed`: the flipped order compares any two documents the other way round;
* `Distinguishes`: no two documents of a list compare as equal, so only one arrangement of them is
  in order (`Distinguishes.eq_of_not_gt`);
* `sort_reversed`: this arrangement backward is the one of the flipped order;
* `MemoryStore.find_reversed` puts this together for searches.
-/

import IndexGuard.Proofs.Arrangement
import IndexGuard.Proofs.Counting
import Mathlib.Data.List.Pairwise

namespace IndexGuard

/-! ### Comparisons -/

theorem Direction.apply_flipped (direction : Direction) (ordering : Ordering) :
    direction.flipped.apply ordering = (direction.apply ordering).swap := by
  cases direction with
  | ascending => rfl
  | descending => exact Ordering.swap_swap.symm

theorem SortKey.compareDocuments_flipped (key : SortKey) (first second : Json) :
    key.flipped.compareDocuments first second = (key.compareDocuments first second).swap :=
  key.direction.apply_flipped _

namespace SortOrder

/-- **The flipped order compares documents the other way round.** -/
theorem compareDocuments_reversed (order : SortOrder) (first second : Json) :
    order.reversed.compareDocuments first second =
      (order.compareDocuments first second).swap := by
  induction order with
  | nil => rfl
  | cons key rest ih =>
    show (key.flipped.compareDocuments first second).then
      (compareDocuments (reversed rest) first second) = _
    rw [compareDocuments, Ordering.swap_then, key.compareDocuments_flipped, ih]

/-! ### Arrangements -/

/-- No two of the documents compare as equal. -/
def Distinguishes (order : SortOrder) (documents : List Json) : Prop :=
  documents.Pairwise fun first second => order.compareDocuments first second ≠ .eq

variable {order : SortOrder} {documents : List Json}

/-- Of two documents that are told apart, one comes before the other. -/
theorem Distinguishes.eq_of_not_gt (distinct : order.Distinguishes documents) {first second : Json}
    (isFirst : first ∈ documents) (isSecond : second ∈ documents)
    (below : order.compareDocuments first second ≠ .gt)
    (above : order.compareDocuments second first ≠ .gt) : first = second := by
  by_contra different
  have symmetric : Std.Symm fun first second => order.compareDocuments first second ≠ .eq := by
    refine ⟨fun first second apart tied => ?_⟩
    rw [compareDocuments_swap, Ordering.swap_eq_eq] at tied
    exact apart tied
  have apart := List.Pairwise.forall distinct isFirst isSecond different
  rw [compareDocuments_swap] at above
  cases ordered : order.compareDocuments first second with
  | lt => exact above (by rw [ordered]; rfl)
  | eq => exact apart ordered
  | gt => exact below ordered

/-- **Documents in the flipped order are the documents in order, backward.** -/
theorem sort_reversed (comparable : ∀ document ∈ documents, document.ComparableFields)
    (distinct : order.Distinguishes documents) :
    order.reversed.sort documents = (order.sort documents).reverse := by
  have backward : ∀ first second, order.reversed.compareDocuments first second =
      order.compareDocuments second first := fun first second => by
    rw [compareDocuments_reversed, ← compareDocuments_swap]
  have sameMembers : (order.reversed.sort documents).Perm documents := List.mergeSort_perm _ _
  have sameMembersBackward : (order.sort documents).reverse.Perm documents :=
    (List.reverse_perm _).trans (List.mergeSort_perm _ _)
  have inOrderBackward : (order.sort documents).reverse.Pairwise fun first second =>
      order.reversed.compareDocuments first second ≠ .gt := by
    rw [List.pairwise_reverse]
    exact (pairwise_sort comparable).imp fun inOrder => by rwa [backward]
  -- Both lists are in the flipped order, and only one arrangement of the documents is.
  refine List.Perm.eq_of_pairwise ?_ (pairwise_sort comparable) inOrderBackward
    (sameMembers.trans sameMembersBackward.symm)
  intro first second isFirst isSecond below above
  rw [backward] at below above
  exact distinct.eq_of_not_gt (sameMembers.mem_iff.mp isFirst)
    (sameMembersBackward.mem_iff.mp isSecond) above below

end SortOrder

/-! ### Searches -/

namespace MemoryStore

/-- **Backward is the reverse of forward.**

* An order with all directions flipped compares any two documents the other way round.
* Take a search for all documents of a collection that a readable filter accepts. When these have
  comparable fields and no two of them compare as equal in an order, then the search in the flipped
  order finds exactly the reverse of what it finds in this order.
* A search fails in an order exactly when it fails in the flipped one, with the same failure.
* The documents of a store that is filled from JSON text have comparable fields, and so have those
  that are there after further calls, unless these insert others.
-/
theorem find_reversed :
    (∀ (order : SortOrder) (first second : Json),
      order.reversed.compareDocuments first second =
        (order.compareDocuments first second).swap) ∧
    (∀ (store : MemoryStore) (name : String) (filter : Filter) (accepts : Json → Bool)
      (held : Collection) (order : SortOrder),
      filter.compile? = .ok accepts → store.collection? name = .ok held →
      (∀ document ∈ held.documents.filter accepts, document.ComparableFields) →
      order.Distinguishes (held.documents.filter accepts) →
      ∃ arranged : List Json,
        store.reads.find name { filter := filter, sort := order } = .ok arranged ∧
        store.reads.find name { filter := filter, sort := order.reversed } =
          .ok arranged.reverse) ∧
    (∀ (store : MemoryStore) (name : String) (filter : Filter) (order : SortOrder)
      (failure : StoreError),
      store.reads.find name { filter := filter, sort := order.reversed } = .error failure ↔
        store.reads.find name { filter := filter, sort := order } = .error failure) ∧
    ∀ store : MemoryStore, store.Filled → store.Comparable := by
  refine ⟨SortOrder.compareDocuments_reversed, ?_, ?_, fun _ filled => filled.comparable⟩
  · intro store name filter accepts held order compiled there comparable distinct
    have found : ∀ sort : SortOrder, store.reads.find name { filter := filter, sort := sort } =
        .ok (sort.sort (held.documents.filter accepts)) := fun sort =>
      find_eq_ok_iff.mpr ⟨accepts, held, compiled, there, held.find_eq_slice accepts _⟩
    refine ⟨_, found order, ?_⟩
    rw [found order.reversed, SortOrder.sort_reversed comparable distinct]
  · intro store name filter order failure
    rw [find_eq, find_eq, readThrough_eq_error_iff, readThrough_eq_error_iff]

/-- Books by year, the later identifier first within a year, and the same books backward. -/
theorem find_reversed_books :
    ∃ (store : MemoryStore) (order : SortOrder) (undated emma solaris dune : Json),
      order = [⟨"year", .ascending⟩, ⟨"id", .descending⟩] ∧
      undated.get? "year" = none ∧ solaris.get? "id" = some (.string "s") ∧
      store.reads.find "books" { filter := Filter.everything, sort := order } =
        .ok [undated, emma, solaris, dune] ∧
      store.reads.find "books" { filter := Filter.everything, sort := order.reversed } =
        .ok [dune, solaris, emma, undated] := by
  let undated : Json := .object [("id", .string "u")]
  let emma : Json := .object [("id", .string "e"), ("year", .int 1815)]
  let solaris : Json := .object [("id", .string "s"), ("year", .int 1961)]
  let dune : Json := .object [("id", .string "d"), ("year", .int 1961)]
  let documents : List Json := [undated, emma, solaris, dune]
  let calls : List Call := .create "books" [] :: documents.map (.insert "books")
  let order : SortOrder := [⟨"year", .ascending⟩, ⟨"id", .descending⟩]
  have there : (after {} calls).collection? "books" = .ok ⟨[], documents⟩ := rfl
  have compiled : Filter.everything.compile? = .ok fun _ => true := rfl
  have comparable : ∀ document ∈ documents, document.ComparableFields := by
    simp only [documents, List.forall_mem_cons]
    refine ⟨?_, ?_, ?_, ?_, List.forall_mem_nil _⟩ <;>
      refine Json.comparableFields_of_members ?_ <;>
      simp [Json.Comparable, Json.int, Number.toBinary64, Binary64.isNaN_ofInt]
  have rising : documents.Pairwise fun first second =>
      order.compareDocuments first second = .lt := by decide
  have forward : (after {} calls).reads.find "books"
      { filter := Filter.everything, sort := order } = .ok documents := by
    refine find_eq_ok_iff.mpr ⟨_, _, compiled, there, ?_⟩
    exact List.mergeSort_of_pairwise (rising.imp fun below => by rw [below]; rfl)
  obtain ⟨_, backward, _⟩ := find_reversed
  obtain ⟨arranged, found, foundBackward⟩ := backward (after {} calls) "books"
    Filter.everything _ _ order compiled there
    (fun document member => comparable document (List.mem_filter.mp member).1)
    (rising.imp fun below => by rw [below]; decide)
  rw [forward] at found
  cases found
  exact ⟨after {} calls, order, undated, emma, solaris, dune, rfl, rfl, rfl, forward, foundBackward⟩

end MemoryStore

end IndexGuard
