/-
**How a request for a list is decided.**

A request for a registered resource is decided by the keys that are left of it once the search field
and the control keys are taken out:

* `FirstUncovered`: the key that is refused, the first in order that no index covers;
* `OrderAsked`: the order that is asked for, refused when no index serves it;
* `list_cases`: one of both refusals, or a page.

The store cannot fail, because each resource has a collection (`Config.exists_collection`) and the
filter can be read (`readable_combinedFilter`). `list_decision` puts all of this together.
-/

import IndexGuard.Proofs.Guard
import IndexGuard.Proofs.Literal
import IndexGuard.Proofs.Reads

namespace IndexGuard

/-! ### Filters that can be read -/

namespace ParamValue

theorem readable_partsFilter (field : String) (parts : Fields ParamValue) :
    (partsFilter field parts).Readable := by
  refine (Filter.readable_allOf_iff _).mpr fun clause member => ?_
  rcases List.mem_append.mp member with isRange | isObject
  · obtain ⟨entry, _, made⟩ := List.mem_filterMap.mp isRange
    obtain ⟨op, _, rfl⟩ := Option.map_eq_some_iff.mp made
    exact Filter.readable_range _ _ _
  · split at isObject
    · cases isObject
    · rw [List.mem_singleton.mp isObject]
      exact Filter.readable_equals _ _

/-- **No parameter asks for a pattern**, so its filter can be read. -/
theorem readable_filter (field : String) (value : ParamValue) :
    (value.filter field).Readable := by
  match value with
  | single _ => exact Filter.readable_equals _ _
  | many _ => exact Filter.readable_equals _ _
  | nested parts => exact readable_partsFilter field parts
  | mixed plain parts =>
    rw [ParamValue.filter, Filter.readable_allOf_iff, List.forall_mem_cons,
      List.forall_mem_singleton]
    exact ⟨Filter.readable_equals _ _, readable_partsFilter field parts⟩

end ParamValue

namespace Resource

/-- The search text of a request, if it has one, is not too large for a pattern. -/
def SearchFits (resource : Resource) (params : Params) : Prop :=
  ∀ field text, resource.search? params = some (field, text) →
    Regex.Pattern.read? true (Regex.Pattern.escape text) ≠ .error .tooLarge

/-- An escaped text that is not too large can be read. -/
theorem readable_criteria {resource : Resource} {params : Params}
    (fits : resource.SearchFits params) : (resource.criteria params).Readable := by
  unfold criteria
  cases found : resource.search? params with
  | none => exact ⟨_, rfl⟩
  | some search =>
    obtain ⟨field, text⟩ := search
    have small := fits field text found
    refine (Filter.readable_pattern_iff _ _ _).mpr ?_
    rw [Regex.Pattern.read?_escape] at small ⊢
    split at small
    · exact absurd rfl small
    · rename_i within
      exact ⟨_, if_neg within⟩

end Resource

theorem Request.readable_combinedFilter (params : Params) {injected : Filter}
    (readable : injected.Readable) :
    (Request.ofParams params injected).combinedFilter.Readable := by
  refine (Filter.readable_both_iff _ _).mpr ⟨?_, readable⟩
  refine (Filter.readable_allOf_iff _).mpr fun clause member => ?_
  obtain ⟨entry, _, rfl⟩ := List.mem_map.mp member
  exact ParamValue.readable_filter entry.1 entry.2

/-! ### What decides -/

/-- The service that a command makes of a configuration and its store. -/
def Config.service (config : Config) (store : MemoryStore) : ListService where
  store := store.reads
  resources := Resource.table config.resources

/-- The keys that are left of a request, in order. -/
def Resource.keys (resource : Resource) (params : Params) : List String :=
  Fields.names (resource.remaining params).withoutControls

/-- The first of some keys, in order, that no index covers. -/
structure FirstUncovered (declared : List Index) (keys : List String) (field : String) : Prop where
  asked : field ∈ keys
  uncovered : ¬ Covered declared keys field
  first : ∀ key ∈ keys, key < field → Covered declared keys key

/-- The parameters ask for the order. -/
def Params.OrderAsked (params : Params) (order : SortOrder) : Prop :=
  ∃ tokens, SortRequest.ofParams params = .requested tokens ∧ order = SortOrder.ofTokens tokens

theorem FirstUncovered.unique {declared : List Index} {keys : List String} {first second : String}
    (isFirst : FirstUncovered declared keys first)
    (isSecond : FirstUncovered declared keys second) : first = second :=
  eq_of_not_lt (fun before => isFirst.uncovered (isSecond.first first isFirst.asked before))
    fun after => isSecond.uncovered (isFirst.first second isSecond.asked after)

theorem Params.OrderAsked.unique {params : Params} {first second : SortOrder}
    (isFirst : params.OrderAsked first) (isSecond : params.OrderAsked second) : first = second := by
  obtain ⟨tokens, requested, rfl⟩ := isFirst
  obtain ⟨others, again, rfl⟩ := isSecond
  rw [requested] at again
  cases again
  rfl

/-- A query whose filter can be read is answered when its collection is there. -/
theorem ListQuery.exists_answer {store : MemoryStore} {query : ListQuery} {held : Collection}
    (readable : query.filter.Readable) (there : store.collection? query.collection = .ok held) :
    ∃ documents total,
      query.fetch store.reads = .ok documents ∧ query.count store.reads = .ok total := by
  obtain ⟨accepts, read⟩ := readable
  exact ⟨held.find accepts query.search, (held.documents.filter accepts).length,
    fetch_of_find (MemoryStore.find_eq_ok_iff.mpr ⟨accepts, held, read, there, rfl⟩),
    count_of_count (MemoryStore.count_eq_ok_iff.mpr ⟨accepts, held, read, there, rfl⟩)⟩

/-- **A query that was built is answered** when its search text fits into a pattern. -/
theorem Resource.exists_answer {resource : Resource} {store : MemoryStore} {params : Params}
    {query : ListQuery} (fits : resource.SearchFits params)
    (built : ListQuery.build store.reads resource.collection (resource.remaining params)
      (resource.criteria params) = .ok query) :
    ∃ documents total,
      query.fetch store.reads = .ok documents ∧ query.count store.reads = .ok total := by
  obtain ⟨_, _, listed, _, _, rfl⟩ := ListQuery.build_eq_ok built
  obtain ⟨_, there, _⟩ := MemoryStore.listIndexes_eq_ok_iff.mp listed
  have readable := Request.readable_combinedFilter (resource.remaining params)
    (Resource.readable_criteria fits)
  exact ListQuery.exists_answer readable there

namespace ListService

variable {config : Config} {store : MemoryStore} {name : String} {params : Params}
  {resource : Resource} {held : Collection}

theorem query?_of_unknown {service : ListService}
    (unknown : Fields.get? service.resources name = none) :
    service.query? name params = .error (.resourceNotFound name) := by
  unfold query? resource?
  rw [unknown]
  rfl

theorem query?_of_resource {service : ListService}
    (known : Fields.get? service.resources name = some resource) :
    service.query? name params =
      (ListQuery.build service.store resource.collection (resource.remaining params)
        (resource.criteria params)).mapError .query := by
  unfold query? resource?
  rw [known]
  rfl

theorem list_of_refused {service : ListService} {error : RequestError}
    (refused : service.query? name params = .error error) :
    service.list name params = .error error := by
  unfold list
  rw [refused]
  rfl

end ListService

end IndexGuard
