/-
**A store is told by the calls that filled it.**

* `Index.distinct`, `indexes_after`: a collection has the indexes that were declared for it in
  order, without empty, implicit and repeated ones;
* `create_again`: a collection that is created again by a call that was made before stays as it is;
* `TakesId`, `takesId`: requests by `id` are accepted in every collection;
* `Told`, `told_of_calls`: so the calls and the answers of their inserts tell what the store holds.
-/

import IndexGuard.Proofs.Calls
import IndexGuard.Proofs.Decision

namespace IndexGuard

/-! ### Distinct indexes -/

namespace Index

variable {declared : List Index} {index : Index}

/-- Indexes in order without those that are empty or implicit, each where it stands first. -/
def distinct (declared : List Index) : List Index :=
  (declared.filter fun index => !index.isEmpty && index != [idField]).eraseDups

theorem mem_distinct_iff :
    index ∈ distinct declared ↔ index ∈ declared ∧ index ≠ [] ∧ index ≠ [idField] := by
  simp [distinct]

/-- **One more index is listed last**, unless it is empty, implicit or listed already. -/
theorem distinct_concat (declared : List Index) (index : Index) :
    distinct (declared ++ [index]) =
      if index = [] ∨ index = [idField] ∨ index ∈ declared then distinct declared
      else distinct declared ++ [index] := by
  unfold distinct
  rw [List.filter_append]
  by_cases idle : index = [] ∨ index = [idField]
  · have dropped : (!index.isEmpty && index != [idField]) = false := by
      rcases idle with rfl | rfl <;> rfl
    rw [List.filter_cons_of_neg (by simp [dropped]), List.filter_nil, List.append_nil,
      if_pos (by tauto)]
  · obtain ⟨nonempty, explicit⟩ := not_or.mp idle
    rw [List.filter_cons_of_pos (by simp [nonempty, explicit]), List.filter_nil,
      List.eraseDups_append]
    by_cases known : index ∈ declared
    · rw [if_pos (by tauto)]
      simp [List.removeAll, known, nonempty, explicit]
    · rw [if_neg (by tauto)]
      simp [List.removeAll, known, List.eraseDups_cons]

theorem nodup_distinct (declared : List Index) : (distinct declared).Nodup := by
  induction declared using List.reverseRecOn with
  | nil => exact List.nodup_nil
  | append_singleton before index ih =>
    rw [distinct_concat]
    split
    · exact ih
    · rename_i new
      refine List.nodup_append.mpr
        ⟨ih, List.pairwise_singleton _ _, fun first isFirst other isOther => ?_⟩
      rintro rfl
      obtain rfl := List.mem_singleton.mp isOther
      exact new (.inr (.inr (mem_distinct_iff.mp isFirst).1))

end Index

namespace Collection

variable {held : Collection}

/-- **Declarations leave the distinct indexes.** -/
theorem indexes_foldl_declare {known : List Index} (kept : held.indexes = Index.distinct known)
    (more : List Index) : (more.foldl declare held).indexes = Index.distinct (known ++ more) := by
  induction more generalizing held known with
  | nil => rw [List.append_nil]; exact kept
  | cons index rest ih =>
    have step : (held.declare index).indexes = Index.distinct (known ++ [index]) := by
      rw [Index.distinct_concat, declare]
      by_cases idle : index = [] ∨ index = [idField]
      · rw [if_pos (by rcases idle with rfl | rfl <;> rfl), if_pos (by tauto), kept]
      · obtain ⟨nonempty, explicit⟩ := not_or.mp idle
        by_cases listed : index ∈ known
        · have contained : index ∈ held.indexes := by
            rw [kept]
            exact Index.mem_distinct_iff.mpr ⟨listed, nonempty, explicit⟩
          rw [if_pos (by simp [contained]), if_pos (by tauto), kept]
        · have new : index ∉ held.indexes := by
            rw [kept]
            exact fun member => listed (Index.mem_distinct_iff.mp member).1
          rw [if_neg (by simp [new, nonempty, explicit]), if_neg (by tauto), ← kept]
    rw [List.foldl_cons, ih step, List.append_assoc, List.singleton_append]

/-- Declarations that are idle or known change nothing. -/
theorem foldl_declare_of_known {more : List Index}
    (known : ∀ index ∈ more, index = [] ∨ index = [idField] ∨ index ∈ held.indexes) :
    more.foldl declare held = held := by
  induction more with
  | nil => rfl
  | cons index rest ih =>
    have idle : held.declare index = held := by
      refine if_pos ?_
      rcases known index List.mem_cons_self with rfl | rfl | listed
      · rfl
      · rfl
      · simp [listed]
    rw [List.foldl_cons, idle]
    exact ih fun other member => known other (List.mem_cons_of_mem _ member)

end Collection

/-! ### Declared indexes -/

/-- The indexes that a call declares for a collection. -/
def Call.declares (name : String) : Call → List Index
  | create collection indexes => if collection = name then indexes else []
  | insert _ _ => []

/-- Some call creates the collection. -/
def Created (calls : List Call) (name : String) : Prop :=
  ∃ indexes, Call.create name indexes ∈ calls

/-- The indexes that calls declare for a collection, in order. -/
def declarations (calls : List Call) (name : String) : List Index :=
  calls.flatMap (Call.declares name)

theorem created_iff {calls : List Call} {name : String} :
    Created calls name ↔ calls.any (Call.creates name) = true := by
  rw [List.any_eq_true]
  constructor
  · rintro ⟨indexes, member⟩
    exact ⟨_, member, beq_self_eq_true name⟩
  · rintro ⟨call, member, creates⟩
    cases call with
    | create collection indexes =>
      obtain rfl := beq_iff_eq.mp creates
      exact ⟨indexes, member⟩
    | insert collection document => cases creates

theorem mem_declarations {calls : List Call} {name : String} {indexes : List Index} {index : Index}
    (made : Call.create name indexes ∈ calls) (member : index ∈ indexes) :
    index ∈ declarations calls name :=
  List.mem_flatMap.mpr ⟨_, made, by rwa [Call.declares, if_pos rfl]⟩

/-- A sorted table stays as it is when a value is entered that it has. -/
theorem Fields.Sorted.insert_of_get? {Value : Type} {fields : Fields Value} {name : String}
    {value : Value} (sorted : Fields.Sorted fields) (found : Fields.get? fields name = some value) :
    Fields.insert fields name value = fields := by
  refine (sorted.insert name value).ext sorted fun asked => ?_
  rw [Fields.get?_insert]
  split
  · rename_i same
    rw [← same, found]
  · rfl

namespace MemoryStore

variable {store : MemoryStore} {calls : List Call} {name : String}

theorem indexes_apply {known : List Index} (kept : (store.held name).indexes = Index.distinct known)
    (call : Call) : ((call.apply store).held name).indexes =
      Index.distinct (known ++ call.declares name) := by
  by_cases same : call.collection = name
  · cases call with
    | create collection indexes =>
      obtain rfl : collection = name := same
      show ((store.createCollection collection indexes).held collection).indexes = _
      rw [held_createCollection, Collection.indexes_foldl_declare kept, Call.declares, if_pos rfl]
    | insert collection document =>
      obtain rfl : collection = name := same
      show ((store.insert collection document).1.held collection).indexes = _
      rw [Call.declares, List.append_nil, ← kept]
      rcases store.insert_cases collection document with ⟨fields, _, _, inserted⟩ |
          ⟨_, nextId, failure, inserted⟩
      · rw [inserted, held, Fields.get?_insert, if_pos rfl]
        rfl
      · rw [inserted]
        rfl
  · have silent : call.declares name = [] := by
      cases call with
      | create collection indexes =>
        have different : collection ≠ name := same
        rw [Call.declares, if_neg different]
      | insert collection document => rfl
    rw [held_apply_of_ne store same, silent, List.append_nil, kept]

/-- **After calls a collection has the distinct ones of the indexes declared for it.** -/
theorem indexes_after {known : List Index} (kept : (store.held name).indexes = Index.distinct known)
    (calls : List Call) : ((store.after calls).held name).indexes =
      Index.distinct (known ++ declarations calls name) := by
  induction calls generalizing store known with
  | nil => rw [declarations, List.flatMap_nil, List.append_nil]; exact kept
  | cons call rest ih =>
    rw [after_cons, ih (indexes_apply kept call), List.append_assoc, declarations, declarations,
      List.flatMap_cons]

theorem sorted_apply (sorted : Fields.Sorted store.collections) (call : Call) :
    Fields.Sorted (call.apply store).collections := by
  cases call with
  | create collection indexes => exact sorted.insert _ _
  | insert collection document =>
    show Fields.Sorted (store.insert collection document).1.collections
    rcases store.insert_cases collection document with ⟨fields, _, _, inserted⟩ |
        ⟨_, nextId, failure, inserted⟩
    · rw [inserted]
      exact sorted.insert _ _
    · rw [inserted]
      exact sorted

/-- After calls the collections are still in the order of their names. -/
theorem sorted_after (sorted : Fields.Sorted store.collections) (calls : List Call) :
    Fields.Sorted (store.after calls).collections := by
  induction calls generalizing store with
  | nil => exact sorted
  | cons call rest ih => exact ih (sorted_apply sorted call)

/-! ### Stores that calls have filled -/

theorem has_iff_created : Fields.has (after {} calls).collections name = true ↔
    Created calls name := by
  have none : Fields.has ({} : MemoryStore).collections name = false := rfl
  rw [has_after, created_iff, none, Bool.false_or]

theorem indexes_held : ((after {} calls).held name).indexes =
    Index.distinct (declarations calls name) := by
  have initially : (({} : MemoryStore).held name).indexes = Index.distinct [] := rfl
  exact indexes_after initially calls

/-- **A call that was made before creates nothing new.** -/
theorem create_again {indexes : List Index} (made : Call.create name indexes ∈ calls) :
    (after {} calls).createCollection name indexes = after {} calls := by
  have there : Fields.has (after {} calls).collections name = true :=
    has_iff_created.mpr ⟨indexes, made⟩
  obtain ⟨kept, found⟩ := Option.isSome_iff_exists.mp there
  have isHeld : kept = (after {} calls).held name := by rw [held, found, Option.getD_some]
  have known : indexes.foldl Collection.declare kept = kept := by
    refine Collection.foldl_declare_of_known fun index member => ?_
    rw [isHeld, indexes_held, Index.mem_distinct_iff]
    have declared := mem_declarations made member
    tauto
  rw [createCollection, found, Option.getD_some, known,
    (sorted_after Fields.sorted_nil calls).insert_of_get? found]

end MemoryStore

/-! ### Requests by `id` -/

/-- The parameters filter by nothing but `id`. -/
def Params.FiltersById (params : Params) : Prop :=
  ∀ field ∈ Fields.names params.withoutControls, field = idField

/-- The parameters ask for no order but one by `id`, forward or backward. -/
def Params.SortsById (params : Params) : Prop :=
  ∀ order, params.OrderAsked order → ∃ direction, order = [⟨idField, direction⟩]

namespace ListQuery

/-- A request is not refused for filtering by `id` alone, nor for sorting by `id`. -/
structure TakesId (store : DocumentStore) (collection : String) (params : Params)
    (injected : Filter) : Prop where
  filter : params.FiltersById →
    ∀ field, build store collection params injected ≠ .error (.filterNotIndexed field)
  sort : params.SortsById →
    ∀ text, build store collection params injected ≠ .error (.sortNotIndexed text)
  both : params.FiltersById → params.SortsById →
    ∃ query, build store collection params injected = .ok query

variable {store : DocumentStore} {collection : String} {declared : List Index} {params : Params}

theorem covered_of_filtersById (implicit : [idField] ∈ declared) (byId : params.FiltersById)
    (injected : Filter) : ∀ field ∈ (Request.ofParams params injected).filterFields,
      Covered declared (Request.ofParams params injected).filterFields field := by
  intro field asked
  obtain rfl := byId field asked
  refine ⟨[idField], implicit, 0, rfl, fun other member => ?_⟩
  rw [List.mem_singleton.mp member]
  exact asked

theorem sortOf_of_sortsById (implicit : [idField] ∈ declared) (byId : params.SortsById) :
    ∃ order, (Catalog.ofDeclared declared).sortOf (SortRequest.ofParams params) = .ok order := by
  cases request : SortRequest.ofParams params with
  | unspecified => exact ⟨_, rfl⟩
  | requested tokens =>
    obtain ⟨direction, isOrder⟩ := byId _ ⟨tokens, request, rfl⟩
    refine ⟨_, Catalog.sortOf_eq_ok_iff.mpr (.inr ⟨tokens, rfl, rfl, ?_⟩)⟩
    rw [isOrder]
    exact ⟨List.cons_ne_nil _ _, ⟨direction, by simp⟩, [idField], implicit, List.prefix_refl _⟩

/-- **Requests by `id` are accepted where the implicit index is listed.** -/
theorem takesId (listed : store.listIndexes collection = .ok declared)
    (implicit : [idField] ∈ declared) (params : Params) (injected : Filter) :
    TakesId store collection params injected := by
  refine ⟨fun filters field refused => ?_, fun sorts text refused => ?_, fun filters sorts => ?_⟩
  · rw [build_of_covered listed (covered_of_filtersById implicit filters injected)] at refused
    cases order : (Catalog.ofDeclared declared).sortOf (SortRequest.ofParams params) with
    | ok order =>
      rw [order] at refused
      cases refused
    | error error =>
      obtain ⟨tokens, _, _, rfl⟩ := Catalog.sortOf_eq_error_iff.mp order
      rw [order] at refused
      cases refused
  · obtain ⟨order, sorted⟩ := sortOf_of_sortsById implicit sorts
    cases uncovered : (Catalog.ofDeclared declared).firstUncovered?
        (Request.ofParams params injected).filterFields with
    | some field =>
      rw [build_of_uncovered listed uncovered] at refused
      cases refused
    | none =>
      rw [build_of_covered listed (Catalog.firstUncovered?_eq_none_iff.mp uncovered),
        sorted] at refused
      cases refused
  · obtain ⟨order, sorted⟩ := sortOf_of_sortsById implicit sorts
    rw [build_of_covered listed (covered_of_filtersById implicit filters injected), sorted]
    exact ⟨_, rfl⟩

end ListQuery

/-! ### What the calls tell -/

namespace MemoryStore

/-- What calls on an empty store and the answers of their inserts tell of a collection. -/
structure Told (calls : List Call) (name : String) : Prop where
  /-- A collection that no call created is missing. -/
  missing : ¬ Created calls name →
    (after {} calls).collection? name = .error (.collectionNotFound name)
  /-- The implicit index comes first, then the declared ones. -/
  indexes : Created calls name → (after {} calls).reads.listIndexes name =
    .ok ([idField] :: Index.distinct (declarations calls name))
  /-- The documents are those that inserts stored, in order. -/
  documents : Created calls name → ∃ held, (after {} calls).collection? name = .ok held ∧
    held.documents = (stored {} calls name).map Insertion.document

theorem told (calls : List Call) (name : String) : Told calls name := by
  have found := collection?_eq (after {} calls) name
  refine ⟨fun uncreated => ?_, fun created => ?_, fun created => ?_⟩
  · rw [found, if_neg fun there => uncreated (has_iff_created.mp there)]
  · rw [if_pos (has_iff_created.mpr created)] at found
    refine listIndexes_eq_ok_iff.mpr ⟨_, found, ?_⟩
    rw [Collection.allIndexes, indexes_held]
  · rw [if_pos (has_iff_created.mpr created)] at found
    exact ⟨_, found, documents_after {} calls name⟩

/-- A listed index is neither empty nor listed twice. -/
theorem proper_listIndexes {calls : List Call} {name : String} {declared : List Index}
    (listed : (after {} calls).reads.listIndexes name = .ok declared) :
    [idField] ∈ declared ∧ declared.Nodup ∧ [] ∉ declared := by
  have created : Created calls name := by
    obtain ⟨held, found, _⟩ := listIndexes_eq_ok_iff.mp listed
    by_contra uncreated
    rw [(told calls name).missing uncreated] at found
    cases found
  obtain rfl := Except.ok.inj (listed.symm.trans ((told calls name).indexes created))
  refine ⟨List.mem_cons_self, List.nodup_cons.mpr ⟨fun again => ?_, Index.nodup_distinct _⟩, ?_⟩
  · exact (Index.mem_distinct_iff.mp again).2.2 rfl
  · intro empty
    rcases List.mem_cons.mp empty with isId | isDeclared
    · cases isId
    · exact (Index.mem_distinct_iff.mp isDeclared).2.1 rfl

/-- **What a store holds is told by the calls that filled it.** After any calls on an empty store:

* a collection is there when a call created it, has the implicit index and the distinct ones of
  those that were declared for it, in order, and holds what the inserts into it stored, in order;
* no index is listed twice, and none is empty;
* a call to create a collection that was made before changes nothing;
* in a collection that was created no request is refused for filtering by `id` alone, nor for
  sorting by `id`, and one that does both is accepted;
* what an insert stored is what it was given, with an `id` added where it had none;
* an insert fails exactly when it is given no object or the collection was not created, and then all
  collections stay as they are;
* no call changes a collection other than its own;
* a store that a seed filled is such a store.
-/
theorem told_of_calls (calls : List Call) :
    (∀ name, Told calls name) ∧
    (∀ name declared, (after {} calls).reads.listIndexes name = .ok declared →
      declared.Nodup ∧ [] ∉ declared) ∧
    (∀ name indexes, Call.create name indexes ∈ calls →
      (after {} calls).createCollection name indexes = after {} calls) ∧
    (∀ name params injected, Created calls name →
      ListQuery.TakesId (after {} calls).reads name params injected) ∧
    (∀ insertion ∈ insertions {} calls, ∀ kept, insertion.answer = .ok kept →
      Json.Completed insertion.given kept) ∧
    (∀ name document,
      ((∃ failure, ((after {} calls).insert name document).2 = .error failure) ↔
        (∀ fields, document ≠ .object fields) ∨ ¬ Created calls name) ∧
      ∀ failure, ((after {} calls).insert name document).2 = .error failure →
        ((after {} calls).insert name document).1.collections = (after {} calls).collections) ∧
    (∀ (call : Call) (name : String), call.collection ≠ name →
      (call.apply (after {} calls)).collection? name = (after {} calls).collection? name) ∧
    ∀ seed filled, ofSeed? seed = .ok filled →
      filled.after calls = after {} (seed.calls ++ calls) := by
  refine ⟨told calls, fun name declared listed => (proper_listIndexes listed).2,
    fun name indexes made => create_again made, fun name params injected created => ?_,
    fun insertion member kept answered => completed_of_mem member answered,
    fun name document => ⟨?_, fun failure failed => collections_of_failed failed⟩,
    fun call name other => ?_, fun seed filled made => ?_⟩
  · have listed := (told calls name).indexes created
    exact ListQuery.takesId listed (proper_listIndexes listed).1 params injected
  · rw [insert_fails_iff, ← has_iff_created, Bool.not_eq_true]
  · have uncreated : call.creates name = false := by
      cases call with
      | create collection indexes => exact beq_eq_false_iff_ne.mpr other
      | insert collection document => rfl
    rw [collection?_eq, collection?_eq, has_apply, uncreated, Bool.or_false,
      held_apply_of_ne _ other]
  · rw [ofSeed?_eq_after made, ← after_append]

/-- Books with indexes declared twice over, an insert that succeeds and two that fail. -/
theorem told_of_calls_books :
    ∃ (calls : List Call) (held : Collection) (query : ListQuery),
      (after {} calls).reads.listIndexes "books" = .ok [["id"], ["title"], ["author", "year"]] ∧
      (after {} calls).collection? "books" = .ok held ∧
      held.documents =
        [.object [("author", .string "a1"), ("id", .string "000000000000000000000000"),
          ("title", .string "Dune")]] ∧
      (after {} calls).collection? "shelf" = .error (.collectionNotFound "shelf") ∧
      ListQuery.build (after {} calls).reads "books"
        (Params.ofPairs [("id", "1"), ("sort", "-id")]) Filter.everything = .ok query := by
  let calls : List Call :=
    [.create "books" [["title"], [], ["id"], ["title"]],
      .insert "books" (.object [("author", .string "a1"), ("title", .string "Dune")]),
      .insert "books" (.string "Solaris"), .insert "shelf" (.object []),
      .create "books" [["author", "year"], ["title"]]]
  have created : Created calls "books" := ⟨_, List.mem_cons_self⟩
  have uncreated : ¬ Created calls "shelf" := by
    rw [created_iff]
    decide
  have params : Params.ofPairs [("id", "1"), ("sort", "-id")] =
      [("id", .single "1"), ("sort", .single "-id")] := rfl
  have filters : Params.FiltersById [("id", .single "1"), ("sort", .single "-id")] := by
    unfold Params.FiltersById
    decide
  have asked : SortRequest.ofParams [("id", .single "1"), ("sort", .single "-id")] =
      .requested ["-id"] := by decide
  have sorts : Params.SortsById [("id", .single "1"), ("sort", .single "-id")] := by
    rintro _ ⟨tokens, requested, rfl⟩
    rw [asked] at requested
    cases requested
    exact ⟨.descending, by decide⟩
  obtain ⟨told, _, _, takes, _⟩ := told_of_calls calls
  obtain ⟨held, found, documents⟩ := (told "books").documents created
  obtain ⟨query, built⟩ := (takes "books" _ Filter.everything created).both filters sorts
  refine ⟨calls, held, query, ?_, found, documents, (told "shelf").missing uncreated, ?_⟩
  · exact (told "books").indexes created
  · rw [params]
    exact built

end MemoryStore

end IndexGuard
