/-
**Seeding a store is all or nothing, and faithful.**

* `insertAll?_eq_error_iff`, `fill?_eq_error_iff`: filling collections fails exactly when some
  document is no object;
* `insert_object`, `held_inserts`: one insert, and so a run of inserts into a collection, keeps the
  given documents in order, each with the next number for an `id` when it has none (`numberAll`);
* `held_after_of_idle`, `held_seeded`: calls for other collections leave a collection alone, so that
  after all calls of a seed it holds what the seed says of it;
* `Config.held_withCollections`: the collections of the resources, created then, disturb none;
* `Seeded`, `seeding_faithful`: so a store that is opened for a configuration holds its seed.
-/

import IndexGuard.Proofs.Ledger
import IndexGuard.Proofs.Numbers

namespace IndexGuard

/-- An object without a field for the primary key. -/
def Json.lacksId : Json → Bool
  | object fields => !Fields.has fields idField
  | _ => false

theorem Call.draws_insert (name : String) (document : Json) :
    (Call.insert name document).draws = document.lacksId := by
  cases document <;> rfl

/-- A table that pairs are entered in is sorted. -/
theorem Fields.sorted_ofPairs {Value : Type} (pairs : List (String × Value)) :
    Sorted (ofPairs pairs) := by
  induction pairs using List.reverseRecOn with
  | nil => exact sorted_nil
  | append_singleton before pair ih =>
    rw [ofPairs, List.foldl_append]
    exact ih.insert pair.1 pair.2

/-- **A new collection has the distinct ones of its declared indexes.** -/
theorem Collection.foldl_declare_new (declared : List Index) :
    declared.foldl declare {} = ⟨Index.distinct declared, []⟩ := by
  have initially : ({} : Collection).indexes = Index.distinct [] := rfl
  have indexes := indexes_foldl_declare initially declared
  have documents : (declared.foldl declare {}).documents = [] :=
    MemoryStore.documents_foldl_declare {} declared
  rw [List.nil_append] at indexes
  generalize declared.foldl declare {} = made at indexes documents ⊢
  obtain ⟨listed, kept⟩ := made
  rw [show listed = _ from indexes, show kept = [] from documents]

namespace MemoryStore

variable {store : MemoryStore} {name : String} {documents : List Json}

/-! ### One insert -/

/-- What is stored of a document when the next number for an `id` is given. -/
def numbered (next : Nat) : Json → Json
  | .object fields => .object (withId next fields).1
  | other => other

/-- **An object goes behind the documents of a collection that is there.** -/
theorem insert_object (there : Fields.has store.collections name = true) (fields : Fields Json) :
    store.insert name (.object fields) =
      ({ collections := Fields.insert store.collections name
          { store.held name with
            documents := (store.held name).documents ++ [numbered store.nextId (.object fields)] }
         nextId := (withId store.nextId fields).2 },
        .ok (numbered store.nextId (.object fields))) := by
  rcases store.insert_cases name (.object fields) with ⟨_, same, _, inserted⟩ |
      ⟨noObject | missing, _⟩
  · cases same
    exact inserted
  · exact absurd rfl (noObject fields)
  · rw [there] at missing
    cases missing

theorem has_insert_self (there : Fields.has store.collections name = true) (document : Json) :
    Fields.has (store.insert name document).1.collections name = true := by
  have kept := has_apply store (.insert name document) name
  rw [there, Bool.true_or] at kept
  exact kept

theorem has_createCollection_self (store : MemoryStore) (name : String) (indexes : List Index) :
    Fields.has (store.createCollection name indexes).collections name = true := by
  rw [createCollection, Fields.has_insert, beq_self_eq_true, Bool.or_true]

/-! ### When a seed is refused -/

/-- **Inserts into a collection that is there fail at a document that is no object**, and only
there. -/
theorem insertAll?_eq_error_iff (there : Fields.has store.collections name = true)
    {failure : StoreError} : store.insertAll? name documents = .error failure ↔
      failure = .invalidDocument "documents must be JSON objects" ∧
        ∃ document ∈ documents, ∀ fields, document ≠ .object fields := by
  induction documents generalizing store with
  | nil => simp [insertAll?]
  | cons document rest ih =>
    rw [List.exists_mem_cons_iff]
    cases document with
    | object fields =>
      have isObject : ¬ ∀ others, Json.object fields ≠ .object others := fun none => none fields rfl
      have stays := has_insert_self there (.object fields)
      rw [or_iff_right isObject, ← ih stays, insertAll?, insert_object there]
    | _ =>
      rw [insertAll?]
      simp only [insert, Except.error.injEq, reduceCtorEq, ne_eq, not_false_eq_true, implies_true,
        true_or, and_true]
      exact eq_comm

/-- **Filling collections fails at a document that is no object**, and only there. -/
theorem fill?_eq_error_iff {entries : Fields SeedCollection} {failure : StoreError} :
    store.fill? entries = .error failure ↔
      failure = .invalidDocument "documents must be JSON objects" ∧
        ∃ entry ∈ entries, ∃ document ∈ entry.2.documents, ∀ fields, document ≠ .object fields := by
  induction entries generalizing store with
  | nil => simp [fill?]
  | cons entry rest ih =>
    obtain ⟨name, seed⟩ := entry
    have there := has_createCollection_self store name seed.indexes
    rw [List.exists_mem_cons_iff, fill?]
    cases inserted :
        (store.createCollection name seed.indexes).insertAll? name seed.documents with
    | error first =>
      obtain ⟨rfl, offends⟩ := (insertAll?_eq_error_iff there).mp inserted
      show Except.error _ = Except.error failure ↔ _
      rw [Except.error.injEq, and_iff_left (.inl offends)]
      exact eq_comm
    | ok next =>
      have clean : ¬ ∃ document ∈ seed.documents, ∀ fields, document ≠ .object fields := by
        intro offends
        rw [(insertAll?_eq_error_iff there).mpr ⟨rfl, offends⟩] at inserted
        cases inserted
      rw [or_iff_right clean]
      exact ih

/-! ### Documents with numbers -/

/-- What is stored of documents in turn. -/
def numberAll (next : Nat) : List Json → List Json
  | [] => []
  | document :: rest =>
    numbered next document :: numberAll (if document.lacksId then next + 1 else next) rest

theorem length_numberAll (next : Nat) (documents : List Json) :
    (numberAll next documents).length = documents.length := by
  induction documents generalizing next with
  | nil => rfl
  | cons document rest ih => rw [numberAll, List.length_cons, List.length_cons, ih]

/-- **Documents without an `id` are numbered in turn.** -/
theorem numberAll_append (next : Nat) (before behind : List Json) :
    numberAll next (before ++ behind) =
      numberAll next before ++ numberAll (next + before.countP Json.lacksId) behind := by
  induction before generalizing next with
  | nil => rfl
  | cons document rest ih =>
    rw [List.cons_append, numberAll, ih, numberAll, List.cons_append, List.countP_cons]
    congr 3
    split <;> omega

/-- What is stored of the document at a place. -/
theorem getElem?_numberAll (next : Nat) (before : List Json) (document : Json)
    (behind : List Json) :
    (numberAll next (before ++ document :: behind))[before.length]? =
      some (numbered (next + before.countP Json.lacksId) document) := by
  rw [numberAll_append, List.getElem?_append_right (Nat.le_of_eq (length_numberAll next before)),
    length_numberAll, Nat.sub_self, numberAll]
  rfl

theorem numbered_of_not_lacksId {document : Json} (complete : document.lacksId = false)
    (next : Nat) : numbered next document = document := by
  cases document with
  | object fields =>
    have present : Fields.has fields idField = true := by simpa [Json.lacksId] using complete
    rw [numbered, withId, if_pos present]
  | _ => rfl

theorem numbered_of_lacksId {fields : Fields Json} (lacks : (Json.object fields).lacksId = true)
    (next : Nat) : numbered next (.object fields) =
      .object (Fields.insert fields idField (.string (idText next))) := by
  have missing : Fields.has fields idField = false := by simpa [Json.lacksId] using lacks
  rw [numbered, withId, missing, if_neg Bool.false_ne_true]

/-! ### Runs of inserts -/

theorem held_insert (there : Fields.has store.collections name = true) (fields : Fields Json) :
    (store.insert name (.object fields)).1.held name =
      { store.held name with
        documents := (store.held name).documents ++ [numbered store.nextId (.object fields)] } := by
  rw [insert_object there, held, Fields.get?_insert, if_pos rfl]
  rfl

/-- **Inserts of objects go behind the documents that are there**, in order and with numbers. -/
theorem held_inserts (there : Fields.has store.collections name = true)
    (objects : ∀ document ∈ documents, ∃ fields, document = .object fields) :
    (store.after (documents.map (.insert name))).held name =
      { store.held name with
        documents := (store.held name).documents ++ numberAll store.nextId documents } := by
  induction documents generalizing store with
  | nil =>
    rw [numberAll, List.append_nil]
    rfl
  | cons document rest ih =>
    obtain ⟨fields, rfl⟩ := objects document List.mem_cons_self
    have step : (Call.insert name (.object fields)).apply store =
        (store.insert name (.object fields)).1 := rfl
    have stays := has_insert_self there (.object fields)
    have next : (store.insert name (.object fields)).1.nextId =
        if (Json.object fields).lacksId = true then store.nextId + 1 else store.nextId := by
      rw [← step, nextId_apply, Call.draws_insert]
      split <;> rfl
    rw [List.map_cons, after_cons, step,
      ih stays fun other member => objects other (List.mem_cons_of_mem _ member),
      held_insert there, next, numberAll, List.append_assoc, List.singleton_append]

/-! ### Calls that leave a collection alone -/

/-- **A collection is left alone by calls each of which leaves it alone.** -/
theorem held_after_of_idle {calls : List Call}
    (idle : ∀ call ∈ calls, ∀ store : MemoryStore, (call.apply store).held name = store.held name) :
    (store.after calls).held name = store.held name := by
  induction calls generalizing store with
  | nil => rfl
  | cons call rest ih =>
    rw [after_cons, ih fun other member => idle other (List.mem_cons_of_mem _ member)]
    exact idle call List.mem_cons_self store

/-- Creating a collection without indexes leaves every collection alone. -/
theorem held_create_nil (collection : String) (store : MemoryStore) :
    ((Call.create collection []).apply store).held name = store.held name := by
  by_cases same : collection = name
  · subst same
    exact held_createCollection store collection []
  · exact held_apply_of_ne store same

/-! ### The calls of a seed -/

namespace Seed

theorem calls_append (earlier later : Fields SeedCollection) :
    calls ⟨earlier ++ later⟩ = calls ⟨earlier⟩ ++ calls ⟨later⟩ :=
  List.flatMap_append

theorem collection_of_mem_calls {entries : Fields SeedCollection} {call : Call}
    (member : call ∈ calls ⟨entries⟩) : call.collection ∈ Fields.names entries := by
  obtain ⟨entry, isEntry, isCall⟩ := List.mem_flatMap.mp member
  have named : call.collection = entry.1 := by
    rcases List.mem_cons.mp isCall with rfl | isInsert
    · rfl
    · obtain ⟨document, _, rfl⟩ := List.mem_map.mp isInsert
      rfl
  rw [named]
  exact List.mem_map_of_mem isEntry

/-- **The calls of a seed create its collections.** -/
theorem created_calls_iff {seed : Seed} :
    Created seed.calls name ↔ name ∈ Fields.names seed.collections := by
  constructor
  · rintro ⟨indexes, member⟩
    exact collection_of_mem_calls member
  · intro member
    obtain ⟨⟨_, content⟩, isEntry, rfl⟩ := List.mem_map.mp member
    exact ⟨content.indexes, List.mem_flatMap.mpr ⟨_, isEntry, List.mem_cons_self⟩⟩

/-- **The calls of a seed take a number for every document without an `id`.** -/
theorem countP_draws_calls (entries : Fields SeedCollection) :
    (calls ⟨entries⟩).countP Call.draws =
      (entries.flatMap fun entry => entry.2.documents).countP Json.lacksId := by
  induction entries with
  | nil => rfl
  | cons entry rest ih =>
    have draws : (fun document => (Call.insert entry.1 document).draws) = Json.lacksId :=
      funext fun document => Call.draws_insert entry.1 document
    have first : (entry.2.calls entry.1).countP Call.draws =
        entry.2.documents.countP Json.lacksId := by
      rw [SeedCollection.calls, List.countP_cons_of_neg Bool.false_ne_true, List.countP_map,
        ← draws]
      rfl
    rw [calls, List.flatMap_cons, List.countP_append, first, List.flatMap_cons, List.countP_append,
      ← ih]
    rfl

/-- A seed that a JSON text says has its collections in the order of their names. -/
theorem sorted_of_source {source : Json.Source} {seed : Seed}
    (read : ofSource? source = some seed) : Fields.Sorted seed.collections := by
  obtain ⟨given, _, made⟩ := Option.bind_eq_some_iff.mp read
  split at made
  · rename_i collections
    obtain ⟨table, isTable, made⟩ := Option.bind_eq_some_iff.mp made
    cases made
    rcases Json.Source.withDefault?_cases isTable with rfl | ⟨part, rfl, isEntries⟩
    · exact Fields.sorted_nil
    · cases part with
      | object fields =>
        obtain ⟨pairs, _, rfl⟩ := Option.map_eq_some_iff.mp isEntries
        exact Fields.sorted_ofPairs pairs
      | _ => cases isEntries
  · cases made

end Seed

/-- A name of a sorted table stands neither before nor behind itself. -/
theorem not_mem_names_of_split {earlier later : Fields SeedCollection} {content : SeedCollection}
    (sorted : Fields.Sorted (earlier ++ (name, content) :: later)) :
    name ∉ Fields.names earlier ∧ name ∉ Fields.names later := by
  have distinct : (Fields.names (earlier ++ (name, content) :: later)).Nodup :=
    sorted.names.imp fun less => ne_of_lt less
  rw [Fields.names, List.map_append, List.map_cons, List.nodup_append, List.nodup_cons] at distinct
  obtain ⟨_, ⟨notLater, _⟩, apart⟩ := distinct
  exact ⟨fun isEarlier => apart _ isEarlier _ List.mem_cons_self rfl, notLater⟩

/-- Calls for other collections leave a collection alone. -/
theorem held_after_other {entries : Fields SeedCollection} (other : name ∉ Fields.names entries) :
    (store.after (Seed.calls ⟨entries⟩)).held name = store.held name := by
  refine held_after_of_idle fun call member store => held_apply_of_ne store ?_
  rintro rfl
  exact other (Seed.collection_of_mem_calls member)

/-- **After the calls of a seed a collection holds what the seed says of it.** -/
theorem held_seeded {earlier later : Fields SeedCollection} {content : SeedCollection}
    (sorted : Fields.Sorted (earlier ++ (name, content) :: later))
    (objects : ∀ document ∈ content.documents, ∃ fields, document = .object fields) :
    (after {} (Seed.calls ⟨earlier ++ (name, content) :: later⟩)).held name =
      ⟨Index.distinct content.indexes,
        numberAll ((earlier.flatMap fun entry => entry.2.documents).countP Json.lacksId)
          content.documents⟩ := by
  obtain ⟨notEarlier, notLater⟩ := not_mem_names_of_split sorted
  have fills : Seed.calls ⟨(name, content) :: later⟩ =
      (.create name content.indexes :: content.documents.map (.insert name)) ++
        Seed.calls ⟨later⟩ := List.flatMap_cons
  let before : MemoryStore := after {} (Seed.calls ⟨earlier⟩)
  have new : before.held name = {} := held_after_other notEarlier
  have next : before.nextId =
      (earlier.flatMap fun entry => entry.2.documents).countP Json.lacksId := by
    rw [nextId_after, Seed.countP_draws_calls]
    exact Nat.zero_add _
  have there := has_createCollection_self before name content.indexes
  have created : (before.createCollection name content.indexes).held name =
      ⟨Index.distinct content.indexes, []⟩ := by
    rw [held_createCollection, new, Collection.foldl_declare_new]
  rw [Seed.calls_append, fills, after_append, after_append, held_after_other notLater, after_cons]
  show ((before.createCollection name content.indexes).after _).held name = _
  rw [held_inserts there objects, created, ← next]
  rfl

end MemoryStore

/-! ### Stores that are opened -/

namespace Config

variable {config : Config} {store : MemoryStore} {name : String}

theorem withCollections_eq_after (config : Config) (store : MemoryStore) :
    config.withCollections store =
      store.after (config.resources.map fun resource => .create resource.collection []) := by
  rw [MemoryStore.after, List.foldl_map]
  rfl

/-- The collections of resources are created, and no others. -/
theorem has_withCollections : Fields.has (config.withCollections store).collections name = true ↔
    Fields.has store.collections name = true ∨
      ∃ resource ∈ config.resources, resource.collection = name := by
  rw [withCollections_eq_after, MemoryStore.has_after, Bool.or_eq_true, List.any_map]
  simp [Call.creates]

/-- **Creating the collections of resources disturbs none that is there.** -/
theorem held_withCollections : (config.withCollections store).held name = store.held name := by
  rw [withCollections_eq_after]
  refine MemoryStore.held_after_of_idle fun call member store => ?_
  obtain ⟨resource, _, rfl⟩ := List.mem_map.mp member
  exact MemoryStore.held_create_nil resource.collection store

/-- A store opened for a seed file is filled by the seed that its text says. -/
theorem openStore_of_seed {read : String → Except ReadFailure String} {path text : String}
    {seed : MemoryStore.Seed} (configured : config.seed = some path) (isText : read path = .ok text)
    (decoded : (Json.Source.read? text).bind MemoryStore.Seed.ofSource? = some seed) :
    openStore (m := Id) read config =
      (MemoryStore.ofSeed? seed).map config.withCollections := by
  unfold openStore
  rw [configured]
  show (seedStore path (read path)).map config.withCollections = _
  rw [isText, seedStore, decoded]

end Config

namespace MemoryStore

/-- Documents are stored as they are given, in order; one without an `id` gets it with a number,
from `next` on. -/
structure StoredFrom (next : Nat) (given stored : List Json) : Prop where
  length : stored.length = given.length
  whole : ∀ before document behind, given = before ++ document :: behind →
    document.lacksId = false → stored[before.length]? = some document
  completed : ∀ before fields behind, given = before ++ .object fields :: behind →
    (Json.object fields).lacksId = true →
      stored[before.length]? = some (.object (Fields.insert fields idField
        (.string (idText (next + before.countP Json.lacksId)))))

theorem storedFrom_numberAll (next : Nat) (given : List Json) :
    StoredFrom next given (numberAll next given) := by
  constructor
  · exact length_numberAll next given
  · rintro before document behind rfl complete
    rw [getElem?_numberAll, numbered_of_not_lacksId complete]
  · rintro before fields behind rfl lacks
    rw [getElem?_numberAll, numbered_of_lacksId lacks]

/-- What a store holds that is filled by a seed and then has the collections of the resources. -/
structure Seeded (config : Config) (seed : Seed) (store : MemoryStore) : Prop where
  /-- The names of the collections are those of the seed and of the resources. -/
  names : ∀ name, name ∈ store.collectionNames ↔ name ∈ Fields.names seed.collections ∨
    ∃ resource ∈ config.resources, resource.collection = name
  ascending : store.collectionNames.Pairwise (· < ·)
  /-- A seeded collection has its documents, numbered after those of the collections before it, and
  its indexes. -/
  seeded : ∀ earlier name content later, seed.collections = earlier ++ (name, content) :: later →
    (∃ held, store.collection? name = .ok held ∧
      StoredFrom ((earlier.flatMap fun entry => entry.2.documents).countP Json.lacksId)
        content.documents held.documents) ∧
    store.reads.listIndexes name = .ok ([idField] :: Index.distinct content.indexes)
  /-- A collection that only resources name is empty. -/
  unseeded : ∀ resource ∈ config.resources,
    resource.collection ∉ Fields.names seed.collections →
    store.collection? resource.collection = .ok ⟨[], []⟩ ∧
      store.reads.listIndexes resource.collection = .ok [[idField]]

/-- **A store that is filled holds what its seed says.** -/
theorem seeded_withCollections (config : Config) {seed : Seed} {filled : MemoryStore}
    (sorted : Fields.Sorted seed.collections) (made : ofSeed? seed = .ok filled) :
    Seeded config seed (config.withCollections filled) := by
  have isFilled := ofSeed?_eq_after made
  have objects : ∀ entry ∈ seed.collections, ∀ document ∈ entry.2.documents,
      ∃ fields, document = .object fields := by
    by_contra offends
    push Not at offends
    rw [ofSeed?, fill?_eq_error_iff.mpr ⟨rfl, offends⟩] at made
    cases made
  have there : ∀ name, Fields.has (config.withCollections filled).collections name = true ↔
      name ∈ Fields.names seed.collections ∨
        ∃ resource ∈ config.resources, resource.collection = name := by
    intro name
    rw [Config.has_withCollections, isFilled, has_iff_created, Seed.created_calls_iff]
  have found : ∀ name, Fields.has (config.withCollections filled).collections name = true →
      (config.withCollections filled).collection? name = .ok (filled.held name) := by
    intro name has
    rw [collection?_eq, if_pos has, Config.held_withCollections]
  constructor
  case names =>
    intro name
    rw [← there, collectionNames, Fields.mem_names_iff, Fields.has, Option.isSome_iff_ne_none]
  case ascending =>
    rw [Config.withCollections_eq_after, isFilled]
    exact (sorted_after (sorted_after Fields.sorted_nil _) _).names
  case seeded =>
    intro earlier name content later split
    have isEntry : (name, content) ∈ seed.collections := by
      rw [split]
      exact List.mem_append_right _ List.mem_cons_self
    have isHeld := held_seeded (split ▸ sorted) (objects _ isEntry)
    have isSeed : seed = ⟨earlier ++ (name, content) :: later⟩ := congrArg Seed.mk split
    rw [← isSeed, ← isFilled] at isHeld
    have isFound := found name ((there name).mpr (.inl (List.mem_map_of_mem isEntry)))
    rw [isHeld] at isFound
    exact ⟨⟨_, isFound, storedFrom_numberAll _ _⟩, listIndexes_eq_ok_iff.mpr ⟨_, isFound, rfl⟩⟩
  case unseeded =>
    intro resource configured notSeeded
    have isHeld : filled.held resource.collection = {} := by
      rw [isFilled]
      exact held_after_other notSeeded
    have isFound := found resource.collection ((there _).mpr (.inr ⟨resource, configured, rfl⟩))
    rw [isHeld] at isFound
    exact ⟨isFound, listIndexes_eq_ok_iff.mpr ⟨_, isFound, rfl⟩⟩

/-- **Seeding is all or nothing, and faithful.** For every seed and every configuration:

* filling a store with the seed fails exactly when some document is no object;
* otherwise, once the collections of the resources are created too, the collections are those of the
  seed and of the resources; a seeded one holds its documents in order, each as it was given or with
  an `id` of the next number, counted from 0 over the collections in the order of their names, and
  lists the implicit index and its distinct other ones; one that only resources name is empty;
* a store is opened in this way for a configuration with a seed file, and the seed of a file has its
  collections in the order of their names.
-/
theorem seeding_faithful (config : Config) (seed : Seed) :
    (∀ failure, ofSeed? seed = .error failure ↔
      failure = .invalidDocument "documents must be JSON objects" ∧
        ∃ entry ∈ seed.collections, ∃ document ∈ entry.2.documents,
          ∀ fields, document ≠ .object fields) ∧
    (Fields.Sorted seed.collections → ∀ filled, ofSeed? seed = .ok filled →
      Seeded config seed (config.withCollections filled)) ∧
    ∀ (read : String → Except ReadFailure String) (path text : String),
      config.seed = some path → read path = .ok text →
      (Json.Source.read? text).bind Seed.ofSource? = some seed →
        Fields.Sorted seed.collections ∧
          Config.openStore (m := Id) read config =
            (ofSeed? seed).map config.withCollections := by
  refine ⟨fun failure => fill?_eq_error_iff,
    fun sorted filled made => seeded_withCollections config sorted made,
    fun read path text configured isText decoded => ⟨?_, ?_⟩⟩
  · obtain ⟨source, _, isSeed⟩ := Option.bind_eq_some_iff.mp decoded
    exact Seed.sorted_of_source isSeed
  · exact Config.openStore_of_seed configured isText decoded

/-- An author and two books, one with an `id` of its own, and a shelf that only a resource names;
and books among which one is a text. -/
theorem seeding_faithful_books :
    ∃ (config : Config) (seed : Seed) (store : MemoryStore) (held : Collection),
      (ofSeed? seed).map config.withCollections = .ok store ∧
      store.collectionNames = ["authors", "books", "shelves"] ∧
      store.collection? "books" = .ok held ∧
      held.documents[0]? = some (.object [("id", .string "b1")]) ∧
      held.documents[1]? = some (.object
        [("id", .string "000000000000000000000001"), ("title", .string "Solaris")]) ∧
      store.reads.listIndexes "books" = .ok [["id"], ["title"]] ∧
      store.reads.listIndexes "shelves" = .ok [["id"]] ∧
      ofSeed? ⟨[("books", ⟨[], [.object [], .string "Dune"]⟩)]⟩ =
        .error (.invalidDocument "documents must be JSON objects") := by
  let config : Config := { resources := [⟨"book", "books", none⟩, ⟨"shelf", "shelves", none⟩] }
  let author : Json := .object [("name", .string "Lem")]
  let given : Json := .object [("id", .string "b1")]
  let books : SeedCollection :=
    ⟨[["title"], [], ["id"], ["title"]], [given, .object [("title", .string "Solaris")]]⟩
  let seed : Seed := ⟨[("authors", ⟨[], [author]⟩), ("books", books)]⟩
  have sorted : Fields.Sorted seed.collections := by
    unfold Fields.Sorted
    decide
  have made : ∃ filled, ofSeed? seed = .ok filled := ⟨_, rfl⟩
  obtain ⟨filled, made⟩ := made
  have second : idText 1 = "000000000000000000000001" := by decide
  obtain ⟨_, faithful, _⟩ := seeding_faithful config seed
  have seeded := faithful sorted filled made
  obtain ⟨⟨held, found, stored⟩, listed⟩ := seeded.seeded [("authors", ⟨[], [author]⟩)] "books"
    books [] rfl
  have first := stored.whole [] given _ rfl (by decide)
  have next := stored.completed [given] [("title", .string "Solaris")] [] rfl (by decide)
  have shelf := seeded.unseeded ⟨"shelf", "shelves", none⟩ (by decide) (by decide)
  obtain ⟨refused, _⟩ :=
    seeding_faithful config ⟨[("books", ⟨[], [.object [], .string "Dune"]⟩)]⟩
  refine ⟨config, seed, config.withCollections filled, held, by rw [made]; rfl, ?_, found, first,
    ?_, listed, shelf.2, (refused _).mpr ⟨rfl, _, List.mem_cons_self, .string "Dune", ?_, nofun⟩⟩
  · cases made
    decide
  · rw [← second]
    exact next
  · exact List.mem_cons_of_mem _ List.mem_cons_self

end MemoryStore

end IndexGuard
