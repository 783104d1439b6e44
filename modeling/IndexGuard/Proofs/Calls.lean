/-
**Stores and the calls that fill them.**

A store is filled by calls that create collections and insert documents. What such calls did can be
told from the calls and from the answers of the inserts among them:

* `Call`, `after`, `insertions`: the calls, the store after them, and their inserts with the
  answers;
* `insert_cases`: an insert stores an object in a collection that is there, or it fails and changes
  no collection (`collections_of_failed`, `insert_fails_iff`);
* `has_after`, `documents_after`: which collections there are afterwards, and that each holds what
  the inserts stored in it;
* `Completed`, `completed_of_mem`: what is stored is what was given, with an `id` added where it had
  none;
* `Seed.calls`, `ofSeed?_eq_after`: a store that a seed fills is filled by calls.
-/

import IndexGuard.Proofs.Reads

namespace IndexGuard

/-- A call that changes a store. -/
inductive Call where
  | create (collection : String) (indexes : List Index)
  | insert (collection : String) (document : Json)

/-- An insert and what it answered. -/
structure Insertion where
  collection : String
  given : Json
  answer : Except StoreError Json

namespace Call

/-- The collection that a call is about. -/
def collection : Call → String
  | create collection _ | insert collection _ => collection

/-- The store after a call. -/
def apply (store : MemoryStore) : Call → MemoryStore
  | create collection indexes => store.createCollection collection indexes
  | insert collection document => (store.insert collection document).1

/-- The insert that a call is, with its answer. -/
def insertion? (store : MemoryStore) : Call → Option Insertion
  | create _ _ => none
  | insert collection document =>
    some ⟨collection, document, (store.insert collection document).2⟩

/-- The call creates the collection, unless it is there. -/
def creates (name : String) : Call → Bool
  | create collection _ => collection == name
  | insert _ _ => false

/-- The call takes the next number for an `id`. -/
def draws : Call → Bool
  | insert _ (.object fields) => !Fields.has fields idField
  | _ => false

end Call

namespace Insertion

/-- A document was stored in the collection. -/
def storedIn (name : String) (insertion : Insertion) : Bool :=
  insertion.answer.isOk && insertion.collection == name

/-- The document that was stored; where none was, the one that was given. -/
def document (insertion : Insertion) : Json :=
  match insertion.answer with
  | .ok stored => stored
  | .error _ => insertion.given

end Insertion

/-- The stored value is the given object, with an `id` added where it had none. -/
inductive Json.Completed : Json → Json → Prop
  | whole {fields : Fields Json} : Fields.has fields idField = true →
      Completed (.object fields) (.object fields)
  | added {before behind : Fields Json} {text : String} :
      Fields.has (before ++ behind) idField = false →
      Completed (.object (before ++ behind)) (.object (before ++ (idField, .string text) :: behind))

/-! ### Tables -/

namespace Fields

variable {Value : Type}

theorem has_insert (fields : Fields Value) (name : String) (value : Value) (asked : String) :
    has (insert fields name value) asked = (has fields asked || name == asked) := by
  unfold has
  rw [get?_insert]
  by_cases same : name = asked <;> simp [same]

/-- **A new name is entered between the fields that were there.** -/
theorem insert_of_absent {fields : Fields Value} {name : String} (absent : has fields name = false)
    (value : Value) : ∃ before behind, fields = before ++ behind ∧
      insert fields name value = before ++ (name, value) :: behind := by
  induction fields with
  | nil => exact ⟨[], [], rfl, rfl⟩
  | cons field rest ih =>
    obtain ⟨other, kept⟩ := field
    unfold has at absent ih
    rw [get?_cons] at absent
    rw [insert]
    split
    · exact ⟨[], _, rfl, rfl⟩
    · split
      · rename_i same
        rw [if_pos same.symm] at absent
        cases absent
      · rename_i different
        rw [if_neg (Ne.symm different)] at absent
        obtain ⟨before, behind, rfl, entered⟩ := ih absent
        exact ⟨(other, kept) :: before, behind, rfl, by rw [entered, List.cons_append]⟩

end Fields

namespace MemoryStore

variable {store : MemoryStore} {name : String}

/-- The store after calls in turn. -/
def after (store : MemoryStore) (calls : List Call) : MemoryStore := calls.foldl Call.apply store

/-- The inserts among calls in turn, with their answers. -/
def insertions (store : MemoryStore) : List Call → List Insertion
  | [] => []
  | call :: rest => (call.insertion? store).toList ++ insertions (call.apply store) rest

/-- The inserts that stored a document in a collection. -/
def stored (store : MemoryStore) (calls : List Call) (name : String) : List Insertion :=
  (store.insertions calls).filter (Insertion.storedIn name)

/-- The collection under a name, empty when there is none. -/
def held (store : MemoryStore) (name : String) : Collection :=
  (Fields.get? store.collections name).getD {}

theorem after_cons (store : MemoryStore) (call : Call) (rest : List Call) :
    store.after (call :: rest) = (call.apply store).after rest := rfl

theorem after_append (store : MemoryStore) (first second : List Call) :
    store.after (first ++ second) = (store.after first).after second :=
  List.foldl_append

theorem collection?_eq (store : MemoryStore) (name : String) :
    store.collection? name =
      if Fields.has store.collections name = true then .ok (store.held name)
      else .error (.collectionNotFound name) := by
  unfold collection? Fields.has held
  cases Fields.get? store.collections name <;> rfl

/-! ### One insert -/

/-- **What an insert does.** It stores an object, completed by an `id`, behind the documents of a
collection that is there, or it fails and changes nothing but the next number. -/
theorem insert_cases (store : MemoryStore) (name : String) (document : Json) :
    (∃ fields, document = .object fields ∧ Fields.has store.collections name = true ∧
      store.insert name document =
        ({ collections := Fields.insert store.collections name
            { store.held name with
              documents := (store.held name).documents ++
                [.object (withId store.nextId fields).1] }
           nextId := (withId store.nextId fields).2 },
          .ok (.object (withId store.nextId fields).1))) ∨
    (((∀ fields, document ≠ .object fields) ∨ Fields.has store.collections name = false) ∧
      ∃ nextId failure,
        store.insert name document = ({ store with nextId := nextId }, .error failure)) := by
  unfold insert
  cases document with
  | object fields =>
    cases found : Fields.get? store.collections name with
    | none =>
      refine .inr ⟨.inr ?_, _, _, rfl⟩
      rw [Fields.has, found, Option.isSome_none]
    | some kept =>
      refine .inl ⟨fields, rfl, ?_, ?_⟩
      · rw [Fields.has, found, Option.isSome_some]
      · simp only [held, found, Option.getD_some]
  | _ => exact .inr ⟨.inl nofun, _, _, rfl⟩

/-- **An insert fails exactly when it is given no object or the collection is missing.** -/
theorem insert_fails_iff {document : Json} :
    (∃ failure, (store.insert name document).2 = .error failure) ↔
      (∀ fields, document ≠ .object fields) ∨ Fields.has store.collections name = false := by
  rcases store.insert_cases name document with ⟨fields, rfl, there, inserted⟩ |
      ⟨cause, nextId, failure, inserted⟩
  · rw [inserted]
    refine iff_of_false (by simp) ?_
    rintro (noObject | missing)
    · exact noObject fields rfl
    · rw [there] at missing
      cases missing
  · rw [inserted]
    exact iff_of_true ⟨failure, rfl⟩ cause

/-- **A failing insert changes no collection.** -/
theorem collections_of_failed {document : Json} {failure : StoreError}
    (failed : (store.insert name document).2 = .error failure) :
    (store.insert name document).1.collections = store.collections := by
  rcases store.insert_cases name document with ⟨fields, rfl, _, inserted⟩ |
      ⟨_, nextId, _, inserted⟩
  · rw [inserted] at failed
    cases failed
  · rw [inserted]

/-- A document with an `id` is kept as it is, and one without gets it entered between its fields. -/
theorem completed_withId (nextId : Nat) (fields : Fields Json) :
    Json.Completed (.object fields) (.object (withId nextId fields).1) := by
  unfold withId
  split
  · rename_i present
    exact .whole present
  · rename_i missing
    rw [Bool.not_eq_true] at missing
    obtain ⟨before, behind, rfl, entered⟩ :=
      Fields.insert_of_absent missing (.string (idText nextId))
    rw [entered]
    exact .added missing

/-- **What an insert stores is what it was given**, completed by an `id`. -/
theorem completed_of_inserted {document stored : Json}
    (inserted : (store.insert name document).2 = .ok stored) : Json.Completed document stored := by
  rcases store.insert_cases name document with ⟨fields, rfl, _, same⟩ | ⟨_, _, _, same⟩
  · rw [same] at inserted
    cases inserted
    exact completed_withId store.nextId fields
  · rw [same] at inserted
    cases inserted

/-! ### One call -/

/-- **A call creates the collection that it is to create, and removes none.** -/
theorem has_apply (store : MemoryStore) (call : Call) (name : String) :
    Fields.has (call.apply store).collections name =
      (Fields.has store.collections name || call.creates name) := by
  cases call with
  | create collection indexes => exact Fields.has_insert _ _ _ _
  | insert collection document =>
    show Fields.has (store.insert collection document).1.collections name = _
    rw [Call.creates, Bool.or_false]
    rcases store.insert_cases collection document with ⟨fields, _, there, inserted⟩ |
        ⟨_, nextId, failure, inserted⟩
    · rw [inserted, Fields.has_insert]
      by_cases same : collection = name
      · subst same
        rw [there, Bool.true_or]
      · rw [beq_eq_false_iff_ne.mpr same, Bool.or_false]
    · rw [inserted]

/-- **A call leaves every collection alone but its own.** -/
theorem held_apply_of_ne (store : MemoryStore) {call : Call} (other : call.collection ≠ name) :
    (call.apply store).held name = store.held name := by
  cases call with
  | create collection indexes =>
    have different : collection ≠ name := other
    show ((Fields.get? (Fields.insert store.collections collection _) name).getD {}) = _
    rw [Fields.get?_insert, if_neg different]
    rfl
  | insert collection document =>
    have different : collection ≠ name := other
    show (store.insert collection document).1.held name = _
    rcases store.insert_cases collection document with ⟨fields, _, _, inserted⟩ |
        ⟨_, nextId, failure, inserted⟩
    · rw [inserted, held, Fields.get?_insert, if_neg different]
      rfl
    · rw [inserted]
      rfl

/-- A collection that is created anew or again holds its old documents. -/
theorem held_createCollection (store : MemoryStore) (name : String) (indexes : List Index) :
    (store.createCollection name indexes).held name =
      indexes.foldl Collection.declare (store.held name) := by
  rw [held, createCollection, Fields.get?_insert, if_pos rfl, Option.getD_some, held]

theorem documents_foldl_declare (collection : Collection) (indexes : List Index) :
    (indexes.foldl Collection.declare collection).documents = collection.documents := by
  induction indexes generalizing collection with
  | nil => rfl
  | cons index rest ih =>
    rw [List.foldl_cons, ih, Collection.declare]
    split <;> rfl

/-- **A call adds to the documents of a collection what it stores there.** -/
theorem documents_apply (store : MemoryStore) (call : Call) (name : String) :
    ((call.apply store).held name).documents =
      (store.held name).documents ++
        (((call.insertion? store).toList).filter (Insertion.storedIn name)).map
          Insertion.document := by
  by_cases same : call.collection = name
  · cases call with
    | create collection indexes =>
      obtain rfl : collection = name := same
      show ((store.createCollection collection indexes).held collection).documents = _ ++ []
      rw [held_createCollection, documents_foldl_declare, List.append_nil]
    | insert collection document =>
      obtain rfl : collection = name := same
      show ((store.insert collection document).1.held collection).documents = _ ++
        ([(⟨collection, document, (store.insert collection document).2⟩ : Insertion)].filter
          (Insertion.storedIn collection)).map Insertion.document
      rcases store.insert_cases collection document with ⟨fields, _, _, inserted⟩ |
          ⟨_, nextId, failure, inserted⟩
      · rw [inserted, held, Fields.get?_insert, if_pos rfl]
        simp [Insertion.storedIn, Insertion.document, Except.isOk, Except.toBool]
      · rw [inserted]
        simp [Insertion.storedIn, Except.isOk, Except.toBool, held]
  · have elsewhere : ((call.insertion? store).toList).filter (Insertion.storedIn name) = [] := by
      cases call with
      | create collection indexes => rfl
      | insert collection document =>
        have different : collection ≠ name := same
        simp [Call.insertion?, Insertion.storedIn, different]
    rw [held_apply_of_ne store same, elsewhere, List.map_nil, List.append_nil]

theorem withId_snd (nextId : Nat) (fields : Fields Json) :
    (withId nextId fields).2 = nextId + if (!Fields.has fields idField) = true then 1 else 0 := by
  unfold withId
  cases Fields.has fields idField <;> rfl

/-- **A call takes one number or none.** -/
theorem nextId_apply (store : MemoryStore) (call : Call) :
    (call.apply store).nextId = store.nextId + if call.draws = true then 1 else 0 := by
  cases call with
  | create collection indexes => rfl
  | insert collection document =>
    show (store.insert collection document).1.nextId = _
    cases document with
    | object fields =>
      rw [Call.draws, ← withId_snd, insert]
      cases Fields.get? store.collections collection <;> rfl
    | _ => rfl

/-! ### Calls in turn -/

/-- **Which collections there are after calls.** -/
theorem has_after (store : MemoryStore) (calls : List Call) (name : String) :
    Fields.has (store.after calls).collections name =
      (Fields.has store.collections name || calls.any (Call.creates name)) := by
  induction calls generalizing store with
  | nil => rw [List.any_nil, Bool.or_false]; rfl
  | cons call rest ih => rw [after_cons, ih, has_apply, List.any_cons, Bool.or_assoc]

/-- **After calls a collection holds what they stored in it, in order.** -/
theorem documents_after (store : MemoryStore) (calls : List Call) (name : String) :
    ((store.after calls).held name).documents =
      (store.held name).documents ++ (store.stored calls name).map Insertion.document := by
  induction calls generalizing store with
  | nil => exact (List.append_nil _).symm
  | cons call rest ih =>
    rw [after_cons, ih, documents_apply, stored, stored, insertions, List.filter_append,
      List.map_append, List.append_assoc]

/-- **As many numbers are taken as documents without an `id` are given.** -/
theorem nextId_after (store : MemoryStore) (calls : List Call) :
    (store.after calls).nextId = store.nextId + calls.countP Call.draws := by
  induction calls generalizing store with
  | nil => rfl
  | cons call rest ih =>
    rw [after_cons, ih, nextId_apply, List.countP_cons, Nat.add_assoc, Nat.add_comm (ite _ _ _)]

/-- An insert among calls is one that the calls make. -/
theorem mem_insertions {store : MemoryStore} {calls : List Call} {insertion : Insertion}
    (member : insertion ∈ store.insertions calls) :
    ∃ before behind, calls = before ++ .insert insertion.collection insertion.given :: behind ∧
      ((store.after before).insert insertion.collection insertion.given).2 =
        insertion.answer := by
  induction calls generalizing store with
  | nil => cases member
  | cons call rest ih =>
    rw [insertions, List.mem_append, Option.mem_toList] at member
    rcases member with isFirst | isLater
    · cases call with
      | create collection indexes => cases isFirst
      | insert collection document =>
        cases isFirst
        exact ⟨[], rest, rfl, rfl⟩
    · obtain ⟨before, behind, rfl, answered⟩ := ih isLater
      exact ⟨call :: before, behind, rfl, answered⟩

/-- **What calls store is what they were given**, completed by an `id`. -/
theorem completed_of_mem {store : MemoryStore} {calls : List Call} {insertion : Insertion}
    {kept : Json} (member : insertion ∈ store.insertions calls)
    (answered : insertion.answer = .ok kept) : Json.Completed insertion.given kept := by
  obtain ⟨_, _, _, same⟩ := mem_insertions member
  exact completed_of_inserted (same.trans answered)

/-! ### Seeds -/

/-- The calls that fill a collection. -/
def SeedCollection.calls (name : String) (seed : SeedCollection) : List Call :=
  .create name seed.indexes :: seed.documents.map (.insert name)

/-- The calls that fill a store, collection by collection. -/
def Seed.calls (seed : Seed) : List Call :=
  seed.collections.flatMap fun entry => entry.2.calls entry.1

theorem after_of_insertAll? {documents : List Json} {filled : MemoryStore}
    (inserted : store.insertAll? name documents = .ok filled) :
    filled = store.after (documents.map (.insert name)) := by
  induction documents generalizing store with
  | nil =>
    cases inserted
    rfl
  | cons document rest ih =>
    rw [insertAll?] at inserted
    split at inserted
    · cases inserted
    · rename_i next stored same
      have step : (Call.insert name document).apply store = next := congrArg Prod.fst same
      rw [List.map_cons, after_cons, step]
      exact ih inserted

/-- **A store that a seed fills is filled by calls.** -/
theorem ofSeed?_eq_after {seed : Seed} {filled : MemoryStore} (made : ofSeed? seed = .ok filled) :
    filled = after {} seed.calls := by
  have fills : ∀ (entries : Fields SeedCollection) (store : MemoryStore),
      store.fill? entries = .ok filled →
      filled = store.after (entries.flatMap fun entry => entry.2.calls entry.1) := by
    intro entries
    induction entries with
    | nil =>
      intro store made
      cases made
      rfl
    | cons entry rest ih =>
      intro store made
      obtain ⟨name, seed⟩ := entry
      rw [fill?] at made
      cases inserted :
          (store.createCollection name seed.indexes).insertAll? name seed.documents with
      | error failure =>
        rw [inserted] at made
        cases made
      | ok next =>
        rw [inserted] at made
        rw [List.flatMap_cons, after_append, SeedCollection.calls, after_cons]
        have created : (Call.create name seed.indexes).apply store =
            store.createCollection name seed.indexes := rfl
        rw [created, ← after_of_insertAll? inserted]
        exact ih next made
  exact fills seed.collections {} made

end MemoryStore

end IndexGuard
