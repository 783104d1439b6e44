/-
**The numbers of documents.**

Among the encodings of binary64 are some that are no number. JSON text writes none of them, so that
no document of a store that is filled from JSON text holds one:

* `Json.Numeral.isNaN_of_value?`: the parts of a JSON number stand for a number, whatever they are;
* `Json.Source.Numeric`, `numeric_of_read?`: so does every number in a text, at any depth;
* `Json.ComparableFields`, `Source.comparableFields_of_toJson?`: so do the fields of what a text
  says;
* `MemoryStore.comparable_after`: a store keeps what it is given;
* `MemoryStore.Filled`, `Filled.comparable`: so stores that are filled from JSON text hold no other
  documents.
-/

import IndexGuard.Config
import IndexGuard.Proofs.Calls
import IndexGuard.Proofs.Comparison

namespace IndexGuard

/-- Every result of readings in turn is that of one of them. -/
theorem Option.exists_of_mapM {Item Result : Type} {read : Item → Option Result}
    {items : List Item} {results : List Result} (readAll : items.mapM read = some results)
    {result : Result} (member : result ∈ results) : ∃ item ∈ items, read item = some result := by
  induction items generalizing results with
  | nil =>
    cases readAll
    cases member
  | cons item rest ih =>
    rw [List.mapM_cons] at readAll
    obtain ⟨first, isFirst, readRest⟩ := Option.bind_eq_some_iff.mp readAll
    obtain ⟨others, isRest, made⟩ := Option.bind_eq_some_iff.mp readRest
    cases made
    rcases List.mem_cons.mp member with rfl | isLater
    · exact ⟨item, List.mem_cons_self, isFirst⟩
    · obtain ⟨found, isItem, isResult⟩ := ih isRest isLater
      exact ⟨found, List.mem_cons_of_mem _ isItem, isResult⟩

namespace Json

/-! ### Numbers in a text -/

namespace Significand

/-- Scaling a magnitude down does not lead beyond infinity. -/
theorem scaleDown_le (magnitude exponent : Nat) :
    scaleDown magnitude exponent ≤ Binary64.infinityMagnitude := by
  fun_induction scaleDown magnitude exponent with
  | case1 magnitude exponent small => exact Binary64.nearestMagnitude_le _ _
  | case2 exponent large => exact Nat.zero_le _
  | case3 magnitude exponent large nonzero ih => exact ih

/-- **A scaled significand is no magnitude beyond infinity.** -/
theorem le_of_magnitude? {significand : Significand} {magnitude : Nat}
    (scaled : significand.magnitude? = some magnitude) :
    magnitude ≤ Binary64.infinityMagnitude := by
  unfold magnitude? at scaled
  dsimp only at scaled
  split at scaled
  · split at scaled
    · cases scaled
      exact Nat.zero_le _
    · split at scaled
      · cases scaled
      · split at scaled
        · rename_i inRange
          cases scaled
          exact Nat.le_of_lt inRange
        · cases scaled
  · cases scaled
    exact scaleDown_le _ _

end Significand

/-- **The parts of a JSON number stand for a number.** -/
theorem Numeral.isNaN_of_value? {numeral : Numeral} {value : Number}
    (read : numeral.value? = some value) : value.toBinary64.isNaN = false := by
  unfold value? at read
  extract_lets magnitude isInteger at read
  split at read
  · cases read
    exact Binary64.isNaN_ofInt _
  · obtain ⟨number, scaled, rfl⟩ := Option.map_eq_some_iff.mp read
    obtain ⟨magnitude, isMagnitude, bounded⟩ := Option.bind_eq_some_iff.mp scaled
    split at bounded
    · cases bounded
      exact decide_eq_false (Nat.not_lt.mpr (Significand.le_of_magnitude? isMagnitude))
    · cases bounded

namespace Source

/-- Every number in the text is one, at any depth. -/
inductive Numeric : Source → Prop
  | null : Numeric null
  | bool {value : Bool} : Numeric (bool value)
  | number {value : Number} : value.toBinary64.isNaN = false → Numeric (number value)
  | string {text : String} : Numeric (string text)
  | array {items : List Source} : (∀ item ∈ items, Numeric item) → Numeric (array items)
  | object {fields : List (Option String × Source)} : (∀ field ∈ fields, Numeric field.2) →
      Numeric (object fields)
  | unreadable : Numeric unreadable

theorem Numeric.nested {source : Source} (numeric : source.Numeric) (depth : Nat) :
    (nested depth source).Numeric := by
  unfold Source.nested
  split
  · exact .unreadable
  · exact numeric

/-- What is read with some fuel holds numbers, when what was read before it does. -/
structure NumericWithin (fuel : Nat) : Prop where
  value {depth : Nat} {chars rest : List Char} {source : Source} :
    value? fuel depth chars = some (source, rest) → source.Numeric
  items {depth : Nat} {reversed : List Source} {chars rest : List Char} {source : Source} :
    (∀ item ∈ reversed, item.Numeric) →
      items? fuel depth reversed chars = some (source, rest) → source.Numeric
  fields {depth : Nat} {reversed : List (Option String × Source)} {chars rest : List Char}
    {source : Source} : (∀ field ∈ reversed, field.2.Numeric) →
      fields? fuel depth reversed chars = some (source, rest) → source.Numeric

namespace NumericWithin

variable {fuel depth : Nat} {chars rest : List Char} {source : Source}

theorem value_succ (within : NumericWithin fuel)
    (read : value? (fuel + 1) depth chars = some (source, rest)) : source.Numeric := by
  unfold value? at read
  dsimp only at read
  split at read
  · obtain ⟨⟨text, _⟩, _, made⟩ := Option.map_eq_some_iff.mp read
    cases text <;> cases made <;> constructor
  · split at read
    · cases read
      exact (Numeric.array (List.forall_mem_nil _)).nested _
    · exact within.items (List.forall_mem_nil _) read
  · split at read
    · cases read
      exact (Numeric.object (List.forall_mem_nil _)).nested _
    · exact within.fields (List.forall_mem_nil _) read
  · obtain ⟨_, _, made⟩ := Option.map_eq_some_iff.mp read
    cases made
    exact .null
  · obtain ⟨_, _, made⟩ := Option.map_eq_some_iff.mp read
    cases made
    exact .bool
  · obtain ⟨_, _, made⟩ := Option.map_eq_some_iff.mp read
    cases made
    exact .bool
  · obtain ⟨⟨numeral, _⟩, _, made⟩ := Option.map_eq_some_iff.mp read
    cases isNumber : numeral.value? with
    | none =>
      rw [isNumber] at made
      cases made
      exact .unreadable
    | some number =>
      rw [isNumber] at made
      cases made
      exact .number (Numeral.isNaN_of_value? isNumber)

theorem items_succ (within : NumericWithin fuel) {reversed : List Source}
    (before : ∀ item ∈ reversed, item.Numeric)
    (read : items? (fuel + 1) depth reversed chars = some (source, rest)) : source.Numeric := by
  unfold items? at read
  split at read
  · cases read
  · rename_i item _ isItem
    have more : ∀ other ∈ item :: reversed, other.Numeric :=
      List.forall_mem_cons.mpr ⟨within.value isItem, before⟩
    split at read
    · exact within.items more read
    · cases read
      exact (Numeric.array fun other member => more other (List.mem_reverse.mp member)).nested _
    · cases read

theorem fields_succ (within : NumericWithin fuel) {reversed : List (Option String × Source)}
    (before : ∀ field ∈ reversed, field.2.Numeric)
    (read : fields? (fuel + 1) depth reversed chars = some (source, rest)) : source.Numeric := by
  unfold fields? at read
  split at read
  · split at read
    · cases read
    · rename_i name _ _
      split at read
      · split at read
        · cases read
        · rename_i item _ isItem
          have more : ∀ field ∈ (name, item) :: reversed, field.2.Numeric :=
            List.forall_mem_cons.mpr ⟨within.value isItem, before⟩
          split at read
          · exact within.fields more read
          · cases read
            exact (Numeric.object fun field member =>
              more field (List.mem_reverse.mp member)).nested _
          · cases read
      · cases read
  · cases read

end NumericWithin

theorem numericWithin (fuel : Nat) : NumericWithin fuel := by
  induction fuel with
  | zero => exact ⟨nofun, nofun, nofun⟩
  | succ fuel within => exact ⟨within.value_succ, within.items_succ, within.fields_succ⟩

/-- **Every number in a JSON text is one.** -/
theorem numeric_of_read? {text : String} {source : Source} (read : read? text = some source) :
    source.Numeric := by
  unfold read? at read
  extract_lets chars at read
  split at read
  · rename_i within
    split at read
    · cases read
      exact (numericWithin _).value within
    · cases read
  · cases read

/-! ### The values of a text -/

end Source

/-- The value is not an encoding that is no number. -/
def Comparable (value : Option Json) : Prop :=
  ∀ numeral, value = some (.number numeral) → numeral.toBinary64.isNaN = false

/-- No field of the document holds an encoding that is no number. -/
def ComparableFields (document : Json) : Prop :=
  ∀ name, Comparable (document.get? name)

theorem comparableFields_of_members {fields : Fields Json}
    (numbers : ∀ field ∈ fields, Comparable (some field.2)) : (object fields).ComparableFields :=
  fun _ value found => numbers _ (Fields.mem_of_get? found) value rfl

namespace Source

theorem eq_number_of_toJson? {source : Source} {value : Number}
    (read : source.toJson? = some (.number value)) : source = .number value := by
  cases source with
  | number other =>
    rw [toJson?] at read
    cases read
    rfl
  | array items =>
    obtain ⟨_, _, made⟩ := Option.map_eq_some_iff.mp read
    cases made
  | object fields =>
    obtain ⟨_, _, made⟩ := Option.map_eq_some_iff.mp read
    cases made
  | _ => cases read

/-- The fields of a value are read from those of its source. -/
theorem exists_of_fieldsToJson? {fields : List (Option String × Source)}
    {pairs : List (String × Json)} (read : fieldsToJson? fields = some pairs)
    {pair : String × Json} (member : pair ∈ pairs) :
    ∃ field ∈ fields, field.2.toJson? = some pair.2 := by
  induction fields generalizing pairs with
  | nil =>
    cases read
    cases member
  | cons field rest ih =>
    unfold fieldsToJson? at read
    split at read
    · rename_i name value values _ isValue others
      cases read
      rcases List.mem_cons.mp member with rfl | isLater
      · exact ⟨_, List.mem_cons_self, isValue⟩
      · obtain ⟨found, isField, isPair⟩ := ih others isLater
        exact ⟨found, List.mem_cons_of_mem _ isField, isPair⟩
    · cases read

/-- **The fields of what a text says hold numbers where they hold any.** -/
theorem comparableFields_of_toJson? {source : Source} {document : Json} (numeric : source.Numeric)
    (read : source.toJson? = some document) : document.ComparableFields := by
  cases document with
  | object values =>
    cases numeric with
    | object ofFields =>
      obtain ⟨pairs, isPairs, made⟩ := Option.map_eq_some_iff.mp read
      cases made
      refine comparableFields_of_members fun pair member value isNumber => ?_
      obtain ⟨field, isField, isValue⟩ :=
        exists_of_fieldsToJson? isPairs (Fields.mem_ofPairs member)
      rw [Option.some.inj isNumber] at isValue
      have isNumeric := ofFields field isField
      rw [eq_number_of_toJson? isValue] at isNumeric
      cases isNumeric with
      | number isNumber => exact isNumber
    | array ofItems =>
      obtain ⟨_, _, made⟩ := Option.map_eq_some_iff.mp read
      cases made
    | _ => cases read
  | _ => exact nofun

/-! ### Decoded parts -/

variable {Value : Type} {decode : Source → Option Value}

/-- What a list is decoded to is decoded from its items. -/
theorem exists_of_list? {source : Source} {values : List Value} (numeric : source.Numeric)
    (read : source.list? decode = some values) :
    ∀ value ∈ values, ∃ item : Source, item.Numeric ∧ decode item = some value := by
  intro value member
  cases numeric with
  | array ofItems =>
    obtain ⟨item, isItem, decoded⟩ := Option.exists_of_mapM read member
    exact ⟨item, ofItems item isItem, decoded⟩
  | _ => cases read

/-- What a table is decoded to is decoded from its fields. -/
theorem exists_of_table? {source : Source} {table : Fields Value} (numeric : source.Numeric)
    (read : source.table? decode = some table) :
    ∀ entry ∈ table, ∃ item : Source, item.Numeric ∧ decode item = some entry.2 := by
  intro entry member
  cases numeric with
  | object ofFields =>
    obtain ⟨pairs, decoded, rfl⟩ := Option.map_eq_some_iff.mp read
    obtain ⟨field, isField, isEntry⟩ :=
      Option.exists_of_mapM decoded (Fields.mem_ofPairs member)
    obtain ⟨name, _, isPair⟩ := Option.bind_eq_some_iff.mp isEntry
    obtain ⟨value, isValue, rfl⟩ := Option.map_eq_some_iff.mp isPair
    exact ⟨field.2, ofFields field isField, isValue⟩
  | _ => cases read

/-- The fields of a record are parts of it. -/
theorem numeric_of_record? {source : Source} {names : List String} {given : List (Option Source)}
    (numeric : source.Numeric) (read : source.record? names = some given) :
    ∀ part, some part ∈ given → part.Numeric := by
  intro part member
  cases numeric with
  | object ofFields =>
    rename_i fields
    rw [record?] at read
    split at read
    · cases read
    · obtain ⟨name, _, isPart⟩ := Option.exists_of_mapM read member
      split at isPart
      · cases isPart
      · rename_i field only
        cases isPart
        have isField : field ∈ fields.filter fun field => field.1 == some name :=
          only ▸ List.mem_singleton.mpr rfl
        exact ofFields field (List.mem_filter.mp isField).1
      · cases isPart
  | array ofItems =>
    rw [record?] at read
    split at read
    · cases read
      obtain ⟨place, _, isPart⟩ := List.mem_map.mp member
      exact ofItems part (List.mem_of_getElem? isPart)
    · cases read
  | _ => cases read

/-- A field with a default has it, or what the field is decoded to. -/
theorem withDefault?_cases {default value : Value} {field : Option Source}
    (read : withDefault? decode default field = some value) :
    value = default ∨ ∃ part, field = some part ∧ decode part = some value := by
  cases field with
  | none =>
    cases read
    exact .inl rfl
  | some part => exact .inr ⟨part, rfl, read⟩

end Source

end Json

/-! ### Stores -/

namespace MemoryStore

open Json (Source)

/-- All documents of the store have comparable fields. -/
def Comparable (store : MemoryStore) : Prop :=
  ∀ name held, store.collection? name = .ok held →
    ∀ document ∈ held.documents, document.ComparableFields

/-- The store was filled from JSON text, and after that by calls that insert only documents with
comparable fields. -/
def Filled (store : MemoryStore) : Prop :=
  ∃ (path text : String) (seeded : MemoryStore) (calls : List Call),
    Config.seedStore path (.ok text) = .ok seeded ∧
    (∀ name document, Call.insert name document ∈ calls → document.ComparableFields) ∧
    store = seeded.after calls

/-- The documents of a seed, by collection, have comparable fields. -/
theorem SeedCollection.comparable {source : Source} {content : SeedCollection}
    (numeric : source.Numeric) (read : ofSource? source = some content) :
    ∀ document ∈ content.documents, document.ComparableFields := by
  intro document member
  obtain ⟨given, isRecord, made⟩ := Option.bind_eq_some_iff.mp read
  split at made
  · rename_i indexes documents
    obtain ⟨declared, _, made⟩ := Option.bind_eq_some_iff.mp made
    obtain ⟨listed, isListed, made⟩ := Option.bind_eq_some_iff.mp made
    cases made
    rcases Source.withDefault?_cases isListed with rfl | ⟨part, rfl, isList⟩
    · cases member
    · have isNumeric := Source.numeric_of_record? numeric isRecord part
        (List.mem_cons_of_mem _ List.mem_cons_self)
      obtain ⟨item, ofItem, isDocument⟩ := Source.exists_of_list? isNumeric isList document member
      exact Source.comparableFields_of_toJson? ofItem isDocument
  · cases made

theorem Seed.comparable {source : Source} {seed : Seed} (numeric : source.Numeric)
    (read : ofSource? source = some seed) :
    ∀ entry ∈ seed.collections, ∀ document ∈ entry.2.documents, document.ComparableFields := by
  intro entry member
  obtain ⟨given, isRecord, made⟩ := Option.bind_eq_some_iff.mp read
  split at made
  · rename_i collections
    obtain ⟨table, isTable, made⟩ := Option.bind_eq_some_iff.mp made
    cases made
    rcases Source.withDefault?_cases isTable with rfl | ⟨part, rfl, isEntries⟩
    · cases member
    · have isNumeric := Source.numeric_of_record? numeric isRecord part List.mem_cons_self
      obtain ⟨item, ofItem, isContent⟩ := Source.exists_of_table? isNumeric isEntries entry member
      exact SeedCollection.comparable ofItem isContent
  · cases made

/-- **An `id` that is added to a document is no number.** -/
theorem comparable_of_inserted {store : MemoryStore} {name : String} {document kept : Json}
    (comparable : document.ComparableFields)
    (inserted : (store.insert name document).2 = .ok kept) : kept.ComparableFields := by
  rcases store.insert_cases name document with ⟨fields, rfl, _, same⟩ | ⟨_, _, _, same⟩
  · rw [same] at inserted
    cases inserted
    intro asked value found
    unfold withId at found
    split at found
    · exact comparable asked value found
    · rw [Json.get?, Fields.get?_insert] at found
      split at found
      · cases found
      · exact comparable asked value found
  · rw [same] at inserted
    cases inserted

/-- **Stores that are given documents with comparable fields hold no others.** -/
theorem comparable_after {calls : List Call}
    (given : ∀ name document, Call.insert name document ∈ calls → document.ComparableFields) :
    Comparable (after {} calls) := by
  intro name held there document member
  rw [collection?_eq] at there
  split at there
  · cases there
    rw [documents_after] at member
    have isStored : document ∈ (stored {} calls name).map Insertion.document := member
    obtain ⟨insertion, isInsertion, rfl⟩ := List.mem_map.mp isStored
    obtain ⟨before, behind, rfl, answered⟩ := mem_insertions (List.mem_filter.mp isInsertion).1
    have isGiven := given insertion.collection insertion.given
      (List.mem_append_right _ List.mem_cons_self)
    unfold Insertion.document
    split
    · rename_i kept isKept
      exact comparable_of_inserted isGiven (answered.trans isKept)
    · exact isGiven
  · cases there

/-- **No document of a store that is filled from JSON text holds an encoding that is no number**, as
long as calls insert none. -/
theorem Filled.comparable {store : MemoryStore} (filled : store.Filled) : store.Comparable := by
  obtain ⟨path, text, seeded, calls, isSeeded, given, rfl⟩ := filled
  rw [Config.seedStore] at isSeeded
  split at isSeeded
  · rename_i seed decoded
    obtain ⟨source, read, isSeed⟩ := Option.bind_eq_some_iff.mp decoded
    have ofSeed := Seed.comparable (Source.numeric_of_read? read) isSeed
    rw [ofSeed?_eq_after isSeeded, ← after_append]
    refine comparable_after fun name document member => ?_
    rcases List.mem_append.mp member with isOfSeed | isCalled
    · obtain ⟨entry, isEntry, isCall⟩ := List.mem_flatMap.mp isOfSeed
      rcases List.mem_cons.mp isCall with created | inserted
      · cases created
      · obtain ⟨_, isDocument, same⟩ := List.mem_map.mp inserted
        cases same
        exact ofSeed entry isEntry document isDocument
    · exact given name document isCalled
  · cases isSeeded

end MemoryStore

end IndexGuard
