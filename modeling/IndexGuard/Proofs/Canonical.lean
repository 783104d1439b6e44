/-
**Reading and writing store documents settles.**

A filter is `Canonical` when it stands flat and all its tests are legible. Canonical filters are
what is read:

* `canonical_ofNative`: every value is read as a canonical filter, whatever it holds;
* `Canonical.ofNative_toNative`: a canonical filter is read back as it was. So reading is a
  retraction (`ofNative_retracts`), and a document is written again as it was exactly when it is the
  document of a canonical filter (`toNative_ofNative_eq_iff`).

Not every filter has such a document. `Shallow` filters hold no conjunction in a conjunction of
several, and `Leaf.ReadAsOne` tests are read as a single test that is written alike:

* `toNative_ofNative_iff_shallow`: without tests of the field `$and`, these are exactly the filters
  whose document is written again as it was;
* `toNative_settles` puts this together; `nested_conjunction_rewritten` is a filter with another
  document after it was read.
-/

import IndexGuard.Proofs.Encoding
import Mathlib.Tactic.Choose

namespace IndexGuard

namespace Filter

/-- A filter that stands flat, with legible tests. -/
structure Canonical (filter : Filter) : Prop where
  flat : filter.Flat
  legible : ∀ test ∈ filter.leaves, test.Legible

/-! ### What is read -/

/-- **A canonical filter is read back as it was.** -/
theorem Canonical.ofNative_toNative {filter : Filter} (canonical : filter.Canonical) :
    ofNative filter.toNative = filter := by
  rw [Filter.ofNative_toNative filter canonical.legible, canonical.flat.ofLeaves_leaves]

theorem canonical_ofLeaves {tests : List Leaf} (legible : ∀ test ∈ tests, test.Legible) :
    (ofLeaves tests).Canonical :=
  ⟨flat_ofLeaves tests, by rwa [leaves_ofLeaves]⟩

/-- The flat conjunction of canonical filters is canonical. -/
theorem canonical_allOf {filters : List Filter}
    (canonical : ∀ clause ∈ filters, clause.Canonical) : (allOf filters).Canonical := by
  refine ⟨flat_ofLeaves _, fun test member => ?_⟩
  rw [leaves_allOf] at member
  obtain ⟨clause, isClause, isTest⟩ := List.mem_flatMap.mp member
  exact (canonical clause isClause).legible test isTest

/-- What operators are read as are ranges and patterns of the field. -/
theorem exists_nativeTests (field : String) (operators : Fields Json) :
    ∃ tests : List Leaf,
      nativePattern field operators ++ nativeRanges field operators = tests.map leaf ∧
      ∀ test ∈ tests, test.field = field ∧ ∀ value, test.test ≠ .equals value := by
  let ranges : List Leaf := operators.filterMap fun operator =>
    (RangeOp.ofToken? operator.1).map fun op => ⟨field, .range op operator.2⟩
  have rangesRead : nativeRanges field operators = ranges.map leaf := by
    simp only [nativeRanges, ranges, List.map_filterMap, Option.map_map]
    rfl
  have areRanges : ∀ test ∈ ranges, test.field = field ∧ ∀ value, test.test ≠ .equals value := by
    intro test member
    obtain ⟨operator, _, read⟩ := List.mem_filterMap.mp member
    obtain ⟨op, _, rfl⟩ := Option.map_eq_some_iff.mp read
    refine ⟨rfl, fun value => ?_⟩
    simp
  unfold nativePattern
  split
  · rename_i source _
    refine ⟨⟨field, .pattern source _⟩ :: ranges, by rw [rangesRead]; rfl, ?_⟩
    refine List.forall_mem_cons.mpr ⟨⟨rfl, fun value => ?_⟩, areRanges⟩
    simp
  · exact ⟨ranges, rangesRead, areRanges⟩

/-- Operators with a range or the text of a pattern among them are read as some test. -/
theorem nativeTests_ne_nil {field : String} {operators : Fields Json}
    (reads : ReadAsTests operators) :
    nativePattern field operators ++ nativeRanges field operators ≠ [] := by
  intro none
  obtain ⟨noPattern, noRange⟩ := List.append_eq_nil_iff.mp none
  rcases reads.known with ⟨operator, member, op, isRange⟩ | ⟨source, found⟩
  · have read := List.filterMap_eq_nil_iff.mp noRange operator member
    rw [RangeOp.ofToken?_eq_some_iff.mpr isRange.symm] at read
    cases read
  · rw [nativePattern, found] at noPattern
    cases noPattern

/-- **A field other than the conjunction is read as a canonical filter.** -/
theorem canonical_ofNativeField {field : String} (ordinary : field ≠ "$and") (value : Json) :
    (ofNativeField field value).Canonical := by
  by_cases reads : ∃ operators, value = .object operators ∧ ReadAsTests operators
  · obtain ⟨operators, rfl, reads⟩ := reads
    obtain ⟨tests, read, noValues⟩ := exists_nativeTests field operators
    have nonempty : tests ≠ [] := by
      rintro rfl
      exact nativeTests_ne_nil reads read
    rw [ofNativeField_of_tests reads.operators read nonempty]
    refine canonical_ofLeaves fun test member => ?_
    obtain ⟨rfl, noValue⟩ := noValues test member
    exact ⟨ordinary, fun fields isObject => absurd isObject (noValue _)⟩
  · have isValue : ∀ fields, value = .object fields → ¬ ReadAsTests fields :=
      fun fields isObject isTests => reads ⟨fields, isObject, isTests⟩
    rw [ofNativeField_of_value field isValue]
    refine ⟨.leaf _, fun test member => ?_⟩
    rw [List.mem_singleton.mp member]
    refine ⟨ordinary, fun fields same => isValue fields ?_⟩
    injection same

mutual

/-- **Every value is read as a canonical filter.** -/
theorem canonical_ofNative (value : Json) : (ofNative value).Canonical := by
  match value with
  | .object fields =>
    have each := canonical_ofNativeFields fields
    rw [ofNative]
    split
    · rename_i only single
      exact each only (by rw [single]; exact List.mem_singleton_self only)
    · exact canonical_allOf each
  | .null | .bool _ | .number _ | .string _ | .array _ =>
    exact canonical_ofLeaves (List.forall_mem_nil _)

theorem canonical_ofNativeFields (fields : List (String × Json)) :
    ∀ clause ∈ ofNativeFields fields, clause.Canonical := by
  match fields with
  | [] => exact nofun
  | (name, value) :: rest =>
    rw [ofNativeFields, List.forall_mem_append]
    refine ⟨?_, canonical_ofNativeFields rest⟩
    split
    · exact canonical_ofNativeConjunction value
    · rename_i ordinary
      exact List.forall_mem_singleton.mpr (canonical_ofNativeField ordinary value)

theorem canonical_ofNativeConjunction (value : Json) :
    ∀ clause ∈ ofNativeConjunction value, clause.Canonical := by
  match value with
  | .array items => exact canonical_ofNativeItems items
  | .null | .bool _ | .number _ | .string _ | .object _ => exact nofun

theorem canonical_ofNativeItems (items : List Json) :
    ∀ clause ∈ ofNativeItems items, clause.Canonical := by
  match items with
  | [] => exact nofun
  | item :: rest =>
    exact List.forall_mem_cons.mpr ⟨canonical_ofNative item, canonical_ofNativeItems rest⟩

end

/-- **Reading is a retraction onto canonical filters.** Any value is read as a single test or as a
flat conjunction of tests other than of one, none of them of the field `$and`, and this filter is
read back as it was. -/
theorem ofNative_retracts (value : Json) :
    ofNative (ofNative value).toNative = ofNative value ∧ (ofNative value).Flat ∧
      ∀ test ∈ (ofNative value).leaves, test.field ≠ "$and" :=
  have canonical := canonical_ofNative value
  ⟨canonical.ofNative_toNative, canonical.flat,
    fun test member => (canonical.legible test member).ordinary⟩

/-- Conjunctions of one filter and of no list, operators merged under one field with an unknown one
among them, and a name of an operator beside one that is none. -/
theorem ofNative_retracts_merged :
    ∃ value : Json,
      value = .object
        [("$and", .array [.object [("$and", .null)], .single "$and" (.array
          [.object [("year", .object [("$gte", .nat 1), ("$lt", .nat 9), ("$near", .null)])]])]),
        ("tags", .object [("$in", .null), ("size", .nat 3)])] ∧
      ofNative value = all [range "year" .greaterOrEqual (.nat 1), range "year" .less (.nat 9),
        equals "tags" (.object [("$in", .null), ("size", .nat 3)])] ∧
      ofNative (ofNative value).toNative = ofNative value := by
  refine ⟨_, rfl, rfl, (ofNative_retracts _).1⟩

/-! ### What is written again as it was -/

/-- **A document is written again as it was exactly when it is that of a canonical filter.** -/
theorem toNative_ofNative_eq_iff (document : Json) :
    (ofNative document).toNative = document ↔
      ∃ canonical : Filter, canonical.Canonical ∧ canonical.toNative = document := by
  constructor
  · intro same
    exact ⟨ofNative document, canonical_ofNative document, same⟩
  · rintro ⟨canonical, isCanonical, rfl⟩
    rw [isCanonical.ofNative_toNative]

/-- A single test, alone in any number of conjunctions. -/
inductive Lone : Filter → Prop
  | leaf (test : Leaf) : Lone (leaf test)
  | only {clause : Filter} : Lone clause → Lone (all [clause])

/-- No conjunction stands in a conjunction of several, unless it holds a single test. -/
inductive Shallow : Filter → Prop
  | leaf (test : Leaf) : Shallow (leaf test)
  | only {clause : Filter} : Shallow clause → Shallow (all [clause])
  | all {clauses : List Filter} : (∀ clause ∈ clauses, Lone clause) → Shallow (all clauses)

end Filter

/-- The test is read as a single test that is written alike: it is not an equality with an object
that is read as tests, unless this object is what a range or a pattern is written as. -/
def Leaf.ReadAsOne (test : Leaf) : Prop :=
  ∀ fields, test.test = .equals (.object fields) → ReadAsTests fields →
    ∃ asked : Test, (∀ value, asked ≠ .equals value) ∧ asked.toNative = .object fields

/-- A test of an ordinary field is read as one exactly when it is written like a legible test. -/
theorem Leaf.readAsOne_iff {test : Leaf} (ordinary : test.field ≠ "$and") :
    test.ReadAsOne ↔ ∃ legible : Leaf, legible.Legible ∧
      (Filter.leaf legible).toNative = (Filter.leaf test).toNative := by
  obtain ⟨field, asked⟩ := test
  constructor
  · intro readAsOne
    by_cases reads : ∃ fields, asked = .equals (.object fields) ∧ ReadAsTests fields
    · obtain ⟨fields, rfl, reads⟩ := reads
      obtain ⟨single, noValue, written⟩ := readAsOne fields rfl reads
      refine ⟨⟨field, single⟩, ⟨ordinary, fun _ isValue => absurd isValue (noValue _)⟩, ?_⟩
      exact congrArg (Json.single field) written
    · exact ⟨⟨field, asked⟩, ⟨ordinary, fun fields isObject isTests =>
        reads ⟨fields, isObject, isTests⟩⟩, rfl⟩
  · rintro ⟨⟨other, single⟩, legible, written⟩ fields rfl reads
    have same : single.toNative = .object fields := by
      injection written with fieldsSame
      injection fieldsSame with fieldSame
      exact congrArg Prod.snd fieldSame
    refine ⟨single, ?_, same⟩
    rintro value rfl
    exact legible.isValue fields (congrArg Test.equals same) reads

/-! ### Documents of conjunctions -/

namespace Json

/-- The document of a conjunction from those of its clauses. -/
def conjunction : List Json → Json
  | [] => .object []
  | [only] => only
  | documents => single "$and" (.array documents)

/-- The documents of the clauses from that of a conjunction. -/
def conjuncts : Json → List Json
  | .object [] => []
  | .object [("$and", .array documents)] => documents
  | document => [document]

theorem conjuncts_single {name : String} (ordinary : name ≠ "$and") (value : Json) :
    (single name value).conjuncts = [single name value] := by
  unfold single conjuncts
  split
  · rename_i empty
    cases empty
  · rename_i same
    injection same with same
    injection same with same
    exact absurd (congrArg Prod.fst same) ordinary
  · rfl

end Json

namespace Filter

theorem toNative_all (clauses : List Filter) :
    (all clauses).toNative = Json.conjunction (clauses.map toNative) := by
  have items : ∀ clauses, toNativeItems clauses = clauses.map toNative := by
    intro clauses
    induction clauses with
    | nil => rfl
    | cons clause rest ih => rw [toNativeItems, List.map_cons, ih]
  match clauses with
  | [] => rfl
  | [_] => rfl
  | first :: second :: rest =>
    show Json.single "$and" (.array (toNativeItems (first :: second :: rest))) = _
    rw [items]
    rfl

theorem toNative_ofLeaves (tests : List Leaf) :
    (ofLeaves tests).toNative = Json.conjunction ((tests.map leaf).map toNative) := by
  rw [← toNative_all]
  unfold ofLeaves
  split <;> rfl

/-- The documents of tests of ordinary fields can be told from that of their conjunction. -/
theorem conjuncts_tests {tests : List Leaf} (ordinary : ∀ test ∈ tests, test.field ≠ "$and") :
    (Json.conjunction ((tests.map leaf).map toNative)).conjuncts =
      (tests.map leaf).map toNative := by
  match tests with
  | [] => rfl
  | [only] => exact Json.conjuncts_single (ordinary only (List.mem_singleton_self only)) _
  | first :: second :: rest => rfl

/-! ### Filters whose document is kept -/

/-- A single test alone in conjunctions is written as it is. -/
theorem toNative_of_lone {filter : Filter} (lone : filter.Lone) :
    ∃ test : Leaf, filter.leaves = [test] ∧ filter.toNative = (leaf test).toNative := by
  induction lone with
  | leaf test => exact ⟨test, rfl, rfl⟩
  | only lone ih =>
    obtain ⟨test, leaves, written⟩ := ih
    exact ⟨test, by rw [leaves_all, List.flatMap_singleton, leaves], written⟩

/-- **A shallow filter is written as the flat conjunction of its tests.** -/
theorem toNative_of_shallow {filter : Filter} (shallow : filter.Shallow) :
    filter.toNative = Json.conjunction ((filter.leaves.map leaf).map toNative) := by
  induction shallow with
  | leaf test => rfl
  | only shallow ih =>
    rw [leaves_all, List.flatMap_singleton, ← ih]
    rfl
  | all lone =>
    rename_i clauses
    rw [toNative_all, leaves_all]
    congr 1
    induction clauses with
    | nil => rfl
    | cons clause rest ih =>
      obtain ⟨isLone, others⟩ := List.forall_mem_cons.mp lone
      obtain ⟨test, leaves, written⟩ := toNative_of_lone isLone
      rw [List.flatMap_cons, leaves, List.map_cons, written, ih others]
      rfl

/-- What is written like a test of an ordinary field is a single test. -/
theorem lone_of_toNative {field : String} (ordinary : field ≠ "$and") {value : Json}
    (filter : Filter) (written : filter.toNative = .single field value) : filter.Lone := by
  match filter with
  | leaf test => exact .leaf test
  | all [] => cases written
  | all [clause] => exact .only (lone_of_toNative ordinary clause written)
  | all (first :: second :: rest) =>
    injection written with fields
    injection fields with same
    exact absurd (congrArg Prod.fst same).symm ordinary

/-- **What is written as a flat conjunction of tests of ordinary fields is shallow.** -/
theorem shallow_of_toNative {tests : List Leaf} (ordinary : ∀ test ∈ tests, test.field ≠ "$and")
    (filter : Filter)
    (written : filter.toNative = Json.conjunction ((tests.map leaf).map toNative)) :
    filter.Shallow := by
  match filter with
  | leaf test => exact .leaf test
  | all [] => exact .all (List.forall_mem_nil _)
  | all [clause] => exact .only (shallow_of_toNative ordinary clause written)
  | all (first :: second :: rest) =>
    have same : (first :: second :: rest).map toNative = (tests.map leaf).map toNative := by
      rw [← conjuncts_tests ordinary, ← written, toNative_all]
      rfl
    refine .all fun clause member => ?_
    have isWritten : clause.toNative ∈ (tests.map leaf).map toNative :=
      same ▸ List.mem_map_of_mem member
    rw [List.map_map] at isWritten
    obtain ⟨test, isTest, alike⟩ := List.mem_map.mp isWritten
    exact lone_of_toNative (ordinary test isTest) clause alike.symm

/-- **Without tests of the field of the conjunction, the documents of exactly those filters are
written again as they were that are shallow and whose tests are each read as one.** -/
theorem toNative_ofNative_iff_shallow {filter : Filter}
    (ordinary : ∀ test ∈ filter.leaves, test.field ≠ "$and") :
    (ofNative filter.toNative).toNative = filter.toNative ↔
      filter.Shallow ∧ ∀ test ∈ filter.leaves, test.ReadAsOne := by
  rw [toNative_ofNative_eq_iff]
  constructor
  · rintro ⟨canonical, isCanonical, written⟩
    have ordinaryRead : ∀ test ∈ canonical.leaves, test.field ≠ "$and" :=
      fun test member => (isCanonical.legible test member).ordinary
    rw [← isCanonical.flat.ofLeaves_leaves, toNative_ofLeaves] at written
    have shallow := shallow_of_toNative ordinaryRead filter written.symm
    -- Both are flat conjunctions now, so that their tests are written alike, one by one.
    have same :
        (canonical.leaves.map leaf).map toNative = (filter.leaves.map leaf).map toNative := by
      rw [← conjuncts_tests ordinaryRead, written, toNative_of_shallow shallow,
        conjuncts_tests ordinary]
    refine ⟨shallow, fun test member => (Leaf.readAsOne_iff (ordinary test member)).mpr ?_⟩
    have isWritten : (leaf test).toNative ∈ (canonical.leaves.map leaf).map toNative :=
      same ▸ List.mem_map_of_mem (List.mem_map_of_mem member)
    rw [List.map_map] at isWritten
    obtain ⟨legible, isLegible, alike⟩ := List.mem_map.mp isWritten
    exact ⟨legible, isCanonical.legible legible isLegible, alike⟩
  · rintro ⟨shallow, readAsOne⟩
    have written := fun test member =>
      (Leaf.readAsOne_iff (ordinary test member)).mp (readAsOne test member)
    have : Nonempty Leaf := ⟨⟨"", .equals .null⟩⟩
    choose! legible isLegible alike using written
    refine ⟨ofLeaves (filter.leaves.map legible), canonical_ofLeaves ?_, ?_⟩
    · intro test member
      obtain ⟨source, isSource, rfl⟩ := List.mem_map.mp member
      exact isLegible source isSource
    · rw [toNative_ofLeaves, toNative_of_shallow shallow, List.map_map, List.map_map, List.map_map]
      exact congrArg Json.conjunction (List.map_congr_left alike)

/-- **What is written settles.** For every filter:

* its document is written again as it was, after it was read, exactly when it is the document of a
  canonical filter;
* when no test is of the field of the conjunction, this is the case exactly for a shallow filter
  whose tests are each read as one;
* whatever the filter, the document that is written after reading is written again as it was.
-/
theorem toNative_settles (filter : Filter) :
    ((ofNative filter.toNative).toNative = filter.toNative ↔
      ∃ canonical : Filter, canonical.Canonical ∧ canonical.toNative = filter.toNative) ∧
    ((∀ test ∈ filter.leaves, test.field ≠ "$and") →
      ((ofNative filter.toNative).toNative = filter.toNative ↔
        filter.Shallow ∧ ∀ test ∈ filter.leaves, test.ReadAsOne)) ∧
    (ofNative (ofNative filter.toNative).toNative).toNative =
      (ofNative filter.toNative).toNative :=
  ⟨toNative_ofNative_eq_iff _, toNative_ofNative_iff_shallow,
    congrArg toNative (canonical_ofNative _).ofNative_toNative⟩

/-- A range in a conjunction of its own, beside an equality with an object that is written like a
range: the document stays, although the second test is read as another one. -/
theorem toNative_settles_year :
    ∃ filter : Filter,
      filter = all [all [range "year" .less (.nat 2000)],
        equals "pages" (.object [("$gt", .nat 300)])] ∧
      ofNative filter.toNative =
        all [range "year" .less (.nat 2000), range "pages" .greater (.nat 300)] ∧
      (ofNative filter.toNative).toNative = filter.toNative := by
  let year : Leaf := ⟨"year", .range .less (.nat 2000)⟩
  let pages : Leaf := ⟨"pages", .equals (.object [("$gt", .nat 300)])⟩
  have ordinary : ∀ test ∈ [year, pages], test.field ≠ "$and" := by
    simp only [List.forall_mem_cons]
    exact ⟨by decide, by decide, List.forall_mem_nil _⟩
  have shallow : (all [all [leaf year], leaf pages]).Shallow := by
    refine .all ?_
    simp only [List.forall_mem_cons]
    exact ⟨.only (.leaf year), .leaf pages, List.forall_mem_nil _⟩
  have readAsOne : ∀ test ∈ [year, pages], test.ReadAsOne := by
    simp only [List.forall_mem_cons]
    refine ⟨nofun, ?_, List.forall_mem_nil _⟩
    rintro _ ⟨⟩ _
    exact ⟨.range .greater (.nat 300), nofun, rfl⟩
  obtain ⟨_, kept, _⟩ := toNative_settles (all [all [leaf year], leaf pages])
  exact ⟨_, rfl, rfl, (kept ordinary).mpr ⟨shallow, readAsOne⟩⟩

/-- **The document of a nested conjunction is not written again**: it is read as a flat one. -/
theorem nested_conjunction_rewritten :
    (ofNative (all [all [range "year" .greaterOrEqual (.string "1990"),
      range "year" .less (.string "2000")], equals "languages" (.string "en")]).toNative).toNative ≠
    (all [all [range "year" .greaterOrEqual (.string "1990"),
      range "year" .less (.string "2000")], equals "languages" (.string "en")]).toNative := by
  intro same
  have lengths := congrArg (fun document => document.conjuncts.length) same
  have flat : 3 = 2 := lengths
  cases flat

end Filter

end IndexGuard
