/-
**Filters read back from store documents.**

A store document has one shape for three kinds of tests: equality with an object, a range and a
pattern are all a field with an object. `ReadAsTests` says which objects are read as ranges and
patterns, and a test is `Legible` when it is not an equality with one of those and its field does
not have the name of the conjunction.

* `ofNativeField_toNative`: a legible test is read back as it was;
* `ofNative_toNative`: a filter of legible tests, however it is nested, is read back as the flat
  conjunction of its leaves;
* `ofNative_toNative_eq_allOf`: so it is read back up to flattening, and accepts the same documents.
-/

import IndexGuard.Filter.Native
import IndexGuard.Proofs.Conjunction
import IndexGuard.Proofs.Fields

namespace IndexGuard

/-- The fields of an object are read as ranges and patterns and not as a value: there are some, all
have names of operators, and among them is a range or the text of a pattern. -/
structure ReadAsTests (fields : Fields Json) : Prop where
  nonempty : fields ≠ []
  operators : ∀ field ∈ fields, isOperatorName field.1 = true
  known : (∃ field ∈ fields, ∃ op : RangeOp, field.1 = op.token) ∨
    ∃ source, Fields.get? fields "$regex" = some (.string source)

/-- A test that no other test and no conjunction is written as. -/
structure Leaf.Legible (leaf : Leaf) : Prop where
  ordinary : leaf.field ≠ "$and"
  isValue : ∀ fields, leaf.test = .equals (.object fields) → ¬ ReadAsTests fields

/-! ### The names of operators -/

theorem RangeOp.ofToken?_eq_some_iff {token : String} {op : RangeOp} :
    RangeOp.ofToken? token = some op ↔ op.token = token :=
  RangeOp.find?_eq_some_iff fun first second => by cases first <;> cases second <;> decide

theorem RangeOp.ofToken?_eq_none_iff {token : String} :
    RangeOp.ofToken? token = none ↔ ∀ op : RangeOp, token ≠ op.token := by
  rw [Option.eq_none_iff_forall_ne_some]
  exact forall_congr' fun op => by rw [ne_eq, RangeOp.ofToken?_eq_some_iff, eq_comm]

theorem isOperatorName_token (op : RangeOp) : isOperatorName op.token = true := by
  cases op <;> decide

namespace Filter

/-! ### The test of a field -/

theorem nativePattern_eq_nil {field : String} {operators : Fields Json}
    (textless : ∀ source, Fields.get? operators "$regex" ≠ some (.string source)) :
    nativePattern field operators = [] := by
  unfold nativePattern
  split
  · rename_i source found
    exact absurd found (textless source)
  · rfl

theorem nativeRanges_eq_nil {field : String} {operators : Fields Json}
    (rangeless : ∀ operator ∈ operators, ∀ op : RangeOp, operator.1 ≠ op.token) :
    nativeRanges field operators = [] := by
  unfold nativeRanges
  rw [List.filterMap_eq_nil_iff]
  intro operator member
  rw [RangeOp.ofToken?_eq_none_iff.mpr (rangeless operator member), Option.map_none]

/-- **What is not read as tests is read as a value.** -/
theorem ofNativeField_of_value (field : String) {value : Json}
    (isValue : ∀ fields, value = .object fields → ¬ ReadAsTests fields) :
    ofNativeField field value = equals field value := by
  unfold ofNativeField
  split
  · rename_i operators
    split
    · rfl
    · rename_i allOperators
      simp only [Bool.or_eq_true, List.isEmpty_iff, Bool.not_eq_true', not_or, Bool.not_eq_false,
        List.all_eq_true] at allOperators
      have unknown : ¬ ((∃ operator ∈ operators, ∃ op : RangeOp, operator.1 = op.token) ∨
          ∃ source, Fields.get? operators "$regex" = some (.string source)) :=
        fun known => isValue operators rfl ⟨allOperators.1, allOperators.2, known⟩
      have rangeless : ∀ operator ∈ operators, ∀ op : RangeOp, operator.1 ≠ op.token :=
        fun operator member op isRange => unknown (.inl ⟨operator, member, op, isRange⟩)
      have textless : ∀ source, Fields.get? operators "$regex" ≠ some (.string source) :=
        fun source found => unknown (.inr ⟨source, found⟩)
      rw [nativePattern_eq_nil textless, nativeRanges_eq_nil rangeless]
      rfl
  · rfl

/-- Operators that make some tests are read as the flat conjunction of these. -/
theorem ofNativeField_of_tests {field : String} {operators : Fields Json} {tests : List Leaf}
    (named : ∀ operator ∈ operators, isOperatorName operator.1 = true)
    (read : nativePattern field operators ++ nativeRanges field operators = tests.map leaf)
    (nonempty : tests ≠ []) : ofNativeField field (.object operators) = ofLeaves tests := by
  have someOperator : operators ≠ [] := by
    rintro rfl
    exact nonempty (List.map_eq_nil_iff.mp read.symm)
  have isTests : ¬ (operators.isEmpty ||
      !operators.all fun operator => isOperatorName operator.1) = true := by
    simpa [someOperator] using named
  rw [ofNativeField, if_neg isTests, read]
  cases tests with
  | nil => exact absurd rfl nonempty
  | cons first rest => cases rest <;> rfl

theorem ofNativeField_range (field : String) (op : RangeOp) (bound : Json) :
    ofNativeField field (Test.range op bound).toNative = range field op bound := by
  have textless : nativePattern field [(op.token, bound)] = [] := by
    refine nativePattern_eq_nil fun source found => ?_
    have different : op.token ≠ "$regex" := by cases op <;> decide
    rw [Fields.get?_cons, if_neg different] at found
    cases found
  have ranges : nativeRanges field [(op.token, bound)] = [range field op bound] := by
    rw [nativeRanges, List.filterMap_cons, RangeOp.ofToken?_eq_some_iff.mpr rfl]
    rfl
  show _ = ofLeaves [⟨field, .range op bound⟩]
  refine ofNativeField_of_tests (fun operator member => ?_) (by rw [textless, ranges]; rfl)
    (List.cons_ne_nil _ _)
  rw [List.mem_singleton.mp member]
  exact isOperatorName_token op

theorem ofNativeField_pattern (field source : String) (ignoreCase : Bool) :
    ofNativeField field (Test.pattern source ignoreCase).toNative =
      pattern field source ignoreCase := by
  have noRange : ∀ op : RangeOp, "$regex" ≠ op.token ∧ "$options" ≠ op.token := by
    intro op
    cases op <;> decide
  have regexNamed : isOperatorName "$regex" = true := by decide
  have optionsNamed : isOperatorName "$options" = true := by decide
  show _ = ofLeaves [⟨field, .pattern source ignoreCase⟩]
  cases ignoreCase with
  | false =>
    show ofNativeField field (.object [("$regex", .string source)]) = _
    refine ofNativeField_of_tests (by simpa using regexNamed) ?_ (List.cons_ne_nil _ _)
    rw [nativeRanges_eq_nil (by simpa using fun op => (noRange op).1)]
    rfl
  | true =>
    show ofNativeField field
      (.object [("$options", .string "i"), ("$regex", .string source)]) = _
    refine ofNativeField_of_tests (by simpa using ⟨optionsNamed, regexNamed⟩) ?_
      (List.cons_ne_nil _ _)
    rw [nativeRanges_eq_nil (by
      simpa using ⟨fun op => (noRange op).2, fun op => (noRange op).1⟩)]
    rfl

/-- **A legible test is read back as it was.** -/
theorem ofNativeField_toNative {test : Leaf} (legible : test.Legible) :
    ofNativeField test.field test.test.toNative = leaf test := by
  obtain ⟨field, asked⟩ := test
  cases asked with
  | equals value =>
    exact ofNativeField_of_value field fun fields isObject =>
      legible.isValue fields (congrArg Test.equals isObject)
  | range op bound => exact ofNativeField_range field op bound
  | pattern source ignoreCase => exact ofNativeField_pattern field source ignoreCase

/-! ### The filter -/

/-- A document with a single field other than the conjunction is the test of this field. -/
theorem ofNative_single {field : String} (ordinary : field ≠ "$and") (value : Json) :
    ofNative (.single field value) = ofNativeField field value := by
  rw [Json.single, ofNative, ofNativeFields, ofNativeFields, if_neg ordinary, List.append_nil]

/-- A document with nothing but a conjunction of several filters is their flat conjunction. -/
theorem ofNative_conjunction (first second : Json) (rest : List Json) :
    ofNative (.single "$and" (.array (first :: second :: rest))) =
      allOf (ofNativeItems (first :: second :: rest)) := by
  rw [Json.single, ofNative, ofNativeFields, ofNativeFields, if_pos rfl, List.append_nil]
  rfl

theorem allOf_map_ofLeaves (clauses : List Filter) :
    allOf (clauses.map fun clause => ofLeaves clause.leaves) = ofLeaves (all clauses).leaves := by
  rw [allOf, leavesOf_eq_flatMap, List.flatMap_map, leaves_all]
  simp only [leaves_ofLeaves]

mutual

/-- **A filter of legible tests is read back as the flat conjunction of its leaves.** -/
theorem ofNative_toNative (filter : Filter) (legible : ∀ test ∈ filter.leaves, test.Legible) :
    ofNative filter.toNative = ofLeaves filter.leaves := by
  match filter with
  | leaf test =>
    have isLegible := legible test (List.mem_singleton_self _)
    exact (ofNative_single isLegible.ordinary _).trans (ofNativeField_toNative isLegible)
  | all [] => rfl
  | all [clause] =>
    have same : (all [clause]).leaves = clause.leaves := by simp
    rw [same] at legible ⊢
    exact ofNative_toNative clause legible
  | all (first :: second :: rest) =>
    -- Each clause is flattened on its own, and then all of them together.
    have items := ofNativeItems_toNativeItems (first :: second :: rest) fun clause member test is =>
      legible test (by rw [leaves_all]; exact List.mem_flatMap_of_mem member is)
    rw [← allOf_map_ofLeaves, ← items]
    exact ofNative_conjunction _ _ _

theorem ofNativeItems_toNativeItems (clauses : List Filter)
    (legible : ∀ clause ∈ clauses, ∀ test ∈ clause.leaves, test.Legible) :
    ofNativeItems (toNativeItems clauses) =
      clauses.map fun clause => ofLeaves clause.leaves := by
  match clauses with
  | [] => rfl
  | clause :: rest =>
    rw [toNativeItems, ofNativeItems, List.map_cons,
      ofNative_toNative clause (legible clause List.mem_cons_self),
      ofNativeItems_toNativeItems rest fun other member =>
        legible other (List.mem_cons_of_mem _ member)]

end

/-- Without legibility the test may change: an equality with an object of operators is read back as
what they ask for. -/
example : ofNative (toNative (equals "year" (.object [("$gt", .nat 1990)]))) =
    range "year" .greater (.nat 1990) := rfl

/-! ### Flat filters -/

/-- A filter stands flat: as a single test, or as a conjunction of tests other than of one. -/
inductive Flat : Filter → Prop
  | leaf (test : Leaf) : Flat (leaf test)
  | all (tests : List Leaf) : tests.length ≠ 1 → Flat (all (tests.map Filter.leaf))

theorem ofLeaves_of_length_ne_one {tests : List Leaf} (several : tests.length ≠ 1) :
    ofLeaves tests = all (tests.map leaf) := by
  unfold ofLeaves
  split
  · exact absurd rfl several
  · rfl

theorem flat_ofLeaves (tests : List Leaf) : (ofLeaves tests).Flat := by
  by_cases single : tests.length = 1
  · obtain ⟨only, rfl⟩ := List.length_eq_one_iff.mp single
    exact .leaf only
  · rw [ofLeaves_of_length_ne_one single]
    exact .all tests single

/-- **A flat filter is the flat conjunction of its leaves.** -/
theorem Flat.ofLeaves_leaves {filter : Filter} (flat : filter.Flat) :
    ofLeaves filter.leaves = filter := by
  cases flat with
  | leaf test => rfl
  | all tests several => rw [leaves_all, flatMap_leaves_map_leaf, ofLeaves_of_length_ne_one several]

/-- **Reading undoes writing up to flattening.** A filter of legible tests is read back as the
conjunction of its leaves in order, which is the filter itself when it stands flat, and which
accepts the same documents in any case. -/
theorem ofNative_toNative_eq_allOf (filter : Filter)
    (legible : ∀ test ∈ filter.leaves, test.Legible) :
    ofNative filter.toNative = allOf [filter] ∧
    (filter.Flat → ofNative filter.toNative = filter) ∧
    ∀ document, (ofNative filter.toNative).accepts document = filter.accepts document := by
  have read := ofNative_toNative filter legible
  refine ⟨?_, fun flat => ?_, fun document => ?_⟩
  · rw [read, allOf, leavesOf_eq_flatMap, List.flatMap_singleton]
  · rw [read, flat.ofLeaves_leaves]
  · rw [read]
    exact accepts_congr (leaves_ofLeaves _) document

/-- A nested filter, with a value that looks like an operator and is none. -/
theorem ofNative_toNative_nested :
    ofNative (toNative (all [all [range "year" .greater (.nat 1990)], everything,
        equals "tags" (.object [("$ne", .null)])])) =
      all [range "year" .greater (.nat 1990), equals "tags" (.object [("$ne", .null)])] := by
  refine (ofNative_toNative_eq_allOf _ fun test member => ?_).1
  rcases List.mem_cons.mp member with rfl | member
  · exact ⟨by decide, nofun⟩
  · rw [List.mem_singleton.mp member]
    refine ⟨by decide, ?_⟩
    rintro _ ⟨⟩ ⟨_, _, ⟨field, isField, op, isRange⟩ | ⟨source, found⟩⟩
    · rw [List.mem_singleton.mp isField] at isRange
      revert isRange
      cases op <;> decide
    · rw [Fields.get?_cons, if_neg (by decide)] at found
      cases found

end Filter

end IndexGuard
