/-
**What a request asks of a document.**

The constraints that the pairs of a request put on a field are said on the pairs themselves
(`constraints`): equality with the plain texts, the bound of each range operator, equality with an
object of the other parts.

* `leaves_filter`: the filter of one entry lists exactly the constraints on its field;
* `userFilter_eq_constraints`: the client's filter is the conjunction of the constraints on all
  fields that are asked for, in ascending order, and accepts the documents that satisfy them all.
-/

import IndexGuard.Proofs.Conjunction
import IndexGuard.Proofs.Gathering
import IndexGuard.Query.Request
import Mathlib.Data.List.Basic
import Mathlib.Tactic.Choose

namespace IndexGuard

/-- Texts as JSON: a single one stands alone. -/
def Json.ofTexts : List String → Json
  | [text] => .string text
  | texts => .strings texts

/-- The names with a property, in ascending order. -/
structure Ascending (names : List String) (holds : String → Prop) : Prop where
  sorted : names.Pairwise fun first second => first < second
  mem_iff : ∀ name, name ∈ names ↔ holds name

section Constraints

variable (pairs : List (String × String)) (field : String)

/-- The plain texts of a field are what it has to be equal to. -/
def plainConstraint : List Leaf :=
  match given pairs (.plain field) with
  | [] => []
  | texts => [⟨field, .equals (.ofTexts texts)⟩]

/-- The last text given for a range operator is its bound. -/
def rangeConstraints : List Leaf :=
  RangeOp.operators.filterMap fun op =>
    (given pairs (.within field op.suffix)).getLast?.map fun text =>
      ⟨field, .range op (.string text)⟩

/-- The parts that are no range operators are an object that the field has to be equal to. -/
def objectConstraint (parts : List String) : List Leaf :=
  match parts with
  | [] => []
  | parts =>
    [⟨field, .equals (.object (parts.map fun part =>
      (part, .ofTexts (given pairs (.within field part)))))⟩]

/-- All that the pairs ask of a field, with the parts that are no range operators. -/
def constraints (parts : List String) : List Leaf :=
  plainConstraint pairs field ++ rangeConstraints pairs field ++ objectConstraint pairs field parts

end Constraints

/-! ### The names of range operators -/

theorem RangeOp.ofSuffix?_eq_some_iff {suffix : String} {op : RangeOp} :
    RangeOp.ofSuffix? suffix = some op ↔ op.suffix = suffix :=
  RangeOp.find?_eq_some_iff fun first second => by cases first <;> cases second <;> decide

theorem RangeOp.ofSuffix?_isNone_iff {suffix : String} :
    (RangeOp.ofSuffix? suffix).isNone = true ↔ ∀ op : RangeOp, op.suffix ≠ suffix := by
  rw [Option.isNone_iff_eq_none, Option.eq_none_iff_forall_ne_some]
  exact forall_congr' fun op => not_congr RangeOp.ofSuffix?_eq_some_iff

/-- The names of the range operators. -/
def RangeOp.suffixes : List String := RangeOp.operators.map RangeOp.suffix

theorem RangeOp.suffixes_ascending :
    RangeOp.suffixes.Pairwise fun first second => first < second := by decide

theorem RangeOp.suffix_mem (op : RangeOp) : op.suffix ∈ RangeOp.suffixes := by
  cases op <;> decide

/-! ### The filter of an entry -/

namespace ParamValue

variable {parts : Fields ParamValue} {within : String → List String}

theorem query_of_ofTexts? {texts : List String} {value : ParamValue}
    (made : ofTexts? texts = some value) : value.query = .ofTexts texts := by
  match texts, made with
  | [_], rfl => rfl
  | _ :: _ :: _, rfl => rfl

theorem bound_of_ofTexts? (texts : List String) :
    (ofTexts? texts).map bound = texts.getLast?.map Json.string := by
  match texts with
  | [] => rfl
  | [_] => rfl
  | first :: second :: rest =>
    show some (((first :: second :: rest).getLast?.map Json.string).getD .null) = _
    rw [List.getLast?_cons_cons, List.getLast?_eq_some_getLast (List.cons_ne_nil second rest)]
    rfl

theorem queryParts_eq_map (parts : Fields ParamValue) :
    queryParts parts = parts.map fun field => (field.1, field.2.query) := by
  induction parts with
  | nil => rfl
  | cons field rest ih => rw [queryParts, ih, List.map_cons]

/-- The parts of an entry that are no range operators. -/
def others (parts : Fields ParamValue) : Fields ParamValue :=
  parts.filter fun field => (RangeOp.ofSuffix? field.1).isNone

/-- **The range tests of an entry**, in the order of the operators. -/
theorem ranges_eq (sorted : Fields.Sorted parts) (field : String) :
    (parts.filterMap fun (part, value) =>
        (RangeOp.ofSuffix? part).map fun op => Leaf.mk field (.range op value.bound)) =
      RangeOp.operators.filterMap fun op =>
        ((Fields.get? parts op.suffix).map bound).map fun limit => ⟨field, .range op limit⟩ := by
  have named : ∀ {part : String} {op : RangeOp}, RangeOp.ofSuffix? part = some op →
      RangeOp.suffixes.contains part = true := fun found => by
    rw [← RangeOp.ofSuffix?_eq_some_iff.mp found]
    exact List.contains_iff_mem.mpr (RangeOp.suffix_mem _)
  have cut : ∀ entry : String × ParamValue,
      (if RangeOp.suffixes.contains entry.1 = true then
        (RangeOp.ofSuffix? entry.1).map fun op => Leaf.mk field (.range op entry.2.bound)
      else none) =
        (RangeOp.ofSuffix? entry.1).map fun op => Leaf.mk field (.range op entry.2.bound) := by
    intro entry
    cases found : RangeOp.ofSuffix? entry.1 with
    | none => simp
    | some op => rw [if_pos (named found)]
  calc (parts.filterMap fun entry =>
        (RangeOp.ofSuffix? entry.1).map fun op => Leaf.mk field (.range op entry.2.bound))
      = (parts.filter fun entry => RangeOp.suffixes.contains entry.1).filterMap fun entry =>
          (RangeOp.ofSuffix? entry.1).map fun op => Leaf.mk field (.range op entry.2.bound) := by
        rw [List.filterMap_filter]
        exact List.filterMap_congr fun entry _ => (cut entry).symm
    _ = (Fields.lookup parts RangeOp.suffixes).filterMap fun entry =>
          (RangeOp.ofSuffix? entry.1).map fun op => Leaf.mk field (.range op entry.2.bound) := by
        rw [sorted.filter_eq_lookup RangeOp.suffixes_ascending]
    _ = RangeOp.operators.filterMap fun op =>
          ((Fields.get? parts op.suffix).map bound).map fun limit => ⟨field, .range op limit⟩ := by
        rw [Fields.lookup, List.filterMap_filterMap, RangeOp.suffixes, List.filterMap_map]
        refine List.filterMap_congr fun op _ => ?_
        have found : RangeOp.ofSuffix? op.suffix = some op :=
          RangeOp.ofSuffix?_eq_some_iff.mpr rfl
        cases value : Fields.get? parts op.suffix <;> simp [value, found]

/-- The tests that the parts of an entry make. -/
theorem leaves_partsFilter (sorted : Fields.Sorted parts) (field : String) :
    (partsFilter field parts).leaves =
      (RangeOp.operators.filterMap fun op =>
        ((Fields.get? parts op.suffix).map bound).map fun limit =>
          Leaf.mk field (.range op limit)) ++
      if others parts = [] then []
      else [⟨field, .equals (.object (queryParts (others parts)))⟩] := by
  have tests : (parts.filterMap fun (part, value) =>
        (RangeOp.ofSuffix? part).map fun op => Filter.range field op value.bound) =
      (parts.filterMap fun (part, value) =>
        (RangeOp.ofSuffix? part).map fun op => Leaf.mk field (.range op value.bound)).map
          Filter.leaf := by
    rw [List.map_filterMap]
    refine List.filterMap_congr fun entry _ => ?_
    rw [Option.map_map]
    rfl
  rw [partsFilter, Filter.leaves_allOf, List.flatMap_append, tests,
    Filter.flatMap_leaves_map_leaf, ranges_eq sorted]
  congr 1
  show List.flatMap Filter.leaves
    (if (others parts).isEmpty then [] else
      [Filter.equals field (.object (queryParts (others parts)))]) = _
  cases others parts <;> rfl

/-- The names of the other parts are the parts asked for beside the range operators. -/
theorem ascending_others (sorted : Fields.Sorted parts)
    (found : ∀ part, Fields.get? parts part = ofTexts? (within part)) :
    Ascending (Fields.names (others parts)) fun part =>
      within part ≠ [] ∧ ∀ op : RangeOp, op.suffix ≠ part := by
  have sortedOthers : Fields.Sorted (others parts) := List.Pairwise.filter _ sorted
  refine ⟨sortedOthers.names, fun part => ?_⟩
  rw [Fields.mem_names_iff, others,
    Fields.get?_filter fun part => (RangeOp.ofSuffix? part).isNone, found part]
  split
  · rename_i other
    simp [RangeOp.ofSuffix?_isNone_iff.mp other]
  · rename_i operator
    rw [RangeOp.ofSuffix?_isNone_iff] at operator
    simp [operator]

/-- The object of the other parts holds the texts given for each. -/
theorem queryParts_others (sorted : Fields.Sorted parts)
    (found : ∀ part, Fields.get? parts part = ofTexts? (within part)) :
    queryParts (others parts) =
      (Fields.names (others parts)).map fun part => (part, .ofTexts (within part)) := by
  rw [queryParts_eq_map, Fields.names, List.map_map]
  refine List.map_congr_left fun entry member => ?_
  have holds : ofTexts? (within entry.1) = some entry.2 := by
    rw [← found]
    exact sorted.get?_of_mem (List.mem_of_mem_filter member)
  rw [Function.comp_apply, query_of_ofTexts? holds]

/-- The tests that an entry makes: those of its plain texts before those of its parts. -/
theorem leaves_filter_of_ofGiven? {pairs : List (String × String)} {field : String}
    {value : ParamValue} {parts : Fields ParamValue}
    (made : some value = ofGiven? (given pairs (.plain field)) parts) :
    (value.filter field).leaves =
      plainConstraint pairs field ++ (partsFilter field parts).leaves := by
  unfold plainConstraint
  cases texts : given pairs (.plain field) with
  | nil =>
    rw [texts] at made
    cases parts with
    | nil => cases made
    | cons entry rest =>
      cases made
      rfl
  | cons text rest =>
    rw [texts] at made
    obtain ⟨plain, isPlain⟩ := Option.ne_none_iff_exists'.mp
      (mt ofTexts?_eq_none_iff.mp (List.cons_ne_nil text rest))
    have query : plain.query = .ofTexts (text :: rest) := query_of_ofTexts? isPlain
    unfold ofGiven? at made
    rw [isPlain] at made
    cases parts with
    | nil =>
      have isEquality : plain.filter field = Filter.equals field plain.query := by
        match rest, isPlain with
        | [], rfl => rfl
        | _ :: _, rfl => rfl
      rw [Option.some.inj made, isEquality, query]
      rfl
    | cons entry others =>
      rw [Option.some.inj made]
      show (Filter.allOf
        [Filter.equals field plain.query, partsFilter field (entry :: others)]).leaves = _
      rw [Filter.leaves_allOf, List.flatMap_cons, List.flatMap_cons, List.flatMap_nil,
        List.append_nil, query]
      rfl

end ParamValue

open ParamValue in
/-- **The filter of an entry lists exactly the constraints on its field.** -/
theorem leaves_filter {pairs : List (String × String)} {field : String} {value : ParamValue}
    (gathers : Gathers (some value) (given pairs (.plain field))
      (fun part => given pairs (.within field part))) :
    ∃ parts, (Ascending parts fun part =>
        AsksWithin pairs field part ∧ ∀ op : RangeOp, op.suffix ≠ part) ∧
      (value.filter field).leaves = constraints pairs field parts := by
  obtain ⟨parts, sorted, found, made⟩ := gathers
  refine ⟨Fields.names (others parts), ?_, ?_⟩
  · have ascending := ascending_others sorted found
    simpa only [given_within_ne_nil_iff] using ascending
  · have ranges : (RangeOp.operators.filterMap fun op =>
        ((Fields.get? parts op.suffix).map bound).map fun limit =>
          Leaf.mk field (.range op limit)) = rangeConstraints pairs field := by
      refine List.filterMap_congr fun op _ => ?_
      rw [found, bound_of_ofTexts?, Option.map_map]
      rfl
    have object : (if others parts = [] then []
        else [Leaf.mk field (.equals (.object (queryParts (others parts))))]) =
          objectConstraint pairs field (Fields.names (others parts)) := by
      rw [queryParts_others sorted found]
      cases others parts <;> rfl
    have nestedLeaves := leaves_partsFilter sorted field
    rw [ranges, object] at nestedLeaves
    rw [constraints, List.append_assoc, ← nestedLeaves]
    exact leaves_filter_of_ofGiven? made

/-! ### The filter of a request -/

/-- A constraint is an equality with texts, a bound, or an equality with an object of the parts. -/
theorem constraint_cases {pairs : List (String × String)} {field : String} {parts : List String}
    {test : Leaf} (member : test ∈ constraints pairs field parts) :
    (∃ texts, test = ⟨field, .equals (.ofTexts texts)⟩) ∨
    (∃ op text, test = ⟨field, .range op (.string text)⟩) ∨
    test = ⟨field, .equals (.object (parts.map fun part =>
      (part, .ofTexts (given pairs (.within field part)))))⟩ := by
  rcases List.mem_append.mp member with member | member
  · rcases List.mem_append.mp member with member | member
    · unfold plainConstraint at member
      split at member
      · cases member
      · exact .inl ⟨_, List.mem_singleton.mp member⟩
    · obtain ⟨op, _, found⟩ := List.mem_filterMap.mp member
      obtain ⟨text, _, rfl⟩ := Option.map_eq_some_iff.mp found
      exact .inr (.inl ⟨op, text, rfl⟩)
  · unfold objectConstraint at member
    split at member
    · cases member
    · exact .inr (.inr (List.mem_singleton.mp member))

theorem field_of_mem_constraints {pairs : List (String × String)} {field : String}
    {parts : List String} {test : Leaf} (member : test ∈ constraints pairs field parts) :
    test.field = field := by
  rcases constraint_cases member with ⟨_, rfl⟩ | ⟨_, _, rfl⟩ | rfl <;> rfl

/-- **A field that is asked for is constrained.** -/
theorem constraints_ne_nil {pairs : List (String × String)} {field : String} {parts : List String}
    (asked : Asks pairs field)
    (ascending : Ascending parts fun part =>
      AsksWithin pairs field part ∧ ∀ op : RangeOp, op.suffix ≠ part) :
    constraints pairs field parts ≠ [] := by
  have nonempty : ∀ test : Leaf, test ∈ constraints pairs field parts →
      constraints pairs field parts ≠ [] := fun _ member => List.ne_nil_of_mem member
  rcases asks_iff_given.mp asked with plain | ⟨part, within⟩
  · refine nonempty ⟨field, .equals (.ofTexts (given pairs (.plain field)))⟩
      (List.mem_append_left _ (List.mem_append_left _ ?_))
    unfold plainConstraint
    split
    · rename_i none
      exact absurd none plain
    · exact List.mem_singleton.mpr rfl
  · by_cases operator : ∃ op : RangeOp, op.suffix = part
    · obtain ⟨op, rfl⟩ := operator
      refine nonempty ⟨field, .range op (.string
        ((given pairs (.within field op.suffix)).getLast within))⟩
        (List.mem_append_left _ (List.mem_append_right _ (List.mem_filterMap.mpr ⟨op, ?_, ?_⟩)))
      · cases op <;> decide
      · rw [List.getLast?_eq_some_getLast within]
        rfl
    · have member : part ∈ parts := (ascending.mem_iff part).mpr
        ⟨given_within_ne_nil_iff.mp within, fun op named => operator ⟨op, named⟩⟩
      have object : objectConstraint pairs field parts ≠ [] := by
        unfold objectConstraint
        split
        · cases member
        · exact List.cons_ne_nil _ _
      exact List.append_ne_nil_of_right_ne_nil _ object

open Params in
/-- The filter of every entry that does not steer paging or order lists the constraints on its
field. -/
theorem exists_parts (pairs : List (String × String)) (field : String) :
    ∃ parts, ∀ value, (field, value) ∈ (ofPairs pairs).withoutControls →
      (Ascending parts fun part =>
        AsksWithin pairs field part ∧ ∀ op : RangeOp, op.suffix ≠ part) ∧
      (value.filter field).leaves = constraints pairs field parts := by
  have gather := gather_ofPairs pairs
  have sorted := sorted_withoutControls gather.sorted
  cases found : Fields.get? (ofPairs pairs).withoutControls field with
  | none =>
    refine ⟨[], fun value member => ?_⟩
    rw [sorted.get?_of_mem member] at found
    cases found
  | some value =>
    have ordinary : field ∉ controlKeys := by
      intro control
      rw [get?_withoutControls, if_pos control] at found
      cases found
    have entry := gather.entries field ordinary
    rw [get?_withoutControls, if_neg ordinary] at found
    rw [found] at entry
    obtain ⟨parts, ascending, leaves⟩ := leaves_filter entry
    refine ⟨parts, fun other member => ?_⟩
    have again := sorted.get?_of_mem member
    rw [get?_withoutControls, if_neg ordinary, found] at again
    cases again
    exact ⟨ascending, leaves⟩

open Params in
/-- **The client's filter is the flat conjunction of the constraints on its filter fields.** These
are the fields that are asked for, without the control keys, in ascending order. -/
theorem request_constraints (pairs : List (String × String)) (injected : Filter) :
    ∃ parts : String → List String,
      (Ascending (Request.ofParams (ofPairs pairs) injected).filterFields fun field =>
        field ∉ controlKeys ∧ Asks pairs field) ∧
      (∀ field ∈ (Request.ofParams (ofPairs pairs) injected).filterFields,
        Ascending (parts field) fun part =>
          AsksWithin pairs field part ∧ ∀ op : RangeOp, op.suffix ≠ part) ∧
      (Request.ofParams (ofPairs pairs) injected).userFilter =
        Filter.ofLeaves ((Request.ofParams (ofPairs pairs) injected).filterFields.flatMap
          fun field => constraints pairs field (parts field)) := by
  have userFilter_eq : (Request.ofParams (ofPairs pairs) injected).userFilter =
      Filter.ofLeaves ((ofPairs pairs).withoutControls.flatMap fun entry =>
        (entry.2.filter entry.1).leaves) := by
    show Filter.allOf _ = _
    rw [Filter.allOf, Filter.leavesOf_eq_flatMap, List.flatMap_map]
  have fields_eq : (Request.ofParams (ofPairs pairs) injected).filterFields =
      Fields.names (ofPairs pairs).withoutControls := rfl
  rw [userFilter_eq, fields_eq]
  choose parts partsOf using exists_parts pairs
  refine ⟨parts, ⟨(sorted_withoutControls (gather_ofPairs pairs).sorted).names, fun field => ?_⟩,
    fun field member => ?_, ?_⟩
  · rw [Fields.mem_names_iff, get?_withoutControls]
    by_cases control : field ∈ controlKeys
    · simp [control]
    · rw [if_neg control, get?_ne_none_iff_asks control]
      simp [control]
  · obtain ⟨value, found⟩ := Option.ne_none_iff_exists'.mp (Fields.mem_names_iff.mp member)
    exact (partsOf field value (Fields.mem_of_get? found)).1
  · rw [Fields.names, List.flatMap_map]
    exact congrArg Filter.ofLeaves
      (List.flatMap_congr fun entry member => (partsOf entry.1 entry.2 member).2)

/-- The tests of the client's filter are on the filter fields, and on each of them. -/
theorem mem_fields_userFilter_iff (pairs : List (String × String)) (injected : Filter)
    (field : String) :
    field ∈ (Request.ofParams (Params.ofPairs pairs) injected).userFilter.leaves.map Leaf.field ↔
      field ∈ (Request.ofParams (Params.ofPairs pairs) injected).filterFields := by
  obtain ⟨parts, fields, partsOf, userFilter_eq⟩ := request_constraints pairs injected
  rw [userFilter_eq, Filter.leaves_ofLeaves, List.mem_map]
  constructor
  · rintro ⟨test, member, rfl⟩
    obtain ⟨field, isField, isTest⟩ := List.mem_flatMap.mp member
    rwa [field_of_mem_constraints isTest]
  · intro isField
    have asked := ((fields.mem_iff field).mp isField).2
    obtain ⟨test, isTest⟩ :=
      List.exists_mem_of_ne_nil _ (constraints_ne_nil asked (partsOf field isField))
    exact ⟨test, List.mem_flatMap.mpr ⟨field, isField, isTest⟩, field_of_mem_constraints isTest⟩

open Params in
/-- **The client's filter is the conjunction of the constraints on the fields that are asked for.**
The fields stand in ascending order, and a document is accepted exactly when it satisfies every
constraint. -/
theorem userFilter_eq_constraints (pairs : List (String × String)) (injected : Filter) :
    ∃ (fields : List String) (parts : String → List String),
      (Ascending fields fun field => field ∉ controlKeys ∧ Asks pairs field) ∧
      (∀ field ∈ fields, Ascending (parts field) fun part =>
        AsksWithin pairs field part ∧ ∀ op : RangeOp, op.suffix ≠ part) ∧
      (Request.ofParams (ofPairs pairs) injected).userFilter =
        Filter.allOf ((fields.flatMap fun field =>
          constraints pairs field (parts field)).map Filter.leaf) ∧
      ∀ document, (Request.ofParams (ofPairs pairs) injected).userFilter.accepts document = true ↔
        ∀ field ∈ fields, ∀ test ∈ constraints pairs field (parts field),
          (Filter.leaf test).accepts document = true := by
  obtain ⟨parts, fields, partsOf, userFilter_eq⟩ := request_constraints pairs injected
  refine ⟨_, parts, fields, partsOf, ?_, fun document => ?_⟩
  · rw [userFilter_eq, Filter.allOf, Filter.leavesOf_eq_flatMap, Filter.flatMap_leaves_map_leaf]
  · rw [userFilter_eq, Filter.accepts_iff_leaves, Filter.leaves_ofLeaves]
    simp only [List.mem_flatMap, forall_exists_index, and_imp]
    exact ⟨fun all field member test isTest => all test field member isTest,
      fun all test field member isTest => all field member test isTest⟩

end IndexGuard
