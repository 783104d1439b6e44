/-
**A filter is the conjunction of its leaves.**

* `leaves_allOf`, `leaves_both`: conjunctions list the leaves of their parts in order;
* `compile?_eq_leaves`: reading the patterns of a filter and of the flat list of its leaves gives
  the same test, or the same fault, so filters with the same leaves read alike (`compile?_congr`);
* `Readable`, `readable_iff`: a filter can be read exactly when all its leaves can, so a conjunction
  can be read exactly when its parts can;
* `accepts_iff_leaves`: a document passes exactly when it passes all leaves, readable or not.
-/

import IndexGuard.Filter.Match

namespace IndexGuard.Filter

open Regex (PatternError)

/-! ### The leaves of conjunctions -/

theorem leavesOf_eq_flatMap (filters : List Filter) :
    leavesOf filters = filters.flatMap leaves := by
  induction filters with
  | nil => rfl
  | cons clause rest ih => rw [leavesOf, List.flatMap_cons, ih]

@[simp] theorem leaves_leaf (test : Leaf) : (leaf test).leaves = [test] := rfl

@[simp] theorem leaves_all (clauses : List Filter) :
    (all clauses).leaves = clauses.flatMap leaves :=
  leavesOf_eq_flatMap clauses

@[simp] theorem flatMap_leaves_map_leaf (tests : List Leaf) :
    (tests.map leaf).flatMap leaves = tests := by
  induction tests with
  | nil => rfl
  | cons test rest ih =>
    rw [List.map_cons, List.flatMap_cons, ih, leaves_leaf, List.singleton_append]

@[simp] theorem leaves_ofLeaves (tests : List Leaf) : (ofLeaves tests).leaves = tests := by
  unfold ofLeaves
  split
  · rfl
  · rw [leaves_all, flatMap_leaves_map_leaf]

@[simp] theorem leaves_allOf (filters : List Filter) :
    (allOf filters).leaves = filters.flatMap leaves := by
  rw [allOf, leaves_ofLeaves, leavesOf_eq_flatMap]

/-- The conjunction of two filters lists the leaves of the first before those of the second. -/
@[simp] theorem leaves_both (first second : Filter) :
    (both first second).leaves = first.leaves ++ second.leaves := by
  rw [both, leaves_all, flatMap_leaves_map_leaf]

/-! ### Reading the patterns -/

/-- Both of two tests, or the first fault. -/
def conjoin? (first second : Except PatternError (Json → Bool)) :
    Except PatternError (Json → Bool) :=
  match first with
  | .error fault => .error fault
  | .ok passes =>
    match second with
    | .error fault => .error fault
    | .ok others => .ok fun document => passes document && others document

theorem compileAll?_cons (clause : Filter) (rest : List Filter) :
    compileAll? (clause :: rest) = conjoin? clause.compile? (compileAll? rest) := rfl

theorem compile?_all (clauses : List Filter) : (all clauses).compile? = compileAll? clauses := rfl

theorem conjoin?_true (first : Except PatternError (Json → Bool)) :
    conjoin? first (.ok fun _ => true) = first := by
  cases first with
  | error fault => rfl
  | ok passes => simp only [conjoin?, Bool.and_true]

theorem conjoin?_assoc (first second third : Except PatternError (Json → Bool)) :
    conjoin? (conjoin? first second) third = conjoin? first (conjoin? second third) := by
  cases first with
  | error fault => rfl
  | ok passes =>
    cases second with
    | error fault => rfl
    | ok others =>
      cases third with
      | error fault => rfl
      | ok last => simp only [conjoin?, Bool.and_assoc]

theorem compileAll?_append (first second : List Filter) :
    compileAll? (first ++ second) = conjoin? (compileAll? first) (compileAll? second) := by
  induction first with
  | nil =>
    rw [List.nil_append]
    cases compileAll? second <;> rfl
  | cons clause rest ih =>
    rw [List.cons_append, compileAll?_cons, compileAll?_cons, ih, conjoin?_assoc]

mutual

/-- **A filter reads as the flat list of its leaves.** -/
theorem compile?_eq_leaves (filter : Filter) :
    filter.compile? = compileAll? (filter.leaves.map leaf) := by
  cases filter with
  | leaf test => exact (conjoin?_true _).symm
  | all clauses => exact compileAll?_eq_leaves clauses

theorem compileAll?_eq_leaves (clauses : List Filter) :
    compileAll? clauses = compileAll? ((leavesOf clauses).map leaf) := by
  cases clauses with
  | nil => rfl
  | cons clause rest =>
    rw [compileAll?_cons, leavesOf, List.map_append, compileAll?_append,
      compile?_eq_leaves clause, compileAll?_eq_leaves rest]

end

/-- Filters with the same leaves read alike. -/
theorem compile?_congr {first second : Filter} (same : first.leaves = second.leaves) :
    first.compile? = second.compile? := by
  rw [compile?_eq_leaves first, compile?_eq_leaves second, same]

/-- All patterns of the filter can be read. -/
def Readable (filter : Filter) : Prop := ∃ accepts, filter.compile? = .ok accepts

/-- **A filter can be read exactly when all its leaves can.** -/
theorem readable_iff (filter : Filter) :
    filter.Readable ↔ ∀ test ∈ filter.leaves, (leaf test).Readable := by
  unfold Readable
  rw [compile?_eq_leaves]
  induction filter.leaves with
  | nil => simp [compileAll?]
  | cons test rest ih =>
    rw [List.map_cons, compileAll?_cons, List.forall_mem_cons, ← ih]
    cases (leaf test).compile? with
    | error fault => simp [conjoin?]
    | ok passes => cases compileAll? (rest.map leaf) <;> simp [conjoin?]

theorem readable_allOf_iff (filters : List Filter) :
    (allOf filters).Readable ↔ ∀ clause ∈ filters, clause.Readable := by
  rw [readable_iff, leaves_allOf]
  constructor
  · intro all clause member
    exact (readable_iff clause).mpr fun test isTest =>
      all test (List.mem_flatMap_of_mem member isTest)
  · intro all test isTest
    obtain ⟨clause, member, isTest⟩ := List.mem_flatMap.mp isTest
    exact (readable_iff clause).mp (all clause member) test isTest

theorem readable_both_iff (first second : Filter) :
    (both first second).Readable ↔ first.Readable ∧ second.Readable := by
  rw [readable_iff, leaves_both, List.forall_mem_append, ← readable_iff, ← readable_iff]

theorem readable_equals (field : String) (value : Json) : (equals field value).Readable := ⟨_, rfl⟩

theorem readable_range (field : String) (op : RangeOp) (bound : Json) :
    (range field op bound).Readable := ⟨_, rfl⟩

theorem readable_pattern_iff (field source : String) (ignoreCase : Bool) :
    (pattern field source ignoreCase).Readable ↔
      ∃ regex, Regex.Pattern.read? ignoreCase source = .ok regex := by
  show (∃ accepts, ((Regex.Pattern.read? ignoreCase source).map _).map _ = .ok accepts) ↔ _
  cases Regex.Pattern.read? ignoreCase source with
  | error fault => simp [Except.map]
  | ok regex => simp [Except.map]

/-! ### Accepting documents -/

theorem accepts_of_compile? {filter : Filter} {accepts : Json → Bool}
    (read : filter.compile? = .ok accepts) (document : Json) :
    filter.accepts document = accepts document := by
  rw [Filter.accepts, read]

theorem accepts_eq_leaves (filter : Filter) (document : Json) :
    filter.accepts document = (all (filter.leaves.map leaf)).accepts document := by
  rw [Filter.accepts, Filter.accepts, compile?_eq_leaves, compile?_all]

/-- **Filters with the same leaves accept the same documents.** -/
theorem accepts_congr {first second : Filter} (same : first.leaves = second.leaves)
    (document : Json) : first.accepts document = second.accepts document := by
  rw [Filter.accepts, Filter.accepts, compile?_congr same]

theorem accepts_all_cons (clause : Filter) (rest : List Filter) (document : Json) :
    (all (clause :: rest)).accepts document =
      (clause.accepts document && (all rest).accepts document) := by
  simp only [Filter.accepts, compile?_all, compileAll?_cons]
  cases clause.compile? with
  | error fault => rfl
  | ok passes => cases compileAll? rest <;> simp [conjoin?]

/-- **A document passes a filter exactly when it passes all its leaves.** -/
theorem accepts_iff_leaves (filter : Filter) (document : Json) :
    filter.accepts document = true ↔
      ∀ test ∈ filter.leaves, (leaf test).accepts document = true := by
  rw [accepts_eq_leaves]
  induction filter.leaves with
  | nil => simp [Filter.accepts, compile?_all, compileAll?]
  | cons test rest ih =>
    rw [List.map_cons, accepts_all_cons, Bool.and_eq_true, ih, List.forall_mem_cons]

end IndexGuard.Filter
