/-
**Conjunction means conjunction.**

* `accepts_all_iff`, `accepts_allOf_iff`, `accepts_both_iff`: a conjunction accepts what all its
  parts accept, whether it is flattened or not, and whether their patterns can be read or not;
* `Unnests`: one conjunction inside a filter gives way to its clauses. `accepts_of_unnests`: no
  number of such steps changes what is accepted;
* `unnests_allOf`, `unnests_both`: the flat conjunctions are reached by such steps;
* `exists_refused`: every test refuses some object, so that a filter accepts every document exactly
  when it is empty (`isEmpty_iff`).
-/

import IndexGuard.Proofs.Conjunction
import IndexGuard.Proofs.Fields
import Mathlib.Logic.Relation

namespace IndexGuard.Filter

open Relation (ReflTransGen)

variable {document : Json}

/-! ### Conjunctions -/

theorem accepts_flatMap_iff (filters : List Filter) :
    (∀ test ∈ filters.flatMap leaves, (leaf test).accepts document = true) ↔
      ∀ clause ∈ filters, clause.accepts document = true := by
  constructor
  · intro passes clause member
    exact (accepts_iff_leaves clause document).mpr fun test isTest =>
      passes test (List.mem_flatMap_of_mem member isTest)
  · intro passes test isTest
    obtain ⟨clause, member, isTest⟩ := List.mem_flatMap.mp isTest
    exact (accepts_iff_leaves clause document).mp (passes clause member) test isTest

/-- **A conjunction accepts what all its clauses accept.** -/
theorem accepts_all_iff (clauses : List Filter) :
    (all clauses).accepts document = true ↔ ∀ clause ∈ clauses, clause.accepts document = true := by
  rw [accepts_iff_leaves, leaves_all, accepts_flatMap_iff]

/-- **So does the flat conjunction.** -/
theorem accepts_allOf_iff (filters : List Filter) :
    (allOf filters).accepts document = true ↔ ∀ clause ∈ filters, clause.accepts document = true
    := by
  rw [accepts_iff_leaves, leaves_allOf, accepts_flatMap_iff]

/-- **The conjunction of two filters accepts what both accept.** -/
theorem accepts_both_iff (first second : Filter) :
    (both first second).accepts document = true ↔
      first.accepts document = true ∧ second.accepts document = true := by
  rw [accepts_iff_leaves, leaves_both, List.forall_mem_append, ← accepts_iff_leaves,
    ← accepts_iff_leaves]

/-! ### Flattening -/

/-- A filter with one conjunction less: one that is a clause of another gives way to its own
clauses, or one of a single clause to this clause, at any depth. -/
inductive Unnests : Filter → Filter → Prop
  | lift (before inner behind : List Filter) :
      Unnests (all (before ++ all inner :: behind)) (all (before ++ (inner ++ behind)))
  | only (clause : Filter) : Unnests (all [clause]) clause
  | inside {clause other : Filter} (before behind : List Filter) : Unnests clause other →
      Unnests (all (before ++ clause :: behind)) (all (before ++ other :: behind))

/-- One step leaves the tests as they are. -/
theorem Unnests.leaves_eq {nested flatter : Filter} (unnests : Unnests nested flatter) :
    flatter.leaves = nested.leaves := by
  induction unnests with
  | lift before inner behind => simp
  | only clause => simp
  | inside before behind _ ih => simp [ih]

/-- So do steps in turn. -/
theorem leaves_of_unnests {nested flatter : Filter} (steps : ReflTransGen Unnests nested flatter) :
    flatter.leaves = nested.leaves := by
  induction steps with
  | refl => rfl
  | tail _ step ih => rw [step.leaves_eq, ih]

/-- **Flattening never changes what is accepted.** -/
theorem accepts_of_unnests {nested flatter : Filter} (steps : ReflTransGen Unnests nested flatter)
    (document : Json) : flatter.accepts document = nested.accepts document :=
  accepts_congr (leaves_of_unnests steps) document

mutual

/-- A clause gives way to its tests. -/
theorem unnests_clause (clause : Filter) (before : List Leaf) (behind : List Filter) :
    ReflTransGen Unnests (all (before.map leaf ++ clause :: behind))
      (all ((before ++ clause.leaves).map leaf ++ behind)) := by
  match clause with
  | leaf test =>
    have same : before.map leaf ++ leaf test :: behind =
        (before ++ (leaf test).leaves).map leaf ++ behind := by simp
    rw [same]
  | all inner =>
    exact .head (.lift (before.map leaf) inner behind) (unnests_clauses inner before behind)

/-- Clauses give way to their tests, the first of them first. -/
theorem unnests_clauses (clauses : List Filter) (before : List Leaf) (behind : List Filter) :
    ReflTransGen Unnests (all (before.map leaf ++ (clauses ++ behind)))
      (all ((before ++ leavesOf clauses).map leaf ++ behind)) := by
  match clauses with
  | [] => rw [leavesOf, List.append_nil, List.nil_append]
  | clause :: rest =>
    rw [leavesOf, ← List.append_assoc before, List.cons_append]
    exact .trans (unnests_clause clause before (rest ++ behind))
      (unnests_clauses rest (before ++ clause.leaves) behind)

end

theorem unnests_leaves (clauses : List Filter) :
    ReflTransGen Unnests (all clauses) (all ((leavesOf clauses).map leaf)) := by
  simpa using unnests_clauses clauses [] []

/-- **The flat conjunction of filters is their conjunction flattened.** -/
theorem unnests_allOf (filters : List Filter) :
    ReflTransGen Unnests (all filters) (allOf filters) := by
  have flat := unnests_leaves filters
  unfold allOf ofLeaves
  split
  · rename_i test single
    rw [single] at flat
    exact flat.tail (.only (leaf test))
  · exact flat

/-- **The conjunction of two filters is flattened alike.** -/
theorem unnests_both (first second : Filter) :
    ReflTransGen Unnests (all [first, second]) (both first second) := by
  have flat := unnests_leaves [first, second]
  rwa [leavesOf, leavesOf, leavesOf, List.append_nil] at flat

/-! ### Filters that accept everything -/

/-- **Every test refuses some object.** -/
theorem exists_refused (test : Leaf) :
    ∃ fields : Fields Json, fields.Sorted ∧ (leaf test).accepts (.object fields) = false := by
  obtain ⟨field, asked⟩ := test
  have empty : Fields.Sorted ([] : Fields Json) := Fields.sorted_nil
  cases asked with
  | equals query =>
    -- A missing field equals `null` and nothing else.
    by_cases isNull : query = .null
    · subst isNull
      refine ⟨[(field, .bool true)], List.pairwise_singleton _ _, ?_⟩
      show Test.equalsPasses .null (Fields.get? [(field, .bool true)] field) = false
      rw [Fields.get?_cons, if_pos rfl]
      rfl
    · refine ⟨[], empty, ?_⟩
      show query.same .null = false
      cases query with
      | null => exact absurd rfl isNull
      | _ => rfl
  | range op bound => exact ⟨[], empty, rfl⟩
  | pattern source ignoreCase =>
    refine ⟨[], empty, ?_⟩
    cases read : Regex.Pattern.read? ignoreCase source <;>
      simp [Filter.accepts, compile?, Leaf.compile?, Test.compile?, read, Except.map, Json.get?,
        Test.regexPasses]

/-- A filter that is not empty refuses some object. -/
theorem exists_refused_of_not_isEmpty {filter : Filter} (tests : filter.isEmpty = false) :
    ∃ fields : Fields Json, fields.Sorted ∧ filter.accepts (.object fields) = false := by
  unfold isEmpty at tests
  obtain ⟨test, member⟩ := List.exists_mem_of_ne_nil filter.leaves (by simpa using tests)
  obtain ⟨fields, sorted, refused⟩ := exists_refused test
  refine ⟨fields, sorted, ?_⟩
  by_contra passes
  rw [Bool.not_eq_false, accepts_iff_leaves] at passes
  rw [passes test member] at refused
  cases refused

/-- **A filter accepts every document exactly when it is empty.** -/
theorem isEmpty_iff (filter : Filter) :
    filter.isEmpty = true ↔ ∀ document, filter.accepts document = true := by
  constructor
  · intro empty document
    rw [accepts_iff_leaves, List.isEmpty_iff.mp empty]
    exact List.forall_mem_nil _
  · intro passes
    by_contra tests
    rw [Bool.not_eq_true] at tests
    obtain ⟨fields, _, refused⟩ := exists_refused_of_not_isEmpty tests
    rw [passes] at refused
    cases refused

/-- **Conjunction means conjunction**, whether patterns can be read or not.

* The conjunction of two filters accepts a document when both do, and that of a list of filters when
  all do, flattened or not.
* Steps that take away conjunctions inside a filter, at any depth and in any order, never change
  what it accepts, and flat conjunctions are reached by such steps.
* A filter is empty exactly when it accepts every document; if not, it refuses some object.
-/
theorem accepts_conjunctions :
    (∀ (first second : Filter) (document : Json), (both first second).accepts document = true ↔
      first.accepts document = true ∧ second.accepts document = true) ∧
    (∀ (filters : List Filter) (document : Json),
      ((allOf filters).accepts document = true ↔
        ∀ clause ∈ filters, clause.accepts document = true) ∧
      ((all filters).accepts document = true ↔
        ∀ clause ∈ filters, clause.accepts document = true)) ∧
    (∀ nested flatter : Filter, ReflTransGen Unnests nested flatter →
      ∀ document, flatter.accepts document = nested.accepts document) ∧
    (∀ filters, ReflTransGen Unnests (all filters) (allOf filters)) ∧
    (∀ first second, ReflTransGen Unnests (all [first, second]) (both first second)) ∧
    ∀ filter : Filter,
      (filter.isEmpty = true ↔ ∀ document, filter.accepts document = true) ∧
      (filter.isEmpty = false →
        ∃ fields : Fields Json, fields.Sorted ∧ filter.accepts (.object fields) = false) :=
  ⟨fun first second _ => accepts_both_iff first second,
    fun filters _ => ⟨accepts_allOf_iff filters, accepts_all_iff filters⟩,
    fun _ _ => accepts_of_unnests, unnests_allOf, unnests_both,
    fun filter => ⟨isEmpty_iff filter, exists_refused_of_not_isEmpty⟩⟩

/-- A nested filter with a pattern that cannot be read, which stays as it is when the empty
conjunction and the one around a single clause inside it are taken away. -/
theorem accepts_conjunctions_books :
    ∃ (nested flatter : Filter) (dune : Json), ReflTransGen Unnests nested flatter ∧
      nested = all [all [equals "title" (.string "Dune")], all [], pattern "title" "(" true] ∧
      flatter = all [equals "title" (.string "Dune"), pattern "title" "(" true] ∧
      (equals "title" (.string "Dune")).accepts dune = true ∧
      flatter.accepts dune = nested.accepts dune ∧ flatter.accepts dune = false := by
  let title : Filter := equals "title" (.string "Dune")
  let dune : Json := .object [("title", .string "Dune")]
  have first : Unnests (all [all [title], all [], pattern "title" "(" true])
      (all [title, all [], pattern "title" "(" true]) :=
    .inside [] [all [], pattern "title" "(" true] (.only title)
  have second : Unnests (all [title, all [], pattern "title" "(" true])
      (all [title, pattern "title" "(" true]) :=
    .lift [title] [] [pattern "title" "(" true]
  have steps := ReflTransGen.tail (.single first) second
  obtain ⟨_, _, unchanged, _⟩ := accepts_conjunctions
  exact ⟨_, _, dune, steps, rfl, rfl, rfl, unchanged _ _ steps dune, rfl⟩

end IndexGuard.Filter
