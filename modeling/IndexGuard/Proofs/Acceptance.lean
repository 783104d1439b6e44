/-
**What the check of filter fields accepts.**

* `checkFilter_eq_ok_iff`, `checkFilter_eq_error_iff`: the check passes when all fields are covered,
  and otherwise names the first one that is not;
* `UnionOfLeading`, `unionOfLeading_iff`: all fields are covered exactly when together they are the
  fields of some leading parts of declared indexes;
* `checkFilter_unionOfLeading`: so the verdict is one on the set of fields, whatever the indexes.
-/

import IndexGuard.Proofs.Coverage
import IndexGuard.Query.ListQuery
import Mathlib.Data.List.Infix

namespace IndexGuard

/-- The requested fields are together the fields of some leading parts of declared indexes. -/
def UnionOfLeading (declared : List Index) (requested : List String) : Prop :=
  ∃ parts : List Index, (∀ part ∈ parts, ∃ index ∈ declared, part <+: index) ∧
    ∀ field, field ∈ requested ↔ ∃ part ∈ parts, field ∈ part

variable {declared : List Index} {requested : List String}

/-! ### Leading parts -/

/-- Every field of a leading part that is asked for as a whole is covered. -/
theorem Covered.of_leading {part index : Index} {field : String} (declares : index ∈ declared)
    (leading : part <+: index) (asked : ∀ other ∈ part, other ∈ requested)
    (member : field ∈ part) : Covered declared requested field := by
  obtain ⟨place, inside, holds⟩ := List.getElem_of_mem member
  obtain ⟨rest, rfl⟩ := leading
  refine ⟨_, declares, place, ?_, fun other isOther => asked other ?_⟩
  · rw [List.getElem?_append_left inside, List.getElem?_eq_getElem inside, holds]
  · rw [List.take_append_of_le_length (by omega)] at isOther
    exact List.mem_of_mem_take isOther

/-- A covered field ends a leading part that is asked for as a whole. -/
theorem Covered.exists_leading {field : String} (covered : Covered declared requested field) :
    ∃ index ∈ declared, ∃ part, part <+: index ∧ field ∈ part ∧
      ∀ other ∈ part, other ∈ requested := by
  obtain ⟨index, declares, place, holds, asked⟩ := covered
  refine ⟨index, declares, index.take (place + 1), List.take_prefix _ _, ?_, asked⟩
  rw [List.take_add_one, holds]
  exact List.mem_append_right _ (List.mem_singleton_self field)

/-- **All fields are covered exactly when they make up leading parts of indexes.** -/
theorem unionOfLeading_iff : UnionOfLeading declared requested ↔
    ∀ field ∈ requested, Covered declared requested field := by
  constructor
  · rintro ⟨parts, leading, together⟩ field member
    obtain ⟨part, isPart, holds⟩ := (together field).mp member
    obtain ⟨index, declares, isLeading⟩ := leading part isPart
    have asked : ∀ other ∈ part, other ∈ requested := fun other isOther =>
      (together other).mpr ⟨part, isPart, isOther⟩
    exact .of_leading declares isLeading asked holds
  · intro covered
    -- The leading parts that are asked for as a whole are enough.
    refine ⟨(declared.flatMap List.inits).filter fun part => ∀ other ∈ part, other ∈ requested,
      fun part isPart => ?_, fun field => ⟨fun member => ?_, ?_⟩⟩
    · obtain ⟨index, declares, isLeading⟩ := List.mem_flatMap.mp (List.mem_of_mem_filter isPart)
      exact ⟨index, declares, (List.mem_inits _ _).mp isLeading⟩
    · obtain ⟨index, declares, part, leading, holds, asked⟩ :=
        (covered field member).exists_leading
      refine ⟨part, List.mem_filter.mpr ⟨?_, by simpa using asked⟩, holds⟩
      exact List.mem_flatMap.mpr ⟨index, declares, (List.mem_inits _ _).mpr leading⟩
    · rintro ⟨part, isPart, holds⟩
      have asked : ∀ other ∈ part, other ∈ requested := by
        simpa using (List.mem_filter.mp isPart).2
      exact asked field holds

/-! ### The check -/

namespace Catalog

theorem checkFilter_eq_ok_iff : (ofDeclared declared).checkFilter requested = .ok () ↔
    ∀ field ∈ requested, Covered declared requested field := by
  rw [← firstUncovered?_eq_none_iff, checkFilter]
  cases (ofDeclared declared).firstUncovered? requested with
  | none => simp
  | some field => simp

theorem checkFilter_eq_error_iff {error : QueryError} :
    (ofDeclared declared).checkFilter requested = .error error ↔
      ∃ field, error = .filterNotIndexed field ∧
        (ofDeclared declared).firstUncovered? requested = some field := by
  rw [checkFilter]
  cases (ofDeclared declared).firstUncovered? requested with
  | none => simp
  | some field => simp [eq_comm]

/-- **Filters are covered by unions of leading parts.** For any declared indexes and any list of
requested fields:

* the check passes exactly when the fields make up leading parts of declared indexes, that is, when
  each lies in a declared index behind fields that are all requested;
* in any order and with any repetitions, the same fields get the same verdict;
* when the check fails, it names the first field in the list that lies in no index in this way.
-/
theorem checkFilter_unionOfLeading (declared : List Index) (requested : List String) :
    ((ofDeclared declared).checkFilter requested = .ok () ↔ UnionOfLeading declared requested) ∧
    ((ofDeclared declared).checkFilter requested = .ok () ↔
      ∀ field ∈ requested, Covered declared requested field) ∧
    (∀ other : List String, (∀ field, field ∈ other ↔ field ∈ requested) →
      ((ofDeclared declared).checkFilter other = .ok () ↔
        (ofDeclared declared).checkFilter requested = .ok ())) ∧
    ∀ error, (ofDeclared declared).checkFilter requested = .error error ↔
      ∃ field before after, error = .filterNotIndexed field ∧
        requested = before ++ field :: after ∧ ¬ Covered declared requested field ∧
        ∀ other ∈ before, Covered declared requested other := by
  refine ⟨?_, checkFilter_eq_ok_iff, fun other same => ?_, fun error => ?_⟩
  · rw [checkFilter_eq_ok_iff, unionOfLeading_iff]
  · rw [checkFilter_eq_ok_iff, checkFilter_eq_ok_iff]
    constructor
    · exact fun covered field member =>
        (covered field ((same field).mpr member)).congr fun other => same other
    · exact fun covered field member =>
        (covered field ((same field).mp member)).congr fun other => (same other).symm
  · rw [checkFilter_eq_error_iff]
    simp only [firstUncovered?_eq_some_iff]
    constructor
    · rintro ⟨field, rfl, uncovered, before, after, split, covered⟩
      exact ⟨field, before, after, rfl, split, uncovered, covered⟩
    · rintro ⟨field, before, after, rfl, split, uncovered, covered⟩
      exact ⟨field, rfl, uncovered, before, after, split, covered⟩

end Catalog

end IndexGuard
