/-
**Which requests the declared indexes cover.**

The rules are said on the declared indexes, without their truncations:

* `Covered`: some index holds the field at a place, and every field up to this place is asked for;
* `Served`: the order names the leading fields of some index in order, all in one direction.

`mem_indexes_iff` says what a catalog holds; `covers_iff_covered` and `serves_iff_served` that the
checks on the catalog decide these rules, and `firstUncovered?_eq_some_iff` which field is refused.
-/

import IndexGuard.Query.Coverage
import Mathlib.Data.List.Basic

namespace IndexGuard

/-- Some index holds the field at a place, with all fields up to this place asked for. -/
def Covered (declared : List Index) (requested : List String) (field : String) : Prop :=
  ∃ index ∈ declared, ∃ place, index[place]? = some field ∧
    ∀ other ∈ index.take (place + 1), other ∈ requested

/-- The order has keys, all of one direction, on the leading fields of some index in order. -/
structure Served (declared : List Index) (order : SortOrder) : Prop where
  nonempty : order ≠ []
  uniform : ∃ direction, ∀ key ∈ order, key.direction = direction
  leading : ∃ index ∈ declared, order.map SortKey.field <+: index

/-- Coverage depends only on which fields are asked for. -/
theorem Covered.congr {declared : List Index} {first second : List String} {field : String}
    (same : ∀ other, other ∈ first ↔ other ∈ second) (covered : Covered declared first field) :
    Covered declared second field := by
  obtain ⟨index, member, place, holds, asked⟩ := covered
  exact ⟨index, member, place, holds, fun other isOther => (same other).mp (asked other isOther)⟩

/-- What is covered stays so when indexes are added. -/
theorem Covered.mono {declared more : List Index} {requested : List String} {field : String}
    (grows : declared ⊆ more) (covered : Covered declared requested field) :
    Covered more requested field := by
  obtain ⟨index, member, place, holds, asked⟩ := covered
  exact ⟨index, grows member, place, holds, asked⟩

/-- What is served stays so when indexes are added. -/
theorem Served.mono {declared more : List Index} {order : SortOrder} (grows : declared ⊆ more)
    (served : Served declared order) : Served more order := by
  obtain ⟨nonempty, uniform, index, member, leading⟩ := served
  exact ⟨nonempty, uniform, index, grows member, leading⟩

namespace Catalog

/-! ### What a catalog holds -/

theorem mem_truncations_iff {index part : Index} :
    part ∈ index.truncations ↔ part ≠ [] ∧ part ≠ index ∧ part <+: index := by
  unfold Index.truncations
  rw [List.mem_map]
  constructor
  · rintro ⟨length, member, rfl⟩
    rw [List.mem_reverse, List.mem_drop_iff_getElem] at member
    obtain ⟨place, bound, rfl⟩ := member
    rw [List.length_range] at bound
    rw [List.getElem_range]
    refine ⟨fun empty => ?_, fun whole => ?_, List.take_prefix _ _⟩
    · have none := congrArg List.length empty
      rw [List.length_take, List.length_nil] at none
      omega
    · have all := congrArg List.length whole
      rw [List.length_take] at all
      omega
  · rintro ⟨nonempty, proper, leading⟩
    have positive : 0 < part.length := List.length_pos_iff.mpr nonempty
    have shorter : part.length < index.length := by
      refine Nat.lt_of_le_of_ne leading.length_le fun same => proper ?_
      exact leading.eq_of_length same
    refine ⟨part.length, ?_, (List.prefix_iff_eq_take.mp leading).symm⟩
    rw [List.mem_reverse, List.mem_drop_iff_getElem]
    refine ⟨part.length - 1, by rw [List.length_range]; omega, ?_⟩
    rw [List.getElem_range]
    omega

/-- The field sequences of a catalog: the indexes that are not empty, then their truncations. -/
theorem indexes_ofDeclared (declared : List Index) :
    (ofDeclared declared).indexes =
      (declared.filter fun index => !index.isEmpty) ++
        (declared.filter fun index => !index.isEmpty).flatMap Index.truncations := by
  unfold indexes ofDeclared
  rw [List.map_append, List.map_map, List.map_flatMap]
  have placed := List.zipIdx_map_fst 0 (declared.filter fun index => !index.isEmpty)
  congr 1
  conv_rhs => rw [← placed, List.flatMap_map]
  refine List.flatMap_congr fun entry _ => ?_
  rw [List.map_map]
  exact List.map_id _

/-- **A catalog holds the leading parts of the declared indexes, without the empty one.** -/
theorem mem_indexes_iff {declared : List Index} {part : Index} :
    part ∈ (ofDeclared declared).indexes ↔ part ≠ [] ∧ ∃ index ∈ declared, part <+: index := by
  rw [indexes_ofDeclared, List.mem_append, List.mem_flatMap, List.mem_filter]
  constructor
  · rintro (⟨member, nonempty⟩ | ⟨index, member, truncated⟩)
    · exact ⟨by simpa using nonempty, part, member, List.prefix_refl part⟩
    · obtain ⟨nonempty, _, leading⟩ := mem_truncations_iff.mp truncated
      exact ⟨nonempty, index, List.mem_of_mem_filter member, leading⟩
  · rintro ⟨nonempty, index, member, leading⟩
    by_cases whole : part = index
    · subst whole
      exact .inl ⟨member, by simpa using nonempty⟩
    · refine .inr ⟨index, List.mem_filter.mpr ⟨member, ?_⟩,
        mem_truncations_iff.mpr ⟨nonempty, whole, leading⟩⟩
      have indexNonempty : index ≠ [] := fun empty => by
        subst empty
        exact nonempty (List.prefix_nil.mp leading)
      simpa using indexNonempty

/-! ### Filter fields -/

/-- A field is covered when it ends an entry of which all fields are asked for. -/
theorem covers_iff_entry {catalog : Catalog} {requested : List String} {field : String}
    (asked : field ∈ requested) (nonempty : [] ∉ catalog.indexes) :
    catalog.covers requested field = true ↔
      ∃ entry ∈ catalog.indexes, entry.getLast? = some field ∧
        ∀ other ∈ entry, other ∈ requested := by
  unfold covers simple compound Index.isSimple
  simp only [Bool.or_eq_true, List.any_eq_true, List.mem_filter, Bool.and_eq_true, beq_iff_eq,
    decide_eq_true_eq, List.all_eq_true, List.contains_iff_mem]
  constructor
  · rintro (⟨entry, ⟨member, single⟩, first⟩ | ⟨entry, ⟨member, _⟩, last, all⟩)
    · obtain ⟨only, rfl⟩ := List.length_eq_one_iff.mp single
      cases first
      exact ⟨[field], member, rfl, fun other isOther => List.mem_singleton.mp isOther ▸ asked⟩
    · exact ⟨entry, member, last, all⟩
  · rintro ⟨entry, member, last, all⟩
    match entry, member, last, all with
    | [], member, _, _ => exact absurd member nonempty
    | [only], member, last, _ => exact .inl ⟨[only], ⟨member, rfl⟩, last⟩
    | first :: second :: rest, member, last, all =>
      exact .inr ⟨first :: second :: rest, ⟨member, by simp⟩, last, all⟩

/-- **The check of a filter field decides its coverage by the declared indexes.** -/
theorem covers_iff_covered {declared : List Index} {requested : List String} {field : String}
    (asked : field ∈ requested) :
    (ofDeclared declared).covers requested field = true ↔ Covered declared requested field := by
  rw [covers_iff_entry asked fun member => (mem_indexes_iff.mp member).1 rfl]
  constructor
  · rintro ⟨entry, member, last, all⟩
    obtain ⟨_, index, declares, leading⟩ := mem_indexes_iff.mp member
    obtain ⟨before, rfl⟩ := List.getLast?_eq_some_iff.mp last
    obtain ⟨rest, rfl⟩ := leading
    refine ⟨_, declares, before.length, ?_, ?_⟩
    · rw [List.append_assoc, List.getElem?_append_right (Nat.le_refl _), Nat.sub_self]
      rfl
    · have length : before.length + 1 = (before ++ [field]).length := by simp
      rw [length, List.take_left']
      · exact all
      · rfl
  · rintro ⟨index, declares, place, holds, all⟩
    have leading : index.take (place + 1) = index.take place ++ [field] := by
      rw [List.take_add_one, holds]
      rfl
    refine ⟨index.take (place + 1), mem_indexes_iff.mpr ⟨?_, index, declares, List.take_prefix _ _⟩,
      ?_, all⟩
    · rw [leading]
      exact List.append_ne_nil_of_right_ne_nil _ (List.cons_ne_nil _ _)
    · rw [leading, List.getLast?_concat]

/-- **The refused field is the first that is not covered.** -/
theorem firstUncovered?_eq_some_iff {declared : List Index} {requested : List String}
    {field : String} :
    (ofDeclared declared).firstUncovered? requested = some field ↔
      ¬ Covered declared requested field ∧ ∃ before after, requested = before ++ field :: after ∧
        ∀ other ∈ before, Covered declared requested other := by
  unfold firstUncovered?
  rw [List.find?_eq_some_iff_append]
  constructor
  · rintro ⟨uncovered, before, after, rfl, all⟩
    have asked : field ∈ before ++ field :: after := by simp
    refine ⟨fun covered => ?_, before, after, rfl, fun other member => ?_⟩
    · rw [(covers_iff_covered asked).mpr covered] at uncovered
      cases uncovered
    · have covered := all other member
      exact (covers_iff_covered (List.mem_append_left _ member)).mp (by simpa using covered)
  · rintro ⟨uncovered, before, after, rfl, all⟩
    have asked : field ∈ before ++ field :: after := by simp
    refine ⟨?_, before, after, rfl, fun other member => ?_⟩
    · simpa using mt (covers_iff_covered asked).mp uncovered
    · simpa using (covers_iff_covered (List.mem_append_left _ member)).mpr (all other member)

theorem firstUncovered?_eq_none_iff {declared : List Index} {requested : List String} :
    (ofDeclared declared).firstUncovered? requested = none ↔
      ∀ field ∈ requested, Covered declared requested field := by
  unfold firstUncovered?
  rw [List.find?_eq_none]
  refine forall₂_congr fun field asked => ?_
  rw [← covers_iff_covered asked]
  simp

end Catalog

/-! ### Orders -/

theorem Direction.flipped_eq_ascending_iff {direction : Direction} :
    direction.flipped = .ascending ↔ direction = .descending := by
  cases direction <;> decide

namespace SortOrder

/-- An index read forward is the order of its fields, all ascending. -/
theorem ofIndex_eq_iff {index : Index} {order : SortOrder} :
    SortOrder.ofIndex index = order ↔
      order.map SortKey.field = index ∧ ∀ key ∈ order, key.direction = .ascending := by
  unfold SortOrder.ofIndex
  constructor
  · rintro rfl
    refine ⟨?_, fun key member => ?_⟩
    · rw [List.map_map]
      exact List.map_id index
    · obtain ⟨field, _, rfl⟩ := List.mem_map.mp member
      rfl
  · rintro ⟨rfl, ascending⟩
    rw [List.map_map]
    refine (List.map_congr_left fun key member => ?_).trans (List.map_id order)
    rw [Function.comp_apply, ← ascending key member]
    rfl

/-- An index read forward is the reverse of the order of its fields, all descending. -/
theorem ofIndex_eq_reversed_iff {index : Index} {order : SortOrder} :
    SortOrder.ofIndex index = order.reversed ↔
      order.map SortKey.field = index ∧ ∀ key ∈ order, key.direction = .descending := by
  have sameFields : order.reversed.map SortKey.field = order.map SortKey.field := by
    rw [SortOrder.reversed, List.map_map]
    rfl
  rw [ofIndex_eq_iff, sameFields]
  refine and_congr_right fun _ => ?_
  unfold SortOrder.reversed
  rw [List.forall_mem_map]
  exact forall₂_congr fun key _ => Direction.flipped_eq_ascending_iff

end SortOrder

namespace Catalog

/-- **The check of an order decides whether a declared index serves it.** -/
theorem serves_iff_served {declared : List Index} {order : SortOrder} :
    (ofDeclared declared).serves order = true ↔ Served declared order := by
  unfold serves
  simp only [Bool.and_eq_true, Bool.not_eq_true', List.isEmpty_eq_false_iff, List.any_eq_true,
    Bool.or_eq_true, beq_iff_eq, SortOrder.ofIndex_eq_reversed_iff]
  simp only [SortOrder.ofIndex_eq_iff]
  constructor
  · rintro ⟨nonempty, index, member, read⟩
    obtain ⟨_, declaredIndex, declares, leading⟩ := mem_indexes_iff.mp member
    rcases read with ⟨rfl, ascending⟩ | ⟨rfl, descending⟩
    · exact ⟨nonempty, ⟨_, ascending⟩, declaredIndex, declares, leading⟩
    · exact ⟨nonempty, ⟨_, descending⟩, declaredIndex, declares, leading⟩
  · rintro ⟨nonempty, ⟨direction, uniform⟩, index, declares, leading⟩
    refine ⟨nonempty, order.map SortKey.field,
      mem_indexes_iff.mpr ⟨?_, index, declares, leading⟩, ?_⟩
    · simpa using nonempty
    · cases direction with
      | ascending => exact .inl ⟨rfl, uniform⟩
      | descending => exact .inr ⟨rfl, uniform⟩

end Catalog

end IndexGuard
