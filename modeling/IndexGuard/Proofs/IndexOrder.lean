/-
**Orders in which an index is read.**

* `Misreads`, `misreads_iff`: the ways in which an order does not go with an index, and that there
  are no others;
* `served_iff_reads`, `not_served_iff`: the orders that are served read a leading part of an index
  forward or backward, and all others are empty or misread every index;
* `checkSort_eq_ok_iff`, `checkSort_eq_error_iff`: the check passes the orders that are served, as
  they are, and refuses all others by their text;
* `checkSort_reads_index` puts all of this together.
-/

import IndexGuard.Proofs.Coverage
import IndexGuard.Query.ListQuery
import Mathlib.Data.List.Infix

namespace IndexGuard

/-- The ways in which an order misreads an index. -/
inductive Misreads (index : Index) (order : SortOrder) : Prop
  /-- Some keys are turned round and others are not. -/
  | mixed {first second : SortKey} : first ∈ order → second ∈ order →
      first.direction ≠ second.direction → Misreads index order
  /-- The order goes on behind the last field of the index. -/
  | overlong : index.length < order.length → Misreads index order
  /-- The order has a field where the index has another one, which it skips or takes later. -/
  | displaced {before rest after : List String} {asked other : String} :
      order.map SortKey.field = before ++ asked :: rest → index = before ++ other :: after →
      asked ≠ other → Misreads index order

variable {declared : List Index} {index part : Index} {order : SortOrder}

/-! ### Misreading an index -/

/-- A list that does not lead another one, and is not longer, differs from it at some place. -/
theorem exists_displaced {Item : Type} {first second : List Item}
    (short : first.length ≤ second.length) (astray : ¬ first <+: second) :
    ∃ before asked rest other after, first = before ++ asked :: rest ∧
      second = before ++ other :: after ∧ asked ≠ other := by
  induction first generalizing second with
  | nil => exact absurd (List.nil_prefix) astray
  | cons asked rest ih =>
    cases second with
    | nil => exact absurd short (Nat.not_succ_le_zero _)
    | cons other after =>
      by_cases same : asked = other
      · subst same
        have behind : ¬ rest <+: after := fun leads =>
          astray (List.cons_prefix_cons.mpr ⟨rfl, leads⟩)
        obtain ⟨before, asked', rest', other', after', rfl, rfl, different⟩ :=
          ih (Nat.le_of_succ_le_succ short) behind
        exact ⟨asked :: before, asked', rest', other', after', rfl, rfl, different⟩
      · exact ⟨[], asked, rest, other, after, rfl, rfl, same⟩

/-- **An order misreads an index exactly when its directions differ or its fields do not lead.** -/
theorem misreads_iff : Misreads index order ↔
    (∃ first ∈ order, ∃ second ∈ order, first.direction ≠ second.direction) ∨
      ¬ order.map SortKey.field <+: index := by
  constructor
  · intro misreads
    cases misreads with
    | mixed isFirst isSecond different => exact .inl ⟨_, isFirst, _, isSecond, different⟩
    | overlong long =>
      refine .inr fun leads => ?_
      have short := leads.length_le
      rw [List.length_map] at short
      omega
    | displaced fields isIndex different =>
      refine .inr fun leads => different ?_
      rw [fields, isIndex, List.prefix_append_right_inj, List.cons_prefix_cons] at leads
      exact leads.1
  · rintro (⟨first, isFirst, second, isSecond, different⟩ | astray)
    · exact .mixed isFirst isSecond different
    · by_cases long : index.length < order.length
      · exact .overlong long
      · have short : (order.map SortKey.field).length ≤ index.length := by
          rw [List.length_map]
          omega
        obtain ⟨_, _, _, _, _, fields, isIndex, different⟩ := exists_displaced short astray
        exact .displaced fields isIndex different

/-- **The fields of a leading part in another sequence misread the index.** -/
theorem Misreads.of_permuted (leading : part <+: index)
    (permuted : (order.map SortKey.field).Perm part) (other : order.map SortKey.field ≠ part) :
    Misreads index order := by
  refine misreads_iff.mpr (.inr fun leads => other ?_)
  have comparable := List.prefix_of_prefix_length_le leads leading permuted.length_eq.le
  exact comparable.eq_of_length permuted.length_eq

/-! ### Orders that are served -/

/-- The directions of an order are not all the same exactly when two of them differ. -/
theorem not_uniform_iff : (¬ ∃ direction, ∀ key ∈ order, key.direction = direction) ↔
    ∃ first ∈ order, ∃ second ∈ order, first.direction ≠ second.direction := by
  constructor
  · intro mixed
    by_contra uniform
    push Not at uniform
    cases order with
    | nil => exact mixed ⟨.ascending, fun _ member => absurd member List.not_mem_nil⟩
    | cons key rest =>
      exact mixed ⟨key.direction, fun other member => uniform other member key List.mem_cons_self⟩
  · rintro ⟨first, isFirst, second, isSecond, different⟩ ⟨direction, uniform⟩
    exact different ((uniform first isFirst).trans (uniform second isSecond).symm)

/-- **What is not served is empty or misreads every index.** -/
theorem not_served_iff :
    ¬ Served declared order ↔ order = [] ∨ ∀ index ∈ declared, Misreads index order := by
  simp only [misreads_iff, ← not_uniform_iff]
  constructor
  · intro unserved
    by_contra served
    push Not at served
    obtain ⟨nonempty, index, declares, uniform, leads⟩ := served
    exact unserved ⟨nonempty, uniform, index, declares, leads⟩
  · rintro misread ⟨nonempty, uniform, index, declares, leads⟩
    rcases misread with empty | misread
    · exact nonempty empty
    · rcases misread index declares with mixed | astray
      · exact mixed uniform
      · exact astray leads

/-- **What is served reads a leading part of an index, forward or backward.** -/
theorem served_iff_reads : Served declared order ↔
    order ≠ [] ∧ ∃ index ∈ declared, ∃ part, part <+: index ∧
      (order = SortOrder.ofIndex part ∨ order.reversed = SortOrder.ofIndex part) := by
  constructor
  · rintro ⟨nonempty, ⟨direction, uniform⟩, index, declares, leading⟩
    refine ⟨nonempty, index, declares, _, leading, ?_⟩
    cases direction with
    | ascending => exact .inl (SortOrder.ofIndex_eq_iff.mpr ⟨rfl, uniform⟩).symm
    | descending => exact .inr (SortOrder.ofIndex_eq_reversed_iff.mpr ⟨rfl, uniform⟩).symm
  · rintro ⟨nonempty, index, declares, part, leading, reads⟩
    rcases reads with forward | backward
    · obtain ⟨rfl, ascending⟩ := SortOrder.ofIndex_eq_iff.mp forward.symm
      exact ⟨nonempty, ⟨_, ascending⟩, index, declares, leading⟩
    · obtain ⟨rfl, descending⟩ := SortOrder.ofIndex_eq_reversed_iff.mp backward.symm
      exact ⟨nonempty, ⟨_, descending⟩, index, declares, leading⟩

/-! ### The check -/

namespace Catalog

variable {tokens : List String}

/-- **The check passes an order that is served, as it is.** -/
theorem checkSort_eq_ok_iff : (ofDeclared declared).checkSort tokens = .ok order ↔
    order = SortOrder.ofTokens tokens ∧ Served declared order := by
  rw [checkSort, ← serves_iff_served]
  by_cases serves : (ofDeclared declared).serves (SortOrder.ofTokens tokens) = true
  · rw [if_pos serves]
    constructor
    · intro passed
      cases passed
      exact ⟨rfl, serves⟩
    · rintro ⟨rfl, _⟩
      rfl
  · rw [if_neg serves]
    constructor
    · intro passed
      cases passed
    · rintro ⟨rfl, again⟩
      exact absurd again serves

/-- **The check refuses an order that is not served, by its text.** -/
theorem checkSort_eq_error_iff {error : QueryError} :
    (ofDeclared declared).checkSort tokens = .error error ↔
      error = .sortNotIndexed (SortOrder.ofTokens tokens).text ∧
        ¬ Served declared (SortOrder.ofTokens tokens) := by
  rw [checkSort, ← serves_iff_served]
  by_cases serves : (ofDeclared declared).serves (SortOrder.ofTokens tokens) = true
  · simp [serves]
  · simp [serves, eq_comm]

/-- **An order is accepted exactly when it reads a leading part of an index, all forward or all
backward.** For any declared indexes and any tokens:

* the check passes exactly when the order of the tokens has keys, all of one direction, on the
  leading fields of some index in order, and passes on this very order;
* these are the orders that are a leading part of an index read forward, or that are so once all
  their directions are flipped;
* every other order is refused by its text, and it is empty or misreads every index: it mixes
  directions, is too long, or has some field where the index has another;
* so does every other sequence of the fields of a leading part.
-/
theorem checkSort_reads_index (declared : List Index) (tokens : List String) :
    (∀ order, (ofDeclared declared).checkSort tokens = .ok order ↔
      order = SortOrder.ofTokens tokens ∧ Served declared order) ∧
    (Served declared (SortOrder.ofTokens tokens) ↔
      SortOrder.ofTokens tokens ≠ [] ∧ ∃ index ∈ declared, ∃ part, part <+: index ∧
        (SortOrder.ofTokens tokens = SortOrder.ofIndex part ∨
          (SortOrder.ofTokens tokens).reversed = SortOrder.ofIndex part)) ∧
    (∀ error, (ofDeclared declared).checkSort tokens = .error error ↔
      error = .sortNotIndexed (SortOrder.ofTokens tokens).text ∧
        ¬ Served declared (SortOrder.ofTokens tokens)) ∧
    (¬ Served declared (SortOrder.ofTokens tokens) ↔ SortOrder.ofTokens tokens = [] ∨
      ∀ index ∈ declared, Misreads index (SortOrder.ofTokens tokens)) ∧
    ∀ index part, part <+: index →
      ((SortOrder.ofTokens tokens).map SortKey.field).Perm part →
      (SortOrder.ofTokens tokens).map SortKey.field ≠ part →
      Misreads index (SortOrder.ofTokens tokens) := by
  refine ⟨fun order => checkSort_eq_ok_iff, served_iff_reads, fun error => checkSort_eq_error_iff,
    not_served_iff, ?_⟩
  intro index part leading permuted other
  exact .of_permuted leading permuted other

end Catalog

end IndexGuard
