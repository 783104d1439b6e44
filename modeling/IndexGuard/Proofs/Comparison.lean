/-
**Equality and order of a stored value and a query text.**

A stored value is tested against a query text for equality, or for lying on one side of it. The two
kinds of tests read the text each in its own way:

* `Binary64.compare?_eq_some`, `compare?_swap`: the order of binary64 numbers is that of their keys;
* `Tallies`, `tallies_of_order`: how the answers of the tests fit together when one order decides
  them all;
* `matchesValue_eq_order`: one order does for stored numbers and texts, whatever the query text is;
* `equals_tallies_with_ranges`: so there the tests agree, whereas a stored truth value equals the
  text that names it and lies on no side of any text (`truth_value_without_order`).
-/

import IndexGuard.Proofs.Conjunction
import Mathlib.Data.String.Basic

namespace IndexGuard

/-! ### Binary64 numbers -/

namespace Binary64

/-- An integer is rounded to a number. -/
theorem isNaN_ofInt (value : Int) : (ofInt value).isNaN = false :=
  decide_eq_false (Nat.not_lt.mpr (nearestMagnitude_le value.natAbs 1))

/-- **Numbers are compared as their keys.** -/
theorem compare?_eq_some {first second : Binary64} (isFirst : first.isNaN = false)
    (isSecond : second.isNaN = false) :
    first.compare? second = some (compare first.key second.key) := by
  rw [compare?, isFirst, isSecond, Bool.or_self, if_neg Bool.false_ne_true]

/-- **The comparison of numbers turns round with them.** -/
theorem compare?_swap (first second : Binary64) :
    second.compare? first = (first.compare? second).map Ordering.swap := by
  rw [compare?, compare?, Bool.or_comm]
  split
  · rfl
  · exact congrArg some Std.OrientedOrd.eq_swap

/-- Numbers are equal when they are in the order of equals, either way round. -/
theorem equal_eq (first second : Binary64) :
    first.equal second = (second.compare? first == some .eq) := by
  rw [equal, compare?_swap first second]
  rcases first.compare? second with _ | _ | _ | _ <;> rfl

end Binary64

/-! ### A stored value and a query text -/

/-- **The answers of the tests of one value fit together.** The value equals the bound when it lies
on neither strict side of it, and each side with the bound is the strict side or the bound. -/
structure Tallies (equal : Bool) (lies : RangeOp → Bool) : Prop where
  equal_iff : equal = true ↔ lies .greaterOrEqual = true ∧ lies .lessOrEqual = true
  greaterOrEqual_iff : lies .greaterOrEqual = true ↔ lies .greater = true ∨ equal = true
  lessOrEqual_iff : lies .lessOrEqual = true ↔ lies .less = true ∨ equal = true
  greater_or_equal : ¬ (lies .greater = true ∧ equal = true)
  greater_or_less : ¬ (lies .greater = true ∧ lies .less = true)
  equal_or_less : ¬ (equal = true ∧ lies .less = true)

/-- **One order decides all tests**, also when there is none. -/
theorem tallies_of_order (order : Option Ordering) :
    Tallies (order == some .eq) fun op => order.any op.accepts := by
  rcases order with _ | _ | _ | _ <;> constructor <;> decide

namespace Json

/-- The value is a number or a text. -/
def HasOrder : Json → Prop
  | number _ | string _ => True
  | _ => False

/-- **A stored number or text equals a query text when their order says so.** -/
theorem matchesValue_eq_order {value : Json} (ordered : value.HasOrder) (text : String) :
    value.matchesValue (.string text) = (value.order? (.string text) == some .eq) := by
  cases value with
  | number stored =>
    rw [matchesValue, order?]
    cases numberIn? text with
    | none => rfl
    | some asked => exact Binary64.equal_eq asked stored.toBinary64
  | string stored =>
    show (stored == text) = (some (compare stored text) == some .eq)
    rw [Bool.eq_iff_iff, beq_iff_eq, beq_iff_eq, Option.some.injEq, compare_eq_iff_eq]
  | _ => cases ordered

theorem boolIn?_eq_some_iff {text : String} {value : Bool} :
    boolIn? text = some value ↔ text = if value = true then "true" else "false" := by
  unfold boolIn?
  by_cases isTrue : text = "true"
  · subst isTrue
    cases value <;> decide
  · by_cases isFalse : text = "false"
    · subst isFalse
      cases value <;> decide
    · rw [if_neg isTrue, if_neg isFalse]
      cases value <;> simp [isTrue, isFalse]

end Json

/-! ### Filters on a stored value -/

section Stored

variable {field : String} {document : Json}

/-- An equality filter tests the stored value, when that is no array. -/
theorem accepts_equals {value : Json} (found : document.get? field = some value)
    (single : value.isArray = false) (query : Json) :
    (Filter.equals field query).accepts document = value.matchesValue query := by
  show Test.equalsPasses query (document.get? field) = _
  rw [found]
  cases value with
  | array items => cases single
  | _ => rfl

/-- A range filter tests the stored value, when that is no array. -/
theorem accepts_range {value : Json} (found : document.get? field = some value)
    (single : value.isArray = false) (op : RangeOp) (bound : Json) :
    (Filter.range field op bound).accepts document = (value.order? bound).any op.accepts := by
  show Test.rangePasses op bound (document.get? field) = _
  rw [found]
  cases value with
  | array items => cases single
  | _ => rfl

theorem Json.HasOrder.isArray_eq_false {value : Json} (ordered : value.HasOrder) :
    value.isArray = false := by
  cases value <;> first | rfl | cases ordered

/-- **Equality agrees with the ranges.** On a field that holds a number or a text, the answers of
the equality filter and of the range filters for one query text fit together, whatever the text is.
On a field that holds a truth value, the equality filter accepts the text that names the value, and
no range filter accepts any text. -/
theorem equals_tallies_with_ranges {value : Json} (found : document.get? field = some value)
    (text : String) :
    (value.HasOrder →
      Tallies ((Filter.equals field (.string text)).accepts document)
        fun op => (Filter.range field op (.string text)).accepts document) ∧
    ∀ stored, value = .bool stored →
      ((Filter.equals field (.string text)).accepts document = true ↔
        text = if stored = true then "true" else "false") ∧
      ∀ op, (Filter.range field op (.string text)).accepts document = false := by
  constructor
  · intro ordered
    have single := ordered.isArray_eq_false
    simp only [accepts_equals found single, accepts_range found single,
      Json.matchesValue_eq_order ordered]
    exact tallies_of_order _
  · rintro stored rfl
    constructor
    · rw [accepts_equals found rfl, ← Json.boolIn?_eq_some_iff]
      exact beq_iff_eq
    · exact fun op => accepts_range found rfl op _

/-- A number against a text with blanks around it, a text against one that is no number, and a truth
value against the text that names it. -/
theorem equals_tallies_with_ranges_book :
    ∃ document : Json,
      (Filter.equals "year" (.string " 1.990e3 ")).accepts document = true ∧
      Tallies ((Filter.equals "year" (.string " 1.990e3 ")).accepts document)
        (fun op => (Filter.range "year" op (.string " 1.990e3 ")).accepts document) ∧
      Tallies ((Filter.equals "title" (.string "nan")).accepts document)
        (fun op => (Filter.range "title" op (.string "nan")).accepts document) ∧
      (Filter.equals "lent" (.string "true")).accepts document = true := by
  let document : Json :=
    .object [("lent", .bool true), ("title", .string "Dune"), ("year", .int 1990)]
  have lent : document.get? "lent" = some (.bool true) := rfl
  have title : document.get? "title" = some (.string "Dune") := rfl
  have year : document.get? "year" = some (.int 1990) := rfl
  refine ⟨document, by decide +kernel, ?_, ?_, ?_⟩
  · exact (equals_tallies_with_ranges year " 1.990e3 ").1 trivial
  · exact (equals_tallies_with_ranges title "nan").1 trivial
  · exact ((equals_tallies_with_ranges lent "true").2 true rfl).1.mpr rfl

/-- **A stored truth value equals a text without lying on either side of it.** -/
theorem truth_value_without_order :
    ∃ document : Json, document.get? "lent" = some (.bool true) ∧
      (Filter.equals "lent" (.string "true")).accepts document = true ∧
      (Filter.range "lent" .greaterOrEqual (.string "true")).accepts document = false ∧
      (Filter.range "lent" .lessOrEqual (.string "true")).accepts document = false :=
  ⟨.object [("lent", .bool true)], rfl, rfl, rfl, rfl⟩

end Stored

end IndexGuard
