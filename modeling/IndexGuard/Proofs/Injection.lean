/-
**No text of a client becomes an operator.**

* `Leaf.Harmless`, `harmless_userFilter`: in the filter of a client no field and no name of a value
  offends, whatever the depth, bounds are texts, and there are no patterns;
* `Leaf.Harmless.legible`: what is harmless is written as nothing else, so the filter of a client is
  read back from a store document as it was;
* `no_operator_injection`: all of this, and that pairs with an offending name have no effect on any
  answer.
-/

import IndexGuard.Listing.Service
import IndexGuard.Proofs.Constraints
import IndexGuard.Proofs.Deletion
import IndexGuard.Proofs.Encoding

namespace IndexGuard

open Address (Offends)

namespace Json

/-- A name is that of a field of an object, at any depth of the value. -/
inductive HasName (name : String) : Json → Prop
  | here {fields : List (String × Json)} {value : Json} : (name, value) ∈ fields →
      HasName name (.object fields)
  | inField {fields : List (String × Json)} {other : String} {value : Json} :
      (other, value) ∈ fields → HasName name value → HasName name (.object fields)
  | inItem {items : List Json} {value : Json} : value ∈ items → HasName name value →
      HasName name (.array items)

/-- Texts name nothing. -/
theorem not_hasName_ofTexts {name : String} (texts : List String) :
    ¬ HasName name (ofTexts texts) := by
  have nameless : ∀ texts, ¬ HasName name (strings texts) := by
    intro texts has
    cases has with
    | inItem member inside =>
      obtain ⟨text, _, rfl⟩ := List.mem_map.mp member
      cases inside
  match texts with
  | [] => exact nameless []
  | [_] => nofun
  | first :: second :: rest => exact nameless (first :: second :: rest)

/-- An object with texts in its fields has no other names than theirs. -/
theorem mem_of_hasName_object {name : String} {parts : List String} {texts : String → List String}
    (has : HasName name (.object (parts.map fun part => (part, ofTexts (texts part))))) :
    name ∈ parts := by
  cases has with
  | here member =>
    obtain ⟨part, isPart, same⟩ := List.mem_map.mp member
    cases same
    exact isPart
  | inField member inside =>
    obtain ⟨part, _, same⟩ := List.mem_map.mp member
    cases same
    exact absurd inside (not_hasName_ofTexts _)

end Json

/-- A test of a client: no name in it offends, its bound is a text, and it is no pattern. -/
structure Leaf.Harmless (leaf : Leaf) : Prop where
  field : ¬ Offends leaf.field
  names : ∀ value, leaf.test = .equals value → ∀ name, value.HasName name → ¬ Offends name
  bound : ∀ op bound, leaf.test = .range op bound → ∃ text, bound = .string text
  noPattern : ∀ source ignoreCase, leaf.test ≠ .pattern source ignoreCase

theorem Address.offends_of_isOperatorName {name : String} (named : isOperatorName name = true) :
    Offends name :=
  .inr (.inl (beq_iff_eq.mp named))

/-- **What is harmless is written as nothing else.** -/
theorem Leaf.Harmless.legible {leaf : Leaf} (harmless : leaf.Harmless) : leaf.Legible := by
  refine ⟨fun conjunction => harmless.field ?_, fun fields isObject reads => ?_⟩
  · rw [conjunction]
    exact Address.offends_of_isOperatorName (by decide)
  · obtain ⟨⟨name, value⟩, member⟩ := List.exists_mem_of_ne_nil _ reads.nonempty
    have named := reads.operators _ member
    exact harmless.names _ isObject name (.here member) (Address.offends_of_isOperatorName named)

/-! ### The filter of a client -/

/-- A field that is asked for has a harmless name. -/
theorem Asks.not_offends {pairs : List (String × String)} {field : String}
    (asks : Asks pairs field) : ¬ Offends field := by
  obtain ⟨_, _, address, addressed, rfl⟩ := asks
  exact Address.isSafe_iff.mp (Address.isSafe_of_addresses addressed)

/-- So has a part that is asked for. -/
theorem AsksWithin.not_offends {pairs : List (String × String)} {field part : String}
    (asks : AsksWithin pairs field part) : ¬ Offends part := by
  obtain ⟨pair, _, addressed⟩ := asks
  cases addressed with
  | within _ _ safePart => exact Address.isSafe_iff.mp safePart

theorem harmless_of_mem_constraints {pairs : List (String × String)} {field : String}
    {parts : List String} (asks : Asks pairs field)
    (asksWithin : ∀ part ∈ parts, AsksWithin pairs field part) {test : Leaf}
    (member : test ∈ constraints pairs field parts) : test.Harmless := by
  rcases constraint_cases member with ⟨texts, rfl⟩ | ⟨op, text, rfl⟩ | rfl
  · refine ⟨asks.not_offends, ?_, nofun, nofun⟩
    rintro _ ⟨⟩ name has
    exact absurd has (Json.not_hasName_ofTexts texts)
  · refine ⟨asks.not_offends, nofun, ?_, nofun⟩
    rintro _ _ ⟨⟩
    exact ⟨text, rfl⟩
  · refine ⟨asks.not_offends, ?_, nofun, nofun⟩
    rintro _ ⟨⟩ name has
    exact (asksWithin name (Json.mem_of_hasName_object has)).not_offends

namespace Request

variable (pairs : List (String × String)) (injected : Filter)

/-- **The filter of a client is harmless.** -/
theorem harmless_userFilter :
    ∀ test ∈ (ofParams (Params.ofPairs pairs) injected).userFilter.leaves, test.Harmless := by
  obtain ⟨parts, fields, partsOf, userFilter_eq⟩ := request_constraints pairs injected
  rw [userFilter_eq, Filter.leaves_ofLeaves]
  intro test member
  obtain ⟨field, isField, isTest⟩ := List.mem_flatMap.mp member
  have asks := ((fields.mem_iff field).mp isField).2
  exact harmless_of_mem_constraints asks
    (fun part isPart => (((partsOf field isField).mem_iff part).mp isPart).1) isTest

theorem flat_userFilter (params : Params) : (ofParams params injected).userFilter.Flat :=
  Filter.flat_ofLeaves _

/-- **No text of a client becomes an operator.** For the pairs of any request:

* the pairs in whose key a name is empty, begins like an operator or holds a dot can be taken out
  without a change to the parameters or to an answer of any service;
* whatever criteria are added, no field of the client's filter and no name in its values offends,
  at any depth, and every bound is a text;
* so the client's filter is read back from a store document as the same filter.
-/
theorem no_operator_injection :
    (Params.ofPairs (inoffensive pairs) = Params.ofPairs pairs ∧
      ∀ (service : ListService) (name : String),
        service.list name (Params.ofPairs (inoffensive pairs)) =
          service.list name (Params.ofPairs pairs) ∧
        service.explain name (Params.ofPairs (inoffensive pairs)) =
          service.explain name (Params.ofPairs pairs)) ∧
    ∀ injected : Filter,
      (∀ test ∈ (ofParams (Params.ofPairs pairs) injected).userFilter.leaves, test.Harmless) ∧
      Filter.ofNative (ofParams (Params.ofPairs pairs) injected).userFilter.toNative =
        (ofParams (Params.ofPairs pairs) injected).userFilter := by
  have unchanged := Params.ofPairs_inoffensive pairs
  refine ⟨⟨unchanged, fun service name => by rw [unchanged]; exact ⟨rfl, rfl⟩⟩, fun injected => ?_⟩
  have harmless := harmless_userFilter pairs injected
  have read := Filter.ofNative_toNative _ fun test member => (harmless test member).legible
  exact ⟨harmless, read.trans (flat_userFilter injected _).ofLeaves_leaves⟩

end Request

end IndexGuard
