/-
**The first places and the last directions of fields.**

* `Names`, `NamedBefore`, `AskedLast`: which fields tokens name, which of two fields they name
  first, and which key the last of them asks for that names its field;
* `Arranges`: an order with these fields, in the order in which they are named first, and with these
  keys;
* `Arranges.add`, `arranges_ofTokens`: one more token keeps the order arranged, so the order that
  tokens ask for is arranged;
* `Arranges.unique`: no other order is;
* `first_place_last_direction` puts this together, with what a field that is named again changes.
-/

import IndexGuard.Proofs.Tokens
import Mathlib.Data.List.Sort

namespace IndexGuard

namespace SortOrder

variable {order other : SortOrder} {key : SortKey} {tokens : List String} {token : String}
  {field first second : String}

/-! ### What tokens name -/

/-- Tokens name a field: one of them asks for a key with this field. -/
def Names (tokens : List String) (field : String) : Prop :=
  ∃ token ∈ tokens, ∃ key : SortKey, key.AskedBy token ∧ key.field = field

/-- Tokens name a field before another one: up to some token they name it, and not the other. -/
def NamedBefore (tokens : List String) (first second : String) : Prop :=
  ∃ start, start <+: tokens ∧ Names start first ∧ ¬ Names start second

/-- Tokens ask for a key last: one of them asks for it, and no later one names its field. -/
def AskedLast (tokens : List String) (key : SortKey) : Prop :=
  ∃ token later, token :: later <:+ tokens ∧ key.AskedBy token ∧ ¬ Names later key.field

theorem not_names_nil (field : String) : ¬ Names [] field := by
  rintro ⟨token, member, _⟩
  cases member

theorem names_concat : Names (tokens ++ [token]) field ↔
    Names tokens field ∨ field = (SortKey.ofToken token).field := by
  simp only [Names, SortKey.askedBy_iff, exists_eq_left', List.mem_append, List.mem_singleton,
    or_and_right, exists_or, exists_eq_left, @eq_comm _ field]

theorem Names.mono {more : List String} (isNamed : Names tokens field) (within : tokens ⊆ more) :
    Names more field := by
  obtain ⟨token, member, asks⟩ := isNamed
  exact ⟨token, within member, asks⟩

/-- What is named before stays named before. -/
theorem NamedBefore.concat (before : NamedBefore tokens first second) (token : String) :
    NamedBefore (tokens ++ [token]) first second := by
  obtain ⟨start, leads, split⟩ := before
  exact ⟨start, leads.trans (List.prefix_append _ _), split⟩

/-- **No two fields are named before each other.** -/
theorem NamedBefore.asymm (before : NamedBefore tokens first second) :
    ¬ NamedBefore tokens second first := by
  rintro ⟨other, otherLeads, isSecond, notFirst⟩
  obtain ⟨start, leads, isFirst, notSecond⟩ := before
  rcases List.prefix_or_prefix_of_prefix leads otherLeads with within | within
  · exact notFirst (isFirst.mono within.subset)
  · exact notSecond (isSecond.mono within.subset)

/-- **One more token is the last that asks**, and the keys with other fields are still asked for
last. -/
theorem askedLast_concat : AskedLast (tokens ++ [token]) key ↔
    key = SortKey.ofToken token ∨
      AskedLast tokens key ∧ key.field ≠ (SortKey.ofToken token).field := by
  constructor
  · rintro ⟨asking, later, ends, asks, unnamed⟩
    rcases List.suffix_concat_iff.mp ends with isNil | ⟨part, split, endsBefore⟩
    · cases isNil
    · cases part with
      | nil =>
        obtain ⟨rfl, rfl⟩ := List.cons.inj split
        exact .inl (SortKey.askedBy_iff.mp asks).symm
      | cons _ between =>
        rw [List.cons_append, List.cons.injEq] at split
        obtain ⟨rfl, rfl⟩ := split
        rw [names_concat, not_or] at unnamed
        exact .inr ⟨⟨asking, between, endsBefore, asks, unnamed.1⟩, unnamed.2⟩
  · rintro (rfl | ⟨⟨asking, later, ends, asks, unnamed⟩, different⟩)
    · have asks := SortKey.askedBy_iff.mpr (Eq.refl (SortKey.ofToken token))
      exact ⟨token, [], List.suffix_append _ _, asks, not_names_nil _⟩
    · refine ⟨asking, later ++ [token], ?_, asks, ?_⟩
      · exact List.suffix_concat_iff.mpr (.inr ⟨asking :: later, rfl, ends⟩)
      · rw [names_concat, not_or]
        exact ⟨unnamed, different⟩

/-! ### Arranged orders -/

/-- An order arranges tokens: it has the fields that they name, in the order in which they name them
first, and its keys are those that they ask for last. -/
structure Arranges (tokens : List String) (order : SortOrder) : Prop where
  named : ∀ field, field ∈ order.map SortKey.field ↔ Names tokens field
  places : (order.map SortKey.field).Pairwise (NamedBefore tokens)
  directions : ∀ key, key ∈ order ↔ AskedLast tokens key

/-- **One more token keeps an order arranged.** -/
theorem Arranges.add (arranged : Arranges tokens order) (token : String) :
    Arranges (tokens ++ [token]) (SortOrder.add order (SortKey.ofToken token)) where
  named field := by
    rw [names_concat, ← arranged.named, map_field_add]
    split
    · rename_i known
      refine ⟨.inl, ?_⟩
      rintro (isField | rfl)
      · exact isField
      · exact known
    · rw [List.mem_append, List.mem_singleton]
  places := by
    have kept := arranged.places.imp fun before => before.concat token
    rw [map_field_add]
    split
    · exact kept
    · rename_i new
      rw [arranged.named] at new
      refine List.pairwise_append.mpr ⟨kept, List.pairwise_singleton _ _, ?_⟩
      intro field isField last isLast
      rw [List.mem_singleton.mp isLast]
      exact ⟨tokens, List.prefix_append _ _, (arranged.named field).mp isField, new⟩
  directions key := by
    rw [mem_add_iff, askedLast_concat, arranged.directions]

/-- **The order that tokens ask for arranges them.** -/
theorem arranges_ofTokens (tokens : List String) : Arranges tokens (ofTokens tokens) := by
  induction tokens using List.reverseRecOn with
  | nil =>
    refine ⟨fun field => ?_, List.Pairwise.nil, fun key => ?_⟩
    · exact iff_of_false List.not_mem_nil (not_names_nil field)
    · refine iff_of_false List.not_mem_nil ?_
      rintro ⟨token, later, ends, _⟩
      cases List.suffix_nil.mp ends
  | append_singleton before token ih =>
    rw [ofTokens_concat]
    exact ih.add token

/-- **Tokens are arranged in one way.** -/
theorem Arranges.unique (one : Arranges tokens order) (another : Arranges tokens other) :
    order = other := by
  have asymmetric : Std.Asymm fun first second : SortKey =>
      NamedBefore tokens first.field second.field := ⟨fun _ _ => NamedBefore.asymm⟩
  have places := List.pairwise_map.mp one.places
  refine places.eq_of_mem_iff (List.pairwise_map.mp another.places) fun key => ?_
  rw [one.directions, another.directions]

/-- A token that names a known field changes the direction of its key. -/
theorem ofTokens_concat_known (asks : key.AskedBy token)
    (known : key.field ∈ (ofTokens tokens).map SortKey.field) :
    ∃ before direction after, ofTokens tokens = before ++ ⟨key.field, direction⟩ :: after ∧
      ofTokens (tokens ++ [token]) = before ++ key :: after := by
  obtain ⟨held, member, same⟩ := List.mem_map.mp known
  obtain ⟨before, after, split⟩ := List.append_of_mem member
  have distinct := nodup_fields tokens
  rw [split] at distinct
  refine ⟨before, held.direction, after, ?_, ?_⟩
  · rw [split, ← same]
  · rw [ofTokens_concat, SortKey.askedBy_iff.mp asks, split, add_of_known same distinct]

/-- **A field keeps its first place and takes its last direction.** For any tokens:

* the fields of the order that they ask for differ from each other;
* this order, and no other, has the fields that the tokens name in the order in which they name them
  first, and each field in the direction that the last token with its name asks for;
* so one more token that names a field of the order changes the direction of its key, and leaves all
  keys before and behind it as they are.
-/
theorem first_place_last_direction (tokens : List String) :
    ((ofTokens tokens).map SortKey.field).Nodup ∧
    (∀ order, Arranges tokens order ↔ order = ofTokens tokens) ∧
    ∀ (token : String) (key : SortKey), key.AskedBy token →
      key.field ∈ (ofTokens tokens).map SortKey.field →
        ∃ before direction after, ofTokens tokens = before ++ ⟨key.field, direction⟩ :: after ∧
          ofTokens (tokens ++ [token]) = before ++ key :: after := by
  have arranged := arranges_ofTokens tokens
  refine ⟨nodup_fields tokens, fun order => ⟨fun also => also.unique arranged, ?_⟩, ?_⟩
  · rintro rfl
    exact arranged
  · intro token key asks known
    exact ofTokens_concat_known asks known

/-- A field that is named a third time, behind another one. -/
theorem first_place_last_direction_year :
    Arranges ["-year", "title", "year"] [⟨"year", .ascending⟩, ⟨"title", .ascending⟩] ∧
    SortKey.AskedBy ⟨"year", .descending⟩ "-year" ∧
    "year" ∈ (ofTokens ["-year", "title", "year"]).map SortKey.field ∧
    ∃ before direction after,
      ofTokens ["-year", "title", "year"] = before ++ ⟨"year", direction⟩ :: after ∧
        ofTokens ["-year", "title", "year", "-year"] =
          before ++ ⟨"year", .descending⟩ :: after := by
  have asks : SortKey.AskedBy ⟨"year", .descending⟩ "-year" := SortKey.askedBy_iff.mpr (by decide)
  have known : "year" ∈ (ofTokens ["-year", "title", "year"]).map SortKey.field := by decide
  obtain ⟨_, arranged, again⟩ := first_place_last_direction ["-year", "title", "year"]
  exact ⟨(arranged _).mpr (by decide), asks, known, again "-year" _ asks known⟩

end SortOrder

end IndexGuard
