/-
**The orders that tokens ask for.**

* `AskedBy`, `askedBy_iff`: which key a token asks for, told by how the token is written;
* `token_ofToken`: the key of a token has this token;
* `map_field_add`, `mem_add_iff`, `add_of_new`, `add_of_known`: what one more key changes of an
  order;
* `nodup_fields`, `exists_token`: the keys of an order have different fields, and each is the key of
  some token;
* `ofTokens_map_token`: so the tokens of its keys ask for the same order.
-/

import IndexGuard.Query.Sort
import Mathlib.Data.List.Induction

namespace IndexGuard

namespace SortKey

variable {key : SortKey} {token : String}

/-! ### The key of a token -/

/-- A token asks for a key: a dash and the field for the descending key, and the field alone, when
no dash leads it, for the ascending one. -/
inductive AskedBy : SortKey → String → Prop
  | descending (field : String) : AskedBy ⟨field, .descending⟩ ("-" ++ field)
  | ascending (field : String) (undashed : ∀ rest, field ≠ "-" ++ rest) :
      AskedBy ⟨field, .ascending⟩ field

theorem ofToken_dash (field : String) : ofToken ("-" ++ field) = ⟨field, .descending⟩ := by
  have chars : ("-" ++ field).toList = '-' :: field.toList := String.toList_append
  have again : String.ofList field.toList = field := String.ofList_toList
  rw [ofToken, chars]
  show SortKey.mk (String.ofList field.toList) .descending = _
  rw [again]

theorem ofToken_undashed (undashed : ∀ rest, token ≠ "-" ++ rest) :
    ofToken token = ⟨token, .ascending⟩ := by
  unfold ofToken
  split
  · rename_i rest written
    refine absurd ?_ (undashed (String.ofList rest))
    have chars : (String.ofList rest).toList = rest := String.toList_ofList
    rw [← String.toList_inj, String.toList_append, chars, written]
    rfl
  · rfl

/-- **A token asks for its key and for no other.** -/
theorem askedBy_iff : key.AskedBy token ↔ ofToken token = key := by
  constructor
  · intro asked
    cases asked with
    | descending field => exact ofToken_dash field
    | ascending field undashed => exact ofToken_undashed undashed
  · rintro rfl
    by_cases dashed : ∃ rest, token = "-" ++ rest
    · obtain ⟨rest, rfl⟩ := dashed
      rw [ofToken_dash]
      exact .descending rest
    · have undashed := not_exists.mp dashed
      rw [ofToken_undashed undashed]
      exact .ascending token undashed

theorem AskedBy.token_eq (asked : key.AskedBy token) : key.token = token := by
  cases asked with
  | descending field => rfl
  | ascending field undashed => rfl

/-- **The key of a token has this token.** -/
theorem token_ofToken (token : String) : (ofToken token).token = token :=
  (askedBy_iff.mpr rfl).token_eq

end SortKey

namespace SortOrder

variable {order : SortOrder} {key other : SortKey} {tokens : List String}

/-! ### One more key -/

theorem knows_iff : (order.any fun known => known.field == key.field) = true ↔
    key.field ∈ order.map SortKey.field := by
  simp only [List.any_eq_true, List.mem_map, beq_iff_eq]

/-- **One more key leaves the fields of an order as they are**, or its own field goes last. -/
theorem map_field_add (order : SortOrder) (key : SortKey) :
    (order.add key).map SortKey.field =
      if key.field ∈ order.map SortKey.field then order.map SortKey.field
      else order.map SortKey.field ++ [key.field] := by
  unfold add
  by_cases known : key.field ∈ order.map SortKey.field
  · rw [if_pos (knows_iff.mpr known), if_pos known, List.map_map]
    refine List.map_congr_left fun other _ => ?_
    rw [Function.comp_apply]
    split
    · rename_i same
      exact same.symm
    · rfl
  · rw [if_neg fun knows => known (knows_iff.mp knows), if_neg known, List.map_append,
      List.map_singleton]

/-- **One more key is the only one of its field**, and the keys of other fields stay. -/
theorem mem_add_iff : other ∈ order.add key ↔
    other = key ∨ other ∈ order ∧ other.field ≠ key.field := by
  unfold add
  by_cases knows : (order.any fun known => known.field == key.field) = true
  · rw [if_pos knows, List.mem_map]
    constructor
    · rintro ⟨known, member, rfl⟩
      by_cases same : known.field = key.field
      · rw [if_pos same]
        exact .inl rfl
      · rw [if_neg same]
        exact .inr ⟨member, same⟩
    · rintro (rfl | ⟨member, different⟩)
      · obtain ⟨known, member, same⟩ := List.mem_map.mp (knows_iff.mp knows)
        exact ⟨known, member, if_pos same⟩
      · exact ⟨other, member, if_neg different⟩
  · rw [if_neg knows, List.mem_append, List.mem_singleton, or_comm]
    refine or_congr_right ⟨fun member => ⟨member, fun same => knows ?_⟩, And.left⟩
    exact knows_iff.mpr (same ▸ List.mem_map_of_mem member)

/-- A key with a new field goes last. -/
theorem add_of_new (new : key.field ∉ order.map SortKey.field) : order.add key = order ++ [key] :=
  if_neg fun knows => new (knows_iff.mp knows)

/-- Where a field is not known, nothing takes its direction. -/
theorem map_replace_of_new (new : key.field ∉ order.map SortKey.field) :
    (order.map fun known => if known.field = key.field then key else known) = order := by
  refine (List.map_congr_left fun other member => ?_).trans (List.map_id order)
  refine if_neg fun same : other.field = key.field => new ?_
  rw [← same]
  exact List.mem_map_of_mem member

/-- **A key with a known field takes the place of the known key**, and the keys before and behind it
stay. -/
theorem add_of_known {before after : SortOrder} (same : other.field = key.field)
    (distinct : ((before ++ other :: after).map SortKey.field).Nodup) :
    (before ++ other :: after).add key = before ++ key :: after := by
  have known : key.field ∈ (before ++ other :: after).map SortKey.field := by
    rw [← same]
    exact List.mem_map_of_mem (List.mem_append_right _ List.mem_cons_self)
  rw [List.map_append, List.map_cons, same, List.nodup_append, List.nodup_cons] at distinct
  obtain ⟨_, ⟨newAfter, _⟩, apart⟩ := distinct
  have newBefore : key.field ∉ before.map SortKey.field := fun isEarlier =>
    apart _ isEarlier _ List.mem_cons_self rfl
  rw [add, if_pos (knows_iff.mpr known), List.map_append, List.map_cons, if_pos same,
    map_replace_of_new newBefore, map_replace_of_new newAfter]

/-! ### The keys of tokens -/

theorem ofTokens_concat (tokens : List String) (token : String) :
    ofTokens (tokens ++ [token]) = (ofTokens tokens).add (SortKey.ofToken token) := by
  simp only [ofTokens, List.map_append, List.map_cons, List.map_nil, List.foldl_append,
    List.foldl_cons, List.foldl_nil]

/-- **No field has two keys.** -/
theorem nodup_fields (tokens : List String) : ((ofTokens tokens).map SortKey.field).Nodup := by
  induction tokens using List.reverseRecOn with
  | nil => exact List.nodup_nil
  | append_singleton before token ih =>
    rw [ofTokens_concat, map_field_add]
    split
    · exact ih
    · rename_i new
      exact List.nodup_append.mpr ⟨ih, List.pairwise_singleton _ _, by simpa using new⟩

/-- **Every key is that of some token.** -/
theorem exists_token (member : key ∈ ofTokens tokens) :
    ∃ token ∈ tokens, SortKey.ofToken token = key := by
  induction tokens using List.reverseRecOn with
  | nil => cases member
  | append_singleton before token ih =>
    rw [ofTokens_concat, mem_add_iff] at member
    rcases member with rfl | ⟨isEarlier, _⟩
    · exact ⟨token, List.mem_append_right _ List.mem_cons_self, rfl⟩
    · obtain ⟨earlier, inside, isKey⟩ := ih isEarlier
      exact ⟨earlier, List.mem_append_left _ inside, isKey⟩

/-- Tokens ask for at least one key. -/
theorem ofTokens_ne_nil (nonempty : tokens ≠ []) : ofTokens tokens ≠ [] := by
  rw [← List.dropLast_concat_getLast nonempty, ofTokens_concat]
  exact List.ne_nil_of_mem (mem_add_iff.mpr (.inl rfl))

/-- The token of a key is among the tokens that asked for it, and asks for it again. -/
theorem token_mem (member : key ∈ ofTokens tokens) :
    key.token ∈ tokens ∧ SortKey.ofToken key.token = key := by
  obtain ⟨token, inside, rfl⟩ := exists_token member
  rw [SortKey.token_ofToken]
  exact ⟨inside, rfl⟩

/-- Keys with different fields are added one behind the other. -/
theorem foldl_add_of_nodup {before : SortOrder}
    (distinct : ((before ++ order).map SortKey.field).Nodup) :
    order.foldl add before = before ++ order := by
  induction order generalizing before with
  | nil => exact (List.append_nil before).symm
  | cons key rest ih =>
    have new : key.field ∉ before.map SortKey.field := by
      rw [List.map_append, List.nodup_append] at distinct
      intro known
      exact distinct.2.2 _ known _ List.mem_cons_self rfl
    rw [List.append_cons] at distinct
    rw [List.foldl_cons, add_of_new new, ih distinct, List.append_assoc, List.singleton_append]

/-- **The tokens of the keys of an order ask for this order.** -/
theorem ofTokens_map_token (tokens : List String) :
    ofTokens ((ofTokens tokens).map SortKey.token) = ofTokens tokens := by
  have again : ((ofTokens tokens).map SortKey.token).map SortKey.ofToken = ofTokens tokens := by
    rw [List.map_map]
    refine (List.map_congr_left fun key member => ?_).trans (List.map_id _)
    exact (token_mem member).2
  rw [ofTokens, again]
  exact foldl_add_of_nodup (nodup_fields tokens)

end SortOrder

end IndexGuard
