/-
**Keys with brackets follow one grammar.**

A key is read as `field[part]` when it is of this form, and literally when it is not.

* `Malformed`, `malformed_iff`: the ways in which a key is not of the form, and that there are no
  others;
* `eq_of_split?`, `eq_of_ofKey?`: keys that split alike, or have the same address, are the same;
* `isValid_openingByte`, `encode_of_split?`: counted in bytes, the field ends and the part begins
  where characters begin, and both are what stands there;
* `split?_follows_grammar` puts this together with what a pair under any other key adds.
-/

import IndexGuard.Proofs.Bytes
import IndexGuard.Proofs.Gathering

namespace IndexGuard

namespace Address

open Text (isValid_of_append)
open Text.Utf8 (encode)

/-- The ways in which a key is not of the form `field[part]`. -/
inductive Malformed (key : String) : Prop
  | unopened : '[' ∉ key.toList → Malformed key
  | leading {rest : String} : key = "[" ++ rest → Malformed key
  | unclosed : key.toList.getLast? ≠ some ']' → Malformed key
  | empty {field : String} : key = field ++ "[]" → Malformed key
  | doubled {field inner : String} : key = field ++ "[" ++ inner ++ "]" →
      '[' ∈ inner.toList ∨ ']' ∈ inner.toList → Malformed key
  | trailing {field part rest : String} : key = field ++ "[" ++ part ++ "]" ++ rest → rest ≠ "" →
      Malformed key

/-- The number of bytes before the first opening bracket of a key. -/
def openingByte (key : String) : Nat :=
  ((encode key).takeWhile fun byte => byte != 0x5B).length

variable {key field part before behind : String}

/-! ### Keys that are not of the bracket form -/

/-- A text with an opening bracket has a first one. -/
theorem exists_opening (opens : '[' ∈ key.toList) :
    ∃ before behind, key = before ++ "[" ++ behind ∧ '[' ∉ before.toList := by
  obtain ⟨front, rest, written, first⟩ := List.eq_append_cons_of_mem opens
  refine ⟨String.ofList front, String.ofList rest, ?_, by rwa [String.toList_ofList]⟩
  rw [← String.toList_inj, written]
  simp

/-- A text that ends with a closing bracket is what stands before it, and the bracket. -/
theorem exists_closing (closes : key.toList.getLast? = some ']') :
    ∃ before, key = before ++ "]" := by
  obtain ⟨front, written⟩ := List.getLast?_eq_some_iff.mp closes
  refine ⟨String.ofList front, ?_⟩
  rw [← String.toList_inj, written]
  simp

/-- **A key of the bracket form has one opening bracket**, behind its field. -/
theorem Bracketed.eq_of_written (form : Bracketed key field part)
    (written : key = before ++ "[" ++ behind) : before = field ∧ behind = part ++ "]" := by
  have chars : field.toList ++ '[' :: (part.toList ++ [']']) =
      before.toList ++ '[' :: behind.toList := by
    have both := form.written.symm.trans written
    rw [← String.toList_inj] at both
    simpa using both
  have partOpen : '[' ∉ part.toList ++ [']'] := by simp [form.part_open]
  obtain ⟨sameField, _, samePart⟩ :=
    (List.append_cons_inj_of_notMem form.field_open partOpen).mp chars
  refine ⟨String.toList_inj.mp sameField.symm, String.toList_inj.mp ?_⟩
  rw [← samePart, String.toList_append]
  rfl

theorem Malformed.not_bracketed (malformed : Malformed key) : ¬ Bracketed key field part := by
  intro form
  cases malformed with
  | unopened unopened =>
    apply unopened
    rw [form.written]
    simp
  | leading written =>
    have apart : "" = field ∧ _ := form.eq_of_written written
    exact form.field_ne apart.1.symm
  | unclosed unclosed =>
    apply unclosed
    rw [form.written, String.toList_append]
    exact List.getLast?_concat
  | @empty before written =>
    have apart : before = field ∧ "]" = part ++ "]" := by
      refine form.eq_of_written ?_
      rw [written, String.append_assoc]
      rfl
    have nothing : "" ++ "]" = part ++ "]" := apart.2
    exact form.part_ne ((String.append_left_inj "]").mp nothing).symm
  | @doubled before inner written bracket =>
    rw [String.append_assoc] at written
    obtain rfl := (String.append_left_inj "]").mp (form.eq_of_written written).2
    rcases bracket with opening | closing
    · exact form.part_open opening
    · exact form.part_close closing
  | @trailing before inner rest written more =>
    rw [String.append_assoc, String.append_assoc] at written
    have same := (form.eq_of_written written).2
    have chars : part.toList ++ ']' :: [] = inner.toList ++ ']' :: rest.toList := by
      rw [← String.toList_inj] at same
      simpa using same.symm
    obtain ⟨_, _, nothing⟩ :=
      (List.append_cons_inj_of_notMem form.part_close List.not_mem_nil).mp chars
    exact more (String.toList_eq_nil_iff.mp nothing.symm)

/-- **The ways of being malformed are all there are.** -/
theorem malformed_iff : Malformed key ↔ ∀ field part, ¬ Bracketed key field part := by
  refine ⟨fun malformed _ _ => malformed.not_bracketed, fun formless => ?_⟩
  by_cases opens : '[' ∈ key.toList
  swap
  · exact .unopened opens
  by_cases closes : key.toList.getLast? = some ']'
  swap
  · exact .unclosed closes
  obtain ⟨field, behind, written, fieldOpen⟩ := exists_opening opens
  by_cases noField : field = ""
  · subst noField
    exact .leading (written.trans (by rw [String.empty_append]))
  have behindCloses : behind.toList.getLast? = some ']' := by
    have lastBefore : (field ++ "[").toList.getLast? = some '[' := by
      rw [String.toList_append]
      exact List.getLast?_concat
    rw [written, String.toList_append, List.getLast?_append, lastBefore] at closes
    cases last : behind.toList.getLast? with
    | none =>
      rw [last] at closes
      cases closes
    | some char =>
      rw [last] at closes
      exact closes
  obtain ⟨part, rfl⟩ := exists_closing behindCloses
  rw [← String.append_assoc] at written
  by_cases noPart : part = ""
  · have isEmpty : key = field ++ "[]" := by
      rw [written, noPart, String.append_empty, String.append_assoc]
      rfl
    exact .empty isEmpty
  by_cases partOpen : '[' ∈ part.toList
  · exact .doubled written (.inl partOpen)
  by_cases partClose : ']' ∈ part.toList
  · exact .doubled written (.inr partClose)
  exact absurd ⟨written, noField, fieldOpen, noPart, partOpen, partClose⟩ (formless field part)

/-- **A key that is not of the bracket form does not split**, and addresses the field of its own
name if this is safe. -/
theorem Malformed.read (malformed : Malformed key) :
    split? key = none ∧ ofKey? key = if isSafe key = true then some (.plain key) else none := by
  have unread : split? key = none := split?_eq_none_iff.mpr (malformed_iff.mp malformed)
  exact ⟨unread, by rw [ofKey?, unread]⟩

/-! ### Keys and addresses -/

/-- **Keys that split alike are the same.** -/
theorem eq_of_split? {other : String} (splits : split? key = some (field, part))
    (again : split? other = some (field, part)) : key = other := by
  rw [(split?_eq_some_iff.mp splits).written, (split?_eq_some_iff.mp again).written]

/-- **Keys with the same address are the same.** -/
theorem eq_of_ofKey? {other : String} {address : Address} (read : ofKey? key = some address)
    (readOther : ofKey? other = some address) : key = other := by
  have addressed := ofKey?_eq_some_iff.mp readOther
  cases ofKey?_eq_some_iff.mp read with
  | plain _ _ =>
    cases addressed
    rfl
  | within form _ _ =>
    cases addressed with
    | within again _ _ => rw [form.written, again.written]

/-! ### Keys in bytes -/

theorem encode_opening : encode "[" = [0x5B] := by
  rw [Text.Utf8.encode_eq_flatMap]
  rfl

theorem encode_closing : encode "]" = [0x5D] := by
  rw [Text.Utf8.encode_eq_flatMap]
  rfl

/-- What stands before the first opening bracket takes up the bytes before its byte. -/
theorem openingByte_eq (first : '[' ∉ before.toList) :
    openingByte (before ++ "[" ++ behind) = (encode before).length := by
  have encodes : String.utf8EncodeChar '[' = [0x5B] := rfl
  have passes : ∀ byte ∈ encode before, (byte != 0x5B) = true := by
    intro byte member
    apply bne_iff_ne.mpr
    rintro rfl
    exact first ((Text.Utf8.mem_encode_iff encodes (by decide)).mp member)
  rw [openingByte, Text.Utf8.encode_append, Text.Utf8.encode_append, encode_opening,
    List.append_assoc, List.takeWhile_append_of_pos passes, List.singleton_append,
    List.takeWhile_cons_of_neg (by decide), List.append_nil]

/-- **Before and behind the first opening bracket, characters begin.** -/
theorem isValid_openingByte (opens : '[' ∈ key.toList) :
    String.Pos.Raw.IsValid key ⟨openingByte key⟩ ∧
      String.Pos.Raw.IsValid key ⟨openingByte key + 1⟩ := by
  obtain ⟨before, behind, rfl, first⟩ := exists_opening opens
  rw [openingByte_eq first]
  constructor
  · rw [String.append_assoc]
    exact isValid_of_append before _
  · have length : (encode (before ++ "[")).length = (encode before).length + 1 := by
      rw [Text.Utf8.encode_append, encode_opening, List.length_append, List.length_singleton]
    rw [← length]
    exact isValid_of_append (before ++ "[") behind

/-- **Before a closing bracket at the end, a character begins.** -/
theorem isValid_closing (closes : key.toList.getLast? = some ']') :
    String.Pos.Raw.IsValid key ⟨(encode key).length - 1⟩ := by
  obtain ⟨before, rfl⟩ := exists_closing closes
  rw [Text.Utf8.encode_append, encode_closing, List.length_append, List.length_singleton,
    Nat.add_sub_cancel]
  exact isValid_of_append before "]"

/-- **The field and the part are the bytes before and behind the first opening bracket**, without
the last byte. -/
theorem encode_of_split? (splits : split? key = some (field, part)) :
    encode field = (encode key).take (openingByte key) ∧
      encode part = ((encode key).drop (openingByte key + 1)).dropLast := by
  have form := split?_eq_some_iff.mp splits
  have bytes : encode key = encode field ++ 0x5B :: (encode part ++ [0x5D]) := by
    rw [form.written]
    simp [encode_opening, encode_closing]
  have opening : openingByte key = (encode field).length := by
    rw [form.written, String.append_assoc]
    exact openingByte_eq form.field_open
  rw [opening, bytes]
  constructor
  · rw [List.take_left]
  · rw [← List.drop_drop, List.drop_left, List.drop_one, List.tail_cons, List.dropLast_concat]

/-! ### Pairs -/

/-- **A pair under a malformed key** is entered under the key as it stands, or dropped. -/
theorem Malformed.addPair (malformed : Malformed key) (params : Params) (value : String) :
    params.addPair (key, value) =
      if isSafe key = true then
        Fields.insert params key (if key ∈ Params.controlKeys then .single value
          else ParamValue.addTo (Fields.get? params key) value)
      else params := by
  rw [Params.addPair, malformed.read.2]
  cases safe : isSafe key with
  | false => rfl
  | true =>
    show params.add (.plain key) value = Fields.insert params key _
    by_cases control : key ∈ Params.controlKeys
    · rw [if_pos control]
      exact Params.add_control params control value
    · rw [if_neg control]
      exact Params.add_plain params control value

/-- **Keys with brackets follow one grammar.** For all keys:

* a key splits into a field and a part exactly when it is of the form `field[part]`, with neither
  side empty, no opening bracket in the field and no bracket in the part;
* it is of this form in one way at most; keys that split alike, or have one address, are the same;
* a key does not split exactly when it has no opening bracket, begins with one, does not end with a
  closing one, or has nothing, another bracket, or more text where the form has its part and end;
* such a key addresses the field of its own name, and a pair under it is entered as it stands; when
  it is unsafe it addresses nothing, and the pair is dropped;
* counted in bytes, a key is divided where characters begin: before and behind its first opening
  bracket, and before a closing one at its end. The field and the part are what stands between.
-/
theorem split?_follows_grammar :
    (∀ key field part, split? key = some (field, part) ↔ Bracketed key field part) ∧
    (∀ key field part field' part', Bracketed key field part → Bracketed key field' part' →
      field = field' ∧ part = part') ∧
    (∀ key other field part, split? key = some (field, part) →
      split? other = some (field, part) → key = other) ∧
    (∀ key other address, ofKey? key = some address → ofKey? other = some address →
      key = other) ∧
    (∀ key, split? key = none ↔ Malformed key) ∧
    (∀ key, Malformed key →
      ofKey? key = if isSafe key = true then some (.plain key) else none) ∧
    (∀ (params : Params) (key value : String), Malformed key →
      params.addPair (key, value) =
        if isSafe key = true then
          Fields.insert params key (if key ∈ Params.controlKeys then .single value
            else ParamValue.addTo (Fields.get? params key) value)
        else params) ∧
    (∀ key : String, '[' ∈ key.toList →
      String.Pos.Raw.IsValid key ⟨openingByte key⟩ ∧
        String.Pos.Raw.IsValid key ⟨openingByte key + 1⟩) ∧
    (∀ key : String, key.toList.getLast? = some ']' →
      String.Pos.Raw.IsValid key ⟨(encode key).length - 1⟩) ∧
    ∀ key field part, split? key = some (field, part) →
      encode field = (encode key).take (openingByte key) ∧
        encode part = ((encode key).drop (openingByte key + 1)).dropLast := by
  refine ⟨fun _ _ _ => split?_eq_some_iff, fun _ _ _ _ _ form again => form.unique again,
    fun _ _ _ _ => eq_of_split?, fun _ _ _ => eq_of_ofKey?, fun key => ?_,
    fun _ malformed => malformed.read.2,
    fun params _ value malformed => malformed.addPair params value,
    fun _ => isValid_openingByte, fun _ => isValid_closing, fun _ _ _ => encode_of_split?⟩
  rw [split?_eq_none_iff, malformed_iff]

end Address

end IndexGuard
