/-
**Characters and the bytes that encode them.**

A byte below 128 is a character of its own (`singleton_of_mem`, `singleton_of_ascii`), so a text can
be divided before and behind it: `isValid_of_ascii` says this of bytes at the front of a text and
`isValid_of_append` of the bytes of a part, and `mem_encode_iff` where such a byte stands.
-/

import IndexGuard.Text.Utf8
import Mathlib.Data.List.Basic

namespace IndexGuard.Text

/-! ### The bytes of a text -/

theorem Utf8.toList_loop (bytes : ByteArray) (place : Nat) (before : List UInt8) :
    ByteArray.toList.loop bytes place before = before.reverse ++ bytes.data.toList.drop place := by
  fun_induction ByteArray.toList.loop bytes place before with
  | case1 place before inside ih =>
    have within : place < bytes.data.toList.length := inside
    rw [ih, List.drop_eq_getElem_cons within]
    have same : bytes.get! place = bytes.data.toList[place] := by
      show bytes.data[place]! = _
      rw [getElem!_pos bytes.data place inside]
      rfl
    rw [List.reverse_cons, List.append_assoc, same]
    rfl
  | case2 place before outside =>
    have beyond : bytes.data.toList.length ≤ place := Nat.le_of_not_lt outside
    rw [List.drop_eq_nil_of_le beyond, List.append_nil]

/-- The bytes of a text are those of its characters in turn. -/
theorem Utf8.encode_eq_flatMap (text : String) :
    encode text = text.toList.flatMap String.utf8EncodeChar := by
  have bytes : encode text = text.toByteArray.data.toList := Utf8.toList_loop _ _ _
  rw [bytes, ← String.utf8Encode_toList, List.utf8Encode, List.toList_data_toByteArray]

@[simp] theorem Utf8.encode_append (before behind : String) :
    encode (before ++ behind) = encode before ++ encode behind := by
  simp only [encode_eq_flatMap, String.toList_append, List.flatMap_append]

theorem Utf8.length_encode (text : String) : (encode text).length = text.utf8ByteSize := by
  rw [encode_eq_flatMap, ← String.size_toByteArray, ← String.utf8Encode_toList, List.utf8Encode,
    List.size_toByteArray]

/-! ### Bytes below 128 -/

/-- **A byte below 128 is the only one of its character**, and it is the code of the character. -/
theorem Utf8.singleton_of_mem {char : Char} {byte : UInt8}
    (member : byte ∈ String.utf8EncodeChar char) (ascii : byte < 128) :
    String.utf8EncodeChar char = [byte] ∧ char.toNat = byte.toNat := by
  rw [UInt8.lt_iff_toNat_lt] at ascii
  have bound : (128 : UInt8).toNat = 128 := rfl
  have code : char.val.toNat = char.toNat := Char.toNat_val
  unfold String.utf8EncodeChar at member ⊢
  simp only at member ⊢
  split at member
  · rename_i small
    rw [if_pos small, List.mem_singleton.mp member, UInt8.toNat_ofNat']
    exact ⟨rfl, by omega⟩
  · exfalso
    have high : 128 ≤ byte.toNat := by
      split at member
      · simp only [List.mem_cons, List.not_mem_nil, or_false] at member
        rcases member with rfl | rfl <;> (rw [UInt8.toNat_ofNat']; omega)
      · split at member <;> simp only [List.mem_cons, List.not_mem_nil, or_false] at member
        · rcases member with rfl | rfl | rfl <;> (rw [UInt8.toNat_ofNat']; omega)
        · rcases member with rfl | rfl | rfl | rfl <;> (rw [UInt8.toNat_ofNat']; omega)
    omega

/-- A character whose first byte is an ASCII code has no other byte. -/
theorem Utf8.singleton_of_ascii {char : Char} {byte : UInt8} {rest : List UInt8}
    (encoded : String.utf8EncodeChar char = byte :: rest) (ascii : byte < 128) : rest = [] := by
  have member : byte ∈ String.utf8EncodeChar char := by
    rw [encoded]
    exact List.mem_cons_self
  rw [(singleton_of_mem member ascii).1] at encoded
  exact (List.cons.inj encoded).2.symm

/-- A byte below 128 stands in a text exactly when the character does that it encodes. -/
theorem Utf8.mem_encode_iff {char : Char} {byte : UInt8}
    (encodes : String.utf8EncodeChar char = [byte]) (ascii : byte < 128) {text : String} :
    byte ∈ encode text ↔ char ∈ text.toList := by
  rw [encode_eq_flatMap, List.mem_flatMap]
  constructor
  · rintro ⟨other, member, inside⟩
    have code : other.toNat = byte.toNat := (singleton_of_mem inside ascii).2
    have same : char.toNat = byte.toNat := (singleton_of_mem (by simp [encodes]) ascii).2
    rwa [Char.toNat_inj.mp (same.trans code.symm)]
  · intro member
    exact ⟨char, member, by simp [encodes]⟩

/-- Bytes below 128 at the front are characters of their own. -/
theorem Utf8.length_encode_take {chars : List Char} {count : Nat}
    (within : count ≤ (chars.flatMap String.utf8EncodeChar).length)
    (ascii : ∀ byte ∈ (chars.flatMap String.utf8EncodeChar).take count, byte < 128) :
    ((chars.take count).flatMap String.utf8EncodeChar).length = count := by
  induction count generalizing chars with
  | zero => rfl
  | succ count ih =>
    cases chars with
    | nil => cases within
    | cons char rest =>
      obtain ⟨byte, others, encoded⟩ := List.exists_cons_of_ne_nil
        (String.utf8EncodeChar_ne_nil (c := char))
      rw [List.flatMap_cons, encoded, List.cons_append] at within ascii
      rw [List.take_succ_cons, List.forall_mem_cons] at ascii
      obtain rfl := Utf8.singleton_of_ascii encoded ascii.1
      rw [List.length_cons, List.nil_append] at within
      rw [List.take_succ_cons, List.flatMap_cons, encoded, List.cons_append, List.length_cons,
        List.nil_append, ih (by omega) ascii.2]

/-! ### Where a text can be divided -/

/-- **A text can be divided behind each of its front parts.** -/
theorem isValid_of_append (before behind : String) :
    String.Pos.Raw.IsValid (before ++ behind) ⟨(Utf8.encode before).length⟩ := by
  refine String.Pos.Raw.isValid_iff_exists_append.mpr ⟨before, behind, rfl, ?_⟩
  rw [Utf8.length_encode]
  rfl

/-- **Behind bytes below 128, a character begins**, so that the text can be divided there. -/
theorem isValid_of_ascii {text : String} {count : Nat} (within : count ≤ (Utf8.encode text).length)
    (ascii : ∀ byte ∈ (Utf8.encode text).take count, byte < 128) :
    String.Pos.Raw.IsValid text ⟨count⟩ := by
  rw [Utf8.encode_eq_flatMap] at within ascii
  refine String.Pos.Raw.isValid_iff_exists_take_toList.mpr ⟨count, ?_⟩
  have size : (String.ofList (text.toList.take count)).utf8ByteSize =
      ((text.toList.take count).flatMap String.utf8EncodeChar).length := by
    rw [← Utf8.length_encode, Utf8.encode_eq_flatMap, String.toList_ofList]
  rw [size, Utf8.length_encode_take within ascii]

end IndexGuard.Text
