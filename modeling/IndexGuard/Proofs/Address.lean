/-
**What a key addresses, as a rule.**

A key is of the bracket form when it is `field[part]` with neither side empty, no opening bracket in
the field and no bracket in the part (`Bracketed`). A key of this form addresses a part of a field,
any other key the field of its own name; unsafe names address nothing (`Addresses`).

* `split?_eq_some_iff`: the reader of keys finds exactly the keys of the bracket form;
* `ofKey?_eq_some_iff`: what it makes of a key is what the key addresses.
-/

import IndexGuard.Query.Params

namespace IndexGuard.Address

/-- The key is of the form `field[part]`. -/
structure Bracketed (key field part : String) : Prop where
  written : key = field ++ "[" ++ part ++ "]"
  field_ne : field ≠ ""
  field_open : '[' ∉ field.toList
  part_ne : part ≠ ""
  part_open : '[' ∉ part.toList
  part_close : ']' ∉ part.toList

/-- What a key addresses, if anything. -/
inductive Addresses (key : String) : Address → Prop
  | plain : (∀ field part, ¬ Bracketed key field part) → isSafe key = true →
      Addresses key (.plain key)
  | within {field part : String} : Bracketed key field part → isSafe field = true →
      isSafe part = true → Addresses key (.within field part)

/-- The field that an address lies in. -/
def field : Address → String
  | plain field => field
  | within field _ => field

/-! ### The bracket form -/

theorem mem_takeWhile_ne {separator char : Char} {chars : List Char}
    (member : char ∈ chars.takeWhile fun other => other != separator) : char ≠ separator := by
  have all := List.all_takeWhile (p := fun other => other != separator) (l := chars)
  rw [List.all_eq_true] at all
  exact bne_iff_ne.mp (all char member)

/-- **The reader of brackets accepts exactly the bracket form.** -/
theorem brackets?_eq_some_iff {key field part : List Char} :
    brackets? key = some (field, part) ↔
      key = field ++ '[' :: (part ++ [']']) ∧ field ≠ [] ∧ '[' ∉ field ∧ part ≠ [] ∧
        '[' ∉ part ∧ ']' ∉ part := by
  constructor
  · intro read
    have joined := List.takeWhile_append_dropWhile (p := fun char => char != '[') (l := key)
    have stops := List.head?_dropWhile_not (fun char => char != '[') key
    unfold brackets? at read
    split at read
    · cases read
    · rename_i char inner rest
      rw [rest] at joined stops
      have isOpen : char = '[' := by simpa using stops
      subst isOpen
      simp only at read
      split at read
      · rename_i shape
        obtain ⟨closes, fieldNe, partNe, noOpen, noClose⟩ := shape
        cases read
        obtain ⟨before, inner_eq⟩ := List.getLast?_eq_some_iff.mp closes
        subst inner_eq
        rw [List.dropLast_concat] at partNe noOpen noClose ⊢
        exact ⟨joined.symm, fieldNe, fun member => mem_takeWhile_ne member rfl, partNe, noOpen,
          noClose⟩
      · cases read
  · rintro ⟨rfl, fieldNe, fieldOpen, partNe, noOpen, noClose⟩
    have passes : ∀ char ∈ field, (char != '[') = true := fun char member =>
      bne_iff_ne.mpr fun same => fieldOpen (same ▸ member)
    unfold brackets?
    rw [List.takeWhile_append_of_pos passes, List.dropWhile_append_of_pos passes,
      List.takeWhile_cons_of_neg (by simp), List.dropWhile_cons_of_neg (by simp), List.append_nil]
    simp only [List.getLast?_concat, List.dropLast_concat]
    exact if_pos ⟨trivial, fieldNe, partNe, noOpen, noClose⟩

theorem bracketed_iff_toList {key field part : String} :
    Bracketed key field part ↔
      key.toList = field.toList ++ '[' :: (part.toList ++ [']']) ∧ field.toList ≠ [] ∧
        '[' ∉ field.toList ∧ part.toList ≠ [] ∧ '[' ∉ part.toList ∧ ']' ∉ part.toList := by
  have written : key = field ++ "[" ++ part ++ "]" ↔
      key.toList = field.toList ++ '[' :: (part.toList ++ [']']) := by
    rw [← String.toList_inj]
    simp
  have nonempty : ∀ name : String, name ≠ "" ↔ name.toList ≠ [] := fun name => by simp
  constructor
  · rintro ⟨key_eq, fieldNe, fieldOpen, partNe, partOpen, partClose⟩
    exact ⟨written.mp key_eq, (nonempty _).mp fieldNe, fieldOpen, (nonempty _).mp partNe, partOpen,
      partClose⟩
  · rintro ⟨key_eq, fieldNe, fieldOpen, partNe, partOpen, partClose⟩
    exact ⟨written.mpr key_eq, (nonempty _).mpr fieldNe, fieldOpen, (nonempty _).mpr partNe,
      partOpen, partClose⟩

/-- **A key splits exactly when it is of the bracket form.** -/
theorem split?_eq_some_iff {key field part : String} :
    split? key = some (field, part) ↔ Bracketed key field part := by
  rw [bracketed_iff_toList, ← brackets?_eq_some_iff, split?, Option.map_eq_some_iff]
  constructor
  · rintro ⟨⟨fieldChars, partChars⟩, read, same⟩
    cases same
    rwa [String.toList_ofList, String.toList_ofList]
  · intro read
    exact ⟨_, read, by simp⟩

/-- A key is of the bracket form in one way at most. -/
theorem Bracketed.unique {key field part otherField otherPart : String}
    (form : Bracketed key field part) (again : Bracketed key otherField otherPart) :
    field = otherField ∧ part = otherPart := by
  have same := (split?_eq_some_iff.mpr form).symm.trans (split?_eq_some_iff.mpr again)
  exact Prod.mk.inj (Option.some.inj same)

theorem split?_eq_none_iff {key : String} :
    split? key = none ↔ ∀ field part, ¬ Bracketed key field part := by
  constructor
  · intro unread field part form
    rw [split?_eq_some_iff.mpr form] at unread
    cases unread
  · intro formless
    cases read : split? key with
    | none => rfl
    | some parts => exact absurd (split?_eq_some_iff.mp read) (formless parts.1 parts.2)

/-! ### Addresses -/

/-- **The address that is read off a key is the one the key addresses.** -/
theorem ofKey?_eq_some_iff {key : String} {address : Address} :
    ofKey? key = some address ↔ Addresses key address := by
  unfold ofKey?
  constructor
  · intro read
    split at read
    · rename_i field part splits
      split at read
      · rename_i safe
        rw [Bool.and_eq_true] at safe
        cases read
        exact .within (split?_eq_some_iff.mp splits) safe.1 safe.2
      · cases read
    · rename_i formless
      split at read
      · rename_i safe
        cases read
        exact .plain (split?_eq_none_iff.mp formless) safe
      · cases read
  · intro addressed
    cases addressed with
    | plain formless safe => simp [split?_eq_none_iff.mpr formless, safe]
    | within form safeField safePart =>
      simp [split?_eq_some_iff.mpr form, safeField, safePart]

instance (key : String) (address : Address) : Decidable (Addresses key address) :=
  decidable_of_iff (ofKey? key = some address) ofKey?_eq_some_iff

/-- A key addresses one thing at most. -/
theorem Addresses.unique {key : String} {first second : Address} (addressed : Addresses key first)
    (again : Addresses key second) : first = second :=
  Option.some.inj ((ofKey?_eq_some_iff.mpr addressed).symm.trans (ofKey?_eq_some_iff.mpr again))

theorem isSafe_of_addresses {key : String} {address : Address}
    (addressed : Addresses key address) : isSafe address.field = true := by
  cases addressed with
  | plain _ safe => exact safe
  | within _ safe _ => exact safe

end IndexGuard.Address
