/-
**Generated identifiers.**

A document without an `id` gets the next number of a counter in 24 hexadecimal digits.

* `digits_lt_digits`, `idText_lt_idText`: numbers in digits of one width are in the order of texts;
  `isIdText_idText`: 24 digits are enough for all numbers of 64 bits;
* `Numbered`, `pairwise_numbered`: in a run of calls the generated identifiers have rising numbers,
  so they rise as texts (`pairwise_before`);
* `generated_id_new_unless_given`: a generated `id` is none that was generated before, and a
  document that has it already was given it; `generated_id_taken` shows that one can be.
-/

import IndexGuard.Proofs.Calls

namespace IndexGuard

/-! ### Digits in the order of texts -/

/-- Texts of one length that differ stay in order when they are continued. -/
theorem append_lt_append_of_lt {first second : List Char}
    (sameLength : first.length = second.length) (less : first < second)
    (after behind : List Char) : first ++ after < second ++ behind := by
  induction first generalizing second with
  | nil =>
    obtain rfl := List.eq_nil_of_length_eq_zero sameLength.symm
    exact absurd less (List.not_lt_nil [])
  | cons char rest ih =>
    cases second with
    | nil => cases sameLength
    | cons other others =>
      rw [List.cons_append, List.cons_append, List.cons_lt_cons_iff]
      rcases List.cons_lt_cons_iff.mp less with below | ⟨same, restLess⟩
      · exact .inl below
      · exact .inr ⟨same, ih (Nat.succ.inj sameLength) restLess⟩

theorem digitChar_lt_digitChar :
    ∀ second < 16, ∀ first < second, Nat.digitChar first < Nat.digitChar second := by decide

theorem digitChar_mem : ∀ digit < 16, Nat.digitChar digit ∈ "0123456789abcdef".toList := by decide

/-- The text has 24 lower-case hexadecimal digits. -/
structure IsIdText (text : String) : Prop where
  length : text.toList.length = 24
  digits : ∀ char ∈ text.toList, char ∈ "0123456789abcdef".toList

namespace MemoryStore

/-- How many numbers there are for an `id`: what 64 bits can encode. -/
def numberCount : Nat := 0x10000000000000000

/-- A number in hexadecimal digits, with zeros in front up to a width. -/
def digits (width number : Nat) : List Char :=
  List.replicate (width - (Nat.toDigits 16 number).length) '0' ++ Nat.toDigits 16 number

theorem toList_idText (number : Nat) : (idText number).toList = digits 24 number :=
  String.toList_ofList

theorem digits_one {number : Nat} (isDigit : number < 16) :
    digits 1 number = [Nat.digitChar number] := by
  rw [digits, Nat.toDigits_of_lt_base isDigit]
  rfl

/-- **The last digit of a number is its rest**, and the digits before it are those of the
quotient. -/
theorem digits_succ (width number : Nat) : digits (width + 2) number =
    digits (width + 1) (number / 16) ++ [Nat.digitChar (number % 16)] := by
  unfold digits
  by_cases isDigit : number < 16
  · rw [Nat.toDigits_of_lt_base isDigit, Nat.div_eq_of_lt isDigit, Nat.mod_eq_of_lt isDigit,
      Nat.toDigits_zero]
    show List.replicate (width + 1) '0' ++ _ = List.replicate width '0' ++ ['0'] ++ _
    rw [List.replicate_succ']
  · rw [Nat.toDigits_of_base_le (by decide) (Nat.le_of_not_lt isDigit), List.length_append,
      List.length_singleton, ← List.append_assoc]
    congr 3
    omega

theorem div_lt_of_lt_pow {width number : Nat} (bound : number < Nat.pow 16 (width + 2)) :
    number / 16 < Nat.pow 16 (width + 1) :=
  Nat.div_lt_of_lt_mul (Nat.mul_comm (Nat.pow 16 (width + 1)) 16 ▸ bound)

/-- A number that fits has as many digits as the width says, and they are hexadecimal. -/
theorem digits_wellFormed {width number : Nat} (bound : number < Nat.pow 16 (width + 1)) :
    (digits (width + 1) number).length = width + 1 ∧
      ∀ char ∈ digits (width + 1) number, char ∈ "0123456789abcdef".toList := by
  induction width generalizing number with
  | zero =>
    rw [digits_one bound]
    exact ⟨rfl, by simpa using digitChar_mem number bound⟩
  | succ width ih =>
    obtain ⟨length, hexadecimal⟩ := ih (div_lt_of_lt_pow bound)
    rw [digits_succ]
    refine ⟨by rw [List.length_append, length]; rfl, fun char member => ?_⟩
    rcases List.mem_append.mp member with before | last
    · exact hexadecimal char before
    · rw [List.mem_singleton.mp last]
      exact digitChar_mem _ (Nat.mod_lt _ (by decide))

/-- **Digits of one width are in the order of their numbers.** -/
theorem digits_lt_digits {width first second : Nat} (less : first < second)
    (bound : second < Nat.pow 16 (width + 1)) :
    digits (width + 1) first < digits (width + 1) second := by
  induction width generalizing first second with
  | zero =>
    rw [digits_one (Nat.lt_trans less bound), digits_one bound]
    exact List.cons_lt_cons_iff.mpr (.inl (digitChar_lt_digitChar second bound first less))
  | succ width ih =>
    have fits := div_lt_of_lt_pow bound
    rw [digits_succ, digits_succ]
    -- The numbers differ in the digits before the last one, or else in the last one.
    rcases Nat.lt_or_eq_of_le (Nat.div_le_div_right (c := 16) (Nat.le_of_lt less)) with
        higher | same
    · refine append_lt_append_of_lt ?_ (ih higher fits) _ _
      rw [(digits_wellFormed (Nat.lt_trans higher fits)).1, (digits_wellFormed fits).1]
    · rw [same]
      refine List.append_left_lt (List.cons_lt_cons_iff.mpr (.inl ?_))
      exact digitChar_lt_digitChar _ (Nat.mod_lt _ (by decide)) _ (by omega)

/-- **A greater number is a greater text.** -/
theorem idText_lt_idText {first second : Nat} (less : first < second)
    (bound : second < numberCount) : idText first < idText second := by
  rw [String.lt_iff, toList_idText, toList_idText]
  exact digits_lt_digits less (Nat.lt_trans bound (by decide))

/-- **The text of a number has 24 hexadecimal digits.** -/
theorem isIdText_idText {number : Nat} (bound : number < numberCount) :
    IsIdText (idText number) := by
  have fits : number < Nat.pow 16 (23 + 1) := Nat.lt_trans bound (by decide)
  have wellFormed := digits_wellFormed fits
  constructor
  · rw [toList_idText]
    exact wellFormed.1
  · rw [toList_idText]
    exact wellFormed.2

end MemoryStore

/-! ### Identifiers in a run of calls -/

namespace Insertion

/-- A document was stored that was given without an `id`. -/
def generated (insertion : Insertion) : Bool :=
  insertion.answer.isOk &&
    match insertion.given with
    | .object fields => !Fields.has fields idField
    | _ => false

/-- The `id` of the stored document has the number. -/
def Numbered (number : Nat) (insertion : Insertion) : Prop :=
  insertion.document.get? idField = some (.string (MemoryStore.idText number))

/-- Both documents have a text as `id`, and that of the first is smaller. -/
def Before (first second : Insertion) : Prop :=
  ∃ smaller greater : String, first.document.get? idField = some (.string smaller) ∧
    second.document.get? idField = some (.string greater) ∧ smaller < greater

end Insertion

namespace MemoryStore

variable {store : MemoryStore} {calls : List Call} {insertion : Insertion}

/-- **A generated `id` has the next number, which is used up.** -/
theorem numbered_of_call {call : Call} (isInsert : call.insertion? store = some insertion)
    (generated : insertion.generated = true) :
    insertion.Numbered store.nextId ∧ (call.apply store).nextId = store.nextId + 1 := by
  cases call with
  | create collection indexes => cases isInsert
  | insert collection document =>
    cases isInsert
    unfold Insertion.generated at generated
    rcases store.insert_cases collection document with ⟨fields, rfl, _, inserted⟩ |
        ⟨_, _, failure, inserted⟩
    · obtain ⟨_, lacks⟩ := Bool.and_eq_true_iff.mp generated
      have missing : Fields.has fields idField = false := by simpa using lacks
      constructor
      · show Json.get?
          (Insertion.document ⟨_, _, (store.insert collection (.object fields)).2⟩) idField = _
        rw [inserted]
        show Fields.get? (withId store.nextId fields).1 idField = _
        rw [withId, missing, if_neg Bool.false_ne_true, Fields.get?_insert, if_pos rfl]
      · rw [nextId_apply, Call.draws, missing]
        rfl
    · rw [inserted] at generated
      cases generated

/-- A number that is generated in a run of calls is one that the run uses up. -/
theorem numbered_of_mem (member : insertion ∈ store.insertions calls)
    (generated : insertion.generated = true) :
    ∃ number, store.nextId ≤ number ∧ number < (store.after calls).nextId ∧
      insertion.Numbered number := by
  induction calls generalizing store with
  | nil => cases member
  | cons call rest ih =>
    rw [insertions, List.mem_append, Option.mem_toList] at member
    rcases member with isFirst | isLater
    · obtain ⟨numbered, next⟩ := numbered_of_call isFirst generated
      refine ⟨store.nextId, Nat.le_refl _, ?_, numbered⟩
      rw [after_cons, nextId_after, next]
      omega
    · obtain ⟨number, atLeast, below, numbered⟩ := ih isLater
      rw [nextId_apply] at atLeast
      exact ⟨number, by omega, below, numbered⟩

/-- **In a run of calls the numbers of generated identifiers rise.** -/
theorem pairwise_numbered (store : MemoryStore) (calls : List Call) :
    ((store.insertions calls).filter Insertion.generated).Pairwise fun first second =>
      ∃ smaller greater, smaller < greater ∧ greater < (store.after calls).nextId ∧
        first.Numbered smaller ∧ second.Numbered greater := by
  induction calls generalizing store with
  | nil => exact List.Pairwise.nil
  | cons call rest ih =>
    rw [insertions, List.filter_append, List.pairwise_append]
    refine ⟨?_, ih (call.apply store), fun first isFirst second isLater => ?_⟩
    · cases call.insertion? store with
      | none => exact List.Pairwise.nil
      | some only => exact (List.pairwise_singleton _ only).filter _
    · obtain ⟨isCall, generated⟩ := List.mem_filter.mp isFirst
      obtain ⟨member, generatedLater⟩ := List.mem_filter.mp isLater
      obtain ⟨numbered, next⟩ := numbered_of_call (Option.mem_toList.mp isCall) generated
      obtain ⟨number, atLeast, below, numberedLater⟩ := numbered_of_mem member generatedLater
      exact ⟨store.nextId, number, by omega, below, numbered, numberedLater⟩

/-- **In a run of calls the generated identifiers rise as texts.** -/
theorem pairwise_before (few : (store.after calls).nextId ≤ numberCount) :
    ((store.insertions calls).filter Insertion.generated).Pairwise Insertion.Before := by
  refine (pairwise_numbered store calls).imp fun {first second} numbered => ?_
  obtain ⟨smaller, greater, less, below, isSmaller, isGreater⟩ := numbered
  exact ⟨_, _, isSmaller, isGreater, idText_lt_idText less (Nat.lt_of_lt_of_le below few)⟩

/-- What was stored without an `id` being generated is what was given. -/
theorem given_of_not_generated {kept : Json} (member : insertion ∈ store.insertions calls)
    (answered : insertion.answer = .ok kept) (notGenerated : insertion.generated ≠ true) :
    insertion.given = kept := by
  have completed := completed_of_mem member answered
  obtain ⟨collection, given, answer⟩ := insertion
  cases completed with
  | whole present => rfl
  | added missing =>
    refine absurd ?_ notGenerated
    obtain rfl : answer = _ := answered
    simp [Insertion.generated, missing, Except.isOk, Except.toBool]

/-! ### New identifiers -/

/-- A document without an `id` is stored with the next number. -/
theorem number_of_inserted {name : String} {fields : Fields Json} {kept : Json}
    (lacks : Fields.has fields idField = false)
    (inserted : (store.insert name (.object fields)).2 = .ok kept) :
    kept.get? idField = some (.string (idText store.nextId)) := by
  have isCall : (Call.insert name (.object fields)).insertion? store =
      some ⟨name, .object fields, .ok kept⟩ := by rw [Call.insertion?, inserted]
  have generated : Insertion.generated ⟨name, .object fields, .ok kept⟩ = true := by
    simp [Insertion.generated, lacks, Except.isOk, Except.toBool]
  exact (numbered_of_call isCall generated).1

/-- The number that comes next in a run of calls is that of no `id` that was generated before. -/
theorem number_ne_next (few : (store.after calls).nextId < numberCount)
    (member : insertion ∈ store.insertions calls) (generated : insertion.generated = true) :
    insertion.document.get? idField ≠ some (.string (idText (store.after calls).nextId)) := by
  intro same
  obtain ⟨number, _, below, isNumber⟩ := numbered_of_mem member generated
  have less := idText_lt_idText below few
  rw [Insertion.Numbered, same, Option.some.injEq, Json.string.injEq] at isNumber
  rw [isNumber] at less
  exact String.lt_irrefl _ less

/-- What a collection holds after calls on an empty store was stored by an insert into it. -/
theorem exists_stored_of_held {name : String} {held : Collection} {document : Json}
    (found : (after {} calls).collection? name = .ok held) (member : document ∈ held.documents) :
    ∃ insertion ∈ stored {} calls name, insertion.document = document := by
  rw [collection?_eq] at found
  split at found
  · cases found
    rw [documents_after, List.mem_append] at member
    exact List.mem_map.mp (member.resolve_left List.not_mem_nil)
  · cases found

/-- A document that was stored without an `id` being generated was inserted as it is. -/
theorem insert_mem_of_stored {name : String} (member : insertion ∈ store.stored calls name)
    (notGenerated : insertion.generated ≠ true) :
    Call.insert name insertion.document ∈ calls := by
  obtain ⟨isInsertion, storedIn⟩ := List.mem_filter.mp member
  obtain ⟨before, behind, isRun, _⟩ := mem_insertions isInsertion
  obtain ⟨succeeded, isName⟩ := Bool.and_eq_true_iff.mp storedIn
  obtain rfl := beq_iff_eq.mp isName
  obtain ⟨collection, given, answer⟩ := insertion
  cases answer with
  | error failure => cases succeeded
  | ok kept =>
    obtain rfl : given = kept := given_of_not_generated isInsertion rfl notGenerated
    rw [isRun]
    exact List.mem_append_right _ List.mem_cons_self

/-- **A generated `id` is new, unless a document was given it.** Take a store that a seed filled,
any calls on it, and a document without an `id` that is then stored.

* Its `id` has 24 hexadecimal digits and is none of those that were generated before.
* A document of the same collection that has this `id` already was inserted with it.
-/
theorem generated_id_new_unless_given {seed : Seed} {filled : MemoryStore}
    (made : ofSeed? seed = .ok filled) (calls : List Call)
    (few : (seed.calls ++ calls).countP Call.draws < numberCount) {name : String}
    {fields : Fields Json} (lacks : Fields.has fields idField = false) {kept : Json}
    (inserted : ((filled.after calls).insert name (.object fields)).2 = .ok kept) :
    ∃ text, kept.get? idField = some (.string text) ∧ IsIdText text ∧
      (∀ insertion ∈ insertions {} (seed.calls ++ calls), insertion.generated = true →
        insertion.document.get? idField ≠ some (.string text)) ∧
      ∀ held, (filled.after calls).collection? name = .ok held → ∀ document ∈ held.documents,
        document.get? idField = some (.string text) →
          Call.insert name document ∈ seed.calls ++ calls := by
  have filledBy : filled.after calls = after {} (seed.calls ++ calls) := by
    rw [ofSeed?_eq_after made, after_append]
  rw [filledBy] at inserted ⊢
  generalize seed.calls ++ calls = run at few inserted ⊢
  have next : (after {} run).nextId < numberCount := by
    rw [nextId_after]
    exact lt_of_eq_of_lt (Nat.zero_add _) few
  refine ⟨_, number_of_inserted lacks inserted, isIdText_idText next,
    fun insertion member generated => number_ne_next next member generated,
    fun held found document member hasId => ?_⟩
  obtain ⟨insertion, isStored, rfl⟩ := exists_stored_of_held found member
  have notGenerated : insertion.generated ≠ true := fun generated =>
    number_ne_next next (List.mem_filter.mp isStored).1 generated hasId
  exact insert_mem_of_stored isStored notGenerated

/-- A second document without an `id` beside one that was given an `id` of its own. -/
theorem generated_id_new_unless_given_solaris :
    ∃ (seed : Seed) (filled : MemoryStore) (calls : List Call) (kept : Json) (text : String),
      ofSeed? seed = .ok filled ∧ (seed.calls ++ calls).countP Call.draws < numberCount ∧
      ((filled.after calls).insert "books" (.object [("title", .string "Solaris")])).2 = .ok kept ∧
      kept.get? idField = some (.string text) ∧ IsIdText text ∧
      ∀ insertion ∈ insertions {} (seed.calls ++ calls), insertion.generated = true →
        insertion.document.get? idField ≠ some (.string text) := by
  let seed : Seed := ⟨[("books", ⟨[], [.object [("id", .string "b1")]]⟩)]⟩
  let calls : List Call := [.insert "books" (.object [("title", .string "Dune")])]
  have made : ∃ filled, ofSeed? seed = .ok filled := ⟨_, rfl⟩
  obtain ⟨filled, made⟩ := made
  have few : (seed.calls ++ calls).countP Call.draws < numberCount := by decide
  have inserted : ∃ kept, ((filled.after calls).insert "books"
      (.object [("title", .string "Solaris")])).2 = .ok kept := by
    cases made
    exact ⟨_, rfl⟩
  obtain ⟨kept, inserted⟩ := inserted
  obtain ⟨text, hasId, isText, new, _⟩ :=
    generated_id_new_unless_given made calls few (by decide) inserted
  exact ⟨seed, filled, calls, kept, text, made, few, inserted, hasId, isText, new⟩

/-- **A document can be given the `id` that is generated next**, so that two documents have it. -/
theorem generated_id_taken :
    ∃ (seed : Seed) (filled : MemoryStore) (held : Collection) (document kept : Json),
      ofSeed? seed = .ok filled ∧ filled.collection? "books" = .ok held ∧
      document ∈ held.documents ∧
      (filled.insert "books" (.object [("title", .string "Solaris")])).2 = .ok kept ∧
      document.get? idField = some (.string "000000000000000000000000") ∧
      kept.get? idField = some (.string "000000000000000000000000") := by
  let document : Json :=
    .object [("id", .string "000000000000000000000000"), ("title", .string "Dune")]
  let kept : Json :=
    .object [("id", .string "000000000000000000000000"), ("title", .string "Solaris")]
  let filled : MemoryStore := ⟨[("books", ⟨[], [document]⟩)], 0⟩
  have first : idText 0 = "000000000000000000000000" := by decide
  have inserted : (filled.insert "books" (.object [("title", .string "Solaris")])).2 =
      .ok kept := by
    show Except.ok (Json.object (withId 0 [("title", .string "Solaris")]).1) = _
    rw [withId, if_neg (by decide), first]
    rfl
  exact ⟨⟨[("books", ⟨[], [document]⟩)]⟩, filled, ⟨[], [document]⟩, document, kept, rfl, rfl,
    List.mem_singleton_self _, inserted, rfl, rfl⟩

end MemoryStore

end IndexGuard
