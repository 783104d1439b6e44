/-
**The arithmetic of pages is exact.**

The page and the page size are read off numerals: an optional sign and decimal digits. What counts
is the longest numeral at the front of a text, behind blanks (`Text.LeadingValue`), and its exact
value, however many digits it has:

* `Signed.eq_sign_append`: every numeral at the front has the sign that is read and some of the
  digits that are read;
* `exists_leadingValue`, `LeadingValue.unique`: every text has one leading value, and what is read
  is this value, cut off at the ends of the 64-bit range;
* `isValid_of_sign_of_digits`: counted in bytes, signs and digits end where a character ends;
* `Paging.ofParams_exact` puts this together for the page, its size, and the documents before it.
-/

import IndexGuard.Proofs.Bytes
import IndexGuard.Proofs.Paging
import Mathlib.Algebra.Group.Int.Defs
import Mathlib.Algebra.Group.Nat.Defs
import Mathlib.Data.List.Infix

namespace IndexGuard

namespace Text

/-! ### Numerals -/

/-- An optional sign, and the factor that it stands for. -/
inductive Sign : List Char → Int → Prop
  | none : Sign [] 1
  | plus : Sign ['+'] 1
  | minus : Sign ['-'] (-1)

/-- The characters are an optional sign and at least one decimal digit, and stand for a value. -/
inductive Numeral : List Char → Int → Prop
  | mk {sign digits : List Char} {factor : Int} : Sign sign factor → digits ≠ [] →
      (∀ char ∈ digits, char.isDigit = true) →
      Numeral (sign ++ digits) (factor * Nat.ofDigitChars 10 digits 0)

/-- The characters stand at the front of a text, behind blanks if there are any. -/
def AtFront (text : String) (chars : List Char) : Prop :=
  ∃ blanks rest, text.toList = blanks ++ chars ++ rest ∧ ∀ char ∈ blanks, isBlank char = true

/-- The exact value of the longest numeral at the front of a text, if there is one. -/
inductive LeadingValue (text : String) : Option Int → Prop
  | none : (∀ chars value, Numeral chars value → ¬ AtFront text chars) → LeadingValue text none
  | some {chars : List Char} {value : Int} : Numeral chars value → AtFront text chars →
      (∀ others other, Numeral others other → AtFront text others →
        others.length ≤ chars.length) → LeadingValue text (some value)

/-- The value, cut off at the ends of the 64-bit range. -/
def cut (value : Int) : Int := max (-largestInt64) (min largestInt64 value)

variable {text : String} {chars sign rest : List Char} {factor value : Int}

/-- A numeral has a first character, which is not blank. -/
theorem Numeral.exists_cons (numeral : Numeral chars value) :
    ∃ first others, chars = first :: others ∧ isBlank first = false := by
  cases numeral with
  | @mk sign digits factor isSign nonempty areDigits =>
    cases isSign with
    | none =>
      obtain ⟨first, others, rfl⟩ := List.exists_cons_of_ne_nil nonempty
      exact ⟨first, others, rfl, isBlank_of_isDigit (areDigits first List.mem_cons_self)⟩
    | plus => exact ⟨'+', digits, rfl, rfl⟩
    | minus => exact ⟨'-', digits, rfl, rfl⟩

/-- **A numeral stands at the front exactly when the text behind the blanks begins with it.** -/
theorem atFront_iff (numeral : Numeral chars value) :
    AtFront text chars ↔ chars <+: trimStart text.toList := by
  obtain ⟨first, others, rfl, solid⟩ := numeral.exists_cons
  unfold trimStart
  constructor
  · rintro ⟨blanks, rest, split, blank⟩
    rw [split, List.append_assoc, List.dropWhile_append_of_pos blank, List.cons_append,
      List.dropWhile_cons_of_neg (by rw [solid]; exact Bool.false_ne_true)]
    exact List.prefix_append (first :: others) rest
  · rintro ⟨rest, behind⟩
    refine ⟨text.toList.takeWhile isBlank, rest, ?_, fun char member => ?_⟩
    · rw [List.append_assoc, behind, List.takeWhile_append_dropWhile]
    · exact List.mem_takeWhile_imp member

/-! ### Reading -/

/-- The characters are a sign, which may be absent, and the rest behind it. -/
structure Signed (chars sign rest : List Char) (factor : Int) : Prop where
  isSign : Sign sign factor
  split : chars = sign ++ rest
  unsigned : sign = [] → rest.head? ≠ some '+' ∧ rest.head? ≠ some '-'

/-- **What is read is a sign and the digits behind it**, if there are any. -/
theorem exists_signed (text : String) : ∃ sign rest factor,
    Signed (trimStart text.toList) sign rest factor ∧
      leadingInt? text = if (rest.takeWhile Char.isDigit).isEmpty then none
        else some (factor * saturatedValue (rest.takeWhile Char.isDigit)) := by
  unfold leadingInt?
  generalize trimStart text.toList = chars
  split
  rename_i negative rest same
  split at same
  · cases same
    refine ⟨['-'], rest, -1, ⟨.minus, rfl, nofun⟩, ?_⟩
    rw [Int.neg_one_mul]
    rfl
  · cases same
    refine ⟨['+'], rest, 1, ⟨.plus, rfl, nofun⟩, ?_⟩
    rw [Int.one_mul]
    rfl
  · rename_i notMinus notPlus
    cases same
    refine ⟨[], chars, 1, ⟨.none, rfl, fun _ => ⟨fun plus => ?_, fun minus => ?_⟩⟩, ?_⟩
    · obtain ⟨others, rfl⟩ := List.head?_eq_some_iff.mp plus
      exact notPlus others rfl
    · obtain ⟨others, rfl⟩ := List.head?_eq_some_iff.mp minus
      exact notMinus others rfl
    · rw [Int.one_mul]
      rfl

/-- Digits at the front are among those that are read. -/
theorem prefix_takeWhile {digits : List Char} (areDigits : ∀ char ∈ digits, char.isDigit = true)
    (leads : digits <+: rest) : digits <+: rest.takeWhile Char.isDigit := by
  obtain ⟨behind, rfl⟩ := leads
  rw [List.takeWhile_append_of_pos areDigits]
  exact List.prefix_append _ _

/-- **Every numeral at the front has the sign that is read and some of the digits.** -/
theorem Signed.eq_sign_append (signed : Signed chars sign rest factor) {numeral : List Char}
    (isNumeral : Numeral numeral value) (leads : numeral <+: chars) :
    ∃ digits, digits ≠ [] ∧ digits <+: rest.takeWhile Char.isDigit ∧ numeral = sign ++ digits ∧
      value = factor * Nat.ofDigitChars 10 digits 0 := by
  obtain ⟨isSign, rfl, unsigned⟩ := signed
  cases isNumeral with
  | @mk other digits otherFactor isOther nonempty areDigits =>
    -- Both signs are one, since no digit is a sign.
    have same : other = sign ∧ otherFactor = factor := by
      obtain ⟨first, others, rfl⟩ := List.exists_cons_of_ne_nil nonempty
      have isDigit := areDigits first List.mem_cons_self
      obtain ⟨behind, joined⟩ := leads
      cases isOther with
      | none =>
        cases isSign with
        | none => exact ⟨rfl, rfl⟩
        | plus =>
          rw [(List.cons.inj joined).1] at isDigit
          cases isDigit
        | minus =>
          rw [(List.cons.inj joined).1] at isDigit
          cases isDigit
      | plus =>
        cases isSign with
        | none => exact absurd (congrArg List.head? joined).symm (unsigned rfl).1
        | plus => exact ⟨rfl, rfl⟩
        | minus => cases (List.cons.inj joined).1
      | minus =>
        cases isSign with
        | none => exact absurd (congrArg List.head? joined).symm (unsigned rfl).2
        | plus => cases (List.cons.inj joined).1
        | minus => exact ⟨rfl, rfl⟩
    obtain ⟨rfl, rfl⟩ := same
    refine ⟨digits, nonempty, prefix_takeWhile areDigits ?_, rfl, rfl⟩
    exact (List.prefix_append_right_inj _).mp leads

/-- **The longest numeral at the front is what is read**, and its value is read exactly, up to the
cut. -/
theorem exists_leadingValue (text : String) :
    ∃ value, LeadingValue text value ∧ leadingInt? text = value.map cut := by
  obtain ⟨sign, rest, factor, signed, reads⟩ := exists_signed text
  rw [reads]
  by_cases none : rest.takeWhile Char.isDigit = []
  · refine ⟨.none, .none fun chars value numeral front => ?_, ?_⟩
    · obtain ⟨digits, nonempty, leads, _⟩ :=
        signed.eq_sign_append numeral ((atFront_iff numeral).mp front)
      rw [none, List.prefix_nil] at leads
      exact nonempty leads
    · rw [none]
      rfl
  · have numeral : Numeral (sign ++ rest.takeWhile Char.isDigit)
        (factor * Nat.ofDigitChars 10 (rest.takeWhile Char.isDigit) 0) :=
      .mk signed.isSign none fun char member => List.mem_takeWhile_imp member
    have leads : sign ++ rest.takeWhile Char.isDigit <+: trimStart text.toList := by
      rw [signed.split]
      exact (List.prefix_append_right_inj sign).mpr (List.takeWhile_prefix _)
    refine ⟨.some _, .some numeral ((atFront_iff numeral).mpr leads) ?_, ?_⟩
    · intro others other isOther front
      obtain ⟨digits, _, shorter, rfl, _⟩ :=
        signed.eq_sign_append isOther ((atFront_iff isOther).mp front)
      exact ((List.prefix_append_right_inj sign).mpr shorter).length_le
    · rw [if_neg (by simpa using none), saturatedValue_eq, Option.map_some, cut]
      have isSign := signed.isSign
      generalize Nat.ofDigitChars 10 (rest.takeWhile Char.isDigit) 0 = value
      cases isSign <;> congr 1 <;> omega

/-- A text has one leading value. -/
theorem LeadingValue.unique {first second : Option Int} (isFirst : LeadingValue text first)
    (isSecond : LeadingValue text second) : first = second := by
  obtain ⟨sign, rest, factor, signed, _⟩ := exists_signed text
  cases isFirst with
  | none nowhere =>
    cases isSecond with
    | none => rfl
    | some numeral front => exact absurd front (nowhere _ _ numeral)
  | some numeral front longest =>
    cases isSecond with
    | none nowhere => exact absurd front (nowhere _ _ numeral)
    | some other again longestOther =>
      -- Both are the sign and some of the digits, and equally long.
      obtain ⟨digits, _, leads, rfl, rfl⟩ :=
        signed.eq_sign_append numeral ((atFront_iff numeral).mp front)
      obtain ⟨others, _, leadsOther, rfl, rfl⟩ :=
        signed.eq_sign_append other ((atFront_iff other).mp again)
      have shorter := longest _ _ other again
      have longer := longestOther _ _ numeral front
      rw [List.length_append, List.length_append] at shorter longer
      have comparable := List.prefix_of_prefix_length_le leads leadsOther (by omega)
      rw [comparable.eq_of_length (by omega)]

/-! ### Bytes -/

/-- The byte is the code of a decimal digit. -/
def isDigitByte (byte : UInt8) : Bool := 48 ≤ byte && byte ≤ 57

/-- **Behind a sign and behind digits at the front, a character begins.** -/
theorem isValid_of_sign_of_digits (text : String) :
    ((Utf8.encode text).head? = some 43 ∨ (Utf8.encode text).head? = some 45 →
      String.Pos.Raw.IsValid text ⟨1⟩) ∧
    String.Pos.Raw.IsValid text ⟨((Utf8.encode text).takeWhile isDigitByte).length⟩ := by
  constructor
  · intro signed
    obtain ⟨sign, first, ascii⟩ :
        ∃ sign, (Utf8.encode text).head? = some sign ∧ sign < 128 := by
      rcases signed with plus | minus
      · exact ⟨43, plus, by decide⟩
      · exact ⟨45, minus, by decide⟩
    obtain ⟨others, encoded⟩ := List.head?_eq_some_iff.mp first
    refine isValid_of_ascii ?_ ?_
    · rw [encoded, List.length_cons]
      omega
    · rw [encoded, List.take_succ_cons, List.take_zero, List.forall_mem_singleton]
      exact ascii
  · have leads := List.takeWhile_prefix isDigitByte (l := Utf8.encode text)
    refine isValid_of_ascii leads.length_le fun byte member => ?_
    rw [← List.prefix_iff_eq_take.mp leads] at member
    have digit := List.mem_takeWhile_imp member
    simp only [isDigitByte, Bool.and_eq_true, decide_eq_true_eq] at digit
    exact UInt8.lt_of_le_of_lt digit.2 (by decide)

end Text

/-! ### Pages -/

open Text (LeadingValue)

namespace Paging

/-- The integer that a parameter asks for: that at the front of its text, if it has a single one. -/
inductive Asked (params : Params) (key : String) : Option Int → Prop
  | missing : (∀ text, Fields.get? params key ≠ some (.single text)) → Asked params key none
  | given {text : String} {value : Option Int} : Fields.get? params key = some (.single text) →
      LeadingValue text value → Asked params key value

/-- The page for an integer that is asked for, in exact arithmetic. -/
def pageOf : Option Int → Int
  | none => 1
  | some value => if value = 0 then 1 else max 1 (min value (2 ^ 63 - 1))

/-- The page size for an integer that is asked for, in exact arithmetic. -/
def limitOf : Option Int → Int
  | none => 100
  | some value => if value = 0 then 100 else min 100 (max 1 value)

variable {params : Params} {key : String}

/-- A parameter asks for one integer or for none. -/
theorem Asked.unique {first second : Option Int} (isFirst : Asked params key first)
    (isSecond : Asked params key second) : first = second := by
  cases isFirst with
  | missing absent =>
    cases isSecond with
    | missing => rfl
    | given found => exact absurd found (absent _)
  | given found leading =>
    cases isSecond with
    | missing absent => exact absurd found (absent _)
    | given again other =>
      rw [found] at again
      cases again
      exact leading.unique other

/-- **What is read of a parameter is the integer that it asks for, cut off.** -/
theorem exists_asked (params : Params) (key : String) :
    ∃ value, Asked params key value ∧
      (params.text? key).bind Text.leadingInt? = value.map Text.cut := by
  cases read : params.text? key with
  | none =>
    refine ⟨none, .missing fun text found => ?_, rfl⟩
    rw [Params.text?_eq_some_iff.mpr found] at read
    cases read
  | some text =>
    obtain ⟨value, leading, reads⟩ := Text.exists_leadingValue text
    exact ⟨value, .given (Params.text?_eq_some_iff.mp read) leading, reads⟩

/-- A positive number out of a parameter is the integer that it asks for, cut off. -/
theorem positive_eq (default : Nat) {value : Option Int}
    (reads : (params.text? key).bind Text.leadingInt? = value.map Text.cut) :
    (positive default (params.text? key) : Int) =
      value.elim (default : Int) fun value =>
        if value = 0 then (default : Int) else max 1 (Text.cut value) := by
  unfold positive
  rw [reads]
  cases value with
  | none => rfl
  | some value =>
    have zero : Text.cut value = 0 ↔ value = 0 := by
      unfold Text.cut largestInt64
      omega
    simp only [Option.map_some, Option.elim_some, zero]
    split
    · rfl
    · omega

theorem page_eq {value : Option Int}
    (reads : (params.text? Params.pageKey).bind Text.leadingInt? = value.map Text.cut) :
    ((ofParams params).page : Int) = pageOf value := by
  have read := positive_eq firstPage reads
  show (positive firstPage _ : Int) = _
  rw [read]
  cases value with
  | none => rfl
  | some value =>
    simp only [Option.elim_some, pageOf, firstPage, Text.cut, largestInt64]
    split <;> omega

theorem limit_eq {value : Option Int}
    (reads : (params.text? Params.limitKey).bind Text.leadingInt? = value.map Text.cut) :
    ((ofParams params).limit : Int) = limitOf value := by
  have read := positive_eq defaultLimit reads
  have bounded : ((ofParams params).limit : Int) =
      min 100 (positive defaultLimit (params.text? Params.limitKey) : Int) := by
    show ((min 100 (positive defaultLimit (params.text? Params.limitKey)) : Nat) : Int) = _
    omega
  rw [bounded, read]
  cases value with
  | none => rfl
  | some value =>
    simp only [Option.elim_some, limitOf, defaultLimit, Text.cut, largestInt64]
    split <;> omega

theorem skip_eq (paging : Paging) : (paging.skip : Int) =
    min (max ((paging.page : Int) - 1) 0 * paging.limit) (2 ^ 64 - 1) := by
  have before : max ((paging.page : Int) - 1) 0 = ((paging.page - 1 : Nat) : Int) := by omega
  rw [before, ← Int.natCast_mul]
  show ((min largestUInt64 ((paging.page - 1) * paging.limit) : Nat) : Int) = _
  generalize (paging.page - 1) * paging.limit = documents
  unfold largestUInt64
  omega

/-- **The arithmetic of pages is exact and total.** For any parameters:

* each asks for one integer or for none, that of the longest numeral at the front of its text;
* the page is 1 when this is missing or zero, and otherwise the integer between 1 and 2^63 - 1 that
  is nearest to it; the page size is 100 when it is missing or zero, and otherwise the nearest
  between 1 and 100;
* the documents before a page are all those on the pages before it, or 2^64 - 1 if they are more;
* the page and its size are positive, the size is at most 100, and the page and the integer that is
  read off any text fit into 64 bits, also with the other sign;
* counted in bytes, a sign and the digits at the front of a text end where a character ends.
-/
theorem ofParams_exact :
    (∀ params key, ∃! value, Asked params key value) ∧
    (∀ params, ∃ page limit,
      Asked params Params.pageKey page ∧ Asked params Params.limitKey limit ∧
      ((ofParams params).page : Int) = pageOf page ∧
      ((ofParams params).limit : Int) = limitOf limit) ∧
    (∀ paging : Paging, (paging.skip : Int) =
      min (max ((paging.page : Int) - 1) 0 * paging.limit) (2 ^ 64 - 1)) ∧
    (∀ params, 1 ≤ (ofParams params).page ∧ (ofParams params).page < 2 ^ 63 ∧
      1 ≤ (ofParams params).limit ∧ (ofParams params).limit ≤ 100) ∧
    (∀ text value, Text.leadingInt? text = some value → -(2 ^ 63) < value ∧ value < 2 ^ 63) ∧
    ∀ text : String,
      ((Text.Utf8.encode text).head? = some 43 ∨ (Text.Utf8.encode text).head? = some 45 →
        String.Pos.Raw.IsValid text ⟨1⟩) ∧
      String.Pos.Raw.IsValid text
        ⟨((Text.Utf8.encode text).takeWhile Text.isDigitByte).length⟩ := by
  refine ⟨fun params key => ?_, fun params => ?_, skip_eq, fun params => ?_,
    fun text value reads => ?_, Text.isValid_of_sign_of_digits⟩
  · obtain ⟨value, asked, _⟩ := exists_asked params key
    exact ⟨value, asked, fun other again => again.unique asked⟩
  · obtain ⟨first, askedFirst, readsFirst⟩ := exists_asked params Params.pageKey
    obtain ⟨second, askedSecond, readsSecond⟩ := exists_asked params Params.limitKey
    exact ⟨first, second, askedFirst, askedSecond, page_eq readsFirst, limit_eq readsSecond⟩
  · obtain ⟨value, _, reads⟩ := exists_asked params Params.pageKey
    have page := page_eq reads
    have within : 1 ≤ pageOf value ∧ pageOf value < 2 ^ 63 := by
      cases value with
      | none => decide
      | some value =>
        unfold pageOf
        simp only
        split <;> omega
    exact ⟨by omega, by omega, limit_bounds params⟩
  · obtain ⟨exact, _, isCut⟩ := Text.exists_leadingValue text
    rw [reads] at isCut
    obtain ⟨value, _, rfl⟩ := Option.map_eq_some_iff.mp isCut.symm
    unfold Text.cut largestInt64
    omega

end Paging

end IndexGuard
