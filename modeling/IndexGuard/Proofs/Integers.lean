/-
**Integers are compared as the numbers they are rounded to.**

A stored integer and the decimal digits of an asked one are both rounded to binary64 before they are
compared. Rounding keeps the order of integers, and tells those apart of which one is small:

* `roundHalfEven_mono`, `nearestMagnitude_integer`: an integer is rounded by its significand, which
  keeps order among integers of one binary length;
* `key_ofInt_mono`, `key_ofInt_strict`: rounding keeps the order of all integers, and the strict
  order when one of the two is below `exactCount` in absolute value, so that only large integers are
  `Conflated`;
* `Json.numberIn?_toString`: the digits of an integer stand for the rounded integer;
* `integers_compared_as_rounded`: what follows for the filters; `integers_conflated` is an integer
  that equals another.
-/

import IndexGuard.Proofs.Comparison
import IndexGuard.Proofs.Paging

namespace IndexGuard

namespace Binary64

/-! ### Rounding to an integer -/

theorem div_le_roundHalfEven (numerator denominator : Nat) :
    numerator / denominator ≤ roundHalfEven numerator denominator := by
  dsimp only [roundHalfEven]
  split
  · exact Nat.le_refl _
  · split <;> omega

theorem roundHalfEven_le (numerator denominator : Nat) :
    roundHalfEven numerator denominator ≤ numerator / denominator + 1 := by
  dsimp only [roundHalfEven]
  split
  · omega
  · split <;> omega

/-- **Rounding keeps order.** -/
theorem roundHalfEven_mono {first second : Nat} (below : first ≤ second) (denominator : Nat) :
    roundHalfEven first denominator ≤ roundHalfEven second denominator := by
  rcases Nat.lt_or_eq_of_le (Nat.div_le_div_right (c := denominator) below) with less | same
  · calc roundHalfEven first denominator ≤ first / denominator + 1 := roundHalfEven_le _ _
      _ ≤ second / denominator := less
      _ ≤ roundHalfEven second denominator := div_le_roundHalfEven _ _
  · have isFirst := Nat.div_add_mod first denominator
    have isSecond := Nat.div_add_mod second denominator
    rw [same] at isFirst
    have belowRest : first % denominator ≤ second % denominator := by omega
    dsimp only [roundHalfEven]
    rw [same]
    split <;> split <;> (try split) <;> (try split) <;> omega

theorem roundHalfEven_one (numerator : Nat) : roundHalfEven numerator 1 = numerator := by
  dsimp only [roundHalfEven]
  rw [Nat.mod_one, Nat.div_one]
  exact if_pos (by decide)

/-! ### Rounding integers -/

/-- How many integers from zero on are binary64 numbers before the first one that is not: what 53
bits can encode. -/
def exactCount : Nat := 0x20000000000000

/-- The significand of a positive integer: its first 53 bits, rounded. -/
def significand (value : Nat) : Nat :=
  roundHalfEven (value * Nat.pow 2 (52 - value.log2)) (Nat.pow 2 (value.log2 - 52))

variable {first second value : Nat}

theorem floorLog2_one (positive : value ≠ 0) : floorLog2 value 1 = value.log2 := by
  have noBits : Nat.log2 1 = 0 := by decide
  have above : Nat.pow 2 value.log2 ≤ value := Nat.log2_self_le positive
  unfold floorLog2
  simp only [noBits, Int.natCast_zero, Int.sub_zero, Int.toNat_natCast, Int.toNat_neg_natCast,
    Nat.one_mul]
  exact if_pos (Nat.le_trans above (Nat.le_of_eq (Nat.mul_one value).symm))

/-- **The magnitude of a rounded integer** is its significand behind its binary length. -/
theorem nearestMagnitude_integer (positive : value ≠ 0) :
    nearestMagnitude value 1 =
      min infinityMagnitude ((1022 + value.log2) * fractionCount + significand value) := by
  have places : min 1074 (52 - (value.log2 : Int)) = 52 - (value.log2 : Int) := by omega
  have up : (52 - (value.log2 : Int)).toNat = 52 - value.log2 := by omega
  have down : (-(52 - (value.log2 : Int))).toNat = value.log2 - 52 := by omega
  have exponent : (1074 - (52 - (value.log2 : Int))).toNat = 1022 + value.log2 := by omega
  unfold nearestMagnitude
  rw [if_neg positive]
  simp only [floorLog2_one positive, places, up, down, exponent, Nat.one_mul]
  rfl

/-- A positive integer, scaled to 53 bits, before it is rounded. -/
theorem scaled_bounds (positive : value ≠ 0) :
    fractionCount * Nat.pow 2 (value.log2 - 52) ≤ value * Nat.pow 2 (52 - value.log2) ∧
      value * Nat.pow 2 (52 - value.log2) < 2 * fractionCount * Nat.pow 2 (value.log2 - 52) := by
  have power : ∀ first second, Nat.pow 2 first * Nat.pow 2 second = Nat.pow 2 (first + second) :=
    fun first second => (Nat.pow_add 2 first second).symm
  have least : fractionCount = Nat.pow 2 52 := rfl
  have greatest : 2 * fractionCount = Nat.pow 2 53 := rfl
  have above : Nat.pow 2 value.log2 ≤ value := Nat.log2_self_le positive
  have below : value < Nat.pow 2 (value.log2 + 1) := Nat.lt_log2_self
  constructor
  · calc fractionCount * Nat.pow 2 (value.log2 - 52)
        = Nat.pow 2 value.log2 * Nat.pow 2 (52 - value.log2) := by
          rw [least, power, power]
          congr 1
          omega
      _ ≤ value * Nat.pow 2 (52 - value.log2) := Nat.mul_le_mul_right _ above
  · calc value * Nat.pow 2 (52 - value.log2)
        < Nat.pow 2 (value.log2 + 1) * Nat.pow 2 (52 - value.log2) :=
          Nat.mul_lt_mul_of_pos_right below (Nat.pow_pos (by decide))
      _ = 2 * fractionCount * Nat.pow 2 (value.log2 - 52) := by
          rw [greatest, power, power]
          congr 1
          omega

/-- **A significand has 53 bits**, or is the next number after those. -/
theorem significand_bounds (positive : value ≠ 0) :
    fractionCount ≤ significand value ∧ significand value ≤ 2 * fractionCount := by
  obtain ⟨above, below⟩ := scaled_bounds positive
  have denominator : 0 < Nat.pow 2 (value.log2 - 52) := Nat.pow_pos (by decide)
  constructor
  · exact Nat.le_trans ((Nat.le_div_iff_mul_le denominator).mpr above) (div_le_roundHalfEven _ _)
  · exact Nat.le_trans (roundHalfEven_le _ _) ((Nat.div_lt_iff_lt_mul denominator).mpr below)

theorem log2_lt_of_small (positive : value ≠ 0) (small : value < exactCount) : value.log2 < 53 :=
  (Nat.log2_lt positive).mpr small

/-- The significand of a small integer is the integer itself, moved up to 53 bits. -/
theorem significand_of_small (positive : value ≠ 0) (small : value < exactCount) :
    significand value = value * Nat.pow 2 (52 - value.log2) := by
  have short := log2_lt_of_small positive small
  have none : value.log2 - 52 = 0 := by omega
  rw [significand, none]
  exact roundHalfEven_one _

/-- A small integer is not rounded up to the next binary length. -/
theorem significand_lt_of_small (positive : value ≠ 0) (small : value < exactCount) :
    significand value < 2 * fractionCount := by
  have short := log2_lt_of_small positive small
  have none : value.log2 - 52 = 0 := by omega
  have unscaled : Nat.pow 2 0 = 1 := rfl
  have below := (scaled_bounds positive).2
  rwa [none, unscaled, Nat.mul_one, ← significand_of_small positive small] at below

theorem log2_mono (positive : first ≠ 0) (below : first ≤ second) : first.log2 ≤ second.log2 :=
  (Nat.le_log2 (by omega)).mpr (Nat.le_trans (Nat.log2_self_le positive) below)

/-- **Rounding keeps the order of natural numbers.** -/
theorem nearestMagnitude_mono (below : first ≤ second) :
    nearestMagnitude first 1 ≤ nearestMagnitude second 1 := by
  by_cases isZero : first = 0
  · subst isZero
    exact Nat.zero_le _
  · have positive : second ≠ 0 := by omega
    rw [nearestMagnitude_integer isZero, nearestMagnitude_integer positive]
    have isFirst := significand_bounds isZero
    have isSecond := significand_bounds positive
    rcases Nat.lt_or_eq_of_le (log2_mono isZero below) with shorter | same
    · unfold fractionCount at *
      omega
    · have rounded : significand first ≤ significand second := by
        unfold significand
        rw [same]
        exact roundHalfEven_mono (Nat.mul_le_mul_right _ below) _
      rw [same]
      omega

/-- **Rounding tells a small natural number from all greater ones.** -/
theorem nearestMagnitude_strict (less : first < second) (small : first < exactCount) :
    nearestMagnitude first 1 < nearestMagnitude second 1 := by
  have positive : second ≠ 0 := by omega
  have isSecond := significand_bounds positive
  by_cases isZero : first = 0
  · subst isZero
    show 0 < nearestMagnitude second 1
    rw [nearestMagnitude_integer positive]
    unfold infinityMagnitude fractionCount at *
    omega
  · rw [nearestMagnitude_integer isZero, nearestMagnitude_integer positive]
    have short := log2_lt_of_small isZero small
    have exact := significand_lt_of_small isZero small
    rcases Nat.lt_or_eq_of_le (log2_mono isZero (Nat.le_of_lt less)) with shorter | same
    · unfold infinityMagnitude fractionCount at *
      omega
    · have rounded : significand first < significand second := by
        have noneLeft : second.log2 - 52 = 0 := by omega
        rw [significand_of_small isZero small, significand, noneLeft, ← same]
        exact Nat.lt_of_lt_of_eq (Nat.mul_lt_mul_of_pos_right less (Nat.pow_pos (by decide)))
          (roundHalfEven_one _).symm
      rw [same] at short ⊢
      unfold infinityMagnitude fractionCount at *
      omega

/-! ### The order of rounded integers -/

variable {first second : Int}

theorem key_ofInt (value : Int) : (ofInt value).key =
    if value < 0 then -(nearestMagnitude value.natAbs 1 : Int)
    else nearestMagnitude value.natAbs 1 := by
  unfold ofInt nearest key
  simp only [decide_eq_true_eq]

/-- **Rounding keeps the order of integers.** -/
theorem key_ofInt_mono (below : first ≤ second) : (ofInt first).key ≤ (ofInt second).key := by
  rw [key_ofInt, key_ofInt]
  by_cases isNegative : second < 0
  · have rounded := nearestMagnitude_mono (show second.natAbs ≤ first.natAbs by omega)
    rw [if_pos isNegative, if_pos (by omega)]
    omega
  · rw [if_neg isNegative]
    split
    · omega
    · have rounded := nearestMagnitude_mono (show first.natAbs ≤ second.natAbs by omega)
      omega

/-- **Rounding tells a small integer from all others.** -/
theorem key_ofInt_strict (less : first < second)
    (small : first.natAbs < exactCount ∨ second.natAbs < exactCount) :
    (ofInt first).key < (ofInt second).key := by
  rw [key_ofInt, key_ofInt]
  by_cases isNegative : second < 0
  · have rounded := nearestMagnitude_strict (show second.natAbs < first.natAbs by omega) (by omega)
    rw [if_pos isNegative, if_pos (by omega)]
    omega
  · rw [if_neg isNegative]
    split
    · have rounded := nearestMagnitude_strict (show 0 < first.natAbs by omega) (by decide)
      omega
    · have rounded := nearestMagnitude_strict (show first.natAbs < second.natAbs by omega)
        (by omega)
      omega

/-- Different integers that are rounded to one number. -/
def Conflated (first second : Int) : Prop :=
  first ≠ second ∧ (ofInt first).key = (ofInt second).key

theorem Conflated.symm (conflated : Conflated first second) : Conflated second first :=
  ⟨Ne.symm conflated.1, conflated.2.symm⟩

/-- **Only large integers are rounded to the same number.** -/
theorem Conflated.large (conflated : Conflated first second) :
    exactCount ≤ first.natAbs ∧ exactCount ≤ second.natAbs := by
  obtain ⟨different, same⟩ := conflated
  rcases Int.lt_or_gt_of_ne different with less | greater
  · have strict := key_ofInt_strict less
    omega
  · have strict := key_ofInt_strict greater
    omega

/-- **Rounding reflects the order of integers that are not rounded to one number.** -/
theorem key_ofInt_lt_iff (apart : ¬ Conflated first second) :
    (ofInt first).key < (ofInt second).key ↔ first < second := by
  constructor
  · intro rounded
    by_contra notLess
    exact absurd (key_ofInt_mono (Int.not_lt.mp notLess)) (Int.not_le.mpr rounded)
  · intro less
    refine lt_of_le_of_ne (key_ofInt_mono (le_of_lt less)) fun same => ?_
    exact apart ⟨ne_of_lt less, same⟩

/-! ### Decimal digits -/

variable {chars : List Char}

theorem digitsValue_eq (chars : List Char) :
    digitsValue chars = Nat.ofDigitChars 10 chars 0 := by
  have step : (fun value digit => value * 10 + (Char.toNat digit - '0'.toNat)) =
      fun value digit => 10 * value + (Char.toNat digit - '0'.toNat) := by
    funext value digit
    rw [Nat.mul_comm]
  rw [digitsValue, step]
  rfl

/-- **Without an exponent, a decimal number is rounded like an integer.** -/
theorem ofDecimal_integer (negative : Bool) (value : Nat) :
    ofDecimal negative value 0 = nearest negative value 1 := by
  unfold ofDecimal
  by_cases isZero : value = 0
  · subst isZero
    rfl
  · rw [if_neg isZero, if_neg (by decide), if_neg (by omega)]
    show nearest negative (value * 1) 1 = _
    rw [Nat.mul_one]

theorem map_toLower_of_digits (digits : ∀ char ∈ chars, char.isDigit = true) :
    chars.map Char.toLower = chars := by
  refine (List.map_congr_left fun char member => ?_).trans (List.map_id chars)
  have isDigit := Char.isDigit_iff_toNat.mp (digits char member)
  have nine : '9'.toNat = 57 := rfl
  refine dif_neg fun upper => ?_
  have atLeast : 'A'.toNat ≤ char.toNat := upper.1
  have letter : 'A'.toNat = 65 := rfl
  omega

/-- Digits are read as the integer that they write. -/
theorem unsigned?_digits (negative : Bool) (nonempty : chars ≠ [])
    (digits : ∀ char ∈ chars, char.isDigit = true) :
    unsigned? negative chars = some (nearest negative (Nat.ofDigitChars 10 chars 0) 1) := by
  have whole : chars.takeWhile Char.isDigit = chars := List.takeWhile_eq_self_iff.mpr digits
  have none : chars.dropWhile Char.isDigit = [] := List.dropWhile_eq_nil_iff.mpr digits
  have some : chars.isEmpty = false := List.isEmpty_eq_false_iff.mpr nonempty
  unfold unsigned?
  simp only [whole, none, some, Bool.false_and, Bool.false_eq_true, if_false, exponent?,
    Option.map_some, List.append_nil, List.length_nil, Int.natCast_zero, Int.sub_zero]
  rw [ofDecimal_integer, digitsValue_eq]

theorem splitSign_digits (digits : ∀ char ∈ chars, char.isDigit = true) :
    splitSign chars = (false, chars) := by
  unfold splitSign
  split
  · cases digits '-' List.mem_cons_self
  · cases digits '+' List.mem_cons_self
  · rfl

/-- A text behind its sign, when that is made of digits. -/
theorem ofText?_digits {text : List Char} {negative : Bool}
    (signed : splitSign text = (negative, chars)) (nonempty : chars ≠ [])
    (digits : ∀ char ∈ chars, char.isDigit = true) :
    ofText? text = some (nearest negative (Nat.ofDigitChars 10 chars 0) 1) := by
  have noLetter : ∀ word : List Char, ∀ letter ∈ word, letter.isDigit = false → chars ≠ word := by
    rintro word letter member isLetter rfl
    rw [digits letter member] at isLetter
    cases isLetter
  have noInf := noLetter "inf".toList 'i' (by decide) (by decide)
  have noInfinity := noLetter "infinity".toList 'i' (by decide) (by decide)
  have noNaN := noLetter "nan".toList 'n' (by decide) (by decide)
  unfold ofText?
  rw [signed]
  simp only [map_toLower_of_digits digits, noInf, noInfinity, noNaN, decide_false, Bool.or_self,
    Bool.false_eq_true, if_false]
  exact unsigned?_digits negative nonempty digits

end Binary64

/-- A text without blanks is not trimmed. -/
theorem Text.trim_eq_self {chars : List Char} (unblank : ∀ char ∈ chars, isBlank char = false) :
    trim chars = chars := by
  have kept : ∀ chars : List Char, (∀ char ∈ chars, isBlank char = false) →
      chars.dropWhile isBlank = chars := by
    intro chars unblank
    cases chars with
    | nil => rfl
    | cons char rest =>
      refine List.dropWhile_cons_of_neg ?_
      rw [unblank char List.mem_cons_self]
      exact Bool.false_ne_true
  rw [trim, trimStart, kept chars unblank, trimEnd,
    kept _ fun char member => unblank char (List.mem_reverse.mp member), List.reverse_reverse]

/-- **The decimal digits of an integer stand for the rounded integer.** -/
theorem Json.numberIn?_toString (value : Int) :
    numberIn? (toString value) = some (Binary64.ofInt value) := by
  have digits : ∀ (number : Nat), ∀ char ∈ Nat.toDigits 10 number, char.isDigit = true :=
    fun number char => Nat.isDigit_of_mem_toDigits (by decide) (by decide)
  unfold numberIn?
  cases value with
  | ofNat number =>
    have written : (toString (Int.ofNat number)).toList = Nat.toDigits 10 number :=
      Nat.toList_repr
    have unblank : ∀ char ∈ Nat.toDigits 10 number, Text.isBlank char = false :=
      fun char member => Text.isBlank_of_isDigit (digits number char member)
    rw [written, Text.trim_eq_self unblank,
      Binary64.ofText?_digits (Binary64.splitSign_digits (digits number)) Nat.toDigits_ne_nil
        (digits number), Nat.ofDigitChars_ten_toDigits]
    rfl
  | negSucc number =>
    have written : (toString (Int.negSucc number)).toList =
        '-' :: Nat.toDigits 10 (number + 1) := by
      show ("-" ++ (number + 1).repr).toList = _
      rw [String.toList_append, Nat.toList_repr]
      rfl
    have signed : Binary64.splitSign ('-' :: Nat.toDigits 10 (number + 1)) =
        (true, Nat.toDigits 10 (number + 1)) := rfl
    have unblank : ∀ char ∈ '-' :: Nat.toDigits 10 (number + 1), Text.isBlank char = false := by
      intro char member
      rcases List.mem_cons.mp member with rfl | isDigit
      · decide
      · exact Text.isBlank_of_isDigit (digits _ char isDigit)
    rw [written, Text.trim_eq_self unblank,
      Binary64.ofText?_digits signed Nat.toDigits_ne_nil (digits (number + 1)),
      Nat.ofDigitChars_ten_toDigits, Binary64.ofInt, decide_eq_true (Int.negSucc_lt_zero number)]
    rfl

/-! ### Filters on a stored integer -/

/-- The integer lies on the asked side of a bound. -/
def RangeOp.Holds : RangeOp → Int → Int → Prop
  | greater, value, bound => bound < value
  | greaterOrEqual, value, bound => bound ≤ value
  | less, value, bound => value < bound
  | lessOrEqual, value, bound => value ≤ bound

theorem RangeOp.accepts_compare_iff (op : RangeOp) (value bound : Int) :
    op.accepts (compare value bound) = true ↔ op.Holds value bound := by
  cases op with
  | greater => exact beq_iff_eq.trans compare_gt_iff_gt
  | greaterOrEqual => exact bne_iff_ne.trans compare_ge_iff_ge
  | less => exact beq_iff_eq.trans compare_lt_iff_lt
  | lessOrEqual => exact bne_iff_ne.trans compare_le_iff_le

section Stored

open Binary64 (ofInt exactCount Conflated key_ofInt_mono key_ofInt_lt_iff)

variable {field : String} {document : Json} {stored : Int}

theorem Json.order?_integer (stored asked : Int) :
    (int stored).order? (.string (toString asked)) =
      some (compare (ofInt stored).key (ofInt asked).key) := by
  show (numberIn? (toString asked)).bind (ofInt stored).compare? = _
  rw [numberIn?_toString]
  exact Binary64.compare?_eq_some (Binary64.isNaN_ofInt stored) (Binary64.isNaN_ofInt asked)

/-- **An equality filter compares the rounded integers.** -/
theorem accepts_equals_integer (found : document.get? field = some (.int stored)) (asked : Int) :
    (Filter.equals field (.string (toString asked))).accepts document = true ↔
      (ofInt stored).key = (ofInt asked).key := by
  have isNumber : (Json.int stored).HasOrder := trivial
  rw [accepts_equals found rfl, Json.matchesValue_eq_order isNumber, Json.order?_integer,
    beq_iff_eq, Option.some.injEq, compare_eq_iff_eq]

/-- **A range filter compares the rounded integers.** -/
theorem accepts_range_integer (found : document.get? field = some (.int stored)) (op : RangeOp)
    (asked : Int) : (Filter.range field op (.string (toString asked))).accepts document = true ↔
      op.Holds (ofInt stored).key (ofInt asked).key := by
  rw [accepts_range found rfl, Json.order?_integer, ← op.accepts_compare_iff]
  rfl

/-- **Integers are compared as the numbers they are rounded to.** On a field that holds an integer,
the filters for the decimal digits of an asked integer compare the two as rounded to binary64.

* So they compare the integers themselves, unless these differ and are rounded to one number. That
  happens to none below `exactCount` in absolute value.
* Always, the filters for a side with its bound accept whatever they should, and the filters for a
  strict side accept nothing else than they should.
-/
theorem integers_compared_as_rounded (found : document.get? field = some (.int stored))
    (asked : Int) :
    ((Filter.equals field (.string (toString asked))).accepts document = true ↔
      (ofInt stored).key = (ofInt asked).key) ∧
    (∀ op, (Filter.range field op (.string (toString asked))).accepts document = true ↔
      op.Holds (ofInt stored).key (ofInt asked).key) ∧
    (¬ Conflated stored asked →
      ((Filter.equals field (.string (toString asked))).accepts document = true ↔
        stored = asked) ∧
      ∀ op, (Filter.range field op (.string (toString asked))).accepts document = true ↔
        op.Holds stored asked) ∧
    (Conflated stored asked → exactCount ≤ stored.natAbs ∧ exactCount ≤ asked.natAbs) ∧
    (∀ op, op = .greaterOrEqual ∨ op = .lessOrEqual → op.Holds stored asked →
      (Filter.range field op (.string (toString asked))).accepts document = true) ∧
    ∀ op, op = .greater ∨ op = .less →
      (Filter.range field op (.string (toString asked))).accepts document = true →
      op.Holds stored asked := by
  have isEqual := accepts_equals_integer found asked
  have isRange := fun op => accepts_range_integer found op asked
  refine ⟨isEqual, isRange, fun apart => ?_, Conflated.large, ?_, ?_⟩
  · have less := key_ofInt_lt_iff apart
    have greater := key_ofInt_lt_iff fun conflated => apart (Conflated.symm conflated)
    refine ⟨isEqual.trans ?_, fun op => (isRange op).trans ?_⟩
    · omega
    · cases op with
      | greater => exact greater
      | greaterOrEqual => exact not_lt.symm.trans ((not_congr less).trans not_lt)
      | less => exact less
      | lessOrEqual => exact not_lt.symm.trans ((not_congr greater).trans not_lt)
  · rintro op (rfl | rfl) holds
    · exact (isRange _).mpr (key_ofInt_mono holds)
    · exact (isRange _).mpr (key_ofInt_mono holds)
  · rintro op (rfl | rfl) accepted
    · by_contra notGreater
      exact absurd (key_ofInt_mono (not_lt.mp notGreater)) (not_le.mpr ((isRange _).mp accepted))
    · by_contra notLess
      exact absurd (key_ofInt_mono (not_lt.mp notLess)) (not_le.mpr ((isRange _).mp accepted))

/-- The greatest integer that can be stored, against a small one. -/
theorem integers_compared_as_rounded_isbn :
    ∃ document : Json, document.get? "isbn" = some (.int 18446744073709551615) ∧
      (Filter.equals "isbn" (.string (toString (-7 : Int)))).accepts document = false ∧
      (Filter.range "isbn" .greater (.string (toString (-7 : Int)))).accepts document = true := by
  let document : Json := .object [("isbn", .int 18446744073709551615)]
  have found : document.get? "isbn" = some (.int 18446744073709551615) := rfl
  obtain ⟨_, _, compared, large, _⟩ := integers_compared_as_rounded found (-7)
  obtain ⟨equals, range⟩ := compared fun conflated => absurd (large conflated).2 (by decide)
  refine ⟨document, found, ?_, (range .greater).mpr (by decide : (-7 : Int) < _)⟩
  rw [← Bool.not_eq_true, equals]
  decide

/-- **Two integers can be rounded to one number**: the first integer that is no binary64 number
equals the one before it, and is not greater. -/
theorem integers_conflated :
    ∃ document : Json, document.get? "isbn" = some (.int 9007199254740993) ∧
      (Filter.equals "isbn" (.string "9007199254740992")).accepts document = true ∧
      (Filter.range "isbn" .greater (.string "9007199254740992")).accepts document = false :=
  ⟨.object [("isbn", .int 9007199254740993)], rfl, by decide +kernel, by decide +kernel⟩

end Stored

end IndexGuard
