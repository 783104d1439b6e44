/-
**Page numbers and page sizes.**

* `saturatedValue_eq`: cutting off at every digit is cutting off the value;
* `leadingInt?_toString`: a number is read back from its decimal digits, up to the cut;
* `limit_bounds`: a page holds between 1 and 100 documents, whatever is asked for;
* `request_turnedTo`, `paging_turnedTo`: a page asked for at the end of a request decides the page
  and nothing else;
* `drop_skip`: no list is long enough to notice where the skip is cut off.
-/

import IndexGuard.Proofs.Gathering
import IndexGuard.Query.Paging
import IndexGuard.Query.Request
import Mathlib.Data.List.TakeWhile

namespace IndexGuard

/-! ### Numbers -/

namespace Text

/-- **Cutting off at every digit is cutting off the value.** -/
theorem saturatedValue_eq (digits : List Char) :
    saturatedValue digits = min largestInt64 (Nat.ofDigitChars 10 digits 0) := by
  -- The value so far is the exact one cut off, and what was cut off once stays so.
  have step : ∀ (digits : List Char) (value : Nat),
      digits.foldl (fun value digit => min largestInt64 (value * 10 + (digit.toNat - '0'.toNat)))
        (min largestInt64 value) = min largestInt64 (Nat.ofDigitChars 10 digits value) := by
    intro digits
    induction digits with
    | nil => exact fun _ => rfl
    | cons digit rest ih =>
      intro value
      rw [List.foldl_cons, Nat.ofDigitChars_cons, ← ih]
      congr 1
      omega
  exact step digits 0

theorem isBlank_of_isDigit {char : Char} (digit : char.isDigit = true) : isBlank char = false := by
  rw [Char.isDigit_iff_toNat] at digit
  have least : '0'.toNat = 48 := rfl
  have greatest : '9'.toNat = 57 := rfl
  unfold isBlank
  simp only [Bool.or_eq_false_iff, Bool.and_eq_false_iff, decide_eq_false_iff_not,
    beq_eq_false_iff_ne]
  omega

theorem leadingInt?_of_digits {text : String} (nonempty : text.toList ≠ [])
    (digits : ∀ char ∈ text.toList, char.isDigit = true) :
    leadingInt? text =
      some ((min largestInt64 (Nat.ofDigitChars 10 text.toList 0) : Nat) : Int) := by
  unfold leadingInt?
  generalize text.toList = chars at nonempty digits
  obtain ⟨first, rest, rfl⟩ := List.exists_cons_of_ne_nil nonempty
  have first_digit := digits first List.mem_cons_self
  have untrimmed : trimStart (first :: rest) = first :: rest := by
    unfold trimStart
    rw [List.dropWhile_cons_of_neg (by rw [isBlank_of_isDigit first_digit]; decide)]
  have all : (first :: rest).takeWhile Char.isDigit = first :: rest :=
    List.takeWhile_eq_self_iff.mpr digits
  rw [untrimmed]
  split
  rename_i negative unsigned same
  split at same
  · rename_i minus
    cases minus
    cases first_digit
  · rename_i plus
    cases plus
    cases first_digit
  · cases same
    simp only [all, List.isEmpty_cons, Bool.false_eq_true, if_false, saturatedValue_eq]

/-- **A number is read back from its decimal digits, up to the cut.** -/
theorem leadingInt?_toString (number : Nat) :
    leadingInt? (toString number) = some ((min largestInt64 number : Nat) : Int) := by
  have digits : (toString number).toList = Nat.toDigits 10 number := Nat.toList_repr
  rw [leadingInt?_of_digits (digits ▸ Nat.toDigits_ne_nil) fun char member =>
    Nat.isDigit_of_mem_toDigits (by decide) (by decide) (digits ▸ member), digits,
    Nat.ofDigitChars_ten_toDigits]

end Text

/-! ### Pages -/

namespace Paging

theorem positive_pos {default : Nat} (isPositive : 0 < default) (text : Option String) :
    0 < positive default text := by
  unfold positive
  split
  · exact isPositive
  · split
    · exact isPositive
    · omega

theorem positive_toString (default : Nat) {number : Nat} (isPositive : 1 ≤ number)
    (bounded : number ≤ largestInt64) : positive default (some (toString number)) = number := by
  unfold positive
  rw [Option.bind_some, Text.leadingInt?_toString, Nat.min_eq_right bounded]
  show (if (number : Int) = 0 then default else (max 1 (number : Int)).toNat) = number
  rw [if_neg (by omega)]
  omega

/-- **A page holds between 1 and 100 documents.** -/
theorem limit_bounds (params : Params) :
    1 ≤ (ofParams params).limit ∧ (ofParams params).limit ≤ 100 := by
  have asked : 0 < positive defaultLimit (params.text? Params.limitKey) :=
    positive_pos (by decide) _
  show 1 ≤ min 100 _ ∧ min 100 _ ≤ 100
  omega

/-- **No list is long enough to notice where the skip is cut off.** -/
theorem drop_skip {Item : Type} {items : List Item} (small : items.length ≤ largestUInt64)
    (paging : Paging) : items.drop paging.skip = items.drop ((paging.page - 1) * paging.limit) := by
  unfold skip
  rcases Nat.le_total ((paging.page - 1) * paging.limit) largestUInt64 with within | beyond
  · rw [Nat.min_eq_right within]
  · rw [Nat.min_eq_left beyond, List.drop_eq_nil_of_le (by omega),
      List.drop_eq_nil_of_le (by omega)]

end Paging

/-! ### Asking for a page -/

namespace Params

/-- The pairs of a request with a page asked for at the end. -/
def turnedTo (pairs : List (String × String)) (page limit : Nat) : List (String × String) :=
  pairs ++ [(pageKey, toString page), (limitKey, toString limit)]

theorem ofPairs_turnedTo (pairs : List (String × String)) (page limit : Nat) :
    ofPairs (turnedTo pairs page limit) =
      Fields.insert (Fields.insert (ofPairs pairs) pageKey (.single (toString page))) limitKey
        (.single (toString limit)) := by
  have pageAddress : Address.ofKey? pageKey = some (.plain pageKey) := by decide
  have limitAddress : Address.ofKey? limitKey = some (.plain limitKey) := by decide
  rw [ofPairs, turnedTo, List.foldl_append, ← ofPairs]
  simp only [List.foldl_cons, List.foldl_nil, addPair, pageAddress, limitAddress]
  rw [add_control _ (by decide), add_control _ (by decide)]

/-- **A request is known by what is left without the control keys, and by its `sort` text.** -/
theorem request_congr {first second : Params}
    (unsteered : first.withoutControls = second.withoutControls)
    (order : first.text? sortKey = second.text? sortKey) (injected : Filter) :
    Request.ofParams first injected = Request.ofParams second injected := by
  simp only [Request.ofParams, SortRequest.ofParams, unsteered, order]

/-- **A page asked for at the end changes neither the filter nor the order.** -/
theorem request_turnedTo (pairs : List (String × String)) (page limit : Nat) (injected : Filter) :
    Request.ofParams (ofPairs (turnedTo pairs page limit)) injected =
      Request.ofParams (ofPairs pairs) injected := by
  refine request_congr ?_ ?_ injected
  · rw [ofPairs_turnedTo, withoutControls_insert _ (by decide),
      withoutControls_insert _ (by decide)]
  · rw [ofPairs_turnedTo, text?_insert_single, if_neg (by decide), text?_insert_single,
      if_neg (by decide)]

/-- **A page asked for at the end is the page of the request.** -/
theorem paging_turnedTo (pairs : List (String × String)) {page limit : Nat} (isPage : 1 ≤ page)
    (pageBounded : page ≤ largestInt64) (isLimit : 1 ≤ limit) (limitBounded : limit ≤ 100) :
    Paging.ofParams (ofPairs (turnedTo pairs page limit)) = ⟨page, limit⟩ := by
  have asked : (ofPairs (turnedTo pairs page limit)).text? pageKey = some (toString page) := by
    rw [ofPairs_turnedTo, text?_insert_single, if_neg (by decide), text?_insert_single, if_pos rfl]
  have size : (ofPairs (turnedTo pairs page limit)).text? limitKey = some (toString limit) := by
    rw [ofPairs_turnedTo, text?_insert_single, if_pos rfl]
  have small : limit ≤ largestInt64 := Nat.le_trans limitBounded (by decide)
  rw [Paging.ofParams, asked, size, Paging.positive_toString _ isPage pageBounded,
    Paging.positive_toString _ isLimit small, Paging.largestLimit, Nat.min_eq_right limitBounded]

end Params

end IndexGuard
