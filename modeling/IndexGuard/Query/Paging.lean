/-
**Pages.**

The page number and the page size are read off the front of a text: blanks, a sign and decimal
digits, with the value cut off at the ends of the 64-bit range. Anything else leaves the default; a
negative value counts as 1, and no page is larger than `Paging.largestLimit`.
-/

import IndexGuard.Query.Params

namespace IndexGuard

/-- The largest 64-bit integer with a sign. -/
def largestInt64 : Nat := 0x7FFFFFFFFFFFFFFF

/-- The largest 64-bit integer without a sign. -/
def largestUInt64 : Nat := 0xFFFFFFFFFFFFFFFF

namespace Text

/-- The value of a run of digits, cut off at the largest 64-bit integer. -/
def saturatedValue (digits : List Char) : Nat :=
  digits.foldl (fun value digit => min largestInt64 (value * 10 + (digit.toNat - '0'.toNat))) 0

/-- The integer at the front of a text. -/
def leadingInt? (text : String) : Option Int :=
  let (negative, rest) :=
    match trimStart text.toList with
    | '-' :: rest => (true, rest)
    | '+' :: rest => (false, rest)
    | rest => (false, rest)
  let digits := rest.takeWhile Char.isDigit
  if digits.isEmpty then none
  else some (if negative then -(saturatedValue digits : Int) else saturatedValue digits)

end Text

/-- A page of a list: its number, from 1, and its size. -/
structure Paging where
  page : Nat
  limit : Nat
  deriving DecidableEq

namespace Paging

/-- The number of the first page. -/
def firstPage : Nat := 1

/-- The size of a page when none is asked for. -/
def defaultLimit : Nat := 100

/-- The size of the largest page. -/
def largestLimit : Nat := 100

/-- The first page of the default size. -/
def default : Paging := ⟨firstPage, defaultLimit⟩

/-- How many documents stand before the page, cut off at the largest 64-bit integer. -/
def skip (paging : Paging) : Nat :=
  min largestUInt64 ((paging.page - 1) * paging.limit)

/-- A positive number out of a parameter: a default for a missing or zero value, 1 for a negative
one. -/
def positive (default : Nat) (text : Option String) : Nat :=
  match text.bind Text.leadingInt? with
  | none => default
  | some value => if value = 0 then default else (max 1 value).toNat

/-- The page that a request asks for. -/
def ofParams (params : Params) : Paging where
  page := positive firstPage (params.text? Params.pageKey)
  limit := min largestLimit (positive defaultLimit (params.text? Params.limitKey))

end Paging

end IndexGuard
