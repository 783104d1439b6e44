/-
**Request parameters.**

A request gives pairs of a key and a value. A key addresses a field (`year`) or a part of one
(`year[gte]`); see `Address.ofKey?`. Keys that are empty, begin with `$` or contain a dot address
nothing, so that a request can neither name an operator nor reach into a document.

* `Params.ofPairs` gathers the values by address: several values of one address are listed in
  request order, and a field addressed both ways keeps both;
* of the control keys `page`, `limit` and `sort` only the last plain value is kept.
-/

import IndexGuard.Json.Value
import IndexGuard.Text.Blank

namespace IndexGuard

/-- The value of a request parameter. -/
inductive ParamValue where
  | single (text : String)
  | many (texts : List String)
  | nested (parts : List (String × ParamValue))
  /-- A key that was given plainly and with parts. -/
  | mixed (plain : ParamValue) (parts : List (String × ParamValue))

namespace ParamValue

/-- The text of a single value. -/
def text? : ParamValue → Option String
  | single text => some text
  | _ => none

/-- Add a value of the plain key. -/
def addPlain (value : ParamValue) (text : String) : ParamValue :=
  match value with
  | single first => many [first, text]
  | many texts => many (texts ++ [text])
  | nested parts => mixed (single text) parts
  | mixed plain parts => mixed (plain.addPlain text) parts

/-- A value with one more text, or the first. -/
def addTo (value : Option ParamValue) (text : String) : ParamValue :=
  match value with
  | some value => value.addPlain text
  | none => single text

/-- Add a value to a part. -/
def addPart (parts : Fields ParamValue) (part text : String) : Fields ParamValue :=
  Fields.insert parts part (addTo (Fields.get? parts part) text)

/-- Add a value of a part of the key. -/
def addNested (value : ParamValue) (part text : String) : ParamValue :=
  match value with
  | nested parts => nested (addPart parts part text)
  | mixed plain parts => mixed plain (addPart parts part text)
  | plain => mixed plain (addPart [] part text)

mutual

/-- The value as JSON: texts, lists and objects; a key given both ways has both beside each other.
-/
def toJson : ParamValue → Json
  | single text => .string text
  | many texts => .strings texts
  | nested parts => .object (partsToJson parts)
  | mixed plain parts =>
    .ofPairs [("value", toJson plain), ("nested", .object (partsToJson parts))]

/-- The parts as JSON. -/
def partsToJson : List (String × ParamValue) → List (String × Json)
  | [] => []
  | (part, value) :: rest => (part, toJson value) :: partsToJson rest

end

end ParamValue

/-- What the key of a pair addresses. -/
inductive Address where
  | plain (field : String)
  | within (field part : String)
  deriving DecidableEq

namespace Address

/-- The field and the part of a key of the form `field[part]`; neither is empty, and there are no
other brackets. -/
def brackets? (key : List Char) : Option (List Char × List Char) :=
  let field := key.takeWhile fun char => char != '['
  match key.dropWhile fun char => char != '[' with
  | [] => none
  | _ :: inner =>
    let part := inner.dropLast
    if inner.getLast? = some ']' ∧ field ≠ [] ∧ part ≠ [] ∧ '[' ∉ part ∧ ']' ∉ part then
      some (field, part)
    else none

/-- The field and the part of a key. -/
def split? (key : String) : Option (String × String) :=
  (brackets? key.toList).map fun (field, part) => (String.ofList field, String.ofList part)

/-- A name that a request may use. -/
def isSafe (name : String) : Bool :=
  name != "" && name.toList.head? != some '$' && !name.toList.contains '.'

/-- What a key addresses, unless it is unsafe. -/
def ofKey? (key : String) : Option Address :=
  match split? key with
  | some (field, part) => if isSafe field && isSafe part then some (.within field part) else none
  | none => if isSafe key then some (.plain key) else none

end Address

/-- Request parameters by key. -/
abbrev Params := Fields ParamValue

namespace Params

/-- The key of the page number. -/
def pageKey : String := "page"

/-- The key of the page size. -/
def limitKey : String := "limit"

/-- The key of the order. -/
def sortKey : String := "sort"

/-- The keys that steer paging and order. -/
def controlKeys : List String := [pageKey, limitKey, sortKey]

/-- Add a value at an address. -/
def add (params : Params) (address : Address) (text : String) : Params :=
  match address with
  | .plain field =>
    if controlKeys.contains field then Fields.insert params field (.single text)
    else Fields.insert params field (ParamValue.addTo (Fields.get? params field) text)
  | .within field part =>
    let value := (Fields.get? params field).getD (.nested [])
    Fields.insert params field (value.addNested part text)

/-- Add a pair; one that addresses nothing is dropped. -/
def addPair (params : Params) (pair : String × String) : Params :=
  match Address.ofKey? pair.1 with
  | some address => params.add address pair.2
  | none => params

/-- The parameters of a request. -/
def ofPairs (pairs : List (String × String)) : Params := pairs.foldl addPair []

/-- The single value under a key. -/
def text? (params : Params) (key : String) : Option String :=
  (Fields.get? params key).bind ParamValue.text?

/-- The parameters without those that steer paging and order. -/
def withoutControls (params : Params) : Params :=
  controlKeys.foldl Fields.erase params

/-- The parameters as JSON. -/
def toJson (params : Params) : Json := .object (ParamValue.partsToJson params)

end Params

end IndexGuard
