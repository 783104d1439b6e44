/-
**Filters as store documents.**

In the language of document stores a filter is an object: a field with a value, or with an object of
operators whose names start with `$`; several conditions on the same level all have to hold, and
`$and` holds a list of filters.

* `toNative` writes a filter in this language;
* `ofNative` reads any value: what is not an object accepts everything, unknown operators are passed
  over beside known ones, and an object without a known operator, or with a name that is not an
  operator, is a value to be equal to.
-/

import IndexGuard.Filter.Basic

namespace IndexGuard

/-- An object with a single field. -/
def Json.single (name : String) (value : Json) : Json := .object [(name, value)]

/-- A name is that of an operator. -/
def isOperatorName (name : String) : Bool := name.toList.head? == some '$'

/-- The test of a field as a store document. -/
def Test.toNative : Test → Json
  | equals value => value
  | range op bound => .single op.token bound
  | pattern source ignoreCase =>
    let options := if ignoreCase then [("$options", .string "i")] else []
    .object (options ++ [("$regex", .string source)])

namespace Filter

mutual

/-- A filter as a store document. -/
def toNative : Filter → Json
  | leaf test => .single test.field test.test.toNative
  | all [] => .object []
  | all [clause] => toNative clause
  | all clauses => .single "$and" (.array (toNativeItems clauses))

/-- Filters as store documents. -/
def toNativeItems : List Filter → List Json
  | [] => []
  | clause :: rest => toNative clause :: toNativeItems rest

end

/-- The pattern test among operators. -/
def nativePattern (field : String) (operators : Fields Json) : List Filter :=
  match Fields.get? operators "$regex" with
  | some (.string source) =>
    let options := (Fields.get? operators "$options").bind Json.text?
    [pattern field source (options.any fun text => text.toList.contains 'i')]
  | _ => []

/-- The range tests among operators. -/
def nativeRanges (field : String) (operators : Fields Json) : List Filter :=
  operators.filterMap fun operator =>
    (RangeOp.ofToken? operator.1).map fun op => range field op operator.2

/-- The filter of a field with its value in a store document. -/
def ofNativeField (field : String) (value : Json) : Filter :=
  match value with
  | .object operators =>
    if operators.isEmpty || !operators.all (fun operator => isOperatorName operator.1) then
      equals field value
    else
      match nativePattern field operators ++ nativeRanges field operators with
      | [] => equals field value
      | [only] => only
      | clauses => all clauses
  | value => equals field value

mutual

/-- The filter of a store document. -/
def ofNative : Json → Filter
  | .object fields =>
    match ofNativeFields fields with
    | [only] => only
    | clauses => allOf clauses
  | _ => everything

/-- The filters of the fields of a store document. -/
def ofNativeFields : List (String × Json) → List Filter
  | [] => []
  | (name, value) :: rest =>
    (if name = "$and" then ofNativeConjunction value else [ofNativeField name value]) ++
      ofNativeFields rest

/-- The filters under `$and`. -/
def ofNativeConjunction : Json → List Filter
  | .array items => ofNativeItems items
  | _ => []

/-- The filters of some store documents. -/
def ofNativeItems : List Json → List Filter
  | [] => []
  | item :: rest => ofNative item :: ofNativeItems rest

end

end Filter

end IndexGuard
