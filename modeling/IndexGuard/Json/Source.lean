/-
**What a JSON text says, before anything is made of it.**

Reading a text gives a `Source`: the fields of an object in the order of the text, repeated names
included, and a mark for each part that is well formed but has no value (a number out of the range
of binary64, a string with half a surrogate pair, an array or object nested too deep). Such a part
does no harm where it is skipped.

* `toJson?` is the value of a source without such parts; of a repeated name the last one counts;
* the decoders (`text?`, `list?`, `table?`, `optional?`, `record?`) read typed data off a source.
  A record is an object, in which no known field may be repeated and unknown ones are skipped, or an
  array that gives its fields in order.
-/

import IndexGuard.Json.Value

namespace IndexGuard.Json

/-- A JSON text as it stands. -/
inductive Source where
  | null
  | bool (value : Bool)
  | number (value : Number)
  | string (text : String)
  | array (items : List Source)
  | object (fields : List (Option String × Source))
  | unreadable

namespace Source

mutual

/-- The value of a source. -/
def toJson? : Source → Option Json
  | .null => some .null
  | .bool value => some (.bool value)
  | .number value => some (.number value)
  | .string text => some (.string text)
  | .array items => (itemsToJson? items).map .array
  | .object fields => (fieldsToJson? fields).map .ofPairs
  | .unreadable => none

/-- The values of the items of an array. -/
def itemsToJson? : List Source → Option (List Json)
  | [] => some []
  | item :: rest =>
    match toJson? item, itemsToJson? rest with
    | some value, some values => some (value :: values)
    | _, _ => none

/-- The names and values of the fields of an object. -/
def fieldsToJson? : List (Option String × Source) → Option (List (String × Json))
  | [] => some []
  | (name?, item) :: rest =>
    match name?, toJson? item, fieldsToJson? rest with
    | some name, some value, some fields => some ((name, value) :: fields)
    | _, _, _ => none

end

mutual

/-- A value as the source that says it. -/
def ofJson : Json → Source
  | .null => .null
  | .bool value => .bool value
  | .number value => .number value
  | .string text => .string text
  | .array items => .array (itemsOfJson items)
  | .object fields => .object (fieldsOfJson fields)

/-- Values as sources. -/
def itemsOfJson : List Json → List Source
  | [] => []
  | item :: rest => ofJson item :: itemsOfJson rest

/-- Fields as the sources that say them. -/
def fieldsOfJson : List (String × Json) → List (Option String × Source)
  | [] => []
  | (name, value) :: rest => (some name, ofJson value) :: fieldsOfJson rest

end

/-! ### Decoders -/

variable {Value : Type}

/-- A text. -/
def text? : Source → Option String
  | string text => some text
  | _ => none

/-- A natural number below a bound. -/
def below? (bound : Nat) : Source → Option Nat
  | number (.integer value) =>
    if 0 ≤ value ∧ value < bound then some value.toNat else none
  | _ => none

/-- A list. -/
def list? (decode : Source → Option Value) : Source → Option (List Value)
  | array items => items.mapM decode
  | _ => none

/-- A table: every value has to be readable, and the last one under a name counts. -/
def table? (decode : Source → Option Value) : Source → Option (Fields Value)
  | object fields =>
    (fields.mapM fun (field : Option String × Source) =>
      field.1.bind fun name => (decode field.2).map fun value => (name, value)).map Fields.ofPairs
  | _ => none

/-- A value that may be `null`. -/
def optional? (decode : Source → Option Value) : Source → Option (Option Value)
  | null => some none
  | source => (decode source).map some

/-- The fields of a record, each with its source when it is given. -/
def record? (names : List String) : Source → Option (List (Option Source))
  | object fields =>
    if fields.any fun field => field.1.isNone then none
    else
      names.mapM fun name =>
        match fields.filter fun field => field.1 == some name with
        | [] => some none
        | [field] => some (some field.2)
        | _ => none
  | array items =>
    if items.length ≤ names.length then
      some ((List.range names.length).map fun place => items[place]?)
    else none
  | _ => none

/-- A field that has to be given. -/
def required? (decode : Source → Option Value) (field : Option Source) : Option Value :=
  field.bind decode

/-- A field with a default. -/
def withDefault? (decode : Source → Option Value) (default : Value) :
    Option Source → Option Value
  | none => some default
  | some source => decode source

end Source

end IndexGuard.Json
