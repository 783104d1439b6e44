/-
**Named fields in the order of their names.**

JSON objects, request parameters and collections are all tables from names to values that are read
back in ascending order of the names. A table is a list of pairs, and these operations keep its
names strictly increasing:

* `insert` puts a value under a name, replacing the one that was there;
* `erase` takes a name out;
* `get?` finds the value under a name;
* `ofPairs` enters pairs one after the other, so that the last of several equal names wins.
-/

namespace IndexGuard

/-- A table from names to values, listed by name. -/
abbrev Fields (Value : Type) := List (String × Value)

namespace Fields

variable {Value Other : Type}

/-- The names increase strictly, so no name occurs twice. -/
def Sorted (fields : Fields Value) : Prop :=
  fields.Pairwise fun first second => first.1 < second.1

/-- The names in order. -/
def names (fields : Fields Value) : List String :=
  fields.map Prod.fst

/-- The value under a name. -/
def get? (fields : Fields Value) (name : String) : Option Value :=
  match fields with
  | [] => none
  | (other, value) :: rest => if other = name then some value else get? rest name

/-- Whether a name has a value. -/
def has (fields : Fields Value) (name : String) : Bool :=
  (get? fields name).isSome

/-- Put a value under a name, in its place in the order. -/
def insert (fields : Fields Value) (name : String) (value : Value) : Fields Value :=
  match fields with
  | [] => [(name, value)]
  | (other, kept) :: rest =>
    if name < other then (name, value) :: (other, kept) :: rest
    else if name = other then (name, value) :: rest
    else (other, kept) :: insert rest name value

/-- Take a name out. -/
def erase (fields : Fields Value) (name : String) : Fields Value :=
  fields.filter fun field => field.1 ≠ name

/-- Enter pairs in turn; the last of several equal names wins. -/
def ofPairs (pairs : List (String × Value)) : Fields Value :=
  pairs.foldl (fun fields pair => insert fields pair.1 pair.2) []

end Fields

end IndexGuard
