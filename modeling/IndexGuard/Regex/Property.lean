/-
**Character properties by name.**

A property is asked for as `name`, or as `name` and `value` for the category and the script of a
character. Names are compared without regard to case, blanks, underscores, dashes and a leading
`is`.

Known are the categories and their groups, the scripts, and of the properties that hold of a
character or not Alphabetic, Lowercase, Uppercase and White_Space. Every other name is refused as
unknown: the further properties of this kind, such as Cased, Dash, Emoji, Extended_Pictographic,
Grapheme_Base, Hex_Digit, ID_Start, Ideographic, Math and XID_Continue, and those with other values,
Age, Script_Extensions, Grapheme_Cluster_Break, Word_Break and Sentence_Break.
-/

import IndexGuard.Regex.Syntax

namespace IndexGuard.Regex.Property

open Text

/-- A name as it is compared. -/
def normalize (name : List Char) : List Char :=
  let stripped :=
    match name with
    | first :: second :: rest =>
      if first.toLower = 'i' ∧ second.toLower = 's' then rest else name
    | _ => name
  let kept := stripped.filter fun char =>
    char != ' ' && char != '_' && char != '-' && char.toNat < 0x80
  let lower := kept.map Char.toLower
  if stripped.length < name.length ∧ lower = ['c'] then "isc".toList else lower

/-- A normalized name is a given one. -/
def isNamed (name : List Char) (written : String) : Bool :=
  name == normalize written.toList

/-- The union of sets of characters. -/
def unionOf (sets : List CharRuns) : CharSet :=
  sets.foldr (fun runs set => .union (.ofClass (.listed runs)) set) .empty

/-- The characters that some category holds. -/
def assigned : CharSet :=
  unionOf (Category.categories.map Category.Named.runs)

/-- The members of a group of categories. -/
def membersOf (shorts : List String) : List CharRuns :=
  (Category.categories.filter fun category => shorts.contains category.short).map
    Category.Named.runs

/-- Further names of categories. -/
def otherNames : List (String × String) :=
  [("punct", "P"), ("digit", "Nd"), ("cntrl", "Cc"), ("Combining_Mark", "M")]

/-- The categories that are no letters, marks, numbers, punctuation, symbols or separators. -/
def otherCategories : List String := ["Cc", "Cf", "Co"]

/-- The set of a general category or a group of them. -/
def category? (name : List Char) : Option CharSet :=
  let name :=
    match otherNames.find? fun other => isNamed name other.1 with
    | some other => normalize other.2.toList
    | none => name
  if isNamed name "Any" then some .any
  else if isNamed name "Assigned" then some assigned
  else if isNamed name "ASCII" then some .ascii
  else if isNamed name "C" || isNamed name "Other" then
    some (.complement (.difference assigned (unionOf (membersOf otherCategories))))
  else if isNamed name "Cn" || isNamed name "Unassigned" then some (.complement assigned)
  else
    match Category.categories.find? fun category =>
        isNamed name category.short || isNamed name category.long with
    | some category => some (.ofClass (.listed category.runs))
    | none =>
      (Category.groups.find? fun group => isNamed name group.1 || isNamed name group.2.1).map
        fun group => unionOf (membersOf group.2.2)

/-- The set of a script. -/
def script? (name : List Char) : Option CharSet :=
  (scripts.find? fun script => isNamed name script.short || isNamed name script.long).map
    fun script => .ofClass (.listed script.runs)

/-- The set of a property that holds of a character or not, if it is one of the four known here. -/
def binary? (name : List Char) : Option CharSet :=
  if isNamed name "Alphabetic" || isNamed name "Alpha" then
    some (.ofClass (.listed Category.alphabetic))
  else if isNamed name "Lowercase" || isNamed name "Lower" then
    some (.ofClass (.listed Category.lowercase))
  else if isNamed name "Uppercase" || isNamed name "Upper" then
    some (.ofClass (.listed Category.uppercase))
  else if isNamed name "White_Space" || isNamed name "WSpace" || isNamed name "space" then
    some (.ofClass .blank)
  else none

/-- The set that a single name stands for. -/
def ofName? (name : List Char) : Option CharSet :=
  let name := normalize name
  (binary? name).orElse fun _ => (category? name).orElse fun _ => script? name

/-- The set that a name and a value stand for: the value of the category or of the script. -/
def ofValue? (name value : List Char) : Option CharSet :=
  let name := normalize name
  let value := normalize value
  if isNamed name "General_Category" || isNamed name "gc" then category? value
  else if isNamed name "Script" || isNamed name "sc" then script? value
  else none

end IndexGuard.Regex.Property
