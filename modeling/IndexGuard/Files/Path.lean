/-
**File paths.**

A path is a text whose parts are set apart by `/`. It starts at the root when it begins with `/`,
and names the current directory when it is `.` or begins with `./`; elsewhere, parts that are empty
or `.` say nothing.

* `Path.parent?` is the path without its last part;
* `Path.join` places a path under a directory, unless it starts at the root.
-/

import IndexGuard.Text.Blank

namespace IndexGuard.Path

/-- The path starts at the root. -/
def isAbsolute (path : String) : Bool := path.toList.head? == some '/'

/-- The mark at the start of a path, and what follows it. -/
def splitAnchor : List Char → List Char × List Char
  | '/' :: rest => (['/'], rest)
  | ['.'] => (['.'], [])
  | '.' :: '/' :: rest => (['.'], '/' :: rest)
  | chars => ([], chars)

/-- The part says nothing. -/
def isIdle (part : List Char) : Bool := part == [] || part == ['.']

/-- Parts in reverse, from the last one that says something. -/
def skipIdle (reversed : List (List Char)) : List (List Char) := reversed.dropWhile isIdle

/-- The path without its last part; the root and the empty path have none. -/
def parent? (path : String) : Option String :=
  let (anchor, body) := splitAnchor path.toList
  match skipIdle (Text.pieces '/' body).reverse with
  | _ :: above =>
    some (String.ofList (anchor ++ ['/'].intercalate (skipIdle above).reverse))
  | [] => if anchor = ['.'] then some "" else none

/-- A path under a directory; a path from the root stays as it is. -/
def join (directory path : String) : String :=
  if isAbsolute path then path
  else if directory.isEmpty || directory.toList.getLast? == some '/' then directory ++ path
  else directory ++ "/" ++ path

end IndexGuard.Path
