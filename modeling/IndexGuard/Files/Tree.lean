/-
**A tree of files.**

A tree lists files and directories by the names that lead to them from the current directory; the
directories on the way need no entry. `FileTree.readText` follows a path part by part: every part
needs a directory to start from, `..` leads up, also out of the tree, and outside there are only
directories that are not looked into.
-/

import IndexGuard.Files.Read
import IndexGuard.Text.Blank
import IndexGuard.Text.Utf8

namespace IndexGuard

/-- What stands at a place of a tree. -/
inductive FileEntry where
  | file (bytes : List UInt8)
  | directory

/-- Files and directories by the names that lead to them. -/
structure FileTree where
  entries : List (List String × FileEntry) := []

/-- A place that a path leads to: in the tree, or above it. -/
inductive FilePlace where
  | inside (names : List String)
  | above

namespace FileTree

/-- The parts of a path. -/
def parts (path : String) : List String := (Text.pieces '/' path.toList).map String.ofList

/-- A tree with an entry under a path more. -/
def insert (tree : FileTree) (path : String) (entry : FileEntry) : FileTree :=
  ⟨tree.entries ++ [((parts path).filter fun part => part != "" && part != ".", entry)]⟩

/-- What stands at a place, if anything does. -/
def entry? (tree : FileTree) : FilePlace → Option FileEntry
  | .above => some .directory
  | .inside names =>
    match tree.entries.find? fun entry => entry.1 == names with
    | some entry => some entry.2
    | none =>
      if names.isEmpty || tree.entries.any fun entry => names.isPrefixOf entry.1 then
        some .directory
      else none

/-- The number of bytes that a name may have. -/
def nameLimit : Nat := 255

/-- The number of bytes that a path may have. -/
def pathLimit : Nat := 4095

/-- The place above another. -/
def placeAbove : FilePlace → FilePlace
  | .inside [] | .above => .above
  | .inside names => .inside names.dropLast

/-- The place that a name leads to. -/
def child (tree : FileTree) (place : FilePlace) (name : String) : Except ReadFailure FilePlace :=
  if nameLimit < name.utf8ByteSize then .error .nameTooLong
  else
    match place with
    | .above => .error .notFound
    | .inside names =>
      let inner := FilePlace.inside (names ++ [name])
      if (tree.entry? inner).isSome then .ok inner else .error .notFound

/-- The place that a part of a path leads to. -/
def step (tree : FileTree) (place : FilePlace) (part : String) : Except ReadFailure FilePlace :=
  match tree.entry? place with
  | some .directory =>
    if part = "" || part = "." then .ok place
    else if part = ".." then .ok (placeAbove place)
    else tree.child place part
  | _ => .error .notDirectory

/-- The place that a path leads to. -/
def place (tree : FileTree) (path : String) : Except ReadFailure FilePlace :=
  if path.toList.contains '\x00' then .error .nameMalformed
  else if pathLimit < path.utf8ByteSize then .error .nameTooLong
  else
    match parts path with
    | [""] => .error .notFound
    | "" :: rest => rest.foldlM tree.step .above
    | all => all.foldlM tree.step (.inside [])

/-- The text of the file that a path leads to. -/
def readText (tree : FileTree) (path : String) : Except ReadFailure String := do
  match tree.entry? (← tree.place path) with
  | some (.file bytes) =>
    match Text.Utf8.decode? bytes with
    | some text => return text
    | none => throw .notText
  | some .directory => throw .isDirectory
  | none => throw .notFound

end FileTree

end IndexGuard
