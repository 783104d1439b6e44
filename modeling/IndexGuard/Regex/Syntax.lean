/-
**Regular expressions over characters.**

A set of characters is an expression over runs, classes and the operations on sets (`CharSet`); a
regular expression is built from sets, tests of the position (`Anchor`), sequence, choice and
repetition (`Regex`). Neither carries flags: letter case, multi-line mode and the like are settled
when a pattern is read.

* `CharSet.contains` says which characters a set holds;
* `Anchor.holds` says at which places of a text a test succeeds.
-/

import IndexGuard.Text.Blank
import IndexGuard.Text.Category
import IndexGuard.Text.Folding
import IndexGuard.Text.Script

namespace IndexGuard

open Text

/-- A class of characters with a name of its own. -/
inductive CharClass where
  | digit
  | word
  | blank
  | listed (runs : CharRuns)

/-- The character belongs to the class. -/
def CharClass.contains (charClass : CharClass) (char : Char) : Bool :=
  match charClass with
  | digit => Category.isDigit char
  | word => Category.isWord char
  | blank => isBlank char
  | listed runs => runs.contains char

/-- A set of characters. -/
inductive CharSet where
  /-- No character. -/
  | empty
  /-- The characters from `low` to `high`. -/
  | range (low high : Char)
  /-- The characters that differ from `char` in case only. -/
  | likeChar (char : Char)
  | ofClass (charClass : CharClass)
  | union (first second : CharSet)
  | intersection (first second : CharSet)
  | difference (first second : CharSet)
  | symmetricDifference (first second : CharSet)
  | complement (set : CharSet)
  /-- The characters that differ from a member in case only. -/
  | folded (set : CharSet)

namespace CharSet

/-- The set holds the character. -/
def contains (set : CharSet) (char : Char) : Bool :=
  match set with
  | empty => false
  | range low high => low ≤ char && char ≤ high
  | likeChar other => Folding.alike other char
  | ofClass charClass => charClass.contains char
  | union first second => first.contains char || second.contains char
  | intersection first second => first.contains char && second.contains char
  | difference first second => first.contains char && !second.contains char
  | symmetricDifference first second => first.contains char != second.contains char
  | complement set => !set.contains char
  | folded set => (Folding.orbit char).any fun other => set.contains other

/-- The set of one character. -/
def single (char : Char) : CharSet := range char char

/-- The set of all characters. -/
def any : CharSet := complement empty

/-- The characters of the ASCII range. -/
def ascii : CharSet := range (Char.ofNat 0) (Char.ofNat 0x7F)

end CharSet

/-- A test of a place in a text, without taking a character. -/
inductive Anchor where
  | textStart
  | textEnd
  | lineStart
  | lineEnd
  /-- Lines that end in a line feed, a carriage return, or both in this order. -/
  | eitherLineStart
  | eitherLineEnd
  /-- Exactly one side is a word character. -/
  | boundary (isWord : CharSet)
  | notBoundary (isWord : CharSet)
  | wordStart (isWord : CharSet)
  | wordEnd (isWord : CharSet)
  /-- No word character stands before the place. -/
  | noWordBefore (isWord : CharSet)
  /-- No word character stands after the place. -/
  | noWordAfter (isWord : CharSet)

/-- The test succeeds between two characters, of which either may be missing. -/
def Anchor.holds (anchor : Anchor) (before after : Option Char) : Bool :=
  match anchor with
  | textStart => before.isNone
  | textEnd => after.isNone
  | lineStart => before.isNone || before == some '\n'
  | lineEnd => after.isNone || after == some '\n'
  | eitherLineStart =>
    before.isNone || before == some '\n' || (before == some '\r' && after != some '\n')
  | eitherLineEnd =>
    after.isNone || after == some '\r' || (after == some '\n' && before != some '\r')
  | boundary isWord => before.any isWord.contains != after.any isWord.contains
  | notBoundary isWord => before.any isWord.contains == after.any isWord.contains
  | wordStart isWord => !before.any isWord.contains && after.any isWord.contains
  | wordEnd isWord => before.any isWord.contains && !after.any isWord.contains
  | noWordBefore isWord => !before.any isWord.contains
  | noWordAfter isWord => !after.any isWord.contains

/-- A regular expression. -/
inductive Regex where
  /-- The empty text. -/
  | empty
  | oneOf (set : CharSet)
  | anchor (anchor : Anchor)
  | sequence (first second : Regex)
  | choice (first second : Regex)
  /-- At least `least` times and, when there is a bound, at most `most` times. -/
  | repeated (body : Regex) (least : Nat) (most : Option Nat)

end IndexGuard
