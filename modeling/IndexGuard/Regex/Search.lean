/-
**Searching a text for a regular expression.**

A place of a text is the number of characters before it. `ends` takes a list of places to the list
of places at which a match that starts at one of them can end; a text is found to match when some
place is reached from some place of the text.

Repetition applies the body as often as it has to, then collects what is reached until nothing new
appears. A text of `n` characters has `n + 1` places, so `n + 1` rounds are enough.
-/

import IndexGuard.Regex.Syntax

namespace IndexGuard.Regex

/-- The places of a list in ascending order, each once, in a text of `size` characters. -/
def arrange (size : Nat) (places : List Nat) : List Nat :=
  (List.range (size + 1)).filter fun place => places.contains place

/-- Apply a step a number of times, or until it changes nothing. -/
def applyTimes (step : List Nat → List Nat) : Nat → List Nat → List Nat
  | 0, places => places
  | rounds + 1, places =>
    let next := step places
    if next == places then places else applyTimes step rounds next

/-- Everything that is reached within a number of rounds from the places found last, together with
what is known. -/
def collect (step : List Nat → List Nat) : Nat → List Nat → List Nat → List Nat
  | 0, known, _ => known
  | rounds + 1, known, recent =>
    let found := (step recent).filter fun place => !known.contains place
    if found.isEmpty then known else collect step rounds (known ++ found) found

/-- The places at which matches that start at the given places can end. -/
def ends (text : Array Char) : Regex → List Nat → List Nat
  | empty, places => places
  | oneOf set, places =>
    places.filterMap fun place =>
      match text[place]? with
      | some char => if set.contains char then some (place + 1) else none
      | none => none
  | anchor test, places =>
    places.filter fun place =>
      test.holds (if place = 0 then none else text[place - 1]?) text[place]?
  | sequence first second, places => ends text second (ends text first places)
  | choice first second, places =>
    arrange text.size (ends text first places ++ ends text second places)
  | repeated body least most, places =>
    let step := fun places => arrange text.size (ends text body places)
    let reached := applyTimes step least places
    let rounds := match most with
      | none => text.size + 1
      | some most => min (text.size + 1) (most - least)
    collect step rounds reached reached

/-- The expression matches somewhere in the text. -/
def foundIn (regex : Regex) (text : String) : Bool :=
  let chars := text.toList.toArray
  !(ends chars regex (List.range (chars.size + 1))).isEmpty

end IndexGuard.Regex
