/-
**Sets of characters as runs of codes.**

A set is written in the notation of the Unicode data files: runs in ascending order between blanks,
each a hexadecimal code or two of them joined by a dash.
-/

namespace IndexGuard.Text

/-- A set of characters: the first and last code of each of its runs. -/
abbrev CharRuns := List (Nat × Nat)

namespace CharRuns

/-- The character lies in one of the runs. -/
def contains (runs : CharRuns) (char : Char) : Bool :=
  runs.any fun run => run.1 ≤ char.toNat && char.toNat ≤ run.2

/-- A run that has been read up to some character. -/
structure Part where
  first : Nat
  last : Option Nat

/-- The value of a hexadecimal digit in upper case. -/
def digitValue (char : Char) : Nat :=
  if char.isDigit then char.toNat - '0'.toNat else char.toNat - 'A'.toNat + 10

/-- Take in a digit or the dash of a run. -/
def Part.add (part : Part) (char : Char) : Part :=
  if char = '-' then { part with last := some 0 }
  else
    match part.last with
    | none => { part with first := part.first * 16 + digitValue char }
    | some last => { part with last := some (last * 16 + digitValue char) }

/-- The finished run. -/
def Part.run (part : Part) : Nat × Nat :=
  (part.first, part.last.getD part.first)

/-- The runs of a written set behind the start of a run, if there is one. -/
def readFrom (part : Option Part) : List Char → CharRuns
  | [] => part.toList.map Part.run
  | char :: rest =>
    if char = ' ' || char = '\n' then part.toList.map Part.run ++ readFrom none rest
    else readFrom (some ((part.getD ⟨0, none⟩).add char)) rest

/-- The set a text writes. -/
def read (text : String) : CharRuns := readFrom none text.toList

end CharRuns

end IndexGuard.Text
