/-
**Reading a pattern.**

`Pattern.read?` turns a pattern into a regular expression, or says why it cannot. A pattern is a
choice of sequences of pieces; a piece is a character, a class, an anchor or a group, with any
number of repetition marks behind it. Flags such as `(?i)` hold from their place to the end of the
group, through the choices that follow; those of `(?i:…)` hold inside it.

`escape` writes any text as a pattern that stands for the text itself.

A pattern may be nested up to `heightLimit` deep, and may not be too large: `readWithin?` takes the
limit, and `read?` uses `sizeLimit`. What is held against the limit is an estimate (`size`). It
counts states for the pattern as it is written, with every repetition written out, and not the
memory of an automaton that is built for it, in which states are shared and split up further. So
whether a pattern near the limit is too large is settled only roughly; far from it on either side
the estimate decides.
-/

import IndexGuard.Regex.Class

namespace IndexGuard.Regex.Pattern

open Text

/-- A part of a pattern: its meaning, how deep it is nested, and whether it only sets flags. -/
structure Piece where
  regex : Regex
  height : Nat := 0
  setsFlags : Bool := false

/-- What has been read of a group: the finished choices and the pieces of the current one, each last
first. -/
structure Progress where
  choices : List Piece := []
  pieces : List Piece := []

/-- The greatest height of some pieces. -/
def greatestHeight (pieces : List Piece) : Nat :=
  pieces.foldl (fun height piece => max height piece.height) 0

/-- The pieces of one choice in sequence. -/
def Progress.current (progress : Progress) : Piece :=
  match progress.pieces with
  | [] => { regex := .empty }
  | [piece] => { regex := piece.regex, height := piece.height }
  | pieces =>
    { regex := pieces.foldl (fun rest piece => .sequence piece.regex rest) .empty
      height := greatestHeight pieces + 1 }

/-- Begin the next choice. -/
def Progress.split (progress : Progress) : Progress :=
  { choices := progress.current :: progress.choices, pieces := [] }

/-- All that has been read. -/
def Progress.finish (progress : Progress) : Piece :=
  match progress.choices with
  | [] => progress.current
  | choices =>
    { regex := choices.foldl (fun rest piece => .choice piece.regex rest) progress.current.regex
      height := greatestHeight (progress.current :: choices) + 1 }

/-- Take in a piece. -/
def Progress.add (progress : Progress) (piece : Piece) : Progress :=
  { progress with pieces := piece :: progress.pieces }

/-- Repeat the last piece. -/
def Progress.repeatLast? (progress : Progress) (least : Nat) (most : Option Nat) :
    Except PatternError Progress :=
  match progress.pieces with
  | [] => .error .nothingToRepeat
  | piece :: earlier =>
    if piece.setsFlags then .error .nothingToRepeat
    else
      .ok { progress with
        pieces :=
          { regex := .repeated piece.regex least most, height := piece.height + 1 } :: earlier }

/-! ### Counts -/

/-- Digits, with blanks passed over as the flags allow. -/
def countDigits (flags : Flags) : Nat → List Char → List Char × List Char
  | 0, chars => ([], chars)
  | _ + 1, [] => ([], [])
  | fuel + 1, char :: rest =>
    if char.isDigit then
      let (digits, rest) := countDigits flags fuel (flags.skip rest)
      (char :: digits, rest)
    else ([], char :: rest)

/-- A count between blanks: it has a digit and stays below 2^32. -/
def count? (flags : Flags) (chars : List Char) : Except PatternError (Nat × List Char) :=
  let (digits, rest) := countDigits flags (chars.length + 1) (trimStart chars)
  let value := digits.foldl (fun value digit => value * 10 + (digit.toNat - '0'.toNat)) 0
  if digits.isEmpty || 0x100000000 ≤ value then .error .badRepetition
  else .ok (value, flags.skip (trimStart rest))

/-- A counted repetition after its opening brace. -/
def counted? (flags : Flags) (chars : List Char) :
    Except PatternError ((Nat × Option Nat) × List Char) := do
  match flags.skip chars with
  | [] => .error .unclosedRepetition
  | chars =>
    let (least, rest) ← count? flags chars
    match rest with
    | '\x7d' :: rest => .ok ((least, some least), rest)
    | ',' :: rest =>
      match flags.skip rest with
      | [] => .error .unclosedRepetition
      | '\x7d' :: rest => .ok ((least, none), rest)
      | chars =>
        let (most, rest) ← count? flags chars
        match rest with
        | '\x7d' :: rest =>
          if least ≤ most then .ok ((least, some most), rest) else .error .badRepetition
        | _ => .error .unclosedRepetition
    | _ => .error .unclosedRepetition

/-- A question mark behind a repetition only changes which match is preferred. -/
def dropLazy : List Char → List Char
  | '?' :: rest => rest
  | chars => chars

/-! ### Groups -/

/-- A flag set or cleared. -/
def setFlag? (flags : Flags) (value : Bool) : Char → Option Flags
  | 'i' => some { flags with ignoreCase := value }
  | 'm' => some { flags with multiLine := value }
  | 's' => some { flags with dotAll := value }
  | 'U' => some flags
  | 'u' => some { flags with unicode := value }
  | 'R' => some { flags with eitherLine := value }
  | 'x' => some { flags with spaced := value }
  | _ => none

/-- Flags up to a colon or a closing parenthesis: what they set, whether there are none, and the
text from the mark on. No letter and no dash may occur twice, and a letter follows the dash. -/
def flags? (flags : Flags) (seen : List Char) :
    List Char → Except PatternError (Flags × Bool × List Char)
  | [] => .error .badFlag
  | char :: rest =>
    if char = ':' || char = ')' then
      if seen.head? = some '-' then .error .badFlag
      else .ok (flags, seen.isEmpty, char :: rest)
    else if seen.contains char then .error .badFlag
    else if char = '-' then flags? flags ('-' :: seen) rest
    else
      match setFlag? flags (!seen.contains '-') char with
      | none => .error .badFlag
      | some flags => flags? flags (char :: seen) rest

/-- The character may stand in the name of a group. -/
def isNameChar (isFirst : Bool) (char : Char) : Bool :=
  char == '_' ||
    (if isFirst then Category.isAlphabetic char
     else char == '.' || char == '[' || char == ']' || Category.isAlphanumeric char)

/-- The name of a group up to its closing angle. -/
def groupName? (names : List (List Char)) (chars : List Char) :
    Except PatternError (List Char × List Char) :=
  let name := chars.takeWhile fun char => char != '>'
  match name, chars.dropWhile fun char => char != '>' with
  | first :: others, '>' :: rest =>
    if !isNameChar true first || !others.all (isNameChar false) then .error .badGroupName
    else if names.contains name then .error .repeatedGroupName
    else .ok (name, rest)
  | _, _ => .error .badGroupName

/-- How a group begins. -/
inductive GroupStart where
  /-- Flags alone, up to the end of the group around them. -/
  | flagsOnly (flags : Flags) (rest : List Char)
  | group (flags : Flags) (names : List (List Char)) (rest : List Char)

/-- The start of a group after its parenthesis. -/
def groupStart? (flags : Flags) (names : List (List Char)) (chars : List Char) :
    Except PatternError GroupStart := do
  match flags.skip chars with
  | '?' :: '=' :: _ | '?' :: '!' :: _ | '?' :: '<' :: '=' :: _ | '?' :: '<' :: '!' :: _ =>
    .error .lookAround
  | '?' :: 'P' :: '<' :: rest | '?' :: '<' :: rest =>
    let (name, rest) ← groupName? names rest
    .ok (.group flags (name :: names) rest)
  | '?' :: rest =>
    let (newFlags, withoutFlags, rest) ← flags? flags [] rest
    match rest with
    | ')' :: rest =>
      if withoutFlags then .error .nothingToRepeat else .ok (.flagsOnly newFlags rest)
    | _ => .ok (.group newFlags names (rest.drop 1))
  | rest => .ok (.group flags names rest)

/-! ### Patterns -/

/-- The set of the dot. -/
def dot? (flags : Flags) : Except PatternError CharSet :=
  if !flags.unicode then .error .outsideAscii
  else if flags.dotAll then .ok .any
  else if flags.eitherLine then .ok (.complement (.union (.single '\n') (.single '\r')))
  else .ok (.complement (.single '\n'))

/-- The test of a circumflex. -/
def startAnchor (flags : Flags) : Anchor :=
  if !flags.multiLine then .textStart
  else if flags.eitherLine then .eitherLineStart
  else .lineStart

/-- The test of a dollar sign. -/
def endAnchor (flags : Flags) : Anchor :=
  if !flags.multiLine then .textEnd
  else if flags.eitherLine then .eitherLineEnd
  else .lineEnd

/-- A piece that is a single character, escape, dot or anchor. -/
def primitive? (flags : Flags) (char : Char) (rest : List Char) :
    Except PatternError (Piece × List Char) :=
  match char with
  | '\\' => do
    match ← escape? flags rest with
    | (.char char wide, rest) =>
      if wide && !flags.unicode then .error .outsideAscii
      else .ok ({ regex := .oneOf (flags.literal char) }, rest)
    | (.set set, rest) => .ok ({ regex := .oneOf set }, rest)
    | (.anchor test, rest) => .ok ({ regex := .anchor test }, rest)
  | '.' => do return ({ regex := .oneOf (← dot? flags) }, rest)
  | '^' => .ok ({ regex := .anchor (startAnchor flags) }, rest)
  | '$' => .ok ({ regex := .anchor (endAnchor flags) }, rest)
  | char => .ok ({ regex := .oneOf (flags.literal char) }, rest)

/-- The rest of a group from some place on, up to its closing parenthesis or the end of the pattern:
its meaning, the names of groups so far, and the text from there on. -/
def pieces? (flags : Flags) (names : List (List Char)) (progress : Progress) :
    Nat → List Char → Except PatternError (Piece × List (List Char) × List Char)
  | 0, _ => .error .unclosedGroup
  | fuel + 1, chars =>
    match flags.skip chars with
    | [] => .ok (progress.finish, names, [])
    | char :: rest =>
      match char with
      | ')' => .ok (progress.finish, names, ')' :: rest)
      | '|' => pieces? flags names progress.split fuel rest
      | '(' => do
        match ← groupStart? flags names rest with
        | .flagsOnly newFlags rest =>
          pieces? newFlags names (progress.add { regex := .empty, setsFlags := true }) fuel rest
        | .group newFlags names rest =>
          let (inner, names, rest) ← pieces? newFlags names {} fuel rest
          match rest with
          | ')' :: rest =>
            let piece : Piece := { regex := inner.regex, height := inner.height + 1 }
            pieces? flags names (progress.add piece) fuel rest
          | _ => .error .unclosedGroup
      | '[' => do
        let (described, rest) ← bracket? flags rest
        let piece : Piece := { regex := .oneOf described.set, height := described.height }
        pieces? flags names (progress.add piece) fuel rest
      | '?' => do
        pieces? flags names (← progress.repeatLast? 0 (some 1)) fuel (dropLazy rest)
      | '*' => do
        pieces? flags names (← progress.repeatLast? 0 none) fuel (dropLazy rest)
      | '+' => do
        pieces? flags names (← progress.repeatLast? 1 none) fuel (dropLazy rest)
      | '\x7b' => do
        let _ ← progress.repeatLast? 0 none
        let ((least, most), rest) ← counted? flags rest
        let progress ← progress.repeatLast? least most
        pieces? flags names progress fuel (dropLazy (flags.skip rest))
      | char => do
        let (piece, rest) ← primitive? flags char rest
        pieces? flags names (progress.add piece) fuel rest

/-- How deep a pattern may be nested. -/
def heightLimit : Nat := 250

/-- The size up to which patterns are read: the states that ten mebibytes hold, at 32 bytes each. -/
def sizeLimit : Nat := 327680

/-- An estimate of the states for a set: about as many as there are bytes to tell apart. For the
large classes it is a round number, and sets that are combined count each on its own, whether or not
they overlap. -/
def setSize : CharSet → Nat
  | .empty => 1
  | .range low high => if low = high then low.utf8Size else 2 * high.utf8Size
  | .likeChar _ => 2
  | .ofClass .word => 1500
  | .ofClass .digit => 150
  | .ofClass .blank => 20
  | .ofClass (.listed runs) => 2 * runs.length
  | .union first second | .intersection first second | .difference first second
  | .symmetricDifference first second => setSize first + setSize second
  | .complement set => setSize set + 8
  | .folded set => setSize set

/-- An estimate of the states for a regular expression with its repetitions written out. -/
def size : Regex → Nat
  | .empty => 0
  | .oneOf set => setSize set
  | .anchor _ => 1
  | .sequence first second => size first + size second
  | .choice first second => size first + size second + 1
  | .repeated body least none => size body * max least 1 + 1
  | .repeated body least (some most) => size body * most + (most - least)

/-- The regular expression of a pattern, unless its size is above a limit. -/
def readWithin? (limit : Nat) (ignoreCase : Bool) (pattern : String) :
    Except PatternError Regex := do
  let chars := pattern.toList
  let (piece, _, rest) ← pieces? { ignoreCase := ignoreCase } [] {} (chars.length + 1) chars
  match rest with
  | [] =>
    if heightLimit < piece.height then .error .nestedTooDeep
    else if limit < size piece.regex then .error .tooLarge
    else .ok piece.regex
  | _ => .error .unopenedGroup

/-- The regular expression of a pattern. -/
def read? : Bool → String → Except PatternError Regex := readWithin? sizeLimit

/-- A text as the pattern that stands for it: a backslash before each character with a meaning of
its own. -/
def escape (text : String) : String :=
  String.ofList (text.toList.flatMap fun char => if isMeta char then ['\\', char] else [char])

end IndexGuard.Regex.Pattern
