/-
**The parts of a pattern that name characters.**

Escapes after a backslash (`escape?`) and bracketed classes (`bracket?`). Both depend on the flags
in force: whether letter case counts, whether sets reach beyond ASCII, and whether blanks and
comments in the pattern are skipped.

A bracketed class holds characters, runs, escapes, named ASCII classes and nested brackets; `&&`,
`--` and `~~` apply to all that stands on their left. Case is ignored before a set operation is
applied and once more before a class is negated.
-/

import IndexGuard.Regex.Error
import IndexGuard.Regex.Property

namespace IndexGuard.Regex

open Text

/-- The flags in force at a place of a pattern. -/
structure Flags where
  ignoreCase : Bool := false
  multiLine : Bool := false
  dotAll : Bool := false
  unicode : Bool := true
  /-- A line ends in a line feed or a carriage return. -/
  eitherLine : Bool := false
  /-- Blanks and comments in the pattern are skipped. -/
  spaced : Bool := false

/-- Skip blanks, and comments from `#` to the end of the line. -/
def skipSpace (inComment : Bool) : List Char → List Char
  | [] => []
  | char :: rest =>
    if inComment then skipSpace (char != '\n') rest
    else if isBlank char then skipSpace false rest
    else if char = '#' then skipSpace true rest
    else char :: rest

/-- Skip what the flags let pass between the parts of a pattern. -/
def Flags.skip (flags : Flags) (chars : List Char) : List Char :=
  if flags.spaced then skipSpace false chars else chars

/-- The set of a literal character. -/
def Flags.literal (flags : Flags) (char : Char) : CharSet :=
  if !flags.ignoreCase then .single char
  else if flags.unicode then .likeChar char
  else if char.isAlpha then .union (.single char.toLower) (.single char.toUpper)
  else .single char

/-- The digits of the ASCII range. -/
def asciiDigit : CharSet := .range '0' '9'

/-- The word characters of the ASCII range. -/
def asciiWord : CharSet :=
  .union (.range 'a' 'z') (.union (.range 'A' 'Z') (.union asciiDigit (.single '_')))

/-- The blanks of the ASCII range. -/
def asciiBlank : CharSet := .union (.range '\t' '\r') (.single ' ')

/-- The word characters in force. -/
def Flags.word (flags : Flags) : CharSet :=
  if flags.unicode then .ofClass .word else asciiWord

/-! ### Escapes -/

/-- What an escape stands for. -/
inductive Escaped where
  /-- A character; `wide` when it lies beyond ASCII and was given as two hexadecimal digits. -/
  | char (char : Char) (wide : Bool)
  | set (set : CharSet)
  | anchor (anchor : Anchor)

/-- The characters with a meaning of their own in a pattern. -/
def isMeta (char : Char) : Bool :=
  "\\.+*?()|[]\x7b\x7d^$#&-~".toList.contains char

/-- The characters that stand for themselves behind a backslash. -/
def isEscapable (char : Char) : Bool :=
  isMeta char || (char.toNat < 0x80 && !char.isAlphanum && char != '<' && char != '>')

/-- The value of a hexadecimal digit. -/
def hexValue? (char : Char) : Option Nat :=
  if char.isDigit then some (char.toNat - '0'.toNat)
  else if 'a' ≤ char && char ≤ 'f' then some (char.toNat - 'a'.toNat + 10)
  else if 'A' ≤ char && char ≤ 'F' then some (char.toNat - 'A'.toNat + 10)
  else none

/-- The character with a code. -/
def charOf? (code : Nat) : Option Char :=
  if code.isValidChar then some (Char.ofNat code) else none

/-- The text up to a closing brace, and what follows the brace. -/
def untilBrace? (flags : Flags) : Nat → List Char → Option (List Char × List Char)
  | 0, _ => none
  | _ + 1, [] => none
  | _ + 1, '\x7d' :: rest => some ([], rest)
  | fuel + 1, char :: rest =>
    (untilBrace? flags fuel (flags.skip rest)).map fun (inner, rest) => (char :: inner, rest)

/-- A code of a fixed number of hexadecimal digits. -/
def fixedCode? (flags : Flags) : Nat → Nat → List Char → Except PatternError (Nat × List Char)
  | 0, code, rest => .ok (code, rest)
  | _ + 1, _, [] => .error .trailingBackslash
  | digits + 1, code, char :: rest =>
    match hexValue? char with
    | none => .error .badCode
    | some digit => fixedCode? flags digits (code * 16 + digit) (flags.skip rest)

/-- A code of hexadecimal digits, in braces or of a fixed number. -/
def code? (flags : Flags) (digits : Nat) (chars : List Char) :
    Except PatternError (Escaped × List Char) :=
  match flags.skip chars with
  | '\x7b' :: rest =>
    match untilBrace? flags (rest.length + 1) (flags.skip rest) with
    | none => .error .trailingBackslash
    | some (inner, rest) =>
      match inner.mapM hexValue? with
      | none => .error .badCode
      | some values =>
        if values.isEmpty then .error .badCode
        else
          match charOf? (values.foldl (fun code digit => code * 16 + digit) 0) with
          | none => .error .badCode
          | some char => .ok (.char char false, rest)
  | rest => do
    let (code, rest) ← fixedCode? flags digits 0 rest
    match charOf? code with
    | none => .error .badCode
    | some char => .ok (.char char (digits == 2 && 0x80 ≤ code), rest)

/-- The first place at which a text occurs: what stands before it and after it. -/
def splitAt? (mark : List Char) : List Char → Option (List Char × List Char)
  | [] => none
  | char :: rest =>
    if mark.isPrefixOf (char :: rest) then some ([], (char :: rest).drop mark.length)
    else (splitAt? mark rest).map fun (before, after) => (char :: before, after)

/-- The set of a property in braces: whether it is negated, and the set. -/
def propertyIn? (inner : List Char) : Option (Bool × CharSet) :=
  match splitAt? "!=".toList inner with
  | some (name, value) => (Property.ofValue? name value).map fun set => (true, set)
  | none =>
    match splitAt? [':'] inner with
    | some (name, value) => (Property.ofValue? name value).map fun set => (false, set)
    | none =>
      match splitAt? ['='] inner with
      | some (name, value) => (Property.ofValue? name value).map fun set => (false, set)
      | none => (Property.ofName? inner).map fun set => (false, set)

/-- A set, or all other characters. -/
def negatedIf (negated : Bool) (set : CharSet) : CharSet :=
  if negated then .complement set else set

/-- A property after `p` or `P`. -/
def property? (flags : Flags) (negated : Bool) (chars : List Char) :
    Except PatternError (Escaped × List Char) :=
  if !flags.unicode then .error .outsideAscii
  else
    let finish (found : Option (Bool × CharSet)) (rest : List Char) :
        Except PatternError (Escaped × List Char) :=
      match found with
      | none => .error .unknownProperty
      | some (inverted, set) =>
        let set := if flags.ignoreCase then .folded set else set
        .ok (.set (negatedIf (negated != inverted) set), rest)
    match flags.skip chars with
    | [] => .error .trailingBackslash
    | '\x7b' :: rest =>
      match untilBrace? flags (rest.length + 1) (flags.skip rest) with
      | none => .error .trailingBackslash
      | some (inner, rest) => finish (propertyIn? inner) rest
    | '\\' :: _ => .error .unknownProperty
    | char :: rest => finish ((Property.ofName? [char]).map fun set => (false, set)) rest

/-- A class of one letter: lower case for the class, upper case for all other characters. -/
def letterClass? (flags : Flags) (letter : Char) : Except PatternError Escaped :=
  let set : CharSet :=
    match letter.toLower with
    | 'd' => if flags.unicode then .ofClass .digit else asciiDigit
    | 's' => if flags.unicode then .ofClass .blank else asciiBlank
    | _ => flags.word
  if letter.isUpper && !flags.unicode then .error .outsideAscii
  else .ok (.set (negatedIf letter.isUpper set))

/-- The letters and dashes at the start of a text, and what follows them. -/
def wordName (flags : Flags) : Nat → List Char → List Char × List Char
  | 0, chars => ([], chars)
  | _ + 1, [] => ([], [])
  | fuel + 1, char :: rest =>
    if char.isAlpha || char = '-' then
      let (name, rest) := wordName flags fuel (flags.skip rest)
      (char :: name, rest)
    else ([], char :: rest)

/-- A word boundary after `b`; a brace that no letter follows belongs to a repetition. -/
def boundary? (flags : Flags) (chars : List Char) : Except PatternError (Escaped × List Char) :=
  let plain : Except PatternError (Escaped × List Char) :=
    .ok (.anchor (.boundary flags.word), chars)
  match chars with
  | '\x7b' :: rest =>
    match flags.skip rest with
    | [] => .error .unclosedRepetition
    | char :: rest =>
      if !(char.isAlpha || char = '-') then plain
      else
        let (name, rest) := wordName flags (rest.length + 1) (char :: rest)
        match rest with
        | '\x7d' :: rest =>
          if name = "start".toList then .ok (.anchor (.wordStart flags.word), rest)
          else if name = "end".toList then .ok (.anchor (.wordEnd flags.word), rest)
          else if name = "start-half".toList then .ok (.anchor (.noWordBefore flags.word), rest)
          else if name = "end-half".toList then .ok (.anchor (.noWordAfter flags.word), rest)
          else .error .badEscape
        | _ => .error .unclosedRepetition
  | _ => plain

/-- The escape after a backslash. -/
def escape? (flags : Flags) (chars : List Char) : Except PatternError (Escaped × List Char) :=
  match chars with
  | [] => .error .trailingBackslash
  | char :: rest =>
    if isEscapable char then .ok (.char char false, rest)
    else
      match char with
      | 'x' => code? flags 2 rest
      | 'u' => code? flags 4 rest
      | 'U' => code? flags 8 rest
      | 'p' => property? flags false rest
      | 'P' => property? flags true rest
      | 'd' | 's' | 'w' | 'D' | 'S' | 'W' => do return (← letterClass? flags char, rest)
      | 'a' => .ok (.char '\x07' false, rest)
      | 'f' => .ok (.char '\x0c' false, rest)
      | 't' => .ok (.char '\t' false, rest)
      | 'n' => .ok (.char '\n' false, rest)
      | 'r' => .ok (.char '\r' false, rest)
      | 'v' => .ok (.char '\x0b' false, rest)
      | 'A' => .ok (.anchor .textStart, rest)
      | 'z' => .ok (.anchor .textEnd, rest)
      | 'b' => boundary? flags rest
      | 'B' => .ok (.anchor (.notBoundary flags.word), rest)
      | '<' => .ok (.anchor (.wordStart flags.word), rest)
      | '>' => .ok (.anchor (.wordEnd flags.word), rest)
      | _ => .error .badEscape

/-! ### Bracketed classes -/

/-- A set operation of a class. -/
inductive SetOperation where
  | intersection
  | difference
  | symmetricDifference

/-- The operation applied to two sets. -/
def SetOperation.apply : SetOperation → CharSet → CharSet → CharSet
  | intersection => .intersection
  | difference => .difference
  | symmetricDifference => .symmetricDifference

/-- A set and how deep its description is nested. -/
structure Described where
  set : CharSet
  height : Nat

/-- What has been read of a class: the operation that waits for its right side, and the items of
the current side, last first. -/
structure ClassProgress where
  pending : Option (SetOperation × Described) := none
  items : List Described := []

/-- The union of the items of the current side. -/
def ClassProgress.side (progress : ClassProgress) : Described :=
  match progress.items with
  | [] => ⟨.empty, 0⟩
  | [item] => item
  | items =>
    ⟨items.foldl (fun set item => .union item.set set) .empty,
      items.foldl (fun height item => max height item.height) 0 + 1⟩

/-- All that has been read as one set. -/
def ClassProgress.finish (flags : Flags) (progress : ClassProgress) : Described :=
  let side := progress.side
  match progress.pending with
  | none => side
  | some (operation, left) =>
    let fold (set : CharSet) : CharSet := if flags.ignoreCase then .folded set else set
    ⟨operation.apply (fold left.set) (fold side.set), max left.height side.height + 1⟩

/-- Take in an item. -/
def ClassProgress.add (progress : ClassProgress) (set : CharSet) (height : Nat) : ClassProgress :=
  { progress with items := ⟨set, height⟩ :: progress.items }

/-- Take in an operation. -/
def ClassProgress.operate (flags : Flags) (progress : ClassProgress) (operation : SetOperation) :
    ClassProgress :=
  ⟨some (operation, progress.finish flags), []⟩

/-- The named classes of the ASCII range. -/
def asciiClass? (name : List Char) : Option CharSet :=
  let letters : CharSet := .union (.range 'a' 'z') (.range 'A' 'Z')
  match String.ofList name with
  | "alnum" => some (.union letters asciiDigit)
  | "alpha" => some letters
  | "ascii" => some .ascii
  | "blank" => some (.union (.single '\t') (.single ' '))
  | "cntrl" => some (.union (.range (Char.ofNat 0) '\x1f') (.single '\x7f'))
  | "digit" => some asciiDigit
  | "graph" => some (.range '!' '~')
  | "lower" => some (.range 'a' 'z')
  | "print" => some (.range ' ' '~')
  | "punct" =>
    some (.union (.range '!' '/') (.union (.range ':' '@') (.union (.range '[' '\x60')
      (.range '\x7b' '~'))))
  | "space" => some asciiBlank
  | "upper" => some (.range 'A' 'Z')
  | "word" => some asciiWord
  | "xdigit" => some (.union asciiDigit (.union (.range 'a' 'f') (.range 'A' 'F')))
  | _ => none

/-- A named ASCII class after its opening bracket, such as `:alpha:]`. -/
def namedClass? (chars : List Char) : Option (CharSet × List Char) :=
  match chars with
  | ':' :: rest =>
    let (negated, rest) :=
      match rest with
      | '^' :: rest => (true, rest)
      | _ => (false, rest)
    match rest.dropWhile fun char => char != ':' with
    | ':' :: ']' :: after =>
      (asciiClass? (rest.takeWhile fun char => char != ':')).map fun set =>
        (negatedIf negated set, after)
    | _ => none
  | _ => none

/-- One item of a class that is not a bracket: a character, or a set. -/
def classItem? (flags : Flags) (chars : List Char) :
    Except PatternError ((Char ⊕ CharSet) × List Char) :=
  match chars with
  | [] => .error .unclosedClass
  | '\\' :: rest => do
    match ← escape? flags rest with
    | (.char char wide, rest) =>
      if !flags.unicode && (wide || 0x80 ≤ char.toNat) then .error .outsideAscii
      else .ok (.inl char, rest)
    | (.set set, rest) => .ok (.inr set, rest)
    | (.anchor _, _) => .error .badClassItem
  | char :: rest =>
    if !flags.unicode && 0x80 ≤ char.toNat then .error .outsideAscii else .ok (.inl char, rest)

/-- An item of a class or a run of characters. -/
def classRange? (flags : Flags) (chars : List Char) :
    Except PatternError (CharSet × List Char) := do
  let (first, rest) ← classItem? flags chars
  let alone : CharSet :=
    match first with
    | .inl char => .single char
    | .inr set => set
  match flags.skip rest with
  | [] => .error .unclosedClass
  | '-' :: rest =>
    match flags.skip rest with
    | [] => .error .unclosedClass
    | ']' :: _ | '-' :: _ => .ok (alone, '-' :: rest)
    | rest =>
      let (last, rest) ← classItem? flags rest
      match first, last with
      | .inl low, .inl high =>
        if low ≤ high then .ok (.range low high, rest) else .error .badRange
      | _, _ => .error .badRange
  | rest => .ok (alone, rest)

/-- Dashes at the start of a class stand for themselves. -/
def leadingDashes (flags : Flags) (progress : ClassProgress) :
    Nat → List Char → ClassProgress × List Char
  | fuel + 1, '-' :: rest =>
    leadingDashes flags (progress.add (.single '-') 0) fuel (flags.skip rest)
  | _, chars => (progress, chars)

/-- The start of a class after its bracket: whether it is negated, and the characters that stand for
themselves only there. -/
def classStart (flags : Flags) (chars : List Char) : Bool × ClassProgress × List Char :=
  let (negated, rest) :=
    match flags.skip chars with
    | '^' :: rest => (true, flags.skip rest)
    | rest => (false, rest)
  let (progress, rest) := leadingDashes flags {} rest.length rest
  match progress.items, rest with
  | [], ']' :: rest => (negated, progress.add (.single ']') 0, flags.skip rest)
  | _, rest => (negated, progress, rest)

/-- A finished class. -/
def ClassProgress.close (flags : Flags) (negated : Bool) (progress : ClassProgress) :
    Except PatternError Described :=
  let described := progress.finish flags
  let set := if flags.ignoreCase then .folded described.set else described.set
  let set := negatedIf negated set
  if flags.unicode then .ok ⟨set, described.height + 1⟩
  else if set.contains (Char.ofNat 0x80) then .error .outsideAscii
  else .ok ⟨.intersection set .ascii, described.height + 1⟩

/-- The items of a class up to its closing bracket. -/
def classItems? (flags : Flags) (negated : Bool) (progress : ClassProgress) :
    Nat → List Char → Except PatternError (Described × List Char)
  | 0, _ => .error .unclosedClass
  | fuel + 1, chars =>
    match flags.skip chars with
    | [] => .error .unclosedClass
    | '[' :: rest =>
      match namedClass? rest with
      | some (set, rest) => classItems? flags negated (progress.add set 0) fuel rest
      | none => do
        let (innerNegated, inner, rest) := classStart flags rest
        let (nested, rest) ← classItems? flags innerNegated inner fuel rest
        classItems? flags negated (progress.add nested.set nested.height) fuel rest
    | ']' :: rest => do return (← progress.close flags negated, rest)
    | '&' :: '&' :: rest =>
      classItems? flags negated (progress.operate flags .intersection) fuel rest
    | '-' :: '-' :: rest =>
      classItems? flags negated (progress.operate flags .difference) fuel rest
    | '~' :: '~' :: rest =>
      classItems? flags negated (progress.operate flags .symmetricDifference) fuel rest
    | chars => do
      let (set, rest) ← classRange? flags chars
      classItems? flags negated (progress.add set 0) fuel rest

/-- A class after its opening bracket. -/
def bracket? (flags : Flags) (chars : List Char) : Except PatternError (Described × List Char) :=
  let (negated, progress, rest) := classStart flags chars
  classItems? flags negated progress (chars.length + 1) rest

end IndexGuard.Regex
