/-
**Blank characters.**

The characters of the Unicode property White_Space, and trimming them off the ends of a text.
-/

namespace IndexGuard.Text

/-- The character has the Unicode property White_Space. -/
def isBlank (char : Char) : Bool :=
  let code := char.toNat
  (9 ≤ code && code ≤ 13) || code == 0x20 || code == 0x85 || code == 0xA0 || code == 0x1680 ||
    (0x2000 ≤ code && code ≤ 0x200A) || code == 0x2028 || code == 0x2029 || code == 0x202F ||
    code == 0x205F || code == 0x3000

/-- The text from its first character that is not blank. -/
def trimStart (chars : List Char) : List Char :=
  chars.dropWhile isBlank

/-- The text up to its last character that is not blank. -/
def trimEnd (chars : List Char) : List Char :=
  (chars.reverse.dropWhile isBlank).reverse

/-- The text without blank characters at either end. -/
def trim (chars : List Char) : List Char :=
  trimEnd (trimStart chars)

/-- The pieces of a text between the occurrences of a separator. -/
def pieces (separator : Char) : List Char → List (List Char)
  | [] => [[]]
  | char :: rest =>
    match pieces separator rest with
    | [] => [[char]]
    | piece :: others =>
      if char = separator then [] :: piece :: others else (char :: piece) :: others

/-- The text before the first separator and the text after it, when there is a separator. -/
def cut? (separator : Char) : List Char → Option (List Char × List Char)
  | [] => none
  | char :: rest =>
    if char = separator then some ([], rest)
    else (cut? separator rest).map fun parts => (char :: parts.1, parts.2)

end IndexGuard.Text
