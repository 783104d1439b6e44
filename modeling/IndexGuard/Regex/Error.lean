/-
**Why a pattern is refused.**
-/

namespace IndexGuard.Regex

/-- A fault of a pattern. -/
inductive PatternError where
  | unclosedGroup
  | unopenedGroup
  | lookAround
  | badFlag
  | badGroupName
  | repeatedGroupName
  | nothingToRepeat
  | unclosedRepetition
  | badRepetition
  | unclosedClass
  | badRange
  | badClassItem
  | trailingBackslash
  | badEscape
  | badCode
  | unknownProperty
  | outsideAscii
  | nestedTooDeep
  | tooLarge
  deriving DecidableEq

/-- The fault in words. -/
def PatternError.message : PatternError → String
  | unclosedGroup => "unclosed group"
  | unopenedGroup => "unopened group"
  | lookAround => "look-around is not supported"
  | badFlag => "unrecognized flag"
  | badGroupName => "invalid group name"
  | repeatedGroupName => "duplicate group name"
  | nothingToRepeat => "repetition operator missing expression"
  | unclosedRepetition => "unclosed counted repetition"
  | badRepetition => "invalid repetition count"
  | unclosedClass => "unclosed character class"
  | badRange => "invalid character class range"
  | badClassItem => "invalid character class item"
  | trailingBackslash => "incomplete escape sequence"
  | badEscape => "unrecognized escape sequence"
  | badCode => "invalid character code"
  | unknownProperty => "Unicode property not found"
  | outsideAscii => "pattern can match text that is not ASCII"
  | nestedTooDeep => "pattern is nested too deep"
  | tooLarge => "compiled pattern is too large"

end IndexGuard.Regex
