/-
**Request targets.**

A request target is a path with an optional query, the same behind a scheme and an authority
(`scheme://authority/path?query`), an authority alone, or `*`. A fragment is dropped.
`Target.ofText?` refuses a text of any other form and every character that has no place in its part.
-/

import IndexGuard.Text.Blank

namespace IndexGuard.Http

/-- What a request asks for. -/
structure Target where
  path : String
  query : Option String
  /-- The path and the query as they were given. -/
  text : String
  deriving DecidableEq

namespace Target

/-- The number of bytes that a target may have. -/
def lengthLimit : Nat := 65534

/-- The number of characters that a scheme may have. -/
def schemeLimit : Nat := 64

/-- The number of colons that may stand between other marks of an authority. -/
def colonLimit : Nat := 8

/-- The character may stand in a scheme. -/
def isSchemeChar (char : Char) : Bool :=
  char.isAlphanum || char == '+' || char == '-' || char == '.'

/-- The character may stand in an authority. -/
def isAuthorityChar (char : Char) : Bool :=
  char.isAlphanum || "!$&'()*+,-.:;=@[]_~".toList.contains char

/-- The character ends an authority. -/
def endsAuthority (char : Char) : Bool := char == '/' || char == '?' || char == '#'

/-- The character may stand in a path. -/
def isPathChar (char : Char) : Bool :=
  0x7F ≤ char.toNat || char.isAlphanum || "!\"$%&'()*+,-./:;=@[\\]^_\x7b|\x7d~".toList.contains char

/-- The character may stand in a query. -/
def isQueryChar (char : Char) : Bool :=
  (isPathChar char && char != '"') || char == '?' || char.toNat == 0x60

/-! ### Authorities -/

/-- What has been seen of an authority. -/
structure AuthorityScan where
  /-- The colons since the last `]` or `@`. -/
  colons : Nat := 0
  opened : Bool := false
  closed : Bool := false
  /-- A percent sign since the last `]` or `@`. -/
  percent : Bool := false
  /-- The last character is `@`. -/
  endsAtSign : Bool := false

/-- Take in a character of an authority. -/
def AuthorityScan.step? (scan : AuthorityScan) (char : Char) : Option AuthorityScan :=
  let next := { scan with endsAtSign := false }
  match char with
  | ':' => if colonLimit ≤ scan.colons then none else some { next with colons := scan.colons + 1 }
  | '[' => if scan.percent || scan.opened then none else some { next with opened := true }
  | ']' =>
    if !scan.opened || scan.closed then none
    else some { next with closed := true, colons := 0, percent := false }
  | '@' => some { next with colons := 0, percent := false, endsAtSign := true }
  | '%' => some { next with percent := true }
  | char => if isAuthorityChar char then some next else none

/-- The authority may end here. -/
def AuthorityScan.isComplete (scan : AuthorityScan) : Bool :=
  scan.opened == scan.closed && scan.colons ≤ 1 && !scan.percent && !scan.endsAtSign

/-- The text is an authority, possibly an empty one. -/
def isAuthority (chars : List Char) : Bool :=
  match chars.foldlM AuthorityScan.step? {} with
  | some scan => scan.isComplete
  | none => false

/-! ### Targets -/

/-- The scheme of a text and what follows its `://`. -/
def splitScheme? (chars : List Char) : Option (List Char × List Char) :=
  match chars.dropWhile isSchemeChar with
  | ':' :: '/' :: '/' :: rest => some (chars.takeWhile isSchemeChar, rest)
  | _ => none

/-- The target of a path and a query. -/
def ofPath? (chars : List Char) : Option Target :=
  let kept := chars.takeWhile fun char => char != '#'
  let (path, query) :=
    match Text.cut? '?' kept with
    | some (path, query) => (path, some query)
    | none => (kept, none)
  let orRoot (part : List Char) : String := if part.isEmpty then "/" else String.ofList part
  if path.all isPathChar && (query.getD []).all isQueryChar then
    some ⟨orRoot path, query.map String.ofList, orRoot kept⟩
  else none

/-- The target behind a scheme: an authority that is not empty, then a path and a query. -/
def ofAbsolute? (scheme rest : List Char) : Option Target :=
  let authority := rest.takeWhile fun char => !endsAuthority char
  if schemeLimit < scheme.length || authority.isEmpty || !isAuthority authority then none
  else ofPath? (rest.dropWhile fun char => !endsAuthority char)

/-- The target that a text stands for. -/
def ofText? (text : String) : Option Target :=
  if lengthLimit < text.utf8ByteSize then none
  else
    match text.toList with
    | [] => none
    | ['*'] => some ⟨"*", none, "*"⟩
    | '/' :: rest => ofPath? ('/' :: rest)
    | chars =>
      match splitScheme? chars with
      | some (scheme, rest) => ofAbsolute? scheme rest
      | none =>
        if !chars.any endsAuthority && isAuthority chars then some ⟨"", none, ""⟩ else none

end Target

end IndexGuard.Http
