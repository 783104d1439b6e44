/-
**Which origins may read an answer.**

A page of another origin may read an answer that names its origin or all origins. Without a list of
origins all may read; with one, exactly those that are listed. A list may not hold the mark for all
origins.
-/

import IndexGuard.Http.Message

namespace IndexGuard.Http

/-- Which origins may read answers. -/
inductive OriginPolicy where
  | any
  | listed (origins : List String)
  deriving DecidableEq

/-- Why a list of origins is refused. -/
inductive OriginError where
  | wildcardListed
  deriving DecidableEq

/-- The error in words. -/
def OriginError.message : OriginError → String
  | wildcardListed =>
    "Wildcard origin (`*`) cannot be passed to `AllowOrigin::list`. " ++
      "Use `AllowOrigin::any()` instead"

namespace OriginPolicy

/-- The mark for all origins. -/
def wildcard : String := "*"

/-- The policy of a list of origins; those that no header can hold are passed over. -/
def ofOrigins (origins : List String) : Except OriginError OriginPolicy :=
  let valid := origins.filter isHeaderValue
  if origins.isEmpty then .ok .any
  else if valid.contains wildcard then .error .wildcardListed
  else .ok (.listed valid)

/-- What an answer to an origin names as allowed. -/
def allowed? (policy : OriginPolicy) (origin : Option String) : Option String :=
  match policy with
  | any => some wildcard
  | listed origins => origin.filter origins.contains

end OriginPolicy

end IndexGuard.Http
