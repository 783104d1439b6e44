/-
**Why a request is not answered with a list.**

The client is told the message of a fault of its own. Of a fault of the server it is told only that
there is one, so that no detail of the store gets out (`RequestError.toJson`).
-/

import IndexGuard.Query.ListQuery

namespace IndexGuard

/-- Why a request is not answered. -/
inductive RequestError where
  | invalidQueryString (reason : String)
  | resourceNotFound (name : String)
  | routeNotFound (target : String)
  | query (fault : QueryError)
  deriving DecidableEq

namespace RequestError

/-- The error in words. -/
def message : RequestError → String
  | invalidQueryString reason => s!"Invalid query string: {reason}"
  | resourceNotFound name => s!"Resource not found: {name}"
  | routeNotFound target => s!"URL not found: {target}."
  | query fault => fault.message

/-- The status code of the answer. -/
def status : RequestError → Nat
  | invalidQueryString _ => 400
  | resourceNotFound _ | routeNotFound _ => 404
  | query fault => if fault.isClientError then 400 else 500

/-- What a client is told of a fault of the server. -/
def serverMessage : String := "Something went wrong!"

/-- The answer to the client. -/
def toJson (error : RequestError) : Json :=
  let isServerFault := 500 ≤ error.status
  .ofPairs
    [("status", .string (if isServerFault then "error" else "fail")),
      ("message", .string (if isServerFault then serverMessage else error.message)),
      ("code", .nat error.status)]

end RequestError

end IndexGuard
