/-
**Requests and responses.**

A request is a method, a target and headers; `Request.ofParts?` refuses parts that cannot be sent.
Header names do not distinguish letter case, and of several headers of one name the first counts.
-/

import IndexGuard.Http.Target
import IndexGuard.Json.Value

namespace IndexGuard.Http

/-- What a request wants done with its target. -/
inductive Method where
  | get
  | head
  | options
  | other (name : String)
  deriving DecidableEq

/-- The character may stand in a method or in the name of a header. -/
def isTokenChar (char : Char) : Bool :=
  char.isAlphanum || "!#$%&'*+-.^_\x60|~".toList.contains char

/-- The text is a method or the name of a header. -/
def isToken (text : String) : Bool :=
  !text.isEmpty && text.toList.all isTokenChar

/-- The text may be the value of a header: it has no control characters but tabs. -/
def isHeaderValue (text : String) : Bool :=
  text.toList.all fun char => char == '\t' || (0x20 ≤ char.toNat && char.toNat != 0x7F)

/-- The method with a name. -/
def Method.ofName? (name : String) : Option Method :=
  if !isToken name then none
  else
    some <|
      match name with
      | "GET" => get
      | "HEAD" => head
      | "OPTIONS" => options
      | name => other name

/-- A request. -/
structure Request where
  method : Method
  target : Target
  headers : List (String × String) := []

namespace Request

/-- The request with a method, a target and headers given as texts. -/
def ofParts? (method target : String) (headers : List (String × String)) : Option Request := do
  let method ← Method.ofName? method
  let target ← Target.ofText? target
  if headers.all fun header => isToken header.1 && isHeaderValue header.2 then
    return { method := method, target := target, headers := headers }
  else none

/-- The value of a header, by its name in small letters. -/
def header? (request : Request) (name : String) : Option String :=
  (request.headers.find? fun header => header.1.map Char.toLower == name).map Prod.snd

end Request

/-- The content of a response. -/
inductive Body where
  | empty
  | text (content : String)
  | json (value : Json)

/-- A response, with its headers by their names in small letters. -/
structure Response where
  status : Nat
  headers : Fields String := []
  body : Body := .empty

namespace Response

/-- A JSON response. -/
def json (status : Nat) (value : Json) : Response where
  status := status
  headers := [("content-type", "application/json")]
  body := .json value

/-- A text response. -/
def text (status : Nat) (content : String) : Response where
  status := status
  headers := [("content-type", "text/plain; charset=utf-8")]
  body := .text content

/-- A response with headers more. -/
def withHeaders (response : Response) (headers : List (String × String)) : Response :=
  { response with
    headers := headers.foldl (fun fields header => Fields.insert fields header.1 header.2)
      response.headers }

/-- The response to a request for the headers alone. -/
def withoutBody (response : Response) : Response := { response with body := .empty }

end Response

end IndexGuard.Http
