/-
**Why a command fails.**

Every failure has a code and a message; `CommandError.text` is both in one line.
-/

import IndexGuard.Config
import IndexGuard.Listing.Error

namespace IndexGuard

/-- Why a command fails. -/
inductive CommandError where
  | config (fault : ConfigError)
  | store (fault : StoreError)
  | request (fault : RequestError)
  /-- A parameter that is not a key and a value. -/
  | invalidParam (param : String)
  | io (reason : String)
  deriving DecidableEq

namespace CommandError

/-- The code of the error. -/
def code : CommandError → String
  | config _ => "LIBRIS_CLI_CONFIG_ERROR"
  | store _ => "LIBRIS_CLI_STORE_ERROR"
  | request _ => "LIBRIS_CLI_QUERY_ERROR"
  | invalidParam _ => "LIBRIS_CLI_INVALID_PARAM"
  | io _ => "LIBRIS_CLI_IO_ERROR"

/-- The error in words. -/
def message : CommandError → String
  | config fault => fault.message
  | store fault => fault.message
  | request fault => fault.message
  | invalidParam param => s!"expected key=value, got '{param}'"
  | io reason => reason

/-- The error in one line. -/
def text (error : CommandError) : String := s!"{error.code}: {error.message}"

/-- The error as JSON. -/
def toJson (error : CommandError) : Json :=
  .ofPairs
    [("status", .string "error"), ("code", .string error.code), ("message", .string error.message)]

end CommandError

end IndexGuard
