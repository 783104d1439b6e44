/-
**Running a command.**

A command loads its configuration, opens the store and then reads its parameters; the first step
that fails ends it with a line of errors. A list or a plan is printed as one line of JSON. When it
is refused, the refusal is printed as well.

`prepare` takes the command that starts the service as far as the site that is ready to answer.
-/

import IndexGuard.Command.Arguments
import IndexGuard.Command.Error
import IndexGuard.Http.Site

namespace IndexGuard

/-- What a finished command leaves behind. -/
structure Outcome where
  exitCode : Nat
  /-- What is printed. -/
  output : Option Json := none
  /-- The error that is reported beside it. -/
  error : Option CommandError := none

namespace Outcome

/-- The outcome of a command that fails without printing anything. -/
def failed (error : CommandError) : Outcome where
  exitCode := 1
  error := some error

/-- The outcome of a list or a plan. -/
def ofResult : Except RequestError Json → Outcome
  | .ok data =>
    { exitCode := 0
      output := some (.ofPairs [("status", .string "ok"), ("data", data)]) }
  | .error fault =>
    { exitCode := 1
      output := some (CommandError.request fault).toJson
      error := some (.request fault) }

end Outcome

/-- The exit code where the arguments give no command. -/
def ArgumentStop.exitCode : ArgumentStop → Nat
  | help | version => 0
  | misuse => 2

namespace Params

/-- The pair that an argument gives: the key before the first `=`, which may not be empty. -/
def pair? (argument : String) : Except CommandError (String × String) :=
  match Text.cut? '=' argument.toList with
  | some (key, value) =>
    if key.isEmpty then .error (.invalidParam argument)
    else .ok (String.ofList key, String.ofList value)
  | none => .error (.invalidParam argument)

/-- The parameters that arguments give. -/
def ofArguments (arguments : List String) : Except CommandError Params :=
  (arguments.mapM pair?).map ofPairs

end Params

namespace Command

/-- Why the service does not start. -/
inductive StartError where
  | command (fault : CommandError)
  | origin (fault : Http.OriginError)
  deriving DecidableEq

/-- The exit code of a service that does not start. -/
def StartError.exitCode : StartError → Nat
  | command _ => 1
  | origin _ => 101

variable {m : Type → Type} [Monad m] (read : String → m (Except ReadFailure String))

/-- The configuration of a file and the store that it describes. -/
def openConfig (path : String) : m (Except CommandError (Config × MemoryStore)) := do
  match ← Config.load read path with
  | .error fault => return .error (.config fault)
  | .ok config =>
    match ← Config.openStore read config with
    | .error fault => return .error (.store fault)
    | .ok store => return .ok (config, store)

/-- Run a request for a list, with what is done with the service, the resource and the parameters.
-/
def runList (answer : ListService → String → Params → Except RequestError Json)
    (arguments : ListArguments) : m Outcome := do
  match ← openConfig read arguments.config with
  | .error fault => return .failed fault
  | .ok (config, store) =>
    match Params.ofArguments arguments.params with
    | .error fault => return .failed fault
    | .ok params =>
      let service : ListService :=
        { store := store.reads, resources := Resource.table config.resources }
      return .ofResult (answer service arguments.resource params)

/-- Run a query: print one page. -/
def runQuery : ListArguments → m Outcome :=
  runList read fun service name params => (service.list name params).map ListPage.toJson

/-- Run an explanation: print the plan of a query. -/
def runExplain : ListArguments → m Outcome :=
  runList read fun service name params => (service.explain name params).map QueryPlan.toJson

/-- The configuration to listen with and the site to answer with. -/
def prepare (path : String) (port : Option Nat) :
    m (Except StartError (Config × Http.Site)) := do
  match ← openConfig read path with
  | .error fault => return .error (.command fault)
  | .ok (config, store) =>
    let config := { config with port := port.getD config.port }
    return match Http.Site.ofConfig config store.reads with
      | .ok site => .ok (config, site)
      | .error fault => .error (.origin fault)

end Command

end IndexGuard
