/-
**Command line arguments.**

The first argument names a command; the options of the command follow, as `--name value` or
`--name=value`. A value of its own argument may not look like an option; of the options only
`--param` may be given more than once. `Command.ofArguments` reads the arguments from left to right
and stops at the first that asks for help or the version, or has no place.
-/

import IndexGuard.Binary64.Decimal
import IndexGuard.Config

namespace IndexGuard

/-- A request for a list on the command line. -/
structure ListArguments where
  config : String
  resource : String
  params : List String
  deriving DecidableEq

/-- What the command line asks for. -/
inductive Command where
  | serve (config : String) (port : Option Nat)
  | query (arguments : ListArguments)
  | explain (arguments : ListArguments)
  deriving DecidableEq

/-- Why the arguments give no command. -/
inductive ArgumentStop where
  | help
  | version
  | misuse
  deriving DecidableEq

/-- The form of an argument. -/
inductive Argument where
  /-- `--`, which ends the options. -/
  | separator
  | long (name : String) (value : Option String)
  | short (letters : List Char)
  /-- An argument that does not look like an option. -/
  | free (text : String)

/-- The form of an argument given as text. -/
def Argument.ofText (text : String) : Argument :=
  match text.toList with
  | ['-', '-'] => separator
  | '-' :: '-' :: rest =>
    match Text.cut? '=' rest with
    | some (name, value) => long (String.ofList name) (some (String.ofList value))
    | none => long (String.ofList rest) none
  | '-' :: letter :: rest => short (letter :: rest)
  | _ => free text

/-- An option of a command. -/
structure CommandOption where
  name : String
  repeatable : Bool
  accepts : String → Bool

namespace CommandOption

/-- The port that a text names: decimal digits with an optional sign. -/
def port? (text : String) : Option Nat :=
  let (negative, digits) := Binary64.splitSign text.toList
  let value := Binary64.digitsValue digits
  if digits.isEmpty || !digits.all Char.isDigit then none
  else if value < Config.portCount && (value = 0 || !negative) then some value
  else none

/-- The path of the configuration. -/
def config : CommandOption := ⟨"config", false, fun value => !value.isEmpty⟩

/-- The port to listen at. -/
def port : CommandOption := ⟨"port", false, fun value => (port? value).isSome⟩

/-- The resource to list. -/
def resource : CommandOption := ⟨"resource", false, fun _ => true⟩

/-- A request parameter. -/
def param : CommandOption := ⟨"param", true, fun _ => true⟩

/-- The options given so far with one more, if there is such an option and it takes the value. -/
def add? (options : List CommandOption) (given : List (String × String)) (name value : String) :
    Option (List (String × String)) :=
  match options.find? fun option => option.name == name with
  | some option =>
    let isRepeated := given.any fun earlier => earlier.1 == name
    if option.accepts value && (option.repeatable || !isRepeated) then
      some (given ++ [(name, value)])
    else none
  | none => none

/-- The options that arguments give, with those that were given before. -/
def read (options : List CommandOption) (given : List (String × String)) :
    List String → Except ArgumentStop (List (String × String))
  | [] => .ok given
  | argument :: rest =>
    match Argument.ofText argument with
    | .separator => if rest.isEmpty then .ok given else .error .misuse
    | .free _ => .error .misuse
    | .short letters => .error (if letters.head? = some 'h' then .help else .misuse)
    | .long name (some value) =>
      match add? options given name value with
      | some given => read options given rest
      | none => .error .misuse
    | .long name none =>
      if name = "help" then .error .help
      else
        match rest with
        | [] => .error .misuse
        | next :: rest =>
          match Argument.ofText next with
          | .free value =>
            match add? options given name value with
            | some given => read options given rest
            | none => .error .misuse
          | _ => .error .misuse

/-- The first value given for an option. -/
def value? (given : List (String × String)) (option : CommandOption) : Option String :=
  (given.find? fun pair => pair.1 == option.name).map Prod.snd

/-- All values given for an option. -/
def values (given : List (String × String)) (option : CommandOption) : List String :=
  (given.filter fun pair => pair.1 == option.name).map Prod.snd

end CommandOption

namespace Command

open CommandOption (value? values)

/-- The path of the configuration when none is given. -/
def defaultConfig : String := "./libris.json"

/-- The names of the commands. -/
def names : List String := ["serve", "query", "explain"]

/-- The command that starts the service. -/
def readServe (arguments : List String) : Except ArgumentStop Command := do
  let given ← CommandOption.read [.config, .port] [] arguments
  return .serve ((value? given .config).getD defaultConfig)
    ((value? given .port).bind CommandOption.port?)

/-- The request for a list that the arguments of a command give. -/
def readList (arguments : List String) : Except ArgumentStop ListArguments := do
  let given ← CommandOption.read [.config, .resource, .param] [] arguments
  match value? given .resource with
  | some resource =>
    return {
      config := (value? given .config).getD defaultConfig
      resource := resource
      params := values given .param }
  | none => throw .misuse

/-- What stops at arguments that name no command. -/
def stopAt (argument : String) : ArgumentStop :=
  match Argument.ofText argument with
  | .long "help" none => .help
  | .long "version" none => .version
  | .short ('h' :: _) => .help
  | .short ('V' :: _) => .version
  | _ => .misuse

/-- What stops behind a request for help, which may name a command. -/
def stopAtHelp : List String → ArgumentStop
  | [] => .help
  | [name] => if ("help" :: names).contains name then .help else .misuse
  | _ => .misuse

/-- The command that the arguments give. -/
def ofArguments : List String → Except ArgumentStop Command
  | [] => .error .misuse
  | name :: rest =>
    match name with
    | "serve" => readServe rest
    | "query" => (readList rest).map .query
    | "explain" => (readList rest).map .explain
    | "help" => .error (stopAtHelp rest)
    | _ => .error (stopAt name)

end Command

end IndexGuard
