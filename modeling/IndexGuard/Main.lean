/-
**The command line program.**

The program reads its arguments and runs the command they give, with the files of the system. A page
or a plan is printed on standard output; errors go to standard error.
-/

import IndexGuard.Command.Run
import IndexGuard.Json.Printer

namespace IndexGuard.Main

/-- The lines that say how to call the program. -/
def usage : String :=
  "\n".intercalate
    [s!"Usage: {Program.name} <COMMAND>",
      "  serve [--config <PATH>] [--port <PORT>]",
      "  query [--config <PATH>] --resource <NAME> [--param <KEY=VALUE>]...",
      "  explain [--config <PATH>] --resource <NAME> [--param <KEY=VALUE>]..."]

/-- Why the system does not give the content of a file. -/
def failure : IO.Error → ReadFailure
  | .noFileOrDirectory _ _ _ => .notFound
  | .inappropriateType _ code _ => if code = 21 then .isDirectory else .notDirectory
  | error => .other (toString error)

/-- The text of a file of the system. -/
def readFile (path : String) : IO (Except ReadFailure String) := do
  match ← EIO.toBaseIO (IO.FS.readBinFile path) with
  | .error error => return .error (failure error)
  | .ok bytes =>
    return match Text.Utf8.decode? bytes.toList with
      | some text => .ok text
      | none => .error .notText

/-- Print what a command leaves behind. -/
def report (outcome : Outcome) : IO UInt32 := do
  if let some output := outcome.output then
    IO.println output.render
  if let some error := outcome.error then
    IO.eprintln error.text
  return outcome.exitCode.toUInt32

/-- Start the service: everything but listening, which needs sockets. -/
def serve (path : String) (port : Option Nat) : IO UInt32 := do
  match ← Command.prepare readFile path port with
  | .error (.command fault) => report (.failed fault)
  | .error (.origin fault) =>
    IO.eprintln fault.message
    return (Command.StartError.origin fault).exitCode.toUInt32
  | .ok (config, _) => report (.failed (.io s!"cannot listen at {config.address}"))

end IndexGuard.Main

open IndexGuard in
/-- Run the command that the arguments give. -/
def main (arguments : List String) : IO UInt32 := do
  match Command.ofArguments arguments with
  | .ok (.serve config port) => Main.serve config port
  | .ok (.query list) => Main.report (← Command.runQuery Main.readFile list)
  | .ok (.explain list) => Main.report (← Command.runExplain Main.readFile list)
  | .error stop =>
    match stop with
    | .version => IO.println s!"{Program.name} {Program.version}"
    | .help => IO.println Main.usage
    | .misuse => IO.eprintln Main.usage
    return stop.exitCode.toUInt32
