/-
**Configuration.**

A configuration says where to listen, which origins may read the answers, what to fill the store
with and which resources to serve. It is read from a JSON file, in which every field has a default;
a file that does not exist stands for the defaults. A seed path is taken from the directory of the
file.

Reading files is a parameter, `read`, in any monad: `Config.load` asks for the configuration file
and `Config.openStore` for the seed.
-/

import IndexGuard.Files.Path
import IndexGuard.Files.Read
import IndexGuard.Json.Reader
import IndexGuard.Listing.Resource
import IndexGuard.Store.Memory

namespace IndexGuard

/-- The settings of the service. -/
structure Config where
  host : String := "0.0.0.0"
  port : Nat := 8080
  /-- The origins that may read answers; any may when the list is empty. -/
  corsOrigins : List String := ["http://127.0.0.1:3000", "http://localhost:3000"]
  /-- The path of the file that the store is filled from. -/
  seed : Option String := none
  resources : List Resource := Resource.catalogue
  deriving DecidableEq

/-- Why there is no configuration. -/
inductive ConfigError where
  | unreadable (path : String) (failure : ReadFailure)
  | malformed (path : String)
  deriving DecidableEq

/-- The error in words. -/
def ConfigError.message : ConfigError → String
  | unreadable path failure => s!"cannot read config {path}: {failure.message}"
  | malformed path => s!"cannot parse config {path}: not a JSON configuration"

namespace Config

/-- The number of ports. -/
def portCount : Nat := 0x10000

/-- The address to listen at. -/
def address (config : Config) : String := s!"{config.host}:{config.port}"

/-- The configuration as JSON. -/
def toJson (config : Config) : Json :=
  .ofPairs
    [("host", .string config.host), ("port", .nat config.port),
      ("cors_origins", .strings config.corsOrigins), ("seed", .ofText? config.seed),
      ("resources", .array (config.resources.map Resource.toJson))]

open Json in
/-- The configuration that a JSON text says. -/
def ofSource? (source : Source) : Option Config := do
  let defaults : Config := {}
  match ← source.record? ["host", "port", "cors_origins", "seed", "resources"] with
  | [host, port, corsOrigins, seed, resources] =>
    return {
      host := ← Source.withDefault? Source.text? defaults.host host
      port := ← Source.withDefault? (Source.below? portCount) defaults.port port
      corsOrigins :=
        ← Source.withDefault? (Source.list? Source.text?) defaults.corsOrigins corsOrigins
      seed := ← Source.withDefault? (Source.optional? Source.text?) defaults.seed seed
      resources :=
        ← Source.withDefault? (Source.list? Resource.ofSource?) defaults.resources resources }
  | _ => none

/-- The configuration with its seed path taken from the directory of a file. -/
def seededFrom (config : Config) (path : String) : Config :=
  match config.seed, Path.parent? path with
  | some seed, some directory => { config with seed := some (Path.join directory seed) }
  | _, _ => config

/-- The configuration that a file's text, or the failure to read it, stands for. -/
def ofFile (path : String) : Except ReadFailure String → Except ConfigError Config
  | .ok text =>
    match (Json.Source.read? text).bind ofSource? with
    | some config => .ok (config.seededFrom path)
    | none => .error (.malformed path)
  | .error .notFound => .ok {}
  | .error failure => .error (.unreadable path failure)

/-- The store that the text of a seed file, or the failure to read it, stands for. -/
def seedStore (path : String) : Except ReadFailure String → Except StoreError MemoryStore
  | .ok text =>
    match (Json.Source.read? text).bind MemoryStore.Seed.ofSource? with
    | some seed => MemoryStore.ofSeed? seed
    | none => .error (.invalidSeed s!"cannot parse {path}: not a JSON seed")
  | .error failure => .error (.invalidSeed s!"cannot read {path}: {failure.message}")

/-- A store with a collection for every resource. -/
def withCollections (config : Config) (store : MemoryStore) : MemoryStore :=
  config.resources.foldl (fun store resource => store.createCollection resource.collection []) store

variable {m : Type → Type} [Monad m] (read : String → m (Except ReadFailure String))

/-- The configuration of a file. -/
def load (path : String) : m (Except ConfigError Config) := do
  return ofFile path (← read path)

/-- The store of a configuration. -/
def openStore (config : Config) : m (Except StoreError MemoryStore) := do
  let filled ←
    match config.seed with
    | some path => do pure (seedStore path (← read path))
    | none => pure (.ok {})
  return filled.map config.withCollections

end Config

end IndexGuard
