import SignOn.CommandLine.Help
import SignOn.Config.Address
import SignOn.Config.Check
import SignOn.Log.Filter
import SignOn.Service.Basic
import SignOn.Store.Error
/-!
# Starting up

`Startup.run` goes through everything that the command does before it
serves: arguments, settings, log, address, store, service, listener. What
it needs from outside comes in as `Surroundings`, in any monad, so that
the order of all this is stated here and nowhere else.
-/

namespace SignOn

namespace Startup

/-- What the command finds around it. A failure that the operating system
reports comes with its text. -/
structure Surroundings (m : Type → Type) where
  environment : Config.Environment
  /-- The home directory. -/
  home : Option String
  fileContent : String → m (Except String (List UInt8))
  /-- Prepares the log: a file, or the terminal. -/
  openLog : LoggingConfig → m (Except String Unit)
  writeLog : LoggingConfig → Log.Record → m Unit
  /-- Opens the store in a file and makes its tables. -/
  openStore : DatabaseConfig → String → m (Except StoreError Unit)
  /-- Listens and serves, as long as it goes well. -/
  serve : Service → Address → m (Except String Unit)

/-- How the command ends. -/
structure Outcome where
  exitCode : Nat := 0
  stdout : String := ""
  stderr : String := ""
deriving Repr, DecidableEq

/-- The end after a failure. -/
def failure (text : String) : Outcome :=
  { exitCode := 1, stderr := "Error: " ++ text ++ "\n" }

/-- The end of a command line that starts nothing. -/
def stopped (env : Config.Environment) : CommandLine.Stop → Outcome
  | .help => { stdout := CommandLine.helpText env }
  | .version => { stdout := CommandLine.versionText }
  | .usage e =>
    { exitCode := 2, stderr := e.message ++ "\n\nFor more information, try '--help'.\n" }

/-- The text of a failure to set up the service. -/
def setupMessage : SetupError → String
  | .token e => e.message
  | .pattern _ => "invalid pattern"

variable {m : Type → Type} [Monad m]

/-- The settings of all layers, if they make sense. -/
def settings (s : Surroundings m) (a : CommandLine.Arguments) :
    ExceptT ConfigError m Config := do
  let fromFile ←
    match a.config with
    | none => pure {}
    | some path =>
      match ← s.fileContent path with
      | .error reason => throw (.fileUnreadable path reason)
      | .ok content => ExceptT.mk (pure (Config.ofFile path content))
  let config := (fromFile.withEnvironment s.environment).withFlags a.flags
  ExceptT.mk (pure config.check)
  return config

/-- Writes a record, if it is one that is kept. -/
def log (s : Surroundings m) (c : LoggingConfig) (target message : String) :
    ExceptT String m Unit :=
  let record : Log.Record := ⟨.info, target, message⟩
  if (Log.Filter.ofString c.level).keeps record then ExceptT.lift (s.writeLog c record)
  else pure ()

/-- Starts the service with settings that make sense; the error is the
text of what went wrong. -/
def start (s : Surroundings m) (c : Config) : ExceptT String m Unit := do
  ExceptT.mk ((Except.mapError fun reason => "I/O error: " ++ reason) <$> s.openLog c.logging)
  let address ← ExceptT.mk (pure (c.transport.address.mapError ConfigError.message))
  -- from here on there is a log to write to
  log s c.logging "sso_server" "Starting sso-server"
  let path ← ExceptT.mk (pure (match c.databasePath s.home with
    | some path => .ok path
    | none => .error "Cannot determine database path"))
  log s c.logging "sso_server" "Opening SSO database"
  ExceptT.mk (Except.mapError StoreError.message <$> s.openStore c.database path)
  log s c.logging "sso_core::db" "Database opened"
  log s c.logging "sso_server::storage::db" "SSO database migrations complete"
  let service ← ExceptT.mk (pure ((Service.ofConfig c).mapError setupMessage))
  log s c.logging "sso_server" "gRPC server ready"
  ExceptT.mk (s.serve service address)
  log s c.logging "sso_server" "SSO server stopped"

/-- Runs the command. -/
def run (s : Surroundings m) (args : List String) : m Outcome := do
  match CommandLine.Arguments.read s.environment args with
  | .error stop => return stopped s.environment stop
  | .ok a =>
    match ← (settings s a).run with
    | .error e => return failure e.message
    | .ok c =>
      match ← (start s c).run with
      | .error text => return failure text
      | .ok () => return {}

end Startup

end SignOn
