import SignOn.Config.Error
import SignOn.Config.Reader
import SignOn.Number
import SignOn.Text.Utf8
import SignOn.Toml.Reader
/-!
# Layers of settings

Settings come in layers, each over the one before: the defaults, a file,
the environment, the command line. A layer changes the settings that it
mentions and no others.
-/

namespace SignOn

namespace Config

/-! ## The file -/

/-- The settings that a text writes over the defaults. -/
def ofToml? (content : String) : Option Config := do
  let document ← Toml.read content
  (Config.ofDocument .ignored document).toOption

/-- The settings of a file with these bytes; the path is for the errors. -/
def ofFile (path : String) (content : List UInt8) : Except ConfigError Config :=
  match Utf8.decode content with
  | none => .error (.fileUnreadable path ConfigError.notText)
  | some text =>
    match ofToml? text with
    | none => .error (.fileMalformed path)
    | some c => .ok c

/-! ## The environment -/

/-- The variables that settings are taken from. -/
abbrev Environment := String → Option String

/-- The names of those variables. -/
def variableNames : List String :=
  ["SSO_JWT_SECRET", "SSO_DB_PATH", "SSO_LOG_LEVEL", "SSO_NOTIFICATIONS_ENDPOINT", "SSO_PORT"]

/-- The settings of the environment over others. A port that is no port
number is passed over. -/
def withEnvironment (env : Environment) (c : Config) : Config :=
  { c with
    transport.port := ((env "SSO_PORT").bind (decimalBelow? 0x10000)).elim c.transport.port
      UInt16.ofNat
    database.path := (env "SSO_DB_PATH").elim c.database.path some
    security.jwt.secret := (env "SSO_JWT_SECRET").getD c.security.jwt.secret
    notifications.endpoint := (env "SSO_NOTIFICATIONS_ENDPOINT").elim c.notifications.endpoint some
    logging.level := (env "SSO_LOG_LEVEL").getD c.logging.level }

/-! ## The command line -/

/-- The settings that a command line makes. -/
structure Flags where
  host : Option String := none
  port : Option UInt16 := none
  dbPath : Option String := none
  logLevel : Option String := none
  logJson : Bool := false
deriving Repr, DecidableEq

/-- The settings of the command line over others. -/
def withFlags (flags : Flags) (c : Config) : Config :=
  { c with
    transport.host := flags.host.getD c.transport.host
    transport.port := flags.port.getD c.transport.port
    database.path := flags.dbPath.elim c.database.path some
    logging.level := flags.logLevel.getD c.logging.level
    logging.json := flags.logJson || c.logging.json }

end Config

/-! ## The database file -/

/-- The database file in a home directory. -/
def defaultDatabasePath (home : String) : String :=
  home ++ "/.sso/sso.db"

/-- The database file of the settings. -/
def Config.databasePath (c : Config) (home : Option String) : Option String :=
  match c.database.path with
  | some path => some path
  | none => home.map defaultDatabasePath

end SignOn
