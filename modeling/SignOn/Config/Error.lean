import SignOn.Text.Quoted
/-!
# What is wrong with settings

Every reason for which the service refuses its settings, and its text.
-/

namespace SignOn

/-- Why settings are refused. -/
inductive ConfigError
  | secretMissing
  | algorithmNotSupported (name : String)
  | lifetimeNotPositive (setting : String)
  | hashCostOutOfRange (cost : UInt32)
  | noConnections
  | patternMalformed (pattern : String)
  | addressMalformed
  /-- There is no settings file of this name, or it cannot be read. -/
  | fileUnreadable (path reason : String)
  /-- The file does not write settings. -/
  | fileMalformed (path : String)
deriving Repr, DecidableEq

namespace ConfigError

/-- The reason given for a file that does not exist. -/
def noSuchFile : String :=
  "No such file or directory (os error 2)"

/-- The reason given for a file whose bytes are no text. -/
def notText : String :=
  "stream did not contain valid UTF-8"

/-- What is wrong, without the heading. -/
def detail : ConfigError → String
  | .secretMissing => "security.jwt.secret must be set"
  | .algorithmNotSupported name =>
    s!"security.jwt.algorithm must be one of HS256, HS384, HS512 (got {name})"
  | .lifetimeNotPositive setting => s!"security.jwt.{setting} must be positive"
  | .hashCostOutOfRange cost => s!"security.hash_cost must be within 4..=31 (got {cost.toNat})"
  | .noConnections => "database.max_connections must be positive"
  | .patternMalformed pattern => "Invalid validation regexp " ++ quoted pattern
  | .addressMalformed => "Invalid transport address: invalid socket address syntax"
  | .fileUnreadable path reason => s!"Failed to read config file {path}: {reason}"
  | .fileMalformed path => s!"Failed to parse config file {path}"

/-- The text of an error. -/
def message (e : ConfigError) : String :=
  "Configuration error: " ++ e.detail

end ConfigError

end SignOn
