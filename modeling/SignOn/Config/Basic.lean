/-!
# The settings

`Config` holds every setting of the service, each with the value that it
has when nothing sets it. Whether settings make sense together is judged
elsewhere: a `Config` may hold any values of the right types.
-/

namespace SignOn

/-- Where the service listens. -/
structure TransportConfig where
  host : String := "0.0.0.0"
  port : UInt16 := 50051
deriving Repr, DecidableEq

/-- Where accounts and sessions are kept. -/
structure DatabaseConfig where
  /-- The database file; without one, a file in the user's home. -/
  path : Option String := none
  maxConnections : UInt32 := 5
  busyTimeoutSecs : UInt64 := 5
  /-- Seconds between purges of dead sessions. -/
  tokenGcIntervalSecs : UInt64 := 3600
deriving Repr, DecidableEq

/-- How tokens are signed and how long they live. -/
structure JwtConfig where
  secret : String := ""
  algorithm : String := "HS256"
  accessTtlSecs : Int := 15 * 60
  refreshTtlSecs : Int := 30 * 24 * 60 * 60
  verifyEmailTtlSecs : Int := 24 * 60 * 60
  forgetPasswordTtlSecs : Int := 60 * 60
deriving Repr, DecidableEq

/-- Passwords and tokens. -/
structure SecurityConfig where
  /-- The cost of a password hash, a power of two. -/
  hashCost : UInt32 := 10
  jwt : JwtConfig := {}
deriving Repr, DecidableEq

/-- The patterns that fields must match, all of them. -/
structure ValidationConfig where
  emailPattern : String := "^[^@\\s]+@[^@\\s]+\\.[^@\\s]+$"
  passwordPatterns : List String := ["^\\S\x7b8,\x7d$", "[A-Za-z]", "[0-9]"]
  displayNamePatterns : List String := ["^.\x7b1,64\x7d$", "\\S"]
  phonePatterns : List String := ["^\\+?[0-9]\x7b7,15\x7d$"]
  telegramPatterns : List String := ["^@?[A-Za-z0-9_]\x7b5,32\x7d$"]
deriving Repr, DecidableEq

/-- Every pattern, in the order in which they are judged. -/
def ValidationConfig.allPatterns (v : ValidationConfig) : List String :=
  v.emailPattern :: v.passwordPatterns ++ v.displayNamePatterns ++ v.phonePatterns ++
    v.telegramPatterns

/-- The subjects that events are published under. -/
structure SubjectsConfig where
  verifyEmail : String := "sso.verify-email"
  forgetPassword : String := "sso.forget-password"
deriving Repr, DecidableEq

/-- Where events go. -/
structure NotificationsConfig where
  /-- The receiver; without one, events are only logged. -/
  endpoint : Option String := none
  timeoutSecs : UInt64 := 5
  subjects : SubjectsConfig := {}
deriving Repr, DecidableEq

/-- What is logged, and where to. -/
structure LoggingConfig where
  level : String := "info"
  filePath : Option String := none
  json : Bool := false
deriving Repr, DecidableEq

/-- Every setting of the service. -/
structure Config where
  transport : TransportConfig := {}
  database : DatabaseConfig := {}
  security : SecurityConfig := {}
  validation : ValidationConfig := {}
  notifications : NotificationsConfig := {}
  logging : LoggingConfig := {}
deriving Repr, DecidableEq

end SignOn
