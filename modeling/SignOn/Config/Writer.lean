import SignOn.Config.Basic
import SignOn.Json.Value
/-!
# Settings as JSON

`Config.toJson` shows every setting under the name it has in a settings
file, the ones that are not set as `null`.
-/

namespace SignOn

/-- The section `transport`. -/
def TransportConfig.toJson (c : TransportConfig) : Json :=
  .ofMembers [("host", .ofString c.host), ("port", .whole c.port.toNat)]

/-- The section `database`. -/
def DatabaseConfig.toJson (c : DatabaseConfig) : Json :=
  .ofMembers [("path", .ofOption c.path),
    ("max_connections", .whole c.maxConnections.toNat),
    ("busy_timeout_secs", .whole c.busyTimeoutSecs.toNat),
    ("token_gc_interval_secs", .whole c.tokenGcIntervalSecs.toNat)]

/-- The section `security.jwt`. -/
def JwtConfig.toJson (c : JwtConfig) : Json :=
  .ofMembers [("secret", .ofString c.secret), ("algorithm", .ofString c.algorithm),
    ("access_ttl_secs", .whole c.accessTtlSecs), ("refresh_ttl_secs", .whole c.refreshTtlSecs),
    ("verify_email_ttl_secs", .whole c.verifyEmailTtlSecs),
    ("forget_password_ttl_secs", .whole c.forgetPasswordTtlSecs)]

/-- The section `security`. -/
def SecurityConfig.toJson (c : SecurityConfig) : Json :=
  .ofMembers [("hash_cost", .whole c.hashCost.toNat), ("jwt", c.jwt.toJson)]

/-- The section `validation`. -/
def ValidationConfig.toJson (c : ValidationConfig) : Json :=
  .ofMembers [("email_regexp", .ofString c.emailPattern),
    ("password_regexps", .ofStrings c.passwordPatterns),
    ("display_name_regexps", .ofStrings c.displayNamePatterns),
    ("phone_regexps", .ofStrings c.phonePatterns),
    ("telegram_regexps", .ofStrings c.telegramPatterns)]

/-- The section `notifications.subjects`. -/
def SubjectsConfig.toJson (c : SubjectsConfig) : Json :=
  .ofMembers [("verify_email", .ofString c.verifyEmail),
    ("forget_password", .ofString c.forgetPassword)]

/-- The section `notifications`. -/
def NotificationsConfig.toJson (c : NotificationsConfig) : Json :=
  .ofMembers [("endpoint", .ofOption c.endpoint),
    ("timeout_secs", .whole c.timeoutSecs.toNat), ("subjects", c.subjects.toJson)]

/-- The section `logging`. -/
def LoggingConfig.toJson (c : LoggingConfig) : Json :=
  .ofMembers [("level", .ofString c.level), ("file_path", .ofOption c.filePath),
    ("json", .bool c.json)]

/-- All settings. -/
def Config.toJson (c : Config) : Json :=
  .ofMembers [("transport", c.transport.toJson), ("database", c.database.toJson),
    ("security", c.security.toJson), ("validation", c.validation.toJson),
    ("notifications", c.notifications.toJson), ("logging", c.logging.toJson)]

end SignOn
