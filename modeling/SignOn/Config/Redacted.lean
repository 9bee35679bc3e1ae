import SignOn.Config.Basic
import SignOn.Text.Quoted
/-!
# Settings in messages

How the settings of tokens are shown in messages: without the secret.
-/

namespace SignOn

/-- What stands in place of the secret. -/
def redactedSecret : String :=
  "<redacted>"

/-- The settings of tokens as they are shown, without their secret. -/
def JwtConfig.redacted (c : JwtConfig) : String :=
  "JwtConfig \x7b " ++ ", ".intercalate
    ["secret: " ++ quoted redactedSecret,
      "algorithm: " ++ quoted c.algorithm,
      s!"access_ttl_secs: {c.accessTtlSecs}",
      s!"refresh_ttl_secs: {c.refreshTtlSecs}",
      s!"verify_email_ttl_secs: {c.verifyEmailTtlSecs}",
      s!"forget_password_ttl_secs: {c.forgetPasswordTtlSecs}"] ++ " \x7d"

end SignOn
