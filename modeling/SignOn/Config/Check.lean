import SignOn.Config.Basic
import SignOn.Config.Error
import SignOn.Crypto.Bcrypt
import SignOn.Pattern.Reader
/-!
# Judging settings

`Config.check` refuses settings that the service cannot start with and
names the first of them, in a fixed order: the secret, the algorithm, the
lifetimes, the cost of a hash, the connections, the patterns.
-/

namespace SignOn

namespace Config

/-- The algorithms that tokens may be signed with. -/
def signingAlgorithms : List String :=
  ["HS256", "HS384", "HS512"]

/-- Every lifetime with the name of its setting. -/
def lifetimes (c : Config) : List (String × Int) :=
  [("access_ttl_secs", c.security.jwt.accessTtlSecs),
    ("refresh_ttl_secs", c.security.jwt.refreshTtlSecs),
    ("verify_email_ttl_secs", c.security.jwt.verifyEmailTtlSecs),
    ("forget_password_ttl_secs", c.security.jwt.forgetPasswordTtlSecs)]

/-- Whether a text is a pattern. -/
def isPattern (text : String) : Bool :=
  match Pattern.ofString text with
  | .ok _ => true
  | .error _ => false

/-- Everything that is wrong with the settings, in the order in which it
is judged. -/
def faults (c : Config) : List ConfigError :=
  let jwt := c.security.jwt
  (if jwt.secret = "" then [.secretMissing] else []) ++
  (if jwt.algorithm ∈ signingAlgorithms then [] else [.algorithmNotSupported jwt.algorithm]) ++
  (c.lifetimes.filter fun l => l.2 ≤ 0).map (fun l => .lifetimeNotPositive l.1) ++
  (if Bcrypt.costAllowed c.security.hashCost.toNat then [] else
    [.hashCostOutOfRange c.security.hashCost]) ++
  (if c.database.maxConnections = 0 then [.noConnections] else []) ++
  (c.validation.allPatterns.filter fun p => !isPattern p).map .patternMalformed

/-- Refuses settings at their first fault. -/
def check (c : Config) : Except ConfigError Unit :=
  match c.faults with
  | [] => .ok ()
  | fault :: _ => .error fault

/-- Settings pass exactly if nothing is wrong with them. -/
theorem check_eq_ok_iff {c : Config} : c.check = .ok () ↔ c.faults = [] := by
  unfold check
  split
  · next h => simp [h]
  · next h => simp [h]

end Config

end SignOn
