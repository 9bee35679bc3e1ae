import SignOn.Config.Basic
import SignOn.Document
import SignOn.Number
/-!
# Settings from a document

`Config.ofDocument` reads the settings that a document makes and leaves
all others at their defaults. Entries of other names are skipped. A value
of the wrong type, or a number outside the range of its setting, is
refused. A section may also be written as a list of its settings in
order.
-/

namespace SignOn

/-- A value that a setting cannot take. -/
structure Misfit where
  setting : String
deriving Repr, DecidableEq

namespace Document

/-- How lists are taken that are longer than the record they write. -/
inductive Excess
  | refused
  | ignored
deriving Repr, DecidableEq

/-- The values that a section gives to its settings, in their order. -/
def section? (excess : Excess) (settings : List String) : Document → Option (List (Option Document))
  | .table entries => some (settings.map fun s => entries.lookup s)
  | .list items =>
    if excess = .refused ∧ settings.length < items.length then none
    else some ((List.range settings.length).map fun i => items[i]?)
  | _ => none

/-- A text. -/
def asText : Document → Option String
  | .text s => some s
  | _ => none

/-- A truth value. -/
def asBool : Document → Option Bool
  | .bool b => some b
  | _ => none

/-- A number below a bound. -/
def asBelow (bound : Nat) : Document → Option Nat
  | .whole n => if 0 ≤ n ∧ n < bound then some n.toNat else none
  | _ => none

/-- A signed 64-bit number. -/
def asInt64 : Document → Option Int
  | .whole n => if Fits64 n then some n else none
  | _ => none

/-- A list of texts. -/
def asTexts : Document → Option (List String)
  | .list items => items.mapM asText
  | _ => none

/-- A text, or none. -/
def asOptionalText : Document → Option (Option String)
  | .null => some none
  | d => d.asText.map some

/-- The value of one setting: its default where nothing is said. -/
def setting {α : Type} (name : String) (standard : α) (read : Document → Option α) :
    Option Document → Except Misfit α
  | none => .ok standard
  | some d =>
    match read d with
    | some v => .ok v
    | none => .error ⟨name⟩

/-- A section, each setting read from its value. -/
def readSection {α : Type} (name : String) (excess : Excess) (settings : List String)
    (build : List (Option Document) → Except Misfit α) (d : Document) : Except Misfit α :=
  match d.section? excess settings with
  | some values => build values
  | none => .error ⟨name⟩

/-- A section that may be missing. -/
def optionalSection {α : Type} (standard : α) (read : Document → Except Misfit α) :
    Option Document → Except Misfit α
  | none => .ok standard
  | some d => read d

/-- The value at a place, none where there is none. -/
def at? (values : List (Option Document)) (i : Nat) : Option Document :=
  (values[i]?).join

end Document

open Document

/-- The section `transport`. -/
def TransportConfig.ofDocument (e : Excess) : Document → Except Misfit TransportConfig :=
  readSection "transport" e ["host", "port"] fun v => do
    let standard : TransportConfig := {}
    let host ← setting "transport.host" standard.host asText (at? v 0)
    let port ← setting "transport.port" standard.port.toNat (asBelow 0x10000) (at? v 1)
    return ⟨host, UInt16.ofNat port⟩

/-- The section `database`. -/
def DatabaseConfig.ofDocument (e : Excess) : Document → Except Misfit DatabaseConfig :=
  readSection "database" e
    ["path", "max_connections", "busy_timeout_secs", "token_gc_interval_secs"] fun v => do
    let standard : DatabaseConfig := {}
    let path ← setting "database.path" standard.path asOptionalText (at? v 0)
    let connections ← setting "database.max_connections" standard.maxConnections.toNat
      (asBelow 0x100000000) (at? v 1)
    let busy ← setting "database.busy_timeout_secs" standard.busyTimeoutSecs.toNat
      (asBelow 0x10000000000000000) (at? v 2)
    let gc ← setting "database.token_gc_interval_secs" standard.tokenGcIntervalSecs.toNat
      (asBelow 0x10000000000000000) (at? v 3)
    return ⟨path, UInt32.ofNat connections, UInt64.ofNat busy, UInt64.ofNat gc⟩

/-- The section `security.jwt`. -/
def JwtConfig.ofDocument (e : Excess) : Document → Except Misfit JwtConfig :=
  readSection "security.jwt" e
    ["secret", "algorithm", "access_ttl_secs", "refresh_ttl_secs", "verify_email_ttl_secs",
      "forget_password_ttl_secs"] fun v => do
    let standard : JwtConfig := {}
    let secret ← setting "security.jwt.secret" standard.secret asText (at? v 0)
    let algorithm ← setting "security.jwt.algorithm" standard.algorithm asText (at? v 1)
    let access ← setting "security.jwt.access_ttl_secs" standard.accessTtlSecs asInt64 (at? v 2)
    let refresh ← setting "security.jwt.refresh_ttl_secs" standard.refreshTtlSecs asInt64
      (at? v 3)
    let verify ← setting "security.jwt.verify_email_ttl_secs" standard.verifyEmailTtlSecs asInt64
      (at? v 4)
    let forget ← setting "security.jwt.forget_password_ttl_secs" standard.forgetPasswordTtlSecs
      asInt64 (at? v 5)
    return ⟨secret, algorithm, access, refresh, verify, forget⟩

/-- The section `security`. -/
def SecurityConfig.ofDocument (e : Excess) : Document → Except Misfit SecurityConfig :=
  readSection "security" e ["hash_cost", "jwt"] fun v => do
    let standard : SecurityConfig := {}
    let cost ← setting "security.hash_cost" standard.hashCost.toNat (asBelow 0x100000000) (at? v 0)
    let jwt ← optionalSection standard.jwt (JwtConfig.ofDocument e) (at? v 1)
    return ⟨UInt32.ofNat cost, jwt⟩

/-- The section `validation`. -/
def ValidationConfig.ofDocument (e : Excess) : Document → Except Misfit ValidationConfig :=
  readSection "validation" e
    ["email_regexp", "password_regexps", "display_name_regexps", "phone_regexps",
      "telegram_regexps"] fun v => do
    let standard : ValidationConfig := {}
    let email ← setting "validation.email_regexp" standard.emailPattern asText (at? v 0)
    let password ← setting "validation.password_regexps" standard.passwordPatterns asTexts
      (at? v 1)
    let name ← setting "validation.display_name_regexps" standard.displayNamePatterns asTexts
      (at? v 2)
    let phone ← setting "validation.phone_regexps" standard.phonePatterns asTexts (at? v 3)
    let telegram ← setting "validation.telegram_regexps" standard.telegramPatterns asTexts
      (at? v 4)
    return ⟨email, password, name, phone, telegram⟩

/-- The section `notifications.subjects`. -/
def SubjectsConfig.ofDocument (e : Excess) : Document → Except Misfit SubjectsConfig :=
  readSection "notifications.subjects" e ["verify_email", "forget_password"] fun v => do
    let standard : SubjectsConfig := {}
    let verify ← setting "notifications.subjects.verify_email" standard.verifyEmail asText
      (at? v 0)
    let forget ← setting "notifications.subjects.forget_password" standard.forgetPassword asText
      (at? v 1)
    return ⟨verify, forget⟩

/-- The section `notifications`. -/
def NotificationsConfig.ofDocument (e : Excess) : Document → Except Misfit NotificationsConfig :=
  readSection "notifications" e ["endpoint", "timeout_secs", "subjects"] fun v => do
    let standard : NotificationsConfig := {}
    let endpoint ← setting "notifications.endpoint" standard.endpoint asOptionalText (at? v 0)
    let timeout ← setting "notifications.timeout_secs" standard.timeoutSecs.toNat
      (asBelow 0x10000000000000000) (at? v 1)
    let subjects ← optionalSection standard.subjects (SubjectsConfig.ofDocument e) (at? v 2)
    return ⟨endpoint, UInt64.ofNat timeout, subjects⟩

/-- The section `logging`. -/
def LoggingConfig.ofDocument (e : Excess) : Document → Except Misfit LoggingConfig :=
  readSection "logging" e ["level", "file_path", "json"] fun v => do
    let standard : LoggingConfig := {}
    let level ← setting "logging.level" standard.level asText (at? v 0)
    let path ← setting "logging.file_path" standard.filePath asOptionalText (at? v 1)
    let json ← setting "logging.json" standard.json asBool (at? v 2)
    return ⟨level, path, json⟩

/-- All settings. -/
def Config.ofDocument (e : Excess) : Document → Except Misfit Config :=
  readSection "config" e
    ["transport", "database", "security", "validation", "notifications", "logging"] fun v => do
    let standard : Config := {}
    let transport ← optionalSection standard.transport (TransportConfig.ofDocument e) (at? v 0)
    let database ← optionalSection standard.database (DatabaseConfig.ofDocument e) (at? v 1)
    let security ← optionalSection standard.security (SecurityConfig.ofDocument e) (at? v 2)
    let validation ← optionalSection standard.validation (ValidationConfig.ofDocument e) (at? v 3)
    let notifications ← optionalSection standard.notifications
      (NotificationsConfig.ofDocument e) (at? v 4)
    let logging ← optionalSection standard.logging (LoggingConfig.ofDocument e) (at? v 5)
    return ⟨transport, database, security, validation, notifications, logging⟩

end SignOn
