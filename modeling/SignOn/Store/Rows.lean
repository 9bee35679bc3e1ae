import SignOn.Json.Fields
/-!
# Accounts and sessions

The rows of the two tables, and what is asked for when rows are added,
changed or listed.
-/

namespace SignOn

/-- An account. -/
structure Account where
  id : Int
  email : String
  passwordHash : String
  emailConfirmed : Bool := false
  displayName : String
  phone : Option String := none
  phoneConfirmed : Bool := false
  telegram : Option String := none
  telegramConfirmed : Bool := false
  avatar : Option String := none
  createdAt : Int
  updatedAt : Int
deriving Repr, DecidableEq

/-- A session: the refresh token that renews it, and until when. -/
structure Session where
  id : Int
  accountId : Int
  /-- The refresh token. -/
  value : String
  /-- The session is live before this second. -/
  ttl : Int
  createdAt : Int
  updatedAt : Int
deriving Repr, DecidableEq

/-- Whether a session is live at a time. -/
def Session.isLive (s : Session) (now : Int) : Bool :=
  now < s.ttl

/-- The session, ended at a time. -/
def Session.endedAt (s : Session) (now : Int) : Session :=
  { s with ttl := now - 1, updatedAt := now }

/-- What an account is made of. The password is hashed already. -/
structure NewAccount where
  email : String
  passwordHash : String
  displayName : String
deriving Repr, DecidableEq

/-! ## Profiles -/

/-- A change of a profile. What is missing stays as it is. -/
structure ProfilePatch where
  displayName : Option String := none
  phone : Option String := none
  telegram : Option String := none
  avatar : Option String := none
deriving Repr, DecidableEq

namespace ProfilePatch

/-- Whether nothing changes. -/
def isEmpty (p : ProfilePatch) : Bool :=
  p.displayName.isNone && p.phone.isNone && p.telegram.isNone && p.avatar.isNone

/-- The account after a change. -/
def apply (p : ProfilePatch) (a : Account) : Account :=
  { a with
    displayName := p.displayName.getD a.displayName
    phone := p.phone.orElse fun _ => a.phone
    telegram := p.telegram.orElse fun _ => a.telegram
    avatar := p.avatar.orElse fun _ => a.avatar }

end ProfilePatch

/-! ## Pages -/

/-- A window onto a listing. -/
structure Page where
  limit : UInt32
  offset : UInt64
deriving Repr, DecidableEq

namespace Page

/-- The limit of a page that states none. -/
def defaultLimit : UInt32 :=
  100

/-- The most entries of a page; zero states no limit. -/
def effectiveLimit (p : Page) : UInt32 :=
  if p.limit = 0 then defaultLimit else p.limit

/-- The entries that a page skips: offsets beyond the signed range are
brought down to its end. -/
def skipped (p : Page) : Nat :=
  min p.offset.toNat 0x7fffffffffffffff

/-- The entries of a page. -/
def cut {α : Type} (p : Page) (entries : List α) : List α :=
  (entries.drop p.skipped).take p.effectiveLimit.toNat

end Page

/-! ## Accounts in JSON -/

namespace Account

/-- The names of the fields, in their order. -/
def fieldNames : List String :=
  ["id", "email", "password_hash", "email_confirmed", "display_name", "phone",
    "phone_confirmed", "telegram", "telegram_confirmed", "avatar", "created_at", "updated_at"]

/-- The account that a JSON value writes. -/
def ofJson? (v : Json) : Option Account := do
  match ← v.fields fieldNames with
  | [id, email, passwordHash, emailConfirmed, displayName, phone, phoneConfirmed, telegram,
      telegramConfirmed, avatar, createdAt, updatedAt] =>
    let id ← Json.required Json.asInt64 id
    let email ← Json.required Json.asString email
    let passwordHash ← Json.required Json.asString passwordHash
    let emailConfirmed ← Json.required Json.asBool emailConfirmed
    let displayName ← Json.required Json.asString displayName
    let phone ← Json.optional Json.asString phone
    let phoneConfirmed ← Json.required Json.asBool phoneConfirmed
    let telegram ← Json.optional Json.asString telegram
    let telegramConfirmed ← Json.required Json.asBool telegramConfirmed
    let avatar ← Json.optional Json.asString avatar
    let createdAt ← Json.required Json.asInt64 createdAt
    let updatedAt ← Json.required Json.asInt64 updatedAt
    return ⟨id, email, passwordHash, emailConfirmed, displayName, phone, phoneConfirmed, telegram,
      telegramConfirmed, avatar, createdAt, updatedAt⟩
  | _ => none

/-- An account as JSON, without the password hash. -/
def toJson (a : Account) : Json :=
  .ofMembers [("id", .whole a.id), ("email", .ofString a.email),
    ("email_confirmed", .bool a.emailConfirmed), ("display_name", .ofString a.displayName),
    ("phone", .ofOption a.phone), ("phone_confirmed", .bool a.phoneConfirmed),
    ("telegram", .ofOption a.telegram), ("telegram_confirmed", .bool a.telegramConfirmed),
    ("avatar", .ofOption a.avatar), ("created_at", .whole a.createdAt),
    ("updated_at", .whole a.updatedAt)]

end Account

end SignOn
