import SignOn.Json.Fields
/-!
# What a token says

A token is issued for one purpose, its kind, and carries one payload: the
id of an account, or a text. `Claims` adds an identifier of its own, the
time of issue and the expiry. Its JSON form is fixed by `toJson` and read
back by `ofJson?`.
-/

namespace SignOn

/-- What a token is good for. -/
inductive TokenKind
  | access
  | refresh
  | verifyEmail
  | forgetPassword
deriving Repr, DecidableEq

/-- The name of a kind inside a token. -/
def TokenKind.wireName : TokenKind → String
  | .access => "access"
  | .refresh => "refresh"
  | .verifyEmail => "verify_email"
  | .forgetPassword => "forget_password"

/-- All kinds. -/
def TokenKind.all : List TokenKind :=
  [.access, .refresh, .verifyEmail, .forgetPassword]

/-- The kind of a name. -/
def TokenKind.ofWireName? (name : String) : Option TokenKind :=
  TokenKind.all.find? fun k => k.wireName == name

/-- The kind that a JSON value names. -/
def TokenKind.ofJson? (v : Json) : Option TokenKind :=
  v.asChoice.bind TokenKind.ofWireName?

/-- What a token carries. -/
inductive TokenValue
  | account (id : Int)
  | text (s : String)
deriving Repr, DecidableEq

/-- The account id, if it is one. -/
def TokenValue.accountId? : TokenValue → Option Int
  | .account id => some id
  | .text _ => none

/-- The text, if it is one. -/
def TokenValue.text? : TokenValue → Option String
  | .account _ => none
  | .text s => some s

/-- A payload as JSON: a number or a string, without a tag. -/
def TokenValue.toJson : TokenValue → Json
  | .account id => .whole id
  | .text s => .ofString s

/-- The payload that a JSON value is. -/
def TokenValue.ofJson? (v : Json) : Option TokenValue :=
  match v.asInt64 with
  | some id => some (.account id)
  | none => v.asString.map .text

/-- The contents of a token. -/
structure Claims where
  /-- Identifies this one token. -/
  jti : String
  /-- When it was issued, in seconds. -/
  iat : Int
  /-- The last second at which it is valid. -/
  exp : Int
  kind : TokenKind
  value : TokenValue
deriving Repr, DecidableEq

namespace Claims

/-- The names of the fields, in their order. -/
def fieldNames : List String :=
  ["jti", "iat", "exp", "token_type", "value"]

/-- The contents as JSON. -/
def toJson (c : Claims) : Json :=
  .ofMembers [("jti", .ofString c.jti), ("iat", .whole c.iat), ("exp", .whole c.exp),
    ("token_type", .ofString c.kind.wireName), ("value", c.value.toJson)]

/-- The contents that a JSON value writes. -/
def ofJson? (v : Json) : Option Claims := do
  match ← v.fields fieldNames with
  | [jti, iat, exp, kind, value] =>
    let jti ← Json.required Json.asString jti
    let iat ← Json.required Json.asInt64 iat
    let exp ← Json.required Json.asInt64 exp
    let kind ← Json.required TokenKind.ofJson? kind
    let value ← Json.required TokenValue.ofJson? value
    return ⟨jti, iat, exp, kind, value⟩
  | _ => none

end Claims

end SignOn
