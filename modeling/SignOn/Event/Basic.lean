import SignOn.Config.Basic
import SignOn.Json.Fields
import SignOn.Json.Reader
import SignOn.Json.Writer
/-!
# Events

An event hands a token to whoever writes to the owner of an account. It
is published as compact JSON under the subject of its occasion, and
`Published.event?` reads it back.
-/

namespace SignOn

/-- Why an event is sent. -/
inductive Occasion
  | verifyEmail
  | forgetPassword
deriving Repr, DecidableEq

/-- The subject of an occasion. -/
def SubjectsConfig.subject (c : SubjectsConfig) : Occasion → String
  | .verifyEmail => c.verifyEmail
  | .forgetPassword => c.forgetPassword

/-- An event. -/
structure Event where
  /-- The account, an unsigned 64-bit number. -/
  accountId : Nat
  /-- The token that its owner redeems, in opaque form. -/
  token : String
deriving Repr, DecidableEq

namespace Event

/-- The event as JSON. -/
def toJson (e : Event) : Json :=
  .ofMembers [("userId", .whole e.accountId), ("token", .ofString e.token)]

/-- The event that a JSON value writes. -/
def ofJson? (v : Json) : Option Event := do
  match ← v.fields ["userId", "token"] with
  | [accountId, token] =>
    let accountId ← Json.required Json.asUInt64 accountId
    let token ← Json.required Json.asString token
    return ⟨accountId, token⟩
  | _ => none

/-- The bytes that are published. -/
def payload (e : Event) : List UInt8 :=
  Utf8.encode e.toJson.write

end Event

/-- What has been published. -/
structure Published where
  subject : String
  payload : List UInt8
deriving Repr, DecidableEq

/-- The event that was published. -/
def Published.event? (p : Published) : Option Event := do
  let v ← Json.read p.payload
  Event.ofJson? v

end SignOn
