import SignOn.Password
import SignOn.Service.Program
import SignOn.Token.Wrapped
import SignOn.Validation
/-!
# The service

`Service` holds what every operation needs: the issuer of tokens, the
rules for fields, the subjects of events and the cost of a hash. The
operations are procedures, programs that may fail; this module has the
pieces that they share.
-/

namespace SignOn

/-- A program that may fail. -/
abbrev Procedure := ExceptT (Failure ServiceError) Program

/-- What the operations need. -/
structure Service where
  issuer : TokenIssuer
  validator : Validator
  subjects : SubjectsConfig
  hashCost : UInt32

/-- Why there is no service for some settings. -/
inductive SetupError
  | token (cause : TokenError)
  | pattern (cause : Pattern.SyntaxError)

/-- The service of the settings. -/
def Service.ofConfig (c : Config) : Except SetupError Service :=
  match TokenIssuer.ofConfig c.security.jwt with
  | .error e => .error (.token e)
  | .ok issuer =>
    match Validator.ofConfig c.validation with
    | .error e => .error (.pattern e)
    | .ok validator => .ok ⟨issuer, validator, c.notifications.subjects, c.security.hashCost⟩

namespace Procedure

/-- The reply to a step. -/
def step (e : Effect) : Procedure e.Reply :=
  ExceptT.lift (Program.step e)

/-- The time, in seconds. -/
def now : Procedure Int := do
  return (← step .clock).seconds

/-- Ends with an error. -/
def report {α : Type} (e : ServiceError) : Procedure α :=
  throw (.reported e)

/-- A value, or the failure that its error stands for. -/
def ofExcept {ε α : Type} (failure : ε → ServiceError) : Except ε α → Procedure α
  | .ok a => pure a
  | .error e => report (failure e)

/-- A value, or the failure in place of it, with the error that its own
stands for. -/
def ofResult {ε α : Type} (failure : ε → ServiceError) : Except (Failure ε) α → Procedure α
  | .ok a => pure a
  | .error e => throw (e.map failure)

/-- Goes on only if a condition holds. -/
def require (condition : Bool) (failure : ServiceError) : Procedure Unit :=
  if condition then pure () else report failure

/-- A value that must be there. -/
def expect {α : Type} (failure : ServiceError) : Option α → Procedure α
  | some a => pure a
  | none => report failure

/-- Handles an error that is reported. An abort is not handled. -/
def recover {α : Type} (x : Procedure α) (handle : ServiceError → Procedure α) : Procedure α :=
  tryCatch x fun
    | .reported e => handle e
    | .aborted => throw .aborted

/-- The answer to a query; an error becomes a failure. -/
def ask (ctx : RequestContext) (q : Query) (failure : StoreError → ServiceError) :
    Procedure q.Answer := do
  ofExcept failure (← step (.query ctx q))

end Procedure

open Procedure

namespace Service

/-! ## Passwords -/

/-- Goes on only before the deadline. -/
def beforeDeadline (ctx : RequestContext) : Procedure Unit := do
  let late ← step (.deadline ctx)
  require (!late) .deadlineExceeded

/-- The failure that a password which cannot be hashed is. -/
def hashFailure : Password.HashError → ServiceError
  | .tooLong => .invalidPassword
  | e => .internal e.message

/-- Hashes a password. -/
def hashPassword (s : Service) (ctx : RequestContext) (password : String) : Procedure String := do
  beforeDeadline ctx
  let salt ← step .salt
  ofExcept hashFailure (Password.hash s.hashCost salt password)

/-- Whether a password is the one that a stored hash was made of. -/
def verifyPassword (ctx : RequestContext) (password hash : String) : Procedure Bool := do
  beforeDeadline ctx
  return Password.verify password hash

/-! ## Fields -/

/-- Goes on only if a field is acceptable. -/
def requireValid (s : Service) (field : Field) (text : String) : Procedure Unit :=
  require (s.validator.accepts field text)
    (match field with
      | .email => .invalidEmail
      | .password => .invalidPassword
      | .displayName => .invalidDisplayName
      | .phone => .invalidPhone
      | .telegram => .invalidTelegram)

/-- Goes on only if a field is missing or acceptable. -/
def requireValidIfPresent (s : Service) (field : Field) : Option String → Procedure Unit
  | some text => s.requireValid field text
  | none => pure ()

/-! ## Tokens -/

/-- Signs a new token. -/
def issue (sign : Int → String → Except (Failure TokenError) IssuedToken) :
    Procedure IssuedToken := do
  let now ← now
  let id ← step .identifier
  ofResult .ofToken (sign now id)

/-- The account that an access token admits. -/
def accountOfAccess (s : Service) (token : String) : Procedure Int := do
  let now ← now
  expect .invalidToken (s.issuer.parseAccess now token)

/-- The text of an opaque token. -/
def unwrap (token : String) : Procedure String :=
  ofExcept (fun _ => .invalidToken) (Wrapped.decodeString token)

/-- The account that an opaque token of a kind is for. -/
def accountOfOpaque (s : Service) (token : String) (kind : TokenKind) : Procedure Int := do
  let token ← unwrap token
  let now ← now
  expect .invalidToken (s.issuer.parseAccount now token kind)

/-! ## Events -/

/-- Publishes a token for an account under the subject of an occasion. -/
def announce (s : Service) (ctx : RequestContext) (occasion : Occasion) (id : Int)
    (token : String) : Procedure Unit := do
  let event : Event := ⟨id.natAbs, Wrapped.encodeString token⟩
  let sent ← step (.publish ctx (s.subjects.subject occasion) event.payload)
  ofExcept .notification sent

/-- Sends the owner of an account a token that confirms the address. -/
def announceVerifyEmail (s : Service) (ctx : RequestContext) (id : Int) : Procedure Unit := do
  let issued ← issue fun now jti => s.issuer.issueVerifyEmail now jti id
  s.announce ctx .verifyEmail id issued.token

/-- Sends the owner of an account a token that resets the password. -/
def announceForgetPassword (s : Service) (ctx : RequestContext) (id : Int) : Procedure Unit := do
  let issued ← issue fun now jti => s.issuer.issueForgetPassword now jti id
  s.announce ctx .forgetPassword id issued.token

end Service

end SignOn
