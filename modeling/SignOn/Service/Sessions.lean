import SignOn.Service.Basic
/-!
# Sessions

A session is renewed by a refresh token that carries an access token of
the same account. `login` opens a session in place of the one the account
had, `refresh` redeems a refresh token for a new pair, once, and `logout`
ends the session.
-/

namespace SignOn

/-- An access token, and the refresh token in opaque form that carries
it. -/
structure TokenPair where
  accessToken : String
  refreshToken : String
deriving Repr, DecidableEq

namespace Service

open Procedure

/-- Signs a new pair for an account and opens its session. -/
def openSession (s : Service) (ctx : RequestContext) (id : Int) : Procedure TokenPair := do
  let access ← issue fun now jti => s.issuer.issueAccess now jti id
  let refresh ← issue fun now jti => s.issuer.issueRefresh now jti access.token
  let _ ← ask ctx (.openSession id refresh.token refresh.expiry) fun
    | .conflict _ => .sessionExists
    | e => .ofStore e
  return ⟨access.token, Wrapped.encodeString refresh.token⟩

/-- Ends the live session of an account, if it has one. -/
def endLiveSession (ctx : RequestContext) (id : Int) : Procedure Unit := do
  match ← step (.query ctx (.liveSession id)) with
  | .error (.notFound _) => return
  | .error e => report (.ofStore e)
  | .ok session =>
    ask ctx (.endSession session.value) fun
      | .notFound _ => .sessionNotFound
      | e => .ofStore e

/-- Opens a session for the owner of a confirmed address and its
password. -/
def login (s : Service) (ctx : RequestContext) (email password : String) :
    Procedure TokenPair := do
  let account ← ask ctx (.accountByEmail email) .ofLookup
  require account.emailConfirmed .emailNotConfirmed
  let right ← verifyPassword ctx password account.passwordHash
  require right .wrongPassword
  endLiveSession ctx account.id
  s.openSession ctx account.id

/-- Redeems a refresh token for a new pair. It must be the one that the
live session of its account was opened with. -/
def refresh (s : Service) (ctx : RequestContext) (token : String) : Procedure TokenPair := do
  let token ← unwrap token
  let access ← expect .invalidToken (s.issuer.parseRefresh (← now) token)
  let id ← expect .invalidToken (s.issuer.parseEmbeddedAccess access)
  let session ← ask ctx (.liveSession id) fun
    | .notFound _ => .invalidToken
    | e => .ofStore e
  require (session.value == token) .invalidToken
  let stored ← expect .invalidToken (s.issuer.parseRefresh (← now) session.value)
  require (stored == access) .tokensUnrelated
  -- of those who redeem one token at once, one ends the session
  ask ctx (.endSession session.value) fun _ => .invalidToken
  s.openSession ctx id

/-- Ends the session of the account that an access token admits. That
there is none, or none any more, is no failure. -/
def logout (s : Service) (ctx : RequestContext) (token : String) : Procedure Unit := do
  let id ← s.accountOfAccess token
  recover (endLiveSession ctx id) fun
    | .sessionNotFound => pure ()
    | e => report e

/-- Removes the sessions that have ended, and counts them. -/
def purge (ctx : RequestContext) : Procedure Nat := do
  let now ← now
  ask ctx (.purge now) .ofStore

end Service

end SignOn
