import SignOn.Config.Basic
import SignOn.Failure
import SignOn.Token.Signed
/-!
# Issuing and accepting tokens

A `TokenIssuer` is a secret, an algorithm and four lifetimes. It issues
tokens of each kind and accepts a token for the kind that is asked for
and no other. Time is an argument: a token is valid up to and including
the second of its expiry.

The expiry is the sum of the time and the lifetime. Where that is no
64-bit number there is no token: signing is aborted.
-/

namespace SignOn

/-- What signs tokens, and how long they live. -/
structure TokenIssuer where
  secret : List UInt8
  algorithm : Algorithm
  accessTtl : Int
  refreshTtl : Int
  verifyEmailTtl : Int
  forgetPasswordTtl : Int
deriving Repr, DecidableEq

/-- Why there is no issuer, or no token. -/
inductive TokenError
  /-- The settings name no known algorithm. -/
  | unknownAlgorithm
  /-- The algorithm does not sign with a shared secret. -/
  | unusableAlgorithm
deriving Repr, DecidableEq

/-- The text of an error. -/
def TokenError.message : TokenError → String
  | .unknownAlgorithm => "InvalidAlgorithmName"
  | .unusableAlgorithm => "InvalidAlgorithm"

/-- A signed token and when it expires. -/
structure IssuedToken where
  token : String
  expiry : Int
deriving Repr, DecidableEq

namespace TokenIssuer

/-- The issuer of the settings. -/
def ofConfig (c : JwtConfig) : Except TokenError TokenIssuer :=
  match Algorithm.ofName? c.algorithm with
  | some algorithm =>
    .ok { secret := Utf8.encode c.secret
          algorithm := algorithm
          accessTtl := c.accessTtlSecs
          refreshTtl := c.refreshTtlSecs
          verifyEmailTtl := c.verifyEmailTtlSecs
          forgetPasswordTtl := c.forgetPasswordTtlSecs }
  | none => .error .unknownAlgorithm

/-! ## Issuing -/

/-- Signs a payload as a token of a kind, at a time and for a lifetime.
`jti` tells the token apart from all others. -/
def generate (j : TokenIssuer) (now : Int) (jti : String) (value : TokenValue)
    (kind : TokenKind) (ttl : Int) : Except (Failure TokenError) IssuedToken :=
  if Fits64 (now + ttl) then
    match j.algorithm.digest? with
    | some d =>
      .ok ⟨Signed.sign j.algorithm d j.secret ⟨jti, now, now + ttl, kind, value⟩, now + ttl⟩
    | none => .error (.reported .unusableAlgorithm)
  else .error .aborted

/-- A token that admits an account. -/
def issueAccess (j : TokenIssuer) (now : Int) (jti : String) (id : Int) :
    Except (Failure TokenError) IssuedToken :=
  j.generate now jti (.account id) .access j.accessTtl

/-- A token that renews an access token, which it carries. -/
def issueRefresh (j : TokenIssuer) (now : Int) (jti : String) (accessToken : String) :
    Except (Failure TokenError) IssuedToken :=
  j.generate now jti (.text accessToken) .refresh j.refreshTtl

/-- A token that confirms the address of an account. -/
def issueVerifyEmail (j : TokenIssuer) (now : Int) (jti : String) (id : Int) :
    Except (Failure TokenError) IssuedToken :=
  j.generate now jti (.account id) .verifyEmail j.verifyEmailTtl

/-- A token that lets the password of an account be set anew. -/
def issueForgetPassword (j : TokenIssuer) (now : Int) (jti : String) (id : Int) :
    Except (Failure TokenError) IssuedToken :=
  j.generate now jti (.account id) .forgetPassword j.forgetPasswordTtl

/-! ## Accepting -/

/-- The contents of a token of a kind, whether or not it has expired. -/
def claims? (j : TokenIssuer) (token : String) (kind : TokenKind) : Option Claims := do
  let d ← j.algorithm.digest?
  let claims ← Signed.open? j.algorithm d j.secret token
  guard (claims.kind = kind)
  return claims

/-- The payload of a token of a kind, at a time at which it has not
expired. -/
def parse (j : TokenIssuer) (now : Int) (token : String) (kind : TokenKind) :
    Option TokenValue := do
  let claims ← j.claims? token kind
  guard (now ≤ claims.exp)
  return claims.value

/-- The account that a token of a kind is for. -/
def parseAccount (j : TokenIssuer) (now : Int) (token : String) (kind : TokenKind) :
    Option Int := do
  let value ← j.parse now token kind
  value.accountId?

/-- The account that an access token admits. -/
def parseAccess (j : TokenIssuer) (now : Int) (token : String) : Option Int :=
  j.parseAccount now token .access

/-- The account of an access token that may have expired. Only for the
access token inside a refresh token, whose own expiry is checked. -/
def parseEmbeddedAccess (j : TokenIssuer) (token : String) : Option Int := do
  let claims ← j.claims? token .access
  claims.value.accountId?

/-- The access token that a refresh token carries. -/
def parseRefresh (j : TokenIssuer) (now : Int) (token : String) : Option String := do
  let value ← j.parse now token .refresh
  value.text?

end TokenIssuer

end SignOn
