import SignOn.Event.Error
import SignOn.Store.Error
import SignOn.Token.Issuer
/-!
# What an operation reports

The closed set of failures of the service's operations. A storage error
becomes one of them by `ofStore`, where a passed deadline keeps its
meaning.
-/

namespace SignOn

/-- Why an operation fails. -/
inductive ServiceError
  | accountNotFound
  | accountExists
  | wrongPassword
  | invalidToken
  /-- The access token is not the one that the refresh token carries. -/
  | tokensUnrelated
  | emailAlreadyConfirmed
  | emailNotConfirmed
  | invalidEmail
  | invalidPassword
  | invalidDisplayName
  | invalidPhone
  | invalidTelegram
  | sessionNotFound
  | sessionExists
  | deadlineExceeded
  | storage (cause : StoreError)
  | notification (cause : NotificationError)
  | internal (detail : String)
deriving Repr, DecidableEq

namespace ServiceError

/-- The text of a failure. -/
def message : ServiceError → String
  | .accountNotFound => "user not found"
  | .accountExists => "user already exists"
  | .wrongPassword => "wrong password"
  | .invalidToken => "invalid jwt"
  | .tokensUnrelated => "access token does not belong to refresh token"
  | .emailAlreadyConfirmed => "email already confirmed"
  | .emailNotConfirmed => "email is not confirmed"
  | .invalidEmail => "invalid email"
  | .invalidPassword => "invalid password"
  | .invalidDisplayName => "invalid display name"
  | .invalidPhone => "invalid phone"
  | .invalidTelegram => "invalid telegram"
  | .sessionNotFound => "refresh token not found"
  | .sessionExists => "refresh token already exists"
  | .deadlineExceeded => "deadline exceeded"
  | .storage cause => "storage error: " ++ cause.message
  | .notification cause => "notification error: " ++ cause.message
  | .internal detail => "internal error: " ++ detail

/-- The failure that a storage error is, where nothing else is said. -/
def ofStore : StoreError → ServiceError
  | .deadlineExceeded => .deadlineExceeded
  | cause => .storage cause

/-- The failure that an error in looking an account up is: the account is
not found, whatever the cause, unless the deadline has passed. -/
def ofLookup : StoreError → ServiceError
  | .deadlineExceeded => .deadlineExceeded
  | _ => .accountNotFound

/-- The failure to sign a token. -/
def ofToken (e : TokenError) : ServiceError :=
  .internal ("token creation failed: " ++ e.message)

end ServiceError

end SignOn
