import SignOn.Service.Error
/-!
# Statuses

A call that fails answers a status: a code and a text. Failures within
the service are all told the same way, so that nothing of their cause
gets out.
-/

namespace SignOn

/-- The codes of statuses. -/
inductive StatusCode
  | deadlineExceeded
  | notFound
  | alreadyExists
  | failedPrecondition
  | internal
  | unauthenticated
deriving Repr, DecidableEq

/-- The number of a code on the wire. -/
def StatusCode.number : StatusCode → Nat
  | .deadlineExceeded => 4
  | .notFound => 5
  | .alreadyExists => 6
  | .failedPrecondition => 9
  | .internal => 13
  | .unauthenticated => 16

/-- The name of a code. -/
def StatusCode.name : StatusCode → String
  | .deadlineExceeded => "DeadlineExceeded"
  | .notFound => "NotFound"
  | .alreadyExists => "AlreadyExists"
  | .failedPrecondition => "FailedPrecondition"
  | .internal => "Internal"
  | .unauthenticated => "Unauthenticated"

/-- The code of a failure. -/
def ServiceError.code : ServiceError → StatusCode
  | .accountNotFound => .notFound
  | .accountExists => .alreadyExists
  | .wrongPassword => .unauthenticated
  | .invalidToken => .unauthenticated
  | .tokensUnrelated => .unauthenticated
  | .emailAlreadyConfirmed => .failedPrecondition
  | .emailNotConfirmed => .failedPrecondition
  | .invalidEmail => .failedPrecondition
  | .invalidPassword => .failedPrecondition
  | .invalidDisplayName => .failedPrecondition
  | .invalidPhone => .failedPrecondition
  | .invalidTelegram => .failedPrecondition
  | .deadlineExceeded => .deadlineExceeded
  | .sessionNotFound => .internal
  | .sessionExists => .internal
  | .storage _ => .internal
  | .notification _ => .internal
  | .internal _ => .internal

/-- What a caller is told of a failed call. -/
structure Status where
  code : StatusCode
  message : String
deriving Repr, DecidableEq

/-- The one text of all failures within the service. -/
def Status.internalMessage : String :=
  "internal error"

/-- The status of a failure. -/
def Status.ofError (e : ServiceError) : Status :=
  ⟨e.code, if e.code = .internal then internalMessage else e.message⟩

end SignOn
