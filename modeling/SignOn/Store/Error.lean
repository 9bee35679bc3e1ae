/-!
# Storage errors

What can go wrong with a query, by kind, each with a text of its own.
The service decides by the kind alone; the text is for the log.
-/

namespace SignOn

/-- Why a query gives no answer. -/
inductive StoreError
  | io (detail : String)
  | connection (detail : String)
  | migration (detail : String)
  | query (detail : String)
  /-- There is no such row. -/
  | notFound (what : String)
  /-- A row would repeat a value that must be unique, or a change has
  already been made. -/
  | conflict (what : String)
  | deadlineExceeded
deriving Repr, DecidableEq

namespace StoreError

/-- The text of an error. -/
def message : StoreError → String
  | .io detail => "I/O error: " ++ detail
  | .connection detail => "Connection error: " ++ detail
  | .migration detail => "Migration error: " ++ detail
  | .query detail => "Query error: " ++ detail
  | .notFound what => "Not found: " ++ what
  | .conflict what => "Conflict: " ++ what
  | .deadlineExceeded => "Deadline exceeded"

/-! ## The errors of the store itself -/

/-- No account has this id. -/
def noAccount (id : Int) : StoreError :=
  .notFound s!"User {id}"

/-- No account has this address. -/
def noAccountWithEmail (email : String) : StoreError :=
  .notFound ("User with email " ++ email)

/-- An account with this address is there already. -/
def emailTaken : StoreError :=
  .conflict "UNIQUE constraint failed: users.email"

/-- The address of this account is confirmed already. -/
def alreadyConfirmed (id : Int) : StoreError :=
  .conflict s!"Email of user {id} already confirmed"

/-- A session with this token is there already. -/
def tokenTaken : StoreError :=
  .conflict "UNIQUE constraint failed: refresh_tokens.value"

/-- A session is for no account. -/
def noOwner : StoreError :=
  .query "error returned from database: (code: 787) FOREIGN KEY constraint failed"

/-- An account has no live session. -/
def noLiveSession (accountId : Int) : StoreError :=
  .notFound s!"Active refresh token for user {accountId}"

/-- No live session has this token. -/
def noSuchSession : StoreError :=
  .notFound "Active refresh token"

end StoreError

end SignOn
