import SignOn.Store.Error
import SignOn.Store.Rows
/-!
# The store

Two tables: accounts, and the sessions opened for them, each in the
order of insertion. Ids count up and are never given twice, not even
after a row is gone, which is why a table keeps the last one given. Every
operation takes the time, in seconds, and either answers together with
the new store or fails and leaves the store as it is.

`openSession` ends the sessions that an account still has, so that at
most one is live.
-/

namespace SignOn

/-- The two tables. -/
structure Store where
  accounts : List Account := []
  lastAccountId : Int := 0
  sessions : List Session := []
  lastSessionId : Int := 0
deriving Repr, DecidableEq

namespace Store

/-- The store without rows. -/
def empty : Store := {}

/-! ## Accounts -/

/-- The account with an id. -/
def account? (s : Store) (id : Int) : Option Account :=
  s.accounts.find? fun a => a.id == id

/-- The account with an address. -/
def accountWithEmail? (s : Store) (email : String) : Option Account :=
  s.accounts.find? fun a => a.email == email

/-- Adds an account and gives it an id, unless its address is taken. -/
def insertAccount (s : Store) (now : Int) (new : NewAccount) : Except StoreError (Int × Store) :=
  if s.accounts.any fun a => a.email == new.email then .error .emailTaken
  else
    let id := s.lastAccountId + 1
    let account : Account :=
      { id := id, email := new.email, passwordHash := new.passwordHash,
        displayName := new.displayName, createdAt := now, updatedAt := now }
    .ok (id, { s with accounts := s.accounts ++ [account], lastAccountId := id })

/-- The account with an id, if there is one. -/
def accountById (s : Store) (id : Int) : Except StoreError Account :=
  match s.account? id with
  | some a => .ok a
  | none => .error (.noAccount id)

/-- The account with an address, if there is one. -/
def accountByEmail (s : Store) (email : String) : Except StoreError Account :=
  match s.accountWithEmail? email with
  | some a => .ok a
  | none => .error (.noAccountWithEmail email)

/-- All accounts in the order of their ids, or a page of them. -/
def listAccounts (s : Store) : Option Page → List Account
  | some page => page.cut s.accounts
  | none => s.accounts

/-- The store with the account of an id changed. -/
def mapAccount (s : Store) (id : Int) (f : Account → Account) : Store :=
  { s with accounts := s.accounts.map fun a => if a.id = id then f a else a }

/-- Changes an account that must exist, and dates the change. -/
def changeAccount (s : Store) (now : Int) (id : Int) (f : Account → Account) :
    Except StoreError Store :=
  if (s.account? id).isSome then
    .ok (s.mapAccount id fun a => { f a with updatedAt := now })
  else .error (.noAccount id)

/-- Changes a profile. A patch without fields only dates the change. -/
def updateProfile (s : Store) (now : Int) (id : Int) (patch : ProfilePatch) :
    Except StoreError Store :=
  s.changeAccount now id patch.apply

/-- Replaces the password hash of an account. -/
def setPassword (s : Store) (now : Int) (id : Int) (hash : String) : Except StoreError Store :=
  s.changeAccount now id fun a => { a with passwordHash := hash }

/-- Confirms the address of an account, once. -/
def confirmEmail (s : Store) (now : Int) (id : Int) : Except StoreError Store :=
  match s.account? id with
  | none => .error (.noAccount id)
  | some a =>
    if a.emailConfirmed then .error (.alreadyConfirmed id)
    else s.changeAccount now id fun a => { a with emailConfirmed := true }

/-! ## Sessions -/

/-- Ends every live session that a test holds of. -/
def endSessions (s : Store) (now : Int) (p : Session → Bool) : Store :=
  { s with sessions := s.sessions.map fun r => if p r && r.isLive now then r.endedAt now else r }

/-- Adds a session and gives it an id. Its token must be new and its
account must exist; a token that is not new is noticed first. -/
def insertSession (s : Store) (now : Int) (accountId : Int) (value : String) (ttl : Int) :
    Except StoreError (Int × Store) :=
  if s.sessions.any fun r => r.value == value then .error .tokenTaken
  else if (s.account? accountId).isNone then .error .noOwner
  else
    let id := s.lastSessionId + 1
    .ok (id, { s with
      sessions := s.sessions ++ [⟨id, accountId, value, ttl, now, now⟩]
      lastSessionId := id })

/-- Opens a session in place of the one that the account still has. -/
def openSession (s : Store) (now : Int) (accountId : Int) (value : String) (ttl : Int) :
    Except StoreError (Int × Store) :=
  (s.endSessions now fun r => r.accountId == accountId).insertSession now accountId value ttl

/-- The live sessions of an account. -/
def liveSessions (s : Store) (now : Int) (accountId : Int) : List Session :=
  s.sessions.filter fun r => r.accountId == accountId && r.isLive now

/-- The live session of an account, the newest if there were several. -/
def liveSession (s : Store) (now : Int) (accountId : Int) : Except StoreError Session :=
  match (s.liveSessions now accountId).getLast? with
  | some r => .ok r
  | none => .error (.noLiveSession accountId)

/-- Ends the live session with a token. Of two that try, one fails. -/
def endSession (s : Store) (now : Int) (value : String) : Except StoreError Store :=
  if s.sessions.any fun r => r.value == value && r.isLive now then
    .ok (s.endSessions now fun r => r.value == value)
  else .error .noSuchSession

/-- Removes the sessions that ended at or before a time, and counts them. -/
def purge (s : Store) (before : Int) : Nat × Store :=
  let (gone, kept) := s.sessions.partition fun r => r.ttl ≤ before
  (gone.length, { s with sessions := kept })

end Store

end SignOn
