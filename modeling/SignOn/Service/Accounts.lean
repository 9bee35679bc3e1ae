import SignOn.Service.Basic
import SignOn.Text.Quoted
/-!
# Accounts

Opening an account, confirming its address, setting its password, and
reading and changing profiles.
-/

namespace SignOn

/-- What an account is opened with. -/
structure Registration where
  email : String
  password : String
  displayName : String
deriving DecidableEq

/-- A registration as it is shown, without the password. -/
def Registration.redacted (r : Registration) : String :=
  "RegisterUser \x7b email: " ++ quoted r.email ++ ", display_name: " ++ quoted r.displayName ++
    ", .. \x7d"

namespace Service

open Procedure

/-! ## Registration -/

/-- Opens an account with an unconfirmed address and sends its owner a
token to confirm it. An event that does not get out is no failure. -/
def register (s : Service) (ctx : RequestContext) (input : Registration) : Procedure Int := do
  s.requireValid .email input.email
  s.requireValid .password input.password
  s.requireValid .displayName input.displayName
  let hash ← s.hashPassword ctx input.password
  -- an address that is taken between here and the insertion is refused there
  match ← step (.query ctx (.accountByEmail input.email)) with
  | .ok _ => report .accountExists
  | .error (.notFound _) => pure ()
  | .error e => report (.ofStore e)
  let id ← ask ctx (.insertAccount ⟨input.email, hash, input.displayName⟩) fun
    | .conflict _ => .accountExists
    | e => .ofStore e
  recover (s.announceVerifyEmail ctx id) fun _ => pure ()
  return id

/-! ## The address -/

/-- Sends the token to confirm an address again. -/
def sendVerifyEmail (s : Service) (ctx : RequestContext) (email : String) : Procedure Unit := do
  let account ← ask ctx (.accountByEmail email) .ofLookup
  require (!account.emailConfirmed) .emailAlreadyConfirmed
  s.announceVerifyEmail ctx account.id

/-- Confirms the address of the account that a token is for. -/
def verifyEmail (s : Service) (ctx : RequestContext) (token : String) : Procedure Unit := do
  let id ← s.accountOfOpaque token .verifyEmail
  let account ← ask ctx (.accountById id) .ofLookup
  require (!account.emailConfirmed) .emailAlreadyConfirmed
  ask ctx (.confirmEmail id) fun
    | .conflict _ => .emailAlreadyConfirmed
    | .notFound _ => .accountNotFound
    | e => .ofStore e

/-! ## The password -/

/-- Sends the owner of a confirmed address a token to reset the password. -/
def sendForgetPassword (s : Service) (ctx : RequestContext) (email : String) :
    Procedure Unit := do
  let account ← ask ctx (.accountByEmail email) .ofLookup
  require account.emailConfirmed .emailNotConfirmed
  s.announceForgetPassword ctx account.id

/-- Sets a new password for the account that a token is for. -/
def forgetPassword (s : Service) (ctx : RequestContext) (token newPassword : String) :
    Procedure Unit := do
  s.requireValid .password newPassword
  let id ← s.accountOfOpaque token .forgetPassword
  let account ← ask ctx (.accountById id) .ofLookup
  let same ← verifyPassword ctx newPassword account.passwordHash
  require (!same) .invalidPassword
  let hash ← s.hashPassword ctx newPassword
  ask ctx (.setPassword id hash) .ofStore

/-- Sets a new password for the account that an access token admits, if
the old one is right. -/
def changePassword (s : Service) (ctx : RequestContext) (token oldPassword newPassword : String) :
    Procedure Unit := do
  s.requireValid .password newPassword
  require (oldPassword != newPassword) .invalidPassword
  let id ← s.accountOfAccess token
  let account ← ask ctx (.accountById id) .ofLookup
  let right ← verifyPassword ctx oldPassword account.passwordHash
  require right .wrongPassword
  let hash ← s.hashPassword ctx newPassword
  ask ctx (.setPassword id hash) .ofStore

/-! ## Profiles -/

/-- The account that an access token admits. -/
def getMe (s : Service) (ctx : RequestContext) (token : String) : Procedure Account := do
  let id ← s.accountOfAccess token
  ask ctx (.accountById id) .ofLookup

/-- The account with an id. -/
def getUser (ctx : RequestContext) (id : Int) : Procedure Account :=
  ask ctx (.accountById id) .ofLookup

/-- The account with an address. -/
def getUserByEmail (ctx : RequestContext) (email : String) : Procedure Account :=
  ask ctx (.accountByEmail email) .ofLookup

/-- All accounts, or a page of them. -/
def getUsers (ctx : RequestContext) (page : Option Page) : Procedure (List Account) :=
  ask ctx (.listAccounts page) .ofStore

/-- Changes the profile of the account that an access token admits. -/
def updateProfile (s : Service) (ctx : RequestContext) (token : String) (patch : ProfilePatch) :
    Procedure Unit := do
  s.requireValidIfPresent .displayName patch.displayName
  s.requireValidIfPresent .phone patch.phone
  s.requireValidIfPresent .telegram patch.telegram
  let id ← s.accountOfAccess token
  let _ ← ask ctx (.accountById id) .ofLookup
  ask ctx (.updateProfile id patch) .ofStore

end Service

end SignOn
