import SignOn.Store.Rows
/-!
# Messages

The requests and responses of the two services. Ids are unsigned on the
wire: `idToWire` and `idFromWire?` go between them and the ids of the
store.
-/

namespace SignOn

/-! ## Numbers and times -/

/-- The id of the store on the wire. -/
def idToWire (id : Int) : Nat :=
  id.natAbs

/-- The id of the store that a wire id stands for, if there is one. -/
def idFromWire? (id : UInt64) : Option Int :=
  if id.toNat < 0x8000000000000000 then some id.toNat else none

/-- A time on the wire. -/
structure Timestamp where
  seconds : Int
  nanos : Int := 0
deriving Repr, DecidableEq

/-! ## Accounts -/

/-- An account as callers see it. -/
structure UserMessage where
  id : Nat
  email : String
  emailConfirmed : Bool
  displayName : String
  phone : Option String
  phoneConfirmed : Bool
  telegram : Option String
  telegramConfirmed : Bool
  avatar : Option String
  createdAt : Timestamp
  updatedAt : Timestamp
deriving Repr, DecidableEq

/-- The message of an account. The password hash stays behind. -/
def UserMessage.ofAccount (a : Account) : UserMessage :=
  { id := idToWire a.id
    email := a.email
    emailConfirmed := a.emailConfirmed
    displayName := a.displayName
    phone := a.phone
    phoneConfirmed := a.phoneConfirmed
    telegram := a.telegram
    telegramConfirmed := a.telegramConfirmed
    avatar := a.avatar
    createdAt := ⟨a.createdAt, 0⟩
    updatedAt := ⟨a.updatedAt, 0⟩ }

/-! ## Requests and responses -/

/-- A page as callers ask for it. -/
structure PageMessage where
  limit : UInt32
  offset : UInt32
deriving Repr, DecidableEq

/-- The page that is asked for. -/
def PageMessage.page (p : PageMessage) : Page :=
  ⟨p.limit, UInt64.ofNat p.offset.toNat⟩

/-- The calls of both services. -/
inductive RpcRequest
  | register (email password displayName : String)
  | login (email password : String)
  | refreshTokens (refreshToken : String)
  | logout (accessToken : String)
  | verifyEmail (token : String)
  | sendVerifyEmailMessage (email : String)
  | forgetPassword (token newPassword : String)
  | sendForgetPasswordMessage (email : String)
  | changePassword (accessToken oldPassword newPassword : String)
  | getUser (id : UInt64)
  | getUserByEmail (email : String)
  | getUsers (page : Option PageMessage)
  | getMe (accessToken : String)
  | updateUserProfile (accessToken : String) (patch : ProfilePatch)
deriving DecidableEq

/-- What calls answer. -/
inductive RpcResponse
  | registered (userId : Nat)
  | tokenPair (accessToken refreshToken : String)
  | empty
  | user (u : UserMessage)
  | users (us : List UserMessage)
deriving Repr, DecidableEq

end SignOn
