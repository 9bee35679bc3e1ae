import SignOn.Service.Accounts
import SignOn.Service.Sessions
/-!
# The operations

Everything that can be asked of the service, as one type of requests and
one type of answers.
-/

namespace SignOn

/-- A request to the service. -/
inductive Operation
  | register (input : Registration)
  | login (email password : String)
  | refresh (token : String)
  | logout (token : String)
  | sendVerifyEmail (email : String)
  | verifyEmail (token : String)
  | sendForgetPassword (email : String)
  | forgetPassword (token newPassword : String)
  | changePassword (token oldPassword newPassword : String)
  | getMe (token : String)
  | getUser (id : Int)
  | getUserByEmail (email : String)
  | getUsers (page : Option Page)
  | updateProfile (token : String) (patch : ProfilePatch)
  | purge
deriving DecidableEq

/-- What an operation answers. -/
inductive Answer
  | done
  | id (n : Int)
  | pair (p : TokenPair)
  | account (a : Account)
  | accounts (as : List Account)
  | count (n : Nat)
deriving Repr, DecidableEq

/-- Carries out an operation. -/
def Service.perform (s : Service) (ctx : RequestContext) : Operation → Procedure Answer
  | .register input => .id <$> s.register ctx input
  | .login email password => .pair <$> s.login ctx email password
  | .refresh token => .pair <$> s.refresh ctx token
  | .logout token => (fun _ => .done) <$> s.logout ctx token
  | .sendVerifyEmail email => (fun _ => .done) <$> s.sendVerifyEmail ctx email
  | .verifyEmail token => (fun _ => .done) <$> s.verifyEmail ctx token
  | .sendForgetPassword email => (fun _ => .done) <$> s.sendForgetPassword ctx email
  | .forgetPassword token new => (fun _ => .done) <$> s.forgetPassword ctx token new
  | .changePassword token old new => (fun _ => .done) <$> s.changePassword ctx token old new
  | .getMe token => .account <$> s.getMe ctx token
  | .getUser id => .account <$> getUser ctx id
  | .getUserByEmail email => .account <$> getUserByEmail ctx email
  | .getUsers page => .accounts <$> getUsers ctx page
  | .updateProfile token patch => (fun _ => .done) <$> s.updateProfile ctx token patch
  | .purge => .count <$> purge ctx

end SignOn
