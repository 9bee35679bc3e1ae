import SignOn.Rpc.Message
import SignOn.Rpc.Metadata
import SignOn.Rpc.Status
import SignOn.Service.Operation
/-!
# Answering calls

`Service.handle` answers a call of either service: it takes the request
from the metadata, carries out the operation, and tells the answer or the
status of the failure. A call that is aborted is not answered.
-/

namespace SignOn

/-- The request that metadata describe. -/
def Metadata.receive (m : Metadata) : Program RequestContext := do
  let fresh ← Program.step .identifier
  let now ← Program.step .clock
  return m.context now fresh

namespace Service

/-- Carries out a call. -/
def serve (s : Service) (ctx : RequestContext) : RpcRequest → Procedure RpcResponse
  | .register email password displayName => do
    let id ← s.register ctx ⟨email, password, displayName⟩
    return .registered (idToWire id)
  | .login email password => do
    let pair ← s.login ctx email password
    return .tokenPair pair.accessToken pair.refreshToken
  | .refreshTokens refreshToken => do
    let pair ← s.refresh ctx refreshToken
    return .tokenPair pair.accessToken pair.refreshToken
  | .logout accessToken => do
    s.logout ctx accessToken
    return .empty
  | .verifyEmail token => do
    s.verifyEmail ctx token
    return .empty
  | .sendVerifyEmailMessage email => do
    s.sendVerifyEmail ctx email
    return .empty
  | .forgetPassword token newPassword => do
    s.forgetPassword ctx token newPassword
    return .empty
  | .sendForgetPasswordMessage email => do
    s.sendForgetPassword ctx email
    return .empty
  | .changePassword accessToken oldPassword newPassword => do
    s.changePassword ctx accessToken oldPassword newPassword
    return .empty
  | .getUser id => do
    let id ← Procedure.expect .accountNotFound (idFromWire? id)
    let account ← getUser ctx id
    return .user (.ofAccount account)
  | .getUserByEmail email => do
    let account ← getUserByEmail ctx email
    return .user (.ofAccount account)
  | .getUsers page => do
    let accounts ← getUsers ctx (page.map PageMessage.page)
    return .users (accounts.map UserMessage.ofAccount)
  | .getMe accessToken => do
    let account ← s.getMe ctx accessToken
    return .user (.ofAccount account)
  | .updateUserProfile accessToken patch => do
    s.updateProfile ctx accessToken patch
    return .empty

/-- Answers a call. -/
def handle (s : Service) (m : Metadata) (request : RpcRequest) :
    Program (Except (Failure Status) RpcResponse) := do
  let ctx ← m.receive
  let result ← (s.serve ctx request).run
  return result.mapError (Failure.map Status.ofError)

end Service

end SignOn
